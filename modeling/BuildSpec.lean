import BuildSpec.Main
import BuildSpec.Schema.Library
import BuildSpec.SourceMap.Search
import BuildSpec.SpecFile.Session
import BuildSpec.Spec.Descent
import BuildSpec.Spec.Inquiry
import BuildSpec.Spec.Review
import BuildSpec.Template
import BuildSpec.Proofs.Audit.Descent
import BuildSpec.Proofs.Audit.Growth
import BuildSpec.Proofs.Audit.IncludeChains
import BuildSpec.Proofs.Audit.Inquiry
import BuildSpec.Proofs.Audit.LiteralKeys
import BuildSpec.Proofs.Audit.NestedSettings
import BuildSpec.Proofs.Audit.References
import BuildSpec.Proofs.Audit.Reordering
import BuildSpec.Proofs.Audit.Rings
import BuildSpec.Proofs.CommandLine.Overlap
import BuildSpec.Proofs.CommandLine.Streams
import BuildSpec.Proofs.Log.Split
import BuildSpec.Proofs.Pointer
import BuildSpec.Proofs.Pointer.Decoding
import BuildSpec.Proofs.Report.Markdown
import BuildSpec.Proofs.Report.Workflow
import BuildSpec.Proofs.Schema.Acceptance
import BuildSpec.Proofs.Schema.IssueOrder
import BuildSpec.Proofs.SourceMap
import BuildSpec.Proofs.SpecFile.Agreement
import BuildSpec.Proofs.SpecFile.Isolation
import BuildSpec.Proofs.SpecFile.Located
import BuildSpec.Proofs.SpecFile.Lookup
import BuildSpec.Proofs.SpecFile.ScalarKeys
import BuildSpec.Proofs.SpecFile.Session
import BuildSpec.Proofs.Version.Check
import BuildSpec.Proofs.Yaml.Keys
import BuildSpec.Proofs.Yaml.SameTree
import BuildSpec.Proofs.Yaml.Ways
import BuildSpec.Proofs.Spec.Nulls
import BuildSpec.Proofs.Spec.Refusals
import BuildSpec.Proofs.Spec.Names
import BuildSpec.Proofs.Text.Utf8
import BuildSpec.Proofs.Yaml.LexerFaults
import BuildSpec.Proofs.Yaml.GrammarFaults
import BuildSpec.Proofs.Yaml.Faults
import BuildSpec.Proofs.SpecFile.LoadFaults
