import BuildSpec.Report.Format
import BuildSpec.Text.Blank
import BuildSpec.Text.Digit
import BuildSpec.Text.Search

/-!
# Arguments

The words of a command line are options, values of options, and paths.  A long option may be cut
short as long as it stays clear which one is meant, and its value may follow behind an equals sign.
Two dashes alone end the options.  The paths must stand in one row: once the row is over, further
paths are refused.  A word is first looked at by itself (`Word.ofString`); the row of words is then
read from the left (`readWords`), and asking for help ends the reading.
-/

namespace BuildSpec.CommandLine

/-- The options. -/
inductive Flag where
  | help
  | format
  | logLevel
  deriving DecidableEq, Repr

namespace Flag

/-- The spellings of an option. -/
def spellings : Flag → List String
  | help => ["-h", "--help"]
  | format => ["--format"]
  | logLevel => ["--log-level"]

/-- The options. -/
def all : List Flag := [help, format, logLevel]

/-- All spellings, each with its option. -/
def table : List (String × Flag) := all.flatMap fun f => f.spellings.map (·, f)

/-- The option with a spelling. -/
def ofString? (s : String) : Option Flag := table.lookup s

/-- The spellings of an option in a message. -/
def title (f : Flag) : String := "/".intercalate f.spellings

end Flag

/-- What is wrong with a command line. -/
inductive UsageFault where
  | ambiguous (word : String) (spellings : List String)
  | noValueTaken (flag : Flag) (value : String)
  | valueMissing (flag : Flag)
  | unknownFormat (name : String)
  | unrecognized (words : List String)
  deriving DecidableEq, Repr

/-- The words for a fault. -/
def UsageFault.message : UsageFault → String
  | ambiguous word spellings =>
    "ambiguous option: " ++ word ++ " could match " ++ ", ".intercalate spellings
  | noValueTaken flag value =>
    "argument " ++ flag.title ++ ": ignored explicit argument " ++ Text.quoted value
  | valueMissing flag => "argument " ++ flag.title ++ ": expected one argument"
  | unknownFormat name =>
    "argument " ++ Flag.format.title ++ ": invalid choice: " ++ Text.quoted name
      ++ " (choose from "
      ++ ", ".intercalate (ReportFormat.all.map fun f => Text.quoted f.name) ++ ")"
  | unrecognized words => "unrecognized arguments: " ++ " ".intercalate words

/-- What stands behind the spelling of an option in the same word: nothing, something behind an
equals sign, or more letters. -/
inductive Tail where
  | none
  | value (text : List Char)
  | letters (text : List Char)
  deriving DecidableEq, Repr

/-- A word of the command line.  Where a word may be an option and is not, it is unknown. -/
inductive Word where
  | plain (text : String)
  | divider
  | option (flag : Flag) (isShort : Bool) (tail : Tail)
  | unknown (text : String)
  deriving DecidableEq, Repr

namespace Word

/-- A whole number or a decimal fraction behind a minus sign.  A line feed at the end does not
count. -/
def isNegativeNumber : List Char → Bool
  | '-' :: rest =>
    let body := if rest.getLast? = some '\n' then rest.dropLast else rest
    let isNumber (digits : List Char) : Bool := !digits.isEmpty && digits.all Text.isDigit
    isNumber body || match Text.splitAt '.' body with
      | [whole, fraction] => whole.all Text.isDigit && isNumber fraction
      | _ => false
  | _ => false

/-- A text up to its first equals sign, and what is behind it. -/
def cut (s : List Char) : List Char × Tail :=
  match s.dropWhile (· ≠ '=') with
  | [] => (s, .none)
  | _ :: rest => (s.takeWhile (· ≠ '='), .value rest)

/-- The options that a word with a dash may stand for, with their spellings. -/
def readings (s : List Char) : List (String × Flag × Tail) :=
  match s with
  | '-' :: '-' :: _ =>
    let (name, tail) := cut s
    (Flag.table.filter fun e => name.isPrefixOf e.1.toList).map fun e => (e.1, e.2, tail)
  | _ =>
    Flag.table.filterMap fun (spelling, flag) =>
      if spelling.toList = s.take 2 then some (spelling, flag, .letters (s.drop 2))
      else if s.isPrefixOf spelling.toList then some (spelling, flag, .none)
      else none

/-- Whether a spelling has one dash only. -/
def isShortSpelling (spelling : String) : Bool := spelling.toList.take 2 ≠ ['-', '-']

/-- Looks at a word by itself. -/
def ofString (word : String) : Except UsageFault Word :=
  match word.toList with
  | '-' :: c :: rest =>
    let s := '-' :: c :: rest
    let (name, tail) := cut s
    match Flag.ofString? word, Flag.ofString? (String.ofList name) with
    | some flag, _ => .ok (.option flag (isShortSpelling word) .none)
    | none, some flag => .ok (.option flag (isShortSpelling word) tail)
    | none, none =>
      match readings s with
      | [(spelling, flag, tail)] => .ok (.option flag (isShortSpelling spelling) tail)
      | [] => .ok (if isNegativeNumber s || s.contains ' ' then .plain word else .unknown word)
      | several => .error (.ambiguous word (several.map Prod.fst))
  | _ => .ok (.plain word)

/-- Looks at the words of a command line; behind two dashes all words are plain. -/
def ofStrings : List String → Except UsageFault (List Word)
  | [] => .ok []
  | word :: rest =>
    if word = "--" then .ok (.divider :: rest.map .plain)
    else do
      let first ← ofString word
      return first :: (← ofStrings rest)

/-- The word itself, if it is no option. -/
def text? : Word → Option String
  | plain s => some s
  | divider => some "--"
  | option .. | unknown _ => none

/-- Whether a word can stand in a row of paths. -/
def isInRow (w : Word) : Bool := w.text?.isSome

end Word

/-- What a command line asks for. -/
structure Request where
  format : ReportFormat
  logLevel : Option String
  paths : List String
  deriving DecidableEq, Repr

/-- What reading a command line comes to. -/
inductive Reading where
  | help
  | request (r : Request)
  deriving DecidableEq, Repr

/-- What has been read so far: the row of paths, once it has begun, and the words that nothing can
be made of. -/
structure Progress where
  format : ReportFormat
  logLevel : Option String
  paths : Option (List String)
  extra : List String

namespace Progress

/-- Before the first word. -/
def start : Progress := ⟨.human, none, none, []⟩

/-- Takes a row of words that are no options: they are the paths, without the divider, unless there
has been a row before. -/
def takeRow (p : Progress) (row : List Word) : Progress :=
  match p.paths with
  | none => { p with paths := some ((row.filter (· ≠ .divider)).filterMap Word.text?) }
  | some _ => { p with extra := p.extra ++ row.filterMap Word.text? }

/-- Takes the value of an option. -/
def takeValue (p : Progress) (flag : Flag) (value : String) : Except UsageFault Progress :=
  match flag with
  | .help => .ok p
  | .logLevel => .ok { p with logLevel := some value }
  | .format =>
    match ReportFormat.ofName? value with
    | some format => .ok { p with format }
    | none => .error (.unknownFormat value)

/-- At the end of the command line. -/
def finish (p : Progress) : Except UsageFault Reading :=
  if p.extra.isEmpty then .ok (.request ⟨p.format, p.logLevel, p.paths.getD []⟩)
  else .error (.unrecognized p.extra)

end Progress

/-- Whether help is asked for by letters behind a short option without a value: the option itself
may come again, and letters that are none are left to the end of the reading, which is never
reached. -/
def helpLetters : List Char → Except UsageFault Unit
  | [] => .ok ()
  | '-' :: rest => .error (.noValueTaken .help (String.ofList ('-' :: rest)))
  | 'h' :: '=' :: rest => .error (.noValueTaken .help (String.ofList rest))
  | 'h' :: rest => helpLetters rest
  | _ => .ok ()

/-- Whether help is asked for by the word for it with some tail. -/
def helpAsked (isShort : Bool) : Tail → Except UsageFault Unit
  | .none => .ok ()
  | .letters text => if isShort then helpLetters text else .ok ()
  | .value text => .error (.noValueTaken .help (String.ofList text))

/-- Reads words from the left. -/
def readWords (p : Progress) : List Word → Except UsageFault Reading
  | [] => p.finish
  | .unknown text :: rest => readWords { p with extra := p.extra ++ [text] } rest
  | .option .help isShort tail :: _ => (helpAsked isShort tail).map fun _ => .help
  | .option flag _ (.value text) :: rest => do
    readWords (← p.takeValue flag (String.ofList text)) rest
  | .option flag _ (.letters text) :: rest => do
    readWords (← p.takeValue flag (String.ofList text)) rest
  | .option flag _ .none :: .plain value :: rest => do readWords (← p.takeValue flag value) rest
  | .option flag _ .none :: _ => .error (.valueMissing flag)
  | .plain text :: rest =>
    readWords (p.takeRow (.plain text :: rest.takeWhile Word.isInRow))
      (rest.dropWhile Word.isInRow)
  | .divider :: rest => (p.takeRow (.divider :: rest)).finish
termination_by words => words.length
decreasing_by
  all_goals simp only [List.length_cons]
  all_goals first
    | exact Nat.lt_succ_of_le (List.dropWhile_sublist _).length_le
    | omega

/-- Reads a command line. -/
def read (arguments : List String) : Except UsageFault Reading := do
  readWords .start (← Word.ofStrings arguments)

end BuildSpec.CommandLine
