import BuildSpec.Number.Text
import BuildSpec.Table
import BuildSpec.Value.Basic

/-!
# Equality of values

Numbers are equal if they denote the same number, whatever their kind, and a truth value counts as
one or zero.  Sequences and mappings are compared part by part.  A floating-point value that is not
a number equals nothing, itself included.
-/

namespace BuildSpec.Value

/-- A number as a fraction `n / 2 ^ k`, for the values that denote finite numbers. -/
def asNumber? : Value → Option (Int × Nat)
  | bool b => some (if b then 1 else 0, 0)
  | int n => some (n, 0)
  | float x =>
    if x.isNaN || x.isInf then none
    else
      let (negative, size) := Number.finiteParts x
      match size with
      | none => some (0, 0)
      | some b =>
        let n : Int := b.mantissa * Nat.pow 2 b.exponent.toNat
        some (if negative then -n else n, (-b.exponent).toNat)
  | _ => none

/-- Equality of fractions with denominators that are powers of two. -/
def sameNumber (a b : Int × Nat) : Bool := a.1 * Nat.pow 2 b.2 == b.1 * Nat.pow 2 a.2

/-- Equality of scalars. -/
def sameScalar (a b : Value) : Bool :=
  match a, b with
  | null, null => true
  | text s, text t => s == t
  | bytes s, bytes t => s == t
  | day d, day e => d == e
  | moment m, moment n => m.same n
  | float x, float y => x == y
  | a, b =>
    match a.asNumber?, b.asNumber? with
    | some m, some n => sameNumber m n
    | _, _ => false

/-- A floating-point value that is not a number. -/
def isNotANumber : Value → Bool
  | float x => x.isNaN
  | _ => false

/-- The value under a key of a mapping. -/
def find? (entries : Entries) (key : Value) : Option Value :=
  (entries.find? fun e => sameScalar e.1 key).map Prod.snd

/-- The mapping that results from writing entries one after another. -/
def mapOf (entries : Entries) : Entries := Table.ofEntries sameScalar entries

/-- The value under a text key. -/
def field? (entries : Entries) (key : String) : Option Value :=
  (entries.find? fun e => match e.1 with
    | text s => s == key
    | _ => false).map Prod.snd

/-- The value under a text key, null if there is none. -/
def field (entries : Entries) (key : String) : Value := (field? entries key).getD null

/-- Whether a mapping has a text key. -/
def hasField (entries : Entries) (key : String) : Bool := (field? entries key).isSome

mutual

/-- Equality of values of which one comes from a schema: a truth value equals no number here, and
a row of bytes counts as a list of numbers. -/
def equalData : Value → Value → Bool
  | bool a, bool b => a == b
  | bool _, _ => false
  | _, bool _ => false
  | list xs, list ys => equalItems xs ys
  | list xs, tuple ys => equalItems xs ys
  | tuple xs, list ys => equalItems xs ys
  | tuple xs, tuple ys => equalItems xs ys
  | list xs, bytes b => equalItems xs (b.map fun x => int x.toNat)
  | tuple xs, bytes b => equalItems xs (b.map fun x => int x.toNat)
  | bytes b, list ys => equalBytes b ys
  | bytes b, tuple ys => equalBytes b ys
  | set xs, set ys => xs.length == ys.length && xs.all fun x => ys.any (sameScalar x)
  | map xs, map ys => xs.length == ys.length && equalEntries xs ys
  | a, b => sameScalar a b

/-- Equality of sequences, item by item. -/
def equalItems : List Value → List Value → Bool
  | [], [] => true
  | x :: xs, y :: ys => equalData x y && equalItems xs ys
  | _, _ => false

/-- Whether each entry of a mapping is in the other one, under the same key. -/
def equalEntries : Entries → Entries → Bool
  | [], _ => true
  | (k, v) :: rest, ys =>
    (match find? ys k with
      | some w => equalData v w
      | none => false) && equalEntries rest ys

/-- Equality of a row of bytes with a sequence of numbers. -/
def equalBytes (b : List UInt8) (ys : List Value) : Bool :=
  b.length == ys.length && (b.zip ys).all fun p => match p.2 with
    | bool _ => false
    | y => sameScalar (int p.1.toNat) y

end

end BuildSpec.Value
