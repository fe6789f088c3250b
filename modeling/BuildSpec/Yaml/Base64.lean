/-!
# Bytes in base sixty-four

Four letters stand for three bytes, and equals signs fill up the last group.  Other characters do
not count.  Reading stops where a group is filled up; a text that ends inside a group is refused.
-/

namespace BuildSpec.Yaml.Base64

/-- The value of a letter. -/
def letter? (c : Char) : Option Nat :=
  if 'A' ≤ c ∧ c ≤ 'Z' then some (c.toNat - 'A'.toNat)
  else if 'a' ≤ c ∧ c ≤ 'z' then some (c.toNat - 'a'.toNat + 26)
  else if '0' ≤ c ∧ c ≤ '9' then some (c.toNat - '0'.toNat + 52)
  else if c = '+' then some 62
  else if c = '/' then some 63
  else none

/-- The bytes from some place in a group on: `place` letters of the group have been read, the bits
of the last one that no byte has used are `left`, and `fill` equals signs stand behind it. -/
def decodeFrom (place left fill : Nat) : List Char → Option (List UInt8)
  | [] => if place = 0 then some [] else none
  | c :: rest =>
    if c = '=' then
      if 2 ≤ place then
        if 4 ≤ place + fill + 1 then some [] else decodeFrom place left (fill + 1) rest
      else decodeFrom place left fill rest
    else match letter? c with
      | none => decodeFrom place left fill rest
      | some v =>
        match place with
        | 0 => decodeFrom 1 v 0 rest
        | 1 => (decodeFrom 2 (v % 16) 0 rest).map ((left * 4 + v / 16).toUInt8 :: ·)
        | 2 => (decodeFrom 3 (v % 4) 0 rest).map ((left * 16 + v / 4).toUInt8 :: ·)
        | _ => (decodeFrom 0 0 0 rest).map ((left * 64 + v).toUInt8 :: ·)

/-- The bytes that a text stands for, if it is ASCII and its last group is complete. -/
def decode? (s : List Char) : Option (List UInt8) :=
  if s.all fun c => c.toNat < 0x80 then decodeFrom 0 0 0 s else none

end BuildSpec.Yaml.Base64
