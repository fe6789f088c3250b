import BuildSpec.Text.Quoted

/-!
# Reading bytes as text

Files are read as UTF-8.  Malformed bytes are refused, with the place and the reason; a reader is
told the longest stretch that could have begun a character.  Line ends of any style become line
feeds.
-/

namespace BuildSpec.Text

/-- Why a stretch of bytes is no character. -/
inductive Utf8Reason where
  | startByte
  | continuation
  | truncated
  deriving DecidableEq, Repr

/-- The words for a reason. -/
def Utf8Reason.message : Utf8Reason → String
  | .startByte => "invalid start byte"
  | .continuation => "invalid continuation byte"
  | .truncated => "unexpected end of data"

/-- A malformed stretch: its first byte, that byte's position, and its length. -/
structure Utf8Fault where
  byte : UInt8
  position : Nat
  length : Nat
  reason : Utf8Reason
  deriving DecidableEq, Repr

/-- The words for a malformed stretch: one byte is shown, several are given by their range. -/
def Utf8Fault.message (f : Utf8Fault) : String :=
  let stretch :=
    if f.length = 1 then
      "byte 0x" ++ String.ofList (hexadecimal 2 f.byte.toNat)
        ++ " in position " ++ toString f.position
    else
      "bytes in position " ++ toString f.position ++ "-" ++ toString (f.position + f.length - 1)
  "'utf-8' codec can't decode " ++ stretch ++ ": " ++ f.reason.message

/-- The six payload bits of a continuation byte. -/
def continuationBits (b : UInt8) : Nat := b.toNat % 0x40

/-- A byte between `0x80` and `0xBF`. -/
def isContinuation (b : UInt8) : Bool := 0x80 ≤ b && b ≤ 0xBF

/-- Whether `b` may follow the first byte of a character of three or four bytes: the ranges leave
out overlong forms, surrogates and code points above `0x10FFFF`. -/
def isSecond (first b : UInt8) : Bool :=
  if first = 0xE0 then 0xA0 ≤ b && b ≤ 0xBF
  else if first = 0xED then 0x80 ≤ b && b ≤ 0x9F
  else if first = 0xF0 then 0x90 ≤ b && b ≤ 0xBF
  else if first = 0xF4 then 0x80 ≤ b && b ≤ 0x8F
  else isContinuation b

/-- The characters of the bytes from `position` on. -/
def decodeFrom (position : Nat) : List UInt8 → Except Utf8Fault (List Char)
  | [] => .ok []
  | a :: rest =>
    let fault (length : Nat) (reason : Utf8Reason) : Except Utf8Fault (List Char) :=
      .error ⟨a, position, length, reason⟩
    if a < 0x80 then
      (decodeFrom (position + 1) rest).map (Char.ofNat a.toNat :: ·)
    else if a < 0xC2 || 0xF4 < a then fault 1 .startByte
    else if a < 0xE0 then
      match rest with
      | [] => fault 1 .truncated
      | b :: rest =>
        if isContinuation b then
          let c := Char.ofNat (a.toNat % 0x20 * 0x40 + continuationBits b)
          (decodeFrom (position + 2) rest).map (c :: ·)
        else fault 1 .continuation
    else if a < 0xF0 then
      match rest with
      | [] => fault 1 .truncated
      | [b] => if isSecond a b then fault 2 .truncated else fault 1 .continuation
      | b :: c :: rest =>
        if !isSecond a b then fault 1 .continuation
        else if !isContinuation c then fault 2 .continuation
        else
          let code := (a.toNat % 0x10 * 0x40 + continuationBits b) * 0x40 + continuationBits c
          (decodeFrom (position + 3) rest).map (Char.ofNat code :: ·)
    else
      match rest with
      | [] => fault 1 .truncated
      | [b] => if isSecond a b then fault 2 .truncated else fault 1 .continuation
      | [b, c] =>
        if !isSecond a b then fault 1 .continuation
        else if !isContinuation c then fault 2 .continuation
        else fault 3 .truncated
      | b :: c :: d :: rest =>
        if !isSecond a b then fault 1 .continuation
        else if !isContinuation c then fault 2 .continuation
        else if !isContinuation d then fault 3 .continuation
        else
          let code := ((a.toNat % 0x08 * 0x40 + continuationBits b) * 0x40
            + continuationBits c) * 0x40 + continuationBits d
          (decodeFrom (position + 4) rest).map (Char.ofNat code :: ·)

/-- The characters that a row of bytes encodes. -/
def decodeUtf8 (bytes : List UInt8) : Except Utf8Fault (List Char) := decodeFrom 0 bytes

/-- A carriage return, with or without a line feed after it, becomes a line feed. -/
def unifyLineEnds : List Char → List Char
  | '\r' :: '\n' :: rest => '\n' :: unifyLineEnds rest
  | '\r' :: rest => '\n' :: unifyLineEnds rest
  | c :: rest => c :: unifyLineEnds rest
  | [] => []

/-- A text file's content. -/
def readText (bytes : List UInt8) : Except Utf8Fault String :=
  (decodeUtf8 bytes).map fun s => String.ofList (unifyLineEnds s)

end BuildSpec.Text
