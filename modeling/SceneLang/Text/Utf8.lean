import SceneLang.Text.Quoted

/-!
# Reading UTF-8

`decode` turns bytes into characters or names the first fault: a byte that starts no character, a
byte that does not continue the one begun, or a character cut off by the end.  Overlong forms,
surrogates and code points past the last one are faults of the second byte, as only some second
bytes may follow `E0`, `ED`, `F0` and `F4`.
-/

namespace SceneLang.Text

/-- What is wrong with a byte sequence. -/
inductive Utf8Fault where
  | invalidStart
  | invalidContinuation
  | unexpectedEnd
  deriving Repr, DecidableEq

/-- The bytes that cannot be read: the position of the first, how many they are, and the value of
the first. -/
structure Utf8Error where
  fault : Utf8Fault
  position : Nat
  length : Nat
  byte : Nat
  deriving Repr, DecidableEq

/-- The wording of a fault. -/
def Utf8Fault.message : Utf8Fault → String
  | .invalidStart => "invalid start byte"
  | .invalidContinuation => "invalid continuation byte"
  | .unexpectedEnd => "unexpected end of data"

/-- The wording of a failure to read. -/
def Utf8Error.message (e : Utf8Error) : String :=
  if e.length = 1 then
    s!"'utf-8' codec can't decode byte 0x{String.ofList (hexPadded 2 e.byte)} in position {e.position}: {e.fault.message}"
  else
    s!"'utf-8' codec can't decode bytes in position {e.position}-{e.position + e.length - 1}: {e.fault.message}"

/-- A byte that continues a character. -/
def isContinuation (b : Nat) : Bool := 0x80 ≤ b && b ≤ 0xBF

/-- Whether `b` may be the second byte after the first byte `a`. -/
def isSecond (a b : Nat) : Bool :=
  isContinuation b &&
    (a != 0xE0 || 0xA0 ≤ b) && (a != 0xED || b ≤ 0x9F) &&
    (a != 0xF0 || 0x90 ≤ b) && (a != 0xF4 || b ≤ 0x8F)

/-- One step of reading: a character with the number of bytes it took, or a fault with the number
of bytes it covers. -/
def decodeStep (a : Nat) (rest : List Nat) : Except (Utf8Fault × Nat) (Char × Nat) :=
  if a < 0x80 then .ok (Char.ofNat a, 1)
  else if a < 0xC2 ∨ 0xF4 < a then .error (.invalidStart, 1)
  else match rest with
    | [] => .error (.unexpectedEnd, 1)
    | b :: rest =>
      if !isSecond a b then .error (.invalidContinuation, 1)
      else if a < 0xE0 then .ok (Char.ofNat ((a - 0xC0) * 0x40 + (b - 0x80)), 2)
      else match rest with
        | [] => .error (.unexpectedEnd, 2)
        | c :: rest =>
          if !isContinuation c then .error (.invalidContinuation, 2)
          else if a < 0xF0 then
            .ok (Char.ofNat ((a - 0xE0) * 0x1000 + (b - 0x80) * 0x40 + (c - 0x80)), 3)
          else match rest with
            | [] => .error (.unexpectedEnd, 3)
            | d :: _ =>
              if !isContinuation d then .error (.invalidContinuation, 3)
              else .ok (Char.ofNat ((a - 0xF0) * 0x40000 + (b - 0x80) * 0x1000 + (c - 0x80) * 0x40
                + (d - 0x80)), 4)

/-- Read on from `position`, skipping `skip` bytes that belong to the character just read; `done`
holds the characters so far, last first. -/
def decodeFrom (position skip : Nat) (done : List Char) : List Nat → Except Utf8Error (List Char)
  | [] => .ok done.reverse
  | a :: rest =>
    match skip with
    | skip + 1 => decodeFrom (position + 1) skip done rest
    | 0 =>
      match decodeStep a rest with
      | .ok (c, used) => decodeFrom (position + 1) (used - 1) (c :: done) rest
      | .error (fault, length) => .error ⟨fault, position, length, a⟩

/-- **The characters of a byte sequence**, or the first fault in it. -/
def decodeUtf8 (bytes : List Nat) : Except Utf8Error String :=
  (decodeFrom 0 0 [] bytes).map String.ofList

/-- Every line break, written as a line feed, a carriage return or both, as one line feed. -/
def unifyLineBreaks : List Char → List Char
  | '\r' :: '\n' :: rest => '\n' :: unifyLineBreaks rest
  | '\r' :: rest => '\n' :: unifyLineBreaks rest
  | c :: rest => c :: unifyLineBreaks rest
  | [] => []

end SceneLang.Text
