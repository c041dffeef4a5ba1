import SceneLang.Json.Basic
import SceneLang.Decimal.Binary

/-!
# Reading JSON text

`Json.parse` reads one document and nothing after it.  Beyond the standard it accepts `NaN`,
`Infinity` and `-Infinity`; a field given twice keeps its first place and takes the last value.  A
failure names its cause and the offset of the character where it was noticed.

Every step takes characters off the front of the text, so the length of the text is fuel enough
(`parse` supplies it).
-/

namespace SceneLang.Json

/-- Why a text is no document. -/
inductive TextFault where
  | byteOrderMark
  | expectingValue
  | expectingName
  | expectingColon
  | expectingComma
  | unterminatedString
  | controlCharacter
  | badEscape
  | badCodeEscape
  | extraData
  deriving Repr, DecidableEq

/-- The wording of a fault. -/
def TextFault.message : TextFault → String
  | .byteOrderMark => "Unexpected UTF-8 BOM (decode using utf-8-sig)"
  | .expectingValue => "Expecting value"
  | .expectingName => "Expecting property name enclosed in double quotes"
  | .expectingColon => "Expecting ':' delimiter"
  | .expectingComma => "Expecting ',' delimiter"
  | .unterminatedString => "Unterminated string starting at"
  | .controlCharacter => "Invalid control character at"
  | .badEscape => "Invalid \\escape"
  | .badCodeEscape => "Invalid \\uXXXX escape"
  | .extraData => "Extra data"

/-- **A failure to read a text**: the fault and where it was noticed. -/
structure TextError where
  fault : TextFault
  /-- One-based line of the offset. -/
  line : Nat
  /-- One-based column of the offset in its line. -/
  column : Nat
  offset : Nat
  deriving Repr, DecidableEq

/-- The wording of a failure, with its place. -/
def TextError.message (e : TextError) : String :=
  s!"{e.fault.message}: line {e.line} column {e.column} (char {e.offset})"

/-- While reading, a place is the text that remains there. -/
abbrev Failure := TextFault × List Char

/-- White space between the parts of a document. -/
def isSpace (c : Char) : Bool := c == ' ' || c == '\t' || c == '\n' || c == '\r'

/-- The text after leading white space. -/
def skip (s : List Char) : List Char := s.dropWhile isSpace

/-! ### Numbers -/

/-- The number written by decimal digits, in front of those read so far. -/
def readDigits (n : Nat) (ds : List Char) : Nat :=
  ds.foldl (fun n c => n * 10 + (c.toNat - '0'.toNat)) n

/-- The leading decimal digits of a text, and the rest. -/
def spanDigits (s : List Char) : List Char × List Char :=
  (s.takeWhile Char.isDigit, s.dropWhile Char.isDigit)

/-- The digits after a point, if a point with a digit follows. -/
def readFraction (s : List Char) : Option (List Char) × List Char :=
  match s with
  | '.' :: c :: rest =>
    if c.isDigit then
      let (ds, rest) := spanDigits (c :: rest)
      (some ds, rest)
    else (none, s)
  | _ => (none, s)

/-- The value of an exponent part, if a complete one follows. -/
def readExponent (s : List Char) : Option Int × List Char :=
  match s with
  | e :: rest =>
    if e = 'e' ∨ e = 'E' then
      let (negative, digits) := match rest with
        | '-' :: rest => (true, rest)
        | '+' :: rest => (false, rest)
        | rest => (false, rest)
      match spanDigits digits with
      | ([], _) => (none, s)
      | (ds, rest) =>
        let n : Int := readDigits 0 ds
        (some (if negative then -n else n), rest)
    else (none, s)
  | [] => (none, s)

/-- The digits of the whole part: a single zero, or digits that start with another one. -/
def readWhole (s : List Char) : Option (List Char × List Char) :=
  match s with
  | '0' :: rest => some (['0'], rest)
  | c :: _ => if c.isDigit then some (spanDigits s) else none
  | [] => none

/-- **A number.**  It is whole unless it has a fraction or an exponent. -/
def number? (s : List Char) : Option (Json × List Char) :=
  let (negative, body) := match s with
    | '-' :: rest => (true, rest)
    | s => (false, s)
  (readWhole body).map fun (whole, rest) =>
    let (fraction, rest) := readFraction rest
    let (exponent, rest) := readExponent rest
    match fraction, exponent with
    | none, none =>
      let n : Int := readDigits 0 whole
      (.int (if negative then -n else n), rest)
    | _, _ =>
      let ds := fraction.getD []
      let digits := readDigits (readDigits 0 whole) ds
      (.float (Decimal.ofDecimal negative digits (exponent.getD 0 - ds.length)), rest)

/-! ### Texts -/

/-- The value of an ASCII hexadecimal digit. -/
def hexDigit? (c : Char) : Option Nat :=
  if c.isDigit then some (c.toNat - '0'.toNat)
  else if 'a' ≤ c ∧ c ≤ 'f' then some (c.toNat - 'a'.toNat + 10)
  else if 'A' ≤ c ∧ c ≤ 'F' then some (c.toNat - 'A'.toNat + 10)
  else none

/-- The code unit written by four hexadecimal digits. -/
def codeUnit? (a b c d : Char) : Option Nat := do
  let a ← hexDigit? a
  let b ← hexDigit? b
  let c ← hexDigit? c
  let d ← hexDigit? d
  return ((a * 16 + b) * 16 + c) * 16 + d

/-- What a letter after a backslash stands for. -/
def simpleEscape? : Char → Option Char
  | '"' => some '"'
  | '\\' => some '\\'
  | '/' => some '/'
  | 'b' => some '\x08'
  | 'f' => some '\x0C'
  | 'n' => some '\n'
  | 'r' => some '\r'
  | 't' => some '\t'
  | _ => none

/-- The character of a code unit; half of a surrogate pair has none, and the replacement character
stands for it. -/
def unitChar (n : Nat) : Char :=
  if 0xD800 ≤ n ∧ n ≤ 0xDFFF then '\uFFFD' else Char.ofNat n

/-- The low surrogate that follows a high one, if the next escape is one: the code units together
make one character.  An escape that is not hexadecimal is a fault, also here. -/
def lowSurrogate? (s : List Char) : Except Failure (Option (Nat × List Char)) :=
  match s with
  | '\\' :: 'u' :: a :: b :: c :: d :: next :: rest =>
    match codeUnit? a b c d with
    | none => .error (.badCodeEscape, s.drop 1)
    | some n => if 0xDC00 ≤ n ∧ n ≤ 0xDFFF then .ok (some (n, next :: rest)) else .ok none
  | _ => .ok none

/-- The rest after a low surrogate is shorter. -/
theorem lowSurrogate?_length {s rest : List Char} {n : Nat}
    (h : lowSurrogate? s = .ok (some (n, rest))) : rest.length < s.length := by
  unfold lowSurrogate? at h
  split at h
  · split at h
    · simp at h
    · split at h
      · simp only [Except.ok.injEq, Option.some.injEq, Prod.mk.injEq] at h
        obtain ⟨-, rfl⟩ := h
        simp
      · simp at h
  · simp at h

/-- The characters of a text up to its closing quote, with those read so far in reverse.  `start`
is the place of the opening quote. -/
def readString (start : List Char) (done : List Char) (s : List Char) :
    Except Failure (String × List Char) :=
  match s with
  | [] => .error (.unterminatedString, start)
  | '"' :: rest => .ok (String.ofList done.reverse, rest)
  | '\\' :: [] => .error (.unterminatedString, start)
  | '\\' :: 'u' :: rest =>
    match rest with
    | a :: b :: c :: d :: next :: rest' =>
      match codeUnit? a b c d with
      | none => .error (.badCodeEscape, 'u' :: rest)
      | some n =>
        if 0xD800 ≤ n ∧ n ≤ 0xDBFF then
          match h : lowSurrogate? (next :: rest') with
          | .error e => .error e
          | .ok (some (low, rest'')) =>
            have := lowSurrogate?_length h
            readString start
              (Char.ofNat (0x10000 + (n - 0xD800) * 0x400 + (low - 0xDC00)) :: done) rest''
          | .ok none => readString start (unitChar n :: done) (next :: rest')
        else readString start (unitChar n :: done) (next :: rest')
    | _ => .error (.badCodeEscape, 'u' :: rest)
  | '\\' :: c :: rest =>
    match simpleEscape? c with
    | none => .error (.badEscape, s)
    | some c => readString start (c :: done) rest
  | c :: rest =>
    if c.toNat < 0x20 then .error (.controlCharacter, s)
    else readString start (c :: done) rest
termination_by s.length
decreasing_by all_goals simp_all; try omega

/-! ### Documents -/

/-- A word with a fixed meaning at the front of the text. -/
def word? (s : List Char) : Option (Json × List Char) :=
  match s with
  | 'n' :: 'u' :: 'l' :: 'l' :: rest => some (.null, rest)
  | 't' :: 'r' :: 'u' :: 'e' :: rest => some (.bool true, rest)
  | 'f' :: 'a' :: 'l' :: 's' :: 'e' :: rest => some (.bool false, rest)
  | 'N' :: 'a' :: 'N' :: rest => some (.float (0.0 / 0.0), rest)
  | 'I' :: 'n' :: 'f' :: 'i' :: 'n' :: 'i' :: 't' :: 'y' :: rest => some (.float (1.0 / 0.0), rest)
  | '-' :: 'I' :: 'n' :: 'f' :: 'i' :: 'n' :: 'i' :: 't' :: 'y' :: rest =>
    some (.float (-(1.0 / 0.0)), rest)
  | _ => none

mutual

/-- **A document at the front of the text.** -/
def value (fuel : Nat) (s : List Char) :
    Except Failure (Json × List Char) :=
  match fuel with
  | 0 => .error (.expectingValue, s)
  | fuel + 1 =>
    match s with
    | '"' :: rest => do
      let (text, rest) ← readString s [] rest
      return (.str text, rest)
    | '[' :: rest =>
      match skip rest with
      | ']' :: rest => .ok (.arr [], rest)
      | rest => items fuel [] rest
    | '\x7b' :: rest =>
      match skip rest with
      | '\x7d' :: rest => .ok (.obj [], rest)
      | rest => fields fuel [] rest
    | s =>
      match word? s with
      | some r => .ok r
      | none =>
        match number? s with
        | some r => .ok r
        | none => .error (.expectingValue, s)

/-- The items of a list, those read so far in reverse. -/
def items (fuel : Nat) (done : List Json) (s : List Char) :
    Except Failure (Json × List Char) :=
  match fuel with
  | 0 => .error (.expectingValue, s)
  | fuel + 1 => do
    let (item, rest) ← value fuel s
    match skip rest with
    | ']' :: rest => return (.arr (item :: done).reverse, rest)
    | ',' :: rest => items fuel (item :: done) (skip rest)
    | rest => throw (.expectingComma, rest)

/-- The fields of an object, after those read so far. -/
def fields (fuel : Nat) (done : List (String × Json)) (s : List Char) :
    Except Failure (Json × List Char) :=
  match fuel with
  | 0 => .error (.expectingName, s)
  | fuel + 1 =>
    match s with
    | '"' :: rest => do
      let (name, rest) ← readString s [] rest
      match skip rest with
      | ':' :: rest =>
        let (item, rest) ← value fuel (skip rest)
        let done := setField name item done
        match skip rest with
        | '\x7d' :: rest => return (.obj done, rest)
        | ',' :: rest => fields fuel done (skip rest)
        | rest => throw (.expectingComma, rest)
      | rest => throw (.expectingColon, rest)
    | _ => .error (.expectingName, s)

end

/-- The place of the character where `remaining` begins. -/
def errorAt (whole : List Char) (fault : TextFault) (remaining : List Char) : TextError :=
  let offset := whole.length - remaining.length
  let before := whole.take offset
  { fault
    line := before.count '\n' + 1
    column := (before.reverse.takeWhile (· ≠ '\n')).length + 1
    offset }

/-- **The document that a text holds**, and nothing but white space after it. -/
def parse (text : String) : Except TextError Json :=
  let s := text.toList
  match s with
  | '\uFEFF' :: _ => .error (errorAt s .byteOrderMark s)
  | _ =>
    match value (2 * s.length + 1) (skip s) with
    | .error (fault, rest) => .error (errorAt s fault rest)
    | .ok (j, rest) =>
      match skip rest with
      | [] => .ok j
      | rest => .error (errorAt s .extraData rest)

end SceneLang.Json
