import SceneLang.Json.Basic
import SceneLang.Decimal.Layout
import SceneLang.Text.Quoted

/-!
# Writing JSON text

Two ways to write a document, which differ in white space only: `Json.compact` on one line and
`Json.indented` with one item a line.  Texts are written in ASCII, other characters by their UTF-16
code units.
-/

namespace SceneLang.Json

/-- Numbers in JSON text: the shortest digits, and the names JSON readers use for what is not
finite. -/
def textLayout : Decimal.Layout where
  positionalFrom := -4
  positionalUntil := 16
  wholeMark := ".0"
  exponentWidth := 2
  nan := "NaN"
  infinity := "Infinity"

/-- The escape of a UTF-16 code unit. -/
def unitEscape (n : Nat) : List Char := '\\' :: 'u' :: Text.hexPadded 4 n

/-- One character of a text, in ASCII. -/
def escapeAscii (c : Char) : List Char :=
  if c = '"' ∨ c = '\\' then ['\\', c]
  else if c = '\n' then ['\\', 'n']
  else if c = '\r' then ['\\', 'r']
  else if c = '\t' then ['\\', 't']
  else if c = '\x0C' then ['\\', 'f']
  else if c = '\x08' then ['\\', 'b']
  else if 0x20 ≤ c.toNat ∧ c.toNat < 0x7F then [c]
  else if c.toNat < 0x10000 then unitEscape c.toNat
  else
    let n := c.toNat - 0x10000
    unitEscape (0xD800 + n / 0x400) ++ unitEscape (0xDC00 + n % 0x400)

/-- **A text in double quotes**, in ASCII. -/
def quote (s : String) : String :=
  String.ofList ('"' :: s.toList.flatMap escapeAscii ++ ['"'])

/-- A document without parts. -/
def scalar : Json → String
  | .null => "null"
  | .bool b => if b then "true" else "false"
  | .int n => toString n
  | .float x => textLayout.write x
  | .str s => quote s
  | .arr _ => "[]"
  | .obj _ => "\x7b\x7d"

mutual

/-- **A document on one line.** -/
def compact : Json → String
  | .arr items => "[" ++ ", ".intercalate (compactItems items) ++ "]"
  | .obj fields => "\x7b" ++ ", ".intercalate (compactFields fields) ++ "\x7d"
  | j => scalar j

/-- The items of a list. -/
def compactItems : List Json → List String
  | [] => []
  | j :: rest => compact j :: compactItems rest

/-- The fields of an object. -/
def compactFields : List (String × Json) → List String
  | [] => []
  | (name, value) :: rest => (quote name ++ ": " ++ compact value) :: compactFields rest

end

/-- A line break and the indentation of the given depth, two blanks a level. -/
def lineBreak (depth : Nat) : String :=
  String.ofList ('\n' :: List.replicate (2 * depth) ' ')

mutual

/-- **A document with one item a line**, its parts indented one level more than `depth`. -/
def indentedAt (depth : Nat) : Json → String
  | .arr [] => "[]"
  | .arr items =>
    "[" ++ lineBreak (depth + 1)
      ++ ("," ++ lineBreak (depth + 1)).intercalate (indentedItems (depth + 1) items)
      ++ lineBreak depth ++ "]"
  | .obj [] => "\x7b\x7d"
  | .obj fields =>
    "\x7b" ++ lineBreak (depth + 1)
      ++ ("," ++ lineBreak (depth + 1)).intercalate (indentedFields (depth + 1) fields)
      ++ lineBreak depth ++ "\x7d"
  | j => scalar j

/-- The items of a list. -/
def indentedItems (depth : Nat) : List Json → List String
  | [] => []
  | j :: rest => indentedAt depth j :: indentedItems depth rest

/-- The fields of an object. -/
def indentedFields (depth : Nat) : List (String × Json) → List String
  | [] => []
  | (name, value) :: rest =>
    (quote name ++ ": " ++ indentedAt depth value) :: indentedFields depth rest

end

/-- **A document with one item a line.** -/
def indented (j : Json) : String := indentedAt 0 j

end SceneLang.Json
