import SceneLang.Json.Basic
import SceneLang.Decimal.Layout
import SceneLang.Text.Quoted

/-!
# Documents in messages

A message that quotes a document shows it as a literal: texts in quotes, whole numbers without and
fractions always with a point or an exponent, `True`, `False` and `None`, lists in brackets and
objects in braces.
-/

namespace SceneLang

/-- **Numbers in messages and in printed output**: positional from `1e-4` up to below `1e16`, the
point kept on whole values, and exponents of at least two digits. -/
def numberLayout : Decimal.Layout where
  positionalFrom := -4
  positionalUntil := 16
  wholeMark := ".0"
  exponentWidth := 2
  nan := "nan"
  infinity := "inf"

/-- The words for truth values. -/
def truthWord (b : Bool) : String := if b then "True" else "False"

namespace Json

mutual

/-- **A document as a literal.** -/
def literal : Json → String
  | .null => "None"
  | .bool b => truthWord b
  | .int n => toString n
  | .float x => numberLayout.write x
  | .str s => Text.quoted s
  | .arr items => "[" ++ ", ".intercalate (literals items) ++ "]"
  | .obj fields => "\x7b" ++ ", ".intercalate (fieldLiterals fields) ++ "\x7d"

/-- The literals of the items of a list. -/
def literals : List Json → List String
  | [] => []
  | j :: rest => literal j :: literals rest

/-- The literals of the fields of an object. -/
def fieldLiterals : List (String × Json) → List String
  | [] => []
  | (name, value) :: rest => (Text.quoted name ++ ": " ++ literal value) :: fieldLiterals rest

end

/-- **A document as text**: a text stands for itself, anything else is a literal. -/
def text : Json → String
  | .str s => s
  | j => j.literal

/-- The word for a kind of document. -/
def kindWord : Json → String
  | .null => "NoneType"
  | .bool _ => "bool"
  | .int _ => "int"
  | .float _ => "float"
  | .str _ => "str"
  | .arr _ => "list"
  | .obj _ => "dict"

end Json

end SceneLang
