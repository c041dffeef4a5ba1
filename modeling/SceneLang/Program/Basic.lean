import SceneLang.Geometry.Color
import SceneLang.Source.Range

/-!
# Programs

The syntax tree that the evaluator runs.  Every part carries the range of the source it was parsed
from, so that an error can point at it.  The expression for a bare name has one range, which is also
the range of the name.
-/

namespace SceneLang

/-- **A name as written in the source.** -/
structure Identifier where
  range : SourceRange
  name : String
  deriving Repr, DecidableEq, Inhabited

/-- The signs that can stand before a number. -/
inductive PrefixOperator where
  | minus
  | plus
  deriving Repr, DecidableEq, Inhabited

/-- The four operations. -/
inductive InfixOperator where
  | plus
  | minus
  | times
  | divide
  deriving Repr, DecidableEq, Inhabited

/-- How a sign is written. -/
def PrefixOperator.text : PrefixOperator → String
  | .minus => "-"
  | .plus => "+"

/-- How an operation is written. -/
def InfixOperator.text : InfixOperator → String
  | .plus => "+"
  | .minus => "-"
  | .times => "*"
  | .divide => "/"

mutual

/-- **Expressions.** -/
inductive Expr where
  | number (range : SourceRange) (value : Float)
  | string (range : SourceRange) (value : String)
  | color (range : SourceRange) (value : Color Float)
  /-- A bare name. -/
  | identifier (range : SourceRange) (name : String)
  /-- A block call: `cube { size 2 }`. -/
  | block (range : SourceRange) (callee : Identifier) (body : Block)
  /-- Expressions in a row, which is also how the arguments of a command are given. -/
  | tuple (range : SourceRange) (items : List Expr)
  | prefixed (range : SourceRange) (operator : PrefixOperator) (operand : Expr)
  | infixed (range : SourceRange) (left : Expr) (operator : InfixOperator) (right : Expr)
  /-- `start to end step step`. -/
  | range (range : SourceRange) (first last : Expr) (step : Option Expr)
  | member (range : SourceRange) (object : Expr) (member : Identifier)
  /-- An expression in parentheses. -/
  | sub (range : SourceRange) (inner : Expr)

/-- **Statements between braces.** -/
inductive Block where
  | mk (range : SourceRange) (statements : List Statement)

/-- **Statements.** -/
inductive Statement where
  /-- A name, with or without an argument: a command, property, block or constant. -/
  | command (range : SourceRange) (callee : Identifier) (parameter : Option Expr)
  | block (range : SourceRange) (callee : Identifier) (body : Block)
  | expression (range : SourceRange) (expression : Expr)
  | define (range : SourceRange) (name : Identifier) (definition : Definition)
  /-- An option with its default, which has a meaning only in the body of a definition. -/
  | option (range : SourceRange) (name : Identifier) (default : Expr)
  /-- A loop, with or without a variable. -/
  | loop (range : SourceRange) (binder? : Option Identifier) (sequence : Expr) (body : Block)
  | importFile (range : SourceRange) (file : Expr)

/-- What a name is defined as. -/
inductive Definition where
  | expression (value : Expr)
  | block (body : Block)

end

instance : Inhabited Expr := ⟨.number default 0⟩
instance : Inhabited Block := ⟨.mk default []⟩
instance : Inhabited Statement := ⟨.expression default default⟩
instance : Inhabited Definition := ⟨.expression default⟩

/-- The range of an expression. -/
def Expr.sourceRange : Expr → SourceRange
  | .number r _ | .string r _ | .color r _ | .identifier r _ | .block r _ _ | .tuple r _
  | .prefixed r _ _ | .infixed r _ _ _ | .range r _ _ _ | .member r _ _ | .sub r _ => r

/-- The range of a block. -/
def Block.sourceRange : Block → SourceRange
  | .mk r _ => r

/-- The statements of a block. -/
def Block.statements : Block → List Statement
  | .mk _ ss => ss

/-- **A program** with the source it was parsed from. -/
structure Program where
  source : String
  statements : List Statement
  deriving Inhabited

/-- The words that start or divide statements. -/
def keywords : List String := ["define", "option", "for", "in", "to", "step", "import"]

end SceneLang
