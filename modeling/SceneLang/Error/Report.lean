import SceneLang.Error.Message
import SceneLang.Json.Basic
import SceneLang.Source.Location

/-!
# Error reports

An error is shown with the line it points into, underlined, or given as a document to other tools.
-/

namespace SceneLang.ScriptError

/-- A number in a column of three characters. -/
def inColumn (n : Nat) : String :=
  let s := toString n
  String.ofList (List.replicate (3 - s.length) ' ') ++ s

/-- The line that an error points into and the marks below it.  A range over several lines is
marked to the end of the first one. -/
def excerpt (source : String) (first last : SourceLocation) : List String :=
  match sourceLine? source first.line with
  | none => []
  | some line =>
    let stop := if first.line = last.line then last.column else line.length + 1
    let blanks := String.ofList (List.replicate (first.column - 1) ' ')
    let marks := String.ofList (List.replicate (max 1 (stop - first.column)) '^')
    ["  |", inColumn first.line ++ " | " ++ line, "    | " ++ blanks ++ marks]

/-- **The report of an error**, with an excerpt when the source and the place are known. -/
def format (e : ScriptError) (source filename : Option String) : String :=
  let head :=
    match source, e.range with
    | some source, some r =>
      let first := SourceLocation.of source r.start filename
      let last := SourceLocation.of source r.stop filename
      (first.text ++ ": error: " ++ e.message) :: excerpt source first last
    | _, _ => ["error: " ++ e.message]
  let hint :=
    match e.hint with
    | some h => if h = "" then [] else ["    = hint: " ++ h]
    | none => []
  "\n".intercalate (head ++ hint)

/-- The class of an error in documents. -/
def className : ScriptError → String
  | .lexer .. => "LexerError"
  | .parser .. => "ParserError"
  | _ => "EvaluationError"

/-- The end of a range as a document: its offset, or its place when the source is known. -/
def endJson (source : Option String) (offset : Int) : Json :=
  match source with
  | none => .int offset
  | some source =>
    let l := SourceLocation.of source offset none
    .obj [("line", .int l.line), ("column", .int l.column), ("offset", .int l.offset)]

/-- **An error as a document.** -/
def toJson (e : ScriptError) (source : Option String) : Json := .obj [
  ("type", .str e.className),
  ("message", .str e.message),
  ("hint", .ofText? e.hint),
  ("suggestion", .ofText? e.suggestion),
  ("range", match e.range with
    | none => .null
    | some r => .obj [("start", endJson source r.start), ("end", endJson source r.stop)])]

end SceneLang.ScriptError
