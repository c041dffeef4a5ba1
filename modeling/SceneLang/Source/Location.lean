import SceneLang.Source.Range

/-!
# Lines and columns

`SourceLocation.of` turns an offset into a line and a column, both counted from one.  An offset
outside the text is moved to its nearest end first, so every offset has a location.
-/

namespace SceneLang

/-- The lines of a text: what stands between its line feeds. -/
def splitLines : List Char → List (List Char)
  | [] => [[]]
  | c :: rest =>
    if c = '\n' then [] :: splitLines rest
    else
      match splitLines rest with
      | [] => [[c]]
      | line :: lines => (c :: line) :: lines

/-- **A line of a text**, counted from one; none outside the text. -/
def sourceLine? (source : String) (line : Int) : Option String :=
  if 1 ≤ line then ((splitLines source.toList)[(line - 1).toNat]?).map String.ofList else none

/-- **A place in a source text.** -/
structure SourceLocation where
  line : Nat
  column : Nat
  offset : Nat
  filename : Option String := none
  deriving Repr, DecidableEq, Inhabited

namespace SourceLocation

/-- An offset moved into a text of the given length. -/
def clamp (length : Nat) (offset : Int) : Nat := min offset.toNat length

/-- **The place of a character offset**: one line more than there are line feeds before it, and
one column more than there are characters since the last of them. -/
def of (source : String) (offset : Int) (filename : Option String) : SourceLocation :=
  let chars := source.toList
  let offset := clamp chars.length offset
  let before := chars.take offset
  { line := before.count '\n' + 1
    column := (before.reverse.takeWhile (· ≠ '\n')).length + 1
    offset
    filename }

/-- How a place is written: the file, if it has a name, then line and column. -/
def text (l : SourceLocation) : String :=
  match l.filename with
  | none => s!"{l.line}:{l.column}"
  | some name => if name = "" then s!"{l.line}:{l.column}" else s!"{name}:{l.line}:{l.column}"

end SourceLocation

end SceneLang
