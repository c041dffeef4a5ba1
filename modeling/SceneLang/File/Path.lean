import SceneLang.Text.Lowercase

/-!
# File paths

A path is a root and a list of names.  Reading one drops empty names and single dots, keeps double
dots as they are, and keeps apart no root, one slash and exactly two slashes (more than two are one).
-/

namespace SceneLang

/-- **A file path.** -/
structure FilePath where
  /-- Empty for a relative path, otherwise one or two slashes. -/
  root : String
  names : List String
  deriving Repr, DecidableEq, Inhabited

namespace FilePath

/-- The pieces of a text between slashes. -/
def pieces : List Char → List (List Char)
  | [] => [[]]
  | c :: rest =>
    if c = '/' then [] :: pieces rest
    else
      match pieces rest with
      | [] => [[c]]
      | p :: ps => (c :: p) :: ps

/-- The root that a text starts with. -/
def rootOf (s : List Char) : String :=
  match (s.takeWhile (· = '/')).length with
  | 0 => ""
  | 2 => "//"
  | _ => "/"

/-- **The path that a text writes.** -/
def ofString (s : String) : FilePath where
  root := rootOf s.toList
  names := ((pieces s.toList).map String.ofList).filter fun n => n ≠ "" ∧ n ≠ "."

/-- How a path is written; the empty path is a dot. -/
def text (p : FilePath) : String :=
  if p.root = "" ∧ p.names = [] then "." else p.root ++ "/".intercalate p.names

/-- Whether a path starts at the root. -/
def isAbsolute (p : FilePath) : Bool := p.root ≠ ""

/-- The last name of a path; empty when it has none. -/
def name (p : FilePath) : String := p.names.getLastD ""

/-- The path without its last name. -/
def parent (p : FilePath) : FilePath := ⟨p.root, p.names.dropLast⟩

/-- **A path seen from a directory**: an absolute path stays as it is. -/
def join (base p : FilePath) : FilePath :=
  if p.isAbsolute then p else ⟨base.root, base.names ++ p.names⟩

/-- A name inside a directory. -/
def child (p : FilePath) (name : String) : FilePath := p.join (ofString name)

/-- **The suffix of the last name**: the part from its last dot on.  A dot at the start or at the
end of the name does not begin a suffix. -/
def suffix (p : FilePath) : String :=
  let chars := p.name.toList
  let after := chars.reverse.takeWhile (· ≠ '.')
  -- `stem` is the number of characters before the last dot
  let stem := chars.length - after.length - 1
  if after.length = chars.length ∨ after = [] ∨ stem = 0 then ""
  else String.ofList ('.' :: after.reverse)

/-- Whether the suffix of a path, in any case, is the given one. -/
def hasSuffix (p : FilePath) (wanted : String) : Bool := Text.lowercase p.suffix = wanted

end FilePath

end SceneLang
