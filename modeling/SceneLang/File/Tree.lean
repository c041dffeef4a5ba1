import SceneLang.Fault
import SceneLang.File.Path

/-!
# Files that can be read

A `FileTree` is a snapshot of the files below the working directory.  A path is followed name by
name, as an operating system does: a name is looked up in a directory, two dots lead to the
directory above, and nothing can be looked up in a file.  What lies above the working directory is
not part of the snapshot: it counts as a directory without files.
-/

namespace SceneLang

/-- What a name stands for. -/
inductive FileEntry where
  | directory
  | file (bytes : List Nat)
  deriving Repr, DecidableEq, Inhabited

/-- **The files below the working directory**, by the names that lead to them. -/
structure FileTree where
  entries : List (List String × FileEntry) := []
  deriving Inhabited

namespace FileTree

/-- A place that following a path can reach. -/
inductive Place where
  /-- Above the working directory. -/
  | above
  /-- Below the working directory, by the names that lead there. -/
  | below (names : List String)
  deriving Repr, DecidableEq

/-- What stands at a place below the working directory.  Every beginning of an entry's names leads
to a directory. -/
def entry? (t : FileTree) (names : List String) : Option FileEntry :=
  if names = [] then some .directory
  else
    match t.entries.lookup names with
    | some e => some e
    | none =>
      if t.entries.any fun e => names.isPrefixOf e.1 then some .directory else none

/-- Why a path leads nowhere. -/
inductive Missing where
  | notFound
  | notDirectory
  | nameTooLong
  deriving Repr, DecidableEq

/-- One step along a path. -/
def step (t : FileTree) (place : Place) (name : String) : Except Missing Place :=
  match place with
  | .above => if name = ".." then .ok .above else .error .notFound
  | .below names =>
    match t.entry? names with
    | some .directory =>
      if name = ".." then .ok (if names = [] then .above else .below names.dropLast)
      else if 255 < name.utf8ByteSize then .error .nameTooLong
      else if (t.entry? (names ++ [name])).isSome then .ok (.below (names ++ [name]))
      else .error .notFound
    | some (.file _) => .error .notDirectory
    | none => .error .notFound

/-- Follow names from a place. -/
def walk (t : FileTree) (place : Place) : List String → Except Missing Place
  | [] => .ok place
  | n :: rest => do
    let next ← t.step place n
    walk t next rest

/-- **Where a path leads.** -/
def locate (t : FileTree) (p : FilePath) : Except Missing Place :=
  if 4096 ≤ p.text.utf8ByteSize then .error .nameTooLong
  else t.walk (if p.isAbsolute then .above else .below []) p.names

/-- What a path leads to. -/
def find (t : FileTree) (p : FilePath) : Except Missing FileEntry := do
  match ← t.locate p with
  | .above => return .directory
  | .below names =>
    match t.entry? names with
    | some e => return e
    | none => throw .notFound

/-- A null character never occurs in the name of a file. -/
def hasNull (p : FilePath) : Bool := p.names.any fun n => n.toList.contains '\x00'

/-- What a path leads to, if anything; only a name that is too long is a fault. -/
def look (t : FileTree) (p : FilePath) : Except Fault (Option FileEntry) :=
  if hasNull p then .ok none
  else
    match t.find p with
    | .ok e => .ok (some e)
    | .error .nameTooLong => .error (.file (.nameTooLong p.text))
    | .error _ => .ok none

/-- **Whether a path leads to a directory.** -/
def isDirectory (t : FileTree) (p : FilePath) : Except Fault Bool := do
  return (← t.look p) matches some .directory

/-- **Whether a path leads anywhere.** -/
def isPresent (t : FileTree) (p : FilePath) : Except Fault Bool := do
  return (← t.look p).isSome

/-- The fault of a path that leads nowhere. -/
def Missing.fault (p : FilePath) : Missing → FileFault
  | .notFound => .notFound p.text
  | .notDirectory => .notDirectory p.text
  | .nameTooLong => .nameTooLong p.text

/-- **The text of a file**, with line breaks made uniform. -/
def readText (t : FileTree) (p : FilePath) : Except Fault String :=
  if hasNull p then .error (.invalid .nullByte)
  else
    match t.find p with
    | .error m => .error (.file (m.fault p))
    | .ok .directory => .error (.file (.isDirectory p.text))
    | .ok (.file bytes) =>
      match Text.decodeUtf8 bytes with
      | .error e => .error (.undecodable e)
      | .ok s => .ok (String.ofList (Text.unifyLineBreaks s.toList))

/-- **The place where a file can be written**: its directory has to be there, and the path itself
may not be one. -/
def writePlace (t : FileTree) (p : FilePath) : Except Fault Place :=
  if hasNull p then .error (.invalid .nullByte)
  else
    match t.find p with
    | .ok .directory => .error (.file (.isDirectory p.text))
    | .ok (.file _) =>
      match t.locate p with
      | .ok place => .ok place
      | .error m => .error (.file (m.fault p))
    | .error .notFound =>
      match t.find p.parent, t.locate p.parent with
      | .ok .directory, .ok (.below names) => .ok (.below (names ++ [p.name]))
      | .ok (.file _), _ => .error (.file (.notDirectory p.text))
      | _, _ => .error (.file (.notFound p.text))
    | .error m => .error (.file (m.fault p))

end FileTree

end SceneLang
