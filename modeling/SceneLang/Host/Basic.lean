import SceneLang.Error.Exit
import SceneLang.Geometry.Decode
import SceneLang.File.Tree

/-!
# Hosts

A script reaches files, fonts and outlines of text only through its host.  `Host.ofFiles` is the host
that works on a tree of files: paths are taken from a base directory, geometry comes from JSON
documents, and there are no outlines.
-/

namespace SceneLang

/-- **What a script can ask of its surroundings.** -/
structure Host where
  /-- The file that a path in a script stands for. -/
  resolve : String → Except Fault FilePath
  /-- The node in a geometry file; none when there is nothing to import. -/
  importNode : FilePath → Except Exit (Option Node)
  /-- The text of a script file. -/
  readText : FilePath → Except Fault String
  /-- The fonts that can be used; none when all can. -/
  fontNames : Option (List String) := none
  /-- The outlines of a text, for a font and a level of detail. -/
  outlines : String → Option String → Int → List Path := fun _ _ _ => []

namespace Host

/-- The suffix of geometry files. -/
def geometrySuffix : String := ".json"

/-- **The file that a path stands for.**  A directory that holds something of its own name stands
for that. -/
def resolveIn (base : FilePath) (files : FileTree) (path : String) : Except Fault FilePath := do
  let place := base.join (.ofString path)
  if ← files.isDirectory place then
    let inner := place.child place.name
    if ← files.isPresent inner then return inner
  return place

/-- The document in a geometry file. -/
def readDocument (files : FileTree) (place : FilePath) : Except Fault Json := do
  let text ← files.readText place
  match Json.parse text with
  | .ok document => return document
  | .error e => throw (.invalid (.documentText e.fault))

/-- **The node in a geometry file.** -/
def importFrom (files : FileTree) (place : FilePath) : Except Exit (Option Node) :=
  if place.hasSuffix geometrySuffix then
    (do Node.ofDocument (← readDocument files place)).mapError .fault
  else .error (.unplaced (.fileTypeMismatch place.name place none))

/-- **The host of a tree of files.** -/
def ofFiles (base : FilePath) (files : FileTree) (fontNames : Option (List String)) : Host where
  resolve := resolveIn base files
  importNode := importFrom files
  readText := files.readText
  fontNames := fontNames

end Host

end SceneLang
