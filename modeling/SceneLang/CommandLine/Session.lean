import SceneLang.CommandLine.Request
import SceneLang.Error.Report
import SceneLang.Evaluation.Run
import SceneLang.Json.Writer
import SceneLang.Program.Decode
import SceneLang.Value.Display

/-!
# What a command line does

`perform` carries out a command line on a tree of files.  It is a function: what would be printed and
written is its result.
-/

namespace SceneLang.CommandLine

/-- **What a command line did.** -/
structure Report where
  code : Nat
  out : String := ""
  err : String := ""
  /-- The file that was written. -/
  written : Option (FilePath × String) := none
  deriving Inhabited

/-- **How a command line ended.** -/
inductive Ending where
  /-- It asked for nothing that could be done. -/
  | stopped (stop : Stop)
  | finished (report : Report)
  /-- It broke off, after printing something. -/
  | failed (exit : Exit) (out : String)
  deriving Inhabited

/-- A line of output. -/
def line (s : String) : String := s ++ "\n"

/-- Lines of output. -/
def lines (ss : List String) : String := String.join (ss.map line)

/-! ### Reading programs -/

/-- Why a program could not be loaded. -/
inductive LoadFailure where
  /-- The reason is told to the user. -/
  | told (text : String)
  | fault (f : Fault)

/-- A failure to read or decode a program, told to the user where it has a wording. -/
def LoadFailure.ofFault (path : FilePath) (f : Fault) : LoadFailure :=
  let text? := match f with
    | .file reason => some reason.message
    | f => f.refusal?
  match text? with
  | some text => .told s!"Error: {path.name}: {text}"
  | none => .fault f

/-- Read the document of a program. -/
def readProgram (files : FileTree) (path : FilePath) : Except Fault Program := do
  let text ← files.readText path
  match Json.parse text with
  | .ok document => Program.ofJson document
  | .error e => throw (.malformedText e)

/-- **Load a program.** -/
def loadProgram (files : FileTree) (path : FilePath) : Except LoadFailure Program := do
  if ← (files.isPresent path).mapError .fault then
    (readProgram files path).mapError (LoadFailure.ofFault path)
  else throw (.told s!"Error: File not found: {path.text}")

/-- Go on with a program that could be loaded. -/
def withProgram (files : FileTree) (path : FilePath) (act : Program → Ending) : Ending :=
  match loadProgram files path with
  | .ok p => act p
  | .error (.told text) => .finished { code := 1, err := line text }
  | .error (.fault f) => .failed (.fault f) ""

/-! ### Running programs -/

/-- The title of a node: its kind, and its name if it has one. -/
def nodeTitle (n : Node) : String :=
  if n.name.isPresent then s!"{n.kind.word} '{n.name.text}'" else n.kind.word

mutual

/-- **The outline of a node**: a line for it and a line, further in, for each node inside. -/
def outline (depth : Nat) : Node → List String
  | ⟨kind, name, transform, material, children, paths, location⟩ =>
    (String.join (List.replicate depth "  ")
      ++ nodeTitle ⟨kind, name, transform, material, children, paths, location⟩)
      :: outlineAll (depth + 1) children

/-- The outlines of a list of nodes. -/
def outlineAll (depth : Nat) : List Node → List String
  | [] => []
  | n :: rest => outline depth n ++ outlineAll depth rest

end

/-- What the program itself printed. -/
def printed (w : World) : String :=
  String.join (w.notices.toList.filterMap fun
    | .printed values => some (line (printedLine values))
    | .outlined .. => none)

/-- The summary of a scene and of the files that it uses. -/
def summary (scene : Scene) (linked : List FilePath) : String :=
  lines (s!"Scene: {scene.children.length} node(s)" :: outlineAll 1 scene.children
    ++ linked.map fun p => s!"Linked: {p.text}")

/-- Write the document of a scene. -/
def writeScene (files : FileTree) (path : FilePath) (scene : Scene) (out : String) : Ending :=
  match files.writePlace path with
  | .error f => .failed (.fault f) out
  | .ok _ => .finished {
      code := 0
      out := out ++ line s!"Wrote: {path.text}"
      written := some (path, scene.toJson.indented) }

/-- A text that is given and not empty. -/
def given? (s : Option String) : Option String := s.filter (· ≠ "")

/-- The setting in which a program is run. -/
def RunRequest.setting (q : RunRequest) (files : FileTree) : SceneLang.Setting :=
  let base := match given? q.baseDirectory with
    | some d => .ofString d
    | none => (FilePath.ofString q.file).parent
  { host := some (Host.ofFiles base files q.fonts) }

/-- Run a program and report on it. -/
def runProgram (files : FileTree) (q : RunRequest) (p : Program) : Ending :=
  let outcome := p.evaluate (q.setting files)
  let out := printed outcome.world
  match outcome.result with
  | .error (.error e) =>
    let report := e.format (some p.source) (some (FilePath.ofString q.file).name)
    .finished { code := 1, out, err := line report }
  | .error x => .failed x out
  | .ok scene =>
    match given? q.output with
    | some output => writeScene files (.ofString output) scene out
    | none => .finished { code := 0, out := out ++ summary scene outcome.world.linked.toList }

/-- **Carry out a request.** -/
def Request.perform (files : FileTree) : Request → Ending
  | .check file =>
    let path := FilePath.ofString file
    withProgram files path fun p =>
      .finished { code := 0, out := line s!"OK: {path.name} - {p.statements.length} statement(s)" }
  | .run q => withProgram files (.ofString q.file) (runProgram files q)

/-- **Carry out a command line.** -/
def perform (files : FileTree) (arguments : List String) : Ending :=
  match readArguments arguments with
  | .error stop => .stopped stop
  | .ok request => request.perform files

/-! ### The files of a command line -/

/-- The files that a run of a program asks for, each with the file that could stand for it. -/
def linkedFiles (files : FileTree) (q : RunRequest) : List FilePath :=
  match loadProgram files (.ofString q.file) with
  | .ok p =>
    (p.evaluate (q.setting files)).world.linked.toList.flatMap fun f => [f, f.child f.name]
  | .error _ => []

/-- **The files that a command line reads**, as far as the files at hand let it come. -/
def neededFiles (files : FileTree) (arguments : List String) : List FilePath :=
  match readArguments arguments with
  | .error _ => []
  | .ok (.check file) => [.ofString file]
  | .ok (.run q) => .ofString q.file :: linkedFiles files q

end SceneLang.CommandLine
