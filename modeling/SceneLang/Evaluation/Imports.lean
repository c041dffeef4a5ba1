import SceneLang.Evaluation.Runner

/-!
# Imports

A script file is run as if its statements stood in place of the import, with its own source and file
while it runs; a file that is being imported cannot be imported again.  The files that are being
imported form one stack for the whole run: an import puts its file on top and, however it ends,
takes off what is on top then.  Any other file is geometry, which the host reads.
-/

namespace SceneLang.Runner

/-- The suffix of script files. -/
def scriptSuffix : String := ".shape"

/-- **Run a program** in the active scope. -/
def program (r : Runner) (env : Env) (p : Program) : Eval Unit := do
  let source := (← Eval.scope).source
  Eval.modifyScope fun s => { s with source := p.source }
  Step.settle (fun st => { st with scope := { st.scope with source } })
    (r.statements env p.statements)

/-- The error for a file that cannot be used.  Faults that have nothing to do with the file stay
what they are. -/
def fileExit (path : String) (place : FilePath) : Fault → Exit
  | .file (.notFound _) => .unplaced (.fileNotFound path (some place))
  | .file (.noPermission _) => .unplaced (.fileAccessRestricted path place)
  | .file fault => .unplaced (.fileParsingError path place fault.message)
  | fault =>
    match fault.refusal? with
    | some text => .unplaced (.fileParsingError path place text)
    | none => .fault fault

/-- The exit of a failed import of geometry.  A file of a kind that cannot be read is named as the
script names it. -/
def geometryExit (path : String) (place : FilePath) : Exit → Exit
  | .error (.evaluation (.fileTypeMismatch _ place expected) _) =>
    .unplaced (.fileTypeMismatch path place expected)
  | .fault fault => fileExit path place fault
  | x => x

/-- **The state after an import**, however it ended: the scope has the given file again, and the
topmost of the files that are being imported is dropped.  Which one that is is not looked at. -/
def leaveScript (file : Option FilePath) (st : State) : State where
  scope := { st.scope with file }
  world := st.world.leaveFile

/-- **Import a script file.**  It is being imported from before its text is parsed. -/
def importScript (r : Runner) (env : Env) (host : Host) (path : String) (place : FilePath) :
    Eval Unit := do
  if (← get).world.importing.contains place then
    throw (.unplaced (.assertionFailure s!"Circular import of '{place.name}'"))
  match env.setting.parse with
  | none => throw (.unplaced (.fileTypeMismatch path place none))
  | some parse =>
    let source ← Step.ofExit ((host.readText place).mapError (fileExit path place))
    let file := (← Eval.scope).file
    Eval.modifyWorld fun w => w.enterFile place
    Step.settle (leaveScript file)
      (Step.mapExit (inFile place.name source) do
        let p ← Step.ofExit (parse source)
        Eval.modifyScope fun s => { s with file := some place }
        r.program env p)

/-- **Import a file** by the path that a script gives. -/
def importFile (r : Runner) (env : Env) (path : String) : Eval Unit := do
  let place ← env.setting.resolve path
  match env.setting.host with
  | none => throw (.unplaced (.fileNotFound path none))
  | some host =>
    if place.hasSuffix scriptSuffix then r.importScript env host path place
    else
      match ← Step.ofExit ((host.importNode place).mapError (geometryExit path place)) with
      | some node => Eval.addValue (.mesh node)
      | none => pure ()

end SceneLang.Runner
