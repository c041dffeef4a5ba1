import SceneLang.Host.Basic
import SceneLang.Random.Twister
import SceneLang.Scope.Children
import SceneLang.Scope.Lookup

/-!
# The state of a run

A run acts on the innermost scope and on the world: the random numbers, what was printed, the files
that were asked for, the stack of the script files that are being imported, the number of times the
host was asked whether to go on and the number of turns of loops that were started.  The scopes
further out do not change while an inner one is active, so they are part of the surroundings of a
step, not of its state.
-/

namespace SceneLang

/-- **What a host hears of a run.** -/
inductive Notice where
  | printed (values : List Value)
  | outlined (text : String) (font : Option String) (detail : Int)
  deriving Inhabited

/-- **What a run changes outside of its scopes.**  All scopes share it. -/
structure World where
  random : Random.Twister := Random.Twister.initial
  notices : Array Notice := #[]
  /-- The files that were asked for, each once. -/
  linked : Array FilePath := #[]
  /-- The script files that are being imported, innermost first. -/
  importing : List FilePath := []
  /-- How often the host was asked whether to go on. -/
  polls : Nat := 0
  /-- How many turns of loops were started. -/
  turns : Nat := 0
  deriving Inhabited

namespace World

/-- A script file is put on the stack of those that are being imported. -/
def enterFile (w : World) (place : FilePath) : World :=
  { w with importing := place :: w.importing }

/-- The topmost file, whichever it is, is taken off the stack of those that are being imported. -/
def leaveFile (w : World) : World := { w with importing := w.importing.tail }

@[simp] theorem importing_enterFile (w : World) (place : FilePath) :
    (w.enterFile place).importing = place :: w.importing := rfl

@[simp] theorem importing_leaveFile (w : World) : w.leaveFile.importing = w.importing.tail := rfl

end World

/-- **The state of a run.** -/
structure State where
  scope : Scope
  world : World
  deriving Inhabited

/-- **A part of a run.** -/
abbrev Eval := Step State

/-- **What stays the same during a run.** -/
structure Setting where
  host : Option Host := none
  /-- How the text of an imported script is read; none when scripts cannot be imported. -/
  parse : Option (String → Except Exit Program) := none
  /-- Whether the host wants to stop, by the number of times it was asked before. -/
  isCancelled : Nat → Bool := fun _ => false

/-- **What stays the same while a scope is active.** -/
structure Env where
  setting : Setting
  /-- The scopes below the active one, innermost first. -/
  enclosing : List Scope := []

namespace Eval

variable {α : Type}

/-- The active scope. -/
def scope : Eval Scope := return (← get).scope

/-- Run a step on the active scope. -/
def onScope (act : Step Scope α) : Eval α :=
  act.onPart State.scope fun s st => { st with scope := s }

/-- Change the active scope. -/
def modifyScope (f : Scope → Scope) : Eval Unit :=
  modify fun st => { st with scope := f st.scope }

/-- Change the world. -/
def modifyWorld (f : World → World) : Eval Unit :=
  modify fun st => { st with world := f st.world }

/-- **Add a value to the children of the active scope.** -/
def addValue (v : Value) : Eval Unit := onScope (Scope.add v)

/-- Tell the host something. -/
def notify (n : Notice) : Eval Unit :=
  modifyWorld fun w => { w with notices := w.notices.push n }

end Eval

namespace Env

/-- The height of the active scope. -/
def level (env : Env) : Nat := env.enclosing.length

/-- The whole stack, with the active scope on top. -/
def stack (env : Env) : Eval (List Scope) := return (← Eval.scope) :: env.enclosing

/-- **What a name stands for.** -/
def symbol? (env : Env) (name : String) : Eval (Option Symbol) := do
  return Scope.symbol? (← env.stack) name

/-- **Run a step in an inner scope.**  The surroundings that it sees have the scope that was active
below it; afterwards that scope is active again, changed by `leave`, whether the step stopped or
not. -/
def inside {α : Type} (env : Env) (inner : Scope) (leave : Scope → Scope → Scope)
    (act : Env → Eval α) : Eval α := fun st =>
  let outer := st.scope
  let below := { env with enclosing := outer :: env.enclosing }
  (Step.settle (fun st => { st with scope := leave outer st.scope }) (act below))
    { st with scope := inner }

/-- Leave a block: the scope around it is as it was. -/
def leaveBlock (outer _ : Scope) : Scope := outer

/-- Leave a turn of a loop: the scope around it takes over. -/
def leaveLoop (outer inner : Scope) : Scope := outer.absorb inner

end Env

/-- **The file that a path stands for**, which is remembered as asked for. -/
def Setting.resolve (setting : Setting) (path : String) : Eval FilePath :=
  match setting.host with
  | none => throw (.unplaced (.fileNotFound path none))
  | some host => do
    let place ← Step.ofExcept (host.resolve path)
    Eval.modifyWorld fun w =>
      { w with linked := if w.linked.contains place then w.linked else w.linked.push place }
    return place

end SceneLang
