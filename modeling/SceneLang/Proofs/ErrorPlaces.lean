import SceneLang.Proofs.Accord

/-!
# Every script error has a place

Commands, properties, children, files and fonts stop with errors that say nothing about their
place, and the errors of another file are of no use where they are: they are wrapped, again without
a place. Further out each of them is given one.  So a script error that ends a run arose while a
script ran, and points somewhere (`Program.error_placed`).
-/

namespace SceneLang

/-- **A host that fails as it should**: a script error in geometry is one of running a script. -/
def Host.FailsProperly (host : Host) : Prop :=
  ∀ place e, host.importNode place = .error (.error e) → ∃ cause range, e = .evaluation cause range

/-- A tree of files fails as it should. -/
theorem Host.failsProperly_ofFiles (base : FilePath) (files : FileTree)
    (fontNames : Option (List String)) : (Host.ofFiles base files fontNames).FailsProperly := by
  intro place e he
  simp only [ofFiles, importFrom] at he
  split at he
  · -- what is wrong with a document is a fault, not a script error
    cases hread : (readDocument files place >>= Node.ofDocument) with
    | ok node => rw [hread] at he; cases he
    | error f => rw [hread] at he; cases he
  · cases he
    exact ⟨_, none, rfl⟩

/-- What is known of the script error that a step stopped with, if it did. -/
def Result.Blames {α : Type} (b : Blame) (res : EStateM.Result Exit State α) : Prop :=
  ∀ e st, res = .error (.error e) st → (Exit.error e).Allowed b

namespace Result

variable {α : Type}

/-- **A script error that gets a place** is one of running a script. -/
theorem Blames.located {res : EStateM.Result Exit State α} (h : Blames .unplaced res)
    (r : SourceRange) : Blames .placed (mapExit (Exit.located r) res) := by
  intro e st he
  cases res with
  | ok a st' => cases he
  | error x st' =>
    cases x with
    | error e' =>
      have hplaced := (h e' st' rfl).located r
      cases he
      exact hplaced
    | _ => cases he

/-- **An error in another file** is one of running a script, whatever it was. -/
theorem blames_inFile (res : EStateM.Result Exit State α) (file source : String) :
    Blames .unplaced (mapExit (Runner.inFile file source) res) := by
  intro e st he
  cases res with
  | ok a st' => cases he
  | error x st' =>
    cases x with
    | error e' =>
      cases he
      exact Exit.allowed_unplaced _
    | _ => cases he

theorem Blames.settle {b : Blame} {res : EStateM.Result Exit State α} (h : Blames b res)
    (f : State → State) : Blames b (Result.settle f res) := by
  intro e st he
  cases res with
  | ok a st' => cases he
  | error x st' =>
    injection he with hx hst
    exact h e st' (by rw [hx])

end Result

/-- Geometry that cannot be imported gives an error of running a script. -/
theorem Runner.blames_geometryExit {α : Type} {host : Host} (hhost : host.FailsProperly)
    {place : FilePath} {x : Exit} (hx : host.importNode place = .error x) (path : String)
    (st : State) :
    Result.Blames .unplaced
      (.error (geometryExit path place x) st : EStateM.Result Exit State α) := by
  intro e st' he
  injection he with hexit hst
  rw [← hexit]
  cases x with
  | error e' =>
    obtain ⟨cause, range, rfl⟩ := hhost place e' hx
    cases cause with
    | fileTypeMismatch name place' expected => exact Exit.allowed_unplaced _
    | _ => exact ⟨_, range, rfl⟩
  | fault f => exact (proper_fileExit (fun _ => True) path place f).allowed
  | cancelled => cases hexit
  | exhausted => exact Exit.allowed_exhausted .unplaced

/-- Runs whose script errors are as much in place as what stopped lets them be. -/
def Accord.placing {setting : Setting}
    (hhost : ∀ host, setting.host = some host → host.FailsProperly) : Accord setting setting where
  Rel b _ res _ := Result.Blames b res
  similar := .refl setting
  mono h hb := fun e st he => (h e st he).mono hb
  plain h := fun e st he => h.exit (.error e) st he
  startTurn st := by
    intro e st' he
    rw [Runner.startTurn_apply] at he
    split at he <;> cases he
  bind {_ _ _ st x x' f f'} hx hf := by
    intro e st' he
    cases hres : x st with
    | ok a st₁ =>
      rw [Step.bind_ok f hres] at he
      exact (hf a st₁ (.inl hres)).2 e st' he
    | error y st₁ =>
      rw [Step.bind_error f hres] at he
      injection he with hy hst
      exact hx e st₁ (by rw [hres, hy])
  locate r h := h.located r
  inFile file source _ := Result.blames_inFile _ file source
  settle _ h := h.settle _
  geometry path st hhost' hx := Runner.blames_geometryExit (hhost _ hhost') hx path st
  parse _ _ _ := fun _ _ _ => trivial

/-- **A script error that ends a run arose while a script ran and has a place**, for every program,
every way to read scripts and every host that fails as it should. -/
theorem Program.error_placed (fuel : Nat) (setting : Setting) (p : Program)
    (hhost : ∀ host, setting.host = some host → host.FailsProperly) {e : ScriptError}
    (he : (p.run fuel setting).result = .error (.error e)) :
    ∃ cause range, e = .evaluation cause (some range) := by
  have hstart : Invariant.always.Holds .statement { setting } p.start := trivial
  have hagree := (Accord.placing hhost).agree_ofFuel .always fuel
  exact (hagree.program p hstart).rel e _ (finish_eq_of_run he).2

/-- A program that imports a file of a kind that cannot be read. -/
def strayImport : Program where
  source := "import \"a.stl\""
  statements := [.importFile ⟨0, 14⟩ (.string ⟨7, 14⟩ "a.stl")]

/-- The host reports the file without a place, and the error that ends the run has one. -/
theorem strayImport_error_placed :
    let setting : Setting := { host := some (Host.ofFiles ⟨"/", []⟩ {} none) }
    let e : ScriptError :=
      .evaluation (.fileTypeMismatch "a.stl" ⟨"/", ["a.stl"]⟩ none) (some ⟨7, 14⟩)
    (strayImport.run 2 setting).result = .error (.error e) ∧
      ∃ cause range, e = .evaluation cause (some range) := by
  intro setting e
  have hhost : ∀ host, setting.host = some host → host.FailsProperly := by
    rintro host ⟨⟩
    exact Host.failsProperly_ofFiles ⟨"/", []⟩ {} none
  exact ⟨rfl, Program.error_placed 2 setting strayImport hhost rfl⟩

end SceneLang
