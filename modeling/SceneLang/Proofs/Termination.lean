import SceneLang.Proofs.Watch
import Mathlib.Data.Set.Card

/-!
# Every run ends

Nothing in a script can go on for ever but a loop over a range without an end.  Blocks can call each
other, but not more than `Runner.deepestCall` deep; scripts can import each other, but none that is
being imported; and apart from that a task only runs its parts.

So the depth of calls, the scripts that are not yet being imported and the weight of a task, in this
order, get less with every step down, and by induction over them each task ends: from some amount
of fuel on its result is always the same, and not that the fuel was used up (`Ends`).  Loops over
ranges without an end are kept out by an alarm where they start.
-/

namespace SceneLang

/-! ### Results that do not depend on the fuel -/

/-- **The results of a task, for all amounts of fuel, come to an end**: from some amount on they are
all the same, and the fuel was not used up. -/
def Ends {α : Type} (F : Nat → EStateM.Result Exit State α) : Prop :=
  ∃ (n : Nat) (res : EStateM.Result Exit State α),
    (∀ st, res ≠ .error .exhausted st) ∧ ∀ m, n ≤ m → F m = res

namespace Ends

variable {α β : Type} {F G : Nat → EStateM.Result Exit State α} {st : State}

theorem const {res : EStateM.Result Exit State α} (h : ∀ st, res ≠ .error .exhausted st) :
    Ends fun _ => res :=
  ⟨0, res, h, fun _ _ => rfl⟩

/-- Only the results for much fuel matter. -/
theorem late (h : Ends F) (i : Nat) (hlate : ∀ n, i ≤ n → G n = F n) : Ends G := by
  obtain ⟨n, res, hres, hn⟩ := h
  refine ⟨max i n, res, hres, fun m hm => ?_⟩
  rw [hlate m (by omega), hn m (by omega)]

/-- A layer more takes one unit of fuel. -/
theorem layer (h : Ends F) (hnext : ∀ n, G (n + 1) = F n) : Ends G := by
  obtain ⟨n, res, hres, hn⟩ := h
  refine ⟨n + 1, res, hres, fun m hm => ?_⟩
  obtain ⟨k, rfl⟩ : ∃ k, m = k + 1 := ⟨m - 1, by omega⟩
  rw [hnext, hn k (by omega)]

theorem bind {x : Nat → Eval α} {f : Nat → α → Eval β} (hx : Ends fun n => x n st)
    (hf : ∀ a st₁, (∃ n, x n st = .ok a st₁) → Ends fun n => f n a st₁) :
    Ends fun n => (x n >>= f n) st := by
  obtain ⟨n, res, hres, hn⟩ := hx
  cases res with
  | ok a st₁ =>
    exact (hf a st₁ ⟨n, hn n (Nat.le_refl n)⟩).late n fun m hm => Step.bind_ok (f m) (hn m hm)
  | error e st₁ =>
    refine ⟨n, .error e st₁, fun st₂ h => ?_, fun m hm => Step.bind_error (f m) (hn m hm)⟩
    injection h with he _
    exact hres st₁ (by rw [he])

theorem mapExit {g : Exit → Exit} (h : Ends F) (hg : ∀ x, g x = .exhausted → x = .exhausted) :
    Ends fun n => Result.mapExit g (F n) := by
  obtain ⟨n, res, hres, hn⟩ := h
  refine ⟨n, Result.mapExit g res, fun st heq => ?_, fun m hm => congrArg _ (hn m hm)⟩
  cases res with
  | ok a st₁ => cases heq
  | error e st₁ =>
    injection heq with hexit _
    exact hres st₁ (by rw [hg e hexit])

theorem settle (h : Ends F) (f : State → State) : Ends fun n => Result.settle f (F n) := by
  obtain ⟨n, res, hres, hn⟩ := h
  refine ⟨n, Result.settle f res, fun st heq => ?_, fun m hm => congrArg _ (hn m hm)⟩
  cases res with
  | ok a st₁ => cases heq
  | error e st₁ =>
    injection heq with hexit _
    exact hres st₁ (by rw [hexit])

/-- An alarm that is no lack of fuel does not keep a task from ending. -/
theorem trap {act : Nat → Eval α} (h : Ends fun n => act n st) (bad : Moment → Bool) (task : Task)
    (env : Env) : Ends fun n => SceneLang.trap bad .cancelled task env (act n) st := by
  obtain ⟨n, res, hres, hn⟩ := h
  refine ⟨n, SceneLang.trap bad .cancelled task env (fun _ => res) st, fun st' heq => ?_,
    fun m hm => trap_congr (hn m hm)⟩
  obtain ⟨-, h⟩ | ⟨-, h | h⟩ := trap_cases bad .cancelled task env (fun _ => res) st
  · rw [h] at heq; cases heq
  · rw [h] at heq; exact hres st' heq
  · rw [h] at heq; cases heq

end Ends

/-! ### What is left to run -/

/-- **The script files that can be read.** -/
def Setting.scripts (setting : Setting) : Set FilePath :=
  { place | place.hasSuffix Runner.scriptSuffix ∧
    ∃ host text, setting.host = some host ∧ host.readText place = .ok text }

/-- How many script files can still be imported. -/
noncomputable def Setting.unread (setting : Setting) (files : List FilePath) : Nat :=
  (setting.scripts \ { place | place ∈ files }).ncard

/-- **A setting that answers**: running out of fuel is nothing that a host or a parser can do. -/
structure Setting.Answers (setting : Setting) : Prop where
  host : ∀ host place, setting.host = some host → host.importNode place ≠ .error .exhausted
  parse : ∀ parse text, setting.parse = some parse → parse text ≠ .error .exhausted

theorem Setting.ScriptAt.mem_scripts {setting : Setting} {place : FilePath} {text : String}
    {p : Program} (h : setting.ScriptAt place text p) : place ∈ setting.scripts := by
  obtain ⟨host, hhost, hread⟩ := h.read
  exact ⟨h.suffix, host, text, hhost, hread⟩

/-- A script that is being imported cannot be imported again. -/
theorem Setting.unread_cons_lt {setting : Setting} (hfinite : setting.scripts.Finite)
    {place : FilePath} {files : List FilePath} (hplace : place ∈ setting.scripts)
    (hfiles : place ∉ files) : setting.unread (place :: files) < setting.unread files := by
  refine Set.ncard_lt_ncard ⟨?_, ?_⟩ (hfinite.subset Set.sdiff_subset)
  · rintro x ⟨hx, hxfiles⟩
    exact ⟨hx, fun h => hxfiles (List.mem_cons_of_mem place h)⟩
  · intro hsubset
    exact (hsubset ⟨hplace, hfiles⟩).2 List.mem_cons_self

theorem Exit.eq_exhausted_of_located {x : Exit} {r : SourceRange} (h : x.located r = .exhausted) :
    x = .exhausted := by
  cases x with
  | exhausted => rfl
  | _ => cases h

theorem Runner.eq_exhausted_of_inFile {x : Exit} {file source : String}
    (h : inFile file source x = .exhausted) : x = .exhausted := by
  cases x with
  | exhausted => rfl
  | _ => cases h

theorem Runner.eq_exhausted_of_geometryExit {x : Exit} {path : String} {place : FilePath}
    (h : geometryExit path place x = .exhausted) : x = .exhausted := by
  unfold geometryExit at h
  split at h
  · cases h
  · exact absurd h (proper_fileExit (fun _ => True) path place _).ends
  · exact h

/-! ### The law of ending -/

section Ending

variable {setting : Setting}

/-- **Tasks end**, at a given depth of calls and if no more is left to run than the given number of
scripts and, in the last of them, the given weight. -/
noncomputable def ending (hfinite : setting.scripts.Finite) (hanswers : setting.Answers)
    (depth scripts weight : Nat) : Law setting Nat where
  Writes files t := setting.unread files < scripts ∨
    setting.unread files = scripts ∧ t.weight < weight
  part h ht := h.imp_right fun ⟨heq, hlt⟩ => ⟨heq, (Task.weight_lt_of_mem_parts ht).trans hlt⟩
  Points _ _ := True
  own _ _ := trivial
  upperBound _ := trivial
  through _ _ := trivial
  Holds _ _ files st :=
    st.scope.depth = depth ∧ setting.unread files ≤ scripts ∧ st.world.importing = files
  importing_eq h := h.2.2
  expression h := h
  keep h hframe _ :=
    ⟨hframe.scope.extends.depth.trans h.1, h.2.1, hframe.world.importing.trans h.2.2⟩
  define _ h _ _ := h
  enter h hs := ⟨hs.depth.trans h.1, h.2⟩
  turn h := h
  script h hplace hscript := by
    have hlt := Setting.unread_cons_lt hfinite hscript.mem_scripts hplace
    exact ⟨⟨h.1, by omega, congrArg _ h.2.2⟩, fun _ _ => .inl (by omega)⟩
  resume h _ hframe := ⟨(Scope.Extends.depth hframe.scope).trans h.1, h.2.1,
    hframe.world.importing.trans h.2.2⟩
  setting _ := setting
  similar _ := .refl setting
  Rel _ _ _ F := Ends F
  mono h _ := h
  plain _ h := .const fun st heq => (h .exhausted st heq).ends rfl
  startTurn _ st := by
    refine .const fun st' => ?_
    rw [Runner.startTurn_apply]
    split <;> exact nofun
  bind hx hf := hx.bind fun a st₁ h => (hf a st₁ h).2
  locate _ h := h.mapExit fun _ => Exit.eq_exhausted_of_located
  settle _ h := h.settle _
  imported _ _ h := h.mapExit fun _ => Runner.eq_exhausted_of_inFile
  unreadable {_ _ _ _ text _} _ st _ _ hparse hx := by
    refine .const fun st' heq => hanswers.parse _ text hparse ?_
    injection heq with hexit _
    rw [hx, Runner.eq_exhausted_of_inFile hexit]
  geometry {_ _ place _} _ path st hhost hx := by
    refine .const fun st' heq => hanswers.host _ place hhost ?_
    injection heq with hexit _
    rw [hx, Runner.eq_exhausted_of_geometryExit hexit]

variable {hfinite : setting.scripts.Finite} {hanswers : setting.Answers}
  {depth scripts weight : Nat} {outer : List Scope} {files : List FilePath} {st : State}

/-- What ends with much fuel and stays in its frame obeys the law. -/
theorem good_ending {α : Type} {effect : Effect} {blame : Blame}
    {F : Nat → EStateM.Result Exit State α} (hframe : ∀ n, Frame effect st (Result.state (F n)))
    (hends : Ends F)
    (hI : (ending hfinite hanswers depth scripts weight).Holds effect outer files st) :
    (ending hfinite hanswers depth scripts weight).Good effect blame outer files st F :=
  ⟨hframe, fun n => ⟨(hframe n).scope.extends.depth.trans hI.1, hI.2.1,
    (hframe n).world.importing.trans hI.2.2⟩, hends⟩

/-- Running out of fuel early does not matter. -/
theorem Law.Good.after {blame : Blame} {F : Nat → EStateM.Result Exit State Unit}
    (h : (ending hfinite hanswers depth scripts weight).Good .statement blame outer files st F)
    (hI : (ending hfinite hanswers depth scripts weight).Holds .statement outer files st)
    (i : Nat) :
    (ending hfinite hanswers depth scripts weight).Good .statement blame outer files st
      fun n => if n ≤ i then .error .exhausted st else F n := by
  refine good_ending (fun n => ?_) ?_ hI
  · split
    · exact Frame.refl .statement st
    · exact h.frame n
  · refine Ends.late h.rel (i + 1) fun n hn => ?_
    rw [if_neg (by omega)]

/-- The turns of a loop from turn `i` on, if the fuel is `n` in all. -/
theorem Runner.overRange_sub (act : Value → Eval Unit) (range : NumberRange Float) (n i : Nat)
    (st : State) :
    overRange act range (n - i) i st
      = if n ≤ i then .error .exhausted st
        else match range.item? i with
          | none => .ok () st
          | some x =>
            (act (.number x) >>= fun _ => overRange act range (n - (i + 1)) (i + 1)) st := by
  split
  · rw [Nat.sub_eq_zero_of_le ‹_›]
    rfl
  · obtain ⟨k, hk⟩ : ∃ k, n - i = k + 1 := ⟨n - i - 1, by omega⟩
    rw [show n - (i + 1) = k by omega, hk, overRange]
    cases range.item? i <;> rfl

/-- **A loop over a range with an end** ends, if its turns do. -/
theorem loops_ending {R : Nat → Runner} (hturns : ∀ n, (R n).turns = n) {range : NumberRange Float}
    (hend : ∃ i, range.item? i = none) :
    (ending hfinite hanswers depth scripts weight).Loops R range := by
  intro outer files st act hact hI
  simp only [hturns]
  obtain ⟨last, hlast⟩ := hend
  -- by induction on the number of turns that are left until the end is known to be passed
  have hfrom (left : Nat) : ∀ i st, i + left = last →
      (ending hfinite hanswers depth scripts weight).Holds .statement outer files st →
      (ending hfinite hanswers depth scripts weight).Good .statement .placed outer files st
        fun n => Runner.overRange (act n) range (n - i) i st := by
    induction left with
    | zero =>
      intro i st hi hI
      obtain rfl : i = last := hi
      simp only [Runner.overRange_sub, hlast]
      exact Law.Good.after (.pure () hI) hI i
    | succ left ih =>
      intro i st hi hI
      simp only [Runner.overRange_sub]
      cases range.item? i with
      | none => exact Law.Good.after (.pure () hI) hI i
      | some x =>
        refine Law.Good.after ((hact _ st hI).bind fun _ st₁ _ hI₁ => ?_) hI i
        exact ih (i + 1) st₁ (by omega) hI₁
  exact hfrom last 0 st (Nat.zero_add last) hI

/-! ### Tasks end -/

/-- **A loop that ends**: a range that it goes through has an end. -/
def Moment.LoopEnds (m : Moment) : Prop :=
  ∀ range binder? sequence body, m.task = .statement (.loop range binder? sequence body) →
    m.isOver = false → ∀ fuel v st', runExpression fuel m.env sequence m.state = .ok v st' →
      ∀ numbers, v.loopRange? = some numbers → ∃ i, numbers.item? i = none

variable {bad : List Moment → Moment → Bool}

/-- The value of a block ends, if the bodies of blocks that are called one deeper do. -/
theorem build_ends (hbody : depth < Runner.deepestCall → ∀ scripts weight active,
      (ending hfinite hanswers (depth + 1) scripts weight).Agree fun n =>
        Runner.trapped bad .cancelled n active)
    (active : List Moment) (symbol : Symbol) (hdepth : st.scope.depth = depth) :
    Ends fun n => (Runner.trapped bad .cancelled n active).build ⟨setting, outer⟩ symbol
      st := by
  refine .layer (.trap ?_ (bad active) (.build symbol) ⟨setting, outer⟩) fun _ => rfl
  generalize ⟨.build symbol, ⟨setting, outer⟩, st, false⟩ :: active = active
  cases symbol with
  | shape s =>
    have hbuild : Primitive (fun _ => True) .expression .unplaced (s.build setting) :=
      primitive_build setting s
    exact .const fun st' h => (hbuild.exit st .exhausted st' h).ends rfl
  | closure c =>
    have hcall : Ends fun n =>
        (Runner.trapped bad .cancelled n active).call ⟨setting, outer⟩ c st := by
      cases hlevel : Scope.atLevel? outer c.level with
      | none =>
        simp only [Runner.call_of_none hlevel]
        exact .const fun _ => nofun
      | some defining =>
        rcases Nat.lt_or_ge st.scope.depth Runner.deepestCall with hlt | hge
        · simp only [Runner.call_of_body hlevel hlt]
          refine .settle (.bind (.layer (.trap ?_ (bad active) (.body c.body) _) fun _ => rfl) ?_) _
          · have hagree := hbody (hdepth ▸ hlt) (setting.unread st.world.importing)
              (Task.body c.body).weight
            refine ((hagree _).bodyStatements (fun s hs => .inr ⟨rfl, ?_⟩)
              ⟨?_, Nat.le_refl _, ?_⟩).rel
            · exact Task.weight_lt_of_mem_parts (List.mem_map_of_mem hs)
            · exact congrArg (· + 1) hdepth
            · rfl
          · intro _ st₁ _
            have hresult : Primitive (fun _ => True) .expression .unplaced
                (Eval.scope >>= fun s => Step.ofExcept (Runner.resultOf s)) :=
              .scope_bind fun s => .ofExcept _
            exact .const fun st' h => (hresult.exit st₁ .exhausted st' h).ends rfl
        · simp only [Runner.call_of_deep hlevel hge]
          exact .const fun _ => nofun
    simp only [Runner.construct, Runner.callFromFile_apply]
    split
    · exact hcall
    · exact hcall.mapExit fun _ => Runner.eq_exhausted_of_inFile
  | _ => exact .const fun _ => nofun

/-- **Tasks end at a depth of calls where blocks do**, whatever is left to run. -/
theorem agree_ending (hbad : ∀ active m, ¬ bad active m → m.LoopEnds)
    (hbuild : ∀ active outer symbol st, st.scope.depth = depth → Ends fun n =>
      (Runner.trapped bad .cancelled n active).build ⟨setting, outer⟩ symbol st)
    (scripts weight : Nat) (active : List Moment) :
    (ending hfinite hanswers depth scripts weight).Agree fun n =>
      Runner.trapped bad .cancelled n active := by
  induction scripts using Nat.strong_induction_on generalizing weight active with
  | _ scripts ihscripts =>
  induction weight using Nat.strong_induction_on generalizing active with
  | _ weight ihweight =>
  -- a task of the script has less left to run than is allowed for
  have hless (files : List FilePath) (t : Task) (active : List Moment)
      (ht : (ending hfinite hanswers depth scripts weight).Writes files t) :
      (ending hfinite hanswers depth (setting.unread files) t.weight).Agree fun n =>
        Runner.trapped bad .cancelled n active := by
    rcases ht with hlt | ⟨heq, hlt⟩
    · exact ihscripts _ hlt _ _
    · exact heq ▸ ihweight _ hlt _
  have howns (files : List FilePath) (t : Task) :
      (ending hfinite hanswers depth (setting.unread files) t.weight).Owns files t :=
    ⟨fun t' ht => .inr ⟨rfl, Task.weight_lt_of_mem_parts ht⟩, fun _ _ => trivial⟩
  have hframes (n : Nat) := Accord.agree_trapped setting bad .cancelled n active
  refine ⟨?_, ?_, ?_⟩
  · intro outer files e st he hI
    have hends : Ends fun n =>
        (Runner.trapped bad .cancelled n active).expression ⟨setting, outer⟩ e st := by
      refine .layer (.trap ?_ (bad active) (.expression e) ⟨setting, outer⟩) fun _ => rfl
      exact ((hless files _ _ he).evaluate (howns files _) ⟨hI.1, Nat.le_refl _, hI.2.2⟩).rel
    exact good_ending (fun n => ((hframes n).expression outer e st trivial).frame') hends hI
  · intro outer files s st hs hI
    have hends : Ends fun n =>
        (Runner.trapped bad .cancelled n active).statement ⟨setting, outer⟩ s st := by
      by_cases hstart : bad active ⟨.statement s, ⟨setting, outer⟩, st, false⟩
      · -- the alarm is heard
        refine ⟨0, .error .cancelled st, fun _ => nofun, fun n _ => ?_⟩
        cases n with
        | zero => exact trap_start hstart
        | succ n => exact trap_start hstart
      · refine .layer (.trap ?_ (bad active) (.statement s) ⟨setting, outer⟩) fun _ => rfl
        refine ((hless files _ _ hs).execute (howns files _) ?_ ⟨hI.1, Nat.le_refl _, hI.2.2⟩).rel
        rintro range binder? sequence body rfl n v st₁ numbers hv hnumbers
        refine loops_ending (fun n => by cases n <;> rfl) ?_
        exact hbad _ _ hstart range binder? sequence body rfl rfl n v st₁
          (runExpression_of_trapped hv) numbers hnumbers
    exact good_ending (fun n => ((hframes n).statement outer s st trivial).frame') hends hI
  · intro outer files symbol name st hname hs hI
    refine good_ending (fun n => ((hframes n).build outer symbol st trivial hs).frame')
      (hbuild active outer symbol st hI.1) ⟨hI.1, hI.2⟩

/-- **Tasks end at every depth of calls**, by induction on how many calls are still possible. -/
theorem agree_ending_of_depth (hbad : ∀ active m, ¬ bad active m → m.LoopEnds) (calls : Nat) :
    ∀ depth, Runner.deepestCall ≤ depth + calls → ∀ scripts weight active,
      (ending hfinite hanswers depth scripts weight).Agree fun n =>
        Runner.trapped bad .cancelled n active := by
  induction calls with
  | zero =>
    intro depth hdepth
    have hbody : depth < Runner.deepestCall → ∀ scripts weight active,
        (ending hfinite hanswers (depth + 1) scripts weight).Agree fun n =>
          Runner.trapped bad .cancelled n active :=
      fun hlt => absurd hdepth (by omega)
    exact agree_ending hbad fun active _ symbol _ => build_ends hbody active symbol
  | succ calls ih =>
    intro depth hdepth
    have hbody := ih (depth + 1) (by omega)
    exact agree_ending hbad fun active _ symbol _ => build_ends (fun _ => hbody) active symbol

end Ending

/-! ### Programs end -/

open Classical in
/-- **Every run of a program ends**, with a scene or early, if the host has a finite number of
scripts and the program loops over no range without an end: neither blocks that call each other nor
scripts that import each other go on for ever. -/
theorem Program.run_ends {setting : Setting} {p : Program} (hfinite : setting.scripts.Finite)
    (hanswers : setting.Answers)
    (hloops : ∀ fuel, Throughout fuel (fun r => r.program { setting } p) p.start
      fun _ m => m.LoopEnds) :
    ∃ n outcome, outcome.result ≠ .error .exhausted ∧
      ∀ fuel, n ≤ fuel → p.run fuel setting = outcome := by
  let whole : Task := .body (.mk default p.statements)
  have hagree : (ending hfinite hanswers 0 (setting.unread []) whole.weight).Agree fun n =>
      Runner.trapped (fun _ m => decide (¬ m.LoopEnds)) .cancelled n [] :=
    agree_ending_of_depth (fun _ _ h => by simpa using h) Runner.deepestCall 0 (by omega) _ _ _
  have hrun : Ends fun fuel =>
      (Runner.trapped (fun _ m => decide (¬ m.LoopEnds)) .cancelled fuel [])
      |>.program { setting } p p.start := by
    refine .settle (hagree.statements (fun s hs => .inr ⟨rfl, ?_⟩) ⟨rfl, Nat.le_refl _, rfl⟩).rel _
    exact Task.weight_lt_of_mem_parts (t := whole) (List.mem_map_of_mem hs)
  -- the alarm for loops without an end is never heard
  have hends : Ends fun fuel => p.finish fuel setting :=
    hrun.late 0 fun fuel _ => (hloops fuel .cancelled).symm
  obtain ⟨n, res, hres, hn⟩ := hends
  refine ⟨n, p.run n setting, fun hexhausted => ?_, fun fuel hfuel => run_eq_of_finish ?_⟩
  · exact hres _ ((hn n (Nat.le_refl n)).symm.trans (finish_eq_of_run hexhausted).2)
  · exact (hn fuel hfuel).trans (hn n (Nat.le_refl n)).symm

/-! ### Blocks that call each other -/

namespace Echo

/-- The file of the script that is imported. -/
def place : FilePath := ⟨"/", ["lib.shape"]⟩

/-- A script with a block that calls one of its importer. -/
def library : Program where
  source := "define pong \x7b ping \x7d"
  statements := [
    .define ⟨0, 20⟩ ⟨⟨7, 11⟩, "pong"⟩ (.block (.mk ⟨12, 20⟩ [
      .command ⟨14, 18⟩ ⟨⟨14, 18⟩, "ping"⟩ none]))]

/-- Two numbers in a row. -/
def numbers : Expr := .tuple ⟨45, 48⟩ [.number ⟨45, 46⟩ 1, .number ⟨47, 48⟩ 2]

/-- A program with a block that calls one of the imported script, and so itself. -/
def program : Program where
  source := "import \"lib.shape\"\ndefine ping \x7b pong \x7d\nfor (1 2) \x7b ping \x7d"
  statements := [
    .importFile ⟨0, 18⟩ (.string ⟨7, 18⟩ "lib.shape"),
    .define ⟨19, 39⟩ ⟨⟨26, 30⟩, "ping"⟩ (.block (.mk ⟨31, 39⟩ [
      .command ⟨33, 37⟩ ⟨⟨33, 37⟩, "pong"⟩ none])),
    .loop ⟨40, 58⟩ none numbers
      (.mk ⟨50, 58⟩ [.command ⟨52, 56⟩ ⟨⟨52, 56⟩, "ping"⟩ none])]

/-- The setting with that script alone. -/
def setting : Setting := .ofScript place library

theorem scripts_finite : setting.scripts.Finite := by
  refine (Set.finite_singleton place).subset ?_
  rintro file ⟨-, _, text, ⟨⟩, hread⟩
  dsimp only at hread
  split at hread
  · assumption
  · cases hread

theorem answers : setting.Answers where
  host := by rintro _ p ⟨⟩; exact nofun
  parse := by
    rintro _ text ⟨⟩
    dsimp only
    split <;> exact nofun

/-- Whether a task is no loop, or one over two numbers. -/
def isShortLoop : Task → Bool
  | .statement (.loop _ _ (.tuple _ [.number _ _, .number _ _]) _) => true
  | .statement (.loop _ _ _ _) => false
  | _ => true

/-- Two numbers in a row are no range. -/
theorem loopRange?_of_runExpression {fuel : Nat} {env : Env} {st st' : State} {v : Value}
    {r r₁ r₂ : SourceRange} {x y : Float}
    (h : runExpression fuel env (.tuple r [.number r₁ x, .number r₂ y]) st = .ok v st') :
    v.loopRange? = none := by
  match fuel with
  | 0 => cases h
  | 1 => cases h
  | fuel + 2 => cases h; rfl

/-- The loops that are written are over two numbers. -/
theorem isShortLoop_of_writes {t : Task} (h : setting.Writes program t) : isShortLoop t := by
  rcases h with h | ⟨_, _, p, hp, h⟩
  · exact h.of_everywhere 3 rfl
  · rw [Setting.eq_of_scriptAt_ofScript hp] at h
    exact h.of_everywhere 3 rfl

theorem loopEnds {m : Moment} (h : ∀ t ∈ m.task.texts, setting.Writes program t) : m.LoopEnds := by
  rintro range binder? sequence body htask - fuel v st' hv numbers hnumbers
  rw [htask] at h
  have hshort := isShortLoop_of_writes (h _ List.mem_cons_self)
  unfold isShortLoop at hshort
  split at hshort
  · rename_i heq
    cases heq
    rw [loopRange?_of_runExpression hv] at hnumbers
    cases hnumbers
  · cases hshort
  · rename_i hloop
    exact absurd rfl (hloop _ _ _ _)

/-- Two blocks of two files call each other, in each turn of a loop, and the run ends. -/
theorem run_ends_program :
    setting.scripts.Finite ∧ setting.Answers ∧
    (∀ fuel, Throughout fuel (fun r => r.program { setting } program) program.start
      fun _ m => m.LoopEnds) ∧
    ∃ n outcome, outcome.result ≠ .error .exhausted ∧
      ∀ fuel, n ≤ fuel → program.run fuel setting = outcome := by
  have hloops (fuel : Nat) : Throughout fuel (fun r => r.program { setting } program) program.start
      fun _ m => m.LoopEnds :=
    Program.throughout_of_writes fuel fun _ _ => loopEnds
  exact ⟨scripts_finite, answers, hloops, Program.run_ends scripts_finite answers hloops⟩

end Echo

end SceneLang
