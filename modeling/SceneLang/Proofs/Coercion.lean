import SceneLang.Evaluation.Coercion

/-!
# What coercion promises

`Argument.coerce` turns the values of some parameters into one value of the kind that is asked for.
`Argument.coerce_sound` says that it keeps its word: the value has the shape that the kind promises
(`Value.HasShape`), or the run stops with a script error that points at the argument or into it
(`Argument.Concerns`).  There may be fewer values than parameters, because a name can take what
follows it, but there is at least one and there are not more (`Argument.Takes`).  That is all that
is needed for every position that is computed on the way to be one of the parameters.

Each function of coercion is looked at once, as an operation that `Delivers`: it gives a result of a
kind or blames the argument.
-/

namespace SceneLang

/-! ### Shapes -/

/-- **The shape that a kind of argument promises.**  A pair is only known to have at most two
numbers, and nothing at all can be passed to a command that takes nothing. -/
def Value.HasShape (v : Value) : Kind → Prop
  | .font => v.kind = .string
  | .colorOrTexture => v.kind = .color ∨ v.kind = .texture
  | .paths => ∃ ps : List Path, v = .tuple (ps.map .path)
  | .pair => ∃ xs : List Float, v = .tuple (xs.map .number) ∧ xs.length ≤ 2
  | .void => False
  | kind => v.kind = kind

/-- A value has the shape of its own kind. -/
theorem Value.hasShape_of_kind {v : Value} {kind : Kind} (h : v.kind = kind) :
    v.HasShape kind := by
  subst h
  cases v <;> rfl

theorem Value.exists_path_of_kind {v : Value} (h : v.kind = .path) : ∃ p : Path, v = .path p := by
  cases v with
  | path p => exact ⟨p, rfl⟩
  | _ => cases h

theorem Value.exists_paths_of_kind {vs : List Value} (h : ∀ v ∈ vs, v.kind = .path) :
    ∃ ps : List Path, vs = ps.map .path := by
  induction vs with
  | nil => exact ⟨[], rfl⟩
  | cons v rest ih =>
    obtain ⟨p, rfl⟩ := Value.exists_path_of_kind (h v List.mem_cons_self)
    obtain ⟨ps, rfl⟩ := ih fun w hw => h w (List.mem_cons_of_mem _ hw)
    exact ⟨p :: ps, rfl⟩

/-! ### Outcomes -/

namespace Result

variable {σ α β : Type}

/-- What a step gives, without the state that it leaves. -/
def outcome : EStateM.Result Exit σ α → Except Exit α
  | .ok a _ => .ok a
  | .error x _ => .error x

theorem outcome_ofExit (r : Except Exit α) (s : σ) : outcome (Step.ofExit r s) = r := by
  cases r <;> rfl

theorem outcome_bind_pure (act : Step σ α) (f : α → β) (s : σ) :
    outcome ((act >>= fun a => pure (f a)) s) = (outcome (act s)).map f := by
  show outcome (EStateM.bind act (fun a => pure (f a)) s) = _
  unfold EStateM.bind
  cases act s <;> rfl

end Result

/-! ### Errors about an argument -/

namespace Argument

/-- **The places that an error about an argument points at**: the whole argument, a parameter, an
element of the first parameter where that is a tuple, in parentheses or not, and the end of the last
parameter. -/
inductive Concerns (a : Argument) : SourceRange → Prop
  | whole : a.Concerns a.range
  | parameter {p : Expr} (hp : p ∈ a.parameters) : a.Concerns p.sourceRange
  | element {first item : Expr} {rest items : List Expr} {r : SourceRange}
    (hfirst : a.parameters = first :: rest) (htuple : stripped first = .tuple r items)
    (hitem : item ∈ items) : a.Concerns item.sourceRange
  | after {last : Expr} (hlast : a.parameters.getLast? = some last) :
    a.Concerns last.sourceRange.upperBound

/-- **A script error about an argument.**  It may still be without a place. -/
def Blames (a : Argument) (x : Exit) : Prop :=
  ∃ cause range, x = .error (.evaluation cause range) ∧ ∀ r, range = some r → a.Concerns r

/-- The range of an element of the first parameter is one that the argument is concerned with. -/
theorem concerns_elementRange {a : Argument} {first : Expr} {rest : List Expr}
    (hfirst : a.parameters = first :: rest) (i : Nat) : a.Concerns (elementRange first i) := by
  have hwhole : a.Concerns first.sourceRange := .parameter (by simp [hfirst])
  unfold elementRange
  split
  · next r items htuple =>
    split
    · next item hitem => exact .element hfirst htuple (List.mem_of_getElem? hitem)
    · exact hwhole
  · exact hwhole

section Blames

variable {a : Argument} {cause : ErrorCause} {r : SourceRange}

theorem blames_raise (h : a.Concerns r) : a.Blames (.raise cause r) := by
  refine ⟨cause, some r, rfl, ?_⟩
  rintro _ ⟨⟩
  exact h

theorem blames_unplaced : a.Blames (.unplaced cause) := ⟨cause, none, rfl, nofun⟩

/-- A missing place is filled in. -/
theorem Blames.located {x : Exit} (h : a.Blames x) (hr : a.Concerns r) :
    ∃ cause r', x.located r = .raise cause r' ∧ a.Concerns r' := by
  obtain ⟨cause, range, rfl, hrange⟩ := h
  cases range with
  | none => exact ⟨cause, r, rfl, hr⟩
  | some r' => exact ⟨cause, r', rfl, hrange r' rfl⟩

end Blames

/-- **An operation on an argument gives a result of a kind, or blames the argument.** -/
def Delivers {α : Type} (a : Argument) (P : α → Prop) : Except Exit α → Prop
  | .ok x => P x
  | .error x => a.Blames x

namespace Delivers

variable {α β : Type} {a : Argument} {P : α → Prop} {Q : β → Prop} {r : Except Exit α}

theorem bind {f : α → Except Exit β} (hr : a.Delivers P r) (hf : ∀ x, P x → a.Delivers Q (f x)) :
    a.Delivers Q (r >>= f) := by
  cases r with
  | ok x => exact hf x hr
  | error x => exact hr

theorem map {f : α → β} (hr : a.Delivers P r) (hf : ∀ x, P x → Q (f x)) :
    a.Delivers Q (r.map f) := by
  cases r with
  | ok x => exact hf x hr
  | error x => exact hr

theorem mono {P' : α → Prop} (hr : a.Delivers P r) (h : ∀ x, P x → P' x) : a.Delivers P' r := by
  cases r with
  | ok x => exact h x hr
  | error x => exact hr

end Delivers

/-! ### The functions of coercion -/

/-- **The values are those of the parameters** of an argument. -/
structure Takes (a : Argument) (values : List Value) : Prop where
  some : a.parameters ≠ [] → values ≠ []
  few : values.length ≤ a.parameters.length

variable {a : Argument} {values : List Value} {α : Type} {P : α → Prop}

theorem delivers_raiseAt {i : Nat} (h : i < a.parameters.length) (cause : ErrorCause) :
    a.Delivers P (a.raiseAt i cause) := by
  rw [raiseAt, List.getElem?_eq_getElem h]
  exact blames_raise (.parameter (List.getElem_mem h))

theorem delivers_checkCount (h : a.parameters ≠ []) (least most : Nat) :
    a.Delivers (fun _ => a.parameters.length ≤ most) (a.checkCount least most) := by
  unfold checkCount
  split
  · next hmost => exact delivers_raiseAt hmost _
  · next hmost =>
    split
    · have hlast := List.getLast?_eq_some_getLast h
      rw [hlast]
      exact blames_raise (.after hlast)
    · exact Nat.le_of_not_lt hmost

theorem delivers_opened (h : a.parameters ≠ []) {most : Nat} (hfew : values.length ≤ most) :
    a.Delivers (fun vs => vs.length ≤ most) (a.opened most values) := by
  unfold opened
  split
  · split
    · split
      · next first rest hfirst => exact blames_raise (concerns_elementRange hfirst most)
      · next hnil => exact absurd hnil h
    · next hlength => exact Nat.le_of_not_lt hlength
  · exact hfew

theorem delivers_checkSingle (kind : Kind) (values : List Value) :
    a.Delivers (fun _ => True) (a.checkSingle kind values) := by
  unfold checkSingle
  split
  · split
    · split
      · next hlength => exact delivers_raiseAt hlength _
      · exact blames_raise .whole
    · trivial
  · trivial

/-- A value that is no number is put down to its parameter or, where values were opened, to the last
one; either is there. -/
theorem delivers_numbersFrom (h : a.parameters ≠ []) (kind : Kind) (i : Nat)
    (values : List Value) :
    a.Delivers (fun xs => xs.length = values.length) (a.numbersFrom kind i values) := by
  have hlast (i : Nat) : min (a.parameters.length - 1) i < a.parameters.length := by
    have hpos := List.length_pos_iff.mpr h
    omega
  induction values generalizing i with
  | nil => rfl
  | cons v rest ih =>
    cases v with
    | number x =>
      refine (ih (i + 1)).bind fun xs hxs => ?_
      exact congrArg (· + 1) hxs
    | _ => exact delivers_raiseAt (hlast i) _

/-- **The numbers of an argument** are as many as allowed. -/
theorem Takes.delivers_numbers (ha : a.Takes values) (h : a.parameters ≠ []) (kind : Kind)
    (least most : Nat) :
    a.Delivers (fun xs => xs.length ≤ most) (a.numbers kind least most values) := by
  refine (delivers_checkCount h least most).bind fun _ hcount => ?_
  refine (delivers_opened h (Nat.le_trans ha.few hcount)).bind fun vs hvs => ?_
  refine (delivers_checkSingle kind vs).bind fun _ _ => ?_
  refine (delivers_numbersFrom h kind 0 vs).mono fun xs hxs => ?_
  omega

/-- The paths of an argument; the positions count the values, of which there are not more than
parameters. -/
theorem delivers_pathsFrom (i : Nat) (h : i + values.length ≤ a.parameters.length) :
    a.Delivers (fun vs => ∀ v ∈ vs, v.kind = .path) (a.pathsFrom i values) := by
  induction values generalizing i with
  | nil => exact fun v hv => absurd hv List.not_mem_nil
  | cons v rest ih =>
    rw [List.length_cons] at h
    rw [pathsFrom]
    split
    · next hall =>
      refine (ih (i + 1) (by omega)).bind fun vs hvs w hw => ?_
      rcases List.mem_append.mp hw with hw | hw
      · exact of_decide_eq_true (List.all_eq_true.mp hall w hw)
      · exact hvs w hw
    · exact delivers_raiseAt (by omega) _

theorem Takes.delivers_mismatch (ha : a.Takes values) (h : a.parameters ≠ []) (kind : Kind) :
    a.Delivers P (a.mismatch kind values) := by
  cases values with
  | nil => exact absurd rfl (ha.some h)
  | cons v rest =>
    rw [mismatch]
    split
    · next hmore => exact delivers_raiseAt hmore.2 _
    · exact delivers_raiseAt (List.length_pos_iff.mpr h) _

theorem kind_of_asIs? {kind : Kind} {v : Value} (h : asIs? kind values = some v) :
    values = [v] ∧ v.kind = kind := by
  unfold asIs? at h
  split at h
  · split at h
    · next hkind =>
      cases h
      exact ⟨rfl, hkind⟩
    · cases h
  · cases h

theorem Takes.delivers_color (ha : a.Takes values) (h : a.parameters ≠ []) :
    a.Delivers (fun v => v.kind = .color) (a.color values) := by
  unfold color
  split
  · next v hv => exact (kind_of_asIs? hv).2
  · exact (ha.delivers_numbers h .color 1 4).bind fun _ _ => rfl

theorem Takes.delivers_font (ha : a.Takes values) (h : a.parameters ≠ []) (setting : Setting) :
    a.Delivers (fun v => v.kind = .string) (a.font setting values) := by
  have hfont (name : String) : a.Delivers (fun _ => True) (checkFont setting name) := by
    unfold checkFont
    dsimp only
    split
    · trivial
    · split
      · trivial
      · exact blames_unplaced
  unfold font
  split
  · rfl
  · exact (hfont _).map fun _ _ => rfl
  · exact ha.delivers_mismatch h .font

/-! ### Files -/

/-- **The host knows where the files are** that the texts among the values name. -/
def Resolves (setting : Setting) (values : List Value) : Prop :=
  ∀ host, setting.host = some host → ∀ path, .string (some path) ∈ values →
    ∃ place, host.resolve path = .ok place

/-- Without a host nothing can be found, which is a script error. -/
theorem delivers_resolve {setting : Setting} {path : String}
    (hresolves : Resolves setting [.string (some path)]) (st : State) :
    a.Delivers (fun _ => True) (Result.outcome (setting.resolve path st)) := by
  unfold Setting.resolve
  cases hhost : setting.host with
  | none => exact blames_unplaced
  | some host =>
    obtain ⟨place, hplace⟩ := hresolves host hhost path List.mem_cons_self
    simp only [hplace]
    trivial

theorem Takes.delivers_texture {setting : Setting} (ha : a.Takes values) (h : a.parameters ≠ [])
    (hresolves : Resolves setting values) (st : State) :
    a.Delivers (fun v => v.kind = .texture) (Result.outcome (a.texture setting values st)) := by
  unfold texture
  split
  · rfl
  · rfl
  · next path =>
    rw [Result.outcome_bind_pure]
    exact (delivers_resolve hresolves st).map fun _ _ => rfl
  · rw [Result.outcome_ofExit]
    exact ha.delivers_mismatch h .texture

/-! ### Coercion -/

/-- **Reading an argument** gives a value of the shape that is promised. -/
theorem Takes.delivers_read {setting : Setting} (ha : a.Takes values) (h : a.parameters ≠ [])
    (hresolves : Resolves setting values) (kind : Kind) (st : State) :
    a.Delivers (fun v => v.HasShape kind) (Result.outcome (a.read setting kind values st)) := by
  have hmismatch (k : Kind) : a.Delivers (fun v => v.HasShape kind)
      (Result.outcome ((Step.ofExit (a.mismatch k values) : Eval Value) st)) := by
    rw [Result.outcome_ofExit]
    exact ha.delivers_mismatch h k
  have hnumbers {k : Kind} {least most : Nat} (f : List Float → Value)
      (hf : ∀ xs : List Float, xs.length ≤ most → (f xs).HasShape kind) :
      a.Delivers (fun v => v.HasShape kind) (Result.outcome
        ((do return f (← Step.ofExit (a.numbers k least most values)) : Eval Value) st)) := by
    rw [Result.outcome_bind_pure, Result.outcome_ofExit]
    exact (ha.delivers_numbers h k least most).map hf
  cases kind with
  | color =>
    simp only [read, Result.outcome_ofExit]
    exact ha.delivers_color h
  | vector => exact hnumbers _ fun xs _ => rfl
  | size => exact hnumbers _ fun xs _ => rfl
  | pair => exact hnumbers _ fun xs hxs => ⟨xs, rfl, hxs⟩
  | tuple => exact (rfl : (Value.tuple values).kind = .tuple)
  | texture => exact ha.delivers_texture h hresolves st
  | colorOrTexture =>
    simp only [read]
    unfold colorOrTexture
    split
    · exact absurd rfl (ha.some h)
    · split
      · exact (ha.delivers_texture h hresolves st).mono fun v hv => .inr hv
      · rw [Result.outcome_ofExit]
        exact (ha.delivers_color h).mono fun v hv => .inl hv
  | font =>
    simp only [read, Result.outcome_ofExit]
    exact ha.delivers_font h setting
  | paths =>
    simp only [read]
    rw [Result.outcome_bind_pure, Result.outcome_ofExit]
    have hfew : 0 + values.length ≤ a.parameters.length := by simpa using ha.few
    refine (delivers_pathsFrom 0 hfew).map fun vs hvs => ?_
    obtain ⟨ps, rfl⟩ := Value.exists_paths_of_kind hvs
    exact ⟨ps, rfl⟩
  | void =>
    simp only [read, Result.outcome_ofExit]
    exact delivers_raiseAt (List.length_pos_iff.mpr h) _
  | _ => exact hmismatch _

/-- **Coercion is sound.**  An argument without parameters is nothing, where nothing is asked for,
and a missing argument otherwise.  An argument with parameters, of which there is at least one value
and at most one for each parameter, is coerced to a value of the shape that is promised, or the run
stops with a script error that points at the argument or into it. -/
theorem coerce_sound (setting : Setting) (a : Argument) (kind : Kind) (values : List Value)
    (st : State) (hresolves : Resolves setting values) :
    (a.parameters = [] → a.coerce setting kind values st =
      if kind = .void then .ok .void st
      else .error (.raise (.missingArgument a.name a.index kind.description) a.range) st) ∧
    (1 ≤ values.length → values.length ≤ a.parameters.length →
      (∃ v st', a.coerce setting kind values st = .ok v st' ∧ v.HasShape kind) ∨
      ∃ cause r st', a.coerce setting kind values st = .error (.raise cause r) st' ∧
        a.Concerns r) := by
  constructor
  · intro hnone
    simp only [coerce, hnone]
    split <;> rfl
  · intro hsome hfew
    have ha : a.Takes values := ⟨fun _ => List.length_pos_iff.mp hsome, hfew⟩
    have hparameters : a.parameters ≠ [] := List.length_pos_iff.mp (by omega)
    obtain ⟨first, rest, hfirst⟩ := List.exists_cons_of_ne_nil hparameters
    have hconcerns : a.Concerns first.sourceRange := .parameter (by simp [hfirst])
    cases hv : asIs? kind values with
    | some v =>
      simp only [coerce, hfirst, hv]
      exact .inl ⟨v, st, rfl, Value.hasShape_of_kind (kind_of_asIs? hv).2⟩
    | none =>
      have hread := ha.delivers_read hparameters hresolves kind st
      simp only [coerce, hfirst, hv, Step.locate, Step.mapExit]
      cases hres : a.read setting kind values st with
      | ok v st' =>
        rw [hres] at hread
        exact .inl ⟨v, st', rfl, hread⟩
      | error x st' =>
        rw [hres] at hread
        obtain ⟨cause, r, hx, hr⟩ := Blames.located hread hconcerns
        exact .inr ⟨cause, r, st', by simp only [hx], hr⟩

end Argument

namespace Bark

/-- A run on a directory that is still empty. -/
def setting : Setting := { host := some (.ofFiles ⟨"", ["base"]⟩ {} none) }

/-- The argument of `texture pick "bark.png"`, where `pick` takes the text that follows it: two
parameters, but one value. -/
def argument : Argument where
  name := "texture"
  index := 0
  range := ⟨8, 23⟩
  parameters := [.identifier ⟨8, 12⟩ "pick", .string ⟨13, 23⟩ "bark.png"]

/-- What `pick` gives. -/
def values : List Value := [.string (some "bark.png")]

/-- The state before the argument is read. -/
def state : State := { scope := {}, world := {} }

/-- The path of an image is an argument where a colour or a texture is asked for. -/
theorem coerce_sound_bark :
    Argument.Resolves setting values ∧ 1 ≤ values.length ∧
    values.length ≤ argument.parameters.length ∧
    ((∃ v st', argument.coerce setting .colorOrTexture values state = .ok v st' ∧
        v.HasShape .colorOrTexture) ∨
      ∃ cause r st', argument.coerce setting .colorOrTexture values state =
        .error (.raise cause r) st' ∧ argument.Concerns r) := by
  have hresolves : Argument.Resolves setting values := by
    intro host hhost path hpath
    obtain rfl := Option.some.inj hhost
    obtain rfl : path = "bark.png" := by simpa [values] using hpath
    exact ⟨_, rfl⟩
  have hsome : 1 ≤ values.length := by decide
  have hfew : values.length ≤ argument.parameters.length := by decide
  refine ⟨hresolves, hsome, hfew, ?_⟩
  have hsound := Argument.coerce_sound setting argument .colorOrTexture values state hresolves
  exact hsound.2 hsome hfew

end Bark

end SceneLang
