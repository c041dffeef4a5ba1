import SceneLang.Proofs.Akin
import SceneLang.Proofs.Coercion

/-!
# What commands get as arguments

A command gets as its argument a value of the kind that it asks for.  The kinds that never belong to
a value say how an argument is read, so for them the value is a different one (`Value.IsArgument`):
a pair, for example, is a tuple of *at most* two numbers.  That coercion gives such a value, or stops
with a script error, is what it `Argument.Delivers`.

Places do not matter for any of this, so two runs that differ in places only read the same argument
(`Akin.coerce`).
-/

namespace SceneLang

/-! ### Usual results -/

/-- **An operation gives a result of a kind, or stops for a usual reason.** -/
def Usual {α : Type} (P : α → Prop) : Except Exit α → Prop
  | .ok a => P a
  | .error x => x.IsUsual

namespace Usual

variable {α β : Type} {P : α → Prop} {Q : β → Prop} {r : Except Exit α}

theorem bind {f : α → Except Exit β} (hr : Usual P r) (hf : ∀ a, P a → Usual Q (f a)) :
    Usual Q (r >>= f) := by
  cases r with
  | ok a => exact hf a hr
  | error x => exact hr

end Usual

/-- An operation that is the same in both runs. -/
theorem Refines.ofExit_same {σ α : Type} {alone : Prop} {M : σ → σ → Prop} {s s' : σ}
    {r : Except Exit α} {P : α → Prop} (hr : Usual P r) (hs : M s s') :
    Refines alone M (fun a b => b = a ∧ P a) (Step.ofExit r s) (Step.ofExit r s') := by
  cases r with
  | ok a => exact .ok ⟨rfl, hr⟩ hs
  | error x => exact .error (fun _ => hr) s _

/-! ### Arguments that are read -/

/-- **A value that can be the argument of a command** that asks for a kind. -/
def Value.IsArgument (v : Value) : Kind → Prop
  | .font => v.kind = .string
  | .colorOrTexture => v.kind = .color ∨ v.kind = .texture
  | .pair => ∃ xs : List Float, v = .tuple (xs.map .number) ∧ xs.length ≤ 2
  | .paths | .void => v.kind = .tuple
  | kind => v.kind = kind

theorem Value.isArgument_of_kind {v : Value} {kind : Kind} (h : v.kind = kind) :
    v.IsArgument kind := by
  subst h
  cases v <;> rfl

/-- An argument without nodes is the same in both runs. -/
theorem Value.IsArgument.eq_of_bare {v v' : Value} {kind : Kind} (h : v.IsArgument kind)
    (hbare : v'.bare = v.bare) (hkind : kind ∉ [.mesh, .tuple, .paths, .void]) : v' = v := by
  have hflat {k : Kind} (hk : v.kind = k) (hflat : k.isFlat = true) : v' = v :=
    Value.eq_of_bare hbare (hk ▸ hflat)
  cases kind with
  | mesh | tuple | paths | void => simp at hkind
  | pair =>
    obtain ⟨xs, rfl, -⟩ := h
    obtain ⟨vs', rfl, hvs⟩ := exists_of_bare_tuple hbare
    refine congrArg Value.tuple (eq_of_map_bare hvs fun v hv => ?_)
    obtain ⟨x, -, rfl⟩ := List.mem_map.mp hv
    rfl
  | colorOrTexture =>
    rcases h with h | h
    · exact hflat h rfl
    · exact hflat h rfl
  | _ => exact hflat h rfl

namespace Argument

variable {a : Argument} {α : Type} {P : α → Prop}

/-- To blame the argument is a usual reason to stop. -/
theorem Delivers.usual {r : Except Exit α} (h : a.Delivers P r) : Usual P r := by
  cases r with
  | ok x => exact h
  | error x =>
    obtain ⟨cause, range, rfl, -⟩ := h
    trivial

/-! ### Places do not matter -/

theorem isNumberTuple_bare (v : Value) : isNumberTuple v.bare = isNumberTuple v := by
  cases v with
  | tuple vs =>
    rw [Value.bare_tuple]
    simp only [isNumberTuple, Value.numbers?_bare]
  | _ => rfl

theorem numbersFrom_bare (a : Argument) (kind : Kind) (i : Nat) (values : List Value) :
    a.numbersFrom kind i (values.map Value.bare) = a.numbersFrom kind i values := by
  induction values generalizing i with
  | nil => rfl
  | cons v rest ih =>
    cases v with
    | number x =>
      show (do let xs ← a.numbersFrom kind (i + 1) (rest.map Value.bare); pure (x :: xs)) = _
      rw [ih]
      rfl
    | _ => rfl

theorem checkSingle_bare (a : Argument) (kind : Kind) (values : List Value) :
    a.checkSingle kind (values.map Value.bare) = a.checkSingle kind values := by
  match values with
  | [] => rfl
  | [v] => rfl
  | v :: next :: rest =>
    simp [checkSingle, isNumberTuple_bare, Function.comp_def]

/-- The numbers of an argument, without places. -/
theorem numbers_bare (a : Argument) (kind : Kind) (least most : Nat) (values : List Value) :
    a.numbers kind least most (values.map Value.bare) = a.numbers kind least most values := by
  have hopened : a.opened most (values.map Value.bare)
      = (a.opened most values).map (List.map Value.bare) := by
    match values with
    | [] => rfl
    | v :: next :: rest => cases v <;> rfl
    | [v] =>
      cases v with
      | tuple vs =>
        simp only [List.map_cons, List.map_nil, Value.bare_tuple, opened, List.length_map]
        split
        · split <;> rfl
        · rfl
      | _ => rfl
  unfold numbers
  rw [hopened]
  cases a.checkCount least most with
  | error x => rfl
  | ok _ =>
    cases a.opened most values with
    | error x => rfl
    | ok vs =>
      show (do
        a.checkSingle kind (vs.map Value.bare)
        a.numbersFrom kind 0 (vs.map Value.bare)) = (do
        a.checkSingle kind vs
        a.numbersFrom kind 0 vs)
      rw [checkSingle_bare, numbersFrom_bare]

theorem mismatch_bare (a : Argument) (kind : Kind) (values : List Value) :
    (a.mismatch kind (values.map Value.bare) : Except Exit α) = a.mismatch kind values := by
  cases values with
  | nil => rfl
  | cons v rest => simp [mismatch]

theorem asIs?_bare (kind : Kind) (values : List Value) :
    asIs? kind (values.map Value.bare) = (asIs? kind values).map Value.bare := by
  match values with
  | [] => rfl
  | v :: next :: rest => rfl
  | [v] =>
    simp only [List.map_cons, List.map_nil, asIs?, Value.kind_bare]
    split <;> rfl

theorem pathsFrom_bare (a : Argument) (i : Nat) (values : List Value) :
    a.pathsFrom i (values.map Value.bare) = a.pathsFrom i values := by
  induction values generalizing i with
  | nil => rfl
  | cons v rest ih =>
    have hall : (v.elements.map Value.bare).all (·.kind = .path)
        = v.elements.all (·.kind = .path) := by
      simp [List.all_map, Function.comp_def]
    rw [List.map_cons, pathsFrom, pathsFrom, ih, Value.elements_bare, hall, Value.kind_bare]
    split
    · next hpaths =>
      -- paths have no places
      have hpath (w : Value) (hw : w ∈ v.elements) : w.bare = id w := by
        have hkind : w.kind = .path := of_decide_eq_true (List.all_eq_true.mp hpaths w hw)
        cases w with
        | path p => rfl
        | _ => cases hkind
      rw [List.map_congr_left hpath, List.map_id]
    · rfl

theorem color_bare (a : Argument) (values : List Value) :
    a.color (values.map Value.bare) = a.color values := by
  unfold color
  rw [asIs?_bare, numbers_bare]
  cases hv : asIs? .color values with
  | none => rfl
  | some v =>
    obtain ⟨-, hkind⟩ := kind_of_asIs? hv
    cases v with
    | color c => rfl
    | _ => cases hkind

theorem font_bare (setting : Setting) (a : Argument) (values : List Value) :
    a.font setting (values.map Value.bare) = a.font setting values := by
  have hmismatch := a.mismatch_bare (α := Value) .font values
  match values with
  | [] => exact hmismatch
  | v :: next :: rest =>
    cases v with
    | string name => cases name <;> exact hmismatch
    | _ => exact hmismatch
  | [v] =>
    cases v with
    | string name => rfl
    | _ => exact hmismatch

theorem texture_bare (setting : Setting) (a : Argument) (values : List Value) :
    a.texture setting (values.map Value.bare) = a.texture setting values := by
  have hmismatch :=
    congrArg (Step.ofExit (σ := State)) (a.mismatch_bare (α := Value) .texture values)
  match values with
  | [] => exact hmismatch
  | v :: next :: rest =>
    cases v with
    | string name => cases name <;> exact hmismatch
    | _ => exact hmismatch
  | [v] =>
    cases v with
    | string name => rfl
    | texture t => rfl
    | _ => exact hmismatch

/-- **Reading an argument**, without places. -/
theorem read_bare (setting : Setting) (a : Argument) {kind : Kind} (hkind : kind ≠ .tuple)
    (values : List Value) :
    a.read setting kind (values.map Value.bare) = a.read setting kind values := by
  cases kind with
  | tuple => exact absurd rfl hkind
  | colorOrTexture =>
    cases values with
    | nil => rfl
    | cons v rest =>
      have htexture := a.texture_bare setting (v :: rest)
      have hcolor := a.color_bare (v :: rest)
      simp only [List.map_cons] at htexture hcolor
      simp only [List.map_cons, read, colorOrTexture, Value.kind_bare, htexture, hcolor]
  | _ => simp only [read, color_bare, numbers_bare, font_bare, texture_bare, pathsFrom_bare,
      mismatch_bare]

end Argument

/-! ### Arguments in two runs -/

namespace Akin

variable {alone : Prop} {outer outer' : List Scope} {st st' : State} {setting : Setting}
  {a : Argument} {values values' : List Value}

/-- The file that a path stands for. -/
theorem resolve (hM : Akin alone outer outer' st st') (halone : alone → setting.host = none)
    (path : String) :
    Refines alone (Akin alone outer outer') Eq (setting.resolve path st)
      (setting.resolve path st') := by
  cases hhost : setting.host with
  | none =>
    simp only [Setting.resolve, hhost]
    exact .raise _ _
  | some host =>
    have hnot (h : alone) : False := by
      rw [halone h] at hhost
      cases hhost
    simp only [Setting.resolve, hhost]
    cases host.resolve path with
    | error f => exact .error (fun h => (hnot h).elim) st _
    | ok place =>
      -- which files were asked for does not matter
      exact .ok rfl ⟨hM.scope, hM.below, hM.world, hM.importing, hM.orderly⟩

theorem texture (hM : Akin alone outer outer' st st') (halone : alone → setting.host = none)
    (ha : a.Takes values) (h : a.parameters ≠ []) :
    Refines alone (Akin alone outer outer') (fun v v' => v' = v ∧ v.kind = .texture)
      (a.texture setting values st) (a.texture setting values st') := by
  unfold Argument.texture
  split
  · exact .pure ⟨rfl, rfl⟩ hM
  · exact .pure ⟨rfl, rfl⟩ hM
  · exact (hM.resolve halone _).bind_eq fun _ _ _ hM₁ => .pure ⟨rfl, rfl⟩ hM₁
  · exact .ofExit_same ((ha.delivers_mismatch h .texture).usual) hM

/-- An argument with at least one parameter. -/
theorem readArgument (hM : Akin alone outer outer' st st') (halone : alone → setting.host = none)
    (ha : a.Takes values) (h : a.parameters ≠ []) {kind : Kind} (hkind : kind ≠ .tuple) :
    Refines alone (Akin alone outer outer')
      (fun v v' => v.Akin alone v' ∧ v.IsArgument kind) (a.read setting kind values st)
      (a.read setting kind values st') := by
  have hflat {v v' : Value} {k : Kind} (hv : v' = v ∧ v.kind = k) (hflat : k.isFlat = true) :
      v.Akin alone v' := by
    rw [hv.1]
    exact .flat v (hv.2 ▸ hflat)
  have htuple {vs : List Value} {k : Kind} (hvs : ∀ v ∈ vs, v.kind = k) (hflat : k.isFlat = true) :
      (Value.tuple vs).Akin alone (.tuple vs) := by
    refine ⟨rfl, fun _ => Value.isSquare_tuple.mpr fun v hv => ?_⟩
    have hk := hvs v hv
    exact Value.isSquare_of_flat (hk ▸ hflat)
  have hmismatch {k : Kind} := (ha.delivers_mismatch (P := fun _ : Value => False) h k).usual
  cases kind with
  | tuple => exact absurd rfl hkind
  | color =>
    refine (Refines.ofExit_same (ha.delivers_color h).usual hM).mono fun v v' hv => ?_
    exact ⟨hflat hv rfl, hv.2⟩
  | vector =>
    refine (Refines.ofExit_same (ha.delivers_numbers h .vector 1 3).usual hM).bind ?_
    rintro xs _ _ _ ⟨rfl, -⟩ hM₁
    exact .pure ⟨.flat _ rfl, rfl⟩ hM₁
  | size =>
    refine (Refines.ofExit_same (ha.delivers_numbers h .size 1 3).usual hM).bind ?_
    rintro xs _ _ _ ⟨rfl, -⟩ hM₁
    exact .pure ⟨.flat _ rfl, rfl⟩ hM₁
  | pair =>
    refine (Refines.ofExit_same (ha.delivers_numbers h .pair 2 2).usual hM).bind ?_
    rintro _ xs _ _ ⟨rfl, hxs⟩ hM₁
    have hnumbers : ∀ v ∈ xs.map Value.number, v.kind = .number := by
      intro v hv
      obtain ⟨x, -, rfl⟩ := List.mem_map.mp hv
      rfl
    exact .pure ⟨htuple hnumbers rfl, xs, rfl, hxs⟩ hM₁
  | texture =>
    refine (hM.texture halone ha h).mono fun v v' hv => ?_
    exact ⟨hflat hv rfl, hv.2⟩
  | colorOrTexture =>
    simp only [Argument.read]
    unfold Argument.colorOrTexture
    split
    · exact absurd rfl (ha.some h)
    · split
      · refine (hM.texture halone ha h).mono fun v v' hv => ?_
        exact ⟨hflat hv rfl, .inr hv.2⟩
      · refine (Refines.ofExit_same (ha.delivers_color h).usual hM).mono fun v v' hv => ?_
        exact ⟨hflat hv rfl, .inl hv.2⟩
  | font =>
    refine (Refines.ofExit_same (ha.delivers_font h setting).usual hM).mono fun v v' hv => ?_
    exact ⟨hflat hv rfl, hv.2⟩
  | paths =>
    have hpaths : Usual _ (a.pathsFrom 0 values) :=
      (Argument.delivers_pathsFrom 0 (by simpa using ha.few)).usual
    refine (Refines.ofExit_same hpaths hM).bind ?_
    rintro vs _ _ _ ⟨rfl, hvs⟩ hM₁
    exact .pure ⟨htuple hvs rfl, rfl⟩ hM₁
  | void =>
    have hraise := Argument.delivers_raiseAt (a := a) (P := fun _ : Value => False)
      (List.length_pos_iff.mpr h) (.unexpectedArgument a.name 0)
    exact (Refines.ofExit_same hraise.usual hM).mono fun _ _ hv => hv.2.elim
  | _ => exact (Refines.ofExit_same hmismatch hM).mono fun _ _ hv => hv.2.elim

/-- **The value of an argument**, in both runs. -/
theorem coerce (hM : Akin alone outer outer' st st') (halone : alone → setting.host = none)
    (ha : a.Takes values) (hvalues : Value.AllAkin alone values values') (kind : Kind) :
    Refines alone (Akin alone outer outer') (fun v v' => v.Akin alone v' ∧ v.IsArgument kind)
      (a.coerce setting kind values st) (a.coerce setting kind values' st') := by
  cases hparameters : a.parameters with
  | nil =>
    simp only [Argument.coerce, hparameters]
    split
    · next hkind =>
      subst hkind
      exact .pure ⟨Value.AllAkin.nil.tuple, rfl⟩ hM
    · exact .raise _ _
  | cons first rest =>
    have hne : a.parameters ≠ [] := by simp [hparameters]
    have hasIs : (Argument.asIs? kind values').map Value.bare
        = (Argument.asIs? kind values).map Value.bare := by
      rw [← Argument.asIs?_bare, ← Argument.asIs?_bare, hvalues.bare]
    cases hv : Argument.asIs? kind values with
    | some v =>
      rw [hv, Option.map_some, Option.map_eq_some_iff] at hasIs
      obtain ⟨v', hv', hbare⟩ := hasIs
      obtain ⟨rfl, hkind⟩ := Argument.kind_of_asIs? hv
      simp only [Argument.coerce, hparameters, hv, hv']
      refine .pure ⟨⟨hbare, fun h => ?_⟩, Value.isArgument_of_kind hkind⟩ hM
      exact hvalues.square h v (List.mem_singleton_self v)
    | none =>
      rw [hv, Option.map_none, Option.map_eq_none_iff] at hasIs
      simp only [Argument.coerce, hparameters, hv, hasIs]
      refine Refines.locate ?_ first.sourceRange
      by_cases hkind : kind = .tuple
      · subst hkind
        exact .pure ⟨hvalues.tuple, rfl⟩ hM
      · have hread : a.read setting kind values' = a.read setting kind values := by
          rw [← a.read_bare setting hkind, hvalues.bare, a.read_bare setting hkind]
        rw [hread]
        exact hM.readArgument halone ha hne hkind

end Akin

end SceneLang
