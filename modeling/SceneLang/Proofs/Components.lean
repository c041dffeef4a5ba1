import SceneLang.Proofs.Coercion
import SceneLang.Proofs.Frame

/-!
# Which arguments make a colour, a vector or a size

A colour, a vector or a size can be passed as it is, or be made of numbers, and the numbers can be
spread over several parameters or stand in one tuple.  `Argument.coerce_components` says exactly
which values are accepted: what counts are the number of *parameters*, the number of *components*
and that every component is a number.  That a colour may not be followed by anything else needs no
condition of its own, because a colour is not a number.

Each function of coercion is looked at once and gives the condition under which it succeeds; the
condition of `Argument.numbers` is put together from these.  A pair is read in the same way, but
needs two parameters.
-/

namespace SceneLang

/-- **A kind that is made of numbers**, with how many parameters there must and may be, and with
what the numbers make. -/
inductive Kind.MadeOf : Kind → Nat → Nat → (List Float → Value) → Prop
  | color : MadeOf .color 1 4 fun xs => .color (Color.unchecked xs)
  | vector : MadeOf .vector 1 3 fun xs => .vector (Vec3.ofComponents xs)
  | size : MadeOf .size 1 3 fun xs => .size (Vec3.size xs)
  | pair : MadeOf .pair 2 2 fun xs => .tuple (xs.map .number)

/-- What is made of numbers is neither a number nor a tuple itself. -/
theorem Kind.MadeOf.ne {kind : Kind} {least most : Nat} {make : List Float → Value}
    (h : kind.MadeOf least most make) : kind ≠ .number ∧ kind ≠ .tuple := by
  cases h <;> decide

/-- Operations in a row succeed when each of them does. -/
theorem except_bind_eq_ok_iff {α β : Type} {r : Except Exit α} {f : α → Except Exit β} {b : β} :
    (r >>= f) = .ok b ↔ ∃ a, r = .ok a ∧ f a = .ok b := by
  constructor
  · intro h
    cases r with
    | ok a => exact ⟨a, rfl, h⟩
    | error x => cases h
  · rintro ⟨a, rfl, h⟩
    exact h

namespace Argument

/-- **The components of an argument**: the elements of a single tuple, or the values themselves. -/
def components : List Value → List Value
  | [.tuple elements] => elements
  | values => values

variable {a : Argument} {kind : Kind} {least most : Nat} {make : List Float → Value}
  {values vs : List Value} {xs : List Float}

/-- Values that are no single tuple are their own components. -/
theorem components_eq_self (h : ∀ es, values ≠ [.tuple es]) : components values = values := by
  unfold components
  split
  · next es => exact absurd rfl (h es)
  · rfl

/-! ### The functions of coercion -/

theorem raiseAt_ne_ok {α : Type} (a : Argument) (i : Nat) (cause : ErrorCause) (x : α) :
    a.raiseAt i cause ≠ .ok x := by
  intro h
  unfold raiseAt at h
  split at h <;> cases h

theorem checkCount_eq_ok_iff {u : Unit} :
    a.checkCount least most = .ok u ↔ least ≤ a.parameters.length ∧ a.parameters.length ≤ most := by
  unfold checkCount
  split
  · next hmost => exact iff_of_false (raiseAt_ne_ok a _ _ _) (by omega)
  · next hmost =>
    split
    · next hleast =>
      refine iff_of_false (fun h => ?_) (by omega)
      split at h <;> cases h
    · next hleast => exact iff_of_true rfl (by omega)

theorem opened_eq_ok_iff (hfew : values.length ≤ most) :
    a.opened most values = .ok vs ↔ (components values).length ≤ most ∧ vs = components values := by
  unfold opened
  split
  · next es =>
    show _ ↔ es.length ≤ most ∧ vs = es
    split
    · next hmost =>
      refine iff_of_false (fun h => ?_) (by omega)
      split at h <;> cases h
    · next hmost =>
      have hlength : es.length ≤ most := by omega
      simp [hlength, eq_comm]
  · next hvalues =>
    rw [components_eq_self fun es h => hvalues es h]
    simp [hfew, eq_comm]

/-- Numbers are no argument by themselves, unless a number is asked for. -/
theorem checkSingle_numbers (a : Argument) (hkind : kind ≠ .number) (xs : List Float) :
    a.checkSingle kind (xs.map .number) = .ok () := by
  match xs with
  | [] => rfl
  | [x] => rfl
  | x :: next :: rest =>
    have hsingle : ¬((Value.number x).kind = kind ∨ isNumberTuple (.number x)) := by
      rintro (h | h)
      · exact hkind h.symm
      · cases h
    simp only [List.map_cons, checkSingle, if_neg hsingle]

theorem numbersFrom_eq_ok_iff {i : Nat} :
    a.numbersFrom kind i vs = .ok xs ↔ vs = xs.map .number := by
  induction vs generalizing i xs with
  | nil => cases xs <;> simp [numbersFrom]
  | cons v rest ih =>
    cases v with
    | number x =>
      simp only [numbersFrom, except_bind_eq_ok_iff, ih]
      constructor
      · rintro ⟨ys, rfl, h⟩
        cases h
        rfl
      · intro h
        cases xs with
        | nil => cases h
        | cons y ys =>
          cases h
          exact ⟨ys, rfl, rfl⟩
    | _ =>
      refine iff_of_false (raiseAt_ne_ok a _ _ _) fun h => ?_
      cases xs <;> cases h

/-- **When the numbers of an argument are accepted**: there are enough parameters and not too many,
and not too many components, and these are the numbers. -/
theorem numbers_eq_ok_iff (hkind : kind ≠ .number) (hfew : values.length ≤ a.parameters.length) :
    a.numbers kind least most values = .ok xs ↔
      least ≤ a.parameters.length ∧ a.parameters.length ≤ most ∧
      (components values).length ≤ most ∧ components values = xs.map .number := by
  simp only [numbers, except_bind_eq_ok_iff]
  constructor
  · rintro ⟨u, hcount, vs, hopened, u', -, hnumbers⟩
    obtain ⟨hleast, hmost⟩ := checkCount_eq_ok_iff.mp hcount
    obtain ⟨hlength, rfl⟩ := (opened_eq_ok_iff (by omega)).mp hopened
    exact ⟨hleast, hmost, hlength, numbersFrom_eq_ok_iff.mp hnumbers⟩
  · rintro ⟨hleast, hmost, hlength, hnumbers⟩
    have hopened : a.opened most values = .ok (components values) :=
      (opened_eq_ok_iff (by omega)).mpr ⟨hlength, rfl⟩
    have hsingle : a.checkSingle kind (components values) = .ok () := by
      rw [hnumbers]
      exact checkSingle_numbers a hkind xs
    exact ⟨(), checkCount_eq_ok_iff.mpr ⟨hleast, hmost⟩, _, hopened, (), hsingle,
      numbersFrom_eq_ok_iff.mpr hnumbers⟩

/-! ### Kinds that are made of numbers -/

theorem asIs?_eq_some_iff {v : Value} :
    asIs? kind values = some v ↔ values = [v] ∧ v.kind = kind := by
  constructor
  · exact kind_of_asIs?
  · rintro ⟨rfl, hkind⟩
    exact if_pos hkind

variable {setting : Setting} {st st' : State} {v : Value}

/-- What is not passed as it is has to be made of numbers. -/
theorem read_eq_ok_iff (hkind : kind.MadeOf least most make) (hasIs : asIs? kind values = none) :
    a.read setting kind values st = .ok v st' ↔
      st' = st ∧ ∃ xs, a.numbers kind least most values = .ok xs ∧ v = make xs := by
  have hmade (make : List Float → Value) :
      (do return make (← Step.ofExit (a.numbers kind least most values)) : Eval Value) st
          = .ok v st' ↔
        st' = st ∧ ∃ xs, a.numbers kind least most values = .ok xs ∧ v = make xs := by
    rw [Step.bind_eq_ok_iff]
    constructor
    · rintro ⟨xs, st₁, hxs, h⟩
      obtain ⟨hnumbers, rfl⟩ := Step.ofExit_eq_ok_iff.mp hxs
      cases h
      exact ⟨rfl, xs, hnumbers, rfl⟩
    · rintro ⟨rfl, xs, hnumbers, rfl⟩
      exact ⟨xs, st', Step.ofExit_eq_ok_iff.mpr ⟨hnumbers, rfl⟩, rfl⟩
  cases hkind with
  | color =>
    simp only [read, color, hasIs, Step.ofExit_eq_ok_iff, except_bind_eq_ok_iff]
    constructor
    · rintro ⟨⟨xs, hnumbers, h⟩, rfl⟩
      cases h
      exact ⟨rfl, xs, hnumbers, rfl⟩
    · rintro ⟨rfl, xs, hnumbers, rfl⟩
      exact ⟨⟨xs, hnumbers, rfl⟩, rfl⟩
  | vector => exact hmade _
  | size => exact hmade _
  | pair => exact hmade _

/-- An argument with parameters is a single value of the kind that is asked for, or it is read. -/
theorem coerce_eq_ok_iff_read (ha : a.parameters ≠ []) :
    a.coerce setting kind values st = .ok v st' ↔
      asIs? kind values = some v ∧ st' = st ∨
      asIs? kind values = none ∧ a.read setting kind values st = .ok v st' := by
  obtain ⟨first, rest, hparameters⟩ := List.exists_cons_of_ne_nil ha
  simp only [coerce, hparameters]
  cases hasIs : asIs? kind values with
  | some w =>
    constructor
    · intro h
      cases h
      exact .inl ⟨rfl, rfl⟩
    · rintro (⟨h, rfl⟩ | ⟨h, -⟩)
      · cases h
        rfl
      · cases h
  | none =>
    dsimp only
    rw [Step.locate, Step.mapExit_eq_ok_iff]
    simp

/-- **When an argument is a value of a kind that is made of numbers.** -/
theorem coerce_eq_ok_iff (hkind : kind.MadeOf least most make) (hsome : 1 ≤ values.length)
    (hfew : values.length ≤ a.parameters.length) :
    a.coerce setting kind values st = .ok v st' ↔
      st' = st ∧
      (values = [v] ∧ v.kind = kind ∨
        least ≤ a.parameters.length ∧ a.parameters.length ≤ most ∧
        (components values).length ≤ most ∧
        ∃ xs : List Float, components values = xs.map .number ∧ v = make xs) := by
  obtain ⟨hnumber, htuple⟩ := hkind.ne
  have ha : a.parameters ≠ [] := by
    intro h
    rw [h, List.length_nil] at hfew
    omega
  rw [coerce_eq_ok_iff_read ha]
  cases hasIs : asIs? kind values with
  | some w =>
    obtain ⟨rfl, hw⟩ := asIs?_eq_some_iff.mp hasIs
    have hself : components [w] = [w] := by
      refine components_eq_self fun es h => ?_
      cases h
      exact htuple hw.symm
    have hmade (xs : List Float) : components [w] ≠ xs.map .number := by
      intro h
      rw [hself] at h
      cases xs with
      | nil => cases h
      | cons x rest =>
        obtain ⟨rfl, -⟩ := List.cons.inj h
        exact hnumber hw.symm
    constructor
    · rintro (⟨h, rfl⟩ | ⟨h, -⟩)
      · cases h
        exact ⟨rfl, .inl ⟨rfl, hw⟩⟩
      · cases h
    · rintro ⟨rfl, ⟨h, -⟩ | ⟨-, -, -, xs, h, -⟩⟩
      · cases h
        exact .inl ⟨rfl, rfl⟩
      · exact absurd h (hmade xs)
  | none =>
    have hnot : ¬(values = [v] ∧ v.kind = kind) := by
      intro h
      rw [asIs?_eq_some_iff.mpr h] at hasIs
      cases hasIs
    rw [read_eq_ok_iff hkind hasIs]
    simp [numbers_eq_ok_iff hnumber hfew, hnot, and_assoc]

/-- **Which arguments make a colour, a vector or a size.**  The values of the parameters, of which
there is at least one and at most one for each parameter, are coerced to such a value exactly if
they are one already, or there are not more parameters than the kind allows and not more components
and all components are numbers.  So numbers that are spread over several parameters and the same
numbers in one tuple are accepted together, and make the same value. -/
theorem coerce_components (setting : Setting) (a : Argument) (hkind : kind.MadeOf 1 most make)
    (hsome : 1 ≤ values.length) (hfew : values.length ≤ a.parameters.length) (st st' : State)
    (v : Value) :
    (a.coerce setting kind values st = .ok v st' ↔
      st' = st ∧
      (values = [v] ∧ v.kind = kind ∨
        a.parameters.length ≤ most ∧ (components values).length ≤ most ∧
        ∃ xs : List Float, components values = xs.map .number ∧ v = make xs)) ∧
    (2 ≤ values.length → values.length = a.parameters.length →
      ∀ (a' : Argument) (e : Expr), a'.parameters = [e] →
        (a.coerce setting kind values st = .ok v st' ↔
          a'.coerce setting kind [.tuple values] st = .ok v st')) := by
  have hparameters : 1 ≤ a.parameters.length := by omega
  constructor
  · rw [coerce_eq_ok_iff hkind hsome hfew]
    simp only [hparameters, true_and]
  · intro hseveral hall a' e ha'
    have hone : a'.parameters.length = 1 := by rw [ha']; rfl
    have hmost : 1 ≤ most := by cases hkind <;> omega
    have hvalues : ∀ w, values ≠ [w] := by
      rintro w rfl
      simp at hseveral
    have htuple : ¬([Value.tuple values] = [v] ∧ v.kind = kind) := by
      rintro ⟨h, hv⟩
      cases h
      exact hkind.ne.2 hv.symm
    have hcomponents : components values = values := components_eq_self fun es => hvalues _
    have hsome' : 1 ≤ [Value.tuple values].length := Nat.le_refl 1
    have hfew' : [Value.tuple values].length ≤ a'.parameters.length := Nat.le_of_eq hone.symm
    rw [coerce_eq_ok_iff hkind hsome hfew, coerce_eq_ok_iff hkind hsome' hfew']
    show _ ↔ st' = st ∧ (_ ∨ _ ∧ _ ∧ values.length ≤ most ∧
      ∃ xs : List Float, values = xs.map .number ∧ v = make xs)
    simp only [htuple, hvalues v, false_and, false_or, hcomponents, hone, hmost, ← hall, hsome,
      Nat.le_refl, true_and, and_self_left]

end Argument

namespace Smoke

/-- The parameters of `color 0.5 0.1`. -/
def parameters : List Expr := [.number ⟨6, 9⟩ 0.5, .number ⟨10, 13⟩ 0.1]

/-- The argument of `color 0.5 0.1`. -/
def spread : Argument := ⟨"color", 0, ⟨6, 13⟩, parameters⟩

/-- The argument of `color (0.5 0.1)`. -/
def enclosed : Argument := ⟨"color", 0, ⟨6, 15⟩, [.sub ⟨6, 15⟩ (.tuple ⟨7, 14⟩ parameters)]⟩

/-- What the parameters give. -/
def values : List Value := [.number 0.5, .number 0.1]

/-- The thin gray that they make. -/
def color : Value := .color (Color.unchecked [0.5, 0.1])

/-- The state before the argument is read. -/
def state : State := { scope := {}, world := {} }

/-- Two numbers make a gray with an opacity, with and without parentheses. -/
theorem coerce_components_smoke :
    Kind.color.MadeOf 1 4 (fun xs => .color (Color.unchecked xs)) ∧ 1 ≤ values.length ∧
    values.length ≤ spread.parameters.length ∧
    spread.coerce {} .color values state = .ok color state ∧
    enclosed.coerce {} .color [.tuple values] state = .ok color state := by
  have hsome : 1 ≤ values.length := by decide
  have hfew : values.length ≤ spread.parameters.length := by decide
  obtain ⟨hspread, hagree⟩ :=
    Argument.coerce_components {} spread .color hsome hfew state state color
  have hcolor : spread.coerce {} .color values state = .ok color state :=
    hspread.mpr ⟨rfl, .inr ⟨by decide, by decide, [0.5, 0.1], rfl, rfl⟩⟩
  exact ⟨.color, hsome, hfew, hcolor, (hagree (by decide) rfl enclosed _ rfl).mp hcolor⟩

end Smoke

end SceneLang
