import SceneLang.Proofs.Frame
import Mathlib.Data.Nat.Find

/-!
# The items of a range and the turns of a loop over it

A range yields its items one by one until one of them lies beyond its end
(`NumberRange.YieldsFrom`).  A loop over the range does what it does for each of these items, in
this order (`Runner.overRange_eq_overList`), unless it runs out of turns; and it comes to its end
exactly if none of its turns fails (`Eval.Takes`).
-/

namespace SceneLang

namespace NumberRange

variable {α : Type} [Add α] [Mul α] [NatCast α] [OfNat α 0] [LT α] [DecidableLT α]
  {r : NumberRange α} {xs : List α} {i n : Nat}

/-- An item is missing if it lies beyond the end. -/
theorem item?_eq_none_iff : r.item? i = none ↔
    (0 < r.step ∧ r.stop < r.start + r.step * i) ∨
      (r.step < 0 ∧ r.start + r.step * i < r.stop) := by
  rw [item?, ite_eq_left_iff]
  simp only [reduceCtorEq, imp_false, Classical.not_not, passes, Bool.or_eq_true,
    Bool.and_eq_true, decide_eq_true_eq]

theorem item?_eq_some_of_ne_none (h : r.item? i ≠ none) :
    r.item? i = some (r.start + r.step * i) := by
  unfold item? at h ⊢
  exact if_neg fun hpasses => h (if_pos hpasses)

/-- **What a range yields from item `i` on**, until it ends. -/
inductive YieldsFrom (r : NumberRange α) : Nat → List α → Prop
  | done {i : Nat} (h : r.item? i = none) : YieldsFrom r i []
  | item {i : Nat} {x : α} {xs : List α} (h : r.item? i = some x)
    (rest : YieldsFrom r (i + 1) xs) : YieldsFrom r i (x :: xs)

/-- **What a range yields.** -/
def Yields (r : NumberRange α) (xs : List α) : Prop := r.YieldsFrom 0 xs

/-- With a limit, the first items are taken. -/
theorem YieldsFrom.itemsFrom_eq (h : r.YieldsFrom i xs) (limit : Nat) :
    r.itemsFrom limit i = xs.take limit := by
  induction h generalizing limit with
  | done h =>
    cases limit with
    | zero => rfl
    | succ limit => rw [itemsFrom, h, List.take_nil]
  | item h rest ih =>
    cases limit with
    | zero => rfl
    | succ limit => rw [itemsFrom, h, ih, List.take_succ_cons]

/-- The range ends behind the items that it yields. -/
theorem YieldsFrom.item?_length (h : r.YieldsFrom i xs) : r.item? (i + xs.length) = none := by
  induction h with
  | done h => exact h
  | item h rest ih => rwa [List.length_cons, Nat.add_comm _ 1, ← Nat.add_assoc]

/-- The items up to the first one that is missing. -/
theorem yieldsFrom_map (value : Nat → α) (i n : Nat)
    (hitems : ∀ k < n, r.item? (i + k) = some (value k)) (hend : r.item? (i + n) = none) :
    r.YieldsFrom i ((List.range n).map value) := by
  induction n generalizing i value with
  | zero => exact .done hend
  | succ n ih =>
    -- the items behind the first one are those from the next index on
    rw [List.range_succ_eq_map, List.map_cons, List.map_map]
    refine .item (hitems 0 (Nat.succ_pos n)) (ih _ _ (fun k hk => ?_) ?_)
    · rw [Nat.add_assoc, Nat.add_comm 1 k]
      exact hitems (k + 1) (Nat.succ_lt_succ hk)
    · rw [Nat.add_assoc, Nat.add_comm 1 n]
      exact hend

/-- What a range yields, from its items. -/
theorem yields_map (value : Nat → α) (n : Nat) (hitems : ∀ k < n, r.item? k = some (value k))
    (hend : r.item? n = none) : r.Yields ((List.range n).map value) := by
  refine yieldsFrom_map value 0 n (fun k hk => ?_) ?_
  · rw [Nat.zero_add]
    exact hitems k hk
  · rw [Nat.zero_add]
    exact hend

/-- A range yields as many items as there are in front of the first one that is missing. -/
theorem exists_yields_length (hitems : ∀ k < n, r.item? k ≠ none) (hend : r.item? n = none) :
    ∃ xs, r.Yields xs ∧ xs.length = n := by
  have hvalues (k : Nat) (hk : k < n) : r.item? k = some (r.start + r.step * k) :=
    item?_eq_some_of_ne_none (hitems k hk)
  exact ⟨_, yields_map _ n hvalues hend, by rw [List.length_map, List.length_range]⟩

/-- **A range ends**: what it yields is a list. -/
def Ends (r : NumberRange α) : Prop := ∃ xs, r.Yields xs

/-- A range ends if one of its items is missing. -/
theorem ends_iff : r.Ends ↔ ∃ n, r.item? n = none := by
  constructor
  · rintro ⟨xs, h⟩
    exact ⟨_, YieldsFrom.item?_length h⟩
  · intro h
    obtain ⟨xs, hxs, -⟩ := exists_yields_length (fun _ => Nat.find_min h) (Nat.find_spec h)
    exact ⟨xs, hxs⟩

end NumberRange

/-! ### Turns -/

/-- **Doing something for each value in turn**, without failing. -/
inductive Eval.Takes (act : Value → Eval Unit) : List Value → State → State → Prop
  | done (st : State) : Takes act [] st st
  | turn {v : Value} {vs : List Value} {st st₁ st₂ : State} (h : act v st = .ok () st₁)
    (rest : Takes act vs st₁ st₂) : Takes act (v :: vs) st st₂

namespace Runner

variable {act : Value → Eval Unit} {range : NumberRange Float} {xs : List Float} {vs : List Value}
  {st st' : State}

/-- A list is gone through to its end exactly if no turn fails. -/
theorem overList_eq_ok_iff : overList act vs st = .ok () st' ↔ Eval.Takes act vs st st' := by
  constructor
  · intro h
    induction vs generalizing st with
    | nil =>
      cases h
      exact .done _
    | cons v vs ih =>
      obtain ⟨⟨⟩, st₁, hact, hrest⟩ := Step.bind_eq_ok_iff.mp h
      exact .turn hact (ih hrest)
  · intro h
    induction h with
    | done st => rfl
    | turn hact rest ih => rw [overList, Step.bind_ok _ hact, ih]

/-- **A loop over a range does what it does for each item**, or runs out of turns. -/
theorem overRange_eq_overList (act : Value → Eval Unit) {i : Nat} (h : range.YieldsFrom i xs)
    (turns : Nat) (st : State) :
    overRange act range turns i st = overList act (xs.map .number) st ∨
      turns ≤ xs.length ∧ ∃ st', overRange act range turns i st = .error .exhausted st' := by
  -- each turn takes one item off, and both loops stop where a turn fails
  induction h generalizing turns st with
  | done h =>
    cases turns with
    | zero => exact .inr ⟨Nat.le_refl _, st, rfl⟩
    | succ turns =>
      rw [overRange, h]
      exact .inl rfl
  | item h rest ih =>
    cases turns with
    | zero => exact .inr ⟨Nat.zero_le _, st, rfl⟩
    | succ turns =>
      simp only [overRange, h, List.map_cons, overList, List.length_cons,
        Nat.add_le_add_iff_right]
      cases hres : act (.number _) st with
      | error e st₁ =>
        rw [Step.bind_error _ hres, Step.bind_error _ hres]
        exact .inl rfl
      | ok a st₁ =>
        rw [Step.bind_ok _ hres, Step.bind_ok _ hres]
        exact ih turns st₁

/-- A loop over a range that gets to its end has gone through all items. -/
theorem exists_yieldsFrom_of_overRange {act : Value → Eval Unit} {turns i : Nat}
    (h : overRange act range turns i st = .ok () st') :
    ∃ xs, range.YieldsFrom i xs ∧ Eval.Takes act (xs.map .number) st st' := by
  induction turns generalizing i st with
  | zero => cases h
  | succ turns ih =>
    cases hitem : range.item? i with
    | none =>
      rw [overRange, hitem] at h
      cases h
      exact ⟨[], .done hitem, .done _⟩
    | some x =>
      rw [overRange, hitem] at h
      obtain ⟨⟨⟩, st₁, hact, hrest⟩ := Step.bind_eq_ok_iff.mp h
      obtain ⟨xs, hxs, htakes⟩ := ih hrest
      exact ⟨x :: xs, .item hitem hxs, .turn hact htakes⟩

end Runner

end SceneLang
