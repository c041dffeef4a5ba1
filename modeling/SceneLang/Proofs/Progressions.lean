import SceneLang.Proofs.Doubles
import SceneLang.Proofs.LoopTurns
import Mathlib.Data.List.Forall2
import Mathlib.Data.Rat.Floor
import Mathlib.Tactic.Linarith

/-!
# Ranges are arithmetic progressions

Over the rational numbers a range yields the arithmetic progression from its start, as far as it
does not pass its end (`NumberRange.yields_progression`).  How many items there are follows from the
quotient of the distance and the step (`NumberRange.lt_count_iff`).

Loops run on doubles.  `NumberRange.Reads` says that a range of doubles stands for one of rational
numbers: its bounds are these numbers and none of its items is rounded.  Since doubles compare as
the numbers that they stand for, such a range yields doubles that stand for the progression, and a
loop takes a turn for each of them (`NumberRange.enumerates_progression`).
-/

namespace SceneLang

namespace NumberRange

/-! ### Progressions -/

section Rational

variable {r : NumberRange ℚ}

/-- How many steps lead from the start to the end; not a whole number if no step lands there. -/
def quotient (r : NumberRange ℚ) : ℚ := (r.stop - r.start) / r.step

/-- **How many items there are.** -/
def count (r : NumberRange ℚ) : ℕ := if 0 ≤ r.quotient then ⌊r.quotient⌋₊ + 1 else 0

/-- **The arithmetic progression from the start.** -/
def progression (r : NumberRange ℚ) : List ℚ :=
  (List.range r.count).map fun i : ℕ => r.start + i * r.step

theorem lt_count_iff {i : ℕ} : i < r.count ↔ (i : ℚ) ≤ r.quotient := by
  unfold count
  split
  · next h => rw [Nat.lt_succ_iff, Nat.le_floor_iff h]
  · next h =>
    refine iff_of_false (Nat.not_lt_zero i) fun hi => h ?_
    exact le_trans (Nat.cast_nonneg i) hi

/-- **An item lies within the range** while the quotient allows for its steps. -/
theorem within_iff (hstep : r.step ≠ 0) (i : ℕ) :
    (i : ℚ) ≤ r.quotient ↔ (0 < r.step ∧ r.start + i * r.step ≤ r.stop) ∨
      (r.step < 0 ∧ r.stop ≤ r.start + i * r.step) := by
  unfold quotient
  rcases lt_or_gt_of_ne hstep with h | h
  · rw [le_div_iff_of_neg h, sub_le_iff_le_add']
    simp [h, h.not_gt]
  · rw [le_div_iff₀ h, le_sub_iff_add_le']
    simp [h, h.not_gt]

/-- The items are missing from their number on. -/
theorem item?_eq_none_iff_count_le (hstep : r.step ≠ 0) {i : ℕ} :
    r.item? i = none ↔ r.count ≤ i := by
  rw [item?_eq_none_iff, ← not_lt, lt_count_iff, within_iff hstep, mul_comm r.step]
  rcases lt_or_gt_of_ne hstep with h | h
  · simp [h, h.not_gt]
  · simp [h, h.not_gt]

theorem item?_eq_some (hstep : r.step ≠ 0) {i : ℕ} (h : i < r.count) :
    r.item? i = some (r.start + i * r.step) := by
  have hne : r.item? i ≠ none := fun hnone =>
    ((item?_eq_none_iff_count_le hstep).mp hnone).not_gt h
  rw [item?_eq_some_of_ne_none hne, mul_comm]

/-- **A range yields its progression.** -/
theorem yields_progression (hstep : r.step ≠ 0) : r.Yields r.progression :=
  yields_map _ r.count (fun _ => item?_eq_some hstep) ((item?_eq_none_iff_count_le hstep).mpr le_rfl)

theorem length_progression : r.progression.length = r.count := by
  rw [progression, List.length_map, List.length_range]

/-- The progression is what does not pass the end. -/
theorem mem_progression_iff (hstep : r.step ≠ 0) {x : ℚ} : x ∈ r.progression ↔
    ∃ i : ℕ, x = r.start + i * r.step ∧
      ((0 < r.step ∧ x ≤ r.stop) ∨ (r.step < 0 ∧ r.stop ≤ x)) := by
  simp only [progression, List.mem_map, List.mem_range, lt_count_iff, within_iff hstep]
  constructor
  · rintro ⟨i, hi, rfl⟩
    exact ⟨i, rfl, hi⟩
  · rintro ⟨i, rfl, hi⟩
    exact ⟨i, hi, rfl⟩

/-- The end belongs to the progression if a step lands there. -/
theorem stop_mem_progression_iff (hstep : r.step ≠ 0) :
    r.stop ∈ r.progression ↔ ∃ n : ℕ, r.quotient = n := by
  have hlands (i : ℕ) : r.stop = r.start + i * r.step ↔ r.quotient = i := by
    rw [quotient, div_eq_iff hstep, sub_eq_iff_eq_add, add_comm]
  rw [mem_progression_iff hstep]
  refine exists_congr fun i => ?_
  rw [hlands, and_iff_left_iff_imp]
  -- the end does not lie beyond itself, in whichever direction the steps go
  rintro -
  rcases lt_or_gt_of_ne hstep with h | h
  · exact .inr ⟨h, le_rfl⟩
  · exact .inl ⟨h, le_rfl⟩

end Rational

/-! ### Ranges of doubles -/

/-- **A range of doubles stands for a range of rational numbers**: its bounds do, and none of the
items is rounded, nor the number after the last one. -/
structure Reads (doubles : NumberRange Float) (r : NumberRange ℚ) : Prop where
  start : Decimal.Reads doubles.start r.start
  stop : Decimal.Reads doubles.stop r.stop
  step : Decimal.Reads doubles.step r.step
  items : ∀ i ≤ r.count, Decimal.Reads (doubles.start + doubles.step * (i : Float))
    (r.start + i * r.step)

namespace Reads

variable {doubles : NumberRange Float} {r : NumberRange ℚ} {x : Float} {a : ℚ} {i : ℕ}

/-- Doubles pass the end as the numbers that they stand for do. -/
theorem passes_eq (h : doubles.Reads r) (hx : Decimal.Reads x a) :
    doubles.passes x = r.passes a := by
  -- the direction of the steps is a comparison with zero, which is read as well
  have hzero : Decimal.Reads 0 0 := by decide +kernel
  simp only [passes, hzero.lt_iff h.step, h.step.lt_iff hzero, h.stop.lt_iff hx, hx.lt_iff h.stop]

/-- The items of the doubles. -/
theorem item?_eq (h : doubles.Reads r) (hi : i ≤ r.count) :
    doubles.item? i = (r.item? i).map fun _ => doubles.start + doubles.step * (i : Float) := by
  have hpasses : doubles.passes (doubles.start + doubles.step * (i : Float))
      = r.passes (r.start + r.step * i) := by
    rw [h.passes_eq (h.items i hi), mul_comm]
  simp only [item?, hpasses]
  split <;> rfl

/-- **What a range of doubles yields stands for the progression.** -/
theorem exists_yields (h : doubles.Reads r) (hstep : r.step ≠ 0) :
    ∃ xs, doubles.Yields xs ∧ List.Forall₂ Decimal.Reads xs r.progression := by
  refine ⟨(List.range r.count).map fun i : ℕ => doubles.start + doubles.step * (i : Float),
    yields_map _ r.count (fun i hi => ?_) ?_, ?_⟩
  · rw [h.item?_eq hi.le, item?_eq_some hstep hi, Option.map_some]
  · rw [h.item?_eq le_rfl, (item?_eq_none_iff_count_le hstep).mpr le_rfl, Option.map_none]
  · rw [progression, List.forall₂_map_left_iff, List.forall₂_map_right_iff, List.forall₂_same]
    exact fun i hi => h.items i (List.mem_range.mp hi).le

end Reads

end NumberRange

/-! ### Loops -/

/-- **A loop over a range takes a turn for each item, in their order**: it gets to its end exactly
if no turn fails, unless it runs out of turns. -/
theorem Runner.loop_eq_ok_iff_takes {fuel : ℕ} {env : Env} {range : SourceRange}
    {binder? : Option Identifier} {sequence : Expr} {body : Block} {v : Value}
    {doubles : NumberRange Float} {xs : List Float} {st st₁ st₂ : State}
    (hxs : doubles.Yields xs) (hsequence : runExpression fuel env sequence st = .ok v st₁)
    (hv : v.loopRange? = some doubles) :
    (runStatement (fuel + 1) env (.loop range binder? sequence body) st = .ok () st₂ →
      Eval.Takes ((ofFuel fuel).turn env binder? body) (xs.map .number) st₁ st₂) ∧
    (xs.length < fuel →
      Eval.Takes ((ofFuel fuel).turn env binder? body) (xs.map .number) st₁ st₂ →
      runStatement (fuel + 1) env (.loop range binder? sequence body) st = .ok () st₂) := by
  rw [runStatement_loop range body hsequence hv, ← overList_eq_ok_iff]
  rcases overRange_eq_overList ((ofFuel fuel).turn env binder? body) hxs fuel st₁ with
    hrun | ⟨hturns, st', hrun⟩
  · rw [hrun]
    exact ⟨id, fun _ => id⟩
  · rw [hrun]
    exact ⟨nofun, fun henough => absurd hturns henough.not_ge⟩

namespace NumberRange

/-- **A range enumerates its progression**, up to the end in the direction of its steps.  There are
`⌊(stop - start) / step⌋ + 1` items if this quotient is not negative and none otherwise, and the end
is one of them if the quotient is a natural number.  A loop over a range of doubles that stands for
it takes a turn for each item, with the variable bound to it, in this order. -/
theorem enumerates_progression (r : NumberRange ℚ) (hstep : r.step ≠ 0) :
    ofBounds r.start r.stop r.step = .ok r ∧
    r.Yields r.progression ∧
    (∀ limit, r.items limit = r.progression.take limit) ∧
    (∀ x, x ∈ r.progression ↔ ∃ i : ℕ, x = r.start + i * r.step ∧
      ((0 < r.step ∧ x ≤ r.stop) ∨ (r.step < 0 ∧ r.stop ≤ x))) ∧
    (0 ≤ r.quotient → (r.progression.length : ℤ) = ⌊r.quotient⌋ + 1) ∧
    (r.quotient < 0 → r.progression = []) ∧
    (r.stop ∈ r.progression ↔ ∃ n : ℕ, r.quotient = n) ∧
    ∀ doubles : NumberRange Float, doubles.Reads r →
      ∃ xs, doubles.Yields xs ∧ List.Forall₂ Decimal.Reads xs r.progression ∧
        ∀ (fuel : ℕ) (env : Env) (range : SourceRange) (binder? : Option Identifier)
          (sequence : Expr) (body : Block) (v : Value) (st st₁ st₂ : State),
          runExpression fuel env sequence st = .ok v st₁ → v.loopRange? = some doubles →
          (runStatement (fuel + 1) env (.loop range binder? sequence body) st = .ok () st₂ →
            Eval.Takes ((Runner.ofFuel fuel).turn env binder? body) (xs.map .number) st₁ st₂) ∧
          (r.progression.length < fuel →
            Eval.Takes ((Runner.ofFuel fuel).turn env binder? body) (xs.map .number) st₁ st₂ →
            runStatement (fuel + 1) env (.loop range binder? sequence body) st = .ok () st₂) := by
  have hyields := yields_progression hstep
  refine ⟨?_, hyields, hyields.itemsFrom_eq, fun x => mem_progression_iff hstep, ?_, ?_,
    stop_mem_progression_iff hstep, fun doubles h => ?_⟩
  · rw [ofBounds, if_neg (by simpa using hstep)]
  · intro hq
    rw [length_progression, count, if_pos hq, Nat.cast_succ, Int.natCast_floor_eq_floor hq]
  · intro hq
    rw [progression, count, if_neg hq.not_ge, List.range_zero, List.map_nil]
  · obtain ⟨xs, hxs, hreads⟩ := h.exists_yields hstep
    refine ⟨xs, hxs, hreads, fun fuel env range binder? sequence body v st st₁ st₂ hv hrange => ?_⟩
    rw [← hreads.length_eq]
    exact Runner.loop_eq_ok_iff_takes hxs hv hrange

end NumberRange

/-! ### Odd numbers -/

namespace Odds

/-- The odd numbers up to 10. -/
def odds : NumberRange ℚ := ⟨1, 10, 2⟩

/-- The same with doubles. -/
def doubles : NumberRange Float := ⟨1, 10, 2⟩

/-- The range that a loop goes through. -/
def sequence : Expr :=
  .range ⟨9, 23⟩ (.number ⟨9, 10⟩ 1) (.number ⟨14, 16⟩ 10) (some (.number ⟨22, 23⟩ 2))

/-- The body of the loop. -/
def body : Block := .mk ⟨24, 35⟩
  [.command ⟨26, 33⟩ ⟨⟨26, 31⟩, "print"⟩ (some (.identifier ⟨32, 33⟩ "i"))]

/-- A loop that prints the odd numbers. -/
def loop : Statement := .loop ⟨0, 35⟩ (some ⟨⟨4, 5⟩, "i"⟩) sequence body

/-- A host without files. -/
def env : Env where
  setting := { host := some {
    resolve := fun path => .ok ⟨"/", [path]⟩
    importNode := fun _ => .ok none
    readText := fun _ => .ok "" } }

/-- The state in which the loop starts. -/
def start : State := ⟨{ source := "for i in 1 to 10 step 2 \x7b print i \x7d" }, {}⟩

theorem reads_odds : doubles.Reads odds where
  start := by decide +kernel
  stop := by decide +kernel
  step := by decide +kernel
  items := by decide +kernel

theorem progression_odds : odds.progression = [1, 3, 5, 7, 9] := by decide +kernel

theorem run_sequence : runExpression 7 env sequence start = .ok (.range doubles) start :=
  rfl

/-- The state in which it ends. -/
def finish : State := Result.state (runStatement 8 env loop start)

theorem run_loop : runStatement 8 env loop start = .ok () finish := by
  have hends : Result.isOk (runStatement 8 env loop start) = true := by decide +kernel
  exact Result.eq_ok_of_isOk hends

/-- The number that a notice tells. -/
def told? : Notice → Option Float
  | .printed [.number x] => some x
  | _ => none

/-- **The loop prints the odd numbers up to 10**, and 10 is not among them. -/
theorem enumerates_odds :
    odds.step ≠ 0 ∧ doubles.Reads odds ∧ odds.Yields [1, 3, 5, 7, 9] ∧ 10 ∉ odds.progression ∧
    finish.world.notices.toList.map told? = [some 1, some 3, some 5, some 7, some 9] ∧
    ∃ xs, doubles.Yields xs ∧ List.Forall₂ Decimal.Reads xs [1, 3, 5, 7, 9] ∧
      Eval.Takes ((Runner.ofFuel 7).turn env (some ⟨⟨4, 5⟩, "i"⟩) body) (xs.map .number) start
        finish := by
  have hstep : odds.step ≠ 0 := by decide +kernel
  obtain ⟨-, hyields, -, -, -, -, -, hloops⟩ := NumberRange.enumerates_progression odds hstep
  obtain ⟨xs, hxs, hreads, hloop⟩ := hloops doubles reads_odds
  rw [progression_odds] at hyields hreads
  refine ⟨hstep, reads_odds, hyields, by decide +kernel, by decide +kernel, xs, hxs, hreads, ?_⟩
  exact (hloop 7 env ⟨0, 35⟩ _ sequence body _ start start finish run_sequence rfl).1 run_loop

end Odds

end SceneLang
