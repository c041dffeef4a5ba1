import SceneLang.Proofs.Doubles
import SceneLang.Proofs.LoopTurns

/-!
# Ranges without an end

Only a step of zero is refused, so a range may start or end infinitely far away, or nowhere at all.
With `Extended` numbers a range ends only if it gets past its end, and so only if it does not start
infinitely far behind and its end is not infinitely far ahead (`NumberRange.accepted_ends_iff`).

The same end keeps a range of doubles from ending, however its items are rounded
(`NumberRange.Ends.of_doubles`), and a loop over such a range does not get to its end
(`Runner.ends_of_loop`).
-/

namespace SceneLang

namespace NumberRange

/-- A range of extended numbers ends if its steps lead past its end. -/
theorem ends_extended_iff {r : NumberRange Extended} : r.Ends ↔
    (0 < r.step ∧ ⊥ < r.start ∧ r.stop < ⊤) ∨ (r.step < 0 ∧ r.start < ⊤ ∧ ⊥ < r.stop) := by
  simp only [ends_iff, item?_eq_none_iff, exists_or, exists_and_left]
  refine or_congr (and_congr_right fun h => ?_) (and_congr_right fun h => ?_)
  · exact Extended.exists_lt_add_mul h
  · exact Extended.exists_add_mul_lt h

/-- Only a step of zero is refused. -/
theorem ofBounds_eq_ok_iff (start stop step : Extended) :
    ofBounds start stop step = .ok ⟨start, stop, step⟩ ↔ step ≠ 0 := by
  have hzero : (step == 0) = decide (step = 0) := by
    cases step with
    | nan => rfl
    | _ => exact Bool.and_true _
  rw [ofBounds, hzero]
  by_cases h : step = 0
  · simp [h]
  · simp [h]

/-- **Which ranges are accepted, and which end.**  Every step but zero is accepted, but the range ends
only if its steps lead from a start that is not infinitely far behind towards an end that is not
infinitely far ahead. -/
theorem accepted_ends_iff (start stop step : Extended) :
    (ofBounds start stop step = .ok ⟨start, stop, step⟩ ↔ step ≠ 0) ∧
    ((⟨start, stop, step⟩ : NumberRange Extended).Ends ↔
      (0 < step ∧ ⊥ < start ∧ stop < ⊤) ∨ (step < 0 ∧ start < ⊤ ∧ ⊥ < stop)) :=
  ⟨ofBounds_eq_ok_iff start stop step, ends_extended_iff⟩

/-- A range of doubles ends only if its end is not infinitely far ahead. -/
theorem Ends.of_doubles {doubles : NumberRange Float} (h : doubles.Ends) :
    (0 < doubles.step ∧ Decimal.extended doubles.stop < ⊤) ∨
      (doubles.step < 0 ∧ ⊥ < Decimal.extended doubles.stop) := by
  obtain ⟨n, hn⟩ := ends_iff.mp h
  rcases item?_eq_none_iff.mp hn with ⟨hstep, hpast⟩ | ⟨hstep, hpast⟩
  · exact .inl ⟨hstep, Extended.lt_top_of_lt ((Decimal.lt_iff_extended _ _).mp hpast)⟩
  · exact .inr ⟨hstep, Extended.bot_lt_of_lt ((Decimal.lt_iff_extended _ _).mp hpast)⟩

end NumberRange

/-- **A loop gets to its end only if its range ends.** -/
theorem Runner.ends_of_loop {fuel : ℕ} {env : Env} {range : SourceRange}
    {binder? : Option Identifier} {sequence : Expr} {body : Block} {v : Value}
    {doubles : NumberRange Float} {st st₁ st₂ : State}
    (hsequence : runExpression fuel env sequence st = .ok v st₁)
    (hv : v.loopRange? = some doubles)
    (h : runStatement (fuel + 1) env (.loop range binder? sequence body) st = .ok () st₂) :
    doubles.Ends := by
  rw [runStatement_loop range body hsequence hv] at h
  obtain ⟨xs, hxs, -⟩ := exists_yieldsFrom_of_overRange h
  exact ⟨xs, hxs⟩

/-! ### Counting to infinity -/

namespace Infinity

/-- The range from 0 to 1 / 0, with `Extended` numbers. -/
def range : NumberRange Extended := ⟨0, 1 / 0, 1⟩

/-- The same with doubles. -/
def doubles : NumberRange Float := ⟨0, 1 / 0, 1⟩

/-- What a script says for it. -/
def sequence : Expr := .range ⟨9, 19⟩ (.number ⟨9, 10⟩ 0)
  (.infixed ⟨14, 19⟩ (.number ⟨14, 15⟩ 1) .divide (.number ⟨18, 19⟩ 0)) none

/-- The state in which it is evaluated. -/
def start : State := ⟨{ source := "for i in 0 to 1 / 0 \x7b \x7d" }, {}⟩

/-- **The range from 0 to 1 / 0 is accepted and does not end.** -/
theorem accepted_and_endless :
    NumberRange.ofBounds 0 (1 / 0) 1 = .ok range ∧ ¬ range.Ends ∧
    runExpression 3 ⟨{}, []⟩ sequence start = .ok (.range doubles) start ∧ ¬ doubles.Ends := by
  refine ⟨rfl, fun h => ?_, rfl, fun h => ?_⟩
  · rcases NumberRange.ends_extended_iff.mp h with ⟨-, -, hstop⟩ | ⟨hstep, -, -⟩
    · exact absurd hstop (by decide +kernel)
    · exact absurd hstep (by decide +kernel)
  · rcases h.of_doubles with ⟨-, hstop⟩ | ⟨hstep, -⟩
    · exact absurd hstop (by decide +kernel)
    · exact absurd hstep (by decide +kernel)

end Infinity

end SceneLang
