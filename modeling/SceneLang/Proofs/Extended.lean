import Mathlib.Algebra.Order.Archimedean.Basic
import Mathlib.Algebra.Order.Field.Rat
import Mathlib.Tactic.Linarith

/-!
# Rational numbers with infinities

Doubles have infinities, and a value that is no number.  `Extended` numbers have them as well, with
their rules for sums, products, quotients and comparisons, but the others are rational numbers of any
size, and none is rounded.

Steps that go up get past any bound that is not infinite, if they do not start infinitely far below
(`Extended.exists_lt_add_mul`).
-/

namespace SceneLang

/-- **A rational number, an infinity or no number at all.** -/
inductive Extended where
  | finite (a : ℚ)
  | infinite (negative : Bool)
  /-- What has no value, such as the quotient of zero and zero. -/
  | nan
  deriving DecidableEq

namespace Extended

/-! ### Arithmetic -/

instance : NatCast Extended := ⟨fun n => .finite n⟩

instance (n : ℕ) : OfNat Extended n := ⟨.finite n⟩

instance : Top Extended := ⟨.infinite false⟩

instance : Bot Extended := ⟨.infinite true⟩

instance : Neg Extended where
  neg
    | .finite a => .finite (-a)
    | .infinite s => .infinite !s
    | .nan => .nan

/-- Infinities of different signs have no sum. -/
instance : Add Extended where
  add
    | .finite a, .finite b => .finite (a + b)
    | .finite _, .infinite s => .infinite s
    | .infinite s, .finite _ => .infinite s
    | .infinite s, .infinite t => if s = t then .infinite s else .nan
    | _, _ => .nan

/-- Zero and an infinity have no product. -/
instance : Mul Extended where
  mul
    | .finite a, .finite b => .finite (a * b)
    | .finite a, .infinite s => if a = 0 then .nan else .infinite (decide (a < 0) ^^ s)
    | .infinite s, .finite a => if a = 0 then .nan else .infinite (decide (a < 0) ^^ s)
    | .infinite s, .infinite t => .infinite (s ^^ t)
    | _, _ => .nan

/-- What is divided by zero is infinite, unless it is zero. -/
instance : Div Extended where
  div
    | .finite a, .finite b =>
      if b = 0 then if a = 0 then .nan else .infinite (decide (a < 0)) else .finite (a / b)
    | .finite _, .infinite _ => .finite 0
    | .infinite s, .finite b => .infinite (decide (b < 0) ^^ s)
    | _, _ => .nan

/-- Whether a number is less than another; nothing is less or greater than no number. -/
def less : Extended → Extended → Bool
  | .finite a, .finite b => decide (a < b)
  | .finite _, .infinite s => !s
  | .infinite s, .finite _ => s
  | .infinite s, .infinite t => s && !t
  | _, _ => false

instance : LT Extended := ⟨fun x y => less x y = true⟩

instance (x y : Extended) : Decidable (x < y) := inferInstanceAs (Decidable (less x y = true))

/-- No number at all is not even equal to itself. -/
instance : BEq Extended := ⟨fun x y => decide (x = y) && decide (x ≠ .nan)⟩

section Lemmas

variable {x y z : Extended} {a b : ℚ}

theorem neg_finite (a : ℚ) : -finite a = finite (-a) := rfl

theorem finite_lt_finite : finite a < finite b ↔ a < b := decide_eq_true_iff

/-! ### Signs -/

protected theorem neg_lt_neg_iff : -x < -y ↔ y < x := by
  rcases x with a | (_ | _) | _
  · rcases y with b | (_ | _) | _
    · rw [neg_finite, neg_finite, finite_lt_finite, finite_lt_finite, neg_lt_neg_iff]
    all_goals exact Iff.rfl
  all_goals rcases y with b | (_ | _) | _ <;> exact Iff.rfl

protected theorem neg_add : -(x + y) = -x + -y := by
  rcases x with a | (_ | _) | _
  · rcases y with b | (_ | _) | _
    · exact congrArg finite (neg_add a b)
    all_goals rfl
  all_goals rcases y with b | (_ | _) | _ <;> rfl

theorem neg_mul_natCast (x : Extended) (n : ℕ) : -(x * n) = -x * n := by
  rcases x with a | s | _
  · exact congrArg finite (neg_mul a n).symm
  · show -(if (n : ℚ) = 0 then nan else infinite (decide ((n : ℚ) < 0) ^^ s))
      = if (n : ℚ) = 0 then nan else infinite (decide ((n : ℚ) < 0) ^^ !s)
    split
    · rfl
    · rw [Bool.xor_not]
      rfl
  · rfl

/-! ### Comparisons -/

theorem lt_top_of_lt (h : x < y) : x < ⊤ := by
  rcases x with a | (_ | _) | _
  · rfl
  · -- infinity is the greatest number
    rcases y with b | (_ | _) | _ <;> cases h
  · rfl
  · cases h

theorem bot_lt_of_lt (h : x < y) : ⊥ < y := by
  have hneg : -y < -⊥ := lt_top_of_lt (Extended.neg_lt_neg_iff.mpr h)
  exact Extended.neg_lt_neg_iff.mp hneg

/-- Nothing makes up for a start that is infinitely far below. -/
theorem bot_lt_left (h : ⊥ < x + y) : ⊥ < x := by
  rcases x with a | (_ | _) | _
  · rfl
  · rfl
  · rcases y with b | (_ | _) | _ <;> cases h
  · cases h

/-! ### Steps -/

/-- **Steps upwards get past an end** that is not infinitely far ahead, if they do not start
infinitely far behind. -/
theorem exists_lt_add_mul (hz : 0 < z) : (∃ n : ℕ, y < x + z * n) ↔ ⊥ < x ∧ y < ⊤ := by
  constructor
  · rintro ⟨n, h⟩
    exact ⟨bot_lt_left (bot_lt_of_lt h), lt_top_of_lt h⟩
  · rintro ⟨hx, hy⟩
    rcases z with c | (_ | _) | _
    · have hc : 0 < c := finite_lt_finite.mp hz
      rcases x with a | (_ | _) | _
      · rcases y with b | (_ | _) | _
        · obtain ⟨n, hn⟩ := exists_nat_gt ((b - a) / c)
          refine ⟨n, finite_lt_finite.mpr ?_⟩
          rw [div_lt_iff₀ hc] at hn
          linarith
        · cases hy
        · exact ⟨0, rfl⟩
        · cases hy
      · exact ⟨0, hy⟩
      · cases hx
      · cases hx
    · -- the first item is none, and from the second one on the items are infinite
      refine ⟨1, ?_⟩
      rcases x with a | (_ | _) | _
      · exact hy
      · exact hy
      · cases hx
      · cases hx
    · cases hz
    · cases hz

/-- **Steps downwards** are steps upwards with all signs changed. -/
theorem exists_add_mul_lt (hz : z < 0) : (∃ n : ℕ, x + z * n < y) ↔ x < ⊤ ∧ ⊥ < y := by
  have hneg : 0 < -z := Extended.neg_lt_neg_iff.mpr hz
  have hx : ⊥ < -x ↔ x < ⊤ := @Extended.neg_lt_neg_iff ⊤ x
  have hy : -y < ⊤ ↔ ⊥ < y := @Extended.neg_lt_neg_iff y ⊥
  rw [← hx, ← hy, ← exists_lt_add_mul hneg]
  refine exists_congr fun n => ?_
  rw [← neg_mul_natCast, ← Extended.neg_add, Extended.neg_lt_neg_iff]

end Lemmas

end Extended

end SceneLang
