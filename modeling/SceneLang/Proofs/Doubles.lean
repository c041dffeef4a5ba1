import SceneLang.Decimal.Binary
import SceneLang.Proofs.Extended
import Mathlib

/-!
# The numbers that doubles stand for

`Decimal.view` takes the bits of a double apart into a sign, a significand and an exponent, and so
does the model that comparisons of doubles are defined by (`view_eq`).  A double stands for a rational
number, an infinity or nothing (`Decimal.extended`), and doubles compare as these numbers do
(`Decimal.lt_iff_extended`): the significand of a double is as long as its exponent allows
(`IsCanonical`), so a larger exponent always means a larger number.
-/

namespace SceneLang.Decimal

open Float.Model (UnpackedFloat Format)
open Float.Model.UnpackedFloat (Sign unpack unpackMantissa unpackExponent unpackSign
  unpackMantissa_def unpackExponent_def unpackSign_def)

/-! ### The parts of a double -/

/-- Whether a sign is a minus. -/
def isMinus : Sign → Bool
  | .positive => false
  | .negative => true

/-- The parts of an unpacked double. -/
def viewOf : UnpackedFloat → View
  | .notANumber => .nan
  | .infinity s => .infinite (isMinus s)
  | .zero s => .finite (isMinus s) 0 leastExponent
  | .finite s m e _ => .finite (isMinus s) m e

section Fields

variable (b : BitVec Format.binary64.numBits)

theorem toNat_unpackMantissa : (unpackMantissa b).toNat = b.toNat % twoTo fractionBits := by
  rw [unpackMantissa_def, BitVec.extractLsb'_toNat]
  rfl

theorem toNat_unpackExponent :
    (unpackExponent b).toNat = b.toNat / twoTo fractionBits % twoTo 11 := by
  rw [unpackExponent_def, BitVec.extractLsb'_toNat, Nat.shiftRight_eq_div_pow]
  rfl

theorem isMinus_unpackSign :
    isMinus (Sign.ofBitVec (unpackSign b)) = (b.toNat / twoTo 63 == 1) := by
  have hlt : b.toNat / twoTo 63 < 2 := by
    have hb : b.toNat < 2 * twoTo 63 := b.isLt
    exact Nat.div_lt_of_lt_mul (by omega)
  have hsign : (unpackSign b).toNat = b.toNat / twoTo 63 := by
    have h : (unpackSign b).toNat = b.toNat / twoTo 63 % 2 := by
      rw [unpackSign_def, BitVec.extractLsb'_toNat, Nat.shiftRight_eq_div_pow]
      rfl
    rw [h, Nat.mod_eq_of_lt hlt]
  rw [← hsign]
  generalize unpackSign b = v
  revert v
  decide

/-- The significand of a normal double has an implicit first bit. -/
theorem toNat_implicit (v : BitVec Format.binary64.mantissaBitsWithoutImplicit) :
    (1#1 ++ v).toNat = v.toNat + twoTo fractionBits := by
  rw [BitVec.toNat_append, ← Nat.shiftLeft_add_eq_or_of_lt v.isLt, Nat.add_comm]
  rfl

/-- The parts of a double, from its three fields. -/
theorem viewOf_unpack : viewOf (unpack Format.binary64 b) =
    if (unpackExponent b).toNat = 0x7FF then
      if (unpackMantissa b).toNat = 0 then .infinite (isMinus (Sign.ofBitVec (unpackSign b)))
      else .nan
    else if (unpackExponent b).toNat = 0 then
      .finite (isMinus (Sign.ofBitVec (unpackSign b))) (unpackMantissa b).toNat leastExponent
    else
      .finite (isMinus (Sign.ofBitVec (unpackSign b)))
        ((unpackMantissa b).toNat + twoTo fractionBits)
        (leastExponent + ((unpackExponent b).toNat - 1 : Nat)) := by
  have hones : unpackExponent b = -1#_ ↔ (unpackExponent b).toNat = 0x7FF :=
    BitVec.toNat_inj.symm
  have hzeros : unpackExponent b = 0#_ ↔ (unpackExponent b).toNat = 0 := BitVec.toNat_inj.symm
  have hnone : unpackMantissa b = 0#_ ↔ (unpackMantissa b).toNat = 0 := BitVec.toNat_inj.symm
  have hbias : (Format.binary64.exponentBias : Int) + Format.binary64.mantissaBitsWithoutImplicit
      = 1 - leastExponent := rfl
  unfold unpack
  dsimp only
  rw [hbias]
  by_cases hmost : unpackExponent b = -1#_
  · rw [if_pos hmost, if_pos (hones.mp hmost)]
    by_cases hfraction : unpackMantissa b = 0#_
    · rw [if_pos hfraction, if_pos (hnone.mp hfraction)]
      rfl
    · rw [if_neg hfraction, if_neg (mt hnone.mpr hfraction)]
      rfl
  · rw [if_neg hmost, if_neg (mt hones.mpr hmost)]
    by_cases hleast : unpackExponent b = 0#_
    · rw [if_pos hleast, if_pos (hzeros.mp hleast), hzeros.mp hleast]
      split
      · next hfraction =>
        rw [hnone.mp hfraction]
        rfl
      · next hfraction =>
        rw [viewOf]
        congr 1
    · have hpos : (unpackExponent b).toNat ≠ 0 := mt hzeros.mpr hleast
      rw [if_neg hleast, if_neg hpos, viewOf, toNat_implicit]
      congr 1
      omega

end Fields

/-- The parts of a double are those of its model. -/
theorem view_eq (x : Float) : view x = viewOf x.toModel.unpack := by
  rw [Float.Model.unpack, viewOf_unpack, toNat_unpackExponent, toNat_unpackMantissa,
    isMinus_unpackSign]
  rfl

/-! ### The number that a double stands for -/

/-- The number that the parts of a double stand for. -/
def View.extended : View → Extended
  | .finite negative m e => .finite ((if negative then -1 else 1) * (m * 2 ^ e))
  | .infinite negative => .infinite negative
  | .nan => .nan

/-- **The number that a double stands for.** -/
def extended (x : Float) : Extended := (view x).extended

/-- **A double stands for a rational number.** -/
def Reads (x : Float) (a : ℚ) : Prop := extended x = .finite a

instance (x : Float) (a : ℚ) : Decidable (Reads x a) :=
  inferInstanceAs (Decidable (extended x = .finite a))

/-- **A significand as long as its exponent allows**: it fits into a double, and is short only with
the least exponent. -/
structure IsCanonical (m : Nat) (e : Int) : Prop where
  least : leastExponent ≤ e
  lt : m < 2 ^ 53
  long : leastExponent < e → 2 ^ 52 ≤ m

theorem isCanonical_of_unpack {b : BitVec Format.binary64.numBits} {s : Sign} {m : Nat} {e : Int}
    {hm : 0 < m} (h : unpack Format.binary64 b = .finite s m e hm) : IsCanonical m e := by
  have hview := viewOf_unpack b
  have hlt : (unpackMantissa b).toNat < 2 ^ 52 := (unpackMantissa b).isLt
  rw [h, viewOf] at hview
  split at hview
  · split at hview <;> cases hview
  · split at hview
    · obtain ⟨-, rfl, rfl⟩ := View.finite.inj hview
      exact ⟨le_rfl, Nat.lt_trans hlt (by decide), fun h => absurd h (lt_irrefl _)⟩
    · obtain ⟨-, rfl, rfl⟩ := View.finite.inj hview
      exact ⟨by omega, Nat.add_lt_add_right hlt (2 ^ 52), fun _ => Nat.le_add_left _ _⟩

/-- A larger exponent outweighs every significand. -/
theorem IsCanonical.lt_of_lt {m n : Nat} {e f : Int} (hm : IsCanonical m e) (hn : IsCanonical n f)
    (h : e < f) : (m * 2 ^ e : ℚ) < n * 2 ^ f := by
  have hshort : (m : ℚ) < 2 ^ 53 := by exact_mod_cast hm.lt
  have hlong : (2 ^ 52 : ℚ) ≤ n := by exact_mod_cast hn.long (lt_of_le_of_lt hm.least h)
  have htwo : (0 : ℚ) < 2 ^ e := zpow_pos (by norm_num) e
  -- one more in the exponent is worth one more bit of the significand
  calc (m * 2 ^ e : ℚ) < 2 ^ 53 * 2 ^ e := mul_lt_mul_of_pos_right hshort htwo
    _ = 2 ^ 52 * 2 ^ (e + 1) := by
      rw [zpow_add_one₀ (by norm_num)]
      ring
    _ ≤ n * 2 ^ f := by
      refine mul_le_mul hlong ?_ (zpow_pos (by norm_num) _).le (Nat.cast_nonneg n)
      exact zpow_le_zpow_right₀ (by norm_num) h

/-- **Canonical numbers compare by their exponents first.** -/
theorem IsCanonical.lt_iff {m n : Nat} {e f : Int} (hm : IsCanonical m e) (hn : IsCanonical n f) :
    (m * 2 ^ e : ℚ) < n * 2 ^ f ↔ e < f ∨ e = f ∧ m < n := by
  rcases lt_trichotomy e f with h | rfl | h
  · exact iff_of_true (hm.lt_of_lt hn h) (.inl h)
  · have htwo : (0 : ℚ) < 2 ^ e := zpow_pos (by norm_num) e
    rw [mul_lt_mul_iff_left₀ htwo, Nat.cast_lt]
    simp
  · refine iff_of_false (hn.lt_of_lt hm h).not_gt ?_
    omega

/-- The significands of a double are canonical. -/
def Canonical : UnpackedFloat → Prop
  | .finite _ m e _ => IsCanonical m e
  | _ => True

theorem canonical_unpack (x : Float) : Canonical x.toModel.unpack := by
  cases h : x.toModel.unpack with
  | finite s m e hm => exact isCanonical_of_unpack h
  | _ => trivial

theorem compare_magnitudes {m n : Nat} {e f : Int} (hm : IsCanonical m e)
    (hn : IsCanonical n f) :
    (compare e f).then (compare m n) = .lt ↔ (m * 2 ^ e : ℚ) < n * 2 ^ f := by
  rw [hm.lt_iff hn, Ordering.then_eq_lt, Int.compare_eq_lt, Int.compare_eq_eq, Nat.compare_eq_lt]

theorem magnitude_pos {m : Nat} (hm : 0 < m) (e : Int) : (0 : ℚ) < m * 2 ^ e :=
  mul_pos (by exact_mod_cast hm) (zpow_pos (by norm_num) e)

theorem extended_zero (s : Sign) : (viewOf (.zero s)).extended = .finite 0 := by
  simp [viewOf, View.extended]

/-- The number of a finite double is that of its magnitude, with its sign. -/
theorem extended_finite (s : Sign) (m : Nat) (e : Int) (hm : 0 < m) :
    (viewOf (.finite s m e hm)).extended
      = .finite (if isMinus s then -(m * 2 ^ e : ℚ) else m * 2 ^ e) := by
  cases s <;> simp [viewOf, View.extended, isMinus]

/-- **Doubles compare as the numbers that they stand for**, case by case. -/
theorem compare_eq_lt_iff {u v : UnpackedFloat} (hu : Canonical u) (hv : Canonical v) :
    u.compare v = some .lt ↔ (viewOf u).extended < (viewOf v).extended := by
  cases u with
  | notANumber => exact iff_of_false nofun nofun
  | infinity s =>
    cases v with
    | notANumber => cases s <;> exact iff_of_false nofun nofun
    | infinity t =>
      cases s <;> cases t <;> first | exact iff_of_true rfl rfl | exact iff_of_false nofun nofun
    | zero t => cases s <;> first | exact iff_of_true rfl rfl | exact iff_of_false nofun nofun
    | finite t n f hn =>
      cases s <;> first | exact iff_of_true rfl rfl | exact iff_of_false nofun nofun
  | zero s =>
    rw [extended_zero]
    cases v with
    | notANumber => exact iff_of_false nofun nofun
    | infinity t => cases t <;> first | exact iff_of_true rfl rfl | exact iff_of_false nofun nofun
    | zero t =>
      rw [extended_zero, Extended.finite_lt_finite]
      exact iff_of_false nofun (lt_irrefl _)
    | finite t n f hn =>
      rw [extended_finite, Extended.finite_lt_finite]
      have hpos := magnitude_pos hn f
      cases t with
      | positive => exact iff_of_true rfl hpos
      | negative => exact iff_of_false nofun (neg_neg_of_pos hpos).not_gt
  | finite s m e hm =>
    have hpos := magnitude_pos hm e
    cases v with
    | notANumber => exact iff_of_false nofun nofun
    | infinity t => cases t <;> first | exact iff_of_true rfl rfl | exact iff_of_false nofun nofun
    | zero t =>
      rw [extended_finite, extended_zero, Extended.finite_lt_finite]
      cases s with
      | positive => exact iff_of_false nofun hpos.not_gt
      | negative => exact iff_of_true rfl (neg_neg_of_pos hpos)
    | finite t n f hn =>
      rw [extended_finite, extended_finite, Extended.finite_lt_finite]
      have hpos' := magnitude_pos hn f
      -- the signs decide unless they are the same
      cases s with
      | positive =>
        cases t with
        | positive => exact Option.some_inj.trans (compare_magnitudes hu hv)
        | negative => exact iff_of_false nofun ((neg_neg_of_pos hpos').trans hpos).not_gt
      | negative =>
        cases t with
        | positive => exact iff_of_true rfl ((neg_neg_of_pos hpos).trans hpos')
        | negative =>
          refine Option.some_inj.trans ?_
          rw [Ordering.swap_then, Int.compare_swap, Nat.compare_swap, compare_magnitudes hv hu]
          exact neg_lt_neg_iff.symm

/-- **Doubles compare as the numbers that they stand for.** -/
theorem lt_iff_extended (x y : Float) : x < y ↔ extended x < extended y := by
  rw [extended, extended, view_eq, view_eq,
    ← compare_eq_lt_iff (canonical_unpack x) (canonical_unpack y)]
  -- comparisons of doubles are defined by those of their models
  show decide (x.toModel < y.toModel) = true ↔ _
  rw [decide_eq_true_iff]
  show (x.toModel.unpack.compare y.toModel.unpack == some .lt) = true ↔ _
  exact beq_iff_eq

theorem Reads.lt_iff {x y : Float} {a b : ℚ} (hx : Reads x a) (hy : Reads y b) :
    x < y ↔ a < b := by
  rw [lt_iff_extended, hx, hy, Extended.finite_lt_finite]

end SceneLang.Decimal
