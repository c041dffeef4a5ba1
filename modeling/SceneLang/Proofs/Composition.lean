import SceneLang.Proofs.GeometryCodec
import SceneLang.Proofs.Square
import Mathlib.Data.Matrix.Mul
import Mathlib.LinearAlgebra.Matrix.Notation
import Mathlib.Tactic.Abel
import Mathlib.Tactic.FinCases
import Mathlib.Tactic.Ring

/-!
# When a product of transforms does what its factors do

A transform scales, turns and moves, and a product of two transforms combines scales, rotations and
offsets separately.  Applied to a point, "first `a`, then `b`" turns by `a` *before* it scales by
`b`, while the product has only one scale and applies all of it first.  So the two agree where the
order makes no difference: `Transform.followedBy_apply` says when that is, for numbers of any
commutative ring.

Square matrices are read as matrices of the library (`Rotation.matrix`) and vectors as columns
(`Vec3.coords`); each operation has one lemma that says what it is there.
-/

namespace SceneLang

open Matrix

variable {R : Type}

/-! ### Vectors as columns -/

/-- The components of a vector as a column. -/
def Vec3.coords (v : Vec3 R) : Fin 3 → R := ![v.x, v.y, v.z]

namespace Vec3

theorem coords_injective : Function.Injective (coords : Vec3 R → Fin 3 → R) := by
  intro v w h
  have hx : v.x = w.x := congrFun h 0
  have hy : v.y = w.y := congrFun h 1
  have hz : v.z = w.z := congrFun h 2
  obtain ⟨x, y, z⟩ := v
  simp only at hx hy hz
  rw [hx, hy, hz]

theorem coords_surjective : Function.Surjective (coords : Vec3 R → Fin 3 → R) := by
  intro f
  refine ⟨⟨f 0, f 1, f 2⟩, ?_⟩
  funext i
  fin_cases i <;> rfl

variable [CommRing R]

theorem coords_add (v w : Vec3 R) : (v + w).coords = v.coords + w.coords := by
  funext i
  fin_cases i <;> rfl

/-- Scaling is multiplication by a diagonal matrix. -/
theorem coords_scaled (v s : Vec3 R) : (v.scaled s).coords = diagonal s.coords *ᵥ v.coords := by
  funext i
  rw [mulVec_diagonal]
  fin_cases i <;> exact mul_comm _ _

/-- Scaling by a product of scales. -/
theorem diagonal_scaled (s t : Vec3 R) :
    diagonal (s.scaled t).coords = diagonal t.coords * diagonal s.coords := by
  rw [diagonal_mul_diagonal]
  congr 1
  funext i
  fin_cases i <;> exact mul_comm _ _

end Vec3

variable [CommRing R]

/-! ### Square matrices -/

/-- The entries of a square matrix. -/
def Rotation.matrix (m : Rotation R) : Matrix (Fin 3) (Fin 3) R :=
  Matrix.of fun i j => (m.rows.getD i []).getD j 0

namespace Rotation

variable {l m : Rotation R}

theorem matrix_ofEntries (a b c d e f g h i : R) :
    (ofEntries a b c d e f g h i).matrix = !![a, b, c; d, e, f; g, h, i] := by
  ext j k
  fin_cases j <;> fin_cases k <;> rfl

/-- Turning a vector is multiplication by the matrix. -/
theorem IsSquare.apply_eq (hm : m.IsSquare) (v : Vec3 R) :
    ∃ w, m.apply v = .ok w ∧ w.coords = m.matrix *ᵥ v.coords := by
  obtain ⟨a, b, c, d, e, f, g, h, i, rfl⟩ := hm.eq_ofEntries
  refine ⟨_, rfl, ?_⟩
  funext j
  rw [matrix_ofEntries]
  fin_cases j <;>
    simp [Vec3.coords, Vec3.ofComponents, ofEntries, dot, Vec3.toList, mulVec, dotProduct,
      Fin.sum_univ_three]

/-- The product of square matrices is their matrix product. -/
theorem IsSquare.product_eq (hl : l.IsSquare) (hm : m.IsSquare) :
    ∃ p, product l m = .ok p ∧ p.IsSquare ∧ p.matrix = l.matrix * m.matrix := by
  obtain ⟨a, b, c, d, e, f, g, h, i, rfl⟩ := hl.eq_ofEntries
  obtain ⟨a', b', c', d', e', f', g', h', i', rfl⟩ := hm.eq_ofEntries
  refine ⟨_, rfl, isSquare_ofEntries .., ?_⟩
  ext j k
  rw [matrix_ofEntries, matrix_ofEntries, mul_apply, Fin.sum_univ_three]
  fin_cases j <;> fin_cases k <;> simp [matrix, ofEntries, dot, column, width, List.range_succ]

end Rotation

/-! ### Transforms -/

namespace Transform

variable {a b t : Transform R}

/-- What a transform does to a point before it moves it. -/
def linear (t : Transform R) : Matrix (Fin 3) (Fin 3) R :=
  t.rotation.matrix * diagonal t.scale.coords

/-- The image of a point. -/
theorem apply_eq (ht : t.rotation.IsSquare) (p : Vec3 R) :
    ∃ q, t.apply p = .ok q ∧ q.coords = t.linear *ᵥ p.coords + t.offset.coords := by
  obtain ⟨q, hq, hcoords⟩ := ht.apply_eq (p.scaled t.scale)
  refine ⟨q + t.offset, ?_, ?_⟩
  · rw [apply, hq]
    rfl
  · rw [Vec3.coords_add, hcoords, Vec3.coords_scaled, mulVec_mulVec, linear]

/-- A product of transforms turns what is scaled by both. -/
theorem followedBy_eq (ha : a.rotation.IsSquare) (hb : b.rotation.IsSquare) :
    ∃ ab, a.followedBy b = .ok ab ∧ ab.rotation.IsSquare ∧
      ab.linear = b.rotation.matrix * (a.rotation.matrix * diagonal b.scale.coords)
        * diagonal a.scale.coords ∧
      ab.offset.coords = b.linear *ᵥ a.offset.coords + b.offset.coords := by
  obtain ⟨offset, hoffset, hcoords⟩ := hb.apply_eq (a.offset.scaled b.scale)
  obtain ⟨rotation, hrotation, hsquare, hmatrix⟩ := hb.product_eq ha
  refine ⟨⟨offset + b.offset, rotation, a.scale.scaled b.scale, true⟩, ?_, hsquare, ?_, ?_⟩
  · rw [followedBy, hoffset, Rotation.followedBy, hrotation]
    rfl
  · simp only [linear, hmatrix, Vec3.diagonal_scaled, Matrix.mul_assoc]
  · rw [Vec3.coords_add, hcoords, Vec3.coords_scaled, mulVec_mulVec, linear]

/-- **The image under a product of transforms**, against the image under the first one and then the
second one.  Both are moved alike, so they differ in what is done before. -/
theorem images_eq (ha : a.rotation.IsSquare) (hb : b.rotation.IsSquare) :
    ∃ ab, a.followedBy b = .ok ab ∧
      ab.linear = b.rotation.matrix * (a.rotation.matrix * diagonal b.scale.coords)
        * diagonal a.scale.coords ∧
      ∀ p, ∃ q q', ab.apply p = .ok q ∧ (a.apply p >>= b.apply) = .ok q' ∧
        q.coords - q'.coords = (ab.linear - b.linear * a.linear) *ᵥ p.coords := by
  obtain ⟨ab, hab, hsquare, hlinear, hoffset⟩ := followedBy_eq ha hb
  refine ⟨ab, hab, hlinear, fun p => ?_⟩
  obtain ⟨q, hq, hqcoords⟩ := apply_eq hsquare p
  obtain ⟨q₁, hq₁, hq₁coords⟩ := apply_eq ha p
  obtain ⟨q', hq', hq'coords⟩ := apply_eq hb q₁
  refine ⟨q, q', hq, ?_, ?_⟩
  · rw [hq₁]
    exact hq'
  · rw [hqcoords, hoffset, hq'coords, hq₁coords, mulVec_add, sub_mulVec, mulVec_mulVec]
    abel

/-- **When a product of transforms does what its factors do**, first `a`, then `b`.  The product is
defined and moves every point; it moves all points as `a` and then `b` do exactly if the scale of
`b` and the rotation of `a` can change places, between the scale of `a` and the rotation of `b`.  So
it does if the rotation of `a` mixes only axes that `b` scales alike. -/
theorem followedBy_apply (ha : a.rotation.IsSquare) (hb : b.rotation.IsSquare) :
    ∃ ab, a.followedBy b = .ok ab ∧ (∀ p, ∃ q, ab.apply p = .ok q) ∧
      ((∀ p, ab.apply p = (a.apply p >>= b.apply)) ↔
        b.rotation.matrix * (a.rotation.matrix * diagonal b.scale.coords)
            * diagonal a.scale.coords
          = b.rotation.matrix * (diagonal b.scale.coords * a.rotation.matrix)
            * diagonal a.scale.coords) ∧
      ((∀ i j, a.rotation.matrix i j * b.scale.coords j
          = b.scale.coords i * a.rotation.matrix i j) →
        ∀ p, ab.apply p = (a.apply p >>= b.apply)) := by
  obtain ⟨ab, hab, hlinear, himages⟩ := images_eq ha hb
  have hfactors : b.linear * a.linear
      = b.rotation.matrix * (diagonal b.scale.coords * a.rotation.matrix)
        * diagonal a.scale.coords := by
    simp only [linear, Matrix.mul_assoc]
  have hiff : (∀ p, ab.apply p = (a.apply p >>= b.apply)) ↔ ab.linear = b.linear * a.linear := by
    rw [← sub_eq_zero, ext_iff_mulVec]
    simp only [zero_mulVec]
    constructor
    · intro h v
      obtain ⟨p, rfl⟩ := Vec3.coords_surjective v
      obtain ⟨q, q', hq, hq', hdiff⟩ := himages p
      have hsame : q = q' := by
        have heq := h p
        rw [hq, hq'] at heq
        exact Except.ok.inj heq
      rw [← hdiff, hsame, sub_self]
    · intro h p
      obtain ⟨q, q', hq, hq', hdiff⟩ := himages p
      rw [h p.coords, sub_eq_zero] at hdiff
      rw [hq, hq', Vec3.coords_injective hdiff]
  rw [hlinear, hfactors] at hiff
  refine ⟨ab, hab, fun p => ?_, hiff, fun halike => hiff.mpr ?_⟩
  · obtain ⟨q, -, hq, -, -⟩ := himages p
    exact ⟨q, hq⟩
  · have hcommute : a.rotation.matrix * diagonal b.scale.coords
        = diagonal b.scale.coords * a.rotation.matrix := by
      ext i j
      rw [mul_diagonal, diagonal_mul]
      exact halike i j
    rw [hcommute]

namespace Sheared

/-- A quarter turn about the third axis, with a scale and an offset. -/
def quarter : Transform ℤ where
  offset := ⟨1, 2, 3⟩
  rotation := .ofEntries 0 (-1) 0 1 0 0 0 0 1
  scale := ⟨2, 3, 5⟩

/-- A transform that treats the first two axes alike. -/
def taller : Transform ℤ where
  offset := ⟨-1, 0, 4⟩
  rotation := .ofEntries 1 0 0 0 0 (-1) 0 1 0
  scale := ⟨7, 7, 2⟩

/-- The quarter turn mixes only the first two axes. -/
theorem followedBy_apply_taller :
    quarter.rotation.IsSquare ∧ taller.rotation.IsSquare ∧
      ∃ ab, quarter.followedBy taller = .ok ab ∧
        ∀ p, ab.apply p = (quarter.apply p >>= taller.apply) := by
  have hquarter : quarter.rotation.IsSquare := by decide
  have htaller : taller.rotation.IsSquare := by decide
  obtain ⟨ab, hab, -, -, halike⟩ := followedBy_apply hquarter htaller
  exact ⟨hquarter, htaller, ab, hab, halike (by decide)⟩

/-- Nothing but a quarter turn. -/
def turned : Transform ℤ := { Transform.identity with rotation := quarter.rotation }

/-- Nothing but a stretch along the first axis. -/
def stretched : Transform ℤ := { Transform.identity with scale := ⟨2, 1, 1⟩ }

/-- **A product of transforms need not do what its factors do**: the quarter turn takes the first
axis to the second, which is not stretched afterwards; the product stretches the first axis before
it turns. -/
theorem image_of_product_ne :
    turned.rotation.IsSquare ∧ stretched.rotation.IsSquare ∧
      (turned.followedBy stretched >>= fun ab => ab.apply ⟨1, 0, 0⟩) = .ok ⟨0, 2, 0⟩ ∧
      (turned.apply ⟨1, 0, 0⟩ >>= stretched.apply) = .ok ⟨0, 1, 0⟩ ∧
      (⟨0, 2, 0⟩ : Vec3 ℤ) ≠ ⟨0, 1, 0⟩ :=
  ⟨by decide, by decide, rfl, rfl, by decide⟩

end Sheared

end Transform

end SceneLang
