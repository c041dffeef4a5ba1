import SceneLang.Proofs.Bare
import SceneLang.Proofs.RaisedRuns

/-!
# Members

The names that a value lists and the names under which it has a member come from two separate case
analyses.  They agree but for tuples of one element: such a tuple lists what its element lists and
looks up what its element has, except that the name of a position is always looked up in the tuple
itself.  So only the first position of a tuple inside of a tuple of one element can be reached,
although all of them are listed (`Value.Overlooks`).  `Value.mem_members_iff` says that this is the
only difference.
-/

namespace SceneLang

/-! ### Names at positions -/

/-- Each of the first names has a value if there are enough values. -/
theorem isSome_lookup_zip {α : Type} {names : List String} {values : List α} {n : String}
    (h : names.length ≤ values.length) :
    ((names.zip values).lookup n).isSome ↔ n ∈ names := by
  induction names generalizing values with
  | nil => simp
  | cons name names ih =>
    cases values with
    | nil => exact absurd h (by simp)
    | cons x values =>
      rw [List.zip_cons_cons, List.lookup_cons, List.mem_cons]
      by_cases hn : n = name
      · simp [hn]
      · rw [beq_false_of_ne hn, ih (Nat.le_of_succ_le_succ h)]
        exact (or_iff_right hn).symm

/-- The names of the positions that a list of values has. -/
theorem mem_take_ordinals_iff {n : String} {k : Nat} :
    n ∈ ordinals.take k ↔ ∃ i, ordinalIndex? n = some i ∧ i < k := by
  rw [ordinalIndex?]
  constructor
  · intro h
    obtain ⟨j, hj, hname⟩ := List.mem_take_iff_getElem.mp h
    cases hi : ordinals.idxOf? n with
    | none => exact absurd (List.mem_of_mem_take h) (List.idxOf?_eq_none_iff.mp hi)
    | some i =>
      obtain ⟨_, _, hfirst⟩ := List.idxOf?_eq_some_iff.mp hi
      refine ⟨i, rfl, ?_⟩
      by_contra hk
      exact hfirst j (by omega) hname
  · rintro ⟨i, hi, hk⟩
    obtain ⟨hlength, hname, -⟩ := List.idxOf?_eq_some_iff.mp hi
    exact List.mem_take_iff_getElem.mpr ⟨i, by omega, hname⟩

namespace Value

theorem isSome_memberAt? {names : List String} {values : List Float} {n : String}
    (h : names.length ≤ values.length) : (memberAt? names values n).isSome ↔ n ∈ names := by
  rw [memberAt?, Option.isSome_map, isSome_lookup_zip h]

section Components

variable (n : String)

@[simp] theorem isSome_vectorMember? (v : Vec3 Float) :
    (memberAt? vectorMembers v.toList n).isSome ↔ n ∈ vectorMembers :=
  isSome_memberAt? (Nat.le_refl 3)

@[simp] theorem isSome_sizeMember? (v : Vec3 Float) :
    (memberAt? sizeMembers v.toList n).isSome ↔ n ∈ sizeMembers :=
  isSome_memberAt? (Nat.le_refl 3)

@[simp] theorem isSome_colorMember? (c : Color Float) :
    (memberAt? colorMembers c.toList n).isSome ↔ n ∈ colorMembers :=
  isSome_memberAt? (Nat.le_refl 4)

@[simp] theorem isSome_rangeMember? (start stop step : Float) :
    (memberAt? rangeMembers [start, stop, step] n).isSome ↔ n ∈ rangeMembers :=
  isSome_memberAt? (Nat.le_refl 3)

/-- No name of a position is a name of a component. -/
theorem ordinalIndex?_eq_none_of_mem {n : String}
    (h : n ∈ colorMembers ++ vectorMembers ++ sizeMembers ++ rangeMembers) :
    ordinalIndex? n = none := by
  have hall : ∀ m ∈ colorMembers ++ vectorMembers ++ sizeMembers ++ rangeMembers,
      ordinalIndex? m = none := by decide
  exact hall n h

end Components

/-! ### Tuples of numbers -/

theorem length_of_numbers? {vs : List Value} {xs : List Float} (h : numbers? vs = some xs) :
    vs.length = xs.length := by
  unfold numbers? at h
  induction vs generalizing xs with
  | nil =>
    cases h
    rfl
  | cons v rest ih =>
    rw [List.mapM_cons] at h
    simp only [Option.bind_eq_bind, Option.bind_eq_some_iff] at h
    obtain ⟨x, -, ys, hys, heq⟩ := h
    cases heq
    exact congrArg (· + 1) (ih hys)

/-- **The members of a tuple of numbers** besides its positions: those of a colour for up to four
numbers, and those of a vector and of a size for up to three. -/
theorem isSome_numbersMember? (xs : List Float) (n : String) :
    (numbersMember? xs n).isSome ↔
      n ∈ (if xs.length < 5 then colorMembers else [])
        ++ (if xs.length < 4 then vectorMembers ++ sizeMembers else []) := by
  have hapart : ∀ m ∈ vectorMembers ++ sizeMembers, m ∉ colorMembers := by decide
  have hright : n ∈ (if xs.length < 5 then colorMembers else [])
        ++ (if xs.length < 4 then vectorMembers ++ sizeMembers else []) ↔
      n ∈ colorMembers ∧ xs.length < 5 ∨ n ∈ vectorMembers ++ sizeMembers ∧ xs.length < 4 := by
    simp only [List.mem_append, List.mem_ite_nil_right, and_comm]
  rw [hright, numbersMember?]
  by_cases h₁ : n ∈ vectorMembers
  · have h₃ : n ∉ colorMembers := hapart n (List.mem_append_left _ h₁)
    by_cases h : xs.length < 4 <;> simp [h, h₁, h₃]
  by_cases h₂ : n ∈ sizeMembers
  · have h₃ : n ∉ colorMembers := hapart n (List.mem_append_right _ h₂)
    by_cases h : xs.length < 4 <;> simp [h, h₁, h₂, h₃]
  by_cases h₃ : n ∈ colorMembers
  · by_cases h : xs.length < 5 <;> simp [h, h₁, h₂, h₃]
  · simp [h₁, h₂, h₃]

/-- A tuple of numbers has no member besides its positions under the name of a position. -/
theorem numbersMember?_of_ordinal {n : String} {i : Nat} (hi : ordinalIndex? n = some i)
    (xs : List Float) : numbersMember? xs n = none := by
  rw [← Option.not_isSome_iff_eq_none, isSome_numbersMember?]
  intro h
  have hmem : n ∈ colorMembers ++ vectorMembers ++ sizeMembers ++ rangeMembers := by
    simp only [List.mem_append, List.mem_ite_nil_right] at h ⊢
    tauto
  cases (ordinalIndex?_eq_none_of_mem hmem).symm.trans hi

/-! ### What a value lists and what it has -/

/-- **The names that a value lists without having them**: names of positions after the first, in
tuples of one element around a tuple that has such a position. -/
inductive Overlooks (n : String) : Value → Prop
  | tuple {items : List Value} {i : Nat} : ordinalIndex? n = some (i + 1) → i + 1 < items.length →
    Overlooks n (.tuple [.tuple items])
  | inside {v : Value} : Overlooks n v → Overlooks n (.tuple [v])

section

variable {n : String} {i : Nat}

theorem Overlooks.ordinalIndex? {v : Value} (h : v.Overlooks n) :
    ∃ i, SceneLang.ordinalIndex? n = some (i + 1) := by
  induction h with
  | tuple hi _ => exact ⟨_, hi⟩
  | inside _ ih => exact ih

/-- Only a tuple that is the only element of a tuple can hide its positions. -/
theorem Overlooks.eq_tuple {v : Value} (h : v.Overlooks n) :
    ∃ items, v = .tuple [.tuple items] := by
  cases h with
  | tuple _ _ => exact ⟨_, rfl⟩
  | inside h => cases h with
    | tuple _ _ | inside _ => exact ⟨_, rfl⟩

/-- A value does not have what it overlooks. -/
theorem Overlooks.member?_eq_none {v : Value} (h : v.Overlooks n) : v.member? n = none := by
  obtain ⟨i, hi⟩ := h.ordinalIndex?
  cases h with
  | tuple _ _ | inside _ => simp [member?_tuple, hi]

/-- **Only a tuple has members under the names of positions.** -/
theorem isSome_member?_of_ordinal (hi : ordinalIndex? n = some i) (v : Value) :
    (v.member? n).isSome ↔ ∃ items, v = .tuple items ∧ i < items.length := by
  have hnone (h : n ∈ colorMembers ++ vectorMembers ++ sizeMembers ++ rangeMembers) : False := by
    cases (ordinalIndex?_eq_none_of_mem h).symm.trans hi
  simp only [List.mem_append] at hnone
  cases v with
  | tuple items => simp [member?_tuple, hi]
  | vector v => simpa [member?] using fun h => hnone (.inl (.inl (.inr h)))
  | size v => simpa [member?] using fun h => hnone (.inl (.inr h))
  | color c => simpa [member?] using fun h => hnone (.inl (.inl (.inl h)))
  | range r => simpa [member?] using fun h => hnone (.inr h)
  | _ =>
    refine iff_of_false (fun h => by cases h) ?_
    rintro ⟨items, ⟨⟩, _⟩

/-- **The names of later positions in a tuple of one element**: none of them is a member, and one
that the element has is overlooked. -/
theorem overlooks_singleton_iff (hi : ordinalIndex? n = some (i + 1)) (v : Value) :
    (Value.tuple [v]).Overlooks n ↔ (v.member? n).isSome ∨ v.Overlooks n := by
  rw [isSome_member?_of_ordinal hi]
  constructor
  · intro h
    cases h with
    | @tuple items j hj hlt =>
      cases hi.symm.trans hj
      exact .inl ⟨items, rfl, hlt⟩
    | inside h => exact .inr h
  · rintro (⟨items, rfl, hlt⟩ | h)
    · exact .tuple hi hlt
    · exact .inside h

end

/-- **A value lists the names of the members that it has and the names that it overlooks.** -/
theorem mem_members_iff_or (v : Value) (n : String) :
    n ∈ v.members ↔ (v.member? n).isSome ∨ v.Overlooks n := by
  fun_induction members v with
  | case1 v => rw [member?, isSome_vectorMember?, or_iff_left (fun h => by cases h)]
  | case2 v => rw [member?, isSome_sizeMember?, or_iff_left (fun h => by cases h)]
  | case3 c => rw [member?, isSome_colorMember?, or_iff_left (fun h => by cases h)]
  | case4 r => rw [member?, isSome_rangeMember?, or_iff_left (fun h => by cases h)]
  | case5 vs positions xs hxs =>
    have hnot : ¬ (tuple vs).Overlooks n := by
      intro h
      obtain ⟨items, heq⟩ := h.eq_tuple
      cases heq
      cases hxs
    rw [or_iff_left hnot, member?_tuple, List.append_assoc, List.mem_append,
      mem_take_ordinals_iff, length_of_numbers? hxs, ← isSome_numbersMember?]
    cases hi : ordinalIndex? n with
    | none => simp [hxs]
    | some i => simp [numbersMember?_of_ordinal hi, length_of_numbers? hxs]
  | case6 v positions hnumbers ih =>
    rw [List.mem_append, mem_take_ordinals_iff, ih, member?_tuple]
    cases hi : ordinalIndex? n with
    | none =>
      have hnot (w : Value) : ¬ w.Overlooks n := fun h => by
        obtain ⟨i, hi'⟩ := h.ordinalIndex?
        cases hi.symm.trans hi'
      simp [hnumbers, hnot]
    | some i =>
      cases i with
      | zero => simp
      | succ i => simp [overlooks_singleton_iff hi]
  | case7 vs positions hnumbers hone =>
    have hnot : ¬ (tuple vs).Overlooks n := by
      intro h
      obtain ⟨items, heq⟩ := h.eq_tuple
      exact hone (.tuple items) (Value.tuple.inj heq)
    rw [or_iff_left hnot, member?_tuple, mem_take_ordinals_iff]
    cases hi : ordinalIndex? n with
    | none => simp [hnumbers]
    | some i => simp
  | case8 v hvector hsize hcolor hrange htuple =>
    have hnone : v.member? n = none ∧ ¬ v.Overlooks n := by
      cases v with
      | vector v => exact absurd rfl (hvector v)
      | size v => exact absurd rfl (hsize v)
      | color c => exact absurd rfl (hcolor c)
      | range r => exact absurd rfl (hrange r)
      | tuple vs => exact absurd rfl (htuple vs)
      | _ => exact ⟨rfl, fun h => by cases h⟩
    simp [hnone]

/-- **The listed names and the members of a value agree** but for the names that the value
overlooks, which are listed and have no member. -/
theorem mem_members_iff (v : Value) (n : String) :
    (n ∈ v.members ↔ (v.member? n).isSome ∨ v.Overlooks n) ∧
      ((v.member? n).isSome ↔ n ∈ v.members ∧ ¬ v.Overlooks n) := by
  refine ⟨mem_members_iff_or v n, ?_⟩
  rw [mem_members_iff_or]
  constructor
  · intro h
    refine ⟨.inl h, fun hv => ?_⟩
    rw [hv.member?_eq_none] at h
    cases h
  · rintro ⟨h | h, hv⟩
    · exact h
    · exact absurd h hv

end Value

/-! ### A position that is listed and not found -/

namespace Nest

/-- Two numbers in a tuple of one element. -/
def pair : Value := .tuple [.tuple [.number 1, .number 2]]

/-- The second position of the element is listed, but is no member. -/
theorem second_listed : "second" ∈ pair.members ∧ pair.member? "second" = none ∧
    (Value.tuple [.number 1, .number 2]).member? "second" = some (.number 2) := by
  refine ⟨?_, rfl, rfl⟩
  have hlisted : pair.members = ["first", "first", "second"] ++ Value.colorMembers
      ++ (Value.vectorMembers ++ Value.sizeMembers) := rfl
  simp [hlisted]

end Nest

end SceneLang
