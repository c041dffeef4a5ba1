import SceneLang.Text.Numeral
import Mathlib.Data.List.DropRight

/-!
# What is read as a whole number

A whole number in base sixteen is more than a row of digits: `Text.IsHexNumeral` describes its
notation, with blanks around it, a sign, the mark `0x` and underscores between digits, and
`Text.readHex?_eq_some_iff` says that the reader takes exactly this notation and gives the number it
stands for.

The reader takes the parts off the front, one after the other, and each is recognised by its first
character.  So what is needed besides a lemma for each part is that the classes of characters do not
meet: a digit is no blank (`isMargin_of_digit`), no sign, no underscore and no letter `x`
(`hexValue?_of_mem`).
-/

namespace SceneLang.Text

/-! ### Blanks around a text -/

section Trim

variable {p : Char → Bool} {s left right : List Char}

/-- What is trimmed off. -/
theorem exists_eq_append_trim (p : Char → Bool) (s : List Char) :
    ∃ left right, s = left ++ trim p s ++ right ∧ (∀ c ∈ left, p c) ∧ ∀ c ∈ right, p c := by
  refine ⟨s.takeWhile p, (s.dropWhile p).rtakeWhile p, ?_, fun c => List.mem_takeWhile_imp,
    fun c => List.mem_rtakeWhile_imp⟩
  have htrim : trim p s = (s.dropWhile p).rdropWhile p := rfl
  rw [htrim, List.append_assoc, List.rdropWhile_append_rtakeWhile,
    List.takeWhile_append_dropWhile]

/-- Nothing else is trimmed off. -/
theorem trim_append (hleft : ∀ c ∈ left, p c) (hright : ∀ c ∈ right, p c) (hs : s ≠ [])
    (hhead : ¬ p (s.head hs)) (hlast : ¬ p (s.getLast hs)) : trim p (left ++ s ++ right) = s := by
  have hfront : s.dropWhile p = s := by
    rw [List.dropWhile_eq_self_iff]
    intro hlength
    rwa [← List.head_eq_getElem hs]
  have hback : s.rdropWhile p = s := List.rdropWhile_eq_self_iff.mpr fun _ => hlast
  have htrim : trim p (left ++ s ++ right)
      = ((left ++ (s ++ right)).dropWhile p).rdropWhile p := by
    rw [← List.append_assoc]
    rfl
  have hkept : (s ++ right).dropWhile p = s ++ right := by
    rw [List.dropWhile_append, hfront, if_neg (by simpa using hs)]
  rw [htrim, List.dropWhile_append_of_pos hleft, hkept, List.rdropWhile, List.reverse_append,
    List.dropWhile_append_of_pos (by simpa using hright)]
  exact hback

end Trim

/-! ### Runs of digits -/

section Runs

variable {value? : Char → Option Nat} {s : List Char} {ds : List Nat}

/-- **Further digits of a run**, each after at most one underscore, and their values. -/
inductive IsRest (value? : Char → Option Nat) : List Char → List Nat → Prop
  | done : IsRest value? [] []
  | next {c : Char} {d : Nat} {s : List Char} {ds : List Nat} (h : value? c = some d)
    (rest : IsRest value? s ds) : IsRest value? (c :: s) (d :: ds)
  | apart {c : Char} {d : Nat} {s : List Char} {ds : List Nat} (h : value? c = some d)
    (rest : IsRest value? s ds) : IsRest value? ('_' :: c :: s) (d :: ds)

/-- **A run of digits**: one, and further ones. -/
inductive IsRun (value? : Char → Option Nat) : List Char → List Nat → Prop
  | first {c : Char} {d : Nat} {s : List Char} {ds : List Nat} (h : value? c = some d)
    (rest : IsRest value? s ds) : IsRun value? (c :: s) (d :: ds)

theorem IsRest.head {c : Char} (h : IsRest value? (c :: s) ds) : c = '_' ∨ (value? c).isSome := by
  cases h with
  | next h rest => exact .inr (Option.isSome_of_eq_some h)
  | apart h rest => exact .inl rfl

theorem IsRun.ne_nil (h : IsRun value? s ds) : s ≠ [] := by
  cases h
  exact List.cons_ne_nil _ _

/-- A run starts with a digit. -/
theorem IsRun.head_isSome (h : IsRun value? s ds) : (value? (s.head h.ne_nil)).isSome := by
  cases h with
  | first h rest => exact Option.isSome_of_eq_some h

/-- A run ends with a digit. -/
theorem IsRun.getLast_isSome (h : IsRun value? s ds) :
    (value? (s.getLast h.ne_nil)).isSome := by
  cases h with
  | @first c d s ds h rest =>
    induction rest generalizing c d with
    | done => exact Option.isSome_of_eq_some h
    | next h' rest ih =>
      rw [List.getLast_cons (List.cons_ne_nil _ _)]
      exact ih h'
    | apart h' rest ih =>
      rw [List.getLast_cons (List.cons_ne_nil _ _), List.getLast_cons (List.cons_ne_nil _ _)]
      exact ih h'

theorem moreDigits_of_digit (hscore : value? '_' = none) {c : Char} {d : Nat}
    (h : value? c = some d) (s : List Char) :
    moreDigits value? (c :: s) = (d :: (moreDigits value? s).1, (moreDigits value? s).2) := by
  have hc : c ≠ '_' := by
    rintro rfl
    rw [hscore] at h
    cases h
  rw [moreDigits]
  · simp only [h]
  · rintro _ _ rfl _
    exact hc rfl

/-- The reader takes the whole text as further digits exactly if it is such. -/
theorem moreDigits_eq_iff (hscore : value? '_' = none) :
    moreDigits value? s = (ds, []) ↔ IsRest value? s ds := by
  constructor
  · intro h
    fun_induction moreDigits value? s generalizing ds with
    | case1 c rest d hd ds' tail hrest ih =>
      cases h
      exact .apart hd (ih hrest)
    | case2 c rest hd => cases h
    | case3 c rest hne d hd ds' tail hrest ih =>
      cases h
      exact .next hd (ih hrest)
    | case4 c rest hne hd => cases h
    | case5 =>
      cases h
      exact .done
  · intro h
    induction h with
    | done => rfl
    | next h rest ih => rw [moreDigits_of_digit hscore h, ih]
    | apart h rest ih => simp only [moreDigits, h, ih]

/-- **What is read as a number is a run of digits**, and every such run is. -/
theorem readDigits?_eq_some_iff (hscore : value? '_' = none) {base n : Nat} :
    readDigits? base value? s = some n ↔ ∃ ds, IsRun value? s ds ∧ n = ofDigits base ds := by
  constructor
  · intro h
    unfold readDigits? at h
    split at h
    · cases h
    · next ds hne htake =>
      cases h
      refine ⟨ds, ?_, rfl⟩
      cases s with
      | nil =>
        cases htake
        exact absurd rfl hne
      | cons c s =>
        rw [takeDigits] at htake
        split at htake
        · next d hd =>
          obtain ⟨rfl, htail⟩ := Prod.mk.inj htake
          exact .first hd ((moreDigits_eq_iff hscore).mp (Prod.ext rfl htail))
        · cases htake
    · cases h
  · rintro ⟨ds, hrun, rfl⟩
    cases hrun with
    | first h rest =>
      simp only [readDigits?, takeDigits, h, (moreDigits_eq_iff hscore).mpr rest]

end Runs

/-! ### Classes of characters -/

variable {c : Char}

theorem exists_of_isBlank (h : isBlank c) : ∃ r ∈ blanks, r.1 ≤ c.toNat ∧ c.toNat ≤ r.2 := by
  rw [isBlank, Ranges.contains, Array.any_eq_true'] at h
  obtain ⟨r, hr, hc⟩ := h
  simp only [Bool.and_eq_true, decide_eq_true_eq] at hc
  exact ⟨r, hr, hc⟩

/-- A blank is no digit of any script. -/
theorem digitValue?_of_isBlank (h : isBlank c) : digitValue? c = none := by
  have hapart : ∀ r ∈ blanks, ∀ z ∈ digitZeros, r.2 < z ∨ z + 10 ≤ r.1 := by decide +kernel
  obtain ⟨r, hr, hc⟩ := exists_of_isBlank h
  rw [digitValue?, Option.map_eq_none_iff, Array.find?_eq_none]
  intro z hz
  have hz := hapart r hr z hz
  simp only [Bool.and_eq_true, decide_eq_true_eq]
  omega

/-- What may surround a number is no digit in base sixteen. -/
theorem hexValue?_of_isMargin (h : isMargin c) : hexValue? c = none := by
  have hblank : isBlank c := by
    rw [isMargin, Bool.and_eq_true] at h
    exact h.1
  have hletters : ∀ r ∈ blanks, r.2 < 'A'.toNat ∨ 'f'.toNat < r.1 := by decide
  obtain ⟨r, hr, hc⟩ := exists_of_isBlank hblank
  have hletters := hletters r hr
  have hlower : ¬('a' ≤ c ∧ c ≤ 'f') := by
    rintro ⟨hleast, hmost⟩
    have hleast : 'a'.toNat ≤ c.toNat := UInt32.le_iff_toNat_le.mp hleast
    have hmost : c.toNat ≤ 'f'.toNat := UInt32.le_iff_toNat_le.mp hmost
    have : 'A'.toNat ≤ 'a'.toNat := by decide
    omega
  have hupper : ¬('A' ≤ c ∧ c ≤ 'F') := by
    rintro ⟨hleast, hmost⟩
    have hleast : 'A'.toNat ≤ c.toNat := UInt32.le_iff_toNat_le.mp hleast
    have hmost : c.toNat ≤ 'F'.toNat := UInt32.le_iff_toNat_le.mp hmost
    have : 'F'.toNat ≤ 'f'.toNat := by decide
    omega
  rw [hexValue?, digitValue?_of_isBlank hblank]
  simp only [if_neg hlower, if_neg hupper]

/-- The other characters of a number are no digits. -/
theorem hexValue?_of_mem (h : c ∈ ['+', '-', '_', 'x', 'X']) : hexValue? c = none := by
  have hall : ['+', '-', '_', 'x', 'X'].all fun c => hexValue? c == none := by decide
  exact beq_iff_eq.mp (List.all_eq_true.mp hall c h)

theorem isMargin_of_isSome (h : (hexValue? c).isSome) : ¬ isMargin c := by
  intro hmargin
  rw [hexValue?_of_isMargin hmargin] at h
  cases h

/-! ### Signs and marks -/

section Parts

variable {s rest digits : List Char} {ds : List Nat} {negative : Bool}

/-- An optional sign, whether it is a minus, and what follows. -/
inductive IsSigned : List Char → Bool → List Char → Prop
  | plain (s : List Char) : IsSigned s false s
  | plus (s : List Char) : IsSigned ('+' :: s) false s
  | minus (s : List Char) : IsSigned ('-' :: s) true s

/-- An optional mark of base sixteen, which an underscore may follow, and what follows. -/
inductive IsMarked : List Char → List Char → Prop
  | plain (s : List Char) : IsMarked s s
  | mark {x : Char} (hx : x = 'x' ∨ x = 'X') (s : List Char) : IsMarked ('0' :: x :: s) s
  | apart {x : Char} (hx : x = 'x' ∨ x = 'X') (s : List Char) : IsMarked ('0' :: x :: '_' :: s) s

theorem isSigned_takeSign (s : List Char) : IsSigned s (takeSign s).1 (takeSign s).2 := by
  unfold takeSign
  split
  · exact .minus _
  · exact .plus _
  · exact .plain _

/-- What follows the mark of base sixteen, if there is one. -/
def unmarked (s : List Char) : List Char :=
  match s with
  | '0' :: x :: '_' :: rest => if x = 'x' ∨ x = 'X' then rest else s
  | '0' :: x :: rest => if x = 'x' ∨ x = 'X' then rest else s
  | s => s

theorem isMarked_unmarked (s : List Char) : IsMarked s (unmarked s) := by
  unfold unmarked
  split
  · split
    · next hx => exact .apart hx _
    · exact .plain _
  · split
    · next hx => exact .mark hx _
    · exact .plain _
  · exact .plain _

theorem unmarked_eq_self (h : ∀ x rest, s = '0' :: x :: rest → ¬(x = 'x' ∨ x = 'X')) :
    unmarked s = s := by
  unfold unmarked
  split
  · exact if_neg (h _ _ rfl)
  · exact if_neg (h _ _ rfl)
  · rfl

/-- What stands in front of a run is no part of it. -/
theorem IsMarked.unmarked_eq (h : IsMarked s digits) (hrun : IsRun hexValue? digits ds) :
    unmarked s = digits := by
  cases h with
  | plain =>
    refine unmarked_eq_self fun x rest hs hx => ?_
    subst hs
    -- the second character of a run is a digit or an underscore, not the letter of a mark
    cases hrun with
    | first _ hrest =>
      obtain rfl | hsome := hrest.head
      · rcases hx with hx | hx <;> cases hx
      · rw [hexValue?_of_mem (by rcases hx with rfl | rfl <;> simp)] at hsome
        cases hsome
  | mark hx =>
    have hscore : ∀ rest, digits ≠ '_' :: rest := by
      rintro rest rfl
      cases hrun with
      | first h _ =>
        rw [hexValue?_of_mem (by simp)] at h
        cases h
    unfold unmarked
    split
    · next heq =>
      cases heq
      exact absurd rfl (hscore _)
    · next heq =>
      cases heq
      exact if_pos hx
    · next hne => exact absurd rfl (hne _ _)
  | apart hx => simp [unmarked, hx]

/-- A marked run starts with a digit or with the mark, which starts with one as well. -/
theorem IsMarked.head_isSome (h : IsMarked s digits) (hrun : IsRun hexValue? digits ds) :
    ∃ hs : s ≠ [], (hexValue? (s.head hs)).isSome := by
  cases h with
  | plain => exact ⟨hrun.ne_nil, hrun.head_isSome⟩
  | mark => exact ⟨List.cons_ne_nil _ _, rfl⟩
  | apart => exact ⟨List.cons_ne_nil _ _, rfl⟩

theorem IsMarked.getLast_eq (h : IsMarked s digits) (hd : digits ≠ []) :
    ∃ hs : s ≠ [], s.getLast hs = digits.getLast hd := by
  cases h with
  | plain => exact ⟨hd, rfl⟩
  | mark =>
    refine ⟨List.cons_ne_nil _ _, ?_⟩
    rw [List.getLast_cons (List.cons_ne_nil _ _), List.getLast_cons hd]
  | apart =>
    refine ⟨List.cons_ne_nil _ _, ?_⟩
    rw [List.getLast_cons (List.cons_ne_nil _ _), List.getLast_cons (List.cons_ne_nil _ _),
      List.getLast_cons hd]

/-- A sign in front of a digit is taken off. -/
theorem IsSigned.takeSign_eq (h : IsSigned s negative rest) (hne : rest ≠ [])
    (hhead : (hexValue? (rest.head hne)).isSome) : takeSign s = (negative, rest) := by
  cases h with
  | plain =>
    unfold takeSign
    split
    · rw [List.head_cons, hexValue?_of_mem (by simp)] at hhead
      cases hhead
    · rw [List.head_cons, hexValue?_of_mem (by simp)] at hhead
      cases hhead
    · rfl
  | plus => rfl
  | minus => rfl

theorem IsSigned.head_not_isMargin (h : IsSigned s negative rest) (hne : rest ≠ [])
    (hhead : (hexValue? (rest.head hne)).isSome) : ∃ hs : s ≠ [], ¬ isMargin (s.head hs) := by
  cases h with
  | plain => exact ⟨hne, isMargin_of_isSome hhead⟩
  | plus => exact ⟨List.cons_ne_nil _ _, show ¬ isMargin '+' by decide +kernel⟩
  | minus => exact ⟨List.cons_ne_nil _ _, show ¬ isMargin '-' by decide +kernel⟩

theorem IsSigned.getLast_eq (h : IsSigned s negative rest) (hne : rest ≠ []) :
    ∃ hs : s ≠ [], s.getLast hs = rest.getLast hne := by
  cases h with
  | plain => exact ⟨hne, rfl⟩
  | plus => exact ⟨List.cons_ne_nil _ _, List.getLast_cons hne⟩
  | minus => exact ⟨List.cons_ne_nil _ _, List.getLast_cons hne⟩

end Parts

/-! ### Numbers in base sixteen -/

/-- **The notation of a whole number in base sixteen**: a run of digits, with an optional mark of
the base in front of it, an optional sign in front of that, and blanks around. -/
inductive IsHexNumeral : List Char → Int → Prop
  | mk {left right s rest digits : List Char} {negative : Bool} {ds : List Nat}
    (hleft : ∀ c ∈ left, isMargin c) (hright : ∀ c ∈ right, isMargin c)
    (hsign : IsSigned s negative rest) (hmark : IsMarked rest digits)
    (hrun : IsRun hexValue? digits ds) :
    IsHexNumeral (left ++ s ++ right)
      (if negative then -(ofDigits 16 ds : Int) else ofDigits 16 ds)

theorem readHex?_eq {text : String} {s rest : List Char} {negative : Bool}
    (htrim : trim isMargin text.toList = s) (hsign : takeSign s = (negative, rest)) :
    readHex? text = (readDigits? 16 hexValue? (unmarked rest)).map fun n : Nat =>
      if negative then -(n : Int) else n := by
  rw [readHex?, htrim, hsign]
  show Option.map (fun n : Int => if negative then -n else n)
    ((readDigits? 16 hexValue? (unmarked rest)).bind fun n => some (n : Int)) = _
  cases readDigits? 16 hexValue? (unmarked rest) with
  | none => rfl
  | some n => rfl

/-- **What is read as a whole number in base sixteen is its notation**, and all of it is. -/
theorem readHex?_eq_some_iff {text : String} {n : Int} :
    readHex? text = some n ↔ IsHexNumeral text.toList n := by
  have hscore : hexValue? '_' = none := hexValue?_of_mem (by simp)
  constructor
  · intro h
    rw [readHex?_eq rfl rfl] at h
    obtain ⟨m, hm, rfl⟩ := Option.map_eq_some_iff.mp h
    obtain ⟨ds, hrun, rfl⟩ := (readDigits?_eq_some_iff hscore).mp hm
    obtain ⟨left, right, hs, hleft, hright⟩ := exists_eq_append_trim isMargin text.toList
    have hnumeral := IsHexNumeral.mk hleft hright (isSigned_takeSign _) (isMarked_unmarked _) hrun
    rwa [← hs] at hnumeral
  · generalize htext : text.toList = chars
    intro h
    cases h with
    | @mk left right s rest digits negative ds hleft hright hsign hmark hrun =>
      obtain ⟨hrest, hhead⟩ := hmark.head_isSome hrun
      obtain ⟨hs, hmargin⟩ := hsign.head_not_isMargin hrest hhead
      obtain ⟨_, hlast⟩ := hsign.getLast_eq hrest
      obtain ⟨_, hlast'⟩ := hmark.getLast_eq hrun.ne_nil
      have htrim : trim isMargin text.toList = s := by
        rw [htext]
        refine trim_append hleft hright hs hmargin ?_
        rw [hlast, hlast']
        exact isMargin_of_isSome hrun.getLast_isSome
      rw [readHex?_eq htrim (hsign.takeSign_eq hrest hhead), hmark.unmarked_eq hrun,
        (readDigits?_eq_some_iff hscore).mpr ⟨ds, hrun, rfl⟩]
      rfl

end SceneLang.Text
