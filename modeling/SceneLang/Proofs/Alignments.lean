import SceneLang.Suggestion.Distance
import Mathlib.Order.Bounds.Basic

/-!
# Alignments of words

`distance` fills its table with the first choice that looks right: where the characters are equal it
keeps them and compares no other edit, and a swap is only tried in the end.  Here the distance is
compared with all alignments of the two words, and is the least cost of them
(`distance_isLeast`).

What makes the first choice right is that an alignment of two words can be turned into one of the
words without their first characters that costs no more (`Aligns.exists_tails`), because dropping
one character changes the cost by at most one (`Aligns.exists_tail`).  The rows of the table are
then right one after the other (`IsRow.next`).  The table is filled from the ends of the words, so
the last step is that alignments can be read backwards (`Aligns.reverse`).
-/

namespace SceneLang.Suggestion

/-! ### Alignments -/

/-- **An alignment of two words with its cost.**  A step keeps a character that both words have next
or makes one edit: a character is replaced, inserted or dropped, or two neighbours are swapped.
Nothing is edited twice. -/
inductive Aligns : List Char → List Char → Nat → Prop
  | nil : Aligns [] [] 0
  | keep (x : Char) {a b : List Char} {n : Nat} : Aligns a b n → Aligns (x :: a) (x :: b) n
  | replace (x y : Char) {a b : List Char} {n : Nat} :
      Aligns a b n → Aligns (x :: a) (y :: b) (n + 1)
  | insert (y : Char) {a b : List Char} {n : Nat} : Aligns a b n → Aligns a (y :: b) (n + 1)
  | drop (x : Char) {a b : List Char} {n : Nat} : Aligns a b n → Aligns (x :: a) b (n + 1)
  | swap (x y : Char) {a b : List Char} {n : Nat} :
      Aligns a b n → Aligns (x :: y :: a) (y :: x :: b) (n + 1)

namespace Aligns

variable {x y : Char} {a b a' b' : List Char} {m n : Nat}

/-- A word is aligned with itself for nothing. -/
theorem refl (a : List Char) : Aligns a a 0 := by
  induction a with
  | nil => exact nil
  | cons x a ih => exact ih.keep x

/-- Alignments can be turned around: what is inserted one way is dropped the other way. -/
theorem symm (h : Aligns a b n) : Aligns b a n := by
  induction h with
  | nil => exact nil
  | keep x _ ih => exact ih.keep x
  | replace x y _ ih => exact ih.replace y x
  | insert y _ ih => exact ih.drop y
  | drop x _ ih => exact ih.insert x
  | swap x y _ ih => exact ih.swap y x

theorem append (h : Aligns a b m) (h' : Aligns a' b' n) : Aligns (a ++ a') (b ++ b') (m + n) := by
  induction h with
  | nil => rwa [Nat.zero_add]
  | keep x _ ih => exact ih.keep x
  | replace x y _ ih => rw [Nat.add_right_comm]; exact ih.replace x y
  | insert y _ ih => rw [Nat.add_right_comm]; exact ih.insert y
  | drop x _ ih => rw [Nat.add_right_comm]; exact ih.drop x
  | swap x y _ ih => rw [Nat.add_right_comm]; exact ih.swap x y

/-- **Alignments can be read backwards.** -/
theorem reverse (h : Aligns a b n) : Aligns a.reverse b.reverse n := by
  induction h with
  | nil => exact nil
  | keep x _ ih =>
    rw [List.reverse_cons, List.reverse_cons]
    exact ih.append (nil.keep x)
  | replace x y _ ih =>
    rw [List.reverse_cons, List.reverse_cons]
    exact ih.append (nil.replace x y)
  | @insert y a b n _ ih =>
    rw [List.reverse_cons, ← List.append_nil a.reverse]
    exact ih.append (nil.insert y)
  | @drop x a b n _ ih =>
    rw [List.reverse_cons, ← List.append_nil b.reverse]
    exact ih.append (nil.drop x)
  | swap x y _ ih =>
    simp only [List.reverse_cons, List.append_assoc, List.singleton_append]
    exact ih.append (nil.swap y x)

theorem reverse_iff : Aligns a.reverse b.reverse n ↔ Aligns a b n := by
  refine ⟨fun h => ?_, reverse⟩
  have h' := h.reverse
  rwa [List.reverse_reverse, List.reverse_reverse] at h'

/-- Only equal words are aligned for nothing. -/
theorem eq_of_zero (h : Aligns a b 0) : a = b := by
  generalize hn : 0 = n at h
  induction h with
  | nil => rfl
  | keep x _ ih => rw [ih hn]
  | _ => omega

/-- A word gets longer by at most one character for each edit. -/
theorem length_le (h : Aligns a b n) : b.length ≤ a.length + n := by
  induction h with
  | nil => exact Nat.le_refl 0
  | _ => simp only [List.length_cons] at *; omega

/-- Words can be aligned character by character, the rest of the longer one is inserted or
dropped. -/
theorem exists_le_max (a b : List Char) : ∃ n ≤ max a.length b.length, Aligns a b n := by
  induction a generalizing b with
  | nil =>
    induction b with
    | nil => exact ⟨0, Nat.zero_le _, nil⟩
    | cons y b ih =>
      obtain ⟨n, hn, h⟩ := ih
      refine ⟨n + 1, ?_, h.insert y⟩
      simp only [List.length_nil, List.length_cons] at *
      omega
  | cons x a ih =>
    cases b with
    | nil =>
      obtain ⟨n, hn, h⟩ := ih []
      refine ⟨n + 1, ?_, h.drop x⟩
      simp only [List.length_nil, List.length_cons] at *
      omega
    | cons y b =>
      obtain ⟨n, hn, h⟩ := ih b
      refine ⟨n + 1, ?_, h.replace x y⟩
      simp only [List.length_cons] at *
      omega

/-- **Without its first character a word costs at most one more.** -/
theorem exists_tail (h : Aligns (x :: a) b n) : ∃ m ≤ n + 1, Aligns a b m := by
  generalize hword : x :: a = word at h
  induction h with
  | nil => cases hword
  | keep z h' _ =>
    cases hword
    exact ⟨_, Nat.le_refl _, h'.insert x⟩
  | replace z y h' _ =>
    cases hword
    exact ⟨_, Nat.le_succ _, h'.insert y⟩
  | insert y _ ih =>
    obtain ⟨m, hm, h'⟩ := ih hword
    exact ⟨m + 1, Nat.succ_le_succ hm, h'.insert y⟩
  | drop z h' _ =>
    cases hword
    exact ⟨_, by omega, h'⟩
  | swap z y h' _ =>
    -- the other character of the pair can be kept, so nothing but the dropped one is inserted
    cases hword
    exact ⟨_, Nat.le_succ _, (h'.insert x).keep y⟩

/-- **Without their first characters two words cost no more.** -/
theorem exists_tails (h : Aligns (x :: a) (y :: b) n) : ∃ m ≤ n, Aligns a b m := by
  cases h with
  | keep _ h' => exact ⟨n, Nat.le_refl n, h'⟩
  | replace _ _ h' => exact ⟨_, Nat.le_succ _, h'⟩
  | insert _ h' => exact h'.exists_tail
  | drop _ h' =>
    obtain ⟨m, hm, h''⟩ := h'.symm.exists_tail
    exact ⟨m, hm, h''.symm⟩
  | swap _ _ h' => exact ⟨_, Nat.le_refl _, h'.replace y x⟩

end Aligns

/-! ### Least costs -/

/-- **The least cost of an alignment of two words.** -/
def IsDistance (a b : List Char) (n : Nat) : Prop := IsLeast {n | Aligns a b n} n

namespace IsDistance

variable {x y : Char} {a b : List Char} {m n drop insert both swap : Nat}

theorem symm (h : IsDistance a b n) : IsDistance b a n :=
  ⟨h.1.symm, fun _ hm => h.2 hm.symm⟩

theorem of_reverse (h : IsDistance a.reverse b.reverse n) : IsDistance a b n :=
  ⟨Aligns.reverse_iff.mp h.1, fun _ hm => h.2 hm.reverse⟩

/-- Everything has to be inserted into the empty word. -/
theorem nil_left (b : List Char) : IsDistance [] b b.length := by
  refine ⟨?_, fun n hn => ?_⟩
  · show Aligns [] b b.length
    induction b with
    | nil => exact .nil
    | cons y b ih => exact ih.insert y
  · have := Aligns.length_le hn
    rwa [List.length_nil, Nat.zero_add] at this

/-- Everything has to be dropped to get the empty word. -/
theorem cons_nil (x : Char) (h : IsDistance a [] n) : IsDistance (x :: a) [] (n + 1) := by
  refine ⟨h.1.drop x, fun m hm => ?_⟩
  cases hm with
  | drop _ h' => exact Nat.succ_le_succ (h.2 h')

/-- The cost of a step is that of an alignment. -/
theorem aligns_stepCost (hdrop : IsDistance a (y :: b) drop) (hinsert : IsDistance (x :: a) b insert)
    (hboth : IsDistance a b both) : Aligns (x :: a) (y :: b) (stepCost x y drop insert both) := by
  unfold stepCost
  split
  · rename_i hxy
    rw [← hxy]
    exact hboth.1.keep x
  · have hmin : min (min drop insert) both = drop ∨ min (min drop insert) both = insert ∨
        min (min drop insert) both = both := by omega
    rcases hmin with h | h | h
    · rw [h]; exact hdrop.1.drop x
    · rw [h]; exact hinsert.1.insert y
    · rw [h]; exact hboth.1.replace x y

/-- **No alignment costs less than a step**, unless it starts with a swap.  Where the first
characters are equal this is because both can be left out. -/
theorem stepCost_le (hdrop : IsDistance a (y :: b) drop) (hinsert : IsDistance (x :: a) b insert)
    (hboth : IsDistance a b both) (h : Aligns (x :: a) (y :: b) n) :
    stepCost x y drop insert both ≤ n ∨
      ∃ a' b' m, a = y :: a' ∧ b = x :: b' ∧ Aligns a' b' m ∧ n = m + 1 := by
  unfold stepCost
  split
  · obtain ⟨m, hm, h'⟩ := h.exists_tails
    exact .inl ((hboth.2 h').trans hm)
  · rename_i hxy
    cases h with
    | keep => exact absurd rfl hxy
    | replace _ _ h' =>
      have := hboth.2 h'
      left; omega
    | insert _ h' =>
      have := hinsert.2 h'
      left; omega
    | drop _ h' =>
      have := hdrop.2 h'
      left; omega
    | swap _ _ h' => exact .inr ⟨_, _, _, rfl, rfl, h', rfl⟩

/-- **The least cost for two words**, from the least costs for shorter ones. -/
theorem cons_cons (hdrop : IsDistance a (y :: b) drop) (hinsert : IsDistance (x :: a) b insert)
    (hboth : IsDistance a b both)
    (hswap : ∀ a' b', a = y :: a' → b = x :: b' → IsDistance a' b' swap) :
    IsDistance (x :: a) (y :: b)
      (if b.head? = some x ∧ a.head? = some y then
        min (stepCost x y drop insert both) (swap + 1)
      else stepCost x y drop insert both) := by
  have hstep := aligns_stepCost hdrop hinsert hboth
  split
  · rename_i hheads
    obtain ⟨b', rfl⟩ := List.head?_eq_some_iff.mp hheads.1
    obtain ⟨a', rfl⟩ := List.head?_eq_some_iff.mp hheads.2
    have hpair := hswap a' b' rfl rfl
    refine ⟨?_, fun n hn => ?_⟩
    · rcases Nat.le_total (stepCost x y drop insert both) (swap + 1) with hle | hle
      · rw [Nat.min_eq_left hle]; exact hstep
      · rw [Nat.min_eq_right hle]; exact hpair.1.swap x y
    · rcases stepCost_le hdrop hinsert hboth hn with hle | ⟨a'', b'', m, ha, hb, h, rfl⟩
      · exact (Nat.min_le_left _ _).trans hle
      · cases ha
        cases hb
        exact (Nat.min_le_right _ _).trans (Nat.succ_le_succ (hpair.2 h))
  · rename_i hheads
    refine ⟨hstep, fun n hn => ?_⟩
    rcases stepCost_le hdrop hinsert hboth hn with hle | ⟨a', b', m, rfl, rfl, -, -⟩
    · exact hle
    · exact absurd ⟨rfl, rfl⟩ hheads

end IsDistance

/-! ### Rows of the table -/

/-- **The row of a word**: its distances to another word and to all that is left of that word when
characters are taken away from its start. -/
inductive IsRow (a : List Char) : List Char → List Nat → Prop
  | nil {n : Nat} : IsDistance a [] n → IsRow a [] [n]
  | cons {y : Char} {b : List Char} {n : Nat} {row : List Nat} :
      IsDistance a (y :: b) n → IsRow a b row → IsRow a (y :: b) (n :: row)

namespace IsRow

variable {a b : List Char} {row : List Nat}

/-- A row starts with the distance to the whole word. -/
theorem head (h : IsRow a b row) : IsDistance a b (row.headD 0) := by
  cases h with
  | nil h => exact h
  | cons h _ => exact h

theorem tail {y : Char} (h : IsRow a (y :: b) row) : IsRow a b row.tail := by
  cases h with
  | cons _ h => exact h

/-- The row of the empty word. -/
theorem empty (b : List Char) : IsRow [] b (emptyRow b) := by
  induction b with
  | nil => exact .nil (.nil_left [])
  | cons y b ih => exact .cons (.nil_left (y :: b)) ih

/-- **The next row is right** if the two rows before it are. -/
theorem next {before beforeSecond : List Nat} (x : Char) (hbefore : IsRow a b before)
    (hsecond : ∀ z a', a = z :: a' → IsRow a' b beforeSecond) :
    IsRow (x :: a) b (nextRow x a.head? b before beforeSecond) := by
  -- by induction on the other word: the tail of the row is the row for the tail of the word
  induction b generalizing before beforeSecond with
  | nil => exact .nil (hbefore.head.cons_nil x)
  | cons y b ih =>
    have htail := ih hbefore.tail fun z a' ha => (hsecond z a' ha).tail
    refine .cons (.cons_cons hbefore.head htail.head hbefore.tail.head fun a' b' ha hb => ?_) htail
    have hpair := hsecond y a' ha
    rw [hb] at hpair
    exact hpair.tail.tail.head

end IsRow

/-- **Both rows that are kept are right**: that of the word and that of the word without its first
character. -/
theorem isRow_rows (other word : List Char) :
    IsRow word other (rows other word).1 ∧
      ∀ z word', word = z :: word' → IsRow word' other (rows other word).2 := by
  induction word with
  | nil => exact ⟨.empty other, nofun⟩
  | cons x word ih =>
    refine ⟨ih.1.next x ih.2, ?_⟩
    rintro _ _ ⟨⟩
    exact ih.1

theorem isDistance_distance (a b : String) : IsDistance a.toList b.toList (distance a b) :=
  .of_reverse (isRow_rows b.toList.reverse a.toList.reverse).1.head

/-- Only equal words have no distance. -/
theorem distance_eq_zero_iff {a b : String} : distance a b = 0 ↔ a = b := by
  have hleast := isDistance_distance a b
  constructor
  · intro hzero
    have haligns := hleast.1
    rw [hzero] at haligns
    exact String.toList_inj.mp haligns.eq_of_zero
  · rintro rfl
    exact Nat.le_zero.mp (hleast.2 (Aligns.refl _))

/-- **The distance of two words is the least cost of their alignments.**  So it is the same both
ways, only equal words have none, and it lies between the difference of the lengths and the greater
of them. -/
theorem distance_isLeast (a b : String) :
    IsLeast {n | Aligns a.toList b.toList n} (distance a b) ∧
    distance a b = distance b a ∧
    (distance a b = 0 ↔ a = b) ∧
    max a.length b.length - min a.length b.length ≤ distance a b ∧
    distance a b ≤ max a.length b.length := by
  have hleast := isDistance_distance a b
  refine ⟨hleast, ?_, distance_eq_zero_iff, ?_, ?_⟩
  · exact hleast.unique (isDistance_distance b a).symm
  · have hlonger := hleast.1.length_le
    have hshorter := hleast.1.symm.length_le
    rw [String.length_toList, String.length_toList] at hlonger hshorter
    omega
  · obtain ⟨n, hn, haligns⟩ := Aligns.exists_le_max a.toList b.toList
    have hle := hleast.2 haligns
    rw [String.length_toList, String.length_toList] at hn
    exact hle.trans hn

example : distance "ucbe" "cube" = 1 := by decide

end SceneLang.Suggestion
