import SceneLang.Proofs.Alignments
import SceneLang.Suggestion.Ranking
import Mathlib.Data.List.Sigma

/-!
# The ranking of names

`bestMatches` compares names with a query by two numbers, and says nothing of names where both are
equal; that these keep their order is due to the sort.  Here the order is made explicit: the names
that could be meant are numbered as they come (`List.zipIdx`), and `Precedes` compares the number
last, so it leaves no ties and there is one way to rank a list by it.  The ranking of names is the
one that is ordered by `Precedes` (`bestMatches_ranked`).

Names that are spelled like the query have distance zero and nothing else has, so they come first.
-/

namespace SceneLang.Suggestion

/-! ### Common starts -/

/-- **`commonStart` is the length of the longest common start.** -/
theorem commonStart_isGreatest (a b : List Char) :
    IsGreatest {n | ∃ start : List Char, start <+: a ∧ start <+: b ∧ start.length = n}
      (commonStart a b) := by
  induction a generalizing b with
  | nil =>
    refine ⟨⟨[], List.nil_prefix, List.nil_prefix, by simp [commonStart]⟩, ?_⟩
    rintro n ⟨start, ha, -, rfl⟩
    rw [List.prefix_nil.mp ha]
    exact Nat.zero_le _
  | cons x a ih =>
    cases b with
    | nil =>
      refine ⟨⟨[], List.nil_prefix, List.nil_prefix, rfl⟩, ?_⟩
      rintro n ⟨start, -, hb, rfl⟩
      rw [List.prefix_nil.mp hb]
      exact Nat.le_refl 0
    | cons y b =>
      obtain ⟨⟨start, ha, hb, hlength⟩, hgreatest⟩ := ih b
      unfold commonStart
      split
      · rename_i hxy
        rw [← hxy]
        refine ⟨⟨x :: start, ?_, ?_, congrArg (· + 1) hlength⟩, ?_⟩
        · exact List.cons_prefix_cons.mpr ⟨rfl, ha⟩
        · exact List.cons_prefix_cons.mpr ⟨rfl, hb⟩
        · rintro n ⟨longer, ha', hb', rfl⟩
          cases longer with
          | nil => exact Nat.zero_le _
          | cons z longer =>
            have hshorter := hgreatest ⟨longer, (List.cons_prefix_cons.mp ha').2,
              (List.cons_prefix_cons.mp hb').2, rfl⟩
            exact Nat.succ_le_succ hshorter
      · rename_i hxy
        refine ⟨⟨[], List.nil_prefix, List.nil_prefix, rfl⟩, ?_⟩
        rintro n ⟨longer, ha', hb', rfl⟩
        cases longer with
        | nil => exact Nat.le_refl 0
        | cons z longer =>
          have hzx := (List.cons_prefix_cons.mp ha').1
          have hzy := (List.cons_prefix_cons.mp hb').1
          exact absurd (hzx.symm.trans hzy) hxy

theorem commonStart_ne_zero_iff {a b : List Char} :
    commonStart a b ≠ 0 ↔ ∃ start ≠ [], start <+: a ∧ start <+: b := by
  obtain ⟨⟨longest, ha, hb, hlength⟩, hgreatest⟩ := commonStart_isGreatest a b
  constructor
  · intro hne
    refine ⟨longest, ?_, ha, hb⟩
    rintro rfl
    exact hne hlength.symm
  · rintro ⟨start, hne, ha', hb'⟩ hzero
    have hle := hgreatest ⟨start, ha', hb', rfl⟩
    rw [hzero] at hle
    exact hne (List.eq_nil_of_length_eq_zero (Nat.le_zero.mp hle))

/-! ### Names that could be meant -/

/-- **A name that a query could mean**: in lower case both start alike, or no more than half of the
query has to be edited. -/
def Plausible (query name : String) : Prop :=
  (∃ start ≠ [], start <+: (Text.lowercase name).toList ∧
    start <+: (Text.lowercase query).toList) ∨
  distance (Text.lowercase name) (Text.lowercase query) ≤ (Text.lowercase query).length / 2

theorem Candidate.distance_of (query name : String) : (Candidate.of query name).distance
    = Suggestion.distance (Text.lowercase name) (Text.lowercase query) := by
  simp only [Candidate.of]

theorem Candidate.shared_of (query name : String) : (Candidate.of query name).shared
    = commonStart (Text.lowercase name).toList (Text.lowercase query).toList := by
  simp only [Candidate.of]

theorem isPlausible_iff {query name : String} :
    (Candidate.of query name).isPlausible query ↔ Plausible query name := by
  unfold Candidate.isPlausible Plausible
  rw [Bool.or_eq_true, decide_eq_true_eq, decide_eq_true_eq, Candidate.distance_of,
    Candidate.shared_of, commonStart_ne_zero_iff]

instance (query name : String) : Decidable (Plausible query name) :=
  decidable_of_iff _ isPlausible_iff

/-- A name that is spelled like the query but for the case. -/
def SameLetters (query name : String) : Prop := Text.lowercase name = Text.lowercase query

instance (query name : String) : Decidable (SameLetters query name) :=
  inferInstanceAs (Decidable (Text.lowercase name = Text.lowercase query))

theorem distance_eq_zero_iff_sameLetters {query name : String} :
    (Candidate.of query name).distance = 0 ↔ SameLetters query name := by
  rw [Candidate.distance_of, distance_eq_zero_iff, SameLetters]

theorem SameLetters.isPlausible {query name : String} (h : SameLetters query name) :
    Plausible query name := by
  right
  rw [SameLetters, ← distance_eq_zero_iff] at h
  rw [h]
  exact Nat.zero_le _

/-! ### The order of names -/

/-- **A numbered name that comes before another one**: it has the smaller distance, or the same and
the longer common start, or the same as well and the smaller number. -/
def Precedes (query : String) (a b : String × Nat) : Prop :=
  let distanceOf (name : String) := distance (Text.lowercase name) (Text.lowercase query)
  let sharedBy (name : String) :=
    commonStart (Text.lowercase name).toList (Text.lowercase query).toList
  distanceOf a.1 < distanceOf b.1 ∨ distanceOf a.1 = distanceOf b.1 ∧
    (sharedBy b.1 < sharedBy a.1 ∨ sharedBy b.1 = sharedBy a.1 ∧ a.2 < b.2)

theorem Candidate.isAtLeast_iff {a b : Candidate} :
    a.isAtLeast b ↔ a.distance < b.distance ∨ a.distance = b.distance ∧ b.shared ≤ a.shared := by
  simp [isAtLeast]

/-- Whether a name is at least as good as another one. -/
def atLeast (query a b : String) : Bool := (Candidate.of query a).isAtLeast (Candidate.of query b)

theorem atLeast_trans (query : String) (a b c : String) (hab : atLeast query a b)
    (hbc : atLeast query b c) : atLeast query a c := by
  unfold atLeast at *
  rw [Candidate.isAtLeast_iff] at *
  omega

theorem atLeast_total (query : String) (a b : String) : atLeast query a b || atLeast query b a := by
  unfold atLeast
  rw [Bool.or_eq_true, Candidate.isAtLeast_iff, Candidate.isAtLeast_iff]
  omega

/-- With different numbers, what is not worse comes before. -/
theorem precedes_of_zipIdxLE {query : String} {a b : String × Nat}
    (h : List.zipIdxLE (atLeast query) a b) (hne : a.2 ≠ b.2) : Precedes query a b := by
  unfold List.zipIdxLE at h
  simp only [Precedes, ← Candidate.distance_of, ← Candidate.shared_of]
  split at h
  · rename_i hab
    rw [atLeast, Candidate.isAtLeast_iff] at hab
    split at h
    · have hle := of_decide_eq_true h
      omega
    · rename_i hba
      rw [atLeast, Candidate.isAtLeast_iff] at hba
      omega
  · cases h

/-- **The best matches are the names that could be meant, sorted.** -/
theorem bestMatches_eq (query : String) (names : List String) :
    bestMatches query names = (names.filter (Plausible query)).mergeSort (atLeast query) := by
  have hmeant : Candidate.isPlausible query ∘ Candidate.of query
      = fun name => decide (Plausible query name) := by
    funext name
    rw [Function.comp_apply, Bool.eq_iff_iff, decide_eq_true_eq, isPlausible_iff]
  have hname : Candidate.name ∘ Candidate.of query = id := rfl
  have hsort := List.map_mergeSort (f := Candidate.of query) (r := atLeast query)
    (s := Candidate.isAtLeast) (l := names.filter (Plausible query)) fun _ _ _ _ => rfl
  unfold bestMatches
  rw [List.filter_map, hmeant, ← hsort, List.map_map, hname, List.map_id]

/-- Sorting numbered names by their numbers in the end leaves no ties. -/
theorem exists_ranked (query : String) (names : List String) :
    ∃ ranked : List (String × Nat), ranked.Perm names.zipIdx ∧ ranked.Pairwise (Precedes query) ∧
      names.mergeSort (atLeast query) = ranked.map Prod.fst := by
  have hperm := List.mergeSort_perm names.zipIdx (List.zipIdxLE (atLeast query))
  refine ⟨_, hperm, ?_, List.mergeSort_zipIdx.symm⟩
  have hsorted := List.pairwise_mergeSort (List.zipIdxLE_trans (atLeast_trans query))
    (List.zipIdxLE_total (atLeast_total query)) names.zipIdx
  have hnumbers : ((names.zipIdx.mergeSort (List.zipIdxLE (atLeast query))).map Prod.snd).Nodup :=
    (hperm.map Prod.snd).nodup_iff.mpr (names.nodup_zipIdx_map_snd)
  exact (hsorted.and (List.pairwise_map.mp hnumbers)).imp fun h => precedes_of_zipIdxLE h.1 h.2

/-! ### The same letters first -/

/-- A list in which nothing of a kind follows anything else starts with all of that kind. -/
theorem eq_filter_append {α : Type} {p : α → Bool} {l : List α}
    (h : l.Pairwise fun a b => p b → p a) : l = l.filter p ++ l.filter fun a => !p a := by
  induction l with
  | nil => rfl
  | cons a l ih =>
    obtain ⟨ha, hl⟩ := List.pairwise_cons.mp h
    cases hp : p a with
    | true =>
      rw [List.filter_cons_of_pos hp, List.filter_cons_of_neg (by simp [hp]), List.cons_append,
        ← ih hl]
    | false =>
      have hnone : ∀ b ∈ l, ¬ p b := by
        intro b hb hpb
        have := ha b hb hpb
        rw [hp] at this
        cases this
      rw [List.filter_cons_of_neg (by simp [hp]), List.filter_cons_of_pos (by simp [hp]),
        List.filter_eq_nil_iff.mpr hnone, List.nil_append, List.filter_eq_self.mpr]
      simpa using hnone

/-- What is at least as good as a name with the letters of the query has these letters as well. -/
theorem SameLetters.of_atLeast {query a b : String} (h : atLeast query a b)
    (hb : SameLetters query b) : SameLetters query a := by
  rw [← distance_eq_zero_iff_sameLetters] at *
  rw [atLeast, Candidate.isAtLeast_iff] at h
  omega

/-- Names with the letters of the query are equally good. -/
theorem SameLetters.atLeast {query a b : String} (ha : SameLetters query a)
    (hb : SameLetters query b) : atLeast query a b := by
  have hsame : Text.lowercase a = Text.lowercase b := ha.trans hb.symm
  rw [Suggestion.atLeast, Candidate.isAtLeast_iff]
  right
  rw [Candidate.distance_of, Candidate.distance_of, Candidate.shared_of, Candidate.shared_of, hsame]
  exact ⟨rfl, Nat.le_refl _⟩

/-- **Names with the letters of the query come first**, in the order of the input. -/
theorem bestMatches_eq_append (query : String) (names : List String) :
    bestMatches query names = names.filter (SameLetters query) ++
      (bestMatches query names).filter fun name => !decide (SameLetters query name) := by
  have hmeant : (names.filter (Plausible query)).filter (SameLetters query)
      = names.filter (SameLetters query) := by
    rw [List.filter_filter]
    refine List.filter_congr fun name _ => ?_
    rw [Bool.and_eq_left_iff_imp, decide_eq_true_eq, decide_eq_true_eq]
    exact SameLetters.isPlausible
  rw [bestMatches_eq]
  generalize names.filter (Plausible query) = meant at hmeant
  rw [← hmeant]
  have hsorted := List.pairwise_mergeSort (atLeast_trans query) (atLeast_total query) meant
  -- the names with the same letters are kept in their order, and none of them is lost
  have hsame : (meant.filter (SameLetters query)).Pairwise fun a b => atLeast query a b := by
    refine List.pairwise_of_forall_mem_list fun a ha b hb => ?_
    have ha' : SameLetters query a := by simpa using List.of_mem_filter ha
    have hb' : SameLetters query b := by simpa using List.of_mem_filter hb
    exact ha'.atLeast hb'
  have hsublist := (List.sublist_mergeSort (atLeast_trans query) (atLeast_total query) hsame
    List.filter_sublist).filter (SameLetters query)
  rw [List.filter_filter] at hsublist
  simp only [Bool.and_self] at hsublist
  have hperm := (List.mergeSort_perm meant (atLeast query)).filter (SameLetters query)
  rw [hsublist.eq_of_length hperm.length_eq.symm]
  refine eq_filter_append (hsorted.imp fun {a b} hab hb => ?_)
  exact decide_eq_true (SameLetters.of_atLeast hab (of_decide_eq_true hb))

/-! ### The ranking -/

/-- What is closest to a query is one of the names it is compared with. -/
theorem mem_of_mem_bestMatches {query name : String} {names : List String}
    (h : name ∈ bestMatches query names) : name ∈ names := by
  rw [bestMatches_eq] at h
  exact List.mem_of_mem_filter (List.mem_mergeSort.mp h)

/-- A suggestion is one of the names, or a keyword that stands for what was written. -/
theorem mem_or_alternative_of_suggest? {name suggestion : String} {names : List String}
    (h : suggest? name names = some suggestion) :
    suggestion ∈ names ∨
      suggestion ∈ keywords ∧ ∃ others, (Text.lowercase name, others) ∈ alternatives ∧
        suggestion ∈ others := by
  unfold suggest? at h
  dsimp only at h
  split at h
  · rename_i other hother
    rw [Option.some.inj h] at hother
    have hmem := List.mem_of_find?_eq_some hother
    have husable : suggestion ∈ names ∨ suggestion ∈ keywords := by
      simpa using List.find?_some hother
    refine husable.imp_right fun hkeyword => ⟨hkeyword, ?_⟩
    cases hlookup : alternatives.lookup (Text.lowercase name) with
    | none =>
      rw [hlookup] at hmem
      cases hmem
    | some others =>
      rw [hlookup] at hmem
      obtain ⟨before, after, hsplit, -⟩ := List.lookup_eq_some_iff.mp hlookup
      refine ⟨others, ?_, hmem⟩
      rw [hsplit]
      exact List.mem_append_right _ List.mem_cons_self
  · exact .inl (mem_of_mem_bestMatches (List.mem_of_head? h))

/-- A suggestion is one of the names or a keyword. -/
theorem mem_of_suggest? {name suggestion : String} {names : List String}
    (h : suggest? name names = some suggestion) :
    suggestion ∈ names ∨ suggestion ∈ keywords :=
  (mem_or_alternative_of_suggest? h).imp_right And.left

/-- **The best matches are ranked**: they are the names that could be meant, each as often as it is
there, with smaller distances first, then longer common starts, then in the order of the input.
Those that are spelled like the query come first, and a suggestion is one of the names or a keyword
that is an alternative for what was written. -/
theorem bestMatches_ranked (query : String) (names : List String) :
    (∃ ranked : List (String × Nat), ranked.Perm (names.filter (Plausible query)).zipIdx ∧
      ranked.Pairwise (Precedes query) ∧ bestMatches query names = ranked.map Prod.fst) ∧
    (bestMatches query names).Perm (names.filter (Plausible query)) ∧
    (∃ rest, bestMatches query names = names.filter (SameLetters query) ++ rest ∧
      ∀ name ∈ rest, ¬ SameLetters query name) ∧
    ∀ suggestion, suggest? query names = some suggestion →
      suggestion ∈ names ∨
        suggestion ∈ keywords ∧ ∃ others, (Text.lowercase query, others) ∈ alternatives ∧
          suggestion ∈ others := by
  refine ⟨?_, ?_, ⟨_, bestMatches_eq_append query names, ?_⟩, fun _ => mem_or_alternative_of_suggest?⟩
  · rw [bestMatches_eq]
    exact exists_ranked query _
  · rw [bestMatches_eq]
    exact List.mergeSort_perm _ _
  · intro name hname
    simpa using List.of_mem_filter hname

end SceneLang.Suggestion
