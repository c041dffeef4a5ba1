import SceneLang.Scope.Lookup
import Mathlib.Data.List.Perm.Basic

/-!
# Names that are looked up and names that are listed

A name is looked up from the inside outwards, while the definitions that are visible are collected
from the outside inwards, inner ones replacing outer ones.  The two agree: the visible definition of
a name is its innermost one (`Scope.get?_visibleDefinitions`), and the names that are listed are
those that stand for something (`Scope.isSome_symbol?_iff`).

That inner definitions replace outer ones takes tables that bind no name twice.
-/

namespace SceneLang

/-! ### Tables that bind no name twice -/

namespace Bindings

variable {α : Type} {b other : Bindings α} {n : String}

/-- **A table that binds no name twice.** -/
def Distinct (b : Bindings α) : Prop := b.names.Nodup

instance (b : Bindings α) : Decidable b.Distinct := inferInstanceAs (Decidable b.names.Nodup)

theorem distinct_empty : (empty : Bindings α).Distinct := List.nodup_nil

/-- A table has something for the names that it binds. -/
theorem isSome_get?_iff : (b.get? n).isSome ↔ n ∈ b.names := by
  obtain ⟨entries⟩ := b
  induction entries with
  | nil => simp [get?, names]
  | cons e rest ih =>
    obtain ⟨m, v⟩ := e
    simp only [get?, names, List.map_cons, List.mem_cons, lookup_cons_ite] at ih ⊢
    by_cases hn : n = m
    · simp [hn]
    · simp [hn, ih]

theorem get?_eq_none_iff : b.get? n = none ↔ n ∉ b.names := by
  rw [← isSome_get?_iff, Option.not_isSome_iff_eq_none]

theorem mem_names_set (name : String) (v : α) :
    n ∈ (b.set name v).names ↔ n = name ∨ n ∈ b.names := by
  rw [← isSome_get?_iff, ← isSome_get?_iff, get?_set]
  by_cases hn : n = name
  · simp [hn]
  · simp [hn]

theorem Distinct.set (h : b.Distinct) (name : String) (v : α) : (b.set name v).Distinct := by
  obtain ⟨entries⟩ := b
  induction entries with
  | nil => exact List.nodup_cons.mpr ⟨List.not_mem_nil, List.nodup_nil⟩
  | cons e rest ih =>
    obtain ⟨m, w⟩ := e
    obtain ⟨hm, hrest⟩ := List.nodup_cons.mp h
    by_cases hname : m = name
    · simp only [Bindings.set, setEntry, if_pos hname]
      exact h
    · simp only [Bindings.set, setEntry, if_neg hname]
      refine List.nodup_cons.mpr ⟨fun hmem => ?_, ih hrest⟩
      rcases (mem_names_set (b := ⟨rest⟩) name v).mp hmem with heq | hmem
      · exact hname heq
      · exact hm hmem

theorem update_cons (e : String × α) (rest : List (String × α)) :
    b.update ⟨e :: rest⟩ = (b.set e.1 e.2).update ⟨rest⟩ := rfl

theorem mem_names_update : n ∈ (b.update other).names ↔ n ∈ other.names ∨ n ∈ b.names := by
  obtain ⟨entries⟩ := other
  induction entries generalizing b with
  | nil => simp [update, names]
  | cons e rest ih =>
    rw [update_cons, ih, mem_names_set]
    simp only [names, List.map_cons, List.mem_cons]
    tauto

theorem Distinct.update (h : b.Distinct) (other : Bindings α) : (b.update other).Distinct := by
  obtain ⟨entries⟩ := other
  induction entries generalizing b with
  | nil => exact h
  | cons e rest ih =>
    rw [update_cons]
    exact ih (h.set e.1 e.2)

/-- **A table that was updated** has what the other table has for a name, or else what it had. -/
theorem get?_update (h : other.Distinct) :
    (b.update other).get? n = (other.get? n).or (b.get? n) := by
  obtain ⟨entries⟩ := other
  induction entries generalizing b with
  | nil => rfl
  | cons e rest ih =>
    obtain ⟨m, v⟩ := e
    obtain ⟨hm, hrest⟩ := List.nodup_cons.mp h
    rw [update_cons, ih hrest, get?_set]
    simp only [get?, lookup_cons_ite]
    by_cases hn : n = m
    · have hnone : rest.lookup n = none := by
        rw [hn]
        exact get?_eq_none_iff (b := ⟨rest⟩).mpr hm
      simp [hn, hn ▸ hnone]
    · simp [hn]

end Bindings

/-! ### Names in ascending order -/

theorem mem_sortNames {n : String} {names : List String} : n ∈ sortNames names ↔ n ∈ names :=
  List.mem_mergeSort

/-- Names that are sorted are strictly increasing if none is there twice. -/
theorem sortNames_increasing {names : List String} (h : names.Nodup) :
    (sortNames names).Pairwise (· < ·) := by
  have hsorted : (sortNames names).Pairwise fun m n => decide (m ≤ n) = true := by
    refine List.pairwise_mergeSort (fun m n k hmn hnk => ?_) (fun m n => ?_) names
    · exact decide_eq_true (String.le_trans (of_decide_eq_true hmn) (of_decide_eq_true hnk))
    · simpa using String.le_total m n
  have hdistinct : (sortNames names).Pairwise (· ≠ ·) :=
    (List.mergeSort_perm names _).nodup_iff.mpr h
  refine (List.pairwise_and_iff.mpr ⟨hsorted, hdistinct⟩).imp fun {m n} ⟨hle, hne⟩ => ?_
  by_contra hlt
  exact hne (String.le_antisymm (of_decide_eq_true hle) (String.not_lt.mp hlt))

/-! ### What a name stands for -/

namespace Scope

variable {stack scopes : List Scope} {name : String} {symbol : Symbol}

/-- **The innermost definition of a name** on a way outwards: the scopes before it do not define
the name. -/
def Innermost (scopes : List Scope) (name : String) (symbol : Symbol) : Prop :=
  ∃ inner s outer, scopes = inner ++ s :: outer ∧ (∀ t ∈ inner, name ∉ t.definitions.names) ∧
    s.definitions.get? name = some symbol

theorem findDefinition?_cons (s : Scope) (rest : List Scope) (name : String) :
    findDefinition? (s :: rest) name
      = (s.definitions.get? name).or (findDefinition? rest name) := by
  rw [findDefinition?]
  cases s.definitions.get? name <;> rfl

/-- The way outwards from the top of a stack goes on at the parent. -/
theorem chain_cons (s : Scope) (outer : List Scope) :
    chain (s :: outer) = s :: s.parent.elim [] (chainFrom outer) := by
  rw [chain, chainFrom, List.length_cons, Nat.add_sub_cancel, if_pos rfl]
  cases s.parent <;> exact rfl

/-- The walk outwards finds the innermost definition. -/
theorem findDefinition?_eq_some_iff :
    findDefinition? scopes name = some symbol ↔ Innermost scopes name symbol := by
  induction scopes with
  | nil => exact ⟨nofun, by rintro ⟨_ | _, _, _, ⟨⟩, _⟩⟩
  | cons s rest ih =>
    rw [findDefinition?_cons]
    cases hs : s.definitions.get? name with
    | some found =>
      constructor
      · rintro ⟨⟩
        exact ⟨[], s, rest, rfl, fun _ h => absurd h List.not_mem_nil, hs⟩
      · rintro ⟨_ | ⟨t, inner⟩, s', outer, heq, hinner, hget⟩
        · cases heq
          exact hs.symm.trans hget
        · cases heq
          have hnone := Bindings.get?_eq_none_iff.mpr (hinner s List.mem_cons_self)
          cases hs.symm.trans hnone
    | none =>
      rw [Option.none_or, ih]
      constructor
      · rintro ⟨inner, s', outer, rfl, hinner, hget⟩
        refine ⟨s :: inner, s', outer, rfl, List.forall_mem_cons.mpr ⟨?_, hinner⟩, hget⟩
        exact Bindings.get?_eq_none_iff.mp hs
      · rintro ⟨_ | ⟨t, inner⟩, s', outer, heq, hinner, hget⟩
        · cases heq
          cases hs.symm.trans hget
        · cases heq
          exact ⟨inner, s', outer, rfl, (List.forall_mem_cons.mp hinner).2, hget⟩

theorem findDefinition?_eq_none_iff :
    findDefinition? scopes name = none ↔ ∀ s ∈ scopes, name ∉ s.definitions.names := by
  induction scopes with
  | nil => simp [findDefinition?]
  | cons s rest ih =>
    rw [findDefinition?_cons, Option.or_eq_none_iff, ih, Bindings.get?_eq_none_iff,
      List.forall_mem_cons]

theorem symbol?_eq (stack : List Scope) (name : String) :
    symbol? stack name = (findDefinition? (chain stack) name).or ((standard stack).get? name) := by
  rw [symbol?]
  cases findDefinition? (chain stack) name <;> rfl

/-! ### The definitions that are visible -/

/-- The visible definitions are those further out, updated by those of the innermost scope. -/
theorem visibleDefinitions_eq (stack : List Scope) :
    visibleDefinitions stack
      = (chain stack).foldr (fun s b => b.update s.definitions) .empty := by
  rw [visibleDefinitions, List.foldl_reverse]

/-- **The visible definition of a name is the one that is found on the way outwards.** -/
theorem get?_visibleDefinitions (h : ∀ s ∈ chain stack, s.definitions.Distinct) (name : String) :
    (visibleDefinitions stack).get? name = findDefinition? (chain stack) name := by
  rw [visibleDefinitions_eq]
  generalize chain stack = way at h ⊢
  induction way with
  | nil => rfl
  | cons s rest ih =>
    obtain ⟨hs, hrest⟩ := List.forall_mem_cons.mp h
    rw [List.foldr_cons, Bindings.get?_update hs, ih hrest, findDefinition?_cons]

theorem mem_names_visibleDefinitions :
    name ∈ (visibleDefinitions stack).names ↔ ∃ s ∈ chain stack, name ∈ s.definitions.names := by
  rw [visibleDefinitions_eq]
  induction chain stack with
  | nil => simp [Bindings.names, Bindings.empty]
  | cons s rest ih => simp [Bindings.mem_names_update, ih]

theorem distinct_visibleDefinitions (stack : List Scope) : (visibleDefinitions stack).Distinct := by
  rw [visibleDefinitions_eq]
  induction chain stack with
  | nil => exact Bindings.distinct_empty
  | cons s rest ih => exact ih.update s.definitions

end Scope

/-! ### The names that are listed -/

theorem SymbolTable.distinct_symbols (t : SymbolTable) : t.symbols.Distinct := by
  cases t <;> decide

namespace Scope

theorem distinct_standard (stack : List Scope) : (standard stack).Distinct := by
  cases stack with
  | nil => exact Bindings.distinct_empty
  | cons s below => exact s.table.distinct_symbols

theorem nodup_visibleNames (stack : List Scope) : (visibleNames stack).Nodup :=
  (distinct_standard stack).update _

/-- **The names that are visible are those that stand for something.** -/
theorem mem_visibleNames_iff {stack : List Scope} {name : String} :
    name ∈ visibleNames stack ↔ (symbol? stack name).isSome := by
  rw [visibleNames, Bindings.mem_names_update, mem_names_visibleDefinitions, symbol?_eq,
    Option.isSome_or, ← Bindings.isSome_get?_iff]
  have hfound : (findDefinition? (chain stack) name).isSome ↔
      ∃ s ∈ chain stack, name ∈ s.definitions.names := by
    rw [← not_iff_not, Option.not_isSome_iff_eq_none, findDefinition?_eq_none_iff]
    simp
  rw [← hfound, Bool.or_eq_true]

theorem mem_expressionNames_iff {stack : List Scope} {name : String} :
    name ∈ expressionNames stack ↔ (symbol? stack name).isSome := by
  rw [expressionNames, mem_sortNames, mem_visibleNames_iff]

/-- The names that can start a statement are the visible ones and the keywords. -/
theorem mem_commandNames_iff {stack : List Scope} {name : String} :
    name ∈ commandNames stack ↔ name ∈ expressionNames stack ∨ name ∈ keywords := by
  rw [commandNames, expressionNames, mem_sortNames, mem_sortNames, List.mem_append,
    List.mem_filter]
  simp only [Bool.not_eq_true', List.contains_eq_mem, decide_eq_false_iff_not]
  tauto

theorem expressionNames_increasing (stack : List Scope) :
    (expressionNames stack).Pairwise (· < ·) :=
  sortNames_increasing (nodup_visibleNames stack)

theorem commandNames_increasing (stack : List Scope) : (commandNames stack).Pairwise (· < ·) := by
  have hkeywords : keywords.Nodup := by decide
  refine sortNames_increasing (List.nodup_append.mpr
    ⟨nodup_visibleNames stack, hkeywords.filter _, ?_⟩)
  rintro name hvisible _ hkeyword rfl
  simpa [hvisible] using (List.mem_filter.mp hkeyword).2

end Scope

end SceneLang
