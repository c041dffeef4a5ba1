/-!
# Bindings

A table from names to things that remembers the order in which names were first bound.  Binding a
name again replaces what it stands for and keeps its place.
-/

namespace SceneLang

/-- **A table of names**, in the order of their first binding. -/
structure Bindings (α : Type) where
  entries : List (String × α) := []
  deriving Inhabited

namespace Bindings

variable {α : Type}

/-- The table without names. -/
def empty : Bindings α := ⟨[]⟩

/-- Bind a name in a list of entries. -/
def setEntry (name : String) (value : α) : List (String × α) → List (String × α)
  | [] => [(name, value)]
  | (n, v) :: rest =>
    if n = name then (n, value) :: rest else (n, v) :: setEntry name value rest

/-- **Bind a name.** -/
def set (b : Bindings α) (name : String) (value : α) : Bindings α :=
  ⟨setEntry name value b.entries⟩

/-- **What a name stands for.** -/
def get? (b : Bindings α) (name : String) : Option α := b.entries.lookup name

/-- Whether a name is bound. -/
def contains (b : Bindings α) (name : String) : Bool := (b.get? name).isSome

/-- The names, in order. -/
def names (b : Bindings α) : List String := b.entries.map Prod.fst

/-- **Bind everything that another table binds.** -/
def update (b other : Bindings α) : Bindings α :=
  other.entries.foldl (fun b e => b.set e.1 e.2) b

theorem lookup_cons_ite (m : String) (v : α) (rest : List (String × α)) (n : String) :
    ((m, v) :: rest).lookup n = if n = m then some v else rest.lookup n := by
  rw [List.lookup_cons]
  by_cases h : n = m
  · simp [h]
  · simp [h, beq_false_of_ne h]

theorem lookup_setEntry (name : String) (value : α) (entries : List (String × α)) (n : String) :
    (setEntry name value entries).lookup n
      = if n = name then some value else entries.lookup n := by
  induction entries with
  | nil => simp only [setEntry, lookup_cons_ite]
  | cons e rest ih =>
    obtain ⟨m, v⟩ := e
    by_cases hm : m = name
    · simp only [setEntry, hm, if_true, lookup_cons_ite]
      split <;> rfl
    · simp only [setEntry, hm, if_false, lookup_cons_ite, ih]
      split <;> split <;> simp_all

/-- A name stands for what it was last bound to. -/
@[simp] theorem get?_set (b : Bindings α) (name : String) (value : α) (n : String) :
    (b.set name value).get? n = if n = name then some value else b.get? n :=
  lookup_setEntry name value b.entries n

@[simp] theorem get?_empty (n : String) : (empty : Bindings α).get? n = none := rfl

/-! ### Other things for the same names -/

variable {β : Type}

/-- **The table with other things for the same names.** -/
def map (f : α → β) (b : Bindings α) : Bindings β := ⟨b.entries.map fun e => (e.1, f e.2)⟩

theorem names_map (f : α → β) (b : Bindings α) : (b.map f).names = b.names := by
  simp [names, map]

theorem get?_map (f : α → β) (b : Bindings α) (name : String) :
    (b.map f).get? name = (b.get? name).map f := by
  obtain ⟨entries⟩ := b
  induction entries with
  | nil => rfl
  | cons e rest ih =>
    obtain ⟨n, v⟩ := e
    simp only [get?, map, List.map_cons, lookup_cons_ite]
    split
    · rfl
    · exact ih

theorem map_set (f : α → β) (b : Bindings α) (name : String) (value : α) :
    (b.set name value).map f = (b.map f).set name (f value) := by
  obtain ⟨entries⟩ := b
  simp only [map, set, Bindings.mk.injEq]
  induction entries with
  | nil => rfl
  | cons e rest ih =>
    simp only [setEntry, List.map_cons]
    split
    · rfl
    · rw [List.map_cons, ih]

theorem map_update (f : α → β) (b other : Bindings α) :
    (b.update other).map f = (b.map f).update (other.map f) := by
  obtain ⟨entries⟩ := other
  unfold update
  induction entries generalizing b with
  | nil => rfl
  | cons e rest ih =>
    rw [List.foldl_cons, ih, map_set]
    rfl

end Bindings

end SceneLang
