import SceneLang.Json.Basic

/-!
# Fields as smaller documents

A field of a document is smaller than the document.  `Json.field?` gives a field together with that
fact, so that a reader of nested documents can recurse on fields.
-/

namespace SceneLang.Json

/-- A value found in a list of fields is smaller than the list. -/
theorem sizeOf_lt_of_lookup {name : String} {v : Json} :
    ∀ {fields : List (String × Json)}, fields.lookup name = some v → sizeOf v < sizeOf fields
  | [], h => by simp at h
  | (n, w) :: rest, h => by
    rw [List.lookup_cons] at h
    split at h
    · simp only [Option.some.injEq] at h
      subst h
      simp
      omega
    · have := sizeOf_lt_of_lookup h
      simp
      omega

/-- A field is smaller than its object. -/
theorem sizeOf_lt_of_get? {j v : Json} {name : String} (h : j.get? name = some v) :
    sizeOf v < sizeOf j := by
  unfold get? at h
  split at h
  · have := sizeOf_lt_of_lookup h
    simp
    omega
  · simp at h

/-- **The value of a field**, with the fact that it is smaller. -/
def field? (j : Json) (name : String) : Option { v : Json // sizeOf v < sizeOf j } :=
  match h : j.get? name with
  | none => none
  | some v => some ⟨v, sizeOf_lt_of_get? h⟩

/-- Forgetting the fact gives the field. -/
theorem map_field? (j : Json) (name : String) : (j.field? name).map Subtype.val = j.get? name := by
  unfold field?
  split <;> simp_all

end SceneLang.Json
