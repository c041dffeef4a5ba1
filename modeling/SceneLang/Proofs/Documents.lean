import SceneLang.Program.Decode
import Mathlib.Algebra.Group.Int.Defs

/-!
# Where the faults of a document come from

The readers of documents are recursions that take a document apart field by field and stop at the
first fault.  Most faults are refusals, which name a cause.  Any other fault stems from a place in
the document, and `Fault.Stems` says so for a given description `slips` of such places.

`Reads slips d post x` says this of the result `x` of a reader, together with a property `post` of
what is read.  Its rules follow the readers: a step and what comes after it (`Reads.bind`), a field
that has to be there (`Reads.required`), a part of the document instead of the whole
(`Reads.within`).
-/

namespace SceneLang

/-! ### Documents in a document -/

/-- **A document occurs in another**: it is that document, or occurs in an item of a list or in the
value of a field. -/
inductive Json.Within (j : Json) : Json → Prop where
  | self : Within j j
  | item {i : Json} {items : List Json} : i ∈ items → Within j i → Within j (.arr items)
  | field {name : String} {v : Json} {fields : List (String × Json)} :
      (name, v) ∈ fields → Within j v → Within j (.obj fields)

namespace Json.Within

theorem trans {i j d : Json} (h : i.Within j) (hj : j.Within d) : i.Within d := by
  induction hj with
  | self => exact h
  | item hmem _ ih => exact .item hmem ih
  | field hmem _ ih => exact .field hmem ih

theorem of_mem {i : Json} {items : List Json} (h : i ∈ items) : i.Within (.arr items) :=
  .item h .self

theorem of_get? {j v : Json} {name : String} (h : j.get? name = some v) : v.Within j := by
  cases j with
  | obj fields =>
    have hmem : (name, v) ∈ fields := by
      obtain ⟨l₁, l₂, rfl, -⟩ := List.lookup_eq_some_iff.mp h
      simp
    exact .field hmem .self
  | _ => simp [Json.get?] at h

end Json.Within

theorem Json.get?_of_field? {j : Json} {name : String} {v : { v : Json // sizeOf v < sizeOf j }}
    (h : j.field? name = some v) : j.get? name = some v.1 := by
  rw [← Json.map_field?, h, Option.map_some]

/-- The parts of a document are the items of a list, or texts made of characters and names. -/
theorem Json.parts?_eq_some {j : Json} {ps : List Json} (h : j.parts? = some ps) :
    j = .arr ps ∨ ∀ p ∈ ps, ∃ s, p = .str s := by
  cases j with
  | arr items => exact .inl (congrArg Json.arr (Option.some.inj h))
  | str s =>
    refine .inr fun p hp => ?_
    obtain rfl := Option.some.inj h
    obtain ⟨c, -, rfl⟩ := List.mem_map.mp hp
    exact ⟨_, rfl⟩
  | obj fields =>
    refine .inr fun p hp => ?_
    obtain rfl := Option.some.inj h
    obtain ⟨f, -, rfl⟩ := List.mem_map.mp hp
    exact ⟨_, rfl⟩
  | _ => simp [Json.parts?] at h

/-! ### What readers do -/

/-- A fault is a refusal, or stems from a place in a document. -/
def Fault.Stems (slips : Json → Fault → Prop) (d : Json) (f : Fault) : Prop :=
  (∃ cause, f = .invalid cause) ∨ ∃ j : Json, j.Within d ∧ slips j f

/-- **What a reader of a document does**: what it gives is as described by `post`, and its fault is
a refusal or stems from a place in the document. -/
structure Reads (slips : Json → Fault → Prop) (d : Json) {α : Type} (post : α → Prop)
    (x : Except Fault α) : Prop where
  result : ∀ a, x = .ok a → post a
  fault : ∀ f, x = .error f → f.Stems slips d

/-- A reader of which only the faults matter. -/
abbrev Foreseen (slips : Json → Fault → Prop) (d : Json) {α : Type} (x : Except Fault α) : Prop :=
  Reads slips d (fun _ => True) x

namespace Reads

variable {slips : Json → Fault → Prop} {d j : Json} {α β : Type} {post : α → Prop}
  {post' : β → Prop}

theorem ok {a : α} (h : post a) : Reads slips d post (.ok a) where
  result := by
    rintro b ⟨⟩
    exact h
  fault := by simp

theorem error {f : Fault} (h : f.Stems slips d) : Reads slips d post (.error f) where
  result := by simp
  fault := by
    rintro g ⟨⟩
    exact h

theorem invalid (cause : Invalid) : Reads slips d post (.error (.invalid cause)) :=
  error (.inl ⟨cause, rfl⟩)

/-- A fault that stems from the document as a whole. -/
theorem slip {f : Fault} (h : slips d f) : Reads slips d post (.error f) :=
  error (.inr ⟨d, .self, h⟩)

theorem of_error {x : Except Fault α}
    (h : ∀ f, x = .error f → (∃ cause, f = .invalid cause) ∨ slips d f) : Foreseen slips d x :=
  ⟨fun _ _ => trivial, fun f hf => (h f hf).imp_right fun hslip => ⟨d, .self, hslip⟩⟩

theorem bind {x : Except Fault α} {k : α → Except Fault β} (hx : Reads slips d post x)
    (hk : ∀ a, post a → Reads slips d post' (k a)) : Reads slips d post' (x >>= k) := by
  cases x with
  | ok a => exact hk a (hx.result a rfl)
  | error f => exact error (hx.fault f rfl)

theorem map {x : Except Fault α} {g : α → β} (hx : Reads slips d post x)
    (hg : ∀ a, post a → post' (g a)) : Reads slips d post' (x >>= fun a => pure (g a)) :=
  hx.bind fun a ha => ok (hg a ha)

/-- A step of which the result does not matter for what follows. -/
theorem andThen {x : Except Fault α} {k : α → Except Fault β} (hx : Foreseen slips d x)
    (hk : ∀ a, Reads slips d post' (k a)) : Reads slips d post' (x >>= k) :=
  hx.bind fun a _ => hk a

theorem imp {post' : α → Prop} {x : Except Fault α} (hx : Reads slips d post x)
    (h : ∀ a, post a → post' a) : Reads slips d post' x :=
  ⟨fun a ha => h a (hx.result a ha), hx.fault⟩

/-- What occurs in a part occurs in the whole. -/
theorem within {x : Except Fault α} (hj : j.Within d) (hx : Reads slips j post x) :
    Reads slips d post x := by
  refine ⟨hx.result, fun f hf => (hx.fault f hf).imp_right ?_⟩
  rintro ⟨i, hi, hslip⟩
  exact ⟨i, hi.trans hj, hslip⟩

/-- **A field that has to be there.** -/
theorem required {name : String} {k : { v : Json // sizeOf v < sizeOf j } → Except Fault β}
    (hk : ∀ v (h : j.get? name = some v),
      Reads slips d post' (k ⟨v, Json.sizeOf_lt_of_get? h⟩)) :
    Reads slips d post' (j.required name >>= k) := by
  rw [Json.required]
  cases h : j.field? name with
  | some v => exact hk v.1 (Json.get?_of_field? h)
  | none => exact invalid (.missingField name)

/-- **A field that has to be there and is read on its own.** -/
theorem part {name : String} {read : Json → Except Fault α} {k : α → Except Fault β}
    (hread : ∀ v, j.get? name = some v → Reads slips v post (read v))
    (hk : ∀ a, post a → Reads slips j post' (k a)) :
    Reads slips j post' (j.required name >>= fun v => read v.1 >>= k) :=
  required fun v hv => ((hread v hv).within (.of_get? hv)).bind hk

/-- **A field that may be missing.** -/
theorem optional {name : String} {read : Json → Except Fault α} {default : α}
    {k : α → Except Fault β} (hsome : ∀ v, j.get? name = some v → Reads slips v post (read v))
    (hnone : j.get? name = none → post default)
    (hk : ∀ a, post a → Reads slips j post' (k a)) :
    Reads slips j post' (match j.get? name with
      | some v => read v >>= k
      | none => pure default >>= k) := by
  cases h : j.get? name with
  | some v => exact ((hsome v h).within (.of_get? h)).bind hk
  | none => exact hk default (hnone h)

/-- A field with a document that stands for a missing one. -/
theorem getD {name : String} {read : Json → Except Fault α} {default : Json}
    (hread : ∀ v, Reads slips v post (read v)) (hdefault : Reads slips j post (read default)) :
    Reads slips j post (read (j.getD name default)) := by
  rw [Json.getD]
  cases h : j.get? name with
  | some v => exact (hread v).within (.of_get? h)
  | none => exact hdefault

/-- A step for each item of a list. -/
theorem mapM {read : β → Except Fault α} {items : List β}
    (h : ∀ i ∈ items, Foreseen slips d (read i)) :
    Reads slips d (fun as => as.length = items.length) (items.mapM read) := by
  induction items with
  | nil => exact ok rfl
  | cons i rest ih =>
    rw [List.forall_mem_cons] at h
    rw [List.mapM_cons]
    refine h.1.andThen fun a => (ih h.2).map fun as has => ?_
    rw [List.length_cons, List.length_cons, has]

end Reads

/-! ### Numbers -/

/-- **What is no number and is not refused as such**: null, a list or an object is of the wrong
kind, and a whole number may be past the largest double. -/
inductive Json.NotDouble : Json → Fault → Prop where
  | null : NotDouble .null .wrongKind
  | arr (items : List Json) : NotDouble (.arr items) .wrongKind
  | obj (fields : List (String × Json)) : NotDouble (.obj fields) .wrongKind
  | huge {n : Int} : Decimal.isFinite (Decimal.ofInt n) = false → NotDouble (.int n) .tooLarge

theorem Json.toDouble_eq_error {j : Json} {f : Fault} (h : j.toDouble = .error f) :
    (∃ cause, f = .invalid cause) ∨ j.NotDouble f := by
  cases j with
  | null => cases h; exact .inr .null
  | arr items => cases h; exact .inr (.arr items)
  | obj fields => cases h; exact .inr (.obj fields)
  | bool b => simp [Json.toDouble] at h
  | float x => simp [Json.toDouble] at h
  | int n =>
    rw [Json.toDouble] at h
    split at h
    · simp at h
    · next hn =>
      cases h
      exact .inr (.huge (eq_false_of_ne_true hn))
  | str s =>
    rw [Json.toDouble] at h
    split at h
    · simp at h
    · cases h
      exact .inl ⟨_, rfl⟩

/-- A whole number past the largest double. -/
theorem Json.toDouble_tenTo400 : (Json.int (10 ^ 400)).toDouble = .error .tooLarge := by
  have hhuge : Decimal.isFinite (Decimal.ofInt (10 ^ 400)) = false := by decide +kernel
  rw [Json.toDouble, hhuge]
  rfl

theorem Json.toDoubles_eq_error {items : List Json} {f : Fault}
    (h : Json.toDoubles items = .error f) :
    (∃ cause, f = .invalid cause) ∨ ∃ i ∈ items, i.NotDouble f := by
  induction items with
  | nil => simp [Json.toDoubles] at h
  | cons j rest ih =>
    rw [Json.toDoubles] at h
    cases hj : j.toDouble with
    | error g =>
      rw [hj] at h
      obtain rfl : g = f := Except.error.inj h
      exact (Json.toDouble_eq_error hj).imp_right fun hslip => ⟨j, by simp, hslip⟩
    | ok x =>
      rw [hj] at h
      cases hrest : Json.toDoubles rest with
      | ok xs => simp [hrest, Bind.bind, Except.bind, pure, Except.pure] at h
      | error g =>
        rw [hrest] at h
        obtain rfl : g = f := Except.error.inj h
        refine (ih hrest).imp_right ?_
        rintro ⟨i, hi, hslip⟩
        exact ⟨i, by simp [hi], hslip⟩

end SceneLang
