import SceneLang.Geometry.Decode
import SceneLang.Proofs.Documents
import SceneLang.Proofs.GeometryCodec
import Mathlib.Algebra.BigOperators.Group.List.Basic

/-!
# What is checked of geometry documents

A geometry document is read or refused, with one exception: a whole number past the largest double
stops the reader with a fault of its own.  What is read need not be what a node should be.  The
matrix of a rotation may have any number of rows and columns, the components of a colour may be
texts, and a name may be anything.

`Node.ofJson_checked` says both for every document.  `Node.IsValidated` is what a node should be and
`Json.IsProperNode` what its document has to give for that; the reader neither adds to it nor takes
away from it.  For the rotation this takes the matrix apart level by level: the lengths that
`nestedShape` finds say how many leaves there are (`length_nestedLeaves`), and so how long the rows
are into which they are cut (`length_of_mem_chunks`).
-/

namespace SceneLang

/-! ### Nested lists -/

theorem Json.eq_arr_of_length? {j : Json} {n : Nat} (h : j.length? = some n) :
    ∃ items, j = .arr items ∧ items.length = n := by
  cases j with
  | arr items => exact ⟨items, rfl, Option.some.inj h⟩
  | _ => simp [Json.length?] at h

theorem Json.length_allItems {n : Nat} {level : List Json}
    (h : ∀ j ∈ level, j.length? = some n) :
    (Json.allItems level).length = level.length * n := by
  induction level with
  | nil => simp [Json.allItems]
  | cons j rest ih =>
    rw [List.forall_mem_cons] at h
    obtain ⟨items, rfl, hlength⟩ := Json.eq_arr_of_length? h.1
    rw [Json.allItems, List.length_append, ih h.2, hlength, List.length_cons, Nat.add_mul]
    omega

/-- **A regular level of lists**: they have one length, and unless it is zero their items are a
regular level again. -/
theorem nestedShape_cons {depth n : Nat} {ns : List Nat} {level : List Json}
    (h : nestedShape (depth + 1) level = (n :: ns, true)) :
    level ≠ [] ∧ (∀ j ∈ level, j.length? = some n) ∧ (n = 0 ∧ ns = [] ∨
      n ≠ 0 ∧ nestedShape depth (Json.allItems level) = (ns, true)) := by
  rw [nestedShape] at h
  split at h
  · next m rest hlevel =>
    have hne : level ≠ [] := by
      rintro rfl
      simp at hlevel
    split at h
    · next hall =>
      have hlengths : ∀ j ∈ level, j.length? = some m := by
        intro j hj
        have hmem : j.length? ∈ some m :: rest := hlevel ▸ List.mem_map_of_mem hj
        obtain heq | hrest := List.mem_cons.mp hmem
        · exact heq
        · exact eq_of_beq (List.all_eq_true.mp hall _ hrest)
      split at h
      · next hzero =>
        simp only [Prod.mk.injEq, List.cons.injEq] at h
        obtain ⟨⟨rfl, rfl⟩, -⟩ := h
        exact ⟨hne, hzero ▸ hlengths, .inl ⟨rfl, rfl⟩⟩
      · next hzero =>
        simp only [Prod.mk.injEq, List.cons.injEq] at h
        obtain ⟨⟨rfl, rfl⟩, hregular⟩ := h
        exact ⟨hne, hlengths, .inr ⟨hzero, Prod.ext rfl hregular⟩⟩
    · simp at h
  · simp at h
  · simp at h

/-- A regular document has as many leaves as its lengths say. -/
theorem length_nestedLeaves {depth : Nat} {ns : List Nat} {level : List Json}
    (h : nestedShape depth level = (ns, true)) :
    (nestedLeaves ns.length level).length = level.length * ns.prod := by
  induction depth generalizing ns level with
  | zero =>
    cases h
    simp [nestedLeaves]
  | succ depth ih =>
    cases ns with
    | nil => simp [nestedLeaves]
    | cons n ns =>
      obtain ⟨-, hlengths, ⟨rfl, rfl⟩ | ⟨-, hitems⟩⟩ := nestedShape_cons h
      · simp [nestedLeaves, Json.length_allItems hlengths]
      · rw [List.length_cons, nestedLeaves, ih hitems, Json.length_allItems hlengths,
          List.prod_cons, Nat.mul_assoc]

theorem length_chunks {α : Type} (length : Nat) : ∀ (count : Nat) (xs : List α),
    (chunks length count xs).length = count
  | 0, _ => rfl
  | count + 1, xs => by rw [chunks, List.length_cons, length_chunks length count]

theorem length_of_mem_chunks {α : Type} {length count : Nat} {xs piece : List α}
    (h : xs.length = count * length) (hpiece : piece ∈ chunks length count xs) :
    piece.length = length := by
  induction count generalizing xs with
  | zero => simp [chunks] at hpiece
  | succ count ih =>
    rw [Nat.add_mul] at h
    rw [chunks, List.mem_cons] at hpiece
    obtain rfl | hrest := hpiece
    · rw [List.length_take]
      omega
    · refine ih ?_ hrest
      rw [List.length_drop]
      omega

/-! ### Matrices -/

/-- **Three lists of three entries.** -/
def Json.IsThreeByThree (j : Json) : Prop :=
  ∃ rows, j = .arr rows ∧ rows.length = 3 ∧ ∀ row ∈ rows, row.length? = some 3

theorem isSquare_chunks_iff {rows columns : Nat} {xs : List Float}
    (h : xs.length = rows * columns) :
    (Rotation.mk (chunks columns rows xs)).IsSquare ↔ rows = 3 ∧ columns = 3 := by
  constructor
  · rintro ⟨hlength, hrows⟩
    rw [length_chunks] at hlength
    subst hlength
    have hfirst : xs.take columns ∈ chunks columns 3 xs := by simp [chunks]
    exact ⟨rfl, (length_of_mem_chunks h hfirst).symm.trans (hrows _ hfirst)⟩
  · rintro ⟨rfl, rfl⟩
    exact ⟨length_chunks 3 3 xs, fun row hrow => length_of_mem_chunks h hrow⟩

theorem isThreeByThree_iff {rows columns depth : Nat} {inner : List Nat} {j : Json}
    (h : nestedShape (depth + 2) [j] = (rows :: columns :: inner, true)) :
    j.IsThreeByThree ↔ rows = 3 ∧ columns = 3 := by
  obtain ⟨-, hj, ⟨-, hnil⟩ | ⟨-, hitems⟩⟩ := nestedShape_cons h
  · simp at hnil
  · obtain ⟨items, rfl, rfl⟩ := Json.eq_arr_of_length? (hj j (by simp))
    obtain ⟨hne, hcolumns, -⟩ := nestedShape_cons hitems
    rw [Json.allItems, Json.allItems, List.append_nil] at hne hcolumns
    constructor
    · rintro ⟨rows, hrows, hlength, hthree⟩
      cases hrows
      obtain ⟨row, hrow⟩ := List.exists_mem_of_ne_nil items hne
      exact ⟨hlength, Option.some.inj ((hcolumns row hrow).symm.trans (hthree row hrow))⟩
    · rintro ⟨hlength, rfl⟩
      exact ⟨items, rfl, hlength, hcolumns⟩

theorem within_of_mem_allItems {i : Json} {level : List Json} (h : i ∈ Json.allItems level) :
    ∃ j ∈ level, i.Within j := by
  induction level with
  | nil => simp [Json.allItems] at h
  | cons j rest ih =>
    have hrest : i ∈ Json.allItems rest → ∃ j' ∈ j :: rest, i.Within j' := by
      intro hi
      obtain ⟨j', hj', hwithin⟩ := ih hi
      exact ⟨j', by simp [hj'], hwithin⟩
    cases j with
    | arr items =>
      rw [Json.allItems, List.mem_append] at h
      obtain hi | hi := h
      · exact ⟨.arr items, by simp, .of_mem hi⟩
      · exact hrest hi
    | _ => exact hrest h

theorem within_of_mem_nestedLeaves {depth : Nat} {i : Json} {level : List Json}
    (h : i ∈ nestedLeaves depth level) : ∃ j ∈ level, i.Within j := by
  induction depth generalizing level with
  | zero => exact ⟨i, h, .self⟩
  | succ depth ih =>
    obtain ⟨k, hk, hik⟩ := ih h
    obtain ⟨j, hj, hkj⟩ := within_of_mem_allItems hk
    exact ⟨j, hj, hik.trans hkj⟩

/-! ### Faults inside a node -/

/-- A whole number past the largest double. -/
inductive Json.Huge : Json → Fault → Prop where
  | int {n : Int} : Decimal.isFinite (Decimal.ofInt n) = false → Huge (.int n) .tooLarge

/-- The faults inside a node: those that are reported as a broken node can come from anywhere, and a
number that is too large from such a number. -/
def Json.Unfit (j : Json) (f : Fault) : Prop :=
  f = .wrongKind ∨ f = .missingKey ∨ f = .noSuchField ∨ j.Huge f

/-- Outside the node only a number that is too large is no refusal. -/
theorem Reads.inNode {d : Json} {α : Type} {post : α → Prop} {x : Except Fault α}
    (h : Reads Json.Unfit d post x) : Reads Json.Huge d post (x.mapError Fault.inNode) := by
  cases x with
  | ok a => exact .ok (h.result a rfl)
  | error f =>
    obtain ⟨cause, rfl⟩ | ⟨j, hj, rfl | rfl | rfl | hhuge⟩ := h.fault f rfl
    · exact .invalid cause
    · exact .invalid _
    · exact .invalid _
    · exact .invalid _
    · have hf : f.inNode = f := by cases hhuge; rfl
      exact .error (.inr ⟨j, hj, hf.symm ▸ hhuge⟩)

namespace Json

variable {α : Type} {post : α → Prop} {d : Json}

theorem reads_wrongKind : Reads Unfit d post (.error .wrongKind) := .slip (.inl rfl)

theorem reads_missingKey : Reads Unfit d post (.error .missingKey) := .slip (.inr (.inl rfl))

theorem reads_noSuchField : Reads Unfit d post (.error .noSuchField) :=
  .slip (.inr (.inr (.inl rfl)))

theorem NotDouble.unfit {j : Json} {f : Fault} (h : j.NotDouble f) : j.Unfit f := by
  cases h with
  | huge hn => exact .inr (.inr (.inr (.int hn)))
  | _ => exact .inl rfl

theorem foreseen_toDouble (j : Json) : Foreseen Unfit j j.toDouble :=
  .of_error fun _ h => (toDouble_eq_error h).imp_right NotDouble.unfit

theorem foreseen_toEntry (j : Json) : Foreseen Unfit j j.toEntry := by
  unfold toEntry
  split
  · exact .ok trivial
  · exact foreseen_toDouble j

theorem foreseen_components (j : Json) : Foreseen Unfit j j.components := by
  unfold components
  split
  · next items =>
    refine ⟨fun _ _ => trivial, fun f hf => (toDoubles_eq_error hf).imp_right ?_⟩
    rintro ⟨i, hi, hslip⟩
    exact ⟨i, .of_mem (List.mem_of_mem_take hi), hslip.unfit⟩
  · next s =>
    -- a character is a text, and a text is a number or refused
    refine ⟨fun _ _ => trivial, fun f hf => (toDoubles_eq_error hf).imp_right ?_⟩
    rintro ⟨i, hi, hslip⟩
    obtain ⟨c, -, rfl⟩ := List.mem_map.mp (List.mem_of_mem_take hi)
    cases hslip
  · exact reads_wrongKind

end Json

theorem Vec3.foreseen_ofJson (j : Json) : Foreseen Json.Unfit j (Vec3.ofJson j) :=
  j.foreseen_components.map fun _ _ => trivial

/-- **A matrix that is read is three by three exactly if the document is.** -/
theorem Rotation.reads_ofJson (j : Json) :
    Reads Json.Unfit j (fun m => m.IsSquare ↔ j.IsThreeByThree) (Rotation.ofJson j) := by
  unfold Rotation.ofJson
  rcases hshape : nestedShape deepestMatrix [j] with ⟨shape, regular⟩
  dsimp only
  split
  · exact .invalid _
  · next hregular =>
    obtain rfl : regular = true := by simpa using hregular
    have hleaves : Reads Json.Unfit j (fun entries => entries.length = shape.prod)
        ((nestedLeaves shape.length [j]).mapM Json.toEntry) := by
      refine (Reads.mapM fun i hi => ?_).imp fun entries hentries => ?_
      · obtain ⟨k, hk, hik⟩ := within_of_mem_nestedLeaves hi
        obtain rfl := List.mem_singleton.mp hk
        exact i.foreseen_toEntry.within hik
      · rw [hentries, length_nestedLeaves hshape, List.length_singleton, Nat.one_mul]
    refine hleaves.bind fun entries hentries => ?_
    split
    · refine .ok ⟨fun h => absurd h.1 (by simp), ?_⟩
      rintro ⟨rows, rfl, hlength, -⟩
      have hzero : nestedShape (63 + 1) [.arr rows] = ([0], true) := hshape
      have hnone := (nestedShape_cons hzero).2.1 (.arr rows) (by simp)
      simp [Json.length?, hlength] at hnone
    · next rows columns inner =>
      split
      · exact Json.reads_wrongKind
      · next hinner =>
        have hlength : entries.length = rows * columns := by
          rw [← List.prod_eq_foldl, not_and_not_right] at hinner
          rw [hentries, List.prod_cons, List.prod_cons]
          rcases Nat.eq_zero_or_pos columns with rfl | hpos
          · simp
          · rw [hinner (Nat.ne_of_gt hpos), Nat.mul_one]
        have hrows : nestedShape (62 + 2) [j] = (rows :: columns :: inner, true) := hshape
        exact .ok ((isSquare_chunks_iff hlength).trans (isThreeByThree_iff hrows).symm)
    · exact Json.reads_wrongKind

theorem Transform.reads_ofJson (j : Json) :
    Reads Json.Unfit j (fun t => t.rotation.IsSquare ↔
      ∀ r, j.get? "rotation" = some r → r.IsThreeByThree) (Transform.ofJson j) := by
  rw [Transform.ofJson]
  dsimp only
  split
  · exact Json.reads_noSuchField
  · have hrotation : ∀ r, j.get? "rotation" = some r → Reads Json.Unfit r (fun m => m.IsSquare ↔
        ∀ r, j.get? "rotation" = some r → r.IsThreeByThree) (Rotation.ofJson r) := by
      intro r hr
      refine (Rotation.reads_ofJson r).imp fun m hm => hm.trans ?_
      simp [hr]
    refine (Reads.getD Vec3.foreseen_ofJson (.ok trivial)).andThen fun offset => ?_
    refine .optional hrotation (fun hr => iff_of_true (by decide) (by simp [hr])) fun m hm => ?_
    exact .optional (fun s _ => Vec3.foreseen_ofJson s) (fun _ => trivial) fun scale _ => .ok hm

/-! ### Colours -/

/-- A number in a document. -/
def Json.IsNumber : Json → Prop
  | .int _ | .float _ => True
  | _ => False

/-- **A list of numbers.** -/
def Json.IsNumbers (j : Json) : Prop := ∃ items, j = .arr items ∧ ∀ i ∈ items, i.IsNumber

theorem Json.isNumbers_iff {j : Json} {items : List Json} (hparts : j.parts? = some items)
    (hne : items ≠ []) : j.IsNumbers ↔ ∀ i ∈ items, i.IsNumber := by
  constructor
  · rintro ⟨items', rfl, hnumbers⟩
    cases hparts
    exact hnumbers
  · intro hnumbers
    obtain rfl | htexts := Json.parts?_eq_some hparts
    · exact ⟨items, rfl, hnumbers⟩
    · obtain ⟨i, hi⟩ := List.exists_mem_of_ne_nil items hne
      obtain ⟨s, rfl⟩ := htexts i hi
      exact (hnumbers _ hi).elim

theorem Color.reads_ofParts (d : Json) (items : List Json) :
    Reads Json.Unfit d (fun c => items ≠ [] ∧
      ((∀ x ∈ c.toList, x.IsNumber) ↔ ∀ i ∈ items, i.IsNumber)) (Color.ofParts items) := by
  unfold Color.ofParts
  split
  · exact .ok ⟨by simp, by simp [Color.toList, Json.IsNumber]⟩
  · exact .ok ⟨by simp, by simp [Color.toList]⟩
  · exact Json.reads_wrongKind

theorem Color.reads_ofJson? (j : Json) :
    Reads Json.Unfit j (fun color => (∀ c, color = some c → ∀ x ∈ c.toList, x.IsNumber) ↔
      (j.isPresent = true → j.IsNumbers)) (Color.ofJson? j) := by
  unfold Color.ofJson?
  split
  · next hpresent =>
    have hpresent : j.isPresent = false := by simpa using hpresent
    exact .ok (by simp [hpresent])
  · next hpresent =>
    have hpresent : j.isPresent = true := by simpa using hpresent
    split
    · exact Json.reads_wrongKind
    · next items hparts =>
      refine (Color.reads_ofParts j items).map fun c hc => ?_
      rw [Json.isNumbers_iff hparts hc.1, ← hc.2]
      simp [hpresent]

/-! ### Nodes without their children -/

/-- A field of a field. -/
def Json.getIn? (d : Json) (outer name : String) : Option Json :=
  (d.get? outer).bind (Json.get? name)

theorem Json.within_of_getIn? {d v : Json} {outer name : String}
    (h : d.getIn? outer name = some v) : v.Within d := by
  obtain ⟨m, hm, hv⟩ := Option.bind_eq_some_iff.mp h
  exact (Json.Within.of_get? hv).trans (.of_get? hm)

/-- What counts as missing has no fields. -/
theorem Json.get?_of_not_isPresent {j : Json} (h : j.isPresent = false) (name : String) :
    j.get? name = none := by
  cases j with
  | obj fields =>
    cases fields with
    | nil => rfl
    | cons f rest => simp [Json.isPresent] at h
  | _ => rfl

theorem reads_materialField (d : Json) :
    Reads Json.Unfit d (fun m => ∀ name, m.get? name = d.getIn? "material" name)
      (materialField d) := by
  unfold materialField Json.getIn?
  rw [Json.getD]
  cases d.get? "material" with
  | none => exact .ok fun _ => rfl
  | some m =>
    rw [Option.getD_some]
    dsimp only
    split
    · next hpresent =>
      have hpresent : m.isPresent = false := by simpa using hpresent
      exact .ok fun name => (Json.get?_of_not_isPresent hpresent name).symm
    · split
      · exact .ok fun _ => rfl
      · exact Json.reads_noSuchField

/-- **What is promised of a node**, its children aside. -/
structure Node.IsValidated (n : Node) : Prop where
  rotation : n.transform.rotation.IsSquare
  color : ∀ c, n.material.color = some c → ∀ x ∈ c.toList, x.IsNumber
  name : n.name = .null ∨ ∃ s, n.name = .str s

/-- **A node document that keeps the promise**, its children aside. -/
structure Json.IsProperNode (d : Json) : Prop where
  rotation : ∀ r, d.getIn? "transform" "rotation" = some r → r.IsThreeByThree
  color : ∀ c, d.getIn? "material" "color" = some c → c.isPresent = true → c.IsNumbers
  name : d.getD "name" .null = .null ∨ ∃ s, d.getD "name" .null = .str s

theorem reads_nodeHead (kind : NodeKind) (d : Json) :
    Reads Json.Unfit d (fun n => n.IsValidated ↔ d.IsProperNode) (nodeHead kind d) := by
  have htransform : ∀ t, d.get? "transform" = some t → Reads Json.Unfit t
      (fun t => t.rotation.IsSquare ↔
        ∀ r, d.getIn? "transform" "rotation" = some r → r.IsThreeByThree)
      (Transform.ofJson t) := by
    intro t ht
    refine (Transform.reads_ofJson t).imp fun t' ht' => ht'.trans ?_
    rw [Json.getIn?, ht, Option.bind_some]
  have hidentity : d.get? "transform" = none → ((Rotation.identity : Rotation Float).IsSquare ↔
      ∀ r, d.getIn? "transform" "rotation" = some r → r.IsThreeByThree) := by
    intro ht
    exact iff_of_true (by decide) (by simp [Json.getIn?, ht])
  rw [nodeHead]
  dsimp only
  refine (reads_materialField d).bind fun m hm => ?_
  have hcolor : Reads Json.Unfit d (fun color =>
      (∀ c, color = some c → ∀ x ∈ c.toList, x.IsNumber) ↔
        ∀ c, d.getIn? "material" "color" = some c → c.isPresent = true → c.IsNumbers)
      (Color.ofJson? (m.getD "color" .null)) := by
    rw [Json.getD, hm]
    cases hc : d.getIn? "material" "color" with
    | none => exact .ok (by simp)
    | some c =>
      refine ((Color.reads_ofJson? c).within (Json.within_of_getIn? hc)).imp ?_
      intro color hcolor
      exact hcolor.trans (by simp)
  have hopacity : Foreseen Json.Unfit d (m.getD "opacity" (.float 1)).toDouble := by
    rw [Json.getD, hm]
    cases ho : d.getIn? "material" "opacity" with
    | none => exact .ok trivial
    | some o => exact o.foreseen_toDouble.within (Json.within_of_getIn? ho)
  refine .optional htransform hidentity fun t ht => ?_
  refine hcolor.bind fun color hcolor => ?_
  refine hopacity.map fun opacity _ => ?_
  constructor
  · rintro ⟨hrotation, hcolors, hname⟩
    exact ⟨ht.mp hrotation, hcolor.mp hcolors, hname⟩
  · rintro ⟨hrotation, hcolors, hname⟩
    exact ⟨ht.mpr hrotation, hcolor.mpr hcolors, hname⟩

/-! ### Paths -/

theorem PathPoint.foreseen_ofJson (j : Json) : Foreseen Json.Unfit j (PathPoint.ofJson j) := by
  unfold PathPoint.ofJson
  split
  · split
    · exact Json.reads_missingKey
    · next position hposition =>
      exact ((Vec3.foreseen_ofJson position).within (.of_get? hposition)).map fun _ _ => trivial
  · exact Json.reads_wrongKind

theorem PathPoint.foreseen_ofJsons (j : Json) : Foreseen Json.Unfit j (PathPoint.ofJsons j) := by
  unfold PathPoint.ofJsons
  split
  · exact Json.reads_wrongKind
  · next items hparts =>
    refine (Reads.mapM fun i hi => ?_).imp fun _ _ => trivial
    obtain rfl | htexts := Json.parts?_eq_some hparts
    · exact (PathPoint.foreseen_ofJson i).within (.of_mem hi)
    · obtain ⟨s, rfl⟩ := htexts i hi
      exact Json.reads_wrongKind

mutual

theorem Path.foreseen_ofJson (j : Json) : Foreseen Json.Unfit j (Path.ofJson j) := by
  rw [Path.ofJson]
  split
  · exact Json.reads_noSuchField
  refine (Reads.getD PathPoint.foreseen_ofJsons (.ok trivial)).andThen fun points => ?_
  split
  · exact .ok trivial
  · next subpaths _ hsubpaths =>
    have hsubpaths := Json.get?_of_field? hsubpaths
    exact ((Path.foreseen_ofParts subpaths).within (.of_get? hsubpaths)).map fun _ _ => trivial
termination_by sizeOf j
decreasing_by all_goals exact Json.sizeOf_lt_of_get? (by assumption)

theorem Path.foreseen_ofParts (j : Json) : Foreseen Json.Unfit j (Path.ofParts j) := by
  unfold Path.ofParts
  split
  · exact Path.foreseen_ofJsons fun i hi => .of_mem hi
  · split
    · exact Json.reads_wrongKind
    · exact .ok trivial
    · exact Json.reads_noSuchField
termination_by sizeOf j

theorem Path.foreseen_ofJsons {d : Json} {items : List Json} (h : ∀ i ∈ items, i.Within d) :
    Foreseen Json.Unfit d (Path.ofJsons items) := by
  match items with
  | [] =>
    rw [Path.ofJsons]
    exact .ok trivial
  | j :: rest =>
    rw [List.forall_mem_cons] at h
    rw [Path.ofJsons]
    refine ((Path.foreseen_ofJson j).within h.1).andThen fun p => ?_
    exact (Path.foreseen_ofJsons h.2).map fun _ _ => trivial
termination_by sizeOf items

end

/-! ### Nodes -/

/-- **The documents that are read as nodes**: the document itself and, through the lists of
children, everything below it. -/
inductive Json.NodeIn (j : Json) : Json → Prop where
  | self : NodeIn j j
  | child {d i : Json} {items : List Json} : d.get? "children" = some (.arr items) → i ∈ items →
      NodeIn j i → NodeIn j d

/-- Everything that is read as a node keeps the promise. -/
def Json.IsProper (d : Json) : Prop := ∀ j : Json, j.NodeIn d → j.IsProperNode

theorem Json.isProper_iff {d : Json} : d.IsProper ↔ d.IsProperNode ∧
    ∀ items, d.get? "children" = some (.arr items) → ∀ i ∈ items, i.IsProper := by
  constructor
  · intro h
    exact ⟨h d .self, fun items hitems i hi j hj => h j (.child hitems hi hj)⟩
  · rintro ⟨hself, hchildren⟩ j hj
    cases hj with
    | self => exact hself
    | child hitems hi hj => exact hchildren _ hitems _ hi j hj

theorem NodeKind.foreseen_ofJson (d : Json) : Foreseen Json.Huge d (NodeKind.ofJson d) := by
  unfold NodeKind.ofJson
  split
  · exact .invalid _
  · split
    · exact .ok trivial
    · exact .invalid _
  · exact .invalid _

mutual

/-- **A node that is read keeps the promise at every depth exactly if its document does.** -/
theorem Node.reads_ofJson (d : Json) : Reads Json.Huge d
    (fun n => (∀ m ∈ n.nodes, m.IsValidated) ↔ d.IsProper) (Node.ofJson d) := by
  rw [Node.ofJson]
  split
  · exact .invalid _
  refine (NodeKind.foreseen_ofJson d).andThen fun kind => ?_
  refine (reads_nodeHead kind d).inNode.bind fun head hhead => ?_
  have hnode : ∀ children paths,
      ((∀ m ∈ Node.nodesOf children, m.IsValidated) ↔
        ∀ items, d.get? "children" = some (.arr items) → ∀ i ∈ items, i.IsProper) →
      ((∀ m ∈ Node.nodes { head with children, paths }, m.IsValidated) ↔ d.IsProper) := by
    intro children paths hchildren
    rw [Node.nodes, List.forall_mem_cons, hchildren, Json.isProper_iff, ← hhead]
    exact and_congr_left fun _ => ⟨fun h => ⟨h.rotation, h.color, h.name⟩,
      fun h => ⟨h.rotation, h.color, h.name⟩⟩
  have hpaths : ∀ children,
      ((∀ m ∈ Node.nodesOf children, m.IsValidated) ↔
        ∀ items, d.get? "children" = some (.arr items) → ∀ i ∈ items, i.IsProper) →
      Reads Json.Huge d (fun n => (∀ m ∈ n.nodes, m.IsValidated) ↔ d.IsProper)
        (match d.get? "paths" with
          | none => pure [] >>= fun paths => pure { head with children, paths }
          | some items => (Path.ofParts items).mapError Fault.inNode >>= fun paths =>
            pure { head with children, paths }) := by
    intro children hchildren
    split
    · exact .ok (hnode children [] hchildren)
    · next items hitems =>
      have hread := (Path.foreseen_ofParts items).inNode.within (.of_get? hitems)
      exact hread.map fun paths _ => hnode children paths hchildren
  dsimp only
  split
  · next hfield =>
    have hnone : d.get? "children" = none := by rw [← Json.map_field?, hfield, Option.map_none]
    exact hpaths [] (by simp [Node.nodesOf, hnone])
  · next items _ hfield =>
    have hitems := Json.get?_of_field? hfield
    exact (Node.reads_ofParts hitems).bind hpaths
termination_by sizeOf d
decreasing_by all_goals exact Json.sizeOf_lt_of_get? (by assumption)

theorem Node.reads_ofParts {d v : Json} (hv : d.get? "children" = some v) : Reads Json.Huge d
    (fun ns => (∀ m ∈ Node.nodesOf ns, m.IsValidated) ↔
      ∀ items, d.get? "children" = some (.arr items) → ∀ i ∈ items, i.IsProper)
    (Node.ofParts v) := by
  unfold Node.ofParts
  split
  · next items =>
    refine .within (.of_get? hv) ?_
    refine (Node.reads_ofJsons fun i hi => .of_mem hi).imp fun ns hns => hns.trans ?_
    simp [hv]
  · next hlist =>
    split
    · exact .invalid _
    · refine .ok (iff_of_true (by simp [Node.nodesOf]) ?_)
      intro items hitems
      exact absurd (Option.some.inj (hv.symm.trans hitems)) (hlist items)
    · exact .invalid _
termination_by sizeOf v

theorem Node.reads_ofJsons {d : Json} {items : List Json} (h : ∀ i ∈ items, i.Within d) :
    Reads Json.Huge d (fun ns => (∀ m ∈ Node.nodesOf ns, m.IsValidated) ↔
      ∀ i ∈ items, i.IsProper) (Node.ofJsons items) := by
  match items with
  | [] =>
    rw [Node.ofJsons]
    exact .ok (by simp [Node.nodesOf])
  | j :: rest =>
    rw [List.forall_mem_cons] at h
    rw [Node.ofJsons]
    refine ((Node.reads_ofJson j).within h.1).bind fun n hn => ?_
    refine (Node.reads_ofJsons h.2).map fun ns hns => ?_
    rw [Node.nodesOf, List.forall_mem_append, List.forall_mem_cons, hn, hns]
termination_by sizeOf items

end

/-- **What is checked of a geometry document.**  Every document is read or refused, unless it has a
whole number past the largest double in it.  What is read has three by three rotations, numbers in
its colours and texts for names, at every depth, exactly if the document gives them so: nothing of
this is checked. -/
theorem Node.ofJson_checked (d : Json) :
    (∃ n, Node.ofJson d = .ok n ∧ ((∀ m ∈ n.nodes, m.IsValidated) ↔ d.IsProper)) ∨
    (∃ cause, Node.ofJson d = .error (.invalid cause)) ∨
    (Node.ofJson d = .error .tooLarge ∧ ∃ k : Int, Json.Within (.int k) d ∧
      Decimal.isFinite (Decimal.ofInt k) = false) := by
  have hread := Node.reads_ofJson d
  cases h : Node.ofJson d with
  | ok n => exact .inl ⟨n, rfl, hread.result n h⟩
  | error f =>
    obtain ⟨cause, rfl⟩ | ⟨j, hj, hhuge⟩ := hread.fault f h
    · exact .inr (.inl ⟨cause, rfl⟩)
    · obtain ⟨hk⟩ := hhuge
      exact .inr (.inr ⟨rfl, _, hj, hk⟩)

/-! ### Documents that are taken as they come -/

namespace Unchecked

/-- A cube with some fields. -/
def cube (fields : List (String × Json)) : Json := .obj (("type", .str "cube") :: fields)

/-- A cube that is turned by a matrix of two rows and two columns. -/
def flat : Json :=
  cube [("transform", .obj [("rotation", .arr [.arr [.float 1, .float 0],
    .arr [.float 0, .float 1]])])]

/-- A cube whose colour is a word. -/
def wordy : Json := cube [("material", .obj [("color", .str "red")])]

/-- A cube whose name is a number. -/
def numbered : Json := cube [("name", .int 5)]

theorem ofJson_flat : Node.ofJson flat = .ok {
    kind := .cube
    transform := { Transform.identity with rotation := ⟨[[1, 0], [0, 1]]⟩ } } := by
  rw [Node.ofJson]
  rfl

theorem ofJson_wordy : Node.ofJson wordy = .ok {
    kind := .cube
    material := { color := some ⟨.str "r", .str "e", .str "d", .float 1⟩ } } := by
  rw [Node.ofJson]
  rfl

theorem ofJson_numbered : Node.ofJson numbered = .ok { kind := .cube, name := .int 5 } := by
  rw [Node.ofJson]
  rfl

theorem ofJson_opacity {v : Json} {f : Fault} (h : v.toDouble = .error f) :
    Node.ofJson (cube [("material", .obj [("opacity", v)])]) = .error f.inNode := by
  have hhead : nodeHead .cube (cube [("material", .obj [("opacity", v)])]) = .error f := by
    show (v.toDouble >>= _) = _
    rw [h]
    rfl
  rw [Node.ofJson]
  show (Except.mapError _ (nodeHead .cube (cube [("material", .obj [("opacity", v)])])) >>= _) = _
  rw [hhead]
  rfl

/-- **Three documents that are read although they are malformed, and one that is neither read nor
refused**: none of the three nodes keeps the promise. -/
theorem documents_not_checked :
    (∃ n, Node.ofJson flat = .ok n ∧ ¬n.IsValidated) ∧
    (∃ n, Node.ofJson wordy = .ok n ∧ ¬n.IsValidated) ∧
    (∃ n, Node.ofJson numbered = .ok n ∧ ¬n.IsValidated) ∧
    Node.ofJson (cube [("material", .obj [("opacity", .int (10 ^ 400))])]) = .error .tooLarge := by
  refine ⟨⟨_, ofJson_flat, ?_⟩, ⟨_, ofJson_wordy, ?_⟩, ⟨_, ofJson_numbered, ?_⟩,
    ofJson_opacity Json.toDouble_tenTo400⟩
  · rintro ⟨hrotation, -, -⟩
    simp [Rotation.IsSquare] at hrotation
  · rintro ⟨-, hcolor, -⟩
    exact hcolor _ rfl (.str "r") (by simp [Color.toList])
  · rintro ⟨-, -, hname⟩
    simp at hname

end Unchecked

end SceneLang
