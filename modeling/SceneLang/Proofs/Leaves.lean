import SceneLang.Proofs.Square
import Mathlib.Data.List.Forall2

/-!
# What becomes of the leaves of a value

A value that is added to a scope may be a tuple, and its elements may be tuples again.  It is added
as its leaves are, one after the other (`Scope.addAll_leaves`).  A leaf that the scope accepts
becomes one child (`Scope.Becomes`): things that have a place are moved by the transform for
children, a path in a scope of meshes becomes a node, and everything else stays as it is.  The first
leaf that is not accepted stops the run with an error that names its kind, and the children that the
leaves before it have become stay.

There is one more way to stop, which accepting has nothing to do with.  A node may have been read
from a document with a matrix of any shape, and a matrix that does not fit cannot be moved
(`Plane.add_of_flat_node`).  `Scope.add_accounts` is about all values; with matrices of three rows
and columns only, nothing but an unused value stops the run.
-/

namespace SceneLang

/-! ### Adding leaves -/

namespace Scope

theorem addAll_append (vs ws : List Value) :
    addAll (vs ++ ws) = (do addAll vs; addAll ws) := by
  induction vs with
  | nil => rfl
  | cons v rest ih => rw [List.cons_append, addAll, ih, addAll, bind_assoc]

theorem addAll_singleton (v : Value) : addAll [v] = add v := by
  rw [addAll, addAll]
  exact bind_pure_unit

mutual

/-- **A value is added as its leaves are.** -/
theorem addAll_leaves : ∀ v : Value, addAll v.leaves = add v
  | .tuple vs => by
    rw [Value.leaves, addAll_leavesAll vs, add]
  | .number _ | .string _ | .color _ | .texture _ | .vector _ | .size _ | .path _ | .mesh _
  | .point _ | .range _ => addAll_singleton _

/-- Values are added as their leaves are. -/
theorem addAll_leavesAll : ∀ vs : List Value, addAll (Value.leavesAll vs) = addAll vs
  | [] => rfl
  | v :: rest => by
    rw [Value.leavesAll, addAll_append, addAll_leaves v, addAll_leavesAll rest, addAll]

end

/-- The elements of a value are added as the value is. -/
theorem addAll_elements (v : Value) : addAll v.elements = add v := by
  cases v with
  | tuple vs => rw [add]; rfl
  | _ => exact addAll_singleton _

/-- Values in a row are added as the elements of the tuple that they make. -/
theorem addAll_unwrap (vs : List Value) :
    addAll (Value.tuple vs).unwrap.elements = addAll vs := by
  rw [addAll_elements, ← addAll_leaves, Value.leaves_unwrap, addAll_leaves, add]

end Scope

mutual

/-- No leaf is a tuple. -/
theorem Value.kind_ne_tuple_of_mem_leaves {l : Value} :
    ∀ v : Value, l ∈ v.leaves → l.kind ≠ .tuple
  | .tuple vs, h => Value.kind_ne_tuple_of_mem_leavesAll vs h
  | .number _, h | .string _, h | .color _, h | .texture _, h | .vector _, h | .size _, h
  | .path _, h | .mesh _, h | .point _, h | .range _, h => by
    rw [List.mem_singleton.mp h]
    exact nofun

theorem Value.kind_ne_tuple_of_mem_leavesAll {l : Value} :
    ∀ vs : List Value, l ∈ leavesAll vs → l.kind ≠ .tuple
  | [], h => absurd h List.not_mem_nil
  | v :: rest, h => (List.mem_append.mp h).elim (Value.kind_ne_tuple_of_mem_leaves v)
      (Value.kind_ne_tuple_of_mem_leavesAll rest)

end

/-! ### Children -/

namespace Scope

/-- **A leaf that a scope accepts**: one of a kind that the scope takes, or a path in a scope of
meshes. -/
def Accepts (s : Scope) (l : Value) : Prop :=
  l.kind ∈ s.childKinds ∨ l.kind = .path ∧ .mesh ∈ s.childKinds

/-- **The child that a leaf becomes** in a scope. -/
inductive Becomes (s : Scope) : Value → Value → Prop
  | mesh {n n' : Node} : .mesh ∈ s.childKinds → n.transformed s.childTransform = .ok n' →
    s.Becomes (.mesh n) (.mesh n')
  | path {p p' : Path} : .path ∈ s.childKinds → p.transformed s.childTransform = .ok p' →
    s.Becomes (.path p) (.path p')
  | point {p p' : PathPoint} : .point ∈ s.childKinds → p.transformed s.childTransform = .ok p' →
    s.Becomes (.point p) (.point p')
  | vector {v v' : Vec3 Float} : .vector ∈ s.childKinds → s.childTransform.apply v = .ok v' →
    s.Becomes (.vector v) (.vector v')
  /-- A path in a scope of meshes becomes a node with the name of the scope. -/
  | promoted {p : Path} : .path ∉ s.childKinds → .mesh ∈ s.childKinds →
    s.Becomes (.path p) (.mesh {
      kind := .path
      name := .ofText? s.name
      transform := s.childTransform
      paths := [p]
      location := s.location })
  | same {v : Value} : v.kind ∈ s.childKinds → v.kind ∉ [.mesh, .path, .point, .vector] →
    s.Becomes v v

/-- The scope with further children. -/
def withChildren (s : Scope) (cs : List Value) : Scope :=
  { s with children := s.children ++ cs.toArray }

/-- **The result of adding leaves one after the other**, in three cases.  In each of them the scope
has gained one child for each leaf up to the end or up to the one that stops the run, in order, and
nothing else of it has changed. -/
inductive Accounts (s : Scope) (leaves : List Value) : EStateM.Result Exit Scope Unit → Prop
  | all {cs : List Value} : List.Forall₂ s.Becomes leaves cs →
    s.Accounts leaves (.ok () (s.withChildren cs))
  /-- A leaf is not accepted. -/
  | unused {before after cs : List Value} {l : Value} : leaves = before ++ l :: after →
    List.Forall₂ s.Becomes before cs → ¬ s.Accepts l →
    s.Accounts leaves (.error (.unplaced (.unusedValue l.kind.description)) (s.withChildren cs))
  /-- A leaf is accepted, but cannot be moved. -/
  | stuck {before after cs : List Value} {l : Value} {f : Fault} : leaves = before ++ l :: after →
    List.Forall₂ s.Becomes before cs → s.Accepts l → (∀ c, ¬ s.Becomes l c) →
    s.Accounts leaves (.error (.fault f) (s.withChildren cs))

section Adding

variable {s : Scope} {l c : Value}

theorem Becomes.accepts (h : s.Becomes l c) : s.Accepts l := by
  cases h with
  | mesh hk _ | path hk _ | point hk _ | vector hk _ | same hk _ => exact .inl hk
  | promoted _ hmesh => exact .inr ⟨rfl, hmesh⟩

/-- What a leaf becomes does not depend on the children that are there. -/
theorem becomes_withChildren (cs : List Value) :
    (s.withChildren cs).Becomes l c ↔ s.Becomes l c := by
  constructor
  · intro h
    cases h with
    | mesh hk hn => exact .mesh hk hn
    | path hk hp => exact .path hk hp
    | point hk hp => exact .point hk hp
    | vector hk hv => exact .vector hk hv
    | promoted hpath hmesh => exact .promoted hpath hmesh
    | same hk hplain => exact .same hk hplain
  · intro h
    cases h with
    | mesh hk hn => exact .mesh hk hn
    | path hk hp => exact .path hk hp
    | point hk hp => exact .point hk hp
    | vector hk hv => exact .vector hk hv
    | promoted hpath hmesh => exact .promoted hpath hmesh
    | same hk hplain => exact .same hk hplain

theorem withChildren_withChildren (cs ds : List Value) :
    (s.withChildren cs).withChildren ds = s.withChildren (cs ++ ds) := by
  simp [withChildren]

theorem withChildren_nil : s.withChildren [] = s := by simp [withChildren]

/-- Moving a leaf of a kind that the scope takes is what makes a child of it. -/
theorem becomes_iff_placed (hk : l.kind ∈ s.childKinds) :
    s.Becomes l c ↔ placed s.childTransform l = .ok c := by
  have hmap {α : Type} {r : Except Fault α} {f : α → Value} :
      r.map f = .ok c ↔ ∃ a, r = .ok a ∧ f a = c := by
    cases r with
    | ok a => exact ⟨fun h => ⟨a, rfl, Except.ok.inj h⟩, by rintro ⟨_, ⟨⟩, rfl⟩; rfl⟩
    | error e => exact ⟨fun h => (by cases h), by rintro ⟨_, ⟨⟩, _⟩⟩
  constructor
  · intro h
    cases h with
    | mesh _ hn => exact hmap.mpr ⟨_, hn, rfl⟩
    | path _ hp => exact hmap.mpr ⟨_, hp, rfl⟩
    | point _ hp => exact hmap.mpr ⟨_, hp, rfl⟩
    | vector _ hv => exact hmap.mpr ⟨_, hv, rfl⟩
    | promoted hpath _ => exact absurd hk hpath
    | same _ hplain =>
      cases l with
      | mesh _ | path _ | point _ | vector _ => exact absurd (by simp [Value.kind]) hplain
      | _ => rfl
  · intro h
    cases l with
    | mesh n =>
      obtain ⟨n', hn, rfl⟩ := hmap.mp h
      exact .mesh hk hn
    | path p =>
      obtain ⟨p', hp, rfl⟩ := hmap.mp h
      exact .path hk hp
    | point p =>
      obtain ⟨p', hp, rfl⟩ := hmap.mp h
      exact .point hk hp
    | vector v =>
      obtain ⟨v', hv, rfl⟩ := hmap.mp h
      exact .vector hk hv
    | _ =>
      cases h
      exact .same hk (by simp [Value.kind])

/-- **One leaf is added** and has become a child, is not accepted, or cannot be moved. -/
theorem accounts_addLeaf (s : Scope) (l : Value) : s.Accounts [l] (addLeaf l s) := by
  have hunused (h : ¬ s.Accepts l) :
      s.Accounts [l] (.error (.unplaced (.unusedValue l.kind.description)) s) := by
    have hfirst : [l] = [] ++ l :: [] := rfl
    have hend := Accounts.unused hfirst .nil h
    rwa [withChildren_nil] at hend
  have hpushed (c : Value) (h : s.Becomes l c) :
      s.Accounts [l] (.ok () { s with children := s.children.push c }) := by
    have := Accounts.all (.cons h .nil)
    rwa [withChildren, ← Array.push_eq_append] at this
  unfold addLeaf
  rw [Step.bind_ok _ (show (get : Step Scope Scope) s = .ok s s from rfl)]
  by_cases hk : l.kind ∈ s.childKinds
  · rw [if_pos (List.contains_iff_mem.mpr hk)]
    cases hp : placed s.childTransform l with
    | ok c => exact hpushed c ((becomes_iff_placed hk).mpr hp)
    | error f =>
      have hstuck (c : Value) : ¬ s.Becomes l c := by
        rw [becomes_iff_placed hk, hp]
        exact nofun
      have hend : s.Accounts [l] (.error (.fault f) (s.withChildren [])) :=
        .stuck (show [l] = [] ++ l :: [] from rfl) .nil (.inl hk) hstuck
      rwa [withChildren_nil] at hend
  · rw [if_neg (mt List.contains_iff_mem.mp hk)]
    cases l with
    | path p =>
      by_cases hm : .mesh ∈ s.childKinds
      · simp only [List.contains_iff_mem.mpr hm, if_true]
        exact hpushed _ (.promoted hk hm)
      · have hm' : s.childKinds.contains .mesh = false :=
          Bool.eq_false_iff.mpr (mt List.contains_iff_mem.mp hm)
        simp only [hm']
        exact hunused fun h => h.elim hk fun h => hm h.2
    | _ => exact hunused fun h => h.elim hk fun h => by cases h.1

theorem Accounts.cons {ls : List Value} {res : EStateM.Result Exit Scope Unit}
    (hl : s.Becomes l c) (h : (s.withChildren [c]).Accounts ls res) :
    s.Accounts (l :: ls) res := by
  have hrest {ls cs : List Value} (h : List.Forall₂ (s.withChildren [c]).Becomes ls cs) :
      List.Forall₂ s.Becomes (l :: ls) (c :: cs) :=
    .cons hl (h.imp fun _ _ => (becomes_withChildren [c]).mp)
  cases h with
  | all hcs =>
    rw [withChildren_withChildren]
    exact .all (hrest hcs)
  | unused hls hcs hk =>
    rw [withChildren_withChildren]
    exact .unused (congrArg (l :: ·) hls) (hrest hcs) hk
  | stuck hls hcs hk hstuck =>
    rw [withChildren_withChildren]
    refine .stuck (congrArg (l :: ·) hls) (hrest hcs) hk fun d hd => ?_
    exact hstuck d ((becomes_withChildren [c]).mpr hd)

/-- Leaves after one that stops the run make no difference. -/
theorem Accounts.append_error {ls : List Value} {x : Exit} {s' : Scope}
    (h : s.Accounts ls (.error x s')) (rest : List Value) :
    s.Accounts (ls ++ rest) (.error x s') := by
  cases h with
  | unused hls hcs hk =>
    subst hls
    rw [List.append_assoc]
    exact .unused rfl hcs hk
  | stuck hls hcs hk hstuck =>
    subst hls
    rw [List.append_assoc]
    exact .stuck rfl hcs hk hstuck

theorem accounts_addAll {ls : List Value} (h : ∀ l ∈ ls, l.kind ≠ .tuple) (s : Scope) :
    s.Accounts ls (addAll ls s) := by
  induction ls generalizing s with
  | nil =>
    have := Accounts.all (s := s) .nil
    rwa [withChildren_nil] at this
  | cons l rest ih =>
    obtain ⟨hl, hrest⟩ := List.forall_mem_cons.mp h
    have hadd : add l = addLeaf l := by
      cases l with
      | tuple vs => exact absurd rfl hl
      | _ => rfl
    have hleaf := accounts_addLeaf s l
    rw [addAll, hadd]
    cases hres : addLeaf l s with
    | error x s' =>
      rw [Step.bind_error _ hres]
      exact (hres ▸ hleaf).append_error rest
    | ok u s' =>
      rw [Step.bind_ok _ hres]
      rw [hres] at hleaf
      cases hleaf with
      | all hcs =>
        cases hcs with
        | cons hc hnil =>
          cases hnil
          exact .cons hc (ih hrest _)

/-- Leaves that are added have all become children. -/
theorem Accounts.eq_ok_iff {ls : List Value} {res : EStateM.Result Exit Scope Unit}
    (h : s.Accounts ls res) : (∃ s', res = .ok () s') ↔ ∀ l ∈ ls, ∃ c, s.Becomes l c := by
  cases h with
  | all hcs =>
    refine iff_of_true ⟨_, rfl⟩ fun l hl => ?_
    induction hcs with
    | nil => exact absurd hl List.not_mem_nil
    | cons hc _ ih =>
      rcases List.mem_cons.mp hl with rfl | hl
      · exact ⟨_, hc⟩
      · exact ih hl
  | @unused before after _ l' hls hcs hk =>
    refine iff_of_false (by rintro ⟨s', h⟩; cases h) fun hall => ?_
    obtain ⟨c, hc⟩ := hall l' (by rw [hls]; simp)
    exact hk hc.accepts
  | @stuck before after _ l' _ hls hcs hk hstuck =>
    refine iff_of_false (by rintro ⟨s', h⟩; cases h) fun hall => ?_
    obtain ⟨c, hc⟩ := hall l' (by rw [hls]; simp)
    exact hstuck c hc

end Adding

end Scope

/-! ### Matrices that fit -/

/-- An operation that consists of two succeeds if both do. -/
theorem exists_ok_bind {α β : Type} {r : Except Fault α} {f : α → Except Fault β}
    (hr : ∃ a, r = .ok a) (hf : ∀ a, ∃ b, f a = .ok b) : ∃ b, r >>= f = .ok b := by
  obtain ⟨a, rfl⟩ := hr
  exact hf a

section Moving

variable {t : Transform Float}

/-- Square matrices have a product. -/
theorem Rotation.exists_product {a b : Rotation Float} (ha : a.IsSquare) (hb : b.IsSquare) :
    ∃ m, product a b = .ok m := by
  have hlengths : ¬ a.width ≠ b.rows.length := by simp [ha.width_eq, hb.1]
  have hwidth : a.width ≠ 0 := by simp [ha.width_eq]
  rw [product, if_neg hlengths, if_neg hwidth]
  exact ⟨_, rfl⟩

theorem Rotation.exists_apply {m : Rotation Float} (hm : m.IsSquare) (v : Vec3 Float) :
    ∃ w, m.apply v = .ok w := by
  have hwidth : ¬ m.width ≠ 3 := by simp [hm.width_eq]
  have hheight : ¬ 3 < m.rows.length := by simp [hm.1]
  rw [apply, if_neg hwidth, if_neg hheight]
  exact ⟨_, rfl⟩

theorem Transform.exists_apply (ht : t.rotation.IsSquare) (v : Vec3 Float) :
    ∃ w, t.apply v = .ok w :=
  exists_ok_bind (Rotation.exists_apply ht _) fun _ => ⟨_, rfl⟩

theorem Node.exists_transformed (ht : t.rotation.IsSquare) {n : Node}
    (hn : n.transform.rotation.IsSquare) : ∃ n', n.transformed t = .ok n' := by
  have hmoved : ∃ u, n.transform.followedBy t = .ok u :=
    exists_ok_bind (Rotation.exists_apply ht _) fun _ =>
      exists_ok_bind (Rotation.exists_product ht hn) fun _ => ⟨_, rfl⟩
  exact exists_ok_bind hmoved fun _ => ⟨_, rfl⟩

theorem PathPoint.exists_transformed (ht : t.rotation.IsSquare) (p : PathPoint) :
    ∃ p', p.transformed t = .ok p' :=
  exists_ok_bind (Transform.exists_apply ht p.position) fun _ => ⟨_, rfl⟩

mutual

/-- A square matrix moves every path. -/
theorem Path.exists_transformed (ht : t.rotation.IsSquare) :
    ∀ p : Path, ∃ p', p.transformed t = .ok p'
  | ⟨points, subpaths⟩ => by
    have hpoints (ps : List PathPoint) : ∃ ps', ps.mapM (PathPoint.transformed t) = .ok ps' := by
      induction ps with
      | nil => exact ⟨[], rfl⟩
      | cons p rest ih =>
        rw [List.mapM_cons]
        exact exists_ok_bind (p.exists_transformed ht) fun _ => exists_ok_bind ih fun _ => ⟨_, rfl⟩
    rw [Path.transformed]
    exact exists_ok_bind (hpoints points) fun _ =>
      exists_ok_bind (Path.exists_transformedAll ht subpaths) fun _ => ⟨_, rfl⟩

theorem Path.exists_transformedAll (ht : t.rotation.IsSquare) :
    ∀ ps : List Path, ∃ ps', Path.transformedAll t ps = .ok ps'
  | [] => ⟨[], rfl⟩
  | p :: rest => by
    rw [Path.transformedAll]
    exact exists_ok_bind (Path.exists_transformed ht p) fun _ =>
      exists_ok_bind (Path.exists_transformedAll ht rest) fun _ => ⟨_, rfl⟩

end

end Moving

/-- **With square matrices every leaf that is accepted becomes a child.** -/
theorem Scope.Accepts.exists_becomes {s : Scope} {l : Value} (h : s.Accepts l)
    (hkind : l.kind ≠ .tuple) (hs : s.childTransform.rotation.IsSquare)
    (hl : ∀ n, l = .mesh n → n.transform.rotation.IsSquare) : ∃ c, s.Becomes l c := by
  by_cases hk : l.kind ∈ s.childKinds
  · cases l with
    | mesh n =>
      obtain ⟨n', hn'⟩ := Node.exists_transformed hs (hl n rfl)
      exact ⟨.mesh n', .mesh hk hn'⟩
    | path p =>
      obtain ⟨p', hp'⟩ := Path.exists_transformed hs p
      exact ⟨.path p', .path hk hp'⟩
    | point p =>
      obtain ⟨p', hp'⟩ := PathPoint.exists_transformed hs p
      exact ⟨.point p', .point hk hp'⟩
    | vector v =>
      obtain ⟨v', hv'⟩ := Transform.exists_apply hs v
      exact ⟨.vector v', .vector hk hv'⟩
    | tuple vs => exact absurd rfl hkind
    | _ => exact ⟨_, .same hk (by simp [Value.kind])⟩
  · obtain ⟨hpath, hmesh⟩ := h.resolve_left hk
    cases l with
    | path p => exact ⟨_, .promoted hk hmesh⟩
    | _ => cases hpath

/-! ### Whole values -/

/-- **Adding a value accounts for every leaf of it**, whatever tuples it is made of.  It succeeds if
and only if every leaf becomes a child.  If all matrices are square, then these are the leaves that
the scope accepts, so only a leaf that is not accepted stops the run. -/
theorem Scope.add_accounts (s : Scope) (v : Value) :
    s.Accounts v.leaves (add v s) ∧
    ((∃ s', add v s = .ok () s') ↔ ∀ l ∈ v.leaves, ∃ c, s.Becomes l c) ∧
    (s.childTransform.rotation.IsSquare → v.IsSquare →
      (∀ l ∈ v.leaves, s.Accepts l ↔ ∃ c, s.Becomes l c) ∧
      ((∃ s', add v s = .ok () s') ↔ ∀ l ∈ v.leaves, s.Accepts l)) := by
  have hkinds (l : Value) (hl : l ∈ v.leaves) : l.kind ≠ .tuple :=
    Value.kind_ne_tuple_of_mem_leaves v hl
  have haccounts : s.Accounts v.leaves (add v s) := by
    rw [← addAll_leaves]
    exact accounts_addAll hkinds s
  refine ⟨haccounts, haccounts.eq_ok_iff, fun hs hv => ?_⟩
  have haccepts (l : Value) (hl : l ∈ v.leaves) : s.Accepts l ↔ ∃ c, s.Becomes l c := by
    constructor
    · intro h
      refine h.exists_becomes (hkinds l hl) hs fun n hn => hv n ?_
      rwa [hn] at hl
    · rintro ⟨c, hc⟩
      exact hc.accepts
  refine ⟨haccepts, haccounts.eq_ok_iff.trans ?_⟩
  exact forall₂_congr fun l hl => (haccepts l hl).symm

/-! ### A matrix that does not fit -/

namespace Plane

/-- The scope of a program before anything is added. -/
def scope : Scope := {}

/-- A node with a matrix of two rows and columns. -/
def node : Node := {
  kind := .cube
  transform := { Transform.identity with rotation := ⟨[[1, 0], [0, 1]]⟩ } }

/-- The scope accepts the node, which is its own only leaf, but cannot move it. -/
theorem add_of_flat_node : .tuple ∉ scope.childKinds ∧
    (∀ l ∈ (Value.mesh node).leaves, scope.Accepts l) ∧
    Scope.add (.mesh node) scope = .error (.fault (.invalid (.productShape 3 2))) scope := by
  refine ⟨by decide, fun l hl => ?_, rfl⟩
  rw [List.mem_singleton.mp hl]
  exact .inl List.mem_cons_self

end Plane

end SceneLang
