import SceneLang.Host.Basic
import SceneLang.Proofs.GeometryCodec
import SceneLang.Proofs.JsonText

/-!
# Importing a node from a file

A geometry file holds a scene or a node, and the importer tells them apart by whether there are
children.  A node may have children too, and then its document is taken for a scene: of the node
itself nothing is left.

`import_of_node_document` says for every node what is imported from its document, and when that is
the node.  A node without children comes back as `Node.ofJson_toJson` says.  A node with one child
is never imported as itself, because what is imported is smaller (`Node.not_same_of_child`).  A node
with several children is imported as itself only if it is a group that has nothing but children.
-/

namespace SceneLang

/-- **The node that is imported from the document of a node.** -/
def Node.imported (n : Node) : Node :=
  match n.children with
  | [] => n.erased
  | [child] => child.erased
  | children => { kind := .group, children := Node.erasedAll children }

/-- **A group that has nothing but children.** -/
structure Node.IsPlainGroup (n : Node) : Prop where
  kind : n.kind = .group
  name : n.name = .null
  transform : Transform.identity.same n.transform = true
  material : Material.same {} n.material = true
  paths : n.paths = []

/-! ### What is read from the document -/

theorem Node.get?_schema (n : Node) : n.toJson.get? "schema" = none := by
  obtain ⟨kind, name, transform, material, children, paths, location⟩ := n
  rw [Node.get?_optional _ _ _ _ _ _ _ (by decide), lookup_optionalField_append (by decide),
    lookup_optionalList_append (by decide)]
  cases paths <;> rfl

theorem Node.isObject_toJson (n : Node) : n.toJson.isObject = true := by
  obtain ⟨kind, name, transform, material, children, paths, location⟩ := n
  rw [Node.toJson]
  rfl

theorem Node.getD_children (n : Node) : n.toJson.getD "children" .null
    = if n.children = [] then .null else .arr (Node.toJsons n.children) := by
  obtain ⟨kind, name, transform, material, children, paths, location⟩ := n
  rw [Json.getD, Node.get?_children]
  cases children with
  | nil => rfl
  | cons c rest => rfl

theorem Node.ofDocument_toJson {n : Node} (h : ∀ m ∈ n.nodes, m.transform.rotation.IsSquare) :
    Node.ofDocument n.toJson = .ok (some n.imported) := by
  have hself := Node.ofJson_toJson n h
  have hchildren : Node.ofJsons (Node.toJsons n.children) = .ok (Node.erasedAll n.children) := by
    obtain ⟨kind, name, transform, material, children, paths, location⟩ := n
    rw [Node.nodes, List.forall_mem_cons] at h
    exact Node.ofJsons_toJsons children h.2
  rw [Node.ofDocument, n.isObject_toJson]
  refine bind_of_eq_ok (a := ()) (by rw [n.get?_schema]; rfl) ?_
  rw [Node.getD_children, Node.imported]
  match hn : n.children with
  | [] =>
    rw [if_pos rfl]
    exact bind_of_eq_ok hself rfl
  | [c] =>
    rw [hn] at hchildren
    exact bind_of_eq_ok hchildren rfl
  | c :: c' :: rest =>
    rw [hn] at hchildren
    exact bind_of_eq_ok hchildren rfl

/-! ### Equal nodes have equally many nodes below them -/

mutual

theorem Node.length_nodes_of_same : ∀ a b : Node, a.same b = true → a.nodes.length = b.nodes.length
  | ⟨_, _, _, _, as, _, _⟩, ⟨_, _, _, _, bs, _, _⟩, h => by
    simp only [Node.same, Bool.and_eq_true] at h
    rw [Node.nodes, Node.nodes, List.length_cons, List.length_cons,
      Node.length_nodesOf_of_sameAll as bs h.1.2]

theorem Node.length_nodesOf_of_sameAll : ∀ as bs : List Node, Node.sameAll as bs = true →
    (Node.nodesOf as).length = (Node.nodesOf bs).length
  | [], [], _ => rfl
  | [], _ :: _, h => by simp [Node.sameAll] at h
  | _ :: _, [], h => by simp [Node.sameAll] at h
  | a :: as, b :: bs, h => by
    rw [Node.sameAll, Bool.and_eq_true] at h
    rw [Node.nodesOf, Node.nodesOf, List.length_append, List.length_append,
      Node.length_nodes_of_same a b h.1, Node.length_nodesOf_of_sameAll as bs h.2]

end

mutual

theorem Node.length_nodes_erased : ∀ n : Node, n.erased.nodes.length = n.nodes.length
  | ⟨_, _, _, _, children, _, _⟩ => by
    rw [Node.erased, Node.nodes, Node.nodes, List.length_cons, List.length_cons,
      Node.length_nodesOf_erasedAll children]

theorem Node.length_nodesOf_erasedAll : ∀ ns : List Node,
    (Node.nodesOf (Node.erasedAll ns)).length = (Node.nodesOf ns).length
  | [] => rfl
  | n :: rest => by
    rw [Node.erasedAll, Node.nodesOf, Node.nodesOf, List.length_append, List.length_append,
      Node.length_nodes_erased n, Node.length_nodesOf_erasedAll rest]

end

/-- A child is never equal to its parent. -/
theorem Node.not_same_of_child {n child : Node} (h : n.children = [child]) :
    child.erased.same n = false := by
  obtain ⟨kind, name, transform, material, children, paths, location⟩ := n
  refine eq_false_of_ne_true fun hsame => ?_
  obtain rfl : children = [child] := h
  have hlength := Node.length_nodes_of_same _ _ hsame
  rw [Node.length_nodes_erased, Node.nodes, List.length_cons, Node.nodesOf, Node.nodesOf,
    List.append_nil] at hlength
  omega

/-! ### When the node itself is imported -/

theorem Node.group_same_iff (n : Node) :
    Node.same { kind := .group, children := Node.erasedAll n.children } n = true ↔
      n.IsPlainGroup ∧ ∀ m ∈ Node.nodesOf n.children, m.Survives := by
  obtain ⟨kind, name, transform, material, children, paths, location⟩ := n
  have hname : Json.same .null name = true ↔ name = .null := by
    cases name <;> simp [Json.same]
  have hpaths : Path.sameAll [] paths = true ↔ paths = [] := by
    cases paths <;> simp [Path.sameAll]
  simp only [Node.same, Bool.and_eq_true, beq_iff_eq, hname, hpaths,
    Node.sameAll_erasedAll_iff children]
  constructor
  · rintro ⟨⟨⟨⟨⟨hkind, hnull⟩, htransform⟩, hmaterial⟩, hchildren⟩, hnone⟩
    exact ⟨⟨hkind.symm, hnull, htransform, hmaterial, hnone⟩, hchildren⟩
  · rintro ⟨⟨hkind, hnull, htransform, hmaterial, hnone⟩, hchildren⟩
    exact ⟨⟨⟨⟨⟨hkind.symm, hnull⟩, htransform⟩, hmaterial⟩, hchildren⟩, hnone⟩

theorem Node.imported_same_iff (n : Node) : n.imported.same n = true ↔
    n.children = [] ∧ n.Survives ∨
    2 ≤ n.children.length ∧ n.IsPlainGroup ∧ ∀ m ∈ Node.nodesOf n.children, m.Survives := by
  have hnodes : n.nodes = n :: Node.nodesOf n.children := by
    obtain ⟨kind, name, transform, material, children, paths, location⟩ := n
    rw [Node.nodes]
  rw [Node.imported]
  match hn : n.children with
  | [] =>
    rw [Node.same_erased_iff, hnodes, hn, Node.nodesOf]
    simp
  | [child] =>
    rw [Node.not_same_of_child hn]
    simp
  | c :: c' :: rest =>
    have hgroup := Node.group_same_iff n
    rw [hn] at hgroup
    rw [hgroup]
    simp

/-! ### Files -/

/-- What the importer makes of a file that holds the document of a node. -/
theorem Host.importFrom_of_readDocument {files : FileTree} {place : FilePath} {n : Node}
    (hplace : place.hasSuffix Host.geometrySuffix = true)
    (hfile : Host.readDocument files place = .ok n.toJson)
    (hsquare : ∀ m ∈ n.nodes, m.transform.rotation.IsSquare) :
    Host.importFrom files place = .ok (some n.imported) := by
  have hread : (Host.readDocument files place >>= fun document => Node.ofDocument document)
      = .ok (some n.imported) := bind_of_eq_ok hfile (Node.ofDocument_toJson hsquare)
  rw [Host.importFrom, if_pos hplace]
  exact congrArg (Except.mapError Exit.fault) hread

/-- **What is imported from the document of a node.**  From a file that holds the document of a node
with three by three rotations the importer reads `Node.imported`, always.  That is the node exactly
if nothing of it is lost in the document and it has no children, or has several and is a plain
group. -/
theorem import_of_node_document {files : FileTree} {place : FilePath} {n : Node}
    (hplace : place.hasSuffix Host.geometrySuffix = true)
    (hfile : Host.readDocument files place = .ok n.toJson)
    (hsquare : ∀ m ∈ n.nodes, m.transform.rotation.IsSquare) :
    Host.importFrom files place = .ok (some n.imported) ∧
    (n.imported.same n = true ↔
      n.children = [] ∧ n.Survives ∨
      2 ≤ n.children.length ∧ n.IsPlainGroup ∧ ∀ m ∈ Node.nodesOf n.children, m.Survives) :=
  ⟨Host.importFrom_of_readDocument hplace hfile hsquare, n.imported_same_iff⟩

/-! ### Files with two cubes -/

namespace Exported

/-- The bytes of a text in ASCII. -/
def bytes (s : List Char) : List Nat := s.map Char.toNat

theorem decodeFrom_bytes (position : Nat) (done s : List Char) (h : ∀ c ∈ s, c.toNat < 0x80) :
    Text.decodeFrom position 0 done (bytes s) = .ok (done.reverse ++ s) := by
  induction s generalizing position done with
  | nil => simp [bytes, Text.decodeFrom]
  | cons c s ih =>
    rw [List.forall_mem_cons] at h
    have hstep : Text.decodeStep c.toNat (bytes s) = .ok (c, 1) := by
      unfold Text.decodeStep
      rw [if_pos h.1, Char.ofNat_toNat]
    rw [bytes, List.map_cons, ← bytes, Text.decodeFrom, hstep]
    dsimp only
    rw [ih _ _ h.2]
    simp

theorem unifyLineBreaks_eq {s : List Char} (h : '\r' ∉ s) : Text.unifyLineBreaks s = s := by
  induction s with
  | nil => rfl
  | cons c s ih =>
    rw [List.mem_cons, not_or] at h
    have hc : c ≠ '\r' := Ne.symm h.1
    rw [Text.unifyLineBreaks, ih h.2]
    · exact fun rest hreturn => absurd hreturn hc
    · exact hc

/-- Two cubes, combined in some way. -/
def node (kind : NodeKind) : Node := { kind, children := [{ kind := .cube }, { kind := .cube }] }

/-- The directory with the node in a file. -/
def files (n : Node) : FileTree := ⟨[(["part.json"], .file (bytes n.toJson.compact.toList))]⟩

def place : FilePath := ⟨"", ["part.json"]⟩

theorem readText_files (n : Node) : (files n).readText place = .ok n.toJson.compact := by
  have hascii : ∀ c ∈ n.toJson.compact.toList, Json.IsAscii c := n.toJson.isAscii_chars
  have hbreak : '\r' ∉ n.toJson.compact.toList := fun h => absurd (hascii _ h) (by decide)
  have hdecode : Text.decodeUtf8 (bytes n.toJson.compact.toList) = .ok n.toJson.compact := by
    rw [Text.decodeUtf8, decodeFrom_bytes 0 [] _ fun c hc => (hascii c hc).2.trans (by decide)]
    simp [Except.map]
  have hfind : (files n).find place = .ok (.file (bytes n.toJson.compact.toList)) := rfl
  rw [FileTree.readText, hfind]
  dsimp only
  rw [hdecode]
  dsimp only
  rw [unifyLineBreaks_eq hbreak, String.ofList_toList]
  rfl

/-- Zeros and ones are read back. -/
theorem isWritable_ofDoubles {xs : List Float} (h : ∀ x ∈ xs, x = 0 ∨ x = 1) :
    (Json.ofDoubles xs).IsWritable := by
  refine .arr fun i hi => ?_
  obtain ⟨x, hx, rfl⟩ := List.mem_map.mp hi
  obtain rfl | rfl := h x hx
  · exact Json.isWritable_zero
  · exact Json.isWritable_one

theorem isWritable_identity : (Transform.identity : Transform Float).toJson.IsWritable := by
  have hzeros : (Json.ofDoubles [0, 0, 0]).IsWritable := isWritable_ofDoubles (by simp)
  have hones : (Json.ofDoubles [1, 1, 1]).IsWritable := isWritable_ofDoubles (by simp)
  have hrows : (Json.arr [.ofDoubles [1, 0, 0], .ofDoubles [0, 1, 0], .ofDoubles [0, 0, 1]]
      ).IsWritable := by
    refine .arr ?_
    simp only [List.forall_mem_cons, List.not_mem_nil, false_implies, implies_true, and_true]
    exact ⟨isWritable_ofDoubles (by simp), isWritable_ofDoubles (by simp),
      isWritable_ofDoubles (by simp)⟩
  refine .obj (by decide) ?_
  simp only [List.forall_mem_cons, List.not_mem_nil, false_implies, implies_true, and_true]
  exact ⟨hzeros, hrows, hones⟩

theorem isWritable_material : (Material.toJson {}).IsWritable := by
  refine .obj (by decide) ?_
  simp only [List.forall_mem_cons, List.not_mem_nil, false_implies, implies_true, and_true]
  exact ⟨.null, .null, Json.isWritable_one⟩

theorem isWritable_cube : (Node.toJson { kind := .cube }).IsWritable := by
  refine .obj (show ["type", "transform", "material"].Nodup by decide) ?_
  show ∀ f ∈ [("type", Json.str "cube"), ("transform", Transform.identity.toJson),
    ("material", Material.toJson {})], f.2.IsWritable
  simp only [List.forall_mem_cons, List.not_mem_nil, false_implies, implies_true, and_true]
  exact ⟨.str _, isWritable_identity, isWritable_material⟩

theorem isWritable_node (kind : NodeKind) : (node kind).toJson.IsWritable := by
  refine .obj (show ["type", "transform", "material", "children"].Nodup by decide) ?_
  show ∀ f ∈ [("type", Json.str kind.word), ("transform", Transform.identity.toJson),
    ("material", Material.toJson {}), ("children", .arr [Node.toJson { kind := .cube },
      Node.toJson { kind := .cube }])], f.2.IsWritable
  simp only [List.forall_mem_cons, List.not_mem_nil, false_implies, implies_true, and_true]
  refine ⟨.str _, isWritable_identity, isWritable_material, .arr ?_⟩
  simp only [List.forall_mem_cons, List.not_mem_nil, false_implies, implies_true, and_true]
  exact ⟨isWritable_cube, isWritable_cube⟩

/-- The file holds the document of the node. -/
theorem readDocument_files (kind : NodeKind) :
    Host.readDocument (files (node kind)) place = .ok (node kind).toJson := by
  rw [Host.readDocument]
  refine bind_of_eq_ok (readText_files (node kind)) ?_
  rw [Json.parse_compact (isWritable_node kind)]
  rfl

theorem hasSuffix_place : place.hasSuffix Host.geometrySuffix = true := by decide +kernel

/-- Two cubes that are grouped are imported as they are. -/
theorem import_of_node_document_group :
    place.hasSuffix Host.geometrySuffix = true ∧
    Host.readDocument (files (node .group)) place = .ok (node .group).toJson ∧
    Host.importFrom (files (node .group)) place = .ok (some (node .group).imported) ∧
    (node .group).imported.same (node .group) = true := by
  have hsquare : ∀ m ∈ (node .group).nodes, m.transform.rotation.IsSquare := by decide
  have hsurvives : ∀ m ∈ Node.nodesOf (node .group).children, m.Survives := by decide
  have hgroup : (node .group).IsPlainGroup := ⟨rfl, rfl, by decide, by decide, rfl⟩
  have hread := readDocument_files .group
  obtain ⟨himport, hsame⟩ := import_of_node_document hasSuffix_place hread hsquare
  exact ⟨hasSuffix_place, hread, himport, hsame.mpr (.inr ⟨by decide, hgroup, hsurvives⟩)⟩

/-- **A difference is imported as a group.**  Nothing of the two cubes or of their difference would
be lost in the document, and yet what is imported is not the difference. -/
theorem difference_not_imported :
    (∀ m ∈ (node .difference).nodes, m.transform.rotation.IsSquare ∧ m.Survives) ∧
    Host.readDocument (files (node .difference)) place = .ok (node .difference).toJson ∧
    ∃ m, Host.importFrom (files (node .difference)) place = .ok (some m) ∧ m.kind = .group ∧
      m.same (node .difference) = false := by
  have hkept : ∀ m ∈ (node .difference).nodes, m.transform.rotation.IsSquare ∧ m.Survives := by
    decide
  have hread := readDocument_files .difference
  refine ⟨hkept, hread, _, Host.importFrom_of_readDocument hasSuffix_place hread
    fun m hm => (hkept m hm).1, rfl, by decide⟩

end Exported

end SceneLang
