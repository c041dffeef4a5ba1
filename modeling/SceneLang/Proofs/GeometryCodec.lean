import SceneLang.Geometry.Same
import SceneLang.Proofs.ProgramCodec
import SceneLang.Symbol.Bindings
import Mathlib.Data.List.Basic

/-!
# What geometry documents keep

A node that is written as a document and read back is the node without the textures, the colours of
path points and the places in the script, at every depth: `Node.ofJson_toJson`.  All rotations have
to have three rows of three entries, which is what scripts make.

So a node reads back as equal if there was nothing to lose.  There is one more condition, because
equality is not reflexive: NaN differs from itself in a rotation and in an offset or a position that
was computed.  `geometry_round_trip` says that these are all.

Writer and reader are both recursions over nodes with their children and paths with their nested
paths, so there is one lemma for a node, one for a list of nodes, and the same for paths.
-/

namespace SceneLang

/-! ### What is there and what is lost -/

/-- A point as it is read back. -/
def PathPoint.erased (p : PathPoint) : PathPoint :=
  { position := p.position, isCurved := p.isCurved }

mutual

/-- A path as it is read back: its points lose their colours. -/
def Path.erased : Path → Path
  | ⟨points, subpaths⟩ => ⟨points.map PathPoint.erased, Path.erasedAll subpaths⟩

/-- Paths as they are read back. -/
def Path.erasedAll : List Path → List Path
  | [] => []
  | p :: rest => p.erased :: Path.erasedAll rest

end

/-- A transform as it is read back: nothing in it counts as computed. -/
def Transform.erased (t : Transform Float) : Transform Float := { t with isComputed := false }

mutual

/-- **A node as it is read back**: without textures, colours of points and places. -/
def Node.erased : Node → Node
  | ⟨kind, name, transform, material, children, paths, _⟩ =>
    ⟨kind, name, transform.erased, { material with texture := none }, Node.erasedAll children,
      Path.erasedAll paths, none⟩

/-- Nodes as they are read back. -/
def Node.erasedAll : List Node → List Node
  | [] => []
  | n :: rest => n.erased :: Node.erasedAll rest

end

mutual

/-- The points of a path and of everything nested in it. -/
def Path.allPoints : Path → List PathPoint
  | ⟨points, subpaths⟩ => points ++ Path.pointsOf subpaths

/-- The points of paths and of everything nested in them. -/
def Path.pointsOf : List Path → List PathPoint
  | [] => []
  | p :: rest => p.allPoints ++ Path.pointsOf rest

end

mutual

/-- **A node and all nodes below it.** -/
def Node.nodes : Node → List Node
  | ⟨kind, name, transform, material, children, paths, location⟩ =>
    ⟨kind, name, transform, material, children, paths, location⟩ :: Node.nodesOf children

/-- Nodes and all nodes below them. -/
def Node.nodesOf : List Node → List Node
  | [] => []
  | n :: rest => n.nodes ++ Node.nodesOf rest

end

/-- A vector without NaN. -/
def Vec3.IsNumeric (v : Vec3 Float) : Prop := ∀ x ∈ v.toList, x.isNaN = false

/-- A rotation without NaN. -/
def Rotation.IsNumeric (m : Rotation Float) : Prop := ∀ row ∈ m.rows, ∀ x ∈ row, x.isNaN = false

/-- **A point that reads back as equal.** -/
structure PathPoint.Survives (p : PathPoint) : Prop where
  color : p.color = none
  position : p.isComputed = true → p.position.IsNumeric

/-- **A node that reads back as equal**, its children aside. -/
structure Node.Survives (n : Node) : Prop where
  texture : n.material.texture = none
  points : ∀ p ∈ Path.pointsOf n.paths, p.Survives
  rotation : n.transform.rotation.IsNumeric
  offset : n.transform.isComputed = true → n.transform.offset.IsNumeric

instance {α : Type} (m : Rotation α) : Decidable m.IsSquare :=
  inferInstanceAs (Decidable (_ ∧ _))

instance (v : Vec3 Float) : Decidable v.IsNumeric :=
  inferInstanceAs (Decidable (∀ x ∈ v.toList, _))

instance (m : Rotation Float) : Decidable m.IsNumeric :=
  inferInstanceAs (Decidable (∀ row ∈ m.rows, ∀ x ∈ row, _))

instance (p : PathPoint) : Decidable p.Survives :=
  decidable_of_iff (p.color = none ∧ (p.isComputed = true → p.position.IsNumeric))
    ⟨fun h => ⟨h.1, h.2⟩, fun h => ⟨h.color, h.position⟩⟩

instance (n : Node) : Decidable n.Survives :=
  decidable_of_iff (n.material.texture = none ∧ (∀ p ∈ Path.pointsOf n.paths, p.Survives) ∧
      n.transform.rotation.IsNumeric ∧
      (n.transform.isComputed = true → n.transform.offset.IsNumeric))
    ⟨fun h => ⟨h.1, h.2.1, h.2.2.1, h.2.2.2⟩,
      fun h => ⟨h.texture, h.points, h.rotation, h.offset⟩⟩

/-! ### Reading back vectors and transforms -/

theorem Vec3.ofJson_toJson (v : Vec3 Float) : Vec3.ofJson v.toJson = .ok v := rfl

theorem Rotation.IsSquare.eq_ofEntries {α : Type} {m : Rotation α} (h : m.IsSquare) :
    ∃ a b c d e f g h i, m = ofEntries a b c d e f g h i := by
  obtain ⟨rows⟩ := m
  obtain ⟨hlength, hrows⟩ := h
  obtain ⟨u, v, w, rfl⟩ := List.length_eq_three.mp hlength
  obtain ⟨a, b, c, rfl⟩ := List.length_eq_three.mp (hrows u (by simp))
  obtain ⟨d, e, f, rfl⟩ := List.length_eq_three.mp (hrows v (by simp))
  obtain ⟨g, h, i, rfl⟩ := List.length_eq_three.mp (hrows w (by simp))
  exact ⟨a, b, c, d, e, f, g, h, i, rfl⟩

/-- A matrix of three rows of three entries is read back. -/
theorem Rotation.ofJson_rows {m : Rotation Float} (h : m.IsSquare) :
    Rotation.ofJson (.arr (m.rows.map .ofDoubles)) = .ok m := by
  obtain ⟨a, b, c, d, e, f, g, h, i, rfl⟩ := h.eq_ofEntries
  rfl

theorem Transform.ofJson_toJson {t : Transform Float} (h : t.rotation.IsSquare) :
    Transform.ofJson t.toJson = .ok t.erased := by
  show (Rotation.ofJson (.arr (t.rotation.rows.map .ofDoubles)) >>= fun rotation =>
    Except.ok { offset := t.offset, rotation, scale := t.scale }) = .ok t.erased
  rw [Rotation.ofJson_rows h]
  rfl

/-! ### Reading back paths -/

theorem PathPoint.ofJson_toJson (p : PathPoint) : PathPoint.ofJson p.toJson = .ok p.erased := rfl

theorem PathPoint.ofJsons_map (points : List PathPoint) :
    PathPoint.ofJsons (.arr (points.map toJson)) = .ok (points.map erased) := by
  show (points.map toJson).mapM PathPoint.ofJson = _
  induction points with
  | nil => rfl
  | cons p rest ih =>
    rw [List.map_cons, List.mapM_cons, ofJson_toJson, ih]
    rfl

mutual

/-- **Paths are read back**, with everything nested in them. -/
theorem Path.ofJson_toJson : ∀ p : Path, Path.ofJson p.toJson = .ok p.erased
  | ⟨points, subpaths⟩ => by
    rw [Path.toJson, Path.ofJson, Path.erased]
    refine (if_neg Bool.false_ne_true).trans ?_
    refine bind_of_eq_ok (PathPoint.ofJsons_map points) ?_
    have hfield := Json.field?_of_get? (n := "subpaths") (v := .arr (Path.toJsons subpaths))
      (j := .obj [("points", .arr (points.map PathPoint.toJson)),
        ("subpaths", .arr (Path.toJsons subpaths))]) rfl
    rw [hfield]
    refine bind_of_eq_ok (a := Path.erasedAll subpaths) ?_ rfl
    show Path.ofParts (.arr (Path.toJsons subpaths)) = _
    rw [Path.ofParts]
    exact Path.ofJsons_toJsons subpaths

theorem Path.ofJsons_toJsons : ∀ ps : List Path,
    Path.ofJsons (Path.toJsons ps) = .ok (Path.erasedAll ps)
  | [] => by rw [Path.toJsons, Path.ofJsons, Path.erasedAll]
  | p :: rest => by
    rw [Path.toJsons, Path.ofJsons, Path.erasedAll]
    exact bind_of_eq_ok (Path.ofJson_toJson p) (bind_of_eq_ok (Path.ofJsons_toJsons rest) rfl)

end

/-! ### Reading back nodes -/

section Fields

variable {n m : String}

theorem lookup_optionalField_append (h : n ≠ m) (value : Json) (rest : List (String × Json)) :
    (optionalField m value ++ rest).lookup n = rest.lookup n := by
  cases value with
  | null => rfl
  | _ => exact (Bindings.lookup_cons_ite m _ rest n).trans (if_neg h)

theorem lookup_optionalList_append (h : n ≠ m) (items : List Json) (rest : List (String × Json)) :
    (optionalList m items ++ rest).lookup n = rest.lookup n := by
  cases items with
  | nil => rfl
  | cons item items =>
    exact (Bindings.lookup_cons_ite m _ rest n).trans (if_neg h)

end Fields

section Node

variable (kind : NodeKind) (name : Json) (transform : Transform Float) (material : Material Json)
  (children : List Node) (paths : List Path) (location : Option SourceLocation)

/-- The fields that may be missing stand behind those that are always there. -/
theorem Node.get?_optional {n : String} (h : n ∉ ["type", "transform", "material"]) :
    (Node.toJson ⟨kind, name, transform, material, children, paths, location⟩).get? n
      = (optionalField "name" name ++ (optionalList "children" (Node.toJsons children)
        ++ optionalList "paths" (Path.toJsons paths))).lookup n := by
  simp only [List.mem_cons, List.not_mem_nil, or_false, not_or] at h
  rw [Node.toJson, Json.get?]
  simp only [List.cons_append, List.nil_append, List.append_assoc, Bindings.lookup_cons_ite,
    if_neg h.1, if_neg h.2.1, if_neg h.2.2]

theorem Node.getD_name :
    (Node.toJson ⟨kind, name, transform, material, children, paths, location⟩).getD "name" .null
      = name := by
  rw [Json.getD, Node.get?_optional _ _ _ _ _ _ _ (by decide)]
  cases name with
  | null =>
    show ((optionalList "children" _ ++ optionalList "paths" _).lookup "name").getD _ = _
    rw [lookup_optionalList_append (by decide)]
    cases paths <;> rfl
  | _ => rfl

theorem Node.get?_children :
    (Node.toJson ⟨kind, name, transform, material, children, paths, location⟩).get? "children"
      = if children = [] then none else some (.arr (Node.toJsons children)) := by
  rw [Node.get?_optional _ _ _ _ _ _ _ (by decide), lookup_optionalField_append (by decide)]
  cases children with
  | nil => cases paths <;> rfl
  | cons n rest => rfl

theorem Node.get?_paths :
    (Node.toJson ⟨kind, name, transform, material, children, paths, location⟩).get? "paths"
      = if paths = [] then none else some (.arr (Path.toJsons paths)) := by
  rw [Node.get?_optional _ _ _ _ _ _ _ (by decide), lookup_optionalField_append (by decide),
    lookup_optionalList_append (by decide)]
  cases paths <;> rfl

theorem Node.ofJson_kind : NodeKind.ofJson
    (Node.toJson ⟨kind, name, transform, material, children, paths, location⟩) = .ok kind := by
  cases kind <;> rfl

/-- The colour and the opacity of a material are read back. -/
theorem nodeHead_toJson (h : transform.rotation.IsSquare) :
    nodeHead kind (Node.toJson ⟨kind, name, transform, material, children, paths, location⟩)
      = .ok { kind, name, transform := transform.erased,
              material := { material with texture := none } } := by
  have htransform : (Node.toJson ⟨kind, name, transform, material, children, paths,
      location⟩).get? "transform" = some transform.toJson := rfl
  have hmaterial : materialField (Node.toJson ⟨kind, name, transform, material, children, paths,
      location⟩) = .ok material.toJson := rfl
  have hcolor : Color.ofJson? (material.toJson.getD "color" .null) = .ok material.color := by
    obtain ⟨color, texture, opacity⟩ := material
    cases color <;> rfl
  rw [nodeHead]
  refine bind_of_eq_ok hmaterial ?_
  simp only [htransform]
  refine bind_of_eq_ok (Transform.ofJson_toJson h) ?_
  refine bind_of_eq_ok hcolor ?_
  rw [Node.getD_name]
  rfl

end Node

section Reader

variable {β : Type} {x : Except Fault β} {j : Json}

/-- The children, which may be missing. -/
theorem bind_children {children : List Node} {k : List Node → Except Fault β}
    (hget : j.get? "children"
      = if children = [] then none else some (.arr (Node.toJsons children)))
    (hread : Node.ofJsons (Node.toJsons children) = .ok (Node.erasedAll children))
    (hk : k (Node.erasedAll children) = x) :
    (match j.field? "children" with
      | none => pure [] >>= k
      | some ⟨items, _⟩ => Node.ofParts items >>= k) = x := by
  cases children with
  | nil =>
    rw [Json.field?_of_get?_none hget]
    exact hk
  | cons n rest =>
    rw [Json.field?_of_get? hget]
    refine bind_of_eq_ok ?_ hk
    rw [Node.ofParts]
    exact hread

/-- The paths, which may be missing. -/
theorem bind_paths {paths : List Path} {k : List Path → Except Fault β}
    (hget : j.get? "paths" = if paths = [] then none else some (.arr (Path.toJsons paths)))
    (hk : k (Path.erasedAll paths) = x) :
    (match j.get? "paths" with
      | none => pure [] >>= k
      | some items => (Path.ofParts items).mapError Fault.inNode >>= k) = x := by
  rw [hget]
  cases paths with
  | nil => exact hk
  | cons p rest =>
    refine bind_of_eq_ok ?_ hk
    rw [Path.ofParts, Path.ofJsons_toJsons]
    rfl

end Reader

mutual

/-- **Nodes are read back**, with everything below them. -/
theorem Node.ofJson_toJson : ∀ n : Node, (∀ m ∈ n.nodes, m.transform.rotation.IsSquare) →
    Node.ofJson n.toJson = .ok n.erased
  | ⟨kind, name, transform, material, children, paths, location⟩, h => by
    rw [Node.nodes, List.forall_mem_cons] at h
    have hhead := nodeHead_toJson kind name transform material children paths location h.1
    rw [Node.ofJson, Node.erased]
    refine (if_neg Bool.false_ne_true).trans ?_
    refine bind_of_eq_ok (Node.ofJson_kind ..) ?_
    refine bind_of_eq_ok (congrArg (Except.mapError Fault.inNode) hhead) ?_
    refine bind_children (Node.get?_children ..) (Node.ofJsons_toJsons children h.2) ?_
    exact bind_paths (Node.get?_paths ..) rfl

theorem Node.ofJsons_toJsons : ∀ ns : List Node,
    (∀ m ∈ Node.nodesOf ns, m.transform.rotation.IsSquare) →
    Node.ofJsons (Node.toJsons ns) = .ok (Node.erasedAll ns)
  | [], _ => by rw [Node.toJsons, Node.ofJsons, Node.erasedAll]
  | n :: rest, h => by
    rw [Node.nodesOf, List.forall_mem_append] at h
    rw [Node.toJsons, Node.ofJsons, Node.erasedAll]
    refine bind_of_eq_ok (Node.ofJson_toJson n h.1) ?_
    exact bind_of_eq_ok (Node.ofJsons_toJsons rest h.2) rfl

end

/-! ### When numbers and documents equal themselves -/

/-- **A double equals itself unless it is NaN.** -/
theorem beq_self_of_float (x : Float) : (x == x) = !x.isNaN := by
  show (x.toModel.unpack.compare x.toModel.unpack == some .eq) = !x.toModel.unpack.isNaN
  cases x.toModel.unpack with
  | infinity sign => cases sign <;> rfl
  | notANumber => rfl
  | zero sign => rfl
  | finite sign mantissa exponent h =>
    have hself : (compare exponent exponent).then (compare mantissa mantissa) = .eq := by simp
    cases sign with
    | positive =>
      show (some ((compare exponent exponent).then (compare mantissa mantissa)) == some .eq) = true
      rw [hself]
      rfl
    | negative =>
      show (some ((compare exponent exponent).then (compare mantissa mantissa)).swap == some .eq)
        = true
      rw [hself]
      rfl

theorem sameNumber_self (x : Float) : sameNumber x x = true := by
  rw [sameNumber, beq_self_of_float]
  cases x.isNaN <;> rfl

theorem sameList_self_iff {α : Type} {same : α → α → Bool} {P : α → Prop}
    (h : ∀ a, same a a = true ↔ P a) (as : List α) :
    sameList same as as = true ↔ ∀ a ∈ as, P a := by
  induction as with
  | nil => simp [sameList]
  | cons a rest ih => rw [sameList, Bool.and_eq_true, h, ih, List.forall_mem_cons]

theorem sameList_numbers (xs : List Float) : sameList sameNumber xs xs = true :=
  (sameList_self_iff (P := fun _ => True) (fun x => by simp [sameNumber_self x]) xs).mpr
    fun _ _ => trivial

theorem sameList_beq_iff (xs : List Float) :
    sameList (· == ·) xs xs = true ↔ ∀ x ∈ xs, x.isNaN = false :=
  sameList_self_iff (fun x => by rw [beq_self_of_float, Bool.not_eq_true']) xs

theorem Vec3.sameAs_self_iff (v : Vec3 Float) (isComputed : Bool) :
    v.sameAs isComputed v = true ↔ (isComputed = true → v.IsNumeric) := by
  cases isComputed with
  | false => simp [sameAs, Vec3.same, sameList_numbers]
  | true => exact (sameList_beq_iff v.toList).trans ⟨fun h _ => h, fun h => h rfl⟩

theorem Transform.same_erased_iff (t : Transform Float) :
    t.erased.same t = true ↔
      t.rotation.IsNumeric ∧ (t.isComputed = true → t.offset.IsNumeric) := by
  have hrotation : sameList (sameList (· == ·)) t.rotation.rows t.rotation.rows = true
      ↔ t.rotation.IsNumeric := sameList_self_iff sameList_beq_iff t.rotation.rows
  have hoffset := Vec3.sameAs_self_iff t.offset t.isComputed
  have hscale : t.scale.same t.scale = true := sameList_numbers t.scale.toList
  rw [Transform.same, Transform.erased, Bool.and_eq_true, Bool.and_eq_true, Bool.false_or,
    hrotation, hoffset, hscale]
  tauto

mutual

/-- **Documents agree with themselves.** -/
theorem Json.same_self : ∀ j : Json, j.same j = true
  | .null => by rw [Json.same]
  | .bool b => by rw [Json.same]; exact beq_self_eq_true b
  | .int n => by rw [Json.same]; exact beq_self_eq_true n
  | .float x => by rw [Json.same]; exact sameNumber_self x
  | .str s => by rw [Json.same]; exact beq_self_eq_true s
  | .arr items => by rw [Json.same]; exact Json.sameItems_self items
  | .obj fields => by rw [Json.same]; exact Json.sameFields_self fields

theorem Json.sameItems_self : ∀ items : List Json, Json.sameItems items items = true
  | [] => by rw [Json.sameItems]
  | j :: rest => by rw [Json.sameItems, Json.same_self j, Json.sameItems_self rest]; rfl

theorem Json.sameFields_self : ∀ fields : List (String × Json),
    Json.sameFields fields fields = true
  | [] => by rw [Json.sameFields]
  | (name, j) :: rest => by
    rw [Json.sameFields, Json.same_self j, Json.sameFields_self rest, beq_self_eq_true]
    rfl

end

/-! ### What reads back as equal -/

theorem PathPoint.same_erased_iff (p : PathPoint) : p.erased.same p = true ↔ p.Survives := by
  have hposition := Vec3.sameAs_self_iff p.position p.isComputed
  have hcolor : sameOption (fun c d : Color Float => sameList sameNumber c.toList d.toList) none
      p.color = true ↔ p.color = none := by
    cases p.color <;> simp [sameOption]
  rw [PathPoint.same, PathPoint.erased, Bool.and_eq_true, Bool.and_eq_true, Bool.false_or,
    hposition, hcolor, beq_self_eq_true]
  exact ⟨fun h => ⟨h.2, h.1.1⟩, fun h => ⟨⟨h.position, rfl⟩, h.color⟩⟩

theorem PathPoint.sameList_erased_iff (points : List PathPoint) :
    sameList PathPoint.same (points.map PathPoint.erased) points = true
      ↔ ∀ p ∈ points, p.Survives := by
  induction points with
  | nil => simp [sameList]
  | cons p rest ih =>
    rw [List.map_cons, sameList, Bool.and_eq_true, same_erased_iff, ih, List.forall_mem_cons]

mutual

theorem Path.same_erased_iff : ∀ p : Path,
    p.erased.same p = true ↔ ∀ q ∈ p.allPoints, q.Survives
  | ⟨points, subpaths⟩ => by
    rw [Path.erased, Path.same, Bool.and_eq_true, PathPoint.sameList_erased_iff,
      Path.sameAll_erasedAll_iff subpaths, Path.allPoints, List.forall_mem_append]

theorem Path.sameAll_erasedAll_iff : ∀ ps : List Path,
    Path.sameAll (Path.erasedAll ps) ps = true ↔ ∀ q ∈ Path.pointsOf ps, q.Survives
  | [] => by simp [Path.erasedAll, Path.sameAll, Path.pointsOf]
  | p :: rest => by
    rw [Path.erasedAll, Path.sameAll, Bool.and_eq_true, Path.same_erased_iff p,
      Path.sameAll_erasedAll_iff rest, Path.pointsOf, List.forall_mem_append]

end

theorem Material.same_erased_iff (m : Material Json) :
    Material.same { m with texture := none } m = true ↔ m.texture = none := by
  obtain ⟨color, texture, opacity⟩ := m
  have hcolor : sameOption (fun c d : Color Json => Json.sameItems c.toList d.toList) color color
      = true := by
    cases color with
    | none => rfl
    | some c => exact Json.sameItems_self c.toList
  rw [Material.same, hcolor, sameNumber_self, Bool.true_and, Bool.and_true, beq_iff_eq]
  exact eq_comm

mutual

/-- **A node agrees with what is read back** if nothing is lost of it or below it. -/
theorem Node.same_erased_iff : ∀ n : Node,
    n.erased.same n = true ↔ ∀ m ∈ n.nodes, m.Survives
  | ⟨kind, name, transform, material, children, paths, location⟩ => by
    rw [Node.erased, Node.same, Node.nodes, List.forall_mem_cons]
    simp only [Bool.and_eq_true, beq_self_eq_true, Json.same_self, Transform.same_erased_iff,
      Material.same_erased_iff, Node.sameAll_erasedAll_iff children, Path.sameAll_erasedAll_iff,
      true_and]
    constructor
    · rintro ⟨⟨⟨⟨hrotation, hoffset⟩, htexture⟩, hchildren⟩, hpoints⟩
      exact ⟨⟨htexture, hpoints, hrotation, hoffset⟩, hchildren⟩
    · rintro ⟨⟨htexture, hpoints, hrotation, hoffset⟩, hchildren⟩
      exact ⟨⟨⟨⟨hrotation, hoffset⟩, htexture⟩, hchildren⟩, hpoints⟩

theorem Node.sameAll_erasedAll_iff : ∀ ns : List Node,
    Node.sameAll (Node.erasedAll ns) ns = true ↔ ∀ m ∈ Node.nodesOf ns, m.Survives
  | [] => by simp [Node.erasedAll, Node.sameAll, Node.nodesOf]
  | n :: rest => by
    rw [Node.erasedAll, Node.sameAll, Bool.and_eq_true, Node.same_erased_iff n,
      Node.sameAll_erasedAll_iff rest, Node.nodesOf, List.forall_mem_append]

end

theorem Node.readsBack_eq {n : Node} (h : ∀ m ∈ n.nodes, m.transform.rotation.IsSquare) :
    n.readsBack = .ok (n.erased.same n) := by
  rw [Node.readsBack]
  exact bind_of_eq_ok (Node.ofJson_toJson n h) rfl

/-- **What geometry documents keep.**  A node whose rotations have three rows of three entries is
read back without its textures, the colours of path points and the places in the script, at every
depth, and nothing else is lost.  It is read back as equal exactly if there is no texture and no
colour of a path point at any depth, and no NaN in a rotation or in an offset or position that was
computed. -/
theorem geometry_round_trip (n : Node) (h : ∀ m ∈ n.nodes, m.transform.rotation.IsSquare) :
    Node.ofJson n.toJson = .ok n.erased ∧
    (n.readsBack = .ok true ↔ ∀ m ∈ n.nodes, m.Survives) := by
  refine ⟨Node.ofJson_toJson n h, ?_⟩
  rw [Node.readsBack_eq h, ← Node.same_erased_iff]
  simp

/-! ### A tree that is kept and a number that is not -/

namespace Sign

/-- An outline with a hole in it. -/
def outline : Path where
  points := [{ position := ⟨0, 0, 0⟩ }, { position := ⟨2, 0, 0⟩, isCurved := true }]
  subpaths := [{ points := [{ position := ⟨1, 0, 0⟩, isComputed := true }] }]

/-- A group with the fill of the outline, turned and painted. -/
def node : Node where
  kind := .group
  name := .str "sign"
  children := [{
    kind := .fill
    transform := ⟨⟨0, 1, 0⟩, .ofEntries 0 (-1) 0 1 0 0 0 0 1, Vec3.one, true⟩
    material := { color := some ⟨.float 1, .int 0, .int 0, .float 1⟩, opacity := 0.5 }
    paths := [outline] }]

/-- Nothing of the tree is lost. -/
theorem geometry_round_trip_sign :
    (∀ m ∈ node.nodes, m.transform.rotation.IsSquare) ∧ node.readsBack = .ok true := by
  have hsquare : ∀ m ∈ node.nodes, m.transform.rotation.IsSquare := by decide
  have hsurvives : ∀ m ∈ node.nodes, m.Survives := by decide
  exact ⟨hsquare, (geometry_round_trip node hsquare).2.mpr hsurvives⟩

end Sign

namespace Tilted

/-- A cube whose rotation has an entry that is NaN. -/
def cube : Node where
  kind := .cube
  transform := { Transform.identity with rotation := .ofEntries (0 / 0) 0 0 0 1 0 0 0 1 }

/-- **NaN in a rotation is not equal to itself**: the cube has nothing to lose and yet does not read
back as equal. -/
theorem cube_not_readsBack :
    (∀ m ∈ cube.nodes, m.transform.rotation.IsSquare) ∧
    (∀ m ∈ cube.nodes, m.material.texture = none ∧
      ∀ p ∈ Path.pointsOf m.paths, p.color = none) ∧
    cube.readsBack = .ok false := by
  have hsquare : ∀ m ∈ cube.nodes, m.transform.rotation.IsSquare := by decide
  refine ⟨hsquare, by decide, ?_⟩
  rw [Node.readsBack_eq hsquare]
  have hsame : cube.erased.same cube = false := by decide
  rw [hsame]

end Tilted

end SceneLang
