import SceneLang.Program.Decode

/-!
# Programs survive the way through documents

* `Expr.ofJson_toJson`, `Statement.ofJson_toJson` and their companions: reading back what was
  written of an expression, a block, a statement or a definition gives the same part, for every
  nesting.
* `decode_encode_program`: the same for whole programs, and so writing what was read from any
  document and reading it again gives the program of that document.

The writer is a structural recursion on the syntax and the reader a recursion on the size of the
document, so the induction is on the syntax.  The reader is opened once for each type of part, and
`bind_part`, `bind_required` and `bind_of_eq_ok` then follow it field by field: a field that the
writer forgot, or wrote under another name, would leave no value for `bind_required` to find.
-/

namespace SceneLang

/-! ### Fields -/

namespace Json

theorem field?_of_get? {j v : Json} {n : String} (h : j.get? n = some v) :
    j.field? n = some ⟨v, sizeOf_lt_of_get? h⟩ := by
  unfold field?
  split
  · next hn =>
    rw [h] at hn
    simp at hn
  · next w hw =>
    obtain rfl : v = w := Option.some.inj (h.symm.trans hw)
    rfl

theorem field?_of_get?_none {j : Json} {n : String} (h : j.get? n = none) :
    j.field? n = none := by
  have hm := map_field? j n
  rw [h, Option.map_eq_none_iff] at hm
  exact hm

theorem required_of_get? {j v : Json} {n : String} (h : j.get? n = some v) :
    j.required n = .ok ⟨v, sizeOf_lt_of_get? h⟩ := by
  rw [required, field?_of_get? h]

end Json

/-! ### Following the reader -/

section Reader

variable {α β : Type} {x : Except Fault β}

/-- A step of a reader that gives `a`. -/
theorem bind_of_eq_ok {m : Except Fault α} {a : α} {k : α → Except Fault β} (hm : m = .ok a)
    (hk : k a = x) : (m >>= k) = x := by
  rw [hm]
  exact hk

/-- A field that is there. -/
theorem bind_required {j v : Json} {n : String}
    {k : { v : Json // sizeOf v < sizeOf j } → Except Fault β} (hv : j.get? n = some v)
    (hk : k ⟨v, Json.sizeOf_lt_of_get? hv⟩ = x) : (j.required n >>= k) = x :=
  bind_of_eq_ok (Json.required_of_get? hv) hk

theorem SourceRange.ofJson_of_get? {j : Json} {r : SourceRange} (hj : j.isObject = true)
    (h : j.get? "range" = some r.toJson) : SourceRange.ofJson j = .ok r := by
  rw [SourceRange.ofJson, if_pos hj, Json.getD, h, Option.getD_some]
  rfl

theorem kindOf_partJson {kinds : List String} (unknown : Json → Invalid) (r : SourceRange)
    {kind : String} (fields : List (String × Json)) (h : kind ∈ kinds) :
    kindOf kinds unknown (partJson r kind fields) = .ok kind := by
  have ht : (partJson r kind fields).getD "type" .null = .str kind := rfl
  rw [kindOf, ht]
  simp [h]

/-- The type and the range, with which every part begins. -/
theorem bind_part {kinds : List String} {unknown : Json → Invalid} {r : SourceRange}
    {kind : String} {fields : List (String × Json)} {k : String → SourceRange → Except Fault β}
    (h : kind ∈ kinds) (hk : k kind r = x) :
    (do
      let kind' ← kindOf kinds unknown (partJson r kind fields)
      let r' ← SourceRange.ofJson (partJson r kind fields)
      k kind' r') = x :=
  bind_of_eq_ok (kindOf_partJson unknown r fields h)
    (bind_of_eq_ok (SourceRange.ofJson_of_get? rfl rfl) hk)

end Reader

/-! ### Names, signs and colours -/

theorem Identifier.ofJson_toJson (i : Identifier) : Identifier.ofJson i.toJson = .ok i := by
  rw [Identifier.ofJson]
  refine bind_of_eq_ok (SourceRange.ofJson_of_get? (r := i.range) rfl rfl) ?_
  exact bind_required (v := .str i.name) rfl rfl

theorem PrefixOperator.ofJson_text (op : PrefixOperator) :
    PrefixOperator.ofJson (.str op.text) = .ok op := by
  cases op <;> rfl

theorem InfixOperator.ofJson_text (op : InfixOperator) :
    InfixOperator.ofJson (.str op.text) = .ok op := by
  cases op <;> rfl

/-- All four components are written, so a colour is read back with its alpha. -/
theorem Color.ofLiteral_toList (c : Color Float) :
    Color.ofLiteral (.arr (c.toList.map .float)) = .ok c := rfl

/-- An expression is written as an object, so an optional expression that is there is not taken for
a missing one. -/
theorem Expr.toJson_eq_obj (e : Expr) : ∃ fields, e.toJson = .obj fields := by
  rcases e with _ | _ | _ | _ | _ | _ | _ | _ | ⟨_, _, _, _ | _⟩ | _ | _ <;>
    exact ⟨_, by rw [Expr.toJson, partJson]⟩

/-! ### The parts of a program -/

mutual

/-- **Expressions are read back.** -/
theorem Expr.ofJson_toJson : ∀ e : Expr, Expr.ofJson e.toJson = .ok e
  | .number r x => by
    rw [Expr.toJson, Expr.ofJson]
    refine bind_part (by decide) (bind_required rfl ?_)
    rfl
  | .string r s => by
    rw [Expr.toJson, Expr.ofJson]
    refine bind_part (by decide) (bind_required rfl ?_)
    rfl
  | .color r c => by
    rw [Expr.toJson, Expr.ofJson]
    refine bind_part (by decide) (bind_required rfl ?_)
    exact bind_of_eq_ok (Color.ofLiteral_toList c) rfl
  | .identifier r n => by
    rw [Expr.toJson, Expr.ofJson]
    refine bind_part (by decide) (bind_required rfl ?_)
    rfl
  | .block r callee body => by
    have hbody := Block.ofJson_toJson body
    rw [Expr.toJson, Expr.ofJson]
    refine bind_part (by decide) (bind_required rfl ?_)
    refine bind_of_eq_ok callee.ofJson_toJson (bind_required rfl ?_)
    exact bind_of_eq_ok hbody rfl
  | .tuple r items => by
    have hitems := Expr.ofJsons_toJsons items
    rw [Expr.toJson, Expr.ofJson]
    refine bind_part (by decide) (bind_required rfl ?_)
    refine bind_of_eq_ok ?_ rfl
    rw [Expr.ofParts]
    exact hitems
  | .prefixed r op e => by
    have he := Expr.ofJson_toJson e
    rw [Expr.toJson, Expr.ofJson]
    refine bind_part (by decide) (bind_required rfl ?_)
    refine bind_of_eq_ok op.ofJson_text (bind_required rfl ?_)
    exact bind_of_eq_ok he rfl
  | .infixed r a op b => by
    have ha := Expr.ofJson_toJson a
    have hb := Expr.ofJson_toJson b
    rw [Expr.toJson, Expr.ofJson]
    refine bind_part (by decide) (bind_required rfl ?_)
    refine bind_of_eq_ok ha (bind_required rfl ?_)
    refine bind_of_eq_ok op.ofJson_text (bind_required rfl ?_)
    exact bind_of_eq_ok hb rfl
  | .range r a b none => by
    have ha := Expr.ofJson_toJson a
    have hb := Expr.ofJson_toJson b
    rw [Expr.toJson, Expr.ofJson]
    refine bind_part (by decide) (bind_required rfl ?_)
    refine bind_of_eq_ok ha (bind_required rfl ?_)
    refine bind_of_eq_ok hb ?_
    rw [Json.field?_of_get?_none (n := "step") rfl]
    rfl
  | .range r a b (some c) => by
    have ha := Expr.ofJson_toJson a
    have hb := Expr.ofJson_toJson b
    have hc := Expr.ofJson_toJson c
    obtain ⟨fields, hfields⟩ := Expr.toJson_eq_obj c
    rw [hfields] at hc
    rw [Expr.toJson, Expr.ofJson, hfields]
    refine bind_part (by decide) (bind_required rfl ?_)
    refine bind_of_eq_ok ha (bind_required rfl ?_)
    refine bind_of_eq_ok hb ?_
    rw [Json.field?_of_get? (n := "step") (v := .obj fields) rfl]
    exact bind_of_eq_ok hc rfl
  | .member r e m => by
    have he := Expr.ofJson_toJson e
    rw [Expr.toJson, Expr.ofJson]
    refine bind_part (by decide) (bind_required rfl ?_)
    refine bind_of_eq_ok he (bind_required rfl ?_)
    exact bind_of_eq_ok m.ofJson_toJson rfl
  | .sub r e => by
    have he := Expr.ofJson_toJson e
    rw [Expr.toJson, Expr.ofJson]
    refine bind_part (by decide) (bind_required rfl ?_)
    exact bind_of_eq_ok he rfl

theorem Expr.ofJsons_toJsons : ∀ es : List Expr, Expr.ofJsons (Expr.toJsons es) = .ok es
  | [] => by rw [Expr.toJsons, Expr.ofJsons]
  | e :: es => by
    have he := Expr.ofJson_toJson e
    have hes := Expr.ofJsons_toJsons es
    rw [Expr.toJsons, Expr.ofJsons]
    exact bind_of_eq_ok he (bind_of_eq_ok hes rfl)

/-- **Blocks are read back.** -/
theorem Block.ofJson_toJson : ∀ b : Block, Block.ofJson b.toJson = .ok b
  | .mk r ss => by
    have hss := Statement.ofJsons_toJsons ss
    rw [Block.toJson, Block.ofJson]
    refine bind_of_eq_ok (SourceRange.ofJson_of_get? (r := r) rfl rfl) ?_
    rw [Json.field?_of_get? (n := "statements") (v := .arr (Statement.toJsons ss)) rfl]
    refine bind_of_eq_ok ?_ rfl
    rw [Statement.ofParts]
    exact hss

/-- **Statements are read back.** -/
theorem Statement.ofJson_toJson : ∀ s : Statement, Statement.ofJson s.toJson = .ok s
  | .command r callee none => by
    rw [Statement.toJson, Statement.ofJson]
    refine bind_part (by decide) (bind_required rfl ?_)
    refine bind_of_eq_ok callee.ofJson_toJson ?_
    rw [Json.field?_of_get?_none (n := "parameter") rfl]
    rfl
  | .command r callee (some e) => by
    have he := Expr.ofJson_toJson e
    obtain ⟨fields, hfields⟩ := Expr.toJson_eq_obj e
    rw [hfields] at he
    rw [Statement.toJson, Statement.ofJson, hfields]
    refine bind_part (by decide) (bind_required rfl ?_)
    refine bind_of_eq_ok callee.ofJson_toJson ?_
    rw [Json.field?_of_get? (n := "parameter") (v := .obj fields) rfl]
    exact bind_of_eq_ok he rfl
  | .block r callee body => by
    have hbody := Block.ofJson_toJson body
    rw [Statement.toJson, Statement.ofJson]
    refine bind_part (by decide) (bind_required rfl ?_)
    refine bind_of_eq_ok callee.ofJson_toJson (bind_required rfl ?_)
    exact bind_of_eq_ok hbody rfl
  | .expression r e => by
    have he := Expr.ofJson_toJson e
    rw [Statement.toJson, Statement.ofJson]
    refine bind_part (by decide) (bind_required rfl ?_)
    exact bind_of_eq_ok he rfl
  | .define r name d => by
    have hd := Definition.ofJson_toJson d
    rw [Statement.toJson, Statement.ofJson]
    refine bind_part (by decide) (bind_required rfl ?_)
    refine bind_of_eq_ok name.ofJson_toJson (bind_required rfl ?_)
    exact bind_of_eq_ok hd rfl
  | .option r name e => by
    have he := Expr.ofJson_toJson e
    rw [Statement.toJson, Statement.ofJson]
    refine bind_part (by decide) (bind_required rfl ?_)
    refine bind_of_eq_ok name.ofJson_toJson (bind_required rfl ?_)
    exact bind_of_eq_ok he rfl
  | .loop r none e body => by
    have he := Expr.ofJson_toJson e
    have hbody := Block.ofJson_toJson body
    rw [Statement.toJson, Statement.ofJson]
    refine bind_part (by decide) (bind_of_eq_ok (a := none) rfl (bind_required rfl ?_))
    refine bind_of_eq_ok he (bind_required rfl ?_)
    exact bind_of_eq_ok hbody rfl
  | .loop r (some v) e body => by
    have he := Expr.ofJson_toJson e
    have hbody := Block.ofJson_toJson body
    rw [Statement.toJson, Statement.ofJson]
    refine bind_part (by decide) ?_
    refine bind_of_eq_ok (m := Identifier.ofJson v.toJson) v.ofJson_toJson ?_
    refine bind_of_eq_ok rfl (bind_required rfl ?_)
    refine bind_of_eq_ok he (bind_required rfl ?_)
    exact bind_of_eq_ok hbody rfl
  | .importFile r e => by
    have he := Expr.ofJson_toJson e
    rw [Statement.toJson, Statement.ofJson]
    refine bind_part (by decide) (bind_required rfl ?_)
    exact bind_of_eq_ok he rfl

theorem Statement.ofJsons_toJsons :
    ∀ ss : List Statement, Statement.ofJsons (Statement.toJsons ss) = .ok ss
  | [] => by rw [Statement.toJsons, Statement.ofJsons]
  | s :: ss => by
    have hs := Statement.ofJson_toJson s
    have hss := Statement.ofJsons_toJsons ss
    rw [Statement.toJsons, Statement.ofJsons]
    exact bind_of_eq_ok hs (bind_of_eq_ok hss rfl)

/-- **Definitions are read back.** -/
theorem Definition.ofJson_toJson : ∀ d : Definition, Definition.ofJson d.toJson = .ok d
  | .expression e => by
    have he := Expr.ofJson_toJson e
    rw [Definition.toJson, Definition.ofJson]
    rw [Json.field?_of_get?_none (n := "block") rfl]
    exact bind_required rfl (bind_of_eq_ok he rfl)
  | .block b => by
    have hb := Block.ofJson_toJson b
    rw [Definition.toJson, Definition.ofJson]
    rw [Json.field?_of_get? (n := "block") (v := b.toJson) rfl]
    exact bind_of_eq_ok hb rfl

end

/-! ### Programs -/

theorem Program.ofJson_toJson (p : Program) : Program.ofJson p.toJson = .ok p := by
  rw [Program.ofJson]
  exact bind_of_eq_ok (Statement.ofJsons_toJsons p.statements) rfl

/-- **A program survives the way through a document.**  Reading back what was written of a program
gives that program.  So a document that can be read can be written anew from what was read, and
means the same; one that cannot be read stays refused for the same fault. -/
theorem decode_encode_program :
    (∀ p : Program, Program.ofJson p.toJson = .ok p) ∧
      ∀ d : Json, (Program.ofJson d >>= fun p => Program.ofJson p.toJson) = Program.ofJson d := by
  refine ⟨Program.ofJson_toJson, fun d => ?_⟩
  rcases h : Program.ofJson d with f | p
  · rfl
  · exact bind_of_eq_ok rfl p.ofJson_toJson

end SceneLang
