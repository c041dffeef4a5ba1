import SceneLang.Proofs.Documents

/-!
# Faults of program documents

A document that is no program is refused, with a cause.  Some documents are not refused but stop the
reader with another fault: a value of the wrong kind, or a number that is too large.
`Program.Slip` lists all places in a document where that can happen, and
`Program.ofJson_foreseen` says that there are no others: whatever the document is, it reads as a
program, is refused, or has one of these places in it.

The proof follows the reader.  Each type of part has its own fields, so `reads_kindOf` first says
which type it is, and then every field is a `Reads.required` or `Reads.part` step.
-/

namespace SceneLang

/-- **The places in a program document that are not refused as they should be**, each an object and
the fault it causes. -/
inductive Program.Slip (j : Json) : Fault → Prop where
  /-- A type that is a list cannot be looked up. -/
  | kindList {items : List Json} : j.get? "type" = some (.arr items) → Slip j .wrongKind
  /-- A type that is an object cannot be looked up. -/
  | kindObject {fields : List (String × Json)} : j.get? "type" = some (.obj fields) →
      Slip j .wrongKind
  /-- An infinite bound of a range. -/
  | bound {a b : Json} {x : Float} {negative : Bool} : j.get? "range" = some (.arr [a, b]) →
      .float x ∈ [a, b] → Decimal.view x = .infinite negative → Slip j .tooLarge
  /-- A number that is none. -/
  | number {v : Json} {f : Fault} : j.get? "type" = some (.str "number") →
      j.get? "value" = some v → v.NotDouble f → Slip j f
  /-- A colour without components. -/
  | color {v : Json} : j.get? "type" = some (.str "color") → j.get? "value" = some v →
      v.parts? = none → Slip j .wrongKind
  /-- A component of a colour that is no number. -/
  | component {v p : Json} {ps : List Json} {f : Fault} :
      j.get? "type" = some (.str "color") → j.get? "value" = some v → v.parts? = some ps → p ∈ ps →
      p.NotDouble f → Slip j f
  /-- A tuple of nothing that has parts. -/
  | tuple {v : Json} : j.get? "type" = some (.str "tuple") → j.get? "expressions" = some v →
      v.parts? = none → Slip j .wrongKind
  /-- A block of nothing that has parts. -/
  | block {b v : Json} : j.get? "block" = some b → b.get? "statements" = some v →
      v.parts? = none → Slip j .wrongKind
  /-- A definition that is no object, unless it has parts without the word `block` among them. -/
  | definition {v : Json} : j.get? "type" = some (.str "define") →
      j.get? "definition" = some v → v.isObject = false →
      (∀ items, v = .arr items → .str "block" ∈ items) →
      (∀ s, v = .str s → (s.splitOn "block").length ≠ 1) → Slip j .wrongKind

namespace Program

section Leaves

variable {d j v : Json} {kinds : List String} {unknown : Json → Invalid}

/-! ### Types and ranges -/

/-- A type that is accepted is the one that the part names. -/
theorem reads_kindOf (j : Json) :
    Reads Slip j (fun kind => j.get? "type" = some (.str kind)) (kindOf kinds unknown j) := by
  rw [kindOf, Json.getD]
  cases ht : j.get? "type" with
  | none => exact .invalid _
  | some t =>
    rw [Option.getD_some]
    cases t with
    | arr items => exact .slip (.kindList ht)
    | obj fields => exact .slip (.kindObject ht)
    | str s =>
      dsimp only
      split
      · exact .ok rfl
      · exact .invalid _
    | _ => exact .invalid _

/-- A part of a range is a whole number, refused, or infinite. -/
theorem toWhole_eq_endless (h : v.toWhole = .error .endless) :
    ∃ x negative, v = .float x ∧ Decimal.view x = .infinite negative := by
  cases v with
  | float x =>
    rw [Json.toWhole] at h
    split at h
    · next negative hview => exact ⟨x, negative, rfl, hview⟩
    · split at h <;> simp at h
  | str s =>
    rw [Json.toWhole] at h
    split at h <;> simp at h
  | _ => simp [Json.toWhole] at h

theorem foreseen_bounds {bounds : Json} (hget : j.get? "range" = some bounds) :
    Foreseen Slip j (SourceRange.ofBounds bounds) := by
  rw [SourceRange.ofBounds]
  dsimp only
  split
  · next a b hparts =>
    have hendless : ∀ p ∈ [a, b], p.toWhole = .error .endless →
        Foreseen Slip j (.error .tooLarge : Except Fault Int) := by
      intro p hp h
      obtain ⟨x, negative, rfl, hview⟩ := toWhole_eq_endless h
      -- only a list can have a fraction for a part
      obtain rfl | htexts := Json.parts?_eq_some hparts
      · exact .slip (.bound hget hp hview)
      · obtain ⟨s, hs⟩ := htexts _ hp
        simp at hs
    refine .andThen ?_ fun m => .andThen ?_ fun n => .ok trivial
    · split
      · exact .ok trivial
      · exact .invalid _
      · next h => exact hendless a (by simp) h
    · split
      · exact .ok trivial
      · exact .invalid _
      · next h => exact hendless b (by simp) h
  · exact .invalid _

theorem foreseen_range (j : Json) : Foreseen Slip j (SourceRange.ofJson j) := by
  rw [SourceRange.ofJson]
  split
  · rw [Json.getD]
    cases hget : j.get? "range" with
    | none => exact .ok trivial
    | some bounds => exact foreseen_bounds hget
  · exact .invalid _

theorem foreseen_identifier (j : Json) : Foreseen Slip j (Identifier.ofJson j) := by
  rw [Identifier.ofJson]
  refine (foreseen_range j).andThen fun r => ?_
  exact .required fun v _ => .ok trivial

/-! ### Signs and literals -/

theorem foreseen_prefixOperator (v : Json) : Foreseen Slip d (PrefixOperator.ofJson v) := by
  unfold PrefixOperator.ofJson
  split
  · exact .ok trivial
  · exact .ok trivial
  · exact .invalid _

theorem foreseen_infixOperator (v : Json) : Foreseen Slip d (InfixOperator.ofJson v) := by
  unfold InfixOperator.ofJson
  split
  · exact .ok trivial
  · exact .ok trivial
  · exact .ok trivial
  · exact .ok trivial
  · exact .invalid _

theorem foreseen_number (ht : j.get? "type" = some (.str "number"))
    (hv : j.get? "value" = some v) : Foreseen Slip j v.toDouble :=
  .of_error fun _ h => (Json.toDouble_eq_error h).imp_right (.number ht hv)

theorem foreseen_components {ps : List Json} (ht : j.get? "type" = some (.str "color"))
    (hv : j.get? "value" = some v) (hps : v.parts? = some ps) :
    Foreseen Slip j (Json.toDoubles ps) := by
  refine .of_error fun f h => (Json.toDoubles_eq_error h).imp_right ?_
  rintro ⟨p, hp, hslip⟩
  exact .component ht hv hps hp hslip

theorem foreseen_color (ht : j.get? "type" = some (.str "color"))
    (hv : j.get? "value" = some v) : Foreseen Slip j (Color.ofLiteral v) := by
  unfold Color.ofLiteral
  dsimp only
  split
  · refine .andThen (.ok trivial) fun color => ?_
    split
    · exact .ok trivial
    · exact .invalid _
  · split
    · next hparts => exact .slip (.color ht hv hparts)
    · next ps hparts =>
      refine .andThen (foreseen_components ht hv hparts) fun xs => ?_
      refine .andThen (.ok trivial) fun color => ?_
      split
      · exact .ok trivial
      · exact .invalid _

theorem foreseen_definitionFault (ht : j.get? "type" = some (.str "define"))
    (hv : j.get? "definition" = some v) (hobject : v.isObject = false) {α : Type} :
    Foreseen Slip j (.error (definitionFault v) : Except Fault α) := by
  unfold definitionFault
  dsimp only
  split
  · exact .invalid _
  · next hmentions =>
    refine .slip (.definition ht hv hobject ?_ ?_)
    · rintro items rfl
      have hany := eq_true_of_ne_false fun h => hmentions (congrArg some h)
      obtain ⟨i, hi, hblock⟩ := List.any_eq_true.mp hany
      split at hblock
      · exact hi
      · simp at hblock
    · rintro s rfl hlength
      exact hmentions (by simp [hlength])

end Leaves

/-! ### Expressions, blocks and statements -/

mutual

theorem foreseen_expr (j : Json) : Foreseen Slip j (Expr.ofJson j) := by
  rw [Expr.ofJson]
  split
  · exact .invalid _
  refine (reads_kindOf j).bind fun kind ht => ?_
  refine (foreseen_range j).andThen fun r => ?_
  -- one case for each of `expressionKinds`, in that order
  split
  · refine .required fun v hv => ?_
    exact (foreseen_number ht hv).map fun _ _ => trivial
  · exact .required fun v _ => .ok trivial
  · refine .required fun v hv => ?_
    exact (foreseen_color ht hv).map fun _ _ => trivial
  · exact .required fun v _ => .ok trivial
  · refine .part (fun callee _ => foreseen_identifier callee) fun callee _ => ?_
    refine .required fun body hbody => ?_
    exact (foreseen_block hbody).map fun _ _ => trivial
  · refine .required fun items hitems => ?_
    exact (foreseen_exprParts ht hitems).map fun _ _ => trivial
  · refine .part (fun op _ => foreseen_prefixOperator op) fun op _ => ?_
    exact .part (fun operand _ => foreseen_expr operand) fun _ _ => .ok trivial
  · refine .part (fun left _ => foreseen_expr left) fun left _ => ?_
    refine .part (fun op _ => foreseen_infixOperator op) fun op _ => ?_
    exact .part (fun right _ => foreseen_expr right) fun _ _ => .ok trivial
  · refine .part (fun first _ => foreseen_expr first) fun first _ => ?_
    refine .part (fun last _ => foreseen_expr last) fun last _ => ?_
    split
    · exact .ok trivial
    · exact .ok trivial
    · next step _ _ hstep =>
      have hstep := Json.get?_of_field? hstep
      exact ((foreseen_expr step).within (.of_get? hstep)).map fun _ _ => trivial
  · refine .part (fun object _ => foreseen_expr object) fun object _ => ?_
    exact .part (fun member _ => foreseen_identifier member) fun _ _ => .ok trivial
  · exact .part (fun inner _ => foreseen_expr inner) fun _ _ => .ok trivial
termination_by sizeOf j
decreasing_by all_goals exact Json.sizeOf_lt_of_get? (by assumption)

theorem foreseen_exprParts {j v : Json} (ht : j.get? "type" = some (.str "tuple"))
    (hv : j.get? "expressions" = some v) : Foreseen Slip j (Expr.ofParts v) := by
  unfold Expr.ofParts
  split
  · refine .within (.of_get? hv) ?_
    exact foreseen_exprs fun i hi => .of_mem hi
  · split
    · next hparts => exact .slip (.tuple ht hv hparts)
    · exact .ok trivial
    · exact .invalid _
termination_by sizeOf v

theorem foreseen_exprs {d : Json} {items : List Json} (h : ∀ i ∈ items, i.Within d) :
    Foreseen Slip d (Expr.ofJsons items) := by
  match items with
  | [] =>
    rw [Expr.ofJsons]
    exact .ok trivial
  | j :: rest =>
    rw [List.forall_mem_cons] at h
    rw [Expr.ofJsons]
    refine ((foreseen_expr j).within h.1).andThen fun e => ?_
    exact (foreseen_exprs h.2).map fun _ _ => trivial
termination_by sizeOf items

theorem foreseen_block {j b : Json} (hb : j.get? "block" = some b) :
    Foreseen Slip j (Block.ofJson b) := by
  rw [Block.ofJson]
  refine ((foreseen_range b).within (.of_get? hb)).andThen fun r => ?_
  split
  · exact .ok trivial
  · next items _ hitems =>
    have hitems := Json.get?_of_field? hitems
    exact (foreseen_statementParts hb hitems).map fun _ _ => trivial
termination_by sizeOf b
decreasing_by all_goals exact Json.sizeOf_lt_of_get? (by assumption)

theorem foreseen_statement (j : Json) : Foreseen Slip j (Statement.ofJson j) := by
  rw [Statement.ofJson]
  split
  · exact .invalid _
  refine (reads_kindOf j).bind fun kind ht => ?_
  refine (foreseen_range j).andThen fun r => ?_
  -- one case for each of `statementKinds`, in that order
  split
  · refine .part (fun callee _ => foreseen_identifier callee) fun callee _ => ?_
    split
    · exact .ok trivial
    · exact .ok trivial
    · next e _ _ he =>
      have he := Json.get?_of_field? he
      exact ((foreseen_expr e).within (.of_get? he)).map fun _ _ => trivial
  · refine .part (fun callee _ => foreseen_identifier callee) fun callee _ => ?_
    refine .required fun body hbody => ?_
    exact (foreseen_block hbody).map fun _ _ => trivial
  · exact .part (fun e _ => foreseen_expr e) fun _ _ => .ok trivial
  · refine .part (fun name _ => foreseen_identifier name) fun name _ => ?_
    refine .required fun definition hdefinition => ?_
    exact (foreseen_definition ht hdefinition).map fun _ _ => trivial
  · refine .part (fun name _ => foreseen_identifier name) fun name _ => ?_
    exact .part (fun e _ => foreseen_expr e) fun _ _ => .ok trivial
  · have hloop : ∀ binder? : Option Identifier, Foreseen Slip j (do
        let ⟨e, _⟩ ← j.required "expression"
        let e ← Expr.ofJson e
        let ⟨body, _⟩ ← j.required "block"
        return Statement.loop r binder? e (← Block.ofJson body)) := by
      intro binder?
      refine .part (fun e _ => foreseen_expr e) fun e _ => ?_
      refine .required fun body hbody => ?_
      exact (foreseen_block hbody).map fun _ _ => trivial
    dsimp only
    split
    · exact hloop none
    · exact hloop none
    · next v _ hv =>
      refine ((foreseen_identifier v).within (.of_get? hv)).andThen fun binder => ?_
      exact hloop (some binder)
  · exact .part (fun e _ => foreseen_expr e) fun _ _ => .ok trivial
termination_by sizeOf j
decreasing_by all_goals exact Json.sizeOf_lt_of_get? (by assumption)

theorem foreseen_statementParts {j b v : Json} (hb : j.get? "block" = some b)
    (hv : b.get? "statements" = some v) : Foreseen Slip j (Statement.ofParts v) := by
  unfold Statement.ofParts
  split
  · next items =>
    refine .within (.of_get? hb) (.within (.of_get? hv) ?_)
    exact foreseen_statements fun i hi => .of_mem hi
  · split
    · next hparts => exact .slip (.block hb hv hparts)
    · exact .ok trivial
    · exact .invalid _
termination_by sizeOf v

theorem foreseen_statements {d : Json} {items : List Json} (h : ∀ i ∈ items, i.Within d) :
    Foreseen Slip d (Statement.ofJsons items) := by
  match items with
  | [] =>
    rw [Statement.ofJsons]
    exact .ok trivial
  | j :: rest =>
    rw [List.forall_mem_cons] at h
    rw [Statement.ofJsons]
    refine ((foreseen_statement j).within h.1).andThen fun s => ?_
    exact (foreseen_statements h.2).map fun _ _ => trivial
termination_by sizeOf items

theorem foreseen_definition {j v : Json} (ht : j.get? "type" = some (.str "define"))
    (hv : j.get? "definition" = some v) : Foreseen Slip j (Definition.ofJson v) := by
  rw [Definition.ofJson]
  split
  · next hobject => exact foreseen_definitionFault ht hv (by simpa using hobject)
  refine .within (.of_get? hv) ?_
  split
  · next body _ hbody =>
    have hbody := Json.get?_of_field? hbody
    exact (foreseen_block hbody).map fun _ _ => trivial
  · exact .part (fun e _ => foreseen_expr e) fun _ _ => .ok trivial
termination_by sizeOf v
decreasing_by all_goals exact Json.sizeOf_lt_of_get? (by assumption)

end

/-- Only a value of the wrong kind and a number that is too large are not refused. -/
theorem Slip.wrongKind_or_tooLarge {j : Json} {f : Fault} (h : Slip j f) :
    f = .wrongKind ∨ f = .tooLarge := by
  have hnumber : ∀ v : Json, v.NotDouble f → f = .wrongKind ∨ f = .tooLarge := by
    intro v hv
    cases hv with
    | huge => exact .inr rfl
    | _ => exact .inl rfl
  cases h with
  | bound => exact .inr rfl
  | number _ _ hv => exact hnumber _ hv
  | component _ _ _ _ hp => exact hnumber _ hp
  | _ => exact .inl rfl

theorem foreseen_program (d : Json) : Foreseen Slip d (Program.ofJson d) := by
  rw [Program.ofJson]
  split
  · exact .invalid _
  split
  · split
    · next items hitems =>
      refine (foreseen_statements fun i hi => ?_).map fun _ _ => trivial
      rw [Json.getD] at hitems
      cases hget : d.get? "statements" with
      | none =>
        rw [hget] at hitems
        cases hitems
        simp at hi
      | some v =>
        rw [hget] at hitems
        cases hitems
        exact (Json.Within.of_mem hi).trans (.of_get? hget)
    · exact .invalid _
  · exact .invalid _

end Program

/-- **Every document reads as a program or is refused, apart from the listed slips.**  A fault that
is no refusal is a value of the wrong kind or a number that is too large, and there is an object in
the document where it comes from. -/
theorem Program.ofJson_foreseen (d : Json) :
    (∃ p, Program.ofJson d = .ok p) ∨
    (∃ cause, Program.ofJson d = .error (.invalid cause)) ∨
    ∃ f j, Program.ofJson d = .error f ∧ (f = .wrongKind ∨ f = .tooLarge) ∧
      Json.Within j d ∧ Slip j f := by
  cases h : Program.ofJson d with
  | ok p => exact .inl ⟨p, rfl⟩
  | error f =>
    obtain ⟨cause, rfl⟩ | ⟨j, hj, hslip⟩ := (Program.foreseen_program d).fault f h
    · exact .inr (.inl ⟨cause, rfl⟩)
    · exact .inr (.inr ⟨f, j, rfl, hslip.wrongKind_or_tooLarge, hj, hslip⟩)

/-! ### Documents that slip through -/

namespace Malformed

/-- A program of one statement. -/
def program (kind : String) (fields : List (String × Json)) : Json :=
  .obj [("statements", .arr [.obj (("type", .str kind) :: fields)])]

/-- A program of one expression. -/
def expression (kind : String) (fields : List (String × Json)) : Json :=
  program "expression" [("expression", .obj (("type", .str kind) :: fields))]

/-- A name. -/
def name : Json := .obj [("name", .str "a")]

section

variable {f : Fault} {v : Json}

/-- A program has the fault of its statement. -/
theorem ofJson_program {s : Json} (h : Statement.ofJson s = .error f) :
    Program.ofJson (.obj [("statements", .arr [s])]) = .error f := by
  show (Statement.ofJsons [s] >>= _) = _
  rw [Statement.ofJsons, h]
  rfl

/-- A program has the fault of its expression. -/
theorem ofJson_expression {kind : String} {fields : List (String × Json)}
    (h : Expr.ofJson (.obj (("type", .str kind) :: fields)) = .error f) :
    Program.ofJson (expression kind fields) = .error f := by
  refine ofJson_program ?_
  rw [Statement.ofJson]
  show (Expr.ofJson (.obj (("type", .str kind) :: fields)) >>= _) = _
  rw [h]
  rfl

theorem ofJson_kind (h : kindOf statementKinds .unknownStatement (.obj [("type", v)]) = .error f) :
    Program.ofJson (.obj [("statements", .arr [.obj [("type", v)]])]) = .error f := by
  refine ofJson_program ?_
  rw [Statement.ofJson]
  show (kindOf statementKinds .unknownStatement (.obj [("type", v)]) >>= _) = _
  rw [h]
  rfl

theorem ofJson_range (h : SourceRange.ofBounds v = .error f) :
    Program.ofJson (expression "number" [("range", v)]) = .error f := by
  refine ofJson_expression ?_
  rw [Expr.ofJson]
  show (SourceRange.ofBounds v >>= _) = _
  rw [h]
  rfl

theorem ofJson_number (h : v.toDouble = .error f) :
    Program.ofJson (expression "number" [("value", v)]) = .error f := by
  refine ofJson_expression ?_
  rw [Expr.ofJson]
  show (v.toDouble >>= _) = _
  rw [h]
  rfl

theorem ofJson_color (h : Color.ofLiteral v = .error f) :
    Program.ofJson (expression "color" [("value", v)]) = .error f := by
  refine ofJson_expression ?_
  rw [Expr.ofJson]
  show (Color.ofLiteral v >>= _) = _
  rw [h]
  rfl

theorem ofJson_tuple (h : Expr.ofParts v = .error f) :
    Program.ofJson (expression "tuple" [("expressions", v)]) = .error f := by
  refine ofJson_expression ?_
  rw [Expr.ofJson]
  show (Expr.ofParts v >>= _) = _
  rw [h]
  rfl

theorem ofJson_block (h : Statement.ofParts v = .error f) :
    Program.ofJson (expression "block" [("identifier", name),
      ("block", .obj [("statements", v)])]) = .error f := by
  refine ofJson_expression ?_
  rw [Expr.ofJson]
  show (Block.ofJson (.obj [("statements", v)]) >>= _) = _
  rw [Block.ofJson]
  show ((Statement.ofParts v >>= _) >>= _) = _
  rw [h]
  rfl

theorem ofJson_define (h : Definition.ofJson v = .error f) :
    Program.ofJson (program "define" [("identifier", name), ("definition", v)]) = .error f := by
  refine ofJson_program ?_
  rw [Statement.ofJson]
  show (Definition.ofJson v >>= _) = _
  rw [h]
  rfl

end

/-- **Documents that are neither read nor refused**, one for each kind of slip. -/
theorem documents_not_refused :
    Program.ofJson (.obj [("statements", .arr [.obj [("type", .arr [])]])]) = .error .wrongKind ∧
    Program.ofJson (.obj [("statements", .arr [.obj [("type", .obj [])]])]) = .error .wrongKind ∧
    Program.ofJson (expression "number" [("range", .arr [.int 0, .float (1 / 0)])])
      = .error .tooLarge ∧
    Program.ofJson (expression "number" [("value", .null)]) = .error .wrongKind ∧
    Program.ofJson (expression "number" [("value", .int (10 ^ 400))]) = .error .tooLarge ∧
    Program.ofJson (expression "color" [("value", .int 5)]) = .error .wrongKind ∧
    Program.ofJson (expression "color" [("value", .arr [.null])]) = .error .wrongKind ∧
    Program.ofJson (expression "tuple" [("expressions", .int 5)]) = .error .wrongKind ∧
    Program.ofJson (expression "block" [("identifier", name),
      ("block", .obj [("statements", .int 5)])]) = .error .wrongKind ∧
    Program.ofJson (program "define" [("identifier", name), ("definition", .int 5)])
      = .error .wrongKind := by
  -- five is no list, whatever is asked of its parts
  have hexpressions : Expr.ofParts (.int 5) = .error .wrongKind := by
    rw [Expr.ofParts]
    · rfl
    · simp
  have hstatements : Statement.ofParts (.int 5) = .error .wrongKind := by
    rw [Statement.ofParts]
    · rfl
    · simp
  have hdefinition : Definition.ofJson (.int 5) = .error .wrongKind := by
    rw [Definition.ofJson]
    rfl
  exact ⟨ofJson_kind rfl, ofJson_kind rfl, ofJson_range rfl, ofJson_number rfl,
    ofJson_number Json.toDouble_tenTo400, ofJson_color rfl, ofJson_color rfl,
    ofJson_tuple hexpressions, ofJson_block hstatements, ofJson_define hdefinition⟩

end Malformed

end SceneLang
