import SceneLang.Evaluation.Runner

/-!
# Tasks and their parts

A runner runs tasks: expressions, statements, the values of blocks and the bodies of defined blocks.
The parts of a task are the expressions and statements that it is made of, and its ranges are those
that its text carries besides those of its parts.  A task runs nothing but its parts, blocks that
have a name, and files, and it points at nothing but its own ranges and those of its parts; that is
what the modules on laws are about.  Here: what stands in a task or in a program at any depth
(`Task.Contains`, `Program.Contains`), and that a part is lighter than its whole
(`Task.weight_lt_of_mem_parts`).
-/

namespace SceneLang

/-- **What a runner runs.** -/
inductive Task where
  | expression (e : Expr)
  | statement (s : Statement)
  | build (symbol : Symbol)
  | body (block : Block)

/-! ### Parts -/

/-- The parts of an expression. -/
def Expr.parts : Expr → List Task
  | .number _ _ | .string _ _ | .color _ _ | .identifier _ _ => []
  | .block _ _ body => body.statements.map .statement
  | .tuple _ items => items.map .expression
  | .prefixed _ _ operand => [.expression operand]
  | .infixed _ left _ right => [.expression left, .expression right]
  | .range _ first last step => .expression first :: .expression last :: step.toList.map .expression
  | .member _ object _ => [.expression object]
  | .sub _ inner => [.expression inner]

/-- The parts of a definition. -/
def Definition.parts : Definition → List Task
  | .expression e => [.expression e]
  | .block body => body.statements.map .statement

/-- The parts of a statement.  A block as a statement is run as an expression. -/
def Statement.parts : Statement → List Task
  | .command _ _ parameter => parameter.toList.map .expression
  | .block range callee body => [.expression (.block range callee body)]
  | .expression _ e => [.expression e]
  | .define _ _ definition => definition.parts
  | .option _ _ default => [.expression default]
  | .loop _ _ sequence body => .expression sequence :: body.statements.map .statement
  | .importFile _ e => [.expression e]

/-- **The parts of a task.**  A block that is built has no text of its own. -/
def Task.parts : Task → List Task
  | .expression e => e.parts
  | .statement s => s.parts
  | .build _ => []
  | .body block => block.statements.map .statement

/-- A task that stands in another one. -/
inductive Task.Contains : Task → Task → Prop
  | refl (t : Task) : Contains t t
  | part {t t' t'' : Task} : t' ∈ t.parts → Contains t' t'' → Contains t t''

theorem Task.Contains.trans {t t' t'' : Task} (h : t.Contains t') (h' : t'.Contains t'') :
    t.Contains t'' := by
  induction h with
  | refl => exact h'
  | part ht _ ih => exact .part ht (ih h')

/-- A task that stands somewhere in a program. -/
def Program.Contains (p : Program) (t : Task) : Prop :=
  ∃ s ∈ p.statements, (Task.statement s).Contains t

theorem Program.Contains.part {p : Program} {t t' : Task} (h : p.Contains t) (ht : t' ∈ t.parts) :
    p.Contains t' := by
  obtain ⟨s, hs, hcontains⟩ := h
  exact ⟨s, hs, hcontains.trans (.part ht (.refl t'))⟩

/-- Whether everything that stands in a task, down to a depth that it does not reach, passes a
check. -/
def Task.everywhere (check : Task → Bool) : Nat → Task → Bool
  | 0, _ => false
  | depth + 1, t => check t && t.parts.all (everywhere check depth)

/-- Whether everything that stands in a program passes a check. -/
def Program.everywhere (check : Task → Bool) (depth : Nat) (p : Program) : Bool :=
  p.statements.all fun s => (Task.statement s).everywhere check depth

theorem Task.Contains.of_everywhere {t u : Task} {check : Task → Bool} {depth : Nat}
    (h : t.Contains u) (hall : t.everywhere check depth) : check u := by
  induction h generalizing depth with
  | refl t =>
    cases depth with
    | zero => cases hall
    | succ depth => exact (Bool.and_eq_true_iff.mp hall).1
  | part ht _ ih =>
    cases depth with
    | zero => cases hall
    | succ depth => exact ih (List.all_eq_true.mp (Bool.and_eq_true_iff.mp hall).2 _ ht)

theorem Program.Contains.of_everywhere {p : Program} {t : Task} {check : Task → Bool}
    (h : p.Contains t) (depth : Nat) (hall : p.everywhere check depth) : check t := by
  obtain ⟨s, hs, hcontains⟩ := h
  exact hcontains.of_everywhere (List.all_eq_true.mp hall s hs)

/-! ### Ranges -/

/-- The ranges of an expression, without those of its parts. -/
def Expr.ranges : Expr → List SourceRange
  | .block r callee body => [r, callee.range, body.sourceRange]
  | .member r _ name => [r, name.range]
  | e => [e.sourceRange]

/-- The ranges of a statement, without those of its parts. -/
def Statement.ranges : Statement → List SourceRange
  | .command range callee _ => [range, callee.range]
  | .block range callee body => [range, callee.range, body.sourceRange]
  | .expression range _ | .importFile range _ => [range]
  | .define range name (.expression _) => [range, name.range]
  | .define range name (.block body) => [range, name.range, body.sourceRange]
  | .option range name _ => [range, name.range]
  | .loop range binder? _ body => range :: body.sourceRange :: binder?.toList.map (·.range)

/-- **The ranges of a task**, without those of its parts. -/
def Task.ranges : Task → List SourceRange
  | .expression e => e.ranges
  | .statement s => s.ranges
  | .build _ | .body _ => []

theorem Expr.sourceRange_mem_ranges (e : Expr) : e.sourceRange ∈ e.ranges := by
  cases e <;> exact List.mem_cons_self

/-! ### Weight -/

theorem Block.sizeOf_lt_of_mem {body : Block} {s : Statement} (h : s ∈ body.statements) :
    sizeOf s < sizeOf body := by
  obtain ⟨range, ss⟩ := body
  have hs : sizeOf s < sizeOf ss := List.sizeOf_lt_of_mem h
  simp only [Block.mk.sizeOf_spec]
  omega

/-- How much text there is in a task.  Statements weigh a bit more than expressions, because a block
as a statement is run as an expression. -/
noncomputable def Task.weight : Task → Nat
  | .expression e => 2 * sizeOf e
  | .statement s => 2 * sizeOf s + 1
  | .build _ => 0
  | .body block => 2 * sizeOf block + 1

theorem Expr.weight_lt_of_mem_parts {e : Expr} {t : Task} (h : t ∈ e.parts) :
    t.weight < (Task.expression e).weight := by
  cases e with
  | number | string | color | identifier => exact absurd h List.not_mem_nil
  | block range callee body =>
    obtain ⟨s, hs, rfl⟩ := List.mem_map.mp h
    have := Block.sizeOf_lt_of_mem hs
    simp only [Task.weight, Expr.block.sizeOf_spec]
    omega
  | tuple range items =>
    obtain ⟨x, hx, rfl⟩ := List.mem_map.mp h
    have := List.sizeOf_lt_of_mem hx
    simp only [Task.weight, Expr.tuple.sizeOf_spec]
    omega
  | prefixed range operator operand =>
    rw [List.mem_singleton.mp h]
    simp only [Task.weight, Expr.prefixed.sizeOf_spec]
    omega
  | infixed range left operator right =>
    simp only [parts, List.mem_cons, List.not_mem_nil, or_false] at h
    rcases h with rfl | rfl <;>
      simp only [Task.weight, Expr.infixed.sizeOf_spec] <;> omega
  | range range first last step =>
    simp only [parts, List.mem_cons] at h
    rcases h with rfl | rfl | h
    · simp only [Task.weight, Expr.range.sizeOf_spec]
      omega
    · simp only [Task.weight, Expr.range.sizeOf_spec]
      omega
    · cases step with
      | none => exact absurd h List.not_mem_nil
      | some x =>
        rw [List.mem_singleton.mp h]
        simp only [Task.weight, Expr.range.sizeOf_spec, Option.some.sizeOf_spec]
        omega
  | member range object name =>
    rw [List.mem_singleton.mp h]
    simp only [Task.weight, Expr.member.sizeOf_spec]
    omega
  | sub range inner =>
    rw [List.mem_singleton.mp h]
    simp only [Task.weight, Expr.sub.sizeOf_spec]
    omega

theorem Statement.weight_lt_of_mem_parts {s : Statement} {t : Task} (h : t ∈ s.parts) :
    t.weight < (Task.statement s).weight := by
  cases s with
  | command range callee parameter =>
    cases parameter with
    | none => exact absurd h List.not_mem_nil
    | some e =>
      rw [List.mem_singleton.mp h]
      simp only [Task.weight, Statement.command.sizeOf_spec, Option.some.sizeOf_spec]
      omega
  | block range callee body =>
    rw [List.mem_singleton.mp h]
    simp only [Task.weight, Statement.block.sizeOf_spec, Expr.block.sizeOf_spec]
    omega
  | expression range e =>
    rw [List.mem_singleton.mp h]
    simp only [Task.weight, Statement.expression.sizeOf_spec]
    omega
  | define range name d =>
    cases d with
    | expression e =>
      rw [List.mem_singleton.mp h]
      simp only [Task.weight, Statement.define.sizeOf_spec, Definition.expression.sizeOf_spec]
      omega
    | block body =>
      obtain ⟨s, hs, rfl⟩ := List.mem_map.mp h
      have := Block.sizeOf_lt_of_mem hs
      simp only [Task.weight, Statement.define.sizeOf_spec, Definition.block.sizeOf_spec]
      omega
  | option range name default =>
    rw [List.mem_singleton.mp h]
    simp only [Task.weight, Statement.option.sizeOf_spec]
    omega
  | loop range binder? sequence body =>
    rcases List.mem_cons.mp h with rfl | h
    · simp only [Task.weight, Statement.loop.sizeOf_spec]
      omega
    · obtain ⟨s, hs, rfl⟩ := List.mem_map.mp h
      have := Block.sizeOf_lt_of_mem hs
      simp only [Task.weight, Statement.loop.sizeOf_spec]
      omega
  | importFile range e =>
    rw [List.mem_singleton.mp h]
    simp only [Task.weight, Statement.importFile.sizeOf_spec]
    omega

/-- **A part is lighter than its whole.** -/
theorem Task.weight_lt_of_mem_parts {t t' : Task} (h : t' ∈ t.parts) : t'.weight < t.weight := by
  cases t with
  | expression e => exact Expr.weight_lt_of_mem_parts h
  | statement s => exact Statement.weight_lt_of_mem_parts h
  | build symbol => exact absurd h List.not_mem_nil
  | body block =>
    obtain ⟨s, hs, rfl⟩ := List.mem_map.mp h
    have := Block.sizeOf_lt_of_mem hs
    simp only [weight]
    omega

end SceneLang
