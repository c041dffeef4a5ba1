import SceneLang.Scope.Basic

/-!
# Looking up names

A name is looked up in the scope where it is used, then in the scope around it and so on outwards,
and last among the standard names of the scope where it is used.
-/

namespace SceneLang.Scope

/-- **The scope at a height of the stack and those around it**, innermost first. -/
def chainFrom : List Scope → Nat → List Scope
  | [], _ => []
  | s :: below, level =>
    if below.length = level then
      s :: match s.parent with
        | some p => chainFrom below p
        | none => []
    else chainFrom below level

/-- The scope on top of a stack and those around it. -/
def chain (stack : List Scope) : List Scope := chainFrom stack (stack.length - 1)

/-- The scope at a height of the stack. -/
def atLevel? (stack : List Scope) (level : Nat) : Option Scope := (chainFrom stack level).head?

/-- The innermost definition of a name in a list of scopes. -/
def findDefinition? : List Scope → String → Option Symbol
  | [], _ => none
  | s :: rest, name =>
    match s.definitions.get? name with
    | some symbol => some symbol
    | none => findDefinition? rest name

/-- The standard names that are visible on top of a stack. -/
def standard (stack : List Scope) : Bindings Symbol :=
  match stack with
  | [] => .empty
  | s :: _ => s.table.symbols

/-- **What a name stands for** on top of a stack. -/
def symbol? (stack : List Scope) (name : String) : Option Symbol :=
  match findDefinition? (chain stack) name with
  | some symbol => some symbol
  | none => (standard stack).get? name

/-- **The definitions that are visible** on top of a stack; inner ones hide outer ones. -/
def visibleDefinitions (stack : List Scope) : Bindings Symbol :=
  (chain stack).reverse.foldl (fun b s => b.update s.definitions) .empty

/-- All names that are visible on top of a stack. -/
def visibleNames (stack : List Scope) : List String :=
  ((standard stack).update (visibleDefinitions stack)).names

/-- **The names that can stand in an expression**, in ascending order. -/
def expressionNames (stack : List Scope) : List String := sortNames (visibleNames stack)

/-- **The names that can start a statement**, in ascending order; keywords are among them. -/
def commandNames (stack : List Scope) : List String :=
  let names := visibleNames stack
  sortNames (names ++ keywords.filter fun k => !names.contains k)

end SceneLang.Scope
