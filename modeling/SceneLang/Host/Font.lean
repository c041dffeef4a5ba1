import SceneLang.Text.Blank

/-!
# Names of fonts

Before a font is looked for, blanks around its name are dropped, tabs become blanks, and each pair
of blanks becomes one.
-/

namespace SceneLang

/-- Replace each pair of blanks by one, from the left. -/
def joinBlanks : List Char → List Char
  | ' ' :: ' ' :: rest => ' ' :: joinBlanks rest
  | c :: rest => c :: joinBlanks rest
  | [] => []

/-- **The name of a font as it is looked for.** -/
def normalizeFontName (name : String) : String :=
  let trimmed := Text.trim Text.isBlank name.toList
  String.ofList (joinBlanks (trimmed.map fun c => if c = '\t' then ' ' else c))

end SceneLang
