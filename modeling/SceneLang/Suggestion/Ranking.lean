import SceneLang.Program.Basic
import SceneLang.Suggestion.Distance
import SceneLang.Text.Lowercase

/-!
# Suggestions for misspelled names

`bestMatches` ranks the names that could have been meant, the closest first.  `suggest?` picks one
of them, but prefers a name from `alternatives` where there is one: those are words that people try
before they learn what the language calls the thing.
-/

namespace SceneLang.Suggestion

/-- The number of characters that two words have in common at their start. -/
def commonStart : List Char → List Char → Nat
  | a :: as, b :: bs => if a = b then commonStart as bs + 1 else 0
  | _, _ => 0

/-- **A name that could have been meant.** -/
structure Candidate where
  distance : Nat
  shared : Nat
  name : String
  deriving Repr, DecidableEq

namespace Candidate

/-- Compare a name with what was written, in lower case. -/
def of (query name : String) : Candidate :=
  let name' := Text.lowercase name
  let query' := Text.lowercase query
  { distance := Suggestion.distance name' query'
    shared := commonStart name'.toList query'.toList
    name }

/-- Whether a name is close enough to be suggested: it starts like the query, or no more than half
the query has to be edited. -/
def isPlausible (query : String) (c : Candidate) : Bool :=
  c.shared ≠ 0 || c.distance ≤ (Text.lowercase query).length / 2

/-- Whether one name is at least as good as another: the smaller distance, then the longer common
start. -/
def isAtLeast (a b : Candidate) : Bool :=
  a.distance < b.distance || (a.distance == b.distance && b.shared ≤ a.shared)

end Candidate

/-- **The names that could have been meant**, best first; equally good ones keep their order. -/
def bestMatches (query : String) (names : List String) : List String :=
  (((names.map (Candidate.of query)).filter (Candidate.isPlausible query)).mergeSort
    Candidate.isAtLeast).map Candidate.name

/-- Words that are commonly tried, with the names that the language has instead. -/
def alternatives : List (String × List String) := [
  ("box", ["cube"]),
  ("rect", ["square"]),
  ("rectangle", ["square"]),
  ("ellipse", ["circle"]),
  ("elipse", ["circle"]),
  ("squircle", ["roundrect"]),
  ("rotate", ["orientation"]),
  ("rotation", ["orientation"]),
  ("orientation", ["rotate"]),
  ("translate", ["position"]),
  ("translation", ["position"]),
  ("position", ["translate"]),
  ("scale", ["size"]),
  ("size", ["scale"]),
  ("width", ["size", "x"]),
  ("height", ["size", "y"]),
  ("depth", ["size", "z"]),
  ("length", ["size"]),
  ("radius", ["size"]),
  ("x", ["width", "position"]),
  ("y", ["height", "position"]),
  ("z", ["depth", "position"]),
  ("option", ["define"]),
  ("subtract", ["difference"]),
  ("subtraction", ["difference"])]

/-- **The best suggestion for an unknown name**: an alternative that can be used, or else the
closest name. -/
def suggest? (name : String) (names : List String) : Option String :=
  let others := (alternatives.lookup (Text.lowercase name)).getD []
  match others.find? fun a => names.contains a || keywords.contains a with
  | some a => some a
  | none => (bestMatches name names).head?

end SceneLang.Suggestion
