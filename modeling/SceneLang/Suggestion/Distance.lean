/-!
# Distance between words

How far two words are apart: the least number of single edits that turn one into the other, where
an edit inserts, drops or replaces a character or swaps two neighbours, and no part of a word is
edited twice.

The distance is computed row by row.  A row belongs to one word and lists its distances to the
whole other word, to the other word without its first character, and so on to the empty word.
-/

namespace SceneLang.Suggestion

/-- The row of the empty word: everything has to be inserted. -/
def emptyRow : List Char → List Nat
  | [] => [0]
  | _ :: rest => (rest.length + 1) :: emptyRow rest

/-- The cost of a word that starts with `x` against one that starts with `y`, without a swap:
`drop`, `insert` and `both` are the distances when the first character of the one, of the other or
of both is taken away. -/
def stepCost (x y : Char) (drop insert both : Nat) : Nat :=
  if x = y then both else min (min drop insert) both + 1

/-- **The next row**, for a word with `x` put in front.  `second?` is the character after `x`,
`before` is the row without `x`, and `beforeSecond` is the row without `x` and the character
after it. -/
def nextRow (x : Char) (second? : Option Char) : List Char → List Nat → List Nat → List Nat
  | [], before, _ => [before.headD 0 + 1]
  | y :: rest, before, beforeSecond =>
    let tail := nextRow x second? rest before.tail beforeSecond.tail
    let cost := stepCost x y (before.headD 0) (tail.headD 0) (before.tail.headD 0)
    let cost :=
      if rest.head? = some x ∧ second? = some y then
        min cost (beforeSecond.tail.tail.headD 0 + 1)
      else cost
    cost :: tail

/-- The row of a word and the row of the word without its first character. -/
def rows (other : List Char) : List Char → List Nat × List Nat
  | [] => (emptyRow other, [])
  | x :: rest =>
    let (before, beforeSecond) := rows other rest
    (nextRow x rest.head? other before beforeSecond, before)

/-- **The distance between two words.**  The words are compared from their ends. -/
def distance (a b : String) : Nat :=
  (rows b.toList.reverse a.toList.reverse).1.headD 0

end SceneLang.Suggestion
