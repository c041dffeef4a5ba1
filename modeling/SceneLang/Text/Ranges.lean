/-!
# Sets of code points

A property of characters is given as a table of closed ranges of code points, in increasing order.
-/

namespace SceneLang.Text

/-- A set of code points: closed ranges, first and last. -/
abbrev Ranges := Array (Nat × Nat)

/-- Whether a character lies in one of the ranges. -/
def Ranges.contains (table : Ranges) (c : Char) : Bool :=
  table.any fun r => r.1 ≤ c.toNat && c.toNat ≤ r.2

end SceneLang.Text
