import SceneLang.Fault

/-!
# Ranges of numbers

A range runs from its start in steps until it passes its end, which belongs to it when a step lands
there.  Item `i` is computed from the start, so rounding does not add up.  The items are written over
any type of numbers; scripts use doubles.
-/

namespace SceneLang

/-- Counts as doubles. -/
instance instNatCastFloat : NatCast Float := ⟨Float.ofNat⟩

/-- **A range of numbers.** -/
structure NumberRange (α : Type) where
  start : α
  stop : α
  step : α
  deriving Repr, DecidableEq, Inhabited

namespace NumberRange

variable {α : Type} [Add α] [Mul α] [NatCast α] [OfNat α 0] [LT α] [DecidableLT α]

/-- Whether a number lies beyond the end, in the direction of the steps. -/
def passes (r : NumberRange α) (value : α) : Bool :=
  (decide (0 < r.step) && decide (r.stop < value))
    || (decide (r.step < 0) && decide (value < r.stop))

/-- **Item `i` of a range**, counted from zero; none once the end is passed. -/
def item? (r : NumberRange α) (i : Nat) : Option α :=
  let value := r.start + r.step * (i : α)
  if r.passes value then none else some value

/-- The items of a range from `i` on, at most `limit` of them. -/
def itemsFrom (r : NumberRange α) : Nat → Nat → List α
  | 0, _ => []
  | limit + 1, i =>
    match r.item? i with
    | none => []
    | some x => x :: itemsFrom r limit (i + 1)

/-- The items of a range, at most `limit` of them. -/
def items (r : NumberRange α) (limit : Nat) : List α := r.itemsFrom limit 0

/-- **The range with the given bounds**; a step of zero is refused. -/
def ofBounds [BEq α] (start stop step : α) : Except Fault (NumberRange α) :=
  if step == 0 then .error (.invalid .zeroStep) else .ok ⟨start, stop, step⟩

end NumberRange

end SceneLang
