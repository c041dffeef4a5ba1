import SceneLang.Geometry.Node
import SceneLang.Value.Kind
import SceneLang.Value.Range

/-!
# Values

What an expression of a script evaluates to.  Tuples hold values; the empty tuple is also the result
of a command that has none.  Members of a value are looked up by name; a tuple of numbers offers, by
its length, the members of a vector, of a size and of a colour besides its positions.
-/

namespace SceneLang

/-- **A value of a script.** -/
inductive Value where
  | number (x : Float)
  | string (s : Option String)
  | color (c : Color Float)
  | texture (t : Option Texture)
  | vector (v : Vec3 Float)
  | size (v : Vec3 Float)
  | path (p : Path)
  | mesh (n : Node)
  | point (p : PathPoint)
  | range (r : NumberRange Float)
  | tuple (items : List Value)
  deriving Inhabited

namespace Value

/-- **The kind of a value.** -/
def kind : Value → Kind
  | .number _ => .number
  | .string _ => .string
  | .color _ => .color
  | .texture _ => .texture
  | .vector _ => .vector
  | .size _ => .size
  | .path _ => .path
  | .mesh _ => .mesh
  | .point _ => .point
  | .range _ => .range
  | .tuple _ => .tuple

/-- The result of a command that has none. -/
def void : Value := .tuple []

/-- The number that a value is. -/
def number? : Value → Option Float
  | .number x => some x
  | _ => none

/-- The path that a value is. -/
def path? : Value → Option Path
  | .path p => some p
  | _ => none

/-- The node that a value is. -/
def mesh? : Value → Option Node
  | .mesh n => some n
  | _ => none

/-- **The numbers of a list of values**, if all of them are numbers. -/
def numbers? (vs : List Value) : Option (List Float) := vs.mapM number?

/-! ### Tuples -/

mutual

/-- **A value without one-element tuples**: each is replaced by its element, at every depth. -/
def unwrap : Value → Value
  | .tuple [v] => unwrap v
  | .tuple vs => .tuple (unwrapAll vs)
  | v => v

/-- Every value of a list without one-element tuples. -/
def unwrapAll : List Value → List Value
  | [] => []
  | v :: rest => unwrap v :: unwrapAll rest

end

/-- The elements of a tuple; any other value is its own only element. -/
def elements : Value → List Value
  | .tuple vs => vs
  | v => [v]

mutual

/-- **The leaves of a value**: what is left, in order, when all tuples are opened. -/
def leaves : Value → List Value
  | .tuple vs => leavesAll vs
  | v => [v]

/-- The leaves of a list of values. -/
def leavesAll : List Value → List Value
  | [] => []
  | v :: rest => leaves v ++ leavesAll rest

end

/-! ### Members -/

/-- The names of the components of a vector. -/
def vectorMembers : List String := ["x", "y", "z"]

/-- The names of the components of a size. -/
def sizeMembers : List String := ["width", "height", "depth"]

/-- The names of the components of a colour. -/
def colorMembers : List String := ["red", "green", "blue", "alpha"]

/-- The names of the parts of a range. -/
def rangeMembers : List String := ["start", "end", "step"]

/-- The value at the position of a name in a list of names. -/
def memberAt? (names : List String) (values : List Float) (name : String) : Option Value :=
  (names.zip values).lookup name |>.map .number

/-- **The names that can be asked of a value.** -/
def members : Value → List String
  | .vector _ => vectorMembers
  | .size _ => sizeMembers
  | .color _ => colorMembers
  | .range _ => rangeMembers
  | .tuple vs =>
    let positions := ordinals.take vs.length
    match numbers? vs with
    | some _ =>
      positions
        ++ (if vs.length < 5 then colorMembers else [])
        ++ (if vs.length < 4 then vectorMembers ++ sizeMembers else [])
    | none =>
      match vs with
      | [v] => positions ++ members v
      | _ => positions
  | _ => []

/-- The members of a tuple of numbers, besides its positions. -/
def numbersMember? (xs : List Float) (name : String) : Option Value :=
  if vectorMembers.contains name then
    if xs.length < 4 then memberAt? vectorMembers (Vec3.ofComponents xs).toList name else none
  else if sizeMembers.contains name then
    if xs.length < 4 then memberAt? sizeMembers (Vec3.size xs).toList name else none
  else if colorMembers.contains name then
    if xs.length < 5 then memberAt? colorMembers (Color.unchecked xs).toList name else none
  else none

/-- **The member of a value with a given name.** -/
def member? (name : String) : Value → Option Value
  | .vector v => memberAt? vectorMembers v.toList name
  | .size v => memberAt? sizeMembers v.toList name
  | .color c => memberAt? colorMembers c.toList name
  | .range r => memberAt? rangeMembers [r.start, r.stop, r.step] name
  | .tuple vs =>
    match ordinalIndex? name with
    | some i => vs[i]?
    | none =>
      match numbers? vs with
      | some xs => numbersMember? xs name
      | none =>
        match vs with
        | [v] => member? name v
        | _ => none
  | _ => none

end Value

end SceneLang
