/-!
# Documents

Programs, geometry files and answers are JSON documents.  A document keeps what the text says: a
whole number and a fraction are different values even when they are equal as numbers, whole numbers
have any size, and the fields of an object stay in the order in which they were first written.
-/

namespace SceneLang

/-- **A JSON document.** -/
inductive Json where
  | null
  | bool (b : Bool)
  | int (n : Int)
  | float (x : Float)
  | str (s : String)
  | arr (items : List Json)
  | obj (fields : List (String × Json))
  deriving Inhabited

namespace Json

/-- Set a field: a name that is there already keeps its place and takes the new value. -/
def setField (name : String) (value : Json) : List (String × Json) → List (String × Json)
  | [] => [(name, value)]
  | (n, v) :: rest =>
    if n = name then (n, value) :: rest else (n, v) :: setField name value rest

/-- **The value of a field** of an object; `none` for other documents. -/
def get? (name : String) : Json → Option Json
  | .obj fields => fields.lookup name
  | _ => none

/-- The value of a field of an object, with a value for when it is missing. -/
def getD (j : Json) (name : String) (default : Json) : Json :=
  (j.get? name).getD default

/-- Whether a document is an object. -/
def isObject : Json → Bool
  | .obj _ => true
  | _ => false

/-- **Whether a document counts as present**: null, false, zero and everything empty do not. -/
def isPresent : Json → Bool
  | .null => false
  | .bool b => b
  | .int n => n != 0
  | .float x => !(x == 0)
  | .str s => !s.isEmpty
  | .arr items => !items.isEmpty
  | .obj fields => !fields.isEmpty

/-- The characters of a text, each a text of its own. -/
def ofChars (s : String) : List Json :=
  s.toList.map fun c => .str (String.singleton c)

/-- **The parts of a document, one after the other**: the items of a list, the characters of a text
or the field names of an object.  Nothing else has parts. -/
def parts? : Json → Option (List Json)
  | .arr items => some items
  | .str s => some (ofChars s)
  | .obj fields => some (fields.map fun f => .str f.1)
  | _ => none

/-- An optional text: null when there is none. -/
def ofText? : Option String → Json
  | some s => .str s
  | none => .null

end Json

end SceneLang
