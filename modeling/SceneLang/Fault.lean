import SceneLang.Json.Literal
import SceneLang.Json.Reader
import SceneLang.Text.Utf8

/-!
# Faults

A script that goes wrong ends in a script error, which points into the script.  A *fault* is
everything else that can stop an operation: a document that is not what it should be, a file that
cannot be read, a matrix of the wrong shape.  `Fault` says which; `Invalid` lists the causes that
carry a wording of their own, and `Invalid.message` is the only place where they are worded.
-/

namespace SceneLang

/-- The part of a geometry node that could not be used. -/
inductive BrokenPart where
  /-- A value of a kind that cannot be used there. -/
  | wrongKind
  /-- A field that has to be there is missing. -/
  | missingKey
  /-- A value without fields where an object is needed. -/
  | notObject
  deriving Repr, DecidableEq

/-- **Why a value was refused.** -/
inductive Invalid where
  /-- A text that is no number. -/
  | notNumber (text : String)
  -- programs
  | programNotObject
  | sourceNotText
  | statementsNotList
  | notStatement (got : Json)
  | notExpression (got : Json)
  | notObject (got : Json)
  | unknownStatement (kind : Json)
  | unknownExpression (kind : Json)
  | badRange (bounds : Json)
  | badColor (value : Json)
  | missingField (name : String)
  | notPrefixOperator (operator : Json)
  | notInfixOperator (operator : Json)
  -- geometry
  | notNode (got : Json)
  | nodeWithoutKind
  | unknownNodeKind (kind : Json)
  | brokenNode (part : BrokenPart)
  | documentNotObject
  | unsupportedSchema (schema : Json)
  | childrenNotList
  | documentText (fault : Json.TextFault)
  -- numbers and matrices
  | zeroStep
  | tooManyAngles (count : Nat)
  | endlessAngle
  | noNumbers (command : String)
  | notPair (count : Nat)
  | raggedMatrix (shape : List Nat)
  | productShape (left right : Nat)
  | broadcastShape (shape : List Nat)
  -- files and hosts
  | nullByte
  | hostRefusal (text : String)
  deriving Inhabited

/-- **Why a file could not be used.** -/
inductive FileFault where
  | notFound (path : String)
  | isDirectory (path : String)
  | notDirectory (path : String)
  | nameTooLong (path : String)
  | noPermission (text : String)
  | other (text : String)
  deriving Repr, DecidableEq

/-- **What can stop an operation** other than an error of the script. -/
inductive Fault where
  | invalid (cause : Invalid)
  | undecodable (error : Text.Utf8Error)
  | malformedText (error : Json.TextError)
  | wrongKind
  | missingKey
  | noSuchField
  | tooLarge
  | outOfBounds
  | notImplemented
  | file (fault : FileFault)
  deriving Inhabited

/-! ### Wording -/

/-- The lengths of a shape, as messages show them. -/
def shapeText : List Nat → String
  | [n] => s!"({n},)"
  | ns => "(" ++ String.intercalate "," (ns.map toString) ++ ")"

/-- The lengths of a detected shape, as messages show them. -/
def detectedShapeText : List Nat → String
  | [n] => s!"({n},)"
  | ns => "(" ++ String.intercalate ", " (ns.map toString) ++ ")"

/-- The word for a broken part. -/
def BrokenPart.word : BrokenPart → String
  | .wrongKind => "TypeError"
  | .missingKey => "KeyError"
  | .notObject => "AttributeError"

/-- **The wording of a refusal.** -/
def Invalid.message : Invalid → String
  | .notNumber text => "could not convert string to float: " ++ Text.quoted text
  | .programNotObject => "program document must be an object"
  | .sourceNotText => "program source must be a string"
  | .statementsNotList => "program statements must be a list"
  | .notStatement got => "expected a statement object, got " ++ got.literal
  | .notExpression got => "expected an expression object, got " ++ got.literal
  | .notObject got => "expected an object, got " ++ got.literal
  | .unknownStatement kind => "unknown statement type: " ++ kind.literal
  | .unknownExpression kind => "unknown expression type: " ++ kind.literal
  | .badRange bounds => "invalid range: " ++ bounds.literal
  | .badColor value => "invalid color: " ++ value.literal
  | .missingField name => s!"missing field '{name}'"
  | .notPrefixOperator operator => operator.literal ++ " is not a valid PrefixOperator"
  | .notInfixOperator operator => operator.literal ++ " is not a valid InfixOperator"
  | .notNode got => "invalid geometry node: expected an object, got " ++ got.kindWord
  | .nodeWithoutKind => "invalid geometry node: 'type'"
  | .unknownNodeKind kind =>
    "invalid geometry node: " ++ kind.literal ++ " is not a valid GeometryType"
  | .brokenNode part => "invalid geometry node: " ++ part.word
  | .documentNotObject => "Geometry document must be an object"
  | .unsupportedSchema schema => s!"Unsupported schema '{schema.text}'"
  | .childrenNotList => "Geometry children must be a list"
  | .documentText fault => "Invalid JSON: " ++ fault.message
  | .zeroStep => "range step must be nonzero"
  | .tooManyAngles count => s!"expected at most 3 rotation components, got {count}"
  | .endlessAngle => "math domain error"
  | .noNumbers command => s!"{command}() arg is an empty sequence"
  | .notPair count =>
    if count < 2 then s!"not enough values to unpack (expected 2, got {count})"
    else "too many values to unpack (expected 2)"
  | .raggedMatrix shape =>
    "setting an array element with a sequence. The requested array has an inhomogeneous shape "
      ++ s!"after {shape.length} dimensions. The detected shape was {detectedShapeText shape} "
      ++ "+ inhomogeneous part."
  | .productShape left right =>
    "matmul: Input operand 1 has a mismatch in its core dimension 0, with gufunc signature "
      ++ s!"(n?,k),(k,m?)->(n?,m?) (size {right} is different from {left})"
  | .broadcastShape shape =>
    s!"operands could not be broadcast together with shapes {shapeText shape} (3,3) "
  | .nullByte => "embedded null byte"
  | .hostRefusal text => text

/-- **The wording of a failure to use a file.** -/
def FileFault.message : FileFault → String
  | .notFound path => "[Errno 2] No such file or directory: " ++ Text.quoted path
  | .isDirectory path => "[Errno 21] Is a directory: " ++ Text.quoted path
  | .notDirectory path => "[Errno 20] Not a directory: " ++ Text.quoted path
  | .nameTooLong path => "[Errno 36] File name too long: " ++ Text.quoted path
  | .noPermission text => text
  | .other text => text

/-- The wording of a fault that says a value is not usable, whatever refused it. -/
def Fault.refusal? : Fault → Option String
  | .invalid cause => some cause.message
  | .undecodable error => some error.message
  | .malformedText error => some error.message
  | _ => none

end SceneLang
