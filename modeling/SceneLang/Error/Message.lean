import SceneLang.Error.Basic
import SceneLang.Suggestion.Ranking
import SceneLang.Symbol.Standard

/-!
# The wording of errors

Every error has a message, most have a hint, and errors about unknown names have a suggestion where
some name comes close.
-/

namespace SceneLang

/-- The word for a position counted from zero, with a blank after it.  The first position and
positions past the tenth have none. -/
def nth (index : Int) : String :=
  if 1 ≤ index then
    match ordinals[index.toNat]? with
    | some w => w ++ " "
    | none => ""
  else ""

/-- A text as a sentence: it ends in a mark.  The empty text is no sentence. -/
def sentence? (text : String) : Option String :=
  match text.toList.getLast? with
  | none => none
  | some c => if c = '.' ∨ c = '?' ∨ c = '!' then some text else some (text ++ ".")

/-- The hint that offers a suggestion. -/
def didYouMean (name : String) : String := s!"Did you mean '{name}'?"

namespace ErrorCause

/-- **The name that was probably meant.** -/
def suggestion : ErrorCause → Option String
  | .unknownSymbol name options => Suggestion.suggest? name options
  | .unknownMember name _ options => Suggestion.suggest? name options
  | .unknownFont name options => (Suggestion.bestMatches name options).head?
  | _ => none

/-- The hint for an unknown name: whether it is known elsewhere, and what may have been meant. -/
def symbolHint (name : String) (suggestion : Option String) : Option String :=
  let elsewhere :=
    if isStandardName name then [s!"The {name} command is not available in this context."] else []
  match elsewhere ++ (suggestion.map didYouMean).toList with
  | [] => none
  | parts => some (" ".intercalate parts)

/-- The hint for an argument of the wrong kind. -/
def mismatchHint (command : String) (index : Int) (expected got : String) : String :=
  let got := if got.toList.contains ',' then got else "a " ++ got
  s!"The {nth index}argument for {command} should be a {expected}, not {got}."

/-- The hint for too many arguments. -/
def unexpectedHint (command : String) (most : Int) : String :=
  if most = 0 then s!"The {command} command does not expect any arguments."
  else if most = 1 then s!"The {command} command expects only a single argument."
  else s!"The {command} command expects a maximum of {most} arguments."

/-- The hint for a missing argument. -/
def missingHint (command : String) (index : Int) (kind : String) : String :=
  let kind := if kind = "pair" then "number" else kind
  if index = 0 then s!"The {command} command expects an argument of type {kind}."
  else s!"The {command} command expects a {nth index}argument of type {kind}."

end ErrorCause

mutual

/-- **What went wrong**, in one line. -/
def ErrorCause.message : ErrorCause → String
  | .unknownSymbol name _ =>
    if isStandardName name then s!"Unexpected symbol '{name}'" else s!"Unknown symbol '{name}'"
  | .unknownMember name owner _ => s!"Unknown {owner} member property '{name}'"
  | .unknownFont name _ => s!"Unknown font '{name}'"
  | .typeMismatch .. => "Type mismatch"
  | .unexpectedArgument .. => "Unexpected argument"
  | .missingArgument .. => "Missing argument"
  | .unusedValue _ => "Unused value"
  | .assertionFailure _ => "Assertion failure"
  | .fileNotFound name _ => if name = "" then "Empty file name" else s!"File '{name}' not found"
  | .fileAccessRestricted name _ => s!"Unable to access file '{name}'"
  | .fileTypeMismatch name _ _ => s!"Unable to open file '{name}'"
  | .fileParsingError name _ _ => s!"Unable to open file '{name}'"
  | .importedFileError error file _ =>
    -- only the innermost file is named
    if error.isImported then error.message
    else s!"Error in imported file '{file}': " ++ error.message
  | .unspecified => ""

/-- **What went wrong**, in one line. -/
def ScriptError.message : ScriptError → String
  | .lexer m _ _ | .parser m _ _ => m
  | .evaluation cause _ => cause.message
  | .foreign => "Unknown error"

end

mutual

/-- **What can be done about an error.** -/
def ErrorCause.hint : ErrorCause → Option String
  | .unknownSymbol name options =>
    ErrorCause.symbolHint name (ErrorCause.unknownSymbol name options).suggestion
  | .unknownMember name owner options =>
    (ErrorCause.unknownMember name owner options).suggestion.map didYouMean
  | .unknownFont name options => (ErrorCause.unknownFont name options).suggestion.map didYouMean
  | .typeMismatch command index expected got => some (ErrorCause.mismatchHint command index expected got)
  | .unexpectedArgument command most => some (ErrorCause.unexpectedHint command most)
  | .missingArgument command index kind => some (ErrorCause.missingHint command index kind)
  | .unusedValue kind => some s!"A {kind} value was not expected in this context."
  | .assertionFailure text => sentence? text
  | .fileNotFound _ place => place.map fun p =>
    s!"ShapeScript expected to find the file at '{p.text}'. "
      ++ "Check that it exists and is located here."
  | .fileAccessRestricted _ place => some (
    s!"ShapeScript cannot read the file at '{place.text}'. "
      ++ "Check the permissions of the file and its directory.")
  | .fileTypeMismatch _ place none =>
    some s!"The type of file at '{place.text}' is not supported."
  | .fileTypeMismatch _ place (some expected) =>
    some s!"The file at '{place.text}' is not a {expected} file."
  | .fileParsingError _ _ text => sentence? text
  | .importedFileError error _ _ => error.hint
  | .unspecified => none

/-- **What can be done about an error.** -/
def ScriptError.hint : ScriptError → Option String
  | .lexer _ _ h | .parser _ _ h => h
  | .evaluation cause _ => cause.hint
  | .foreign => none

end

/-- **The name that was probably meant.** -/
def ScriptError.suggestion : ScriptError → Option String
  | .evaluation cause _ => cause.suggestion
  | _ => none

end SceneLang
