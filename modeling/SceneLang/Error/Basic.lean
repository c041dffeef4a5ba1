import SceneLang.File.Path
import SceneLang.Source.Range

/-!
# Script errors

A script error says what is wrong with a script and where.  Errors that arise while a script runs
have a cause; `ErrorCause` lists the causes.  A cause knows nothing of places: an error starts out
without a range where the place is not known yet, and `ScriptError.located` fills it in further out.
An error in another file is wrapped, with the name and the source of that file.
-/

namespace SceneLang

mutual

/-- **What can go wrong while a script runs.** -/
inductive ErrorCause where
  /-- A name that stands for nothing here; `options` are the names that would have been possible. -/
  | unknownSymbol (name : String) (options : List String)
  | unknownMember (name owner : String) (options : List String)
  | unknownFont (name : String) (options : List String)
  /-- An argument of the wrong kind, at a position counted from zero. -/
  | typeMismatch (command : String) (index : Int) (expected got : String)
  /-- More arguments than the greatest possible number. -/
  | unexpectedArgument (command : String) (most : Int)
  | missingArgument (command : String) (index : Int) (kind : String)
  /-- A value that nothing is done with. -/
  | unusedValue (kind : String)
  | assertionFailure (text : String)
  | fileNotFound (name : String) (place : Option FilePath)
  | fileAccessRestricted (name : String) (place : FilePath)
  | fileTypeMismatch (name : String) (place : FilePath) (expected : Option String)
  | fileParsingError (name : String) (place : FilePath) (text : String)
  /-- An error in another file. -/
  | importedFileError (error : ScriptError) (file source : String)
  /-- A cause that says nothing about itself. -/
  | unspecified

/-- **An error of a script.** -/
inductive ScriptError where
  /-- The text could not be split into words. -/
  | lexer (message : String) (range : SourceRange) (hint : Option String)
  /-- The words do not form a program. -/
  | parser (message : String) (range : SourceRange) (hint : Option String)
  /-- The program could not be run. -/
  | evaluation (cause : ErrorCause) (range : Option SourceRange)
  /-- Something that is no error of a script. -/
  | foreign

end

instance : Inhabited ErrorCause := ⟨.unspecified⟩
instance : Inhabited ScriptError := ⟨.foreign⟩

namespace ScriptError

/-- **Where an error points to.** -/
def range : ScriptError → Option SourceRange
  | .lexer _ r _ | .parser _ r _ => some r
  | .evaluation _ r => r
  | .foreign => none

/-- **Give an error a range**, unless it has one. -/
def located (r : SourceRange) : ScriptError → ScriptError
  | .evaluation cause none => .evaluation cause (some r)
  | e => e

/-- Whether an error wraps an error in another file. -/
def isImported : ScriptError → Bool
  | .evaluation (.importedFileError ..) _ => true
  | _ => false

/-- The stage at which an error arose. -/
def stage : ScriptError → String
  | .lexer .. => "lexer"
  | .parser .. => "parser"
  | .evaluation .. => "runtime"
  | .foreign => "unknown"

end ScriptError

mutual

/-- Whether a cause has a wording. -/
def ErrorCause.isWorded : ErrorCause → Bool
  | .importedFileError error _ _ => error.isWorded
  | .unspecified => false
  | _ => true

/-- **Whether an error has a wording.** -/
def ScriptError.isWorded : ScriptError → Bool
  | .evaluation cause _ => cause.isWorded
  | _ => true

end

end SceneLang
