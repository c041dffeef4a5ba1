import SceneLang.Text.Digit

/-!
# The words of a command line

A word of a command line is an operand, the divider `--`, or an option.  An option can be shortened
as long as it stays unambiguous, can have a value attached to it, and single letters can be written
in one word.  What counts as an option depends on the options that a command has, but all words are
sorted before any of them is used.
-/

namespace SceneLang.CommandLine

/-- **The options.** -/
inductive Flag where
  | help
  | verbose
  | baseDirectory
  | font
  | output
  deriving Repr, DecidableEq, Inhabited

/-- Whether an option needs a value. -/
def Flag.takesValue : Flag → Bool
  | .help | .verbose => false
  | .baseDirectory | .font | .output => true

/-- How the options of a command are written. -/
abbrev Spellings := List (String × Flag)

/-- **Why a command line does nothing.** -/
inductive Stop where
  /-- Help was asked for. -/
  | help
  /-- The words make no sense. -/
  | misuse
  deriving Repr, DecidableEq, Inhabited

/-- The exit code of a command line that does nothing. -/
def Stop.code : Stop → Nat
  | .help => 0
  | .misuse => 2

/-- **What a word is.** -/
inductive Word where
  | operand (text : String)
  | divider
  /-- An option, with one dash or two, and the value that is part of the word. -/
  | option (flag : Flag) (isShort : Bool) (attached : Option (List Char))
  /-- It looks like an option, but there is none of this name. -/
  | unknown
  deriving Repr, DecidableEq, Inhabited

/-- Whether a spelling has a single dash. -/
def isShort (spelling : String) : Bool :=
  match spelling.toList with
  | '-' :: '-' :: _ => false
  | _ => true

/-- A word before and after its first equals sign. -/
def splitEquals : List Char → List Char × Option (List Char)
  | [] => ([], none)
  | c :: rest =>
    if c = '=' then ([], some rest)
    else
      let (before, after) := splitEquals rest
      (c :: before, after)

/-- Whether characters are one or more digits. -/
def allDigits (s : List Char) : Bool :=
  !s.isEmpty && s.all fun c => (Text.digitValue? c).isSome

/-- A word without the line feed at its end. -/
def withoutFinalBreak (word : List Char) : List Char :=
  if word.getLast? = some '\n' then word.dropLast else word

/-- Whether a word is a negative number, which is no option.  A line feed at its end does not
count. -/
def isNegativeNumber (word : List Char) : Bool :=
  match withoutFinalBreak word with
  | '-' :: rest =>
    let whole := rest.takeWhile (· ≠ '.')
    match rest.dropWhile (· ≠ '.') with
    | [] => allDigits rest
    | _ :: fraction => allDigits fraction && (whole.isEmpty || allDigits whole)
  | _ => false

/-- The readings of a word with two dashes: every option that it is the beginning of. -/
def longReadings (spellings : Spellings) (word : List Char) : List Word :=
  let (name, value) := splitEquals word
  (spellings.filter fun s => name.isPrefixOf s.1.toList).map fun s =>
    .option s.2 (isShort s.1) value

/-- The readings of a word with one dash: the option of its first letter, with a value. -/
def shortReadings (spellings : Spellings) (word : List Char) : List Word :=
  (spellings.filter fun s => s.1.toList = word.take 2).map fun s =>
    .option s.2 true (some (word.drop 2))

/-- A word that is the spelling of an option, or one with a value after an equals sign. -/
def exactReading? (spellings : Spellings) (word : List Char) : Option Word :=
  match spellings.find? fun s => s.1.toList = word with
  | some s => some (.option s.2 (isShort s.1) none)
  | none =>
    match splitEquals word with
    | (name, some value) =>
      (spellings.find? fun s => s.1.toList = name).map fun s =>
        .option s.2 (isShort s.1) (some value)
    | _ => none

/-- **What a word is** that stands before any divider. -/
def sortWord (spellings : Spellings) (text : String) : Except Stop Word :=
  match text.toList with
  | '-' :: c :: rest =>
    let word := '-' :: c :: rest
    match exactReading? spellings word with
    | some w => .ok w
    | none =>
      let readings := if c = '-' then longReadings spellings word else shortReadings spellings word
      match readings with
      | [w] => .ok w
      | _ :: _ :: _ => .error .misuse
      | [] =>
        if isNegativeNumber word || word.contains ' ' then .ok (.operand text) else .ok .unknown
  | _ => .ok (.operand text)

/-- **Sort the words of a command line.**  Everything after the divider is an operand. -/
def sortWords (spellings : Spellings) : List String → Except Stop (List Word)
  | [] => .ok []
  | text :: rest =>
    if text = "--" then .ok (.divider :: rest.map .operand)
    else do
      let w ← sortWord spellings text
      let ws ← sortWords spellings rest
      return w :: ws

end SceneLang.CommandLine
