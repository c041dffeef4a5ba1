import SceneLang.CommandLine.Words

/-!
# What a command line asks for

There are two commands.  `check` reads a program and `run` runs one, with options for the directory
that imports are taken from, the fonts that can be used and the file to write the scene to.
-/

namespace SceneLang.CommandLine

/-- **How a program is to be run.** -/
structure RunRequest where
  file : String
  baseDirectory : Option String := none
  fonts : Option (List String) := none
  output : Option String := none
  deriving Repr, DecidableEq, Inhabited

/-- **What a command line asks for.** -/
inductive Request where
  | check (file : String)
  | run (request : RunRequest)
  deriving Repr, DecidableEq, Inhabited

/-- The options before the command. -/
def mainSpellings : Spellings :=
  [("-h", .help), ("--help", .help), ("-v", .verbose), ("--verbose", .verbose)]

/-- The options of `check`. -/
def checkSpellings : Spellings := [("-h", .help), ("--help", .help)]

/-- The options of `run`. -/
def runSpellings : Spellings :=
  [("-h", .help), ("--help", .help), ("--base-dir", .baseDirectory), ("--font", .font),
    ("-o", .output), ("--output", .output)]

/-! ### Options -/

/-- An option that was given, with its value. -/
structure Given where
  flag : Flag
  value : String := ""
  deriving Repr, DecidableEq, Inhabited

/-- **The options in one word.**  A letter that takes no value can be followed by the letters of
other options, of which each has to be known; an option that takes a value takes the rest of the
word, or the next word when nothing is left.  The result also has the words that are left. -/
def readOption (spellings : Spellings) (rest : List Word) (flag : Flag) (isShort : Bool) :
    Option (List Char) → Except Stop (List Given × List Word)
  | none =>
    if flag.takesValue then
      match rest with
      | .operand value :: rest => .ok ([⟨flag, value⟩], rest)
      | _ => .error .misuse
    else .ok ([⟨flag, ""⟩], rest)
  | some value =>
    if flag.takesValue then .ok ([⟨flag, String.ofList value⟩], rest)
    else if isShort then
      match value with
      | [] => .error .misuse
      | c :: more =>
        match spellings.find? fun s => s.1.toList = ['-', c] with
        | none => .error .misuse
        | some s => do
          let attached := if more = [] then none else some more
          let (given, rest) ← readOption spellings rest s.2 true attached
          return (⟨flag, ""⟩ :: given, rest)
    else .error .misuse
  termination_by attached => (attached.map (·.length + 1)).getD 0
  decreasing_by
    simp_wf
    split <;> simp_all

/-- An option takes words away and never adds any. -/
theorem readOption_length {spellings : Spellings} {rest : List Word} {flag : Flag} {short : Bool}
    {attached : Option (List Char)} {given : List Given} {left : List Word}
    (h : readOption spellings rest flag short attached = .ok (given, left)) :
    left.length ≤ rest.length := by
  fun_induction readOption spellings rest flag short attached generalizing given left with
  | case1 => simp_all
  | case2 => simp_all
  | case3 => simp_all
  | case4 => simp_all
  | case5 => simp_all
  | case6 => simp_all
  | case7 =>
    rename_i ih
    simp only [bind, Except.bind] at h
    split at h
    · simp at h
    · rename_i result hr
      simp only [pure, Except.pure, Except.ok.injEq, Prod.mk.injEq] at h
      obtain ⟨-, rfl⟩ := h
      exact ih hr
  | case8 => simp_all

/-! ### Commands -/

/-- What has been read of the words after a command. -/
structure Progress where
  request : RunRequest
  hasFile : Bool := false
  /-- Whether there was a word that has no place. -/
  hasExtra : Bool := false

/-- Take an option into account. -/
def Progress.take (p : Progress) (g : Given) : Except Stop Progress :=
  let q := p.request
  match g.flag with
  | .help => .error .help
  | .verbose => .ok p
  | .baseDirectory => .ok { p with request := { q with baseDirectory := some g.value } }
  | .font => .ok { p with request := { q with fonts := some (q.fonts.getD [] ++ [g.value]) } }
  | .output => .ok { p with request := { q with output := some g.value } }

/-- Take options into account, in order. -/
def Progress.takeAll (p : Progress) : List Given → Except Stop Progress
  | [] => .ok p
  | g :: rest => do (← p.take g).takeAll rest

/-- Take the file, or note an operand too many. -/
def Progress.takeOperand (p : Progress) (text : String) : Progress :=
  if p.hasFile then { p with hasExtra := true }
  else { p with request := { p.request with file := text }, hasFile := true }

/-- **Read the words after a command**: one file, and options anywhere.  A divider belongs to the
file next to it. -/
def readWords (spellings : Spellings) (p : Progress) (words : List Word) : Except Stop Progress :=
  match words with
  | [] => .ok p
  | .operand text :: .divider :: rest => readWords spellings (p.takeOperand text) rest
  | .operand text :: rest => readWords spellings (p.takeOperand text) rest
  | .divider :: rest =>
    readWords spellings (if p.hasFile then { p with hasExtra := true } else p) rest
  | .unknown :: rest => readWords spellings { p with hasExtra := true } rest
  | .option flag isShort attached :: rest =>
    match h : readOption spellings rest flag isShort attached with
    | .error stop => .error stop
    | .ok (given, left) => do
      let p ← p.takeAll given
      have := readOption_length h
      readWords spellings p left
  termination_by words.length

/-- The request of the words after a command. -/
def readRequest (spellings : Spellings) (arguments : List String) (isKnown : Bool) :
    Except Stop RunRequest := do
  let words ← sortWords spellings arguments
  let p ← readWords spellings { request := { file := "" } } words
  if p.hasFile && !p.hasExtra && isKnown then return p.request else throw .misuse

/-- **Read a command and the words after it.**  `isKnown` says that all options before the command
were known; if not, the command line is still read to its end, where help can be asked for. -/
def readCommand (name : String) (arguments : List String) (isKnown : Bool) :
    Except Stop Request :=
  if name = "check" then
    (readRequest checkSpellings arguments isKnown).map fun r => .check r.file
  else if name = "run" then (readRequest runSpellings arguments isKnown).map .run
  else .error .misuse

/-- Read the options before the command, which is the first operand. -/
def readMain (isKnown : Bool) (arguments : List String) (words : List Word) :
    Except Stop Request :=
  match words, arguments with
  | .operand name :: _, _ :: rest => readCommand name rest isKnown
  | .unknown :: words, _ :: rest => readMain false rest words
  | .option flag isShort attached :: words, _ :: rest => do
    let (given, _) ← readOption mainSpellings words flag isShort attached
    let _ ← ({ request := { file := "" } } : Progress).takeAll given
    readMain isKnown rest words
  | _, _ => .error .misuse

/-- **What a command line asks for.** -/
def readArguments (arguments : List String) : Except Stop Request := do
  let words ← sortWords mainSpellings arguments
  readMain true arguments words

end SceneLang.CommandLine
