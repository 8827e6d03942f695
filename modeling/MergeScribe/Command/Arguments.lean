import MergeScribe.Command.Verb

/-!
# Arguments

The command line is read from left to right. A verb comes after the options of the program, and its
own options and operands come after it. The first word that asks for help or for the version, or
that makes no sense, decides.
-/

namespace MergeScribe

/-- What the program is to do. -/
inductive Command where
  | mergeAndLabel (payload : Text)
  | release (payload : Text)
  | closeMilestone (payload : Text)
  | format (file : Text) (check strict : Bool)
  | notes (file tag : Text)
  deriving DecidableEq, Repr

/-- What to do, and with which configuration file. -/
structure Invocation where
  config : Option Text
  command : Command
  deriving DecidableEq, Repr

/-- Why there is nothing to do. -/
inductive Interruption where
  | misuse
  | version (verb : Option Verb)
  | help (verb : Option Verb)
  deriving DecidableEq, Repr

namespace Arguments

/-! ## 1. Words -/

/-- A word of the command line. -/
inductive Word where
  /-- Two hyphens: all words that follow are operands. -/
  | terminator
  | long (name : Text) (attached : Option Text)
  | short (letter : Char)
  | plain (text : Text)
  deriving DecidableEq, Repr

/-- The name of a long option and the value attached to it. -/
def splitLong : Text → Text × Option Text
  | [] => ([], none)
  | '=' :: value => ([], some value)
  | c :: rest => (c :: (splitLong rest).1, (splitLong rest).2)

/-- What kind of word a text is. A hyphen alone is plain. -/
def Word.ofText : Text → Word
  | ['-', '-'] => .terminator
  | '-' :: '-' :: body => .long (splitLong body).1 (splitLong body).2
  | '-' :: c :: _ => .short c
  | t => .plain t

/-- What one of the options that every verb has asks for. -/
def interruption (verb : Option Verb) : Word → Interruption
  | .long name none =>
    if name = "version" then .version verb else if name = "help" then .help verb else .misuse
  | .short letter =>
    if letter = 'V' then .version verb else if letter = 'h' then .help verb else .misuse
  | _ => .misuse

/-! ## 2. The words after a verb -/

/-- What has been given to a verb. -/
structure Given where
  settings : List (Setting × Text)
  operands : List Text
  deriving DecidableEq, Repr

namespace Given

/-- Nothing given. -/
def nothing : Given :=
  ⟨[], []⟩

/-- The value of an option. -/
def setting? (g : Given) (s : Setting) : Option Text :=
  g.settings.lookup s

/-- Whether an option was given. -/
def has (g : Given) (s : Setting) : Bool :=
  (g.setting? s).isSome

/-- Give an option, which must not be given already. -/
def set (g : Given) (s : Setting) (value : Text) : Except Interruption Given :=
  if g.has s || !s.accepts value then .error .misuse
  else .ok { g with settings := (s, value) :: g.settings }

/-- Give the next operand of a verb. -/
def add (g : Given) (v : Verb) (value : Text) : Except Interruption Given :=
  match v.operands[g.operands.length]? with
  | none => .error .misuse
  | some o =>
    if o.accepts value then .ok { g with operands := g.operands ++ [value] }
    else .error .misuse

end Given

/-- Read the words after a verb. The value of an option is attached to it or is the next word, which
then is a plain one. -/
def readVerb (v : Verb) : Given → List Text → Except Interruption Given
  | g, [] => .ok g
  | g, word :: more =>
    match Word.ofText word with
    | .terminator => more.foldlM (fun g operand => g.add v operand) g
    | .plain operand => do readVerb v (← g.add v operand) more
    | .short letter => .error (interruption (some v) (.short letter))
    | .long name attached =>
      match v.setting? name with
      | none => .error (interruption (some v) (.long name attached))
      | some s =>
        if s.takesValue then
          match attached, more with
          | some value, more => do readVerb v (← g.set s value) more
          | none, next :: more =>
            match Word.ofText next with
            | .plain value => do readVerb v (← g.set s value) more
            | _ => .error .misuse
          | none, [] => .error .misuse
        else if attached.isSome then .error .misuse
        else do readVerb v (← g.set s []) more
  termination_by _ words => words.length

/-- What a verb does with what it has been given, if nothing is missing. -/
def command? (v : Verb) (g : Given) : Option Command :=
  let payload := (g.setting? .payload).getD "-"
  match v, g.operands with
  | .mergeAndLabel, _ => some (.mergeAndLabel payload)
  | .release, _ => some (.release payload)
  | .closeMilestone, _ => some (.closeMilestone payload)
  | .format, [file] => some (.format file (g.has .check) (g.has .strict))
  | .notes, [file, tag] => some (.notes file tag)
  | _, _ => none

/-- The configuration file of a level of the command line: the one given there, or the one that the
environment names, which must not be empty. -/
def configFile (environment given : Option Text) : Except Interruption (Option Text) :=
  match given.or environment with
  | none => .ok none
  | some path => if Setting.config.accepts path then .ok (some path) else .error .misuse

/-- Read all that follows a verb: the configuration file if one is given, and the command. -/
def readCommand (environment : Option Text) (v : Verb) (words : List Text) :
    Except Interruption (Option Text × Command) := do
  let given ← readVerb v Given.nothing words
  let config := given.setting? .config
  let _ ← configFile environment config
  match command? v given with
  | some command => return (config, command)
  | none => .error .misuse

/-! ## 3. The words before the verb -/

/-- The configuration file that the program is told of: one that has been looked at, and one that
has not. -/
structure ConfigWords where
  settled : Option Text
  pending : Option Text
  deriving DecidableEq, Repr

/-- Look at the file that has not been looked at. It must be the only one. -/
def ConfigWords.settle (c : ConfigWords) : Except Interruption (Option Text) :=
  match c.settled, c.pending with
  | settled, none => .ok settled
  | none, some path => if Setting.config.accepts path then .ok (some path) else .error .misuse
  | some _, some _ => .error .misuse

/-- What to help with, given the words after `help`. -/
def helpTopic : List Text → Interruption
  | [] => .help none
  | [word] =>
    match Verb.ofName? word with
    | some v => .help (some v)
    | none => if word = "help" then .help none else .misuse
  | _ => .misuse

/-- Read the command line, given the configuration file that the environment names. A file that the
program is told of right before the verb is looked at after all that follows the verb. The one
nearest to the end of the command line counts. -/
def readProgram (environment : Option Text) : ConfigWords → List Text →
    Except Interruption Invocation
  | _, [] => .error .misuse
  | config, word :: more =>
    match Word.ofText word with
    | .terminator => .error .misuse
    | .plain name =>
      match Verb.ofName? name with
      | some v => do
        let (own, command) ← readCommand environment v more
        let settled ← configFile environment (← config.settle)
        return ⟨own.or settled, command⟩
      | none => .error (if name = "help" then helpTopic more else .misuse)
    | .short letter => do
      let _ ← config.settle
      .error (interruption none (.short letter))
    | .long name attached => do
      let settled ← config.settle
      if name = Setting.config.name then
        match attached, more with
        | some path, more =>
          readProgram environment ⟨← ConfigWords.settle ⟨settled, some path⟩, none⟩ more
        | none, next :: more =>
          match Word.ofText next with
          | .plain path => readProgram environment ⟨settled, some path⟩ more
          | _ => .error .misuse
        | none, [] => .error .misuse
      else .error (interruption none (.long name attached))
  termination_by _ words => words.length

/-- Read the command line, given the configuration file that the environment names. -/
def read (environment : Option Text) (words : List Text) : Except Interruption Invocation :=
  readProgram environment ⟨none, none⟩ words

end Arguments

end MergeScribe
