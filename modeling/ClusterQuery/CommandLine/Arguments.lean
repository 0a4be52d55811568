import ClusterQuery.CommandLine.Options

/-!
Reading arguments. Words that begin with a minus sign are options, until two of them stand alone. A word where
no value is awaited and no word of a query stands before it may be a command; what follows belongs to that
command. A value is looked at when the next option or word of a query comes.
-/

namespace ClusterQuery

namespace CommandLine

/-- What the next argument may be. -/
inductive Expecting where
  /-- A command, an option or a word. -/
  | anything
  /-- The value of a setting. -/
  | value (s : Setting)
  /-- A further word, or an option. -/
  | words
  /-- Words only. -/
  | onlyWords

/-- How far a command has been read. -/
structure Reading where
  /-- Whether this is the main command, which has commands of its own and takes words. -/
  inMain : Bool
  given : Given := {}
  words : List String := []
  expecting : Expecting := .anything
  /-- A setting whose value has not been looked at. -/
  pending : Option (Setting × Option String) := none

namespace Reading

/-- Looks at the value that has not been looked at. -/
def settle (r : Reading) : Except Halt Reading :=
  match r.pending with
  | none => .ok r
  | some (_, none) => .error .invalidValue
  | some (s, some value) => do
    let given ← r.given.set s value
    return { r with given, pending := none }

/-- Takes an option and the value that is written together with it. -/
def takeFlag (r : Reading) (flag : Flag) (attached : Option String) : Except Halt Reading :=
  match flag, attached with
  | .setting s, some value => do
    let r ← r.settle
    return { r with given := ← r.given.set s value, expecting := .anything }
  | .setting s, none => do
    let r ← r.settle
    return { r with pending := some (s, none), expecting := .value s }
  | .switch _, some _ | .help, some _ | .version, some _ => .error .unneededValue
  | .switch s, none => do
    let r ← r.settle
    return { r with given := ← r.given.switch s, expecting := .anything }
  | .help, none => do
    let _ ← r.settle
    .error .help
  | .version, none => do
    let _ ← r.settle
    .error .version

/-- Takes the letters after a minus sign. What follows the letter of a setting is its value, perhaps after an
    equals sign. -/
def takeLetters (r : Reading) : List Char → Except Halt Reading
  | [] => .ok r
  | c :: cs =>
    match Flag.short? r.inMain c with
    | none => .error .unknownArgument
    | some (.setting s) =>
      match cs with
      | [] => r.takeFlag (.setting s) none
      | d :: value => r.takeFlag (.setting s) (some (String.ofList (if d = '=' then value else d :: value)))
    | some flag => do
      let r ← r.takeFlag flag none
      r.takeLetters cs

/-- Takes the name after two minus signs and the value after an equals sign. -/
def takeName (r : Reading) (cs : List Char) : Except Halt Reading :=
  let (name, attached) := match splitFirst (· == '=') cs with
    | some (name, value) => (name, some (String.ofList value))
    | none => (cs, none)
  match Flag.long? r.inMain (String.ofList name) with
  | some flag => r.takeFlag flag attached
  | none => .error .unknownArgument

/-- Takes a word of the query. -/
def takeWord (r : Reading) (word : String) : Except Halt Reading :=
  if r.inMain then do
    let r ← r.settle
    let expecting := match r.expecting with
      | .onlyWords => .onlyWords
      | _ => .words
    return { r with words := r.words ++ [word], expecting }
  else .error .unknownArgument

/-- Takes an argument that is no command. -/
def takeArgument (r : Reading) (argument : String) : Except Halt Reading :=
  match r.expecting, argument.toList with
  | .onlyWords, _ => r.takeWord argument
  | _, ['-', '-'] => .ok { r with expecting := .onlyWords }
  | _, '-' :: '-' :: cs => r.takeName cs
  | .value s, ['-'] => .ok { r with pending := some (s, some argument), expecting := .anything }
  | _, ['-'] => r.takeWord argument
  | _, '-' :: cs => r.takeLetters cs
  | .value s, _ => .ok { r with pending := some (s, some argument), expecting := .anything }
  | _, _ => r.takeWord argument

/-- Whether the next argument may be a command. -/
def awaitsCommand (r : Reading) : Bool :=
  r.inMain &&
    match r.expecting with
    | .anything => true
    | _ => false

/-- Ends a command. The file that the environment names is looked at where no other is given. -/
def finish (settingsFile : Option String) (r : Reading) : Except Halt Given := do
  let r ← r.settle
  if r.given.settingsFile.isNone && settingsFile == some "" then .error .invalidValue
  else return r.given

end Reading

/-- What the words after `help` lead to: they name a command. -/
def helpFor : List String → Halt
  | [] | ["version"] | ["help"] => .help
  | _ => .unknownCommand

/-- Reads the arguments of a command that is no main command. -/
def readArguments (settingsFile : Option String) (r : Reading) : List String → Except Halt Given
  | [] => r.finish settingsFile
  | argument :: rest => do
    let r ← r.takeArgument argument
    readArguments settingsFile r rest

/-- Reads the arguments of the main command. -/
def readMain (settingsFile : Option String) (r : Reading) : List String → Except Halt Options
  | [] => do
    let given ← r.finish settingsFile
    return .ofGiven .query r.words settingsFile given
  | argument :: rest =>
    if r.awaitsCommand && argument == "help" then .error (helpFor rest)
    else if r.awaitsCommand && argument == "version" then do
      let inner ← readArguments settingsFile { inMain := false } rest
      let outer ← r.finish settingsFile
      return .ofGiven .version r.words settingsFile (outer.within inner)
    else do
      let r ← r.takeArgument argument
      readMain settingsFile r rest

/-- The options of a command line; `settingsFile` is the file that the environment names. -/
def parse (settingsFile : Option String) (arguments : List String) : Except Halt Options :=
  readMain settingsFile { inMain := true } arguments

end CommandLine

end ClusterQuery
