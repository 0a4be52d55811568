import ClusterQuery.Report.Basic

/-!
The options of the command line, as they are given and with their defaults.
-/

namespace ClusterQuery

namespace CommandLine

/-- What is wrong with the arguments, or what they ask for instead. -/
inductive Halt where
  | help
  | version
  /-- A value is missing, or is none of those that are possible. -/
  | invalidValue
  /-- A value is no number in range. -/
  | invalidNumber
  | unknownArgument
  | unknownCommand
  /-- An option is given twice. -/
  | repeated
  /-- An option that takes no value has one. -/
  | unneededValue
deriving DecidableEq

/-- Options without values. -/
inductive Switch where
  | noHeaders | allNamespaces
deriving DecidableEq

/-- Options with values. -/
inductive Setting where
  | output | debug | kubeconfig | context | namespace | settingsFile
deriving DecidableEq

inductive Flag where
  | switch (s : Switch)
  | setting (s : Setting)
  | help
  | version
deriving DecidableEq

namespace Flag

/-- The option with a long name. The version belongs to the main command. -/
def long? (inMain : Bool) (name : String) : Option Flag :=
  match name with
  | "output" => some (.setting .output)
  | "no-headers" => some (.switch .noHeaders)
  | "debug" => some (.setting .debug)
  | "kubeconfig" => some (.setting .kubeconfig)
  | "context" => some (.setting .context)
  | "namespace" => some (.setting .namespace)
  | "all-namespaces" => some (.switch .allNamespaces)
  | "sql-config" => some (.setting .settingsFile)
  | "help" => some .help
  | "version" => if inMain then some .version else none
  | _ => none

/-- The option with a letter. -/
def short? (inMain : Bool) (letter : Char) : Option Flag :=
  match letter with
  | 'o' => some (.setting .output)
  | 'H' => some (.switch .noHeaders)
  | 'n' => some (.setting .namespace)
  | 'A' => some (.switch .allNamespaces)
  | 'q' => some (.setting .settingsFile)
  | 'h' => some .help
  | 'V' => if inMain then some .version else none
  | _ => none

end Flag

/-- The options that a command was given. -/
structure Given where
  output : Option Format := none
  noHeaders : Bool := false
  debug : Option Nat := none
  kubeconfig : Option String := none
  context : Option String := none
  namespaceName : Option String := none
  allNamespaces : Bool := false
  settingsFile : Option String := none
deriving DecidableEq

/-- The largest level of debugging. -/
def debugLimit : Int := 255

def readDebug (value : String) : Except Halt Nat :=
  match readInt64? value.toList with
  | some n => if 0 ≤ n.toInt ∧ n.toInt ≤ debugLimit then .ok n.toInt.toNat else .error .invalidNumber
  | none => .error .invalidNumber

def readFormat (value : String) : Except Halt Format :=
  match Format.named? value with
  | some f => .ok f
  | none => .error .invalidValue

/-- The name of a file is not empty. -/
def readFile (value : String) : Except Halt String := if value = "" then .error .invalidValue else .ok value

/-- A value that was not given before. -/
def once {α : Type} (before : Option α) (value : Except Halt α) : Except Halt (Option α) :=
  if before.isSome then .error .repeated else value.map some

namespace Given

/-- Sets a switch; that is done once. -/
def switch (g : Given) : Switch → Except Halt Given
  | .noHeaders => if g.noHeaders then .error .repeated else .ok { g with noHeaders := true }
  | .allNamespaces => if g.allNamespaces then .error .repeated else .ok { g with allNamespaces := true }

/-- Gives a setting its value; that is done once. -/
def set (g : Given) (s : Setting) (value : String) : Except Halt Given :=
  match s with
  | .output => (once g.output (readFormat value)).map fun v => { g with output := v }
  | .debug => (once g.debug (readDebug value)).map fun v => { g with debug := v }
  | .kubeconfig => (once g.kubeconfig (readFile value)).map fun v => { g with kubeconfig := v }
  | .context => (once g.context (.ok value)).map fun v => { g with context := v }
  | .namespace => (once g.namespaceName (.ok value)).map fun v => { g with namespaceName := v }
  | .settingsFile => (once g.settingsFile (readFile value)).map fun v => { g with settingsFile := v }

/-- The options of a command within another; what is given within counts. -/
def within (outer inner : Given) : Given :=
  { output := inner.output <|> outer.output
    noHeaders := inner.noHeaders || outer.noHeaders
    debug := inner.debug <|> outer.debug
    kubeconfig := inner.kubeconfig <|> outer.kubeconfig
    context := inner.context <|> outer.context
    namespaceName := inner.namespaceName <|> outer.namespaceName
    allNamespaces := inner.allNamespaces || outer.allNamespaces
    settingsFile := inner.settingsFile <|> outer.settingsFile }

end Given

inductive Command where
  | query | version
deriving DecidableEq

/-- What a command line asks for. -/
structure Options where
  command : Command
  /-- The words of the query. -/
  words : List String
  output : Format
  noHeaders : Bool
  debug : Nat
  kubeconfig : Option String
  context : Option String
  namespaceName : Option String
  allNamespaces : Bool
  settingsFile : Option String
deriving DecidableEq

/-- Options with their defaults; `settingsFile` is the file that the environment names. -/
def Options.ofGiven (command : Command) (words : List String) (settingsFile : Option String) (g : Given) : Options :=
  { command, words
    output := g.output.getD .table
    noHeaders := g.noHeaders
    debug := g.debug.getD 0
    kubeconfig := g.kubeconfig
    context := g.context
    namespaceName := g.namespaceName
    allNamespaces := g.allNamespaces
    settingsFile := g.settingsFile <|> settingsFile }

end CommandLine

end ClusterQuery
