import ClusterQuery.Cluster.Session
import ClusterQuery.CommandLine.Arguments
import ClusterQuery.CommandLine.Error
import ClusterQuery.Kubeconfig.Reader
import ClusterQuery.Query.Parser
import ClusterQuery.Settings

/-!
The command line as a function of its arguments and of the machine that it runs on. `run` reads the settings,
the query and the kubeconfig, in this order, and lists objects only after that.
-/

namespace ClusterQuery

namespace CommandLine

/-- What is found under the name of a file. -/
inductive FileContents where
  | missing
  | unreadable
  | text (cs : List Char)

/-- What a command needs of its machine. -/
structure Host (m : Type → Type) where
  /-- The value of a variable of the environment. -/
  lookup : String → m (Option String)
  read : String → m FileContents
  /-- What the server at an address answers at a target. -/
  request : String → String → m Response
  processors : Nat

/-- What a command leaves behind. -/
structure Outcome where
  exitCode : Nat
  output : List Char := []
  /-- The line about a failure. -/
  complaint : Option String := none

/-- A path below a directory. -/
def below (directory path : String) : String :=
  if directory = "" || directory.toList.getLast? = some '/' then directory ++ path else directory ++ "/" ++ path

def settingsName : String := ".kube/kubectl-sql.json"

def kubeconfigName : String := ".kube/config"

def defaultNamespace : String := "default"

def clientVersion : String := "0.1.0"

variable {m : Type → Type} [Monad m]

/-- The settings: of the file that is given, or else of the one in the home directory. A missing file holds
    none. -/
def settings (host : Host m) (o : Options) : m (Except Error Settings) := do
  let home ← host.lookup "HOME"
  match o.settingsFile <|> home.map fun home => below home settingsName with
  | none => return .ok {}
  | some path =>
    match ← host.read path with
    | .missing => return .ok {}
    | .unreadable => return .error (.unreadableSettings path)
    | .text cs =>
      match Settings.parse? cs with
      | some s => return .ok s
      | none => return .error (.malformedSettings path)

/-! ### Connecting -/

/-- The kubeconfig of a file. -/
def readKubeconfig (host : Host m) (path : String) : m (Option Kubeconfig) := do
  match ← host.read path with
  | .text cs => return Kubeconfig.parse? cs
  | _ => return none

/-- The kubeconfigs of files, if each has one. -/
def readKubeconfigs (host : Host m) : List String → m (Option (List Kubeconfig))
  | [] => return some []
  | path :: paths => do
    match ← readKubeconfig host path with
    | none => return none
    | some k =>
      let others ← readKubeconfigs host paths
      return others.map (k :: ·)

/-- The names of files in a list with colons. -/
def splitPaths (cs : List Char) : List String :=
  ((splitOn ':' cs).filter fun path => !path.isEmpty).map String.ofList

/-- The kubeconfig of the files that the environment names, or else of the one in the home directory. -/
def usualKubeconfig (host : Host m) : m (Option Kubeconfig) := do
  let named ← host.lookup "KUBECONFIG"
  match splitPaths ((named.getD "").toList) with
  | [] =>
    match ← host.lookup "HOME" with
    | none => return none
    | some home => readKubeconfig host (below home kubeconfigName)
  | paths => return (← readKubeconfigs host paths).bind Kubeconfig.mergeAll?

/-- The cluster to connect to. -/
def connection (host : Host m) (o : Options) : m (Except Error Connection) := do
  match o.kubeconfig with
  | some path =>
    match ← readKubeconfig host path with
    | none => return .error (.unreadableKubeconfig path)
    | some k =>
      match k.connection? o.context with
      | some c => return .ok c
      | none => return .error .unusableKubeconfig
  | none =>
    match (← usualKubeconfig host).bind fun k => k.connection? o.context with
    | some c => return .ok c
    | none => return .error (if o.context.isSome then .unusableKubeconfig else .noCluster)

/-- A new session. The option decides on its namespace, then the kubeconfig. -/
def Connection.session (c : Connection) (o : Options) : Session :=
  { current := (o.namespaceName <|> c.namespaceName).getD defaultNamespace }

/-! ### Commands -/

/-- The report on a query. -/
def report (host : Host m) (o : Options) : m (Except Error (List Char)) := do
  let text := (" ".intercalate o.words).toList
  if (trim text).isEmpty then return .error .missingQuery
  else
    match ← settings host o with
    | .error e => return .error e
    | .ok s =>
      let engine : Engine := { aliases := s.aliasTable, projections := s.projectionTable }
      match Query.parse engine.aliases text with
      | .error e => return .error (.query e)
      | .ok q =>
        let q := { q with source := q.source.override o.namespaceName o.allNamespaces }
        match ← connection host o with
        | .error e => return .error e
        | .ok c =>
          let (outcome, _) ←
            (Session.answer (host.request c.server) engine host.processors .never q).run (Connection.session c o)
          match outcome with
          | .error e => return .error (.run e)
          | .ok r => return .ok ((Report.ofResult r).render o.output (!o.noHeaders))

/-- What is shown where a version cannot be had. -/
def unavailable : String := "unavailable"

/-- The versions of the client and of the server, and the current namespace. -/
def versions (host : Host m) (o : Options) : m (List Char) := do
  let (server, current) ← match ← connection host o with
    | .error _ => pure (unavailable, o.namespaceName.getD defaultNamespace)
    | .ok c => do
      let (version, session) ← (Session.version (host.request c.server)).run (Connection.session c o)
      let shown := match version with
        | .ok version => version
        | .error _ => unavailable
      pure (shown, session.current)
  return ("Client version: " ++ clientVersion ++ "\nServer version: " ++ server ++ "\nCurrent namespace: " ++
    current ++ "\n").toList

/-- What a command line leaves behind that asks for no command. -/
def Halt.outcome : Halt → Outcome
  | .version => { exitCode := 0, output := ("kubeql " ++ clientVersion ++ "\n").toList }
  | .help => { exitCode := 0 }
  | _ => { exitCode := 2 }

/-- Runs a command line. -/
def run (host : Host m) (arguments : List String) : m Outcome := do
  match parse (← host.lookup "KUBEQL_CONFIG") arguments with
  | .error halt => return halt.outcome
  | .ok o =>
    match o.command with
    | .version => return { exitCode := 0, output := ← versions host o }
    | .query =>
      match ← report host o with
      | .ok text => return { exitCode := 0, output := text }
      | .error e => return { exitCode := 1, complaint := some e.line }

end CommandLine

end ClusterQuery
