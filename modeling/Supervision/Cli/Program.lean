import Supervision.Admin.Peer
import Supervision.Cli.Arguments
import Supervision.Cli.Report
import Supervision.Cli.Views
import Supervision.Config.Loading
import Supervision.Session.Supervise

/-!
# The program

What a call of the program comes to, given the files, the environment and the listening sockets it
finds: what it prints, what it says about a failure, and its exit code.
-/

namespace Supervision.Cli

/-- What a call of the program finds around it. -/
structure Surroundings where
  files : Files.Tree
  environment : Environment
  peers : List (Nat × Admin.Peer)

/-- What a call of the program comes to. -/
inductive Outcome
  | succeeded (output : Bytes)
  | failed (output : Bytes) (report : Report)
  | misused

namespace Outcome

def code : Outcome → Nat
  | succeeded _ => 0
  | failed .. => 1
  | misused => 2

def output : Outcome → Bytes
  | succeeded output | failed output _ => output
  | misused => []

/-- An output that is all text. -/
def ofText (text : String) : Outcome := succeeded (Text.Utf8.encode text)

/-- What was to be shown, or the report why it cannot be. -/
def ofResult : Except Report Bytes → Outcome
  | .ok output => succeeded output
  | .error report => failed [] report

end Outcome

def versionText : String := "pgvisor 0.1.0\n"

def helpLines : List String :=
  ["Process supervisor for a Postgres HA node",
    "",
    "Usage: pgvisor <COMMAND>",
    "",
    "Commands:",
    "  run     Start and supervise every configured process",
    "  check   Validate a configuration file and print its processes",
    "  status  Show the processes of a running supervisor",
    "  stop    Ask a running supervisor to shut down gracefully",
    "  help    Print this message or the help of the given subcommand(s)",
    "",
    "Options:",
    "  -h, --help     Print help",
    "  -V, --version  Print version"]

def helpText : String := "\n".intercalate helpLines ++ "\n"

/-- Loads the configuration at a path, or else the first one found. -/
def loadConfig (around : Surroundings) (path : Option String) : Except Report Config.Launcher :=
  let loaded := match path with
    | some path =>
      (Config.loadFile around.files around.environment path).mapError
        (Report.during ("Failed to load " ++ path))
    | none =>
      (Config.load around.files around.environment Config.searchPaths).mapError
        (Report.during "Failed to find a configuration")
  loaded.map fun loaded => loaded.config

/-- Validates a configuration and shows it. -/
def check (around : Surroundings) (path : Option String) : Except Report Bytes := do
  let config ← loadConfig around path
  let specs ← (config.specs around.environment).mapError Report.ofFailure
  .ok (Text.Utf8.encode (checkView (wantsColor around.environment) config specs))

/-- Asks the supervisor behind a socket; `doing` is what failed if no response comes. -/
def ask (around : Surroundings) (socket : Option String) (request : Admin.Request)
    (doing : String) : Except Report Admin.Response := do
  let path := socket.getD (Admin.defaultSocketPath around.environment)
  let peer ← (Admin.reach around.files around.peers path).mapError
    (Report.during ("Failed to connect to " ++ path
      ++ ". Is the supervisor running with an admin socket?"))
  (peer.exchange request).mapError (Report.during doing)

/-- The report of a response that was not asked for. -/
def unexpected (response : Admin.Response) : Report :=
  match response with
  | .failure message => ⟨message, []⟩
  | other => ⟨"Unexpected response: " ++ other.describe, []⟩

def status (around : Surroundings) (socket : Option String) (asJson : Bool) :
    Except Report Bytes := do
  match ← ask around socket .status "Failed to query supervisor status" with
  | .status supervisor processes =>
    if asJson then .ok ((statusDocument supervisor processes).pretty 0 ++ [0x0a])
    else
      .ok (Text.Utf8.encode (statusView (wantsColor around.environment) supervisor processes))
  | other => .error (unexpected other)

def stop (around : Surroundings) (socket : Option String) : Except Report Bytes := do
  match ← ask around socket .stop "Failed to send stop request" with
  | .success message =>
    .ok (Text.Utf8.encode (stopView (wantsColor around.environment) message))
  | other => .error (unexpected other)

/-- A configuration with what the arguments say instead. -/
def RunOptions.override (options : RunOptions) (config : Config.Launcher) : Config.Launcher :=
  { config with
    output := if options.pipe then .pipe else config.output
    gracefulMillis := options.gracefulMillis.getD config.gracefulMillis
    adminSocket := options.adminSocket.orElse fun _ => config.adminSocket }

/-- The number of the supervisor's own admin server. -/
def ownServer : Nat := 0

/-- Puts a supervisor together and binds its admin socket, if it is to have one. -/
def prepare (around : Surroundings) (options : RunOptions) :
    Except Report (Supervisor × Files.Tree) := do
  let config := options.override (← loadConfig around options.config)
  let specs ← (config.specs around.environment).mapError
    (Report.during "Invalid process configuration")
  let empty := Supervisor.start config.name config.gracefulTimeout config.output
    (.start false .everything)
  let supervisor ← ([.interrupt, .terminate].foldlM Supervisor.subscribe
    (specs.foldl Supervisor.addSpec empty)).mapError
    (Report.during "Failed to install signal handlers")
  match config.adminSocket with
  | none => .ok (supervisor, around.files)
  | some path =>
    let files ← (Admin.bind around.files path ownServer).mapError
      (Report.during ("Failed to bind admin socket " ++ path))
    .ok (supervisor, files)

/-- Starts all processes of a configuration and supervises them to their end. -/
def run (around : Surroundings) (options : RunOptions) : Outcome :=
  match prepare around options with
  | .error report => .failed [] report
  | .ok (supervisor, files) =>
    let session := (Session.start supervisor (.start files around.environment) [] []).run
    let output := session.lines.flatMap fun line => line ++ [0x0a]
    match session.system.result with
    | some (.error failure) => .failed output (.ofFailure failure)
    | _ => .succeeded output

def call (around : Surroundings) (arguments : List String) : Outcome :=
  match Invocation.ofArguments around.environment arguments with
  | .command (.run options) => run around options
  | .command (.check path) => .ofResult (check around path)
  | .command (.status socket asJson) => .ofResult (status around socket asJson)
  | .command (.stop socket) => .ofResult (stop around socket)
  | .version => .ofText versionText
  | .help => .ofText helpText
  | .misused => .misused

end Supervision.Cli
