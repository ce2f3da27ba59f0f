import Supervision.Json.Typed
import Supervision.Json.Value
import Supervision.Output.Channel
import Supervision.ProcessSpec

/-!
# Launcher configurations

What a configuration document says: the supervisor's name, its grace period, the kind of channel,
an optional admin socket, and the processes in order.  Documents are read straight into these
types and written back with the members that were left out left out again.
-/

namespace Supervision.Config

/-- How often and after which delay a process is restarted. -/
structure RestartEntry where
  limit : UInt32
  delayMillis : UInt64
  deriving DecidableEq, Repr

structure ProcessEntry where
  name : String
  command : String
  environment : Environment
  directory : Option String
  stopSignal : Option Signal
  restart : Option RestartEntry
  deriving DecidableEq, Repr

/-- A configuration. -/
structure Launcher where
  name : String
  gracefulMillis : UInt64
  output : Output.ChannelKind
  adminSocket : Option String
  processes : List ProcessEntry
  deriving DecidableEq, Repr

def defaultName : String := "pgvisor"

def defaultGracefulMillis : UInt64 := 5000

def defaultDelayMillis : UInt64 := 1000

/-- The configuration of an empty document. -/
def Launcher.default : Launcher := ⟨defaultName, defaultGracefulMillis, .pty, none, []⟩

def Launcher.gracefulTimeout (config : Launcher) : Span := .ofMillis config.gracefulMillis.toNat

open Json

/-- The members of a restart entry read so far. -/
structure RestartDraft where
  limit : Option UInt32
  delay : Option UInt64

def readRestart : Reader RestartEntry := do
  let draft ← Reader.record "struct RestartConfig"
    [.orElse "max_restarts" RestartDraft.limit
      (fun value draft => { draft with limit := some value }) 0 Reader.word32,
    .orElse "delay_ms" RestartDraft.delay
      (fun value draft => { draft with delay := some value }) defaultDelayMillis
      (Nat.toUInt64 <$> Reader.word64)]
    ⟨none, none⟩
  pure ⟨draft.limit.getD 0, draft.delay.getD defaultDelayMillis⟩

def readSignal : Reader Signal := do
  match Signal.parse (← Reader.text) with
  | .ok signal => pure signal
  | .error failure => Reader.failUnplaced (.refused failure.message)

def readEnvironment : Reader Environment := Environment.ofList <$> Reader.map Reader.text

/-- The members of a process entry read so far. -/
structure ProcessDraft where
  name : Option String
  command : Option String
  environment : Option Environment
  directory : Option (Option String)
  stopSignal : Option (Option Signal)
  restart : Option (Option RestartEntry)

def readProcess : Reader ProcessEntry := do
  let draft ← Reader.record "struct ProcessConfig"
    [.required "name" ProcessDraft.name (fun value draft => { draft with name := some value })
      Reader.text,
    .required "command" ProcessDraft.command
      (fun value draft => { draft with command := some value }) Reader.text,
    .orElse "env" ProcessDraft.environment
      (fun value draft => { draft with environment := some value }) .empty readEnvironment,
    .orElse "dir" ProcessDraft.directory
      (fun value draft => { draft with directory := some value }) none
      (Reader.optional Reader.path),
    .orElse "stop_signal" ProcessDraft.stopSignal
      (fun value draft => { draft with stopSignal := some value }) none
      (Reader.optional readSignal),
    .orElse "restart" ProcessDraft.restart
      (fun value draft => { draft with restart := some value }) none (Reader.optional readRestart)]
    ⟨none, none, none, none, none, none⟩
  pure
    { name := draft.name.getD ""
      command := draft.command.getD ""
      environment := draft.environment.getD .empty
      directory := draft.directory.join
      stopSignal := draft.stopSignal.join
      restart := draft.restart.join }

def readOutput : Reader Output.ChannelKind :=
  Reader.variant [("pty", .plain .pty), ("pipe", .plain .pipe)]

/-- The members of a configuration read so far. -/
structure LauncherDraft where
  name : Option String
  gracefulMillis : Option UInt64
  output : Option Output.ChannelKind
  adminSocket : Option (Option String)
  processes : Option (List ProcessEntry)

def readLauncher : Reader Launcher := do
  let draft ← Reader.record "struct LauncherConfig"
    [.orElse "name" LauncherDraft.name (fun value draft => { draft with name := some value })
      defaultName Reader.text,
    .orElse "graceful_timeout_ms" LauncherDraft.gracefulMillis
      (fun value draft => { draft with gracefulMillis := some value }) defaultGracefulMillis
      (Nat.toUInt64 <$> Reader.word64),
    .orElse "output" LauncherDraft.output (fun value draft => { draft with output := some value })
      .pty readOutput,
    .orElse "admin_socket" LauncherDraft.adminSocket
      (fun value draft => { draft with adminSocket := some value }) none
      (Reader.optional Reader.path),
    .orElse "processes" LauncherDraft.processes
      (fun value draft => { draft with processes := some value }) [] (Reader.list readProcess)]
    ⟨none, none, none, none, none⟩
  pure
    { name := draft.name.getD defaultName
      gracefulMillis := draft.gracefulMillis.getD defaultGracefulMillis
      output := draft.output.getD .pty
      adminSocket := draft.adminSocket.join
      processes := draft.processes.getD [] }

/-- A member that is left out when there is nothing to say. -/
def memberIf {α : Type} (name : String) (value : Option α) (write : α → Json) :
    List (String × Json) :=
  value.toList.map fun value => (name, write value)

def RestartEntry.toJson (entry : RestartEntry) : Json :=
  .object
    [("max_restarts", .number entry.limit.toNat), ("delay_ms", .number entry.delayMillis.toNat)]

def environmentJson (env : Environment) : Json :=
  .object (env.entries.map fun entry => (entry.1, .text entry.2))

def ProcessEntry.toJson (entry : ProcessEntry) : Json :=
  .object
    ([("name", .text entry.name), ("command", .text entry.command)]
      ++ memberIf "env" (if entry.environment.entries.isEmpty then none else some entry.environment)
        environmentJson
      ++ memberIf "dir" entry.directory .text
      ++ memberIf "stop_signal" entry.stopSignal (fun signal => .text signal.name)
      ++ memberIf "restart" entry.restart RestartEntry.toJson)

def outputJson : Output.ChannelKind → Json
  | .pty => .text "pty"
  | .pipe => .text "pipe"

def Launcher.toJson (config : Launcher) : Json :=
  .object
    ([("name", .text config.name),
      ("graceful_timeout_ms", .number config.gracefulMillis.toNat),
      ("output", outputJson config.output)]
      ++ memberIf "admin_socket" config.adminSocket .text
      ++ [("processes", .list (config.processes.map ProcessEntry.toJson))])

end Supervision.Config
