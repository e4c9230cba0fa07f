import DeviceHub.CommandLine.Command
import DeviceHub.Config.Reader
import DeviceHub.Config.Resolve
import DeviceHub.Logging.Filter

/-!
A run of the program: what it puts out and the number it ends with, given what surrounds it and how
the hub behaves.
-/
namespace DeviceHub.CommandLine

open Logging

/-- Whether it lets a device connect, what it answers, and what it sends until the program is
interrupted. -/
structure Hub where
  connect : Mqtt.BrokerOptions → HubResult Unit
  answer : Request → HubResult Reply
  events : List Event := []
  twinUpdates : List TwinState := []
  /-- What interrupts the program. -/
  signal : String := "SIGTERM"

def Hub.unreachable (reason : String) : Hub where
  connect _ := .error (.transport reason)
  answer _ := .error .notReady

structure Outcome where
  exit : Nat
  output : List Output
  deriving DecidableEq

/-- The files that are looked for when none is named. -/
def candidates : List String :=
  ["hubclient.toml", "config/hubclient.toml"]

def configPaths (named : Option String) : List String :=
  match named with
  | some path => [path]
  | none => candidates

def filesOf (c : HubConfig) : List String :=
  c.mqtt.caFile.toList ++ match c.device.certificate with
    | some files => [files.certificate, files.privateKey]
    | none => []

def variablesOf (c : HubConfig) : List String :=
  ["LOG_LEVEL", "LOG_FORMAT", "LOG_SPANS", "RUST_LOG", c.device.connectionVariable]

/-- Of the file that is named, else of the first candidate there is, else the blank configuration.
-/
def loadConfig (s : Surroundings) (named : Option String) :
    List Output × Except ConfigError HubConfig :=
  match named.or (candidates.find? s.hasPath) with
  | some path => ([tell .info ("Loading configuration from: " ++ path) []], Config.load s path)
  | none => ([tell .info "No configuration file found, using defaults" []], .ok {})

def connectSpan (deviceId : String) : Span :=
  ⟨"device_operation", target ++ "::device::client",
    [("device_id", .text deviceId), ("op", .text "connect")]⟩

def record (part : String) (level : Level) (message : String) (details : List (String × Detail)) :
    Record :=
  { level, target := target ++ "::" ++ part, message, details }

def transportRecord (level : Level) (message deviceId : String) (details : List (String × Detail)) :
    Record :=
  record "transport::mqtt::client" level message (("device_id", .plain deviceId) :: details)

def stateChanged (before after : ConnectionState) : Record :=
  record "lifecycle" .info "connection state changed"
    [("from", .plain before.name), ("to", .plain after.name)]

def connecting (hub : Hub) (now : Int64) (credentials : Credentials)
    (settings : HubResult Mqtt.Settings) : List Record × Checked Unit :=
  let device := credentials.deviceId
  match (Checked.ofResult settings).bind (Mqtt.BrokerOptions.ofCredentials now credentials) with
  | .error failure => ([], .error failure)
  | .ok options =>
    let start := (transportRecord .info "connecting over MQTT" device
      [("hostname", .text credentials.hostname)]).within (connectSpan device)
    match hub.connect options with
    | .ok () => ([start, transportRecord .info "MQTT connection acknowledged" device []], .ok ())
    | .error e =>
      let reason := match e with | .transport reason => reason | e => e.message
      ([start, transportRecord .error "MQTT event loop error" device [("error", .plain reason)],
        transportRecord .info "MQTT event loop stopped" device [("reason", .plain reason)]],
        .error (.error e))

def ready (deviceId : String) : List Output :=
  [.log (stateChanged .unready .ready),
    .log (record "device::client" .info "device client ready" [("device_id", .text deviceId)]),
    tell .info "connected" [("device_id", .text deviceId)]]

def closing (deviceId : String) : List Output :=
  [.log (stateChanged .ready .closed),
    .log (transportRecord .info "MQTT event loop stopped" deviceId
      [("reason", .plain "disconnected")]),
    .log (transportRecord .info "MQTT transport closed" deviceId [])]

/-- Up to the first request that fails; the answer to the last one. -/
def askAll (hub : Hub) : List Request → HubResult Reply
  | [] => .ok .done
  | [request] => hub.answer request
  | request :: rest =>
    match hub.answer request with
    | .ok _ => askAll hub rest
    | .error e => .error e

/-- Until the command is interrupted. -/
def watched (hub : Hub) : Command → List Output
  | .watchEvents => hub.events.map eventLine
  | .watchTwin => hub.twinUpdates.map fun s => .line (shown s)
  | _ => []

def execute (hub : Hub) (command : Command) : List Output × HubResult Unit :=
  match command.requests.bind (askAll hub) with
  | .error e => ([], .error e)
  | .ok reply =>
    let interrupted :=
      [tell .info ("Received " ++ hub.signal) [], tell .info "Shutdown requested" []]
    (command.told reply ++ if command.isEndless then watched hub command ++ interrupted else [],
      .ok ())

def runDevice (s : Surroundings) (now : Int64) (hub : Hub) (config : HubConfig)
    (command : Command) : List Output × Checked Unit :=
  match config.device.credentials s with
  | .error e => ([], .error (.error e))
  | .ok credentials =>
    let device := credentials.deviceId
    let span := connectSpan device
    let (during, connected) :=
      connecting hub now credentials (Mqtt.Settings.ofSection s config.mqtt)
    let output := ([span.told "new"] ++ during ++ [span.told "close"]).map Output.log
    match connected with
    | .error failure => (output, .error failure)
    | .ok () =>
      let (more, outcome) := execute hub command
      (output ++ ready device ++ more ++ closing device, .ofResult outcome)

/-- The number the program ends with when it panics. -/
def panicExit : Nat := 101

/-- Everything the command tells, whether it is logged or not. -/
def Invocation.perform (s : Surroundings) (now : Int64) (hub : Hub) (i : Invocation) : Outcome :=
  match loadConfig s i.config with
  | (output, .error e) =>
    ⟨1, output ++ [tell .error ("Failed to load configuration: " ++ e.message) []]⟩
  | (output, .ok config) =>
    match i.command with
    | .config shows =>
      let shown := if shows then Text.splitOnChar '\n' config.outline.pretty else []
      ⟨0, output ++ [tell .info "Configuration is valid" []] ++ shown.map .line⟩
    | command =>
      match runDevice s now hub config command with
      | (more, .ok ()) => ⟨0, output ++ more⟩
      | (more, .error (.error e)) =>
        ⟨1, output ++ more ++ [tell .error ("Command failed: " ++ e.message) []]⟩
      | (more, .error .panic) => ⟨panicExit, output ++ more⟩

/-- A variable overrides the settings, and may write no filter. -/
def filterOf? (s : Surroundings) (settings : Settings) : Option Filter :=
  match s.variableNamed? "RUST_LOG" with
  | some text => Filter.ofText? text
  | none => some (.ofLevel settings.level)

def shown? (filter : Filter) (settings : Settings) : Output → Option Output
  | .line text => some (.line text)
  | .log r => (filter.record? settings.spans r).map .log

def versionLine : String :=
  target ++ " 0.1.0"

def usage : String :=
  "Usage: " ++ target ++ " [-c FILE] [-v]... <" ++ "|".intercalate grammar.commands ++ "> ..."

/-- What it refuses to read is not put out but told aside; a filter that cannot be read makes it
panic. -/
def run (s : Surroundings) (now : Int64) (hub : Hub) (words : List String) : Format × Outcome :=
  match Invocation.read words with
  | .error .help => (.json, ⟨0, [.line usage]⟩)
  | .error .version => (.json, ⟨0, [.line versionLine]⟩)
  | .error .refused => (.json, ⟨2, []⟩)
  | .ok i =>
    let settings := Settings.ofVerbosity s.variableNamed? i.verbosity
    match filterOf? s settings with
    | none => (settings.format, ⟨panicExit, []⟩)
    | some filter =>
      let outcome := i.perform s now hub
      (settings.format,
        { outcome with output := outcome.output.filterMap (shown? filter settings) })

end DeviceHub.CommandLine
