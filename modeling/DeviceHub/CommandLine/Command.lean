import DeviceHub.Client
import DeviceHub.CommandLine.Arguments
import DeviceHub.Logging.Record
import DeviceHub.Text.Integer

/-!
The `Commands`: how they are written, what `execute` asks of the client of a device for each of
them, and what it tells of the answers.
-/
namespace DeviceHub.CommandLine

inductive Command where
  /-- Properties are pairs. -/
  | send (payload : String) (properties : List String) (messageId correlationId : Option String)
      (qos : Nat)
  | watchEvents
  | watchTwin
  /-- Answers methods with what they are called with. -/
  | serve (methods : List String)
  | twin
  /-- Properties are pairs. -/
  | updateTwin (properties : List String)
  /-- Checks the configuration and may show it. -/
  | config (shows : Bool)
  deriving DecidableEq

/-- The configuration file may be named; the verbosity is counted. -/
structure Invocation where
  config : Option String
  verbosity : Nat
  command : Command
  deriving DecidableEq

def helpOption : OptionSpec :=
  ⟨"help", some 'h', .help⟩

def isByte (s : String) : Bool :=
  (Text.readIntWithin? 0 255 s).isSome

/-- By the names of the commands. -/
def grammars : List (String × Grammar) :=
  [("send", {
      options := [helpOption, ⟨"property", some 'p', .many⟩,
        ⟨"message-id", none, .one fun _ => true⟩, ⟨"correlation-id", none, .one fun _ => true⟩,
        ⟨"qos", none, .one isByte⟩]
      least := 1
      most := some 1 }),
    ("watch-events", { options := [helpOption] }),
    ("watch-twin", { options := [helpOption] }),
    ("serve", { options := [helpOption], least := 1, most := none }),
    ("twin", { options := [helpOption] }),
    ("update-twin", { options := [helpOption], least := 1, most := none }),
    ("config", { options := [helpOption, ⟨"show", none, .nothing⟩] })]

def grammar : Grammar where
  options := [helpOption, ⟨"version", some 'V', .version⟩,
    ⟨"config", some 'c', .one fun path => path != ""⟩, ⟨"verbose", some 'v', .count⟩]
  commands := "help" :: grammars.map Prod.fst

def Command.ofWords (name : String) (w : Words) : Command :=
  match name with
  | "send" =>
    .send (w.others.headD "") (w.values "property") (w.value? "message-id")
      (w.value? "correlation-id")
      (((w.value? "qos").bind (Text.readIntWithin? 0 255)).getD 1).toNat
  | "watch-events" => .watchEvents
  | "watch-twin" => .watchTwin
  | "serve" => .serve w.others
  | "twin" => .twin
  | "update-twin" => .updateTwin w.others
  | _ => .config (0 < w.count "show")

def Command.read (name : String) (words : List String) : Except Stop Command :=
  if name = "help" then
    match words with
    | [] => .error .help
    | [word] => .error (if grammar.commands.contains word then .help else .refused)
    | _ => .error .refused
  else
    match grammars.lookup name with
    | none => .error .refused
    | some g => (g.readAll words).map (Command.ofWords name)

def Invocation.read (words : List String) : Except Stop Invocation := do
  let (w, command?) ← grammar.read words {}
  match command? with
  | none => .error .refused
  | some (name, words) =>
    let command ← Command.read name words
    let w ← w.settle
    return ⟨w.value? "config", w.count "verbose", command⟩

/-- At the first equals sign; the key is not empty. -/
def splitPair (pair : String) : HubResult (String × String) :=
  match (Text.cutOnce? '=' pair).filter fun (key, _) => key != "" with
  | some pair => .ok pair
  | none => .error (.invalidInput ("expected KEY=VALUE, got " ++ Text.quoted pair))

/-- What a text writes as JSON, else the text itself. -/
def valueOfText (s : String) : Value :=
  match Value.ofJson (Text.encode s) with
  | .ok value => value
  | .error _ => .string s

namespace Command

/-- One after the other. -/
def requests : Command → HubResult (List Request)
  | send payload properties messageId correlationId qos => do
    let qos ← Qos.ofLevel qos
    let pairs ← properties.mapM splitPair
    return [.send (Text.encode payload)
      { messageId, correlationId, qos, properties := KeyMap.ofList pairs }]
  | watchEvents => .ok [.subscribeEvents]
  | watchTwin => .ok [.subscribeTwin]
  | serve methods => .ok (methods.map fun name => .register name .ok)
  | twin => .ok [.retrieveTwin]
  | updateTwin properties => do
    let pairs ← properties.mapM splitPair
    return [.updateTwin (pairs.foldl (fun state (key, text) =>
      state.withProperty key (valueOfText text)) ⟨[]⟩)]
  | config _ => .ok []

/-- Until somebody interrupts it. -/
def isEndless : Command → Bool
  | watchEvents | watchTwin | serve _ => true
  | _ => false

end Command

/-- A line, or a record for the log. -/
inductive Output where
  | line (text : String)
  | log (record : Logging.Record)
  deriving DecidableEq

def target : String := "hubclient"

def tell (level : Logging.Level) (message : String)
    (details : List (String × Logging.Detail)) : Output :=
  .log { level, target, message, details }

def shown (s : TwinState) : String :=
  Text.decodeLossy s.toJson

def eventLine (e : Event) : Output :=
  let properties := e.properties.map fun (key, value) =>
    Text.quoted key ++ ": " ++ Text.quoted value
  .line (e.text ++ "\t\x7b" ++ ", ".intercalate properties ++ "\x7d")

namespace Command

def told (command : Command) (reply : Reply) : List Output :=
  match command, reply with
  | send .., _ => [tell .info "Event sent" []]
  | serve methods, _ =>
    let names := ", ".intercalate (methods.map Text.quoted)
    [tell .info "Serving direct methods" [("methods", .plain ("[" ++ names ++ "]"))]]
  | twin, .twin desired reported =>
    [.line ("desired:  " ++ shown desired), .line ("reported: " ++ shown reported)]
  | updateTwin _, .version version =>
    [tell .info "Reported properties updated" [("version", .int version)]]
  | _, _ => []

end Command
end DeviceHub.CommandLine
