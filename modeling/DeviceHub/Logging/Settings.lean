/-!
The level and the format of the log, by names in any letter case, as the environment variables of
`init_default_logging` or the `-v` of a command line have it.
-/
namespace DeviceHub.Logging

inductive Level where
  | error
  | warn
  | info
  | debug
  | trace
  deriving DecidableEq

/-- Graver levels have smaller ranks. -/
def Level.rank : Level → Nat
  | error => 1
  | warn => 2
  | info => 3
  | debug => 4
  | trace => 5

def Level.name : Level → String
  | error => "ERROR"
  | warn => "WARN"
  | info => "INFO"
  | debug => "DEBUG"
  | trace => "TRACE"

def Level.all : List Level :=
  [error, warn, info, debug, trace]

/-- An unknown name is `info`.  Only the case of ASCII letters matters: no other character has a
letter of the names as its upper or lower case, those of `INFO` aside. -/
def Level.ofName (name : String) : Level :=
  (all.find? fun level => level.name == name.toUpper).getD info

inductive Format where
  | json
  | pretty
  | compact
  deriving DecidableEq

/-- An unknown name is `json`. -/
def Format.ofName (name : String) : Format :=
  let name := name.toLower
  if name = "pretty" then pretty else if name = "compact" then compact else json

def Format.name : Format → String
  | json => "Json"
  | pretty => "Pretty"
  | compact => "Compact"

/-- What is logged, in which format, and whether the begin and end of spans are. -/
structure Settings where
  level : Level
  format : Format
  spans : Bool
  deriving DecidableEq

def Settings.ofVariables (variableNamed? : String → Option String) : Settings where
  level := Level.ofName ((variableNamed? "LOG_LEVEL").getD "")
  format := Format.ofName ((variableNamed? "LOG_FORMAT").getD "")
  spans := (variableNamed? "LOG_SPANS").any fun value => value.toLower == "true"

def Settings.ofVerbosity (variableNamed? : String → Option String) : Nat → Settings
  | 0 => ofVariables variableNamed?
  | 1 => ⟨.debug, .compact, false⟩
  | _ => ⟨.trace, .compact, true⟩

end DeviceHub.Logging
