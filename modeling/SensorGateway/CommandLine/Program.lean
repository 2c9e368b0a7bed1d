import SensorGateway.CommandLine.Help
import SensorGateway.Config.Reading
import SensorGateway.Config.Writing
import SensorGateway.Gateway.Run

/-!
The commands of the program and what they do. A command may need one file to be
read or written; the program says which, and how it ends once that is done.
-/

namespace SensorGateway.CommandLine

/-! ### The commands -/

def programName : String := "mqttsn-gateway"

def versionNumber : String := "1.0.10"

def defaultConfigPath : String := "gateway.toml"

def configOption : ValueOption where
  short := some 'c'
  long := "config"
  valueName := "CONFIG"
  about := "Configuration file path"

def logLevelOption : ValueOption where
  long := "log-level"
  valueName := "LOG_LEVEL"
  about := "Log level (trace, debug, info, warn, error); overrides the config file"
  isPath := false

def outputOption : ValueOption where
  short := some 'o'
  long := "output"
  valueName := "OUTPUT"
  about := "Output file path"
  default := some defaultConfigPath

/-- Where the configuration of a gateway that is to run is looked for. -/
def startOption : ValueOption :=
  { configOption with default := some defaultConfigPath }

/-- Where a configuration that is to be checked is looked for. -/
def checkOption : ValueOption :=
  { configOption with isRequired := true }

def generateCommand : Command where
  call := programName ++ " gen-config"
  about := "Generate a default configuration file"
  options := [outputOption]

def validateCommand : Command where
  call := programName ++ " validate"
  about := "Validate a configuration file"
  options := [checkOption]

def helpCommand : Command where
  call := programName ++ " help"
  about := "Print this message or the help of the given subcommand(s)"
  hasHelp := false
  words := [("[COMMAND]...", "Print help for the subcommand(s)")]

def rootCommand : Command where
  call := programName
  about := "MQTT-SN to MQTT gateway for sensor networks"
  options := [startOption, logLevelOption]
  hasVersion := true
  commands :=
    [("gen-config", generateCommand.about), ("validate", validateCommand.about),
      ("help", helpCommand.about)]

/-! ### What is asked for -/

inductive Request where
  /-- Writes the default configuration. -/
  | generate (path : String)
  | validate (path : String)
  /-- Runs a gateway. -/
  | start (path : String)
  | tell (text : String)
deriving DecidableEq

/-- Reads a command that takes nothing but options, one of which names a
file. -/
def readPath (command : Command) (option : ValueOption) (request : String → Request)
    (arguments : List String) : Option Request :=
  match command.read {} arguments with
  | .options given [] => do
      let values ← given.settle
      let path ← option.value? values
      return request path
  | .help => some (.tell command.help)
  | _ => none

/-- The help for the command with these words. -/
def readHelp : List String → Option Request
  | [] => some (.tell rootCommand.help)
  | ["gen-config"] => some (.tell generateCommand.help)
  | ["validate"] => some (.tell validateCommand.help)
  | ["help"] => some (.tell helpCommand.help)
  | _ => none

/-- What a word and the arguments after it ask for. -/
def readWord : List String → Option Request
  | "gen-config" :: rest => readPath generateCommand outputOption .generate rest
  | "validate" :: rest => readPath validateCommand checkOption .validate rest
  | "help" :: rest => readHelp rest
  | _ => none

/-- What the arguments ask for, if they are well formed. A text that is asked for
after a word is told whatever the options before the word are. -/
def Request.ofArguments? (arguments : List String) : Option Request :=
  match rootCommand.read {} arguments with
  | .options given [] => do
      let values ← given.settle
      let path ← startOption.value? values
      return start path
  | .options given remaining =>
      match readWord remaining with
      | some (tell text) => some (tell text)
      | request => do
          let _ ← given.settle
          request
  | .help => some (tell rootCommand.help)
  | .version => some (tell (programName ++ " " ++ versionNumber ++ "\n"))
  | .misuse => none

/-! ### What is done -/

/-- How the program ends. -/
structure Report where
  exitCode : Nat := 0
  output : String := ""
  errors : String := ""
deriving DecidableEq

/-- What the program does with files. -/
inductive Action where
  | finish (report : Report)
  /-- How it goes on depends on whether the file could be written. -/
  | write (path text : String) (next : Bool → Report)
  /-- How it goes on depends on the text of the file, if there is one. -/
  | read (path : String) (next : Option String → Report)

namespace Report

def misuse : Report where
  exitCode := 2
  errors := "error: unexpected arguments\n\nUsage: " ++ rootCommand.usage ++
    "\n\nFor more information, try '--help'.\n"

/-- What could not be done and, if there is more to say, why. The lines of the
reason are indented. -/
def failure (what : String) (cause : Option String) : Report where
  exitCode := 1
  errors := "Error: " ++ what ++ "\n" ++
    match cause with
    | some cause => "\nCaused by:\n    " ++ cause.replace "\n" "\n    " ++ "\n"
    | none => ""

end Report

def loadErrorMessage : Config.LoadError → String
  | .io => "I/O error"
  | .toml => "TOML parse error"
  | .invalid problem => problem.message

/-- The configuration in a file, if there is such a file. -/
def load : Option String → Except Config.LoadError Config
  | none => .error .io
  | some text => Config.parse text

/-- The default configuration under a comment that tells how to go on with
it. -/
def generatedText : String :=
  "# MQTT-SN Gateway Configuration\n" ++
  "# Generated by " ++ programName ++ " gen-config\n" ++
  "#\n" ++
  "# Periods are in seconds. Predefined topics are declared as:\n" ++
  "#\n" ++
  "# [[predefined_topics]]\n" ++
  "# id = 1\n" ++
  "# name = \"sys/clock\"\n" ++
  "\n" ++ Config.text {} ++ "\n"

def reportGenerated (path : String) (isWritten : Bool) : Report :=
  if isWritten then { output := "Generated configuration file: " ++ path ++ "\n" }
  else .failure ("Failed to write " ++ path) none

/-- What is told about a configuration that is valid. -/
def summary (config : Config) : String :=
  "Configuration valid!\n" ++
  "\n" ++
  "Gateway id: " ++ toString config.gatewayId.toNat ++ "\n" ++
  "Broker:     " ++ config.broker.host ++ ":" ++ toString config.broker.port.toNat ++ "\n" ++
  "Predefined: " ++ toString config.predefinedTopics.length ++ " topic(s)\n" ++
  String.join (config.deviceLinks.map fun link => "  link " ++ link.name ++ "\n")

def reportValidated (path : String) (contents : Option String) : Report :=
  match load contents with
  | .ok config => { output := summary config }
  | .error error =>
      .failure ("Configuration invalid: " ++ path) (some (loadErrorMessage error))

/-- No link can be opened. -/
def unplugged : Network where
  line _ := { openFailure := some .notOpen }
  openFailure _ := some .notOpen

/-- Runs a gateway. The program has no network of its own, so that the gateway
stops as soon as it looks for the broker. -/
def reportRun (config : Config) : Report :=
  match Gateway.create config with
  | .error error => .failure "Invalid configuration" (some error.message)
  | .ok gateway =>
      let circumstances : Circumstances := { now := 0, network := unplugged }
      match (gateway.run circumstances [] circumstances).result with
      | .ok _ => {}
      | .error error => .failure "Gateway stopped" (some error.message)

def reportStarted (path : String) (contents : Option String) : Report :=
  match load contents with
  | .ok config => reportRun config
  | .error error => .failure ("Failed to load " ++ path) (some (loadErrorMessage error))

def Request.action : Request → Action
  | generate path => .write path generatedText (reportGenerated path)
  | validate path => .read path (reportValidated path)
  | start path => .read path (reportStarted path)
  | tell text => .finish { output := text }

/-- The program as a whole. -/
def program (arguments : List String) : Action :=
  match Request.ofArguments? arguments with
  | some request => request.action
  | none => .finish .misuse

end SensorGateway.CommandLine
