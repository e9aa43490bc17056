import CaptureQueue.CommandLine.Completion
import CaptureQueue.CommandLine.Matches
import CaptureQueue.DropStrategy

/-! What the program can be asked to do, and the grammar of the command lines that ask for it. -/

set_option autoImplicit false
namespace CaptureQueue

inductive LogFormat where
  | text
  | json
  | compact
deriving DecidableEq, Repr

namespace LogFormat

def all : List LogFormat := [.text, .json, .compact]

def name : LogFormat → String
  | .text => "text"
  | .json => "json"
  | .compact => "compact"

def ofName? (s : String) : Option LogFormat := all.find? (·.name == s)

end LogFormat

/-- What can be said with every command. -/
structure GlobalOptions where
  config : Option String := none
  verbosity : Nat := 0
  quiet : Bool := false
  logFormat : LogFormat := .text
  logFile : Option String := none
deriving DecidableEq, Repr

structure RunOptions where
  interface : Option String := none
  capacity : Option Nat := none
  dropStrategy : Option DropDecision := none
  promiscuous : Bool := false
  noPromiscuous : Bool := false
  snaplen : Option Nat := none
  consumers : Nat := 1
  -- How long a consumer rests after each packet, in milliseconds.
  consumeDelay : Nat := 0
  -- In seconds.
  duration : Option Nat := none
  -- Seconds between two reports; none if it is zero.
  statsInterval : Nat := 5
  json : Bool := false
deriving DecidableEq, Repr

inductive Request where
  | run (options : RunOptions)
  | listAdapters (all json : Bool)
  | showConfig
  | generateConfig (output : String) (force : Bool)
  | validateConfig (file : Option String)
  | configPaths
  | completions (shell : CommandLine.Shell) (output : Option String)
deriving DecidableEq, Repr

structure Invocation where
  globals : GlobalOptions
  request : Request
deriving DecidableEq, Repr

namespace Invocation

open CommandLine

def programName : String := "capq"

def version : String := "0.3.0"

def configVariable : String := "CAPQ_CONFIG"

def defaultOutput : String := "capq.toml"

def numberLimit : Nat := Nat.pow 2 64

def numeric (name label about : String) : Argument :=
  { name := name, about := about, effect := .value (.number numberLimit) label }

def sharedArguments : List Argument := [
  { name := "config", short := some 'c', about := "Configuration file path"
    effect := .value .path "FILE", standIn := some configVariable },
  { name := "verbose", short := some 'v', about := "Verbosity level (-v, -vv, -vvv)",
    effect := .count },
  { name := "log-format", about := "Output format for logs"
    effect := .value (.oneOf (LogFormat.all.map LogFormat.name)) "LOG_FORMAT" },
  { name := "log-file", about := "Log file path", effect := .value .text "FILE" },
  { name := "quiet", short := some 'q', about := "Run in quiet mode (errors only)"
    excludes := ["verbose"] },
  { name := "help", short := some 'h', about := "Print help", effect := .help },
  { name := "version", short := some 'V', about := "Print version", effect := .version }]

def runCommand : Command where
  name := "run"
  about := "Capture packets into the bounded queue (main command)"
  arguments := [
    { name := "interface", short := some 'i',
      about := "Interface to capture on (default: platform default)"
      effect := .value .text "INTERFACE" },
    numeric "capacity" "N" "Queue capacity in packets",
    { name := "drop-strategy", short := some 's', about := "Overflow policy"
      effect := .value (.oneOf (DropDecision.all.map DropDecision.name)) "DROP_STRATEGY" },
    { name := "promiscuous", about := "Enable promiscuous mode", replaces := ["no-promiscuous"] },
    { name := "no-promiscuous", about := "Disable promiscuous mode", replaces := ["promiscuous"] },
    numeric "snaplen" "BYTES" "Maximum bytes kept per frame",
    numeric "consumers" "CONSUMERS" "Number of consumer threads draining the queue",
    numeric "consume-delay-ms" "MS" "Artificial per-packet consumer delay, to exercise overflow",
    { numeric "duration" "SECS" "Stop after this many seconds" with short := some 'd' },
    numeric "stats-interval" "SECS" "Seconds between metric reports (0 = final report only)",
    { name := "json", about := "Print metrics as JSON lines" }]

def interfacesCommand : Command where
  name := "interfaces"
  about := "List capture interfaces"
  arguments := [
    { name := "all", short := some 'a', about := "Include interfaces that are down" },
    { name := "json", about := "Print as JSON" }]

def configCommand : Command where
  name := "config"
  about := "Configuration management"
  subcommands := [
    { name := "show", about := "Show the effective configuration" },
    { name := "generate", about := "Generate a configuration file with every default spelled out"
      arguments := [
        { name := "output", short := some 'o', about := "Output file path",
          effect := .value .path "OUTPUT" },
        { name := "force", short := some 'f', about := "Overwrite an existing file" }] },
    { name := "validate", about := "Validate a configuration file"
      arguments := [
        { name := "file", about := "Config file to validate (default: the detected one)"
          effect := .value .path "FILE", positional := true }] },
    { name := "paths", about := "Show config file locations" }]

def completionsCommand : Command where
  name := "completions"
  about := "Generate shell completions"
  arguments := [
    { name := "shell", about := "Shell to generate completions for"
      effect := .value (.oneOf (Shell.all.map Shell.name)) "SHELL",
      positional := true, required := true },
    { name := "output", short := some 'o', about := "Write the script to a file instead of stdout"
      effect := .value .path "FILE" }]

def grammar : Command where
  name := programName
  about := "capq - bounded packet capture queue"
  arguments := sharedArguments.map fun a => { a with shared := true }
  subcommands := [runCommand, interfacesCommand, configCommand, completionsCommand]

def globalsOf (m : Matches) : GlobalOptions where
  config := m.text? "config"
  verbosity := (m.number? "verbose").getD 0
  quiet := m.flag "quiet"
  logFormat := ((m.text? "log-format").bind LogFormat.ofName?).getD .text
  logFile := m.text? "log-file"

def runOptionsOf (m : Matches) : RunOptions where
  interface := m.text? "interface"
  capacity := m.number? "capacity"
  dropStrategy := (m.text? "drop-strategy").bind DropDecision.ofName?
  promiscuous := m.flag "promiscuous"
  noPromiscuous := m.flag "no-promiscuous"
  snaplen := m.number? "snaplen"
  consumers := (m.number? "consumers").getD 1
  consumeDelay := (m.number? "consume-delay-ms").getD 0
  duration := m.number? "duration"
  statsInterval := (m.number? "stats-interval").getD 5
  json := m.flag "json"

def requestOf? (m : Matches) : Option Request :=
  match m.path.drop 1 with
  | ["run"] => some (.run (runOptionsOf m))
  | ["interfaces"] => some (.listAdapters (m.flag "all") (m.flag "json"))
  | ["config", "show"] => some .showConfig
  | ["config", "generate"] =>
    some (.generateConfig ((m.text? "output").getD defaultOutput) (m.flag "force"))
  | ["config", "validate"] => some (.validateConfig (m.text? "file"))
  | ["config", "paths"] => some .configPaths
  | ["completions"] => do
    return .completions (← (m.text? "shell").bind Shell.ofName?) (m.text? "output")
  | _ => none

def ofWords (environment : String → Option String) (words : List String) :
    Except UsageError Invocation := do
  let m ← Matches.ofWords grammar environment words
  match requestOf? m with
  | some request => return ⟨globalsOf m, request⟩
  | none => .error (.subcommandMissing m.path)

end Invocation
end CaptureQueue
