import CaptureQueue.Config.OfToml
import CaptureQueue.Config.ToToml
import CaptureQueue.Program.Invocation
import CaptureQueue.Program.Job
import CaptureQueue.Text.Style

/-! Configuration files: where they are looked for, and the commands that show, make and check
them. -/

set_option autoImplicit false
namespace CaptureQueue

namespace Config

/-- Reads a configuration file. One that cannot be read as text counts as missing. -/
def load (files : FileTree) (path : String) : Except CaptureError Config :=
  match (files.read path).toOption.bind Bytes.text? with
  | none => .error (.configNotFound path)
  | some text => (ofText text).mapError ConfigTextError.toError

end Config

namespace ConfigFile

/-- Names looked for in the working directory, in order. -/
def localNames : List String := ["capq.toml", "config.toml"]

-- The file that applies: a named one whether it is there or not, else the first that is there.
def find? (e : Surroundings) (files : FileTree) (named : Option String) : Option String :=
  match named with
  | some path => some path
  | none => (localNames ++ e.userConfig.toList).find? files.present

def record (message path : String) : LogRecord :=
  { level := .info, origin := .configCommand, message := message, fields := [("path", path)] }

def loadAt (path : String) : Job Config := do
  Job.within ("Failed to load config from " ++ path)
    (Job.ofCapture (Config.load (← get).files path))

def loadEffective (e : Surroundings) (named : Option String) : Job Config := do
  match find? e (← get).files named with
  | none => return {}
  | some path =>
    Job.log (record "Loading configuration" path)
    loadAt path

def written (c : Config) : Job String :=
  Job.within "Failed to serialize config" (Job.ofCapture (c.toText.mapError EncodeError.toError))

def showEffective (e : Surroundings) (named : Option String) : Job Unit := do
  Job.print (← written (← loadEffective e named))

def preamble : String :=
  "# capq configuration\n" ++
  "# Unset keys fall back to the values shown here.\n" ++
  "# Filters are added as [[filters]] tables with a name and a rule, e.g.\n" ++
  "#   [[filters]]\n" ++
  "#   name = \"no-arp\"\n" ++
  "#   rule = \x7b not = \x7b protocol = \"arp\" \x7d \x7d\n\n"

/-- Writes the default configuration; a file that is there is kept unless told otherwise. -/
def generate (path : String) (force : Bool) : Job Unit := do
  if !force && (← get).files.present path then
    Job.fail (.told (path ++ " already exists (use --force to overwrite)"))
  let text ← written {}
  Job.within ("Failed to write config to " ++ path) (Job.writeFile path (preamble ++ text))
  Job.log (record "Generated config file" path)
  Job.print ("Configuration file generated: " ++ path)

def summary (c : Config) : List String :=
  let interface := (c.capture.interface.bind InterfaceRequest.name?).getD InterfaceId.defaultLabel
  ["  Interface: " ++ interface, s!"  Queue capacity: {c.queue.capacity}",
    "  Drop strategy: " ++ c.queue.dropStrategy.name, s!"  Filters: {c.filters.length}"]

def validate (e : Surroundings) (named : Option String) : Job Unit := do
  let some path := find? e (← get).files named |
    Job.fail (.told "No configuration file found (see `capq config paths`)")
  let c ← loadAt path
  Job.within "Configuration validation failed" (Job.ofCapture c.validate)
  Job.print (Text.Style.green.apply e.colours "✓" ++ " Configuration is valid: " ++ path)
  Job.printAll (summary c)

def paths (e : Surroundings) : Job Unit := do
  let known := localNames.map ("./" ++ ·) ++ e.userConfig.toList
  Job.printAll (["Configuration file search paths:", "", "  0. --config <FILE> or $CAPQ_CONFIG"] ++
    known.mapIdx fun i path => s!"  {i + 1}. {path}")

end ConfigFile
end CaptureQueue
