import CaptureQueue.Program.AdapterTable
import CaptureQueue.Program.Capture
import CaptureQueue.Program.Logging
import CaptureQueue.CommandLine.Usage

/-! The program as a whole: a command line and surroundings in, an exit status and what was printed,
logged and written out. -/

set_option autoImplicit false
namespace CaptureQueue.Program

def complete (shell : CommandLine.Shell) (output : Option String) : Job Unit := do
  let script := Invocation.grammar.completionScript shell
  match output with
  | none => modify fun w => { w with output := w.output ++ script }
  | some path =>
    Job.within ("Failed to create " ++ path) (Job.writeFile path script)
    Job.remark ("Wrote " ++ shell.name ++ " completions to " ++ path)

def execute (e : Surroundings) (i : Invocation) : Job Unit :=
  match i.request with
  | .run options => Capture.run e options i.globals.config
  | .listAdapters all json => AdapterTable.print e all json
  | .showConfig => ConfigFile.showEffective e i.globals.config
  | .generateConfig output force => ConfigFile.generate output force
  | .validateConfig file => ConfigFile.validate e (file <|> i.globals.config)
  | .configPaths => ConfigFile.paths e
  | .completions shell output => complete shell output

def banner (colours : Bool) : List String :=
  ["", Text.Style.boldGreen.apply colours Invocation.programName ++ " " ++
      Text.Style.white.apply colours ("v" ++ Invocation.version),
    Text.Style.dimmed.apply colours "bounded packet capture queue", ""]

/-- A banner goes before a capture that reports to people. -/
def wantsBanner (i : Invocation) : Bool :=
  match i.request with
  | .run options => !i.globals.quiet && !options.json
  | _ => false

def fatalRecord (f : Failure) : LogRecord :=
  { level := .error, origin := .program, message := "Fatal error: " ++ f.line }

def executeAloud (e : Surroundings) (i : Invocation) : Job Unit := do
  if wantsBanner i then Job.printAll (banner e.colours)
  tryCatch (execute e i) fun h => do
    if let .failed f := h then Job.log (fatalRecord f)
    Job.halt h

structure Ending where
  -- None, if the program goes on until somebody ends it.
  status : Option Nat
  workplace : Workplace
  report : String := ""
  format : LogFormat := .text
  records : List LogRecord := []
  logFile : Option String := none

def faultStatus : Nat := 101

def Ending.ofResult (w : Workplace) : Except Halt Unit → Ending
  | .ok () => { status := some 0, workplace := w }
  | .error (.failed f) => { status := some 1, workplace := w, report := f.report }
  | .error (.broken fault) =>
    { status := some faultStatus, workplace := { w with remarks := w.remarks ++ fault.text ++ "\n" } }
  | .error .endless => { status := none, workplace := w }

def openLog (p : LogPlan) : Job Unit :=
  match p.file with
  | none => return
  | some path => Job.within ("Failed to create log file: " ++ path) (Job.writeFile path "")

/-- What the configuration file says of logging; a file with an error says nothing. -/
def loggingSection (e : Surroundings) (w : Workplace) (i : Invocation) : Option LoggingSettings :=
  (ConfigFile.find? e w.files i.globals.config).bind fun path =>
    (Config.load w.files path).toOption.map (·.logging)

def runInvocation (e : Surroundings) (w : Workplace) (i : Invocation) : Ending :=
  match LogPlan.ofOptions e.logFilter i.globals (loggingSection e w i) with
  | .error fault => .ofResult w (.error (.broken fault))
  | .ok plan =>
    match ((openLog plan).run.run w).value with
    | (.error h, w) => .ofResult w (.error h)
    | (.ok (), w) =>
      let done := (executeAloud e i).run.run w
      { Ending.ofResult done.value.2 done.value.1 with
        format := plan.format
        records := done.records.filter plan.filter.admits
        logFile := plan.file }

def usageText (u : CommandLine.UsageError) : String :=
  let help (path : List String) : String :=
    ((Invocation.grammar.station? path).map (·.help)).getD ""
  match u with
  | .helpAsked path | .nothingGiven path => help path
  | .versionAsked => Invocation.programName ++ " " ++ Invocation.version ++ "\n"
  | _ => "error: " ++ u.message ++ "\n\nFor more information, try '--help'.\n"

def run (e : Surroundings) (w : Workplace) (words : List String) : Ending :=
  match Invocation.ofWords e.environment words with
  | .ok i => runInvocation e w i
  | .error u =>
    let text := usageText u
    if u.exitStatus = 0 then { status := some 0, workplace := { w with output := w.output ++ text } }
    else { status := some u.exitStatus, workplace := w, report := text }

end CaptureQueue.Program
