import CaptureQueue.Program
import CaptureQueue.Program.LogLine

/-! The program as a command. It gathers the files and the adapters that a command line may be
about, runs the program on them, and puts in place what the program left behind. -/

set_option autoImplicit false
namespace CaptureQueue.Main

/-- The paths that lead to a path, and the path itself. -/
def pathsTo (path : String) : List String :=
  let names := Text.pieces '/' path
  (List.range names.length).map fun n => "/".intercalate (names.take (n + 1))

def gatherAt (t : FileTree) (path : String) : IO FileTree := do
  let .ok l := t.locate path | return t
  if ← (System.mkFilePath [path]).isDir then return { t with directories := l :: t.directories }
  try
    let data ← IO.FS.readBinFile path
    return { t with files := (l, data.toList) :: t.files }
  catch _ => return t

def gather (t : FileTree) (path : String) : IO FileTree := (pathsTo path).foldlM gatherAt t

def requestPaths : Request → List String
  | .generateConfig output _ => [output]
  | .validateConfig file => file.toList
  | .completions _ output => output.toList
  | _ => []

def gatherFor (e : Surroundings) (i : Invocation) : IO FileTree := do
  let g := i.globals
  let paths := ConfigFile.localNames ++ e.userConfig.toList ++ g.config.toList ++
    g.logFile.toList ++ requestPaths i.request
  let t ← paths.foldlM gather {}
  match (Program.loggingSection e { files := t } i).bind (·.file) with
  | some path => gather t path
  | none => return t

def adapterAt (name : String) : IO Adapter := do
  let read (key : String) : IO String := do
    let path := System.mkFilePath ["/sys/class/net", name, key]
    try return (← IO.FS.readFile path).trimAscii.toString
    catch _ => return ""
  let flags := Text.valueOf 16 ((← read "flags").toList.drop 2)
  return { name := name, mac := MacAddress.ofText? (← read "address"), flags := UInt32.ofNat flags }

/-- The host as far as files tell of it. Channels to the link layer are refused. -/
def readHost : IO Host := do
  let names ← try pure ((← (System.mkFilePath ["/sys/class/net"]).readDir).toList.map (·.fileName))
    catch _ => pure []
  return {
    adapters := ← (names.mergeSort (· ≤ ·)).mapM adapterAt
    openError := some (.ofErrno Errno.notPermitted) }

def userConfig : IO (Option String) := do
  let name := "/" ++ Invocation.programName ++ "/config.toml"
  match ← IO.getEnv "XDG_CONFIG_HOME", ← IO.getEnv "HOME" with
  | some directory, home =>
    if directory.startsWith "/" then return some (directory ++ name)
    else return home.map (· ++ "/.config" ++ name)
  | none, home => return home.map (· ++ "/.config" ++ name)

def logVariable : String := "RUST_LOG"

def surroundings : IO Surroundings := do
  let config ← IO.getEnv Invocation.configVariable
  return {
    environment := fun name => if name = Invocation.configVariable then config else none
    logFilter := ← IO.getEnv logVariable
    userConfig := ← userConfig
    uptime := (← IO.monoMsNow) / 1000 }

/-- Writes the files that are new or have changed. -/
def putInPlace (before after : FileTree) : IO Unit :=
  after.files.forM fun (l, data) =>
    if before.contents? l = some data then pure ()
    else IO.FS.writeBinFile l.text ⟨data.toArray⟩

def logText (ending : Program.Ending) : String :=
  String.join (ending.records.map fun r => r.line ending.format ++ "\n")

def run (words : List String) : IO UInt32 := do
  let e ← surroundings
  let files ← match Invocation.ofWords e.environment words with
    | .ok i => gatherFor e i
    | .error _ => pure {}
  let ending := Program.run e { files := files, host := ← readHost } words
  let log := logText ending
  let left := ending.workplace.files
  let after := match ending.logFile with
    | some path => (left.write path (.ofText log)).toOption.getD left
    | none => left
  putInPlace files after
  (← IO.getStdout).putStr ending.workplace.output
  (← IO.getStderr).putStr (log ++ ending.workplace.remarks ++ ending.report)
  -- No capture begins on this host, so none is without an end.
  return UInt32.ofNat (ending.status.getD 0)

end CaptureQueue.Main

def main (words : List String) : IO UInt32 := CaptureQueue.Main.run words
