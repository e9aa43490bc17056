import CaptureQueue.Config
import CaptureQueue.Program.Invocation
import CaptureQueue.Program.LogFilter

/-! Which records are logged, how, and where to. -/

set_option autoImplicit false
namespace CaptureQueue

structure LogPlan where
  level : Level
  filter : LogFilter
  format : LogFormat
  file : Option String
deriving DecidableEq, Repr

namespace GlobalOptions

def levelOver (o : GlobalOptions) (section? : Option LoggingSettings) : Level :=
  if o.quiet then .error
  else
    match o.verbosity with
    | 0 => (section?.bind fun s => Level.ofText? s.level).getD .info
    | 1 => .debug
    | _ => .trace

/-- A section that asks for JSON is heard where the format is text. -/
def formatOver (o : GlobalOptions) (section? : Option LoggingSettings) : LogFormat :=
  if o.logFormat = .text ∧ section?.any (·.jsonFormat) then .json else o.logFormat

def fileOver (o : GlobalOptions) (section? : Option LoggingSettings) : Option String :=
  o.logFile <|> section?.bind (·.file)

end GlobalOptions

namespace LogPlan

/-- The options laid over what a configuration file says of logging, if it says anything. The text
of a filter goes before the level. -/
def ofOptions (filter : Option String) (o : GlobalOptions) (section? : Option LoggingSettings) :
    Except Fault LogPlan := do
  return {
    level := o.levelOver section?
    filter := ← LogFilter.ofText (filter.getD "") (o.levelOver section?)
    format := o.formatOver section?
    file := o.fileOver section? }

end LogPlan
end CaptureQueue
