import CaptureQueue.Text.Blank
import CaptureQueue.Text.Number

/-! Log records, and results that carry the records emitted on the way to them. -/

set_option autoImplicit false
namespace CaptureQueue

/-- How grave a record is, gravest first. -/
inductive Level where
  | error
  | warn
  | info
  | debug
  | trace
deriving DecidableEq, Repr

namespace Level

def all : List Level := [.error, .warn, .info, .debug, .trace]

def name : Level → String
  | .error => "ERROR"
  | .warn => "WARN"
  | .info => "INFO"
  | .debug => "DEBUG"
  | .trace => "TRACE"

/-- The larger, the more is let through. -/
def rank : Level → Nat
  | .error => 1
  | .warn => 2
  | .info => 3
  | .debug => 4
  | .trace => 5

def ofName? (s : String) : Option Level :=
  all.find? fun level => Text.lowerAscii level.name.toList == Text.lowerAscii s.toList

def ofRank? (n : Nat) : Option Level := all.find? fun level => level.rank == n

def ofText? (s : String) : Option Level :=
  ((Text.number? 10 (Nat.pow 2 64) s.toList).bind ofRank?) <|> ofName? s

end Level

/-- The part of the program that a record comes from; a log filter can select by its path. -/
inductive Origin where
  | queue
  | session
  | resolver
  | datalink
  | configCommand
  | runCommand
  | program
deriving DecidableEq, Repr

namespace Origin

def path : Origin → String
  | .queue => "capq_core::queue"
  | .session => "capq_core::session"
  | .resolver => "capq_core::interface"
  | .datalink => "capq_platform::datalink"
  | .configCommand => "capq::commands::config"
  | .runCommand => "capq::commands::run"
  | .program => "capq"

end Origin

inductive Thread where
  | main
  | producer
  | consumer (number : Nat)
deriving DecidableEq, Repr

namespace Thread

def name : Thread → String
  | .main => "main"
  | .producer => "capq-producer"
  | .consumer number => s!"capq-consumer-{number}"

end Thread

inductive NotedValue where
  | truth (b : Bool)
  | text (s : String)
deriving DecidableEq, Repr

/-- A named stretch of work, which a log filter can select by its name and by what is noted on
it. -/
structure LogSpan where
  name : String
  origin : Origin
  notes : List (String × NotedValue) := []
deriving DecidableEq, Repr

structure LogRecord where
  level : Level
  origin : Origin
  message : String
  fields : List (String × String) := []
  thread : Thread := .main
  -- The stretches of work that it was emitted in.
  spans : List LogSpan := []
deriving DecidableEq, Repr

/-- A result and the records emitted on the way to it, in order. -/
structure Traced (α : Type) where
  value : α
  records : List LogRecord := []

namespace Traced

def emit (r : LogRecord) : Traced Unit := ⟨(), [r]⟩

def bind {α β : Type} (x : Traced α) (f : α → Traced β) : Traced β :=
  let y := f x.value
  ⟨y.value, x.records ++ y.records⟩

instance : Monad Traced where
  pure a := ⟨a, []⟩
  bind := bind

def onThread {α : Type} (thread : Thread) (x : Traced α) : Traced α :=
  ⟨x.value, x.records.map fun r => { r with thread := thread }⟩

def within {α : Type} (span : LogSpan) (x : Traced α) : Traced α :=
  ⟨x.value, x.records.map fun r => { r with spans := span :: r.spans }⟩

end Traced
end CaptureQueue
