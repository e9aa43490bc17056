import CaptureQueue.Packet
import CaptureQueue.Fault
import CaptureQueue.Text.Blank
import CaptureQueue.Text.Quoted

/-! What a full queue does with one more packet: the four decisions, and strategies that choose
among them. -/

set_option autoImplicit false
namespace CaptureQueue

inductive DropDecision where
  | dropIncoming
  | dropOldest
  | dropNewestQueued
  | rejectAndSignal
deriving DecidableEq, Repr

namespace DropDecision

def all : List DropDecision := [.dropIncoming, .dropOldest, .dropNewestQueued, .rejectAndSignal]

def name : DropDecision → String
  | .dropIncoming => "drop_incoming"
  | .dropOldest => "drop_oldest"
  | .dropNewestQueued => "drop_newest_queued"
  | .rejectAndSignal => "reject_and_signal"

def discards : DropDecision → Bool
  | .rejectAndSignal => false
  | _ => true

def ofName? (s : String) : Option DropDecision := all.find? (·.name == s)

def standard : DropDecision := .dropOldest

/-- Reads a name in either case, with hyphens or underscores, and blanks around it. -/
def ofText? (s : String) : Option DropDecision :=
  let plain := (Text.lowerAscii (Text.trim s.toList)).map fun c => if c = '-' then '_' else c
  ofName? (String.ofList plain)

def unknownMessage (s : String) : String :=
  "unknown drop strategy '" ++ s ++ "', expected one of: " ++ ", ".intercalate (all.map name)

end DropDecision

/-- A full queue as a strategy sees it. -/
structure QueueView where
  capacity : Nat
  occupancy : Nat
  oldest : Option Nat
  newest : Option Nat
deriving DecidableEq, Repr

namespace QueueView

def isFull (v : QueueView) : Bool := v.capacity ≤ v.occupancy

end QueueView

/-- A named choice among the decisions. It is told how often it was asked before, sees the queue
and the packet that does not fit, and may break instead of answering. -/
structure DropStrategy where
  name : String
  onOverflow : Nat → QueueView → Packet → Except Fault DropDecision

namespace DropStrategy

def always (d : DropDecision) : DropStrategy := ⟨d.name, fun _ _ _ => .ok d⟩

/-- Makes the decisions of a list in turn, and starts again at its end. -/
def cycling (name : String) (decisions : List DropDecision) : DropStrategy :=
  ⟨name, fun turn _ _ =>
    match decisions[turn % decisions.length]? with
    | some d => .ok d
    | none => .error (.ofText "no decision to make")⟩

/-- Keeps packets that carry a tag at the cost of the oldest, and drops all others. -/
def favouring (name : String) (tag : Tag) : DropStrategy :=
  ⟨name, fun _ _ packet => .ok (if packet.tags.contains tag then .dropOldest else .dropIncoming)⟩

def debugText (s : DropStrategy) : String :=
  "DropStrategy \x7b name: " ++ Text.quoted s.name ++ " \x7d"

end DropStrategy
end CaptureQueue
