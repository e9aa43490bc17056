import CaptureQueue.Fault
import CaptureQueue.Filter.Rule
import CaptureQueue.Text.Quoted

/-! An ordered chain of named predicates, each under a handle that is never given out twice. A
packet is admitted if every predicate admits it; the first that does not ends the search. -/

set_option autoImplicit false
namespace CaptureQueue

/-- A named admission test, which may break instead of answering. -/
structure Predicate where
  name : String
  admits : Packet → Except Fault Bool

namespace Predicate

def ofRule (name : String) (rule : FilterRule) : Predicate :=
  ⟨name, fun packet => .ok (rule.matchesPacket packet)⟩

end Predicate

structure FilterId where
  number : Nat
deriving DecidableEq, Repr

namespace FilterId

def text (id : FilterId) : String := s!"filter#{id.number}"

end FilterId

structure FilterChain where
  entries : List (FilterId × Predicate) := []
  next : Nat := 0

namespace FilterChain

def empty : FilterChain := {}

def add (c : FilterChain) (p : Predicate) : FilterChain × FilterId :=
  let id : FilterId := ⟨c.next⟩
  ({ entries := c.entries ++ [(id, p)], next := c.next + 1 }, id)

def ofList (ps : List Predicate) : FilterChain := ps.foldl (fun c p => (c.add p).1) empty

def remove (c : FilterChain) (id : FilterId) : FilterChain × Bool :=
  let kept := c.entries.filter (·.1 ≠ id)
  ({ c with entries := kept }, kept.length ≠ c.entries.length)

def allAdmit : List (FilterId × Predicate) → Packet → Except Fault Bool
  | [], _ => .ok true
  | (_, p) :: rest, packet =>
    match p.admits packet with
    | .ok true => allAdmit rest packet
    | .ok false => .ok false
    | .error fault => .error fault

def findRejection : List (FilterId × Predicate) → Packet → Except Fault (Option (FilterId × String))
  | [], _ => .ok none
  | (id, p) :: rest, packet =>
    match p.admits packet with
    | .ok true => findRejection rest packet
    | .ok false => .ok (some (id, p.name))
    | .error fault => .error fault

def admits (c : FilterChain) (packet : Packet) : Except Fault Bool := allAdmit c.entries packet

/-- Handle and name of the first predicate that does not admit the packet. -/
def firstRejection (c : FilterChain) (packet : Packet) :
    Except Fault (Option (FilterId × String)) := findRejection c.entries packet

def names (c : FilterChain) : List String := c.entries.map (·.2.name)

def debugText (c : FilterChain) : String :=
  let names := ", ".intercalate (c.names.map Text.quoted)
  "FilterChain \x7b filters: [" ++ names ++ "] \x7d"

end FilterChain
end CaptureQueue
