import CaptureQueue.Address.Text
import CaptureQueue.Packet

/-! Match expressions over the headers and the length of a packet. -/

set_option autoImplicit false
namespace CaptureQueue

inductive Protocol where
  | vlan
  | arp
  | ipv4
  | ipv6
  | tcp
  | udp
  | icmp
  | icmpv6
deriving DecidableEq, Repr

namespace Protocol

def all : List Protocol := [.vlan, .arp, .ipv4, .ipv6, .tcp, .udp, .icmp, .icmpv6]

def tag : Protocol → Tag
  | .vlan => .vlan
  | .arp => .arp
  | .ipv4 => .ipv4
  | .ipv6 => .ipv6
  | .tcp => .tcp
  | .udp => .udp
  | .icmp => .icmp
  | .icmpv6 => .icmpv6

def name : Protocol → String
  | .vlan => "vlan"
  | .arp => "arp"
  | .ipv4 => "ipv4"
  | .ipv6 => "ipv6"
  | .tcp => "tcp"
  | .udp => "udp"
  | .icmp => "icmp"
  | .icmpv6 => "icmpv6"

def ofName? (s : String) : Option Protocol := all.find? (·.name == s)

end Protocol

/-- Bounds on a length, both included; a bound may be left open. -/
structure LengthRange where
  min : Option Nat := none
  max : Option Nat := none
deriving DecidableEq, Repr

namespace LengthRange

def contains (r : LengthRange) (n : Nat) : Bool :=
  r.min.all (· ≤ n) && r.max.all (n ≤ ·)

def text (r : LengthRange) : String :=
  match r.min, r.max with
  | some lo, some hi => s!"len {lo}..={hi}"
  | some lo, none => s!"len >= {lo}"
  | none, some hi => s!"len <= {hi}"
  | none, none => "len any"

end LengthRange

inductive FilterRule where
  | protocol (p : Protocol)
  | port (n : UInt16)
  | host (a : IpAddress)
  | length (r : LengthRange)
  | all (rules : List FilterRule)
  | any (rules : List FilterRule)
  | not (rule : FilterRule)
deriving Repr

/-- A rule that no packet could be meant by. -/
inductive RuleFlaw where
  | portZero
  | reversedLength (min max : Nat)
deriving DecidableEq, Repr

namespace RuleFlaw

def message : RuleFlaw → String
  | .portZero => "port must be in 1-65535"
  | .reversedLength min max => s!"length min {min} exceeds max {max}"

end RuleFlaw

namespace FilterRule

mutual

def beq : FilterRule → FilterRule → Bool
  | .protocol p, .protocol q => p == q
  | .port m, .port n => m == n
  | .host a, .host b => a == b
  | .length r, .length s => r == s
  | .all rs, .all ss => beqList rs ss
  | .any rs, .any ss => beqList rs ss
  | .not r, .not s => beq r s
  | _, _ => false

def beqList : List FilterRule → List FilterRule → Bool
  | [], [] => true
  | r :: rs, s :: ss => beq r s && beqList rs ss
  | _, _ => false

end

instance : BEq FilterRule := ⟨beq⟩

mutual

def matchesPacket : FilterRule → Packet → Bool
  | .protocol p, packet => packet.tags.contains p.tag
  | .port n, packet => packet.summary.touchesPort n
  | .host a, packet => packet.summary.touchesHost a
  | .length r, packet => r.contains packet.data.length
  | .all rules, packet => allMatch rules packet
  | .any rules, packet => anyMatches rules packet
  | .not rule, packet => !matchesPacket rule packet

def allMatch : List FilterRule → Packet → Bool
  | [], _ => true
  | rule :: rules, packet => matchesPacket rule packet && allMatch rules packet

def anyMatches : List FilterRule → Packet → Bool
  | [], _ => false
  | rule :: rules, packet => matchesPacket rule packet || anyMatches rules packet

end

mutual

/-- The first flaw from the left, a rule before its parts. -/
def flaw? : FilterRule → Option RuleFlaw
  | .port n => if n = 0 then some .portZero else none
  | .length ⟨some lo, some hi⟩ => if hi < lo then some (.reversedLength lo hi) else none
  | .all rules => firstFlaw? rules
  | .any rules => firstFlaw? rules
  | .not rule => flaw? rule
  | _ => none

def firstFlaw? : List FilterRule → Option RuleFlaw
  | [] => none
  | rule :: rules => (flaw? rule).or (firstFlaw? rules)

end

mutual

def text : FilterRule → String
  | .protocol p => p.name
  | .port n => s!"port {n.toNat}"
  | .host a => "host " ++ a.text
  | .length r => r.text
  | .all rules => "all(" ++ ", ".intercalate (texts rules) ++ ")"
  | .any rules => "any(" ++ ", ".intercalate (texts rules) ++ ")"
  | .not rule => "not " ++ text rule

def texts : List FilterRule → List String
  | [] => []
  | rule :: rules => text rule :: texts rules

end

end FilterRule
end CaptureQueue
