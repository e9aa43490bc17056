/-! The protocol layers that can be recognised in a frame, and sets of them. -/

set_option autoImplicit false
namespace CaptureQueue

inductive Tag where
  | ethernet
  | vlan
  | arp
  | ipv4
  | ipv6
  | tcp
  | udp
  | icmp
  | icmpv6
deriving DecidableEq, Repr

namespace Tag

def all : List Tag := [.ethernet, .vlan, .arp, .ipv4, .ipv6, .tcp, .udp, .icmp, .icmpv6]

def index : Tag → Nat
  | .ethernet => 0
  | .vlan => 1
  | .arp => 2
  | .ipv4 => 3
  | .ipv6 => 4
  | .tcp => 5
  | .udp => 6
  | .icmp => 7
  | .icmpv6 => 8

def name : Tag → String
  | .ethernet => "ETHERNET"
  | .vlan => "VLAN"
  | .arp => "ARP"
  | .ipv4 => "IPV4"
  | .ipv6 => "IPV6"
  | .tcp => "TCP"
  | .udp => "UDP"
  | .icmp => "ICMP"
  | .icmpv6 => "ICMPV6"

theorem index_injective {t u : Tag} (h : t.index = u.index) : t = u := by
  cases t <;> cases u <;> first | rfl | simp [index] at h

end Tag

/-- A set of tags, one bit each. -/
structure TagSet where
  mask : BitVec 9
deriving DecidableEq, Repr

namespace TagSet

def empty : TagSet := ⟨0⟩

instance : EmptyCollection TagSet := ⟨empty⟩
instance : Inhabited TagSet := ⟨empty⟩

def contains (s : TagSet) (t : Tag) : Bool := s.mask.getLsbD t.index

def insert (t : Tag) (s : TagSet) : TagSet := ⟨s.mask ||| BitVec.twoPow 9 t.index⟩

instance : Membership Tag TagSet := ⟨fun s t => s.contains t = true⟩

instance (s : TagSet) (t : Tag) : Decidable (t ∈ s) :=
  inferInstanceAs (Decidable (s.contains t = true))

def ofList (ts : List Tag) : TagSet := ts.foldr insert empty

def toList (s : TagSet) : List Tag := Tag.all.filter s.contains

/-- The set as a number: the tag of index `i` counts `2 ^ i`. -/
def bits (s : TagSet) : Nat := s.mask.toNat

def debugText (s : TagSet) : String :=
  if s.toList.isEmpty then "ProtocolTags(0x0)"
  else "ProtocolTags(" ++ " | ".intercalate (s.toList.map Tag.name) ++ ")"

@[simp] theorem not_mem_empty (t : Tag) : ¬ t ∈ empty := by
  simp [Membership.mem, contains, empty]

@[simp] theorem mem_insert {t u : Tag} {s : TagSet} : t ∈ s.insert u ↔ t = u ∨ t ∈ s := by
  cases t <;> cases u <;> simp [Membership.mem, contains, insert, Tag.index]

theorem mem_ofList {t : Tag} {ts : List Tag} : t ∈ ofList ts ↔ t ∈ ts := by
  induction ts with
  | nil => simp [ofList]
  | cons u ts ih => simpa [ofList] using or_congr Iff.rfl ih

end TagSet
end CaptureQueue
