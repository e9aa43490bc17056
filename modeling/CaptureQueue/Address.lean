import CaptureQueue.Bytes

/-! Internet addresses of both families, and their octets in a header. -/

set_option autoImplicit false
namespace CaptureQueue

structure Ipv4 where
  a : UInt8
  b : UInt8
  c : UInt8
  d : UInt8
deriving DecidableEq, Repr

/-- Eight groups, the most significant first. -/
structure Ipv6 where
  a : UInt16
  b : UInt16
  c : UInt16
  d : UInt16
  e : UInt16
  f : UInt16
  g : UInt16
  h : UInt16
deriving DecidableEq, Repr

inductive IpAddress where
  | v4 (addr : Ipv4)
  | v6 (addr : Ipv6)
deriving DecidableEq, Repr

namespace Ipv4

def octets (x : Ipv4) : Bytes := [x.a, x.b, x.c, x.d]

def readAt (s : Bytes) (i : Nat) : Ipv4 :=
  ⟨s.byteAt i, s.byteAt (i + 1), s.byteAt (i + 2), s.byteAt (i + 3)⟩

end Ipv4

namespace Ipv6

def groups (x : Ipv6) : List UInt16 := [x.a, x.b, x.c, x.d, x.e, x.f, x.g, x.h]

def octets (x : Ipv6) : Bytes := x.groups.flatMap Bytes.ofWord

def readAt (s : Bytes) (i : Nat) : Ipv6 :=
  ⟨s.wordAt i, s.wordAt (i + 2), s.wordAt (i + 4), s.wordAt (i + 6),
    s.wordAt (i + 8), s.wordAt (i + 10), s.wordAt (i + 12), s.wordAt (i + 14)⟩

def ofGroups? : List UInt16 → Option Ipv6
  | [a, b, c, d, e, f, g, h] => some ⟨a, b, c, d, e, f, g, h⟩
  | _ => none

theorem ofGroups?_groups (x : Ipv6) : ofGroups? x.groups = some x := rfl

end Ipv6

namespace IpAddress

inductive Family where
  | v4
  | v6
deriving DecidableEq, Repr

def family : IpAddress → Family
  | .v4 _ => .v4
  | .v6 _ => .v6

end IpAddress
end CaptureQueue
