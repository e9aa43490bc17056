import CaptureQueue.Frame.Summary

/-! Composing an Ethernet frame from the fields that matter to a filter. Checksums are zero. -/

set_option autoImplicit false
namespace CaptureQueue

inductive Carried where
  | tcp
  | udp
  | icmp
  | arp
deriving DecidableEq, Repr

/-- A frame to compose. The family of its source address is the family of the frame. -/
structure Draft where
  carried : Carried
  source : IpAddress
  destination : IpAddress
  sourcePort : UInt16 := 12345
  destinationPort : UInt16 := 80
  vlan : Option UInt16 := none
  payload : Bytes := []
deriving DecidableEq, Repr

namespace Draft

def defaultV4Source : Ipv4 := ⟨10, 0, 0, 1⟩
def defaultV4Destination : Ipv4 := ⟨10, 0, 0, 2⟩
def defaultV6Source : Ipv6 := ⟨0xfe80, 0, 0, 0, 0, 0, 0, 1⟩
def defaultV6Destination : Ipv6 := ⟨0xfe80, 0, 0, 0, 0, 0, 0, 2⟩

def overV4 (carried : Carried) : Draft where
  carried := carried
  source := .v4 defaultV4Source
  destination := .v4 defaultV4Destination

def overV6 (carried : Carried) : Draft where
  carried := carried
  source := .v6 defaultV6Source
  destination := .v6 defaultV6Destination

/-- A VLAN id keeps its low twelve bits. -/
def withVlan (id : UInt16) (d : Draft) : Draft := { d with vlan := some (id &&& 0x0FFF) }

def sourceMac : Bytes := [0x02, 0, 0, 0, 0, 0x01]
def destinationMac : Bytes := [0x02, 0, 0, 0, 0, 0x02]

def v4Or (fallback : Ipv4) : IpAddress → Ipv4
  | .v4 a => a
  | .v6 _ => fallback

def v6Or (fallback : Ipv6) : IpAddress → Ipv6
  | .v6 a => a
  | .v4 _ => fallback

def transportNumber (d : Draft) : UInt8 :=
  match d.carried, d.source with
  | .tcp, _ => TransportNumber.tcp
  | .udp, _ => TransportNumber.udp
  | .icmp, .v4 _ => TransportNumber.icmp
  | .icmp, .v6 _ => TransportNumber.icmpv6
  | .arp, _ => 0

/-- The header in front of the payload; ICMP is an echo request of the frame's family. -/
def transportHeader (d : Draft) : Bytes :=
  match d.carried with
  | .tcp =>
    Bytes.ofWord d.sourcePort ++ Bytes.ofWord d.destinationPort ++
      [0, 0, 0, 1, 0, 0, 0, 0, 0x50, 0x18, 0xFF, 0xFF, 0, 0, 0, 0]
  | .udp =>
    Bytes.ofWord d.sourcePort ++ Bytes.ofWord d.destinationPort ++
      Bytes.ofNat16 (8 + d.payload.length) ++ [0, 0]
  | .icmp =>
    let request : UInt8 := match d.source with | .v4 _ => 8 | .v6 _ => 128
    [request, 0, 0, 0, 0, 1, 0, 1]
  | .arp => []

def segment (d : Draft) : Bytes := d.transportHeader ++ d.payload

/-- An ARP request carries addresses of version 4 only, and no payload. -/
def arpRequest (d : Draft) : Bytes :=
  [0, 1] ++ Bytes.ofWord EtherType.ipv4 ++ [6, 4, 0, 1] ++
    sourceMac ++ (v4Or defaultV4Source d.source).octets ++
    [0, 0, 0, 0, 0, 0] ++ (v4Or defaultV4Destination d.destination).octets

-- The EtherType and what follows it. Length fields keep their low sixteen bits.
def body (d : Draft) : Bytes :=
  if d.carried = .arp then Bytes.ofWord EtherType.arp ++ d.arpRequest
  else
    match d.source with
    | .v6 source =>
      Bytes.ofWord EtherType.ipv6 ++ [0x60, 0, 0, 0] ++ Bytes.ofNat16 d.segment.length ++
        [d.transportNumber, 64] ++ source.octets ++
        (v6Or defaultV6Destination d.destination).octets ++ d.segment
    | .v4 source =>
      Bytes.ofWord EtherType.ipv4 ++ [0x45, 0] ++ Bytes.ofNat16 (20 + d.segment.length) ++
        [0, 0, 0x40, 0, 64, d.transportNumber, 0, 0] ++ source.octets ++
        (v4Or defaultV4Destination d.destination).octets ++ d.segment

def vlanHeader (d : Draft) : Bytes :=
  match d.vlan with
  | some id => Bytes.ofWord EtherType.vlan ++ Bytes.ofWord id
  | none => []

def frame (d : Draft) : Bytes := destinationMac ++ sourceMac ++ d.vlanHeader ++ d.body

end Draft
end CaptureQueue
