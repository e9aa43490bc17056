import CaptureQueue.Address
import CaptureQueue.Frame.Tag

/-! What the headers of an Ethernet frame say: its layers, addresses and ports. Payloads are never
read, and a header that is cut short ends the walk. -/

set_option autoImplicit false
namespace CaptureQueue

structure Summary where
  tags : TagSet := ∅
  source : Option IpAddress := none
  destination : Option IpAddress := none
  sourcePort : Option UInt16 := none
  destinationPort : Option UInt16 := none
deriving DecidableEq, Repr

namespace EtherType

def ipv4 : UInt16 := 0x0800
def arp : UInt16 := 0x0806
def vlan : UInt16 := 0x8100
def ipv6 : UInt16 := 0x86DD

end EtherType

namespace TransportNumber

def icmp : UInt8 := 1
def tcp : UInt8 := 6
def udp : UInt8 := 17
def icmpv6 : UInt8 := 58

end TransportNumber

/-! Sizes below which a header is not read. -/

def ethernetSize : Nat := 14
def vlanSize : Nat := 4
def ipv4Size : Nat := 20
def ipv6Size : Nat := 40
def tcpSize : Nat := 20
def udpSize : Nat := 8

-- What follows a version 4 header: options count as header, and the total length bounds it.
def ipv4Payload (packet : Bytes) : Bytes :=
  let header := 4 * ((packet.byteAt 0).toNat % 16)
  let start := ipv4Size + (header - ipv4Size)
  (packet.drop start).take ((packet.wordAt 2).toNat - header)

def ipv6Payload (packet : Bytes) : Bytes :=
  (packet.drop ipv6Size).take (packet.wordAt 4).toNat

namespace Summary

def tag (t : Tag) (s : Summary) : Summary := { s with tags := s.tags.insert t }

/-- Ports are the first two words of a segment long enough to hold its header. -/
def ports (size : Nat) (segment : Bytes) (s : Summary) : Summary :=
  if segment.length < size then s
  else { s with sourcePort := some (segment.wordAt 0), destinationPort := some (segment.wordAt 2) }

def transport (number : UInt8) (segment : Bytes) (s : Summary) : Summary :=
  if number = TransportNumber.tcp then (s.tag .tcp).ports tcpSize segment
  else if number = TransportNumber.udp then (s.tag .udp).ports udpSize segment
  else if number = TransportNumber.icmp then s.tag .icmp
  else if number = TransportNumber.icmpv6 then s.tag .icmpv6
  else s

def network (etherType : UInt16) (packet : Bytes) (s : Summary) : Summary :=
  if etherType = EtherType.arp then s.tag .arp
  else if etherType = EtherType.ipv4 then
    if packet.length < ipv4Size then s
    else
      let s := { s.tag .ipv4 with
        source := some (.v4 (Ipv4.readAt packet 12))
        destination := some (.v4 (Ipv4.readAt packet 16)) }
      s.transport (packet.byteAt 9) (ipv4Payload packet)
  else if etherType = EtherType.ipv6 then
    if packet.length < ipv6Size then s
    else
      let s := { s.tag .ipv6 with
        source := some (.v6 (Ipv6.readAt packet 8))
        destination := some (.v6 (Ipv6.readAt packet 24)) }
      s.transport (packet.byteAt 6) (ipv6Payload packet)
  else s

-- One VLAN tag is looked through; what follows a second is not read.
def ofFrame (frame : Bytes) : Summary :=
  if frame.length < ethernetSize then {}
  else
    let s : Summary := tag .ethernet {}
    let etherType := frame.wordAt 12
    let payload : Bytes := frame.drop ethernetSize
    if etherType = EtherType.vlan then
      let s := s.tag .vlan
      if payload.length < vlanSize then s
      else s.network (payload.wordAt 2) (payload.drop vlanSize)
    else s.network etherType payload

def touchesPort (s : Summary) (port : UInt16) : Bool :=
  s.sourcePort == some port || s.destinationPort == some port

def touchesHost (s : Summary) (host : IpAddress) : Bool :=
  s.source == some host || s.destination == some host

end Summary
end CaptureQueue
