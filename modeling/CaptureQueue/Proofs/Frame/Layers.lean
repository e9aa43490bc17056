import CaptureQueue.Frame.Summary

/-! The walk over the headers of a frame, layer by layer: where each layer starts, and what it can add
to a summary. -/

set_option autoImplicit false
namespace CaptureQueue

open Bytes

namespace Bytes

theorem byteAt_drop (s : Bytes) (start i : Nat) : byteAt (s.drop start) i = byteAt s (start + i) := by
  simp only [byteAt, List.getD_eq_getElem?_getD, List.getElem?_drop]

theorem wordAt_drop (s : Bytes) (start i : Nat) : wordAt (s.drop start) i = wordAt s (start + i) := by
  rw [wordAt, wordAt, byteAt_drop, byteAt_drop, Nat.add_assoc]

end Bytes

/-- What is read of a network header, and the segment behind it. -/
structure IpHeader where
  tag : Tag
  source : IpAddress
  destination : IpAddress
  number : UInt8
  segment : Bytes

namespace IpHeader

def ofV4 (packet : Bytes) : IpHeader where
  tag := .ipv4
  source := .v4 (Ipv4.readAt packet 12)
  destination := .v4 (Ipv4.readAt packet 16)
  number := packet.byteAt 9
  segment := ipv4Payload packet

def ofV6 (packet : Bytes) : IpHeader where
  tag := .ipv6
  source := .v6 (Ipv6.readAt packet 8)
  destination := .v6 (Ipv6.readAt packet 24)
  number := packet.byteAt 6
  segment := ipv6Payload packet

/-- The header of a packet that holds all of its fixed part. -/
def ofPacket? (etherType : UInt16) (packet : Bytes) : Option IpHeader :=
  if etherType = EtherType.ipv4 ∧ ipv4Size ≤ packet.length then some (ofV4 packet)
  else if etherType = EtherType.ipv6 ∧ ipv6Size ≤ packet.length then some (ofV6 packet)
  else none

end IpHeader

namespace Summary

def addressed (header : IpHeader) (s : Summary) : Summary :=
  { s.tag header.tag with source := some header.source, destination := some header.destination }

theorem network_of_header {etherType : UInt16} {packet : Bytes} {header : IpHeader}
    (found : IpHeader.ofPacket? etherType packet = some header) (s : Summary) :
    s.network etherType packet = (s.addressed header).transport header.number header.segment := by
  unfold IpHeader.ofPacket? at found
  split at found
  case isTrue held =>
    obtain ⟨rfl, whole⟩ := held
    cases found
    rw [network, if_neg (by decide), if_pos rfl, if_neg (Nat.not_lt.mpr whole)]
    rfl
  case isFalse =>
    split at found
    case isTrue held =>
      obtain ⟨rfl, whole⟩ := held
      cases found
      rw [network, if_neg (by decide), if_neg (by decide), if_pos rfl, if_neg (Nat.not_lt.mpr whole)]
      rfl
    case isFalse => cases found

theorem network_of_no_header {etherType : UInt16} {packet : Bytes}
    (none : IpHeader.ofPacket? etherType packet = none) (s : Summary) :
    s.network etherType packet = if etherType = EtherType.arp then s.tag .arp else s := by
  have noV4 : ¬ (etherType = EtherType.ipv4 ∧ ipv4Size ≤ packet.length) := by
    intro held
    rw [IpHeader.ofPacket?, if_pos held] at none
    cases none
  have noV6 : ¬ (etherType = EtherType.ipv6 ∧ ipv6Size ≤ packet.length) := by
    intro held
    rw [IpHeader.ofPacket?, if_neg noV4, if_pos held] at none
    cases none
  unfold network
  split
  · rfl
  · split
    case isTrue v4 => exact if_pos (Nat.lt_of_not_le fun whole => noV4 ⟨v4, whole⟩)
    case isFalse =>
      split
      case isTrue v6 => exact if_pos (Nat.lt_of_not_le fun whole => noV6 ⟨v6, whole⟩)
      case isFalse => rfl

theorem transport_cases (number : UInt8) :
    (∃ t size, 4 ≤ size ∧ size ≤ tcpSize ∧
      ∀ segment s, transport number segment s = (s.tag t).ports size segment) ∨
    (∃ t, ∀ segment s, transport number segment s = s.tag t) ∨
    ∀ segment s, transport number segment s = s := by
  by_cases tcp : number = TransportNumber.tcp
  · exact .inl ⟨.tcp, tcpSize, by decide, by decide, fun segment s => if_pos tcp⟩
  by_cases udp : number = TransportNumber.udp
  · exact .inl ⟨.udp, udpSize, by decide, by decide, fun segment s => by
      rw [transport, if_neg tcp, if_pos udp]⟩
  by_cases icmp : number = TransportNumber.icmp
  · exact .inr (.inl ⟨.icmp, fun segment s => by
      rw [transport, if_neg tcp, if_neg udp, if_pos icmp]⟩)
  by_cases icmpv6 : number = TransportNumber.icmpv6
  · exact .inr (.inl ⟨.icmpv6, fun segment s => by
      rw [transport, if_neg tcp, if_neg udp, if_neg icmp, if_pos icmpv6]⟩)
  · exact .inr (.inr fun segment s => by
      rw [transport, if_neg tcp, if_neg udp, if_neg icmp, if_neg icmpv6])

/-- Of a segment that is cut short the ports are read if the whole header is left. -/
theorem ports_of_take (s : Summary) {size : Nat} (words : 4 ≤ size) (segment : Bytes) (kept : Nat) :
    s.ports size (segment.take kept) = if size ≤ kept then s.ports size segment else s := by
  unfold ports
  rw [List.length_take]
  by_cases covers : size ≤ kept
  · rw [if_pos covers]
    by_cases whole : size ≤ segment.length
    · rw [if_neg (by omega), if_neg (by omega), wordAt_take (by omega), wordAt_take (by omega)]
    · rw [if_pos (by omega), if_pos (by omega)]
  · rw [if_pos (by omega), if_neg covers]

/-! ## The link layer -/

section

variable {frame : Bytes}

theorem ofFrame_of_short (short : frame.length < 14) : ofFrame frame = {} := if_pos short

theorem ofFrame_of_cut_tag (long : 14 ≤ frame.length) (short : frame.length < 18)
    (tagged : frame.wordAt 12 = EtherType.vlan) : ofFrame frame = (tag .ethernet {}).tag .vlan := by
  have cut : (frame.drop ethernetSize).length < vlanSize := by
    rw [List.length_drop, ethernetSize, vlanSize]
    omega
  have outer : ¬ frame.length < ethernetSize := Nat.not_lt.mpr long
  unfold ofFrame
  rw [if_neg outer, if_pos tagged, if_pos cut]

theorem ofFrame_of_tagged (long : 18 ≤ frame.length) (tagged : frame.wordAt 12 = EtherType.vlan) :
    ofFrame frame = ((tag .ethernet {}).tag .vlan).network (frame.wordAt 16) (frame.drop 18) := by
  have whole : ¬ (frame.drop ethernetSize).length < vlanSize := by
    rw [List.length_drop, ethernetSize, vlanSize]
    omega
  have outer : ¬ frame.length < ethernetSize := Nat.not_lt.mpr (Nat.le_trans (by decide) long)
  unfold ofFrame
  rw [if_neg outer, if_pos tagged, if_neg whole, wordAt_drop, List.drop_drop]
  rfl

theorem ofFrame_of_untagged (long : 14 ≤ frame.length) (untagged : frame.wordAt 12 ≠ EtherType.vlan) :
    ofFrame frame = (tag .ethernet {}).network (frame.wordAt 12) (frame.drop 14) := by
  have outer : ¬ frame.length < ethernetSize := Nat.not_lt.mpr long
  unfold ofFrame
  rw [if_neg outer, if_neg untagged]
  rfl

end
end Summary
end CaptureQueue
