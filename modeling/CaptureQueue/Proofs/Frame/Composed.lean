import CaptureQueue.Frame.Draft
import CaptureQueue.Proofs.Frame.Layers

/-! What the headers of a composed frame say. Each field is read where it was written, and the ports
are found as long as the length field, which keeps sixteen bits, still covers the transport header. -/

set_option autoImplicit false
namespace CaptureQueue

open Bytes

/-! ## What was composed, as a summary -/

namespace Draft

def headerSize (d : Draft) : Nat :=
  match d.carried with
  | .tcp => 20
  | .udp => 8
  | .icmp => 8
  | .arp => 0

def segmentSize (d : Draft) : Nat := d.headerSize + d.payload.length

/-- The part of the segment that the length field covers. Over version 4 the field counts the
network header too. -/
def coveredSize (d : Draft) : Nat :=
  match d.source with
  | .v4 _ => (20 + d.segmentSize) % 65536 - 20
  | .v6 _ => d.segmentSize % 65536

def longestSegment (d : Draft) : Nat :=
  match d.source with
  | .v4 _ => 65515
  | .v6 _ => 65535

def hasPorts (d : Draft) : Bool := d.carried = .tcp || d.carried = .udp

def networkTag (d : Draft) : Tag :=
  match d.source with
  | .v4 _ => .ipv4
  | .v6 _ => .ipv6

def transportTag (d : Draft) : Tag :=
  match d.carried, d.source with
  | .tcp, _ => .tcp
  | .udp, _ => .udp
  | .icmp, .v4 _ => .icmp
  | .icmp, .v6 _ => .icmpv6
  | .arp, _ => .arp

/-- The layers of the frame, the innermost first. -/
def layers (d : Draft) : List Tag :=
  (if d.carried = .arp then [.arp] else [d.transportTag, d.networkTag]) ++
    (if d.vlan.isSome then [.vlan] else []) ++ [.ethernet]

/-- The destination that the frame holds: one of the other family gives way to a fixed one. -/
def heldDestination (d : Draft) : IpAddress :=
  if d.destination.family = d.source.family then d.destination
  else
    match d.source with
    | .v4 _ => .v4 ⟨10, 0, 0, 2⟩
    | .v6 _ => .v6 ⟨0xfe80, 0, 0, 0, 0, 0, 0, 2⟩

def summary (d : Draft) : Summary :=
  if d.carried = .arp then { tags := .ofList d.layers }
  else
    let portsCovered := d.hasPorts && d.headerSize ≤ d.coveredSize
    { tags := .ofList d.layers
      source := some d.source
      destination := some d.heldDestination
      sourcePort := if portsCovered then some d.sourcePort else none
      destinationPort := if portsCovered then some d.destinationPort else none }

theorem length_transportHeader (d : Draft) : d.transportHeader.length = d.headerSize := by
  unfold transportHeader headerSize
  cases d.carried <;> rfl

theorem length_segment (d : Draft) : d.segment.length = d.segmentSize := by
  rw [segment, List.length_append, length_transportHeader, segmentSize]

end Draft

/-! ## Header by header -/

theorem Ipv6.readAt_octets (x : Ipv6) (rest : Bytes) : Ipv6.readAt (x.octets ++ rest) 0 = x := by
  have groups : Ipv6.readAt (x.octets ++ rest) 0 =
      ⟨word (x.a / 256).toUInt8 x.a.toUInt8, word (x.b / 256).toUInt8 x.b.toUInt8,
        word (x.c / 256).toUInt8 x.c.toUInt8, word (x.d / 256).toUInt8 x.d.toUInt8,
        word (x.e / 256).toUInt8 x.e.toUInt8, word (x.f / 256).toUInt8 x.f.toUInt8,
        word (x.g / 256).toUInt8 x.g.toUInt8, word (x.h / 256).toUInt8 x.h.toUInt8⟩ := rfl
  rw [groups]
  simp only [word_ofWord]

namespace Bytes

def ofVlan : Option UInt16 → Bytes
  | some id => ofWord EtherType.vlan ++ ofWord id
  | none => []

variable {front : Bytes} {n : Nat}

theorem wordAt_behind (sized : front.length = n) (rest : Bytes) :
    wordAt (front ++ rest) n = wordAt rest 0 := by
  subst sized
  have behind (i : Nat) : byteAt (front ++ rest) (front.length + i) = byteAt rest i := by
    rw [byteAt, byteAt, List.getD_eq_getElem?_getD, List.getD_eq_getElem?_getD,
      List.getElem?_append_right (Nat.le_add_right _ _), Nat.add_sub_cancel_left]
  rw [wordAt, behind 1, show byteAt (front ++ rest) front.length = byteAt rest 0 from behind 0]
  rfl

theorem drop_behind (sized : front.length = n) (rest : Bytes) (i : Nat) :
    (front ++ rest).drop (n + i) = rest.drop i := by
  rw [← sized, ← List.drop_drop, List.drop_left]

end Bytes

theorem Bytes.toNat_word_ofNat16 (n : Nat) :
    (word (UInt16.ofNat n / 256).toUInt8 (UInt16.ofNat n).toUInt8).toNat = n % 65536 := by
  rw [word_ofWord, UInt16.toNat_ofNat']

namespace Summary

theorem network_v4 (s : Summary) (size : Nat) (number : UInt8) (source destination : Ipv4)
    (segment : Bytes) :
    s.network EtherType.ipv4 ([0x45, 0] ++ ofNat16 size ++ [0, 0, 0x40, 0, 64, number, 0, 0] ++
        source.octets ++ destination.octets ++ segment) =
      transport number (segment.take (size % 65536 - 20)) { s.tag .ipv4 with
        source := some (.v4 source), destination := some (.v4 destination) } := by
  generalize written : [0x45, 0] ++ ofNat16 size ++ [0, 0, 0x40, 0, 64, number, 0, 0] ++
    source.octets ++ destination.octets ++ segment = packet
  have long : ¬ packet.length < ipv4Size := by
    simp [← written, ipv4Size, ofNat16, ofWord, Ipv4.octets]
  have sender : Ipv4.readAt packet 12 = source := by rw [← written]; rfl
  have receiver : Ipv4.readAt packet 16 = destination := by rw [← written]; rfl
  have carried : byteAt packet 9 = number := by rw [← written]; rfl
  have words : byteAt packet 0 = 0x45 := by rw [← written]; rfl
  have header : 4 * ((byteAt packet 0).toNat % 16) = 20 := by rw [words]; decide
  have kept : (wordAt packet 2).toNat = size % 65536 := by
    rw [← toNat_word_ofNat16, ← written]
    rfl
  have payload : ipv4Payload packet = segment.take (size % 65536 - 20) := by
    rw [ipv4Payload, header, kept, ← written]
    rfl
  unfold network
  rw [if_neg (by decide), if_pos rfl, if_neg long, sender, receiver, payload, carried]

theorem network_v6 (s : Summary) (size : Nat) (number : UInt8) (source destination : Ipv6)
    (segment : Bytes) :
    s.network EtherType.ipv6 ([0x60, 0, 0, 0] ++ ofNat16 size ++ [number, 64] ++ source.octets ++
        destination.octets ++ segment) =
      transport number (segment.take (size % 65536)) { s.tag .ipv6 with
        source := some (.v6 source), destination := some (.v6 destination) } := by
  generalize written : [0x60, 0, 0, 0] ++ ofNat16 size ++ [number, 64] ++ source.octets ++
    destination.octets ++ segment = packet
  have long : ¬ packet.length < ipv6Size := by
    simp [← written, ipv6Size, ofNat16, ofWord, Ipv6.octets, Ipv6.groups]
  have sender : Ipv6.readAt packet 8 = source := by
    rw [← written]
    exact Ipv6.readAt_octets source (destination.octets ++ segment)
  have receiver : Ipv6.readAt packet 24 = destination := by
    rw [← written]
    exact Ipv6.readAt_octets destination segment
  have carried : byteAt packet 6 = number := by rw [← written]; rfl
  have payload : ipv6Payload packet = segment.take (size % 65536) := by
    rw [← toNat_word_ofNat16, ← written]
    rfl
  unfold network
  rw [if_neg (by decide), if_neg (by decide), if_pos rfl, if_neg long, sender, receiver, payload,
    carried]

/-- A tag is looked through, and what it covers is read like the frame without it. -/
theorem ofFrame_headers {addresses : Bytes} (sized : addresses.length = 12) (vlan : Option UInt16)
    {etherType : UInt16} (packet : Bytes) (untagged : etherType ≠ EtherType.vlan) :
    ofFrame (addresses ++ ofVlan vlan ++ (ofWord etherType ++ packet)) =
      network etherType packet
        { tags := .ofList ((if vlan.isSome then [.vlan] else []) ++ [.ethernet]) } := by
  generalize written : addresses ++ ofVlan vlan ++ (ofWord etherType ++ packet) = frame
  rw [List.append_assoc] at written
  cases vlan with
  | none =>
    have long : 14 ≤ frame.length := by
      simp [← written, ofVlan, ofWord, sized]
      omega
    have outer : wordAt frame 12 = etherType := by
      rw [← written, wordAt_behind sized]
      exact word_ofWord etherType
    have payload : frame.drop (12 + 2) = packet := by
      rw [← written, drop_behind sized]
      rfl
    rw [ofFrame_of_untagged long (by rwa [outer]), outer, payload]
    rfl
  | some id =>
    have long : 18 ≤ frame.length := by
      simp [← written, ofVlan, ofWord, sized]
      omega
    have outer : wordAt frame 12 = EtherType.vlan := by
      rw [← written, wordAt_behind sized]
      exact word_ofWord EtherType.vlan
    have inner : wordAt frame (12 + 4) = etherType := by
      rw [← wordAt_drop frame (12 + 4) 0, ← written, drop_behind sized]
      exact word_ofWord etherType
    have payload : frame.drop (12 + 6) = packet := by
      rw [← written, drop_behind sized]
      rfl
    rw [ofFrame_of_tagged long outer, inner, payload]
    rfl

end Summary

namespace Draft

theorem ofFrame_headers (d : Draft) {etherType : UInt16} (packet : Bytes)
    (untagged : etherType ≠ EtherType.vlan) :
    Summary.ofFrame (destinationMac ++ sourceMac ++ d.vlanHeader ++ (ofWord etherType ++ packet)) =
      Summary.network etherType packet
        { tags := .ofList ((if d.vlan.isSome then [.vlan] else []) ++ [.ethernet]) } :=
  Summary.ofFrame_headers (show (destinationMac ++ sourceMac).length = 12 from rfl) d.vlan packet
    untagged

theorem wordAt_segment (d : Draft) (ports : d.hasPorts = true) :
    wordAt d.segment 0 = d.sourcePort ∧ wordAt d.segment 2 = d.destinationPort := by
  unfold segment transportHeader
  cases carried : d.carried with
  | tcp | udp => exact ⟨word_ofWord d.sourcePort, word_ofWord d.destinationPort⟩
  | icmp | arp => simp [hasPorts, carried] at ports

theorem transport_segment (d : Draft) (carries : d.carried ≠ .arp) (covered : Nat) (s : Summary) :
    s.transport d.transportNumber (d.segment.take covered) =
      let portsCovered := d.hasPorts && d.headerSize ≤ covered
      { s with
        tags := s.tags.insert d.transportTag
        sourcePort := if portsCovered then some d.sourcePort else s.sourcePort
        destinationPort := if portsCovered then some d.destinationPort else s.destinationPort } := by
  have whole : d.headerSize ≤ d.segment.length := by
    rw [length_segment, segmentSize]
    exact Nat.le_add_right _ _
  cases carried : d.carried with
  | tcp =>
    have ports : d.hasPorts = true := by simp [hasPorts, carried]
    have number : d.transportNumber = TransportNumber.tcp := by rw [transportNumber, carried]
    have size : d.headerSize = tcpSize := by rw [headerSize, carried]; rfl
    rw [size] at whole ⊢
    rw [number, Summary.transport, if_pos rfl, Summary.ports_of_take _ (by decide), Summary.ports,
      if_neg (Nat.not_lt.mpr whole), (d.wordAt_segment ports).1, (d.wordAt_segment ports).2,
      transportTag, carried]
    by_cases covers : tcpSize ≤ covered <;> simp [ports, covers, Summary.tag]
  | udp =>
    have ports : d.hasPorts = true := by simp [hasPorts, carried]
    have number : d.transportNumber = TransportNumber.udp := by rw [transportNumber, carried]
    have size : d.headerSize = udpSize := by rw [headerSize, carried]; rfl
    rw [size] at whole ⊢
    rw [number, Summary.transport, if_neg (by decide), if_pos rfl,
      Summary.ports_of_take _ (by decide), Summary.ports, if_neg (Nat.not_lt.mpr whole),
      (d.wordAt_segment ports).1, (d.wordAt_segment ports).2, transportTag, carried]
    by_cases covers : udpSize ≤ covered <;> simp [ports, covers, Summary.tag]
  | icmp =>
    have ports : d.hasPorts = false := by simp [hasPorts, carried]
    rw [transportNumber, transportTag, carried, ports]
    cases d.source <;> rfl
  | arp => exact absurd carried carries

theorem ofFrame_v4 (d : Draft) {source : Ipv4} (sender : d.source = .v4 source)
    (carries : d.carried ≠ .arp) :
    Summary.ofFrame d.frame =
      Summary.transport d.transportNumber (d.segment.take ((20 + d.segmentSize) % 65536 - 20)) {
        tags := (TagSet.ofList ((if d.vlan.isSome then [.vlan] else []) ++ [.ethernet])).insert .ipv4
        source := some (.v4 source)
        destination := some (.v4 (v4Or defaultV4Destination d.destination)) } := by
  have body : d.body = ofWord EtherType.ipv4 ++ ([0x45, 0] ++ ofNat16 (20 + d.segmentSize) ++
      [0, 0, 0x40, 0, 64, d.transportNumber, 0, 0] ++ source.octets ++
      (v4Or defaultV4Destination d.destination).octets ++ d.segment) := by
    rw [← length_segment, body, if_neg carries, sender]
    rfl
  rw [frame, body, d.ofFrame_headers _ (by decide), Summary.network_v4]
  rfl

theorem ofFrame_v6 (d : Draft) {source : Ipv6} (sender : d.source = .v6 source)
    (carries : d.carried ≠ .arp) :
    Summary.ofFrame d.frame =
      Summary.transport d.transportNumber (d.segment.take (d.segmentSize % 65536)) {
        tags := (TagSet.ofList ((if d.vlan.isSome then [.vlan] else []) ++ [.ethernet])).insert .ipv6
        source := some (.v6 source)
        destination := some (.v6 (v6Or defaultV6Destination d.destination)) } := by
  have body : d.body = ofWord EtherType.ipv6 ++ ([0x60, 0, 0, 0] ++ ofNat16 d.segmentSize ++
      [d.transportNumber, 64] ++ source.octets ++
      (v6Or defaultV6Destination d.destination).octets ++ d.segment) := by
    rw [← length_segment, body, if_neg carries, sender]
    rfl
  rw [frame, body, d.ofFrame_headers _ (by decide), Summary.network_v6]
  rfl

theorem heldDestination_v4 {d : Draft} {source : Ipv4} (sender : d.source = .v4 source) :
    d.heldDestination = .v4 (v4Or defaultV4Destination d.destination) := by
  unfold heldDestination
  rw [sender]
  cases d.destination <;> rfl

theorem heldDestination_v6 {d : Draft} {source : Ipv6} (sender : d.source = .v6 source) :
    d.heldDestination = .v6 (v6Or defaultV6Destination d.destination) := by
  unfold heldDestination
  rw [sender]
  cases d.destination <;> rfl

/-- A composed frame reads as what was composed. -/
theorem ofFrame_frame (d : Draft) : Summary.ofFrame d.frame = d.summary := by
  by_cases carries : d.carried = .arp
  · have body : d.body = ofWord EtherType.arp ++ d.arpRequest := by rw [body, if_pos carries]
    rw [frame, body, d.ofFrame_headers _ (by decide), summary, if_pos carries, layers,
      if_pos carries]
    rfl
  · rw [summary, if_neg carries, layers, if_neg carries]
    cases sender : d.source with
    | v4 source =>
      rw [ofFrame_v4 d sender carries, transport_segment d carries, heldDestination_v4 sender,
        coveredSize, networkTag, sender]
      rfl
    | v6 source =>
      rw [ofFrame_v6 d sender carries, transport_segment d carries, heldDestination_v6 sender,
        coveredSize, networkTag, sender]
      rfl

theorem portsCovered_of_short {d : Draft} (short : d.segmentSize ≤ d.longestSegment) :
    d.headerSize ≤ d.coveredSize := by
  have part : d.headerSize ≤ d.segmentSize := Nat.le_add_right _ _
  unfold longestSegment at short
  unfold coveredSize
  cases sender : d.source <;> rw [sender] at short <;> simp only at short ⊢ <;> omega

/-- A composed frame reads as what was composed, whatever was composed. The ports of a segment that
the length field can tell are never lost. -/
theorem composed_recovered (d : Draft) :
    Summary.ofFrame d.frame = d.summary ∧
      (d.hasPorts = true → d.segmentSize ≤ d.longestSegment →
        (Summary.ofFrame d.frame).sourcePort = some d.sourcePort ∧
          (Summary.ofFrame d.frame).destinationPort = some d.destinationPort) := by
  refine ⟨d.ofFrame_frame, fun ports short => ?_⟩
  have carries : d.carried ≠ .arp := by
    intro carries
    simp [hasPorts, carries] at ports
  rw [ofFrame_frame, summary, if_neg carries]
  simp [ports, portsCovered_of_short short]

/-- The longest datagram whose ports are found; behind one more byte they are lost, though all else
is read. The destination is of the other family than the source. -/
theorem composed_recovered_of_longest :
    let draft (size : Nat) : Draft := { overV4 .udp with
      destination := .v6 defaultV6Destination, vlan := some 7, payload := .replicate size 0 }
    (draft 65507).hasPorts = true ∧ (draft 65507).segmentSize ≤ (draft 65507).longestSegment ∧
      (Summary.ofFrame (draft 65507).frame).sourcePort = some 12345 ∧
      (Summary.ofFrame (draft 65507).frame).destinationPort = some 80 ∧
      Summary.ofFrame (draft 65508).frame = {
        tags := .ofList [.udp, .ipv4, .vlan, .ethernet]
        source := some (.v4 ⟨10, 0, 0, 1⟩)
        destination := some (.v4 ⟨10, 0, 0, 2⟩) } := by
  intro draft
  have size (n : Nat) : (draft n).segmentSize = 8 + n := congrArg (8 + ·) List.length_replicate
  have short : (draft 65507).segmentSize ≤ (draft 65507).longestSegment := by
    rw [size]
    decide
  have lost : ¬ (draft 65508).headerSize ≤ (draft 65508).coveredSize := by
    rw [show (draft 65508).coveredSize = (20 + (draft 65508).segmentSize) % 65536 - 20 from rfl, size]
    decide
  obtain ⟨source, destination⟩ := (composed_recovered (draft 65507)).2 rfl short
  refine ⟨rfl, short, source, destination, (composed_recovered (draft 65508)).1.trans ?_⟩
  rw [summary, if_neg (by decide)]
  simp only [decide_eq_false lost, Bool.and_false]
  rfl

end Draft

end CaptureQueue
