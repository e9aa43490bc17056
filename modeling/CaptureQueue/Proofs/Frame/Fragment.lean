import CaptureQueue.Filter.Rule
import CaptureQueue.Proofs.Frame.Composed

/-! The ports of a fragment. The fragment field of a version 4 header decides nothing that is read
from the packet, so that the data of every fragment is taken for a transport header. -/

set_option autoImplicit false
namespace CaptureQueue

open Bytes

/-- A frame that carries a packet of version 4, behind one tag or none. -/
structure FrameV4 where
  addresses : Bytes
  vlan : Option UInt16
  packet : Bytes
  sized : addresses.length = 12
  whole : ipv4Size ≤ packet.length

/-- The segment is as long as the header with ports that it is said to start with. -/
def Summary.holdsPorts (number : UInt8) (segment : Bytes) : Bool :=
  (number == TransportNumber.tcp && tcpSize ≤ segment.length) ||
    (number == TransportNumber.udp && udpSize ≤ segment.length)

theorem Bytes.byteAt_eq_head (s : Bytes) (i : Nat) : byteAt s i = (s.drop i).headD 0 := by
  rw [byteAt, List.getD_eq_getElem?_getD, List.headD_eq_head?_getD, List.head?_drop]

namespace FrameV4

def bytes (f : FrameV4) : Bytes :=
  f.addresses ++ ofVlan f.vlan ++ (ofWord EtherType.ipv4 ++ f.packet)

/-- Where in its datagram a packet goes on, in units of eight bytes. The field has three flags in
front. -/
def fragmentOffset (f : FrameV4) : Nat := (f.packet.wordAt 6).toNat % 8192

def data (f : FrameV4) : Bytes := ipv4Payload f.packet

theorem length_front (f : FrameV4) : (f.packet.take 6).length = 6 :=
  List.length_take_of_le (Nat.le_trans (by decide) f.whole)

theorem length_rewritten (f : FrameV4) (field : UInt16) :
    (f.packet.take 6 ++ (ofWord field ++ f.packet.drop 8)).length = f.packet.length := by
  have whole : 20 ≤ f.packet.length := f.whole
  rw [List.length_append, f.length_front, List.length_append, List.length_drop,
    show (ofWord field).length = 2 from rfl]
  omega

def withFragmentField (f : FrameV4) (field : UInt16) : FrameV4 where
  addresses := f.addresses
  vlan := f.vlan
  packet := f.packet.take 6 ++ (ofWord field ++ f.packet.drop 8)
  sized := f.sized
  whole := Nat.le_trans f.whole (Nat.le_of_eq (f.length_rewritten field).symm)

section

variable (f : FrameV4) (field : UInt16)

theorem fragmentOffset_withFragmentField :
    (f.withFragmentField field).fragmentOffset = field.toNat % 8192 := by
  have written : wordAt (f.withFragmentField field).packet 6 = field :=
    (wordAt_behind f.length_front _).trans (word_ofWord field)
  rw [fragmentOffset, written]

theorem drop_withFragmentField {n : Nat} (behind : 8 ≤ n) :
    (f.withFragmentField field).packet.drop n = f.packet.drop n := by
  obtain ⟨i, rfl⟩ := Nat.exists_eq_add_of_le behind
  have split : (f.withFragmentField field).packet =
      (f.packet.take 6 ++ ofWord field) ++ f.packet.drop 8 := (List.append_assoc _ _ _).symm
  have start : (f.packet.take 6 ++ ofWord field).length = 8 := by
    rw [List.length_append, f.length_front]
    rfl
  rw [split, drop_behind start, List.drop_drop]

theorem byteAt_withFragmentField {i : Nat} (apart : i < 6 ∨ 8 ≤ i) :
    byteAt (f.withFragmentField field).packet i = byteAt f.packet i := by
  obtain before | behind := apart
  · have front : (f.withFragmentField field).packet.take 6 = f.packet.take 6 := by
      rw [withFragmentField, List.take_left' f.length_front]
    rw [← byteAt_take before, front, byteAt_take before]
  · rw [byteAt_eq_head, drop_withFragmentField f field behind, ← byteAt_eq_head]

theorem data_withFragmentField : (f.withFragmentField field).data = f.data := by
  have words : byteAt (f.withFragmentField field).packet 0 = byteAt f.packet 0 :=
    byteAt_withFragmentField f field (by decide)
  have length : wordAt (f.withFragmentField field).packet 2 = wordAt f.packet 2 := by
    rw [wordAt, wordAt, byteAt_withFragmentField f field (by decide),
      byteAt_withFragmentField f field (by decide)]
  unfold data ipv4Payload
  rw [words, length]
  dsimp only
  rw [drop_withFragmentField f field (Nat.le_trans (by decide : 8 ≤ ipv4Size) (Nat.le_add_right _ _))]

end

theorem ofFrame_bytes (f : FrameV4) :
    Summary.ofFrame f.bytes = Summary.transport (f.packet.byteAt 9) f.data {
      tags := (TagSet.ofList ((if f.vlan.isSome then [.vlan] else []) ++ [.ethernet])).insert .ipv4
      source := some (.v4 (Ipv4.readAt f.packet 12))
      destination := some (.v4 (Ipv4.readAt f.packet 16)) } := by
  rw [bytes, Summary.ofFrame_headers f.sized f.vlan _ (by decide), Summary.network,
    if_neg (by decide), if_pos rfl, if_neg (Nat.not_lt.mpr f.whole)]
  rfl

theorem ofFrame_withFragmentField (f : FrameV4) (field : UInt16) :
    Summary.ofFrame (f.withFragmentField field).bytes = Summary.ofFrame f.bytes := by
  have addressed (n : Nat) (behind : 8 ≤ n) :
      Ipv4.readAt (f.withFragmentField field).packet n = Ipv4.readAt f.packet n := by
    simp only [Ipv4.readAt]
    rw [byteAt_withFragmentField f field (by omega), byteAt_withFragmentField f field (by omega),
      byteAt_withFragmentField f field (by omega), byteAt_withFragmentField f field (by omega)]
  rw [ofFrame_bytes, ofFrame_bytes, data_withFragmentField, addressed 12 (by decide),
    addressed 16 (by decide), byteAt_withFragmentField f field (by decide)]
  rfl

end FrameV4

/-! ## What rules see of it -/

theorem Summary.transport_ports {number : UInt8} {segment : Bytes} {s : Summary}
    (source : s.sourcePort = none) (destination : s.destinationPort = none) :
    (s.transport number segment).sourcePort =
        (if holdsPorts number segment then some (segment.wordAt 0) else none) ∧
      (s.transport number segment).destinationPort =
        if holdsPorts number segment then some (segment.wordAt 2) else none := by
  have found (size : Nat) (t : Tag) : ((s.tag t).ports size segment).sourcePort =
        (if size ≤ segment.length then some (segment.wordAt 0) else none) ∧
      ((s.tag t).ports size segment).destinationPort =
        if size ≤ segment.length then some (segment.wordAt 2) else none := by
    unfold ports
    by_cases whole : size ≤ segment.length
    · rw [if_neg (Nat.not_lt.mpr whole), if_pos whole, if_pos whole]
      exact ⟨rfl, rfl⟩
    · rw [if_pos (Nat.lt_of_not_le whole), if_neg whole, if_neg whole]
      exact ⟨source, destination⟩
  by_cases tcp : number = TransportNumber.tcp
  · have held : holdsPorts number segment = decide (tcpSize ≤ segment.length) := by
      rw [tcp]
      exact Bool.or_false _
    rw [transport, if_pos tcp, held]
    simpa using found tcpSize .tcp
  by_cases udp : number = TransportNumber.udp
  · have held : holdsPorts number segment = decide (udpSize ≤ segment.length) := by
      rw [udp]
      exact Bool.false_or _
    rw [transport, if_neg tcp, if_pos udp, held]
    simpa using found udpSize .udp
  · have held : holdsPorts number segment = false := by simp [holdsPorts, tcp, udp]
    rw [transport, if_neg tcp, if_neg udp, held]
    by_cases icmp : number = TransportNumber.icmp
    · rw [if_pos icmp]
      exact ⟨source, destination⟩
    · rw [if_neg icmp]
      split <;> exact ⟨source, destination⟩

namespace FrameV4

/-- What is read from a packet of version 4 does not depend on where in its datagram it goes on. The
first words of its data are its ports whenever the data is long enough, and rules match them. -/
theorem fragment_read_as_segment (f : FrameV4) :
    let summary := Summary.ofFrame f.bytes
    let ported := Summary.holdsPorts (f.packet.byteAt 9) f.data
    (∀ field : UInt16, (f.withFragmentField field).fragmentOffset = field.toNat % 8192 ∧
      Summary.ofFrame (f.withFragmentField field).bytes = summary) ∧
    summary.sourcePort = (if ported then some (f.data.wordAt 0) else none) ∧
    summary.destinationPort = (if ported then some (f.data.wordAt 2) else none) ∧
    ∀ (sequence : Nat) (timestamp : Timestamp) (port : UInt16),
      (FilterRule.port port).matchesPacket ⟨sequence, f.bytes, timestamp⟩ =
        (ported && (f.data.wordAt 0 == port || f.data.wordAt 2 == port)) := by
  intro summary ported
  have ports : summary.sourcePort = (if ported then some (f.data.wordAt 0) else none) ∧
      summary.destinationPort = (if ported then some (f.data.wordAt 2) else none) := by
    rw [show summary = _ from f.ofFrame_bytes]
    exact Summary.transport_ports rfl rfl
  refine ⟨fun field => ⟨f.fragmentOffset_withFragmentField field, f.ofFrame_withFragmentField field⟩,
    ports.1, ports.2, fun sequence timestamp port => ?_⟩
  have touched : (FilterRule.port port).matchesPacket ⟨sequence, f.bytes, timestamp⟩ =
      summary.touchesPort port := by
    rw [FilterRule.matchesPacket]
    rfl
  rw [touched, Summary.touchesPort, ports.1, ports.2]
  cases ported <;> rfl

/-- The second fragment of a datagram, 1480 bytes into it. Its first bytes are no header, and yet a
rule on port 80 matches. -/
theorem ports_of_second_fragment :
    ∃ f : FrameV4, f.bytes = ((Draft.overV4 .udp).frame.set 20 0).set 21 185 ∧
      f.fragmentOffset = 185 ∧
      (Summary.ofFrame f.bytes).sourcePort = some 12345 ∧
      (Summary.ofFrame f.bytes).destinationPort = some 80 ∧
      (FilterRule.port 80).matchesPacket { sequence := 0, data := f.bytes } = true := by
  let f : FrameV4 := {
    addresses := Draft.destinationMac ++ Draft.sourceMac
    vlan := none
    packet := (((Draft.overV4 .udp).frame.set 20 0).set 21 185).drop 14
    sized := rfl
    whole := by decide }
  exact ⟨f, by decide, by decide, by decide, by decide, by decide⟩

end FrameV4
end CaptureQueue
