import CaptureQueue.Proofs.Filter.Verdict
import CaptureQueue.Proofs.Frame.Composed
import CaptureQueue.Proofs.Frame.Layers

/-! Frames that get a VLAN tag on their way. The first tag moves every later header by four bytes and
adds itself to what is read; behind a second one nothing is read at all. -/

set_option autoImplicit false
namespace CaptureQueue

open Bytes

/-! ## One tag more -/

namespace Bytes

/-- Puts a tag behind the two hardware addresses. -/
def tagged (control : UInt16) (frame : Bytes) : Bytes :=
  frame.take 12 ++ ([0x81, 0x00] ++ ofWord control) ++ frame.drop 12

section

variable {frame : Bytes}

theorem length_tagged (control : UInt16) (long : 12 ≤ frame.length) :
    (frame.tagged control).length = frame.length + 4 := by
  have tag : ([0x81, 0x00] ++ ofWord control : Bytes).length = 4 := rfl
  rw [tagged, List.length_append, List.length_append, tag, List.length_take, List.length_drop]
  omega

theorem wordAt_tagged (control : UInt16) (long : 12 ≤ frame.length) :
    wordAt (frame.tagged control) 12 = EtherType.vlan := by
  have front : (frame.take 12).length = 12 := List.length_take_of_le long
  rw [tagged, List.append_assoc, wordAt_behind front]
  show word 0x81 0x00 = EtherType.vlan
  decide

theorem drop_tagged (control : UInt16) (long : 12 ≤ frame.length) (i : Nat) :
    (frame.tagged control).drop (16 + i) = frame.drop (12 + i) := by
  have front : (frame.take 12 ++ ([0x81, 0x00] ++ ofWord control)).length = 16 := by
    rw [List.length_append, List.length_take_of_le long]
    rfl
  rw [tagged, drop_behind front, List.drop_drop]

end
end Bytes

/-! ## What it adds to a summary -/

namespace TagSet

theorem insert_comm (s : TagSet) (t u : Tag) : (s.insert t).insert u = (s.insert u).insert t := by
  simp only [insert, BitVec.or_assoc, BitVec.or_comm (BitVec.twoPow 9 t.index)]

end TagSet

namespace Summary

section

variable (s : Summary) (t : Tag)

theorem tag_comm (u : Tag) : (s.tag t).tag u = (s.tag u).tag t := by
  simp only [tag, TagSet.insert_comm s.tags t u]

theorem ports_tag (size : Nat) (segment : Bytes) :
    (s.tag t).ports size segment = (s.ports size segment).tag t := by
  unfold ports
  split <;> rfl

theorem addressed_tag (header : IpHeader) :
    (s.tag t).addressed header = (s.addressed header).tag t := by
  simp only [addressed, tag, TagSet.insert_comm s.tags t]

/-- What the transport layer adds does not depend on the layers around it. -/
theorem transport_tag (number : UInt8) (segment : Bytes) :
    (s.tag t).transport number segment = (s.transport number segment).tag t := by
  obtain ⟨u, size, _, _, ported⟩ | ⟨u, unported⟩ | unknown := transport_cases number
  · rw [ported, ported, s.tag_comm, ports_tag]
  · rw [unported, unported, s.tag_comm]
  · rw [unknown, unknown]

theorem network_tag (etherType : UInt16) (packet : Bytes) :
    (s.tag t).network etherType packet = (s.network etherType packet).tag t := by
  cases found : IpHeader.ofPacket? etherType packet with
  | some header => rw [network_of_header found, network_of_header found, addressed_tag, transport_tag]
  | none =>
    rw [network_of_no_header found, network_of_no_header found]
    split
    · exact s.tag_comm t .arp
    · rfl

end

section

variable {frame : Bytes}

theorem ofFrame_tagged (control : UInt16) (long : 14 ≤ frame.length) :
    ofFrame (frame.tagged control) =
      ((tag .ethernet {}).tag .vlan).network (frame.wordAt 12) (frame.drop 14) := by
  have addresses : 12 ≤ frame.length := by omega
  have length := length_tagged control addresses
  have inner : wordAt (frame.tagged control) 16 = wordAt frame 12 := by
    rw [← wordAt_drop _ 16 0, ← wordAt_drop _ 12 0, drop_tagged control addresses 0]
  rw [ofFrame_of_tagged (by omega) (wordAt_tagged control addresses), inner,
    drop_tagged control addresses 2]

theorem ofFrame_tagged_once (control : UInt16) (long : 14 ≤ frame.length)
    (untagged : frame.wordAt 12 ≠ EtherType.vlan) :
    ofFrame (frame.tagged control) = (ofFrame frame).tag .vlan := by
  rw [ofFrame_tagged control long, ofFrame_of_untagged long untagged, network_tag]

theorem ofFrame_tagged_twice (control : UInt16) (long : 14 ≤ frame.length)
    (tagged : frame.wordAt 12 = EtherType.vlan) :
    ofFrame (frame.tagged control) = (tag .ethernet {}).tag .vlan := by
  have headless : IpHeader.ofPacket? EtherType.vlan (frame.drop 14) = none := by
    rw [IpHeader.ofPacket?, if_neg (fun held => absurd held.1 (by decide)),
      if_neg (fun held => absurd held.1 (by decide))]
  rw [ofFrame_tagged control long, tagged, network_of_no_header headless, if_neg (by decide)]

end
end Summary

/-- Packets whose headers differ by one layer are told apart by a test of that layer only. -/
theorem Aspect.alike_of_tag {p q : Packet} {t : Tag} (added : p.summary = q.summary.tag t)
    {a : Aspect} (other : a ≠ .tag t) (header : a ≠ .length) : a.Alike p q := by
  cases a with
  | tag u =>
    have apart : u ≠ t := fun same => other (congrArg Aspect.tag same)
    have same : u ∈ p.summary.tags ↔ u ∈ q.summary.tags := by
      rw [added]
      exact TagSet.mem_insert.trans (or_iff_right apart)
    exact Bool.eq_iff_iff.mpr same
  | ports =>
    intro n
    rw [added]
    rfl
  | hosts =>
    intro a
    rw [added]
    rfl
  | length => exact absurd rfl header

/-- A tag put into a frame without one is added to what is read of it, and nothing else is changed;
rules that look neither for it nor at the length do not see it. A tag put into a frame with one hides
all that is behind. -/
theorem tag_transparent_once (frame : Bytes) (long : 14 ≤ frame.length) (control : UInt16) :
    (frame.wordAt 12 ≠ EtherType.vlan →
      Summary.ofFrame (frame.tagged control) =
          { Summary.ofFrame frame with tags := (Summary.ofFrame frame).tags.insert .vlan } ∧
        ∀ rule : FilterRule, .tag .vlan ∉ rule.aspects → .length ∉ rule.aspects →
          ∀ (sequence : Nat) (timestamp : Timestamp),
            rule.matchesPacket ⟨sequence, frame.tagged control, timestamp⟩ =
              rule.matchesPacket ⟨sequence, frame, timestamp⟩) ∧
    (frame.wordAt 12 = EtherType.vlan →
      Summary.ofFrame (frame.tagged control) = {
        tags := .ofList [.vlan, .ethernet]
        source := none
        destination := none
        sourcePort := none
        destinationPort := none }) := by
  refine ⟨fun untagged => ?_, Summary.ofFrame_tagged_twice control long⟩
  have added := Summary.ofFrame_tagged_once control long untagged
  refine ⟨added, fun rule unasked unmeasured sequence timestamp => ?_⟩
  have layers : Packet.summary ⟨sequence, frame.tagged control, timestamp⟩ =
    (Packet.summary ⟨sequence, frame, timestamp⟩).tag .vlan := added
  refine rule.matchesPacket_congr fun a looked => ?_
  have other : a ≠ .tag .vlan := fun vlan => unasked (vlan ▸ looked)
  have header : a ≠ .length := fun length => unmeasured (length ▸ looked)
  exact Aspect.alike_of_tag layers other header

/-- A datagram behind one tag and behind two. With one, the rules on its port and on the tag both see
it; with two, only the rule on the tag does. -/
theorem tag_transparent_once_of_datagram :
    let frame : Bytes := (Draft.overV4 .udp).frame
    let once : Bytes := frame.tagged 7
    let rule : FilterRule := .all [.port 80, .not (.protocol .tcp)]
    14 ≤ frame.length ∧ frame.wordAt 12 ≠ EtherType.vlan ∧
      14 ≤ once.length ∧ once.wordAt 12 = EtherType.vlan ∧
      .tag .vlan ∉ rule.aspects ∧ .length ∉ rule.aspects ∧
      Summary.ofFrame once = {
        tags := .ofList [.vlan, .udp, .ipv4, .ethernet]
        source := some (.v4 ⟨10, 0, 0, 1⟩)
        destination := some (.v4 ⟨10, 0, 0, 2⟩)
        sourcePort := some 12345
        destinationPort := some 80 } ∧
      rule.matchesPacket ⟨3, once, {}⟩ = true ∧
      Summary.ofFrame (once.tagged 9) = { tags := .ofList [.vlan, .ethernet] } := by
  intro frame once rule
  have long : 14 ≤ frame.length := by decide
  have untagged : frame.wordAt 12 ≠ EtherType.vlan := by decide
  have longer : 14 ≤ once.length := by decide
  have tagged : once.wordAt 12 = EtherType.vlan := by decide
  have unasked : .tag .vlan ∉ rule.aspects := by decide
  have unmeasured : .length ∉ rule.aspects := by decide
  have read : Summary.ofFrame frame = (Draft.overV4 .udp).summary := by decide
  have matched : rule.matchesPacket ⟨3, frame, {}⟩ = true := by decide
  obtain ⟨added, verdict⟩ := (tag_transparent_once frame long 7).1 untagged
  rw [read] at added
  exact ⟨long, untagged, longer, tagged, unasked, unmeasured, added,
    (verdict rule unasked unmeasured 3 {}).trans matched, (tag_transparent_once once longer 9).2 tagged⟩

end CaptureQueue
