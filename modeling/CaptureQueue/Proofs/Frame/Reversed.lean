import CaptureQueue.Proofs.Filter.Verdict
import CaptureQueue.Proofs.Frame.Composed

/-! Frames of the two directions between a pair of endpoints. What is read of one is what is read of the
other with its ends exchanged, and no rule tells them apart. -/

set_option autoImplicit false
namespace CaptureQueue

namespace Summary

def reversed (s : Summary) : Summary where
  tags := s.tags
  source := s.destination
  destination := s.source
  sourcePort := s.destinationPort
  destinationPort := s.sourcePort

end Summary

theorem Aspect.alike_of_reversed {p q : Packet} (turned : q.summary = p.summary.reversed) {a : Aspect}
    (header : a ≠ .length) : a.Alike p q := by
  cases a with
  | tag t => exact (congrArg (fun s : Summary => s.tags.contains t) turned).symm
  | ports =>
    intro n
    rw [turned]
    exact Bool.or_comm _ _
  | hosts =>
    intro a
    rw [turned]
    exact Bool.or_comm _ _
  | length => exact absurd rfl header

namespace Draft

def reversed (d : Draft) : Draft :=
  { d with
    source := d.destination
    destination := d.source
    sourcePort := d.destinationPort
    destinationPort := d.sourcePort }

section

variable {d : Draft}

theorem segmentSize_reversed (d : Draft) : d.reversed.segmentSize = d.segmentSize := rfl

theorem heldDestination_of_family (oneFamily : d.source.family = d.destination.family) :
    d.heldDestination = d.destination := if_pos oneFamily.symm

/-- What depends on a source only by its family. -/
theorem family_reversed (oneFamily : d.source.family = d.destination.family) :
    d.reversed.networkTag = d.networkTag ∧ d.reversed.transportTag = d.transportTag ∧
      d.reversed.coveredSize = d.coveredSize := by
  obtain ⟨carried, source, destination, _, _, _, _⟩ := d
  cases source <;> cases destination
  case v4.v4 | v6.v6 => cases carried <;> exact ⟨rfl, rfl, rfl⟩
  case v4.v6 | v6.v4 => nomatch oneFamily

theorem summary_reversed (oneFamily : d.source.family = d.destination.family) :
    d.reversed.summary = d.summary.reversed := by
  obtain ⟨network, transport, covered⟩ := family_reversed oneFamily
  have layers : d.reversed.layers = d.layers := by
    unfold layers
    rw [network, transport]
    rfl
  have held : d.reversed.heldDestination = d.source :=
    heldDestination_of_family (d := d.reversed) oneFamily.symm
  unfold summary
  rw [layers, covered, held, heldDestination_of_family oneFamily]
  show (if d.carried = .arp then _ else _) = _
  split <;> rfl

/-- Addresses of one family are as long as each other, and so are the headers that hold them. -/
theorem length_body (d : Draft) : d.body.length =
    if d.carried = .arp then 30
    else (match d.source.family with | .v4 => 22 | .v6 => 42) + d.segmentSize := by
  unfold body
  split
  · rfl
  · cases d.source <;>
      simp only [List.length_append, length_segment, IpAddress.family] <;> rfl

theorem length_frame_reversed (oneFamily : d.source.family = d.destination.family) :
    d.reversed.frame.length = d.frame.length := by
  have body : d.reversed.body.length = d.body.length := by
    rw [length_body, length_body, segmentSize_reversed, oneFamily]
    rfl
  have front : d.reversed.vlanHeader = d.vlanHeader := rfl
  simp only [frame, List.length_append, front, body]

end

/-- A rule, however it is put together, matches a composed frame exactly if it matches the frame of the
other direction. Of that frame the same is read with the ends exchanged, and it is as long. -/
theorem rules_see_no_direction (d : Draft) (oneFamily : d.source.family = d.destination.family)
    (rule : FilterRule) (sequence sequence' : Nat) (timestamp timestamp' : Timestamp) :
    rule.matchesPacket ⟨sequence, d.frame, timestamp⟩ =
      rule.matchesPacket ⟨sequence', d.reversed.frame, timestamp'⟩ := by
  have turned : Packet.summary ⟨sequence', d.reversed.frame, timestamp'⟩ =
      (Packet.summary ⟨sequence, d.frame, timestamp⟩).reversed := by
    rw [Packet.summary, Packet.summary, ofFrame_frame, ofFrame_frame, summary_reversed oneFamily]
  refine rule.matchesPacket_congr fun a _ => ?_
  by_cases measured : a = .length
  · rw [measured]
    exact (length_frame_reversed oneFamily).symm
  · exact Aspect.alike_of_reversed turned measured

theorem rules_see_no_direction_of_web :
    let d : Draft := { (overV6 .tcp).withVlan 7 with sourcePort := 443, payload := [1, 2, 3] }
    let rule : FilterRule := .all [.any [.port 443, .not (.host (.v6 defaultV6Source))],
      .not (.length { max := some 80 }), .protocol .vlan]
    d.source.family = d.destination.family ∧ d.frame ≠ d.reversed.frame ∧
      rule.matchesPacket ⟨0, d.frame, {}⟩ = true ∧ rule.matchesPacket ⟨1, d.reversed.frame, {}⟩ = true := by
  intro d rule
  have oneFamily : d.source.family = d.destination.family := rfl
  have matched : rule.matchesPacket ⟨0, d.frame, {}⟩ = true := by decide
  have back := rules_see_no_direction d oneFamily rule 0 1 {} {}
  exact ⟨oneFamily, by decide, matched, back.symm.trans matched⟩

end Draft
end CaptureQueue
