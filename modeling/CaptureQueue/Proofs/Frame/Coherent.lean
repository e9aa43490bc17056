import CaptureQueue.Filter.Rule
import CaptureQueue.Frame.Draft
import CaptureQueue.Proofs.Frame.Truncated

/-! What is read of a frame never contradicts itself, wherever the walk over its headers ends: each
layer stands on one below it, and addresses and ports only appear with the layers that have them. -/

set_option autoImplicit false
namespace CaptureQueue

namespace Tag

inductive Layer where
  | link
  | network
  | transport
deriving DecidableEq, Repr

def layer : Tag → Layer
  | .ethernet | .vlan => .link
  | .arp | .ipv4 | .ipv6 => .network
  | .tcp | .udp | .icmp | .icmpv6 => .transport

end Tag

theorem IpHeader.family_of_ofPacket? {etherType : UInt16} {packet : Bytes} {header : IpHeader}
    (found : ofPacket? etherType packet = some header) :
    (header.tag = .ipv4 ∧ header.source.family = .v4 ∧ header.destination.family = .v4) ∨
      (header.tag = .ipv6 ∧ header.source.family = .v6 ∧ header.destination.family = .v6) := by
  unfold ofPacket? at found
  split at found
  · cases found
    exact .inl ⟨rfl, rfl, rfl⟩
  · split at found
    · cases found
      exact .inr ⟨rfl, rfl, rfl⟩
    · cases found

namespace Summary

theorem mem_tag {s : Summary} {t u : Tag} : t ∈ (s.tag u).tags ↔ t = u ∨ t ∈ s.tags :=
  TagSet.mem_insert

def family? (s : Summary) : Option IpAddress.Family :=
  if .ipv4 ∈ s.tags then some .v4 else if .ipv6 ∈ s.tags then some .v6 else none

structure Coherent (s : Summary) : Prop where
  framed : ∀ t ∈ s.tags, .ethernet ∈ s.tags
  single : ∀ t ∈ s.tags, ∀ u ∈ s.tags, t.layer = u.layer → t.layer ≠ .link → t = u
  carried : ∀ t ∈ s.tags, t.layer = .transport → .ipv4 ∈ s.tags ∨ .ipv6 ∈ s.tags
  source : s.source.map IpAddress.family = s.family?
  destination : s.destination.map IpAddress.family = s.family?
  paired : s.sourcePort.isSome = s.destinationPort.isSome
  ported : s.sourcePort.isSome = true → .tcp ∈ s.tags ∨ .udp ∈ s.tags

/-! ## Layer by layer -/

section

variable {s : Summary}

theorem Portless.paired (portless : s.Portless) : s.sourcePort.isSome = s.destinationPort.isSome := by
  rw [portless.1, portless.2]

theorem Portless.ported (portless : s.Portless) :
    s.sourcePort.isSome = true → .tcp ∈ s.tags ∨ .udp ∈ s.tags := by
  rw [portless.1]
  exact fun found => nomatch found

theorem Coherent.of_addressless (framed : ∀ t ∈ s.tags, .ethernet ∈ s.tags)
    (single : ∀ t ∈ s.tags, ∀ u ∈ s.tags, t.layer = u.layer → t.layer ≠ .link → t = u)
    (below : ∀ t ∈ s.tags, t.layer = .link ∨ t = .arp)
    (addressless : s.Addressless) (portless : s.Portless) : s.Coherent := by
  have v4 : .ipv4 ∉ s.tags := fun said => absurd (below .ipv4 said) (by decide)
  have v6 : .ipv6 ∉ s.tags := fun said => absurd (below .ipv6 said) (by decide)
  have family : s.family? = none := by rw [family?, if_neg v4, if_neg v6]
  refine ⟨framed, single, ?_, ?_, ?_, portless.paired, portless.ported⟩
  · intro t said transport
    obtain link | rfl := below t said
    · nomatch link.symm.trans transport
    · nomatch transport
  · rw [addressless.1, family, Option.map_none]
  · rw [addressless.2, family, Option.map_none]

theorem Coherent.ports (h : s.Coherent) (ported : .tcp ∈ s.tags ∨ .udp ∈ s.tags) (size : Nat)
    (segment : Bytes) : (s.ports size segment).Coherent := by
  unfold Summary.ports
  split
  case isTrue => exact h
  case isFalse =>
    refine ⟨h.framed, h.single, h.carried, h.source, h.destination, ?_, fun _ => ported⟩
    simp only [Option.isSome_some]

theorem coherent_empty : ({} : Summary).Coherent := by
  have none (t : Tag) : t ∉ ({} : Summary).tags := TagSet.not_mem_empty t
  exact .of_addressless (fun t said => absurd said (none t)) (fun t said => absurd said (none t))
    (fun t said => absurd said (none t)) ⟨rfl, rfl⟩ ⟨rfl, rfl⟩

structure Linked (s : Summary) : Prop where
  framed : .ethernet ∈ s.tags
  link : ∀ t ∈ s.tags, t.layer = .link
  addressless : s.Addressless
  portless : s.Portless

/-- Read up to a network layer with addresses. -/
structure Networked (s : Summary) : Prop where
  coherent : s.Coherent
  addressed : .ipv4 ∈ s.tags ∨ .ipv6 ∈ s.tags
  below : ∀ t ∈ s.tags, t.layer ≠ .transport
  portless : s.Portless

namespace Linked

theorem ethernet : (tag .ethernet {}).Linked where
  framed := mem_tag.mpr (.inl rfl)
  link t said := by
    obtain rfl | said := mem_tag.mp said
    · rfl
    · exact absurd said (TagSet.not_mem_empty t)
  addressless := ⟨rfl, rfl⟩
  portless := ⟨rfl, rfl⟩

theorem vlan (h : s.Linked) : (s.tag .vlan).Linked where
  framed := mem_tag.mpr (.inr h.framed)
  link t said := by
    obtain rfl | said := mem_tag.mp said
    · rfl
    · exact h.link t said
  addressless := h.addressless
  portless := h.portless

theorem coherent (h : s.Linked) : s.Coherent :=
  .of_addressless (fun _ _ => h.framed) (fun t said _ _ _ higher => absurd (h.link t said) higher)
    (fun t said => .inl (h.link t said)) h.addressless h.portless

/-- The first tag above the link layer is the only one there. -/
theorem single_tag (h : s.Linked) (u : Tag) : ∀ t ∈ (s.tag u).tags, ∀ t' ∈ (s.tag u).tags,
    t.layer = t'.layer → t.layer ≠ .link → t = t' := by
  intro t said t' said' same higher
  obtain rfl | said := mem_tag.mp said
  · obtain rfl | said' := mem_tag.mp said'
    · rfl
    · exact absurd (same.trans (h.link t' said')) higher
  · exact absurd (h.link t said) higher

theorem arp (h : s.Linked) : (s.tag .arp).Coherent := by
  refine .of_addressless (fun _ _ => mem_tag.mpr (.inr h.framed)) (h.single_tag .arp) ?_
    h.addressless h.portless
  intro t said
  exact (mem_tag.mp said).symm.imp_left (h.link t)

/-- A header adds its network layer, and addresses of the family of that layer. -/
theorem addressed (h : s.Linked) {etherType : UInt16} {packet : Bytes} {header : IpHeader}
    (found : IpHeader.ofPacket? etherType packet = some header) : (s.addressed header).Networked := by
  have said (t : Tag) : t ∈ (s.addressed header).tags ↔ t = header.tag ∨ t ∈ s.tags := mem_tag
  have no4 : .ipv4 ∉ s.tags := fun held => absurd (h.link .ipv4 held) (by decide)
  have no6 : .ipv6 ∉ s.tags := fun held => absurd (h.link .ipv6 held) (by decide)
  have family : header.tag.layer = .network ∧ (header.tag = .ipv4 ∨ header.tag = .ipv6) ∧
      (s.addressed header).family? = some header.source.family ∧
      header.destination.family = header.source.family := by
    obtain ⟨v4, source, destination⟩ | ⟨v6, source, destination⟩ := IpHeader.family_of_ofPacket? found
    · simp [family?, said, v4, source, destination, Tag.layer]
    · simp [family?, said, v6, source, destination, no4, Tag.layer]
  obtain ⟨layer, addressed, source, destination⟩ := family
  have below : ∀ t ∈ (s.addressed header).tags, t.layer ≠ .transport := by
    intro t held
    obtain rfl | held := (said t).mp held
    · rw [layer]
      decide
    · rw [h.link t held]
      decide
  refine ⟨⟨?_, h.single_tag header.tag, ?_, source.symm, ?_, h.portless.paired, ?_⟩, ?_, below, h.portless⟩
  · exact fun _ _ => (said _).mpr (.inr h.framed)
  · exact fun t held transport => absurd transport (below t held)
  · rw [source, ← destination]
    rfl
  · exact (h.portless.addressed header).ported
  · exact addressed.imp (fun v4 => (said _).mpr (.inl v4.symm)) fun v6 => (said _).mpr (.inl v6.symm)

end Linked

namespace Networked

theorem tag (h : s.Networked) {u : Tag} (higher : u.layer = .transport) : (s.tag u).Coherent := by
  have family : (s.tag u).family? = s.family? := by
    have no4 : Tag.ipv4 ≠ u := by
      rintro rfl
      nomatch higher
    have no6 : Tag.ipv6 ≠ u := by
      rintro rfl
      nomatch higher
    simp only [family?, mem_tag, no4, no6, false_or]
  refine ⟨?_, ?_, ?_, ?_, ?_, h.portless.paired, (h.portless.tag u).ported⟩
  · intro t said
    obtain rfl | said := mem_tag.mp said
    · exact mem_tag.mpr (.inr (h.addressed.elim (h.coherent.framed _) (h.coherent.framed _)))
    · exact mem_tag.mpr (.inr (h.coherent.framed t said))
  · intro t said t' said' same upper
    obtain first | said := mem_tag.mp said <;> obtain second | said' := mem_tag.mp said'
    · rw [first, second]
    · exact absurd (same.symm.trans (first ▸ higher)) (h.below t' said')
    · exact absurd (same.trans (second ▸ higher)) (h.below t said)
    · exact h.coherent.single t said t' said' same upper
  · exact fun _ _ _ => h.addressed.imp (fun v4 => mem_tag.mpr (.inr v4)) fun v6 => mem_tag.mpr (.inr v6)
  · exact h.coherent.source.trans family.symm
  · exact h.coherent.destination.trans family.symm

theorem transport (h : s.Networked) (number : UInt8) (segment : Bytes) :
    (s.transport number segment).Coherent := by
  unfold Summary.transport
  split
  · exact (h.tag rfl).ports (.inl (mem_tag.mpr (.inl rfl))) _ _
  · split
    · exact (h.tag rfl).ports (.inr (mem_tag.mpr (.inl rfl))) _ _
    · split
      · exact h.tag rfl
      · split
        · exact h.tag rfl
        · exact h.coherent

end Networked

theorem Linked.network (h : s.Linked) (etherType : UInt16) (packet : Bytes) :
    (s.network etherType packet).Coherent := by
  cases found : IpHeader.ofPacket? etherType packet with
  | some header =>
    rw [network_of_header found]
    exact (h.addressed found).transport _ _
  | none =>
    rw [network_of_no_header found]
    split
    · exact h.arp
    · exact h.coherent

end

theorem coherent_ofFrame (frame : Bytes) : (ofFrame frame).Coherent := by
  by_cases short : frame.length < 14
  · rw [ofFrame_of_short short]
    exact coherent_empty
  by_cases tagged : frame.wordAt 12 = EtherType.vlan
  · by_cases cut : frame.length < 18
    · rw [ofFrame_of_cut_tag (by omega) cut tagged]
      exact Linked.ethernet.vlan.coherent
    · rw [ofFrame_of_tagged (by omega) tagged]
      exact Linked.ethernet.vlan.network _ _
  · rw [ofFrame_of_untagged (by omega) tagged]
    exact Linked.ethernet.network _ _

theorem ethernet_mem_ofFrame_iff (frame : Bytes) :
    .ethernet ∈ (ofFrame frame).tags ↔ 14 ≤ frame.length := by
  constructor
  · intro said
    by_contra short
    rw [ofFrame_of_short (Nat.lt_of_not_le short)] at said
    exact TagSet.not_mem_empty _ said
  · intro long
    have read : tag .ethernet {} ≤ ofFrame frame := by
      by_cases tagged : frame.wordAt 12 = EtherType.vlan
      · exact (le_tag _ _).trans (tagged_le_ofFrame long tagged)
      · rw [ofFrame_of_untagged long tagged]
        exact le_network ⟨rfl, rfl⟩ ⟨rfl, rfl⟩ _ _
    exact read.tags .ethernet (mem_tag.mpr (.inl rfl))

theorem Coherent.ported_of_touchesPort {s : Summary} (h : s.Coherent) {n : UInt16}
    (touched : s.touchesPort n = true) : .tcp ∈ s.tags ∨ .udp ∈ s.tags := by
  refine h.ported ?_
  simp only [touchesPort, Bool.or_eq_true, beq_iff_eq] at touched
  obtain source | destination := touched
  · rw [source, Option.isSome_some]
  · rw [h.paired, destination, Option.isSome_some]

theorem Coherent.addressed_of_touchesHost {s : Summary} (h : s.Coherent) {a : IpAddress}
    (touched : s.touchesHost a = true) : .ipv4 ∈ s.tags ∨ .ipv6 ∈ s.tags := by
  have family : s.family? = some a.family := by
    simp only [touchesHost, Bool.or_eq_true, beq_iff_eq] at touched
    obtain source | destination := touched
    · rw [← h.source, source, Option.map_some]
    · rw [← h.destination, destination, Option.map_some]
  by_contra none
  obtain ⟨v4, v6⟩ := not_or.mp none
  rw [family?, if_neg v4, if_neg v6] at family
  cases family

end Summary

theorem FilterRule.anyOf_iff {p : Packet} (x y : Protocol) :
    (FilterRule.any [.protocol x, .protocol y]).matchesPacket p = true ↔ x.tag ∈ p.tags ∨ y.tag ∈ p.tags := by
  simp only [matchesPacket, anyMatches, Bool.or_false, Bool.or_eq_true]
  exact Iff.rfl

namespace Summary

/-- What is read of a frame is coherent, whatever its bytes, so that a rule on a port only matches what
has a layer with ports, and a rule on a host what has a layer with addresses. -/
theorem read_coherently :
    (∀ frame : Bytes,
      (.ethernet ∈ (ofFrame frame).tags ↔ 14 ≤ frame.length) ∧ (ofFrame frame).Coherent) ∧
    ∀ p : Packet,
      (∀ n, (FilterRule.port n).matchesPacket p = true →
        (FilterRule.any [.protocol .tcp, .protocol .udp]).matchesPacket p = true) ∧
      ∀ a, (FilterRule.host a).matchesPacket p = true →
        (FilterRule.any [.protocol .ipv4, .protocol .ipv6]).matchesPacket p = true := by
  refine ⟨fun frame => ⟨ethernet_mem_ofFrame_iff frame, coherent_ofFrame frame⟩, fun p => ⟨?_, ?_⟩⟩
  · intro n matched
    rw [FilterRule.matchesPacket] at matched
    exact (FilterRule.anyOf_iff .tcp .udp).mpr ((coherent_ofFrame p.data).ported_of_touchesPort matched)
  · intro a matched
    rw [FilterRule.matchesPacket] at matched
    exact (FilterRule.anyOf_iff .ipv4 .ipv6).mpr
      ((coherent_ofFrame p.data).addressed_of_touchesHost matched)

/-- A tagged datagram of version 6, and the same frame cut inside its transport header, of which no port
is read though its layer is. -/
theorem read_coherently_of_datagram :
    let frame : Bytes := ((Draft.overV6 .udp).withVlan 7).frame
    let p : Packet := { sequence := 0, data := frame }
    (FilterRule.port 80).matchesPacket p = true ∧
      (FilterRule.any [.protocol .tcp, .protocol .udp]).matchesPacket p = true ∧
      (FilterRule.host (.v6 Draft.defaultV6Source)).matchesPacket p = true ∧
      (FilterRule.any [.protocol .ipv4, .protocol .ipv6]).matchesPacket p = true ∧
      .udp ∈ (ofFrame (frame.take 60)).tags ∧ (ofFrame (frame.take 60)).sourcePort = none ∧
      (ofFrame (frame.take 60)).Coherent := by
  intro frame p
  have port : (FilterRule.port 80).matchesPacket p = true := by decide
  have host : (FilterRule.host (.v6 Draft.defaultV6Source)).matchesPacket p = true := by decide
  obtain ⟨read, verdicts⟩ := read_coherently
  exact ⟨port, (verdicts p).1 80 port, host, (verdicts p).2 _ host, by decide, by decide,
    (read (frame.take 60)).2⟩

end Summary
end CaptureQueue
