import CaptureQueue.Proofs.Filter.Verdict
import CaptureQueue.Proofs.Frame.Composed
import CaptureQueue.Proofs.Frame.Layers
import Mathlib.Order.Monotone.Defs
import Mathlib.Order.Nat

/-! Frames that are cut short. A cut can hide headers and never changes what is read of the others;
behind the deepest place that a header can reach to, it hides nothing. -/

set_option autoImplicit false
namespace CaptureQueue

open Bytes

/-! ## Headers behind a cut -/

def ipv4Start (packet : Bytes) : Nat :=
  ipv4Size + (4 * ((packet.byteAt 0).toNat % 16) - ipv4Size)

/-- Options take up the header to sixty bytes at most. -/
theorem ipv4Start_le (packet : Bytes) : ipv4Start packet ≤ 60 := by
  have words : (packet.byteAt 0).toNat % 16 < 16 := Nat.mod_lt _ (by decide)
  unfold ipv4Start ipv4Size
  omega

theorem take_drop_take {α : Type} (xs : List α) (kept start size : Nat) :
    ((xs.take kept).drop start).take size = ((xs.drop start).take size).take (kept - start) := by
  rw [List.drop_take, List.take_take, List.take_take, Nat.min_comm]

namespace IpHeader

variable {kept : Nat} (packet : Bytes)

theorem ofV4_take (headed : ipv4Size ≤ kept) : ofV4 (packet.take kept) =
    { ofV4 packet with segment := (ipv4Payload packet).take (kept - ipv4Start packet) } := by
  have long : 20 ≤ kept := headed
  have payload : ipv4Payload (packet.take kept) =
      (ipv4Payload packet).take (kept - ipv4Start packet) := by
    rw [ipv4Payload, byteAt_take (by omega), wordAt_take (by omega)]
    exact take_drop_take packet kept _ _
  have address (i : Nat) (inside : i + 4 ≤ kept) :
      Ipv4.readAt (packet.take kept) i = Ipv4.readAt packet i := by
    unfold Ipv4.readAt
    rw [byteAt_take (by omega), byteAt_take (by omega), byteAt_take (by omega),
      byteAt_take (by omega)]
  rw [ofV4, payload, address 12 (by omega), address 16 (by omega), byteAt_take (by omega)]
  rfl

theorem ofV6_take (headed : ipv6Size ≤ kept) : ofV6 (packet.take kept) =
    { ofV6 packet with segment := (ipv6Payload packet).take (kept - ipv6Size) } := by
  have long : 40 ≤ kept := headed
  have payload : ipv6Payload (packet.take kept) = (ipv6Payload packet).take (kept - ipv6Size) := by
    rw [ipv6Payload, wordAt_take (by omega)]
    exact take_drop_take packet kept _ _
  have address (i : Nat) (inside : i + 16 ≤ kept) :
      Ipv6.readAt (packet.take kept) i = Ipv6.readAt packet i := by
    unfold Ipv6.readAt
    rw [wordAt_take (by omega), wordAt_take (by omega), wordAt_take (by omega),
      wordAt_take (by omega), wordAt_take (by omega), wordAt_take (by omega),
      wordAt_take (by omega), wordAt_take (by omega)]
  rw [ofV6, payload, address 8 (by omega), address 24 (by omega), byteAt_take (by omega)]
  rfl

/-- A cut hides a header, or leaves it whole with a segment that is cut; behind forty bytes it hides
none, and behind sixty it reaches the segment at the earliest. -/
theorem ofPacket?_take (etherType : UInt16) (kept : Nat) :
    (ofPacket? etherType (packet.take kept) = none ∧
        (ipv6Size ≤ kept → ofPacket? etherType packet = none)) ∨
      ∃ header left, ofPacket? etherType packet = some header ∧ kept ≤ 60 + left ∧
        ofPacket? etherType (packet.take kept) =
          some { header with segment := header.segment.take left } := by
  have length : (packet.take kept).length = min kept packet.length := List.length_take
  by_cases v4 : etherType = EtherType.ipv4 ∧ ipv4Size ≤ (packet.take kept).length
  · have bounds := v4.2
    rw [length] at bounds
    have options := ipv4Start_le packet
    refine .inr ⟨ofV4 packet, kept - ipv4Start packet, ?_, by omega, ?_⟩
    · rw [ofPacket?, if_pos ⟨v4.1, by omega⟩]
    · rw [ofPacket?, if_pos v4, ofV4_take packet (by omega)]
      rfl
  by_cases v6 : etherType = EtherType.ipv6 ∧ ipv6Size ≤ (packet.take kept).length
  · have bounds := v6.2
    rw [length] at bounds
    have other : ¬ (etherType = EtherType.ipv4 ∧ ipv4Size ≤ packet.length) := by
      rw [v6.1]
      exact fun same => absurd same.1 (by decide)
    refine .inr ⟨ofV6 packet, kept - ipv6Size, ?_, ?_, ?_⟩
    · rw [ofPacket?, if_neg other, if_pos ⟨v6.1, by omega⟩]
    · unfold ipv6Size
      omega
    · rw [ofPacket?, if_neg v4, if_pos v6, ofV6_take packet (by omega)]
      rfl
  · refine .inl ⟨by rw [ofPacket?, if_neg v4, if_neg v6], fun deep => ?_⟩
    have wide : ipv4Size ≤ ipv6Size := by decide
    rw [ofPacket?, if_neg fun held => v4 ⟨held.1, by omega⟩,
      if_neg fun held => v6 ⟨held.1, by omega⟩]

end IpHeader

namespace Summary

/-! ## What a cut can take away -/

structure Within (s t : Summary) : Prop where
  tags : ∀ tag ∈ s.tags, tag ∈ t.tags
  source : ∀ a ∈ s.source, a ∈ t.source
  destination : ∀ a ∈ s.destination, a ∈ t.destination
  sourcePort : ∀ n ∈ s.sourcePort, n ∈ t.sourcePort
  destinationPort : ∀ n ∈ s.destinationPort, n ∈ t.destinationPort

instance : Preorder Summary where
  le := Within
  le_refl _ := ⟨fun _ => id, fun _ => id, fun _ => id, fun _ => id, fun _ => id⟩
  le_trans _ _ _ first later :=
    ⟨fun t said => later.tags t (first.tags t said),
      fun a said => later.source a (first.source a said),
      fun a said => later.destination a (first.destination a said),
      fun n said => later.sourcePort n (first.sourcePort n said),
      fun n said => later.destinationPort n (first.destinationPort n said)⟩

def Portless (s : Summary) : Prop := s.sourcePort = none ∧ s.destinationPort = none

def Addressless (s : Summary) : Prop := s.source = none ∧ s.destination = none

section

variable {s : Summary}

theorem le_tag (s : Summary) (t : Tag) : s ≤ s.tag t where
  tags _ said := TagSet.mem_insert.mpr (.inr said)
  source _ := id
  destination _ := id
  sourcePort _ := id
  destinationPort _ := id

theorem Portless.tag (portless : s.Portless) (t : Tag) : (s.tag t).Portless := portless

theorem Portless.addressed (portless : s.Portless) (header : IpHeader) :
    (s.addressed header).Portless := portless

theorem le_ports (portless : s.Portless) (size : Nat) (segment : Bytes) : s ≤ s.ports size segment := by
  unfold ports
  split
  · exact le_rfl
  · refine ⟨fun _ => id, fun _ => id, fun _ => id, ?_, ?_⟩
    · simp [portless.1]
    · simp [portless.2]

theorem le_addressed (addressless : s.Addressless) (header : IpHeader) : s ≤ s.addressed header := by
  refine ⟨(s.le_tag header.tag).tags, ?_, ?_, fun _ => id, fun _ => id⟩
  · simp [addressless.1]
  · simp [addressless.2]

theorem le_transport (portless : s.Portless) (number : UInt8) (segment : Bytes) :
    s ≤ s.transport number segment := by
  obtain ⟨t, size, _, _, ported⟩ | ⟨t, unported⟩ | unknown := transport_cases number
  · rw [ported]
    exact (s.le_tag t).trans (le_ports (portless.tag t) size segment)
  · rw [unported]
    exact s.le_tag t
  · rw [unknown]

theorem le_network (addressless : s.Addressless) (portless : s.Portless) (etherType : UInt16)
    (packet : Bytes) : s ≤ s.network etherType packet := by
  cases found : IpHeader.ofPacket? etherType packet with
  | some header =>
    rw [network_of_header found]
    exact (le_addressed addressless header).trans (le_transport (portless.addressed header) _ _)
  | none =>
    rw [network_of_no_header found]
    split
    · exact s.le_tag .arp
    · exact le_rfl

/-! ## What a cut leaves -/

theorem transport_take_le (portless : s.Portless) (number : UInt8) (segment : Bytes) (kept : Nat) :
    s.transport number (segment.take kept) ≤ s.transport number segment := by
  obtain ⟨t, size, words, _, ported⟩ | ⟨t, unported⟩ | unknown := transport_cases number
  · rw [ported, ported, ports_of_take _ words]
    split
    · exact le_rfl
    · exact le_ports (portless.tag t) size segment
  · rw [unported, unported]
  · rw [unknown, unknown]

theorem transport_take (s : Summary) {kept : Nat} (whole : tcpSize ≤ kept) (number : UInt8)
    (segment : Bytes) : s.transport number (segment.take kept) = s.transport number segment := by
  obtain ⟨t, size, words, most, ported⟩ | ⟨t, unported⟩ | unknown := transport_cases number
  · rw [ported, ported, ports_of_take _ words, if_pos (Nat.le_trans most whole)]
  · rw [unported, unported]
  · rw [unknown, unknown]

theorem network_take_le (addressless : s.Addressless) (portless : s.Portless) (etherType : UInt16)
    (packet : Bytes) (kept : Nat) :
    s.network etherType (packet.take kept) ≤ s.network etherType packet := by
  obtain ⟨hidden, _⟩ | ⟨header, left, found, _, cut⟩ := IpHeader.ofPacket?_take packet etherType kept
  · rw [network_of_no_header hidden]
    split
    case isTrue arp => rw [network, if_pos arp]
    case isFalse => exact le_network addressless portless etherType packet
  · rw [network_of_header found, network_of_header cut]
    exact transport_take_le (portless.addressed header) _ _ _

/-- Eighty bytes hold a network header with all its options and the longest transport header. -/
theorem network_take (s : Summary) {kept : Nat} (deep : 80 ≤ kept) (etherType : UInt16)
    (packet : Bytes) : s.network etherType (packet.take kept) = s.network etherType packet := by
  obtain ⟨hidden, absent⟩ | ⟨header, left, found, rest, cut⟩ := IpHeader.ofPacket?_take packet etherType kept
  · rw [network_of_no_header hidden, network_of_no_header (absent (by unfold ipv6Size; omega))]
  · have whole : tcpSize ≤ left := by
      unfold tcpSize
      omega
    rw [network_of_header found, network_of_header cut]
    exact transport_take _ whole _ _

end

theorem empty_le (s : Summary) : ({} : Summary) ≤ s where
  tags t said := absurd said (TagSet.not_mem_empty t)
  source _ said := nomatch said
  destination _ said := nomatch said
  sourcePort _ said := nomatch said
  destinationPort _ said := nomatch said

theorem tagged_le_ofFrame {frame : Bytes} (long : 14 ≤ frame.length)
    (tagged : frame.wordAt 12 = EtherType.vlan) : (tag .ethernet {}).tag .vlan ≤ ofFrame frame := by
  by_cases short : frame.length < 18
  · rw [ofFrame_of_cut_tag long short tagged]
  · rw [ofFrame_of_tagged (Nat.le_of_not_lt short) tagged]
    exact le_network ⟨rfl, rfl⟩ ⟨rfl, rfl⟩ _ _

theorem ofFrame_take_le (frame : Bytes) (n : Nat) : ofFrame (frame.take n) ≤ ofFrame frame := by
  by_cases whole : frame.length ≤ n
  · rw [List.take_of_length_le whole]
  have length : (frame.take n).length = n := List.length_take_of_le (Nat.le_of_not_le whole)
  by_cases link : n < 14
  · rw [ofFrame_of_short (length.trans_lt link)]
    exact empty_le _
  have outer : wordAt (frame.take n) 12 = wordAt frame 12 := wordAt_take (by omega)
  by_cases tagged : wordAt frame 12 = EtherType.vlan
  · by_cases behindTag : n < 18
    · rw [ofFrame_of_cut_tag (by omega) (by omega) (outer.trans tagged)]
      exact tagged_le_ofFrame (by omega) tagged
    · rw [ofFrame_of_tagged (by omega) (outer.trans tagged), ofFrame_of_tagged (by omega) tagged,
        wordAt_take (by omega), List.drop_take]
      exact network_take_le ⟨rfl, rfl⟩ ⟨rfl, rfl⟩ _ _ _
  · rw [ofFrame_of_untagged (by omega) (by rwa [outer]), ofFrame_of_untagged (by omega) tagged, outer,
      List.drop_take]
    exact network_take_le ⟨rfl, rfl⟩ ⟨rfl, rfl⟩ _ _ _

/-- The headers that are read end within 98 bytes: a tag of four behind the fourteen of the link layer,
and eighty. -/
theorem ofFrame_take {n : Nat} (deep : 98 ≤ n) (frame : Bytes) :
    ofFrame (frame.take n) = ofFrame frame := by
  by_cases whole : frame.length ≤ n
  · rw [List.take_of_length_le whole]
  have length : (frame.take n).length = n := List.length_take_of_le (Nat.le_of_not_le whole)
  have outer : wordAt (frame.take n) 12 = wordAt frame 12 := wordAt_take (by omega)
  by_cases tagged : wordAt frame 12 = EtherType.vlan
  · rw [ofFrame_of_tagged (by omega) (outer.trans tagged), ofFrame_of_tagged (by omega) tagged,
      wordAt_take (by omega), List.drop_take, network_take _ (by omega)]
  · rw [ofFrame_of_untagged (by omega) (by rwa [outer]), ofFrame_of_untagged (by omega) tagged, outer,
      List.drop_take, network_take _ (by omega)]

/-- A cut only loses information, and the more is kept, the more is read. -/
theorem truncation_only_loses (frame : Bytes) :
    (∀ n, ofFrame (frame.take n) ≤ ofFrame frame) ∧ Monotone fun n => ofFrame (frame.take n) := by
  refine ⟨ofFrame_take_le frame, fun m n less => ?_⟩
  have twice : (frame.take n).take m = frame.take m := by rw [List.take_take, Nat.min_eq_left less]
  have lost := ofFrame_take_le (frame.take n) m
  rwa [twice] at lost

end Summary

/-! ## What filters see of a cut -/

namespace Packet

def cut (p : Packet) (n : Nat) : Packet := { p with data := p.data.take n }

/-- A frame whose headers could not reach deeper: a tag, all options, and the ports behind them. -/
def deepest : Bytes :=
  List.replicate 12 0 ++ [0x81, 0, 0, 7, 8, 0, 0x4F, 0, 0, 80, 0, 0, 0, 0, 64, 6] ++
    List.replicate 50 0 ++ [0x30, 0x39, 0, 80] ++ List.replicate 16 0

/-- Filters that do not look at the length decide on 98 bytes of a frame as on all of it. On 97 they
might not. -/
theorem verdicts_of_deep_cut :
    (∀ n, 98 ≤ n →
      (∀ frame : Bytes, Summary.ofFrame (frame.take n) = Summary.ofFrame frame) ∧
      (∀ rule : FilterRule, .length ∉ rule.aspects →
        ∀ p : Packet, rule.matchesPacket (p.cut n) = rule.matchesPacket p) ∧
      ∀ chain : FilterChain, chain.OfRules (.length ∉ ·.aspects) →
        ∀ p : Packet, chain.admits (p.cut n) = chain.admits p ∧
          chain.firstRejection (p.cut n) = chain.firstRejection p) ∧
    ∃ frame : Bytes, frame.wordAt 12 = EtherType.vlan ∧ frame.wordAt 16 = EtherType.ipv4 ∧
      (frame.byteAt 18).toNat % 16 = 15 ∧ frame.byteAt 27 = TransportNumber.tcp ∧
      Summary.ofFrame (frame.take 97) ≠ Summary.ofFrame frame := by
  refine ⟨fun n deep => ?_, deepest, by decide, by decide, by decide, by decide, by decide⟩
  have same (p : Packet) : (p.cut n).summary = p.summary := Summary.ofFrame_take deep p.data
  have verdict (rule : FilterRule) (unmeasured : .length ∉ rule.aspects) (p : Packet) :
      rule.matchesPacket (p.cut n) = rule.matchesPacket p :=
    FilterRule.matchesPacket_of_summary (same p) unmeasured
  exact ⟨Summary.ofFrame_take deep, verdict, fun chain rules p =>
    FilterChain.answers_of_verdicts rules fun rule unmeasured => verdict rule unmeasured p⟩

/-- The deepest ports, with a payload behind them. The second rule of the chain refuses the packet, cut
or not, and one byte less hides the ports from the first. -/
theorem verdicts_of_deep_cut_of_web :
    let p : Packet := { sequence := 0, data := deepest ++ [1, 2, 3] }
    let web : FilterRule := .all [.port 80, .any [.protocol .tcp, .not (.protocol .vlan)]]
    let chain : FilterChain := {
      entries := [(⟨2⟩, .ofRule "web" web), (⟨5⟩, .ofRule "untagged" (.not (.protocol .vlan)))]
      next := 6 }
    98 ≤ 98 ∧ .length ∉ web.aspects ∧ chain.OfRules (.length ∉ ·.aspects) ∧
      Summary.ofFrame (p.data.take 98) = Summary.ofFrame p.data ∧
      web.matchesPacket p = true ∧ web.matchesPacket (p.cut 98) = true ∧
      chain.firstRejection (p.cut 98) = .ok (some (⟨5⟩, "untagged")) ∧
      web.matchesPacket (p.cut 97) = false := by
  intro p web chain
  have rules : chain.OfRules (.length ∉ ·.aspects) := by
    intro entry member
    obtain rfl | member := List.mem_cons.mp member
    · exact ⟨web, by decide, rfl⟩
    · rw [List.mem_singleton.mp member]
      exact ⟨.not (.protocol .vlan), by decide, rfl⟩
  have unmeasured : .length ∉ web.aspects := by decide
  have matched : web.matchesPacket p = true := by decide
  have refused : chain.firstRejection p = .ok (some (⟨5⟩, "untagged")) := by decide
  obtain ⟨read, verdict, answers⟩ := verdicts_of_deep_cut.1 98 (Nat.le_refl 98)
  exact ⟨Nat.le_refl 98, unmeasured, rules, read p.data, matched,
    (verdict web unmeasured p).trans matched, (answers chain rules p).2.trans refused, by decide⟩

end Packet
end CaptureQueue
