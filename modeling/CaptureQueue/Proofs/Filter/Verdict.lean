import CaptureQueue.Filter.Chain

/-! What a verdict rests on. A rule looks at some aspects of a packet, and packets that are alike in
these get the same verdict, by the rule and by a chain of such rules. -/

set_option autoImplicit false
namespace CaptureQueue

/-- What a rule can look at in a packet. -/
inductive Aspect where
  | tag (t : Tag)
  | ports
  | hosts
  | length
deriving DecidableEq, Repr

namespace Aspect

/-- Packets that a test of this aspect does not tell apart. Source and destination are one to it. -/
def Alike (p q : Packet) : Aspect → Prop
  | .tag t => p.tags.contains t = q.tags.contains t
  | .ports => ∀ n, p.summary.touchesPort n = q.summary.touchesPort n
  | .hosts => ∀ a, p.summary.touchesHost a = q.summary.touchesHost a
  | .length => p.data.length = q.data.length

/-- Only the length is not read from the headers. -/
theorem alike_of_summary {p q : Packet} (same : p.summary = q.summary) {a : Aspect}
    (header : a ≠ .length) : a.Alike p q := by
  cases a with
  | tag t => exact congrArg (fun s : Summary => s.tags.contains t) same
  | ports => exact fun n => congrArg (·.touchesPort n) same
  | hosts => exact fun a => congrArg (·.touchesHost a) same
  | length => exact absurd rfl header

end Aspect

namespace FilterRule

mutual

def aspects : FilterRule → List Aspect
  | .protocol p => [.tag p.tag]
  | .port _ => [.ports]
  | .host _ => [.hosts]
  | .length _ => [.length]
  | .all rules => aspectsOfAll rules
  | .any rules => aspectsOfAll rules
  | .not rule => aspects rule

def aspectsOfAll : List FilterRule → List Aspect
  | [] => []
  | rule :: rules => aspects rule ++ aspectsOfAll rules

end

section

variable {p q : Packet}

mutual

theorem matchesPacket_congr : (rule : FilterRule) → (∀ a ∈ rule.aspects, a.Alike p q) →
    rule.matchesPacket p = rule.matchesPacket q
  | .protocol asked, alike => by
    simp only [matchesPacket]
    exact alike (.tag asked.tag) (by simp [aspects])
  | .port n, alike => by
    simp only [matchesPacket]
    exact alike .ports (by simp [aspects]) n
  | .host a, alike => by
    simp only [matchesPacket]
    exact alike .hosts (by simp [aspects]) a
  | .length range, alike => by
    have same : p.data.length = q.data.length := alike .length (by simp [aspects])
    simp only [matchesPacket, same]
  | .all rules, alike => by
    simp only [matchesPacket]
    exact (anyAndAll_congr rules (by simpa only [aspects] using alike)).1
  | .any rules, alike => by
    simp only [matchesPacket]
    exact (anyAndAll_congr rules (by simpa only [aspects] using alike)).2
  | .not rule, alike => by
    simp only [matchesPacket, matchesPacket_congr rule (by simpa only [aspects] using alike)]

theorem anyAndAll_congr : (rules : List FilterRule) → (∀ a ∈ aspectsOfAll rules, a.Alike p q) →
    allMatch rules p = allMatch rules q ∧ anyMatches rules p = anyMatches rules q
  | [], _ => by simp only [allMatch, anyMatches, and_self]
  | rule :: rules, alike => by
    simp only [aspectsOfAll, List.forall_mem_append] at alike
    obtain ⟨all, any⟩ := anyAndAll_congr rules alike.2
    simp only [allMatch, anyMatches, matchesPacket_congr rule alike.1, all, any, and_self]

end

theorem matchesPacket_of_summary (same : p.summary = q.summary) {rule : FilterRule}
    (unmeasured : .length ∉ rule.aspects) : rule.matchesPacket p = rule.matchesPacket q :=
  matchesPacket_congr rule fun _ looked =>
    Aspect.alike_of_summary same fun length => unmeasured (length ▸ looked)

end
end FilterRule

namespace FilterChain

def OfRules (c : FilterChain) (kind : FilterRule → Prop) : Prop :=
  ∀ entry ∈ c.entries, ∃ rule, kind rule ∧ entry.2 = .ofRule entry.2.name rule

section

variable {p q : Packet}

theorem allAdmit_congr {entries : List (FilterId × Predicate)}
    (alike : ∀ entry ∈ entries, entry.2.admits p = entry.2.admits q) :
    allAdmit entries p = allAdmit entries q := by
  induction entries with
  | nil => rfl
  | cons entry rest ih =>
    obtain ⟨first, later⟩ := List.forall_mem_cons.mp alike
    rw [allAdmit, allAdmit, first, ih later]

theorem findRejection_congr {entries : List (FilterId × Predicate)}
    (alike : ∀ entry ∈ entries, entry.2.admits p = entry.2.admits q) :
    findRejection entries p = findRejection entries q := by
  induction entries with
  | nil => rfl
  | cons entry rest ih =>
    obtain ⟨first, later⟩ := List.forall_mem_cons.mp alike
    rw [findRejection, findRejection, first, ih later]

/-- Packets that every rule of a chain gives the same verdict are alike to the chain. -/
theorem answers_of_verdicts {c : FilterChain} {kind : FilterRule → Prop} (rules : c.OfRules kind)
    (verdicts : ∀ rule, kind rule → rule.matchesPacket p = rule.matchesPacket q) :
    c.admits p = c.admits q ∧ c.firstRejection p = c.firstRejection q := by
  have alike : ∀ entry ∈ c.entries, entry.2.admits p = entry.2.admits q := by
    intro entry member
    obtain ⟨rule, kept, same⟩ := rules entry member
    rw [same]
    exact congrArg Except.ok (verdicts rule kept)
  exact ⟨allAdmit_congr alike, findRejection_congr alike⟩

end
end FilterChain
end CaptureQueue
