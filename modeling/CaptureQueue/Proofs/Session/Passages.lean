import CaptureQueue.Backend.Memory
import CaptureQueue.Datalink.Host
import CaptureQueue.Proofs.Session.Accounting
import CaptureQueue.Proofs.Session.Logged

/-! What the log of the producer tells of each packet: one record with its number and its outcome,
or none if something broke over it. Step by step of the work on a frame, the log fits what has become
of the packets. -/

set_option autoImplicit false
namespace CaptureQueue

variable {σ τ : Type}

/-! ## The words for a fate -/

def Fate.message? : Fate → Option String
  | .filtered => some "Packet filtered"
  | .accepted => some "Packet enqueued"
  | .dropped => some "Queue full, packet dropped"
  | .rejected => some "Queue full, packet rejected"
  | .unjudged | .undecided => none

namespace LogRecord

def fateMessages : List String :=
  ["Packet filtered", "Packet enqueued", "Queue full, packet dropped",
    "Queue full, packet rejected"]

def tellsFate (r : LogRecord) : Bool := r.message ∈ fateMessages

def finishes (r : LogRecord) : Bool := r.message = "Producer finished"

/-- Neither about the fate of a packet nor about the end of the producer. -/
def Aside (r : LogRecord) : Prop := r.tellsFate = false ∧ r.finishes = false

theorem finishes_of_tellsFate {r : LogRecord} (tells : r.tellsFate = true) :
    r.finishes = false := by
  simp only [tellsFate, fateMessages, decide_eq_true_eq, List.mem_cons, List.not_mem_nil,
    or_false] at tells
  rcases tells with same | same | same | same <;> simp [finishes, same]

theorem aside_iff {r : LogRecord} :
    r.Aside ↔ r.message ∉ "Producer finished" :: fateMessages := by
  simp [Aside, tellsFate, finishes, and_comm]

end LogRecord

theorem Session.aside_of_broken (fault : Fault) : (Session.brokenRecord fault).Aside := by
  simp [LogRecord.aside_iff, LogRecord.fateMessages, Session.brokenRecord, Session.record]

theorem Session.aside_of_break (result : Except Fault Unit) :
    ∀ r ∈ Session.breakRecords result, r.Aside := by
  cases result with
  | ok _ => simp [Session.breakRecords]
  | error fault => simpa [Session.breakRecords] using Session.aside_of_broken fault

theorem Session.aside_of_afterRead {reading : Reading} :
    ∀ r ∈ (Session.afterRead reading).records, r.Aside := by
  cases reading with
  | frame | idle => simp [Session.afterRead, pure]
  | failed e =>
    simp [LogRecord.aside_iff, LogRecord.fateMessages, Session.afterRead, bind, Traced.bind,
      Traced.emit, pure, Session.record]
  | broken fault =>
    simpa [Session.afterRead, bind, Traced.bind, Traced.emit, pure] using
      Session.aside_of_broken fault

/-- A backend whose streams do not speak with the words of the producer. -/
structure Backend.Reticent (b : Backend σ τ) : Prop where
  read : ∀ stream world, ∀ r ∈ (b.read stream world).records, r.Aside
  close : ∀ stream world, ∀ r ∈ (b.close stream world).records, r.Aside

theorem ScriptedHost.reticent (h : ScriptedHost) : h.backend.Reticent where
  read stream world := by
    cases readings : world.readings <;>
      simp [backend, ScriptedHost.read, readings, pure]
  close stream world := by
    have nothing : (h.backend.close stream world).records = [] := rfl
    simp [nothing]

theorem MemoryHost.reticent (h : MemoryHost) : h.backend.Reticent where
  read stream feed := by
    have nothing : (h.backend.read stream feed).records = [] := by
      simp only [backend, MemoryHost.read]
      split <;> rfl
    simp [nothing]
  close stream feed := by
    have nothing : (h.backend.close stream feed).records = [] := by
      simp only [backend, MemoryHost.close]
      cases stream.closed <;> rfl
    simp [nothing]

theorem Datalink.read_records (c : Channel) (h : Host) : (Datalink.read c h).records = [] ∨
    ∃ fields, (Datalink.read c h).records = [record .warn "Datalink read failed" fields] := by
  have received : (Host.receive h).records = [] := rfl
  unfold Datalink.read
  cases c.isOpen with
  | false => exact .inl rfl
  | true =>
    simp only [Bool.not_true, Bool.false_eq_true, if_false, Act.records_bind, received,
      List.nil_append]
    cases (Host.receive h).value.1 with
    | ok data =>
      simp only [Bytes.before_min]
      exact .inl rfl
    | error e =>
      by_cases idle : isIdle e = true
      · simp only [idle, if_true]
        exact .inl rfl
      · simp only [idle, Bool.false_eq_true, if_false]
        exact .inr ⟨_, rfl⟩

theorem Datalink.close_records (c : Channel) (h : Host) : (Datalink.close c h).records = [] ∨
    ∃ fields, (Datalink.close c h).records = [record .debug "Datalink channel closed" fields] := by
  unfold Datalink.close
  cases c.isOpen with
  | false => exact .inl rfl
  | true => exact .inr ⟨_, rfl⟩

theorem Datalink.reticent : Datalink.backend.Reticent where
  read channel host := by
    change ∀ r ∈ (Datalink.read channel host).records, r.Aside
    rcases Datalink.read_records channel host with said | ⟨fields, said⟩ <;>
      simp [said, LogRecord.aside_iff, LogRecord.fateMessages, Datalink.record]
  close channel host := by
    change ∀ r ∈ (Datalink.close channel host).records, r.Aside
    rcases Datalink.close_records channel host with said | ⟨fields, said⟩ <;>
      simp [said, LogRecord.aside_iff, LogRecord.fateMessages, Datalink.record]

namespace Passage

/-- What a record says of a packet: its number, and the outcome with all that belongs to it. The
victim of a drop is the one packet that the queue is without afterwards. -/
inductive Tells (p : Passage) : LogRecord → Prop where
  | filtered {id : FilterId} {name : String}
    (judged : p.filters.firstRejection p.packet = .ok (some (id, name))) :
    Tells p {
      level := .trace
      origin := .session
      message := "Packet filtered"
      fields := [("sequence", toString p.packet.sequence), ("id", id.text), ("filter", name)]
      thread := .producer }
  | enqueued (admitted : p.filters.firstRejection p.packet = .ok none)
    (room : p.queue.packets.length < p.queue.capacity) :
    Tells p {
      level := .trace
      origin := .session
      message := "Packet enqueued"
      fields := [("sequence", toString p.packet.sequence)]
      thread := .producer }
  | dropped {decision : DropDecision} {victim : Packet}
    (admitted : p.filters.firstRejection p.packet = .ok none)
    (full : p.queue.capacity ≤ p.queue.packets.length)
    (decided : p.queue.strategy.onOverflow p.queue.consultations p.queue.view p.packet =
      .ok decision) (discards : decision ≠ .rejectAndSignal)
    (discarded : (p.queue.packets ++ [p.packet]).Perm
      (victim :: (p.queue.offer p.packet).1.packets)) :
    Tells p {
      level := .debug
      origin := .queue
      message := "Queue full, packet dropped"
      fields := [("sequence", toString victim.sequence),
        ("incoming", toString p.packet.sequence), ("decision", decision.name)]
      thread := .producer }
  | rejected (admitted : p.filters.firstRejection p.packet = .ok none)
    (full : p.queue.capacity ≤ p.queue.packets.length)
    (decided : p.queue.strategy.onOverflow p.queue.consultations p.queue.view p.packet =
      .ok .rejectAndSignal) :
    Tells p {
      level := .debug
      origin := .queue
      message := "Queue full, packet rejected"
      fields := [("sequence", toString p.packet.sequence), ("capacity", toString p.queue.capacity)]
      thread := .producer }

inductive Broke (p : Passage) : Prop where
  | predicate {fault : Fault} (judged : p.filters.firstRejection p.packet = .error fault)
  | strategy {fault : Fault} (admitted : p.filters.firstRejection p.packet = .ok none)
    (full : p.queue.capacity ≤ p.queue.packets.length)
    (asked : p.queue.strategy.onOverflow p.queue.consultations p.queue.view p.packet =
      .error fault)

def told (p : Passage) : List LogRecord := p.records.map LogRecord.byProducer

theorem told_messages (p : Passage) : p.told.map LogRecord.message = p.fate.message?.toList := by
  unfold told records fate
  cases p.filters.firstRejection p.packet with
  | error fault => rfl
  | ok rejection =>
    cases rejection with
    | some rejecter => rfl
    | none =>
      dsimp only
      cases (p.queue.offer p.packet).2 with
      | error fault => rfl
      | ok offered => cases offered <;> rfl

theorem tellsFate_of_mem_told {p : Passage} {r : LogRecord} (said : r ∈ p.told) :
    r.tellsFate = true := by
  have message := List.mem_map_of_mem (f := LogRecord.message) said
  rw [told_messages] at message
  cases fate : p.fate <;> rw [fate] at message <;>
    simp_all [Fate.message?, LogRecord.tellsFate, LogRecord.fateMessages]

theorem countP_told (p : Passage) {fate : Fate} {message : String}
    (spoken : fate.message? = some message) :
    p.told.countP (·.message = message) = if p.fate = fate then 1 else 0 := by
  have messages : p.told.countP (·.message = message) =
      (p.told.map LogRecord.message).countP (· = message) := by
    rw [List.countP_map]
    rfl
  rw [messages, told_messages]
  cases p.fate <;> cases fate <;> cases spoken <;> simp [Fate.message?]

theorem countP_flatMap_told {fate : Fate} {message : String}
    (spoken : fate.message? = some message) (ps : List Passage) :
    (ps.flatMap told).countP (·.message = message) = ps.countP (·.fate = fate) := by
  induction ps with
  | nil => rfl
  | cons p ps ih =>
    simp [List.countP_append, List.countP_cons, ih, p.countP_told spoken, Nat.add_comm]

theorem countP_fates (ps : List Passage) :
    ps.countP (·.fate = .filtered) + ps.countP (·.fate = .accepted) +
      ps.countP (·.fate = .dropped) + ps.countP (·.fate = .rejected) +
      ps.countP (·.fate = .unjudged) + ps.countP (·.fate = .undecided) = ps.length := by
  induction ps with
  | nil => rfl
  | cons p ps ih =>
    simp only [List.countP_cons, List.length_cons]
    cases p.fate <;> simp <;> omega

theorem countP_broke (ps : List Passage) :
    ps.countP (·.fate = .unjudged) + ps.countP (·.fate = .undecided) = ps.countP broke := by
  induction ps with
  | nil => rfl
  | cons p ps ih =>
    cases fate : p.fate <;> simp [broke, fate, ← ih] <;> omega

/-- A strategy that answers has the packet rejected, or a victim dropped that the queue loses. -/
theorem tells_of_decided {p : Passage} {decision : DropDecision} (positive : 0 < p.queue.capacity)
    (admitted : p.filters.firstRejection p.packet = .ok none) (full : ¬ p.queue.hasRoom = true)
    (decided : p.queue.strategy.onOverflow p.queue.consultations p.queue.view p.packet =
      .ok decision) : p.broke = false ∧ ∃ r, p.told = [r] ∧ p.Tells r := by
  have crowded : p.queue.capacity ≤ p.queue.packets.length := by
    simpa [PacketQueue.hasRoom] using full
  by_cases refuses : decision = .rejectAndSignal
  · subst refuses
    have outcome : (p.queue.offer p.packet).2 = .ok (.rejected p.packet) := by
      simp [PacketQueue.offer, full, decided, PacketQueue.overflow]
    refine ⟨by simp [broke, fate, admitted, outcome], _, ?_, .rejected admitted crowded decided⟩
    simp only [told, records, admitted, outcome]
    rfl
  · obtain ⟨sequence, outcome⟩ :
        ∃ sequence, (p.queue.offer p.packet).2 = .ok (.dropped decision sequence) := by
      cases decision <;> simp_all [PacketQueue.offer, PacketQueue.overflow]
    obtain ⟨discarded, named, conserved⟩ := p.queue.offer_conserves p.packet positive
    rw [outcome] at named conserved
    obtain ⟨victim, rfl, rfl⟩ : ∃ victim, discarded = [victim] ∧ victim.sequence = sequence := by
      simpa [Offered.named, List.map_eq_singleton_iff] using named
    have lost : (p.queue.packets ++ [p.packet]).Perm
        (victim :: (p.queue.offer p.packet).1.packets) :=
      conserved.complete.trans List.perm_append_comm
    refine ⟨by simp [broke, fate, admitted, outcome], _, ?_,
      .dropped admitted crowded decided refuses lost⟩
    simp only [told, records, admitted, outcome]
    rfl

theorem told_or_broke (p : Passage) (positive : 0 < p.queue.capacity) :
    (p.broke = false ∧ ∃ r, p.told = [r] ∧ p.Tells r) ∨
      (p.broke = true ∧ p.told = [] ∧ p.Broke) := by
  cases judged : p.filters.firstRejection p.packet with
  | error fault =>
    exact .inr ⟨by simp [broke, fate, judged], by simp [told, records, judged], .predicate judged⟩
  | ok rejection =>
    cases rejection with
    | some rejecter =>
      refine .inl ⟨by simp [broke, fate, judged], _, ?_, .filtered judged⟩
      simp only [told, records, judged]
      rfl
    | none =>
      by_cases room : p.queue.hasRoom = true
      · have outcome : (p.queue.offer p.packet).2 = .ok .accepted := by
          simp [PacketQueue.offer, room]
        refine .inl ⟨by simp [broke, fate, judged, outcome], _, ?_,
          .enqueued judged (by simpa [PacketQueue.hasRoom] using room)⟩
        simp only [told, records, judged, outcome]
        rfl
      · cases asked : p.queue.strategy.onOverflow p.queue.consultations p.queue.view p.packet with
        | ok decision => exact .inl (tells_of_decided positive judged room asked)
        | error fault =>
          have outcome : (p.queue.offer p.packet).2 = .error fault := by
            simp [PacketQueue.offer, room, asked]
          refine .inr ⟨by simp [broke, fate, judged, outcome], ?_,
            .strategy judged (by simpa [PacketQueue.hasRoom] using room) asked⟩
          simp [told, records, judged, outcome, MeteredQueue.offerRecords, enqueuedRecords]

theorem forall₂_told {ps : List Passage} (slots : ∀ p ∈ ps, 0 < p.queue.capacity)
    (whole : ∀ p ∈ ps, p.broke = false) : List.Forall₂ Tells ps (ps.flatMap told) := by
  induction ps with
  | nil => exact .nil
  | cons p ps ih =>
    have rest := ih (fun q member => slots q (List.mem_cons_of_mem p member)) fun q member =>
      whole q (List.mem_cons_of_mem p member)
    rcases p.told_or_broke (slots p List.mem_cons_self) with ⟨_, r, told, tells⟩ | ⟨broke, _⟩
    · rw [List.flatMap_cons, told]
      exact .cons tells rest
    · rw [whole p List.mem_cons_self] at broke
      cases broke

theorem told_of_broke {p : Passage} (positive : 0 < p.queue.capacity) (broke : p.broke = true) :
    p.told = [] ∧ p.Broke := by
  rcases p.told_or_broke positive with ⟨whole, _⟩ | ⟨_, silent⟩
  · rw [broke] at whole
    cases whole
  · exact silent

end Passage

/-! ## The log keeps up with the books -/

/-- How many packets are in the class of a fate. Accepted ones have no class of their own: they are
resident, handed out or dropped later. -/
def Ledger.size? (ledger : Ledger) : Fate → Option Nat
  | .filtered => some ledger.filtered.length
  | .accepted => none
  | .dropped => some ledger.dropped.length
  | .rejected => some ledger.rejected.length
  | .unjudged => some ledger.unjudged.length
  | .undecided => some ledger.undecided.length

namespace Ingest

/-- Whether the fate of the packet is settled, and nothing said of it yet. -/
def owes : Ingest → Bool
  | .dismiss | .settle _ _ | .release _ | .leave _ => true
  | _ => false

/-- The packet that the filters let through and the queue has not decided on. -/
def letThrough : Ingest → List Packet
  | .enter p | .register p | .decide p => [p]
  | _ => []

end Ingest

/-- What is said and about to be said fits what has become of the packets. -/
structure Telling.Fits (t : Telling) (s : SharedQueue) (stage : List Ingest) : Prop where
  captured : s.ledger.captured = t.passages.map Passage.packet ++ stage.flatMap Ingest.carried
  told : (t.log ++ t.due.map LogRecord.byProducer).filter LogRecord.tellsFate =
    t.passages.flatMap Passage.told
  owed : (∀ i ∈ stage, i.owes = false) → t.due = []
  due : ∀ r ∈ t.due, r.tellsFate = true
  admitted : ∀ p ∈ stage.flatMap Ingest.letThrough, t.admitting.firstRejection p = .ok none
  sizes : ∀ fate size, s.ledger.size? fate = some size → t.passages.countP (·.fate = fate) = size
  slots : ∀ p ∈ t.passages, 0 < p.queue.capacity
  whole : ∀ p ∈ t.passages.dropLast, p.broke = false

namespace Telling.Fits

variable {t : Telling} {s s' : SharedQueue} {stage : List Ingest} {i i' : Ingest}

theorem start (s : SharedQueue) (empty : s.ledger = {}) : ({} : Telling).Fits s [] := by
  refine ⟨by simp [empty], rfl, fun _ => rfl, by simp, by simp, ?_, by simp, by simp⟩
  intro fate size known
  rw [empty] at known
  cases fate <;> simp_all [Ledger.size?]

-- The stage moves on, and nothing is settled or said.
theorem pass (h : t.Fits s [i]) (captured : s'.ledger.captured = s.ledger.captured)
    (carried : i'.carried = i.carried) (owes : i'.owes = i.owes)
    (admitted : i'.letThrough = [] ∨ i'.letThrough = i.letThrough)
    (sizes : s'.ledger.size? = s.ledger.size?) : t.Fits s' [i'] where
  captured := by simp [captured, h.captured, carried]
  told := h.told
  owed := fun silent => h.owed (by simpa [owes] using silent)
  due := h.due
  admitted := by
    rcases admitted with none | same
    · simp [none]
    · simpa [same] using h.admitted
  sizes := by rw [sizes]; exact h.sizes
  slots := h.slots
  whole := h.whole

theorem say (h : t.Fits s stage) (silent : t.due = []) {records : List LogRecord}
    (others : ∀ r ∈ records, r.tellsFate = false) : (t.say records).Fits s stage := by
  have told := h.told
  have none : (records.map LogRecord.byProducer).filter LogRecord.tellsFate = [] := by
    rw [List.filter_eq_nil_iff]
    intro r said
    obtain ⟨r, member, rfl⟩ := List.mem_map.mp said
    exact Bool.not_eq_true _ ▸ others r member
  refine { h with told := ?_ }
  simp only [silent, List.map_nil, List.append_nil] at told
  simp only [Telling.say, silent, List.map_nil, List.append_nil, List.filter_append, none, told]

-- What is due is said.
theorem pay (h : t.Fits s [i]) (captured : s'.ledger.captured = s.ledger.captured)
    (carried : i'.carried = i.carried) (admitted : i'.letThrough = [])
    (sizes : s'.ledger.size? = s.ledger.size?) :
    Telling.Fits { t.say t.due with due := [] } s' [i'] where
  captured := by simp [captured, h.captured, carried, Telling.say]
  told := by simpa [Telling.say] using h.told
  owed := fun _ => rfl
  due := by simp
  admitted := by simp [admitted]
  sizes := by rw [sizes]; exact h.sizes
  slots := h.slots
  whole := h.whole

theorem lost_eq (h : t.Fits s stage) : s.ledger.lost = t.passages.countP Passage.broke := by
  rw [← Passage.countP_broke, h.sizes .unjudged _ rfl, h.sizes .undecided _ rfl, Ledger.lost]

theorem unbroken (h : t.Fits s stage) (kept : s.ledger.lost = 0) :
    ∀ p ∈ t.passages, p.broke = false := by
  rw [h.lost_eq, List.countP_eq_zero] at kept
  exact fun p member => Bool.eq_false_iff.mpr (kept p member)

-- The fate of the packet is settled.
theorem note {p : Passage} (h : t.Fits s [i]) (owes : i.owes = false) (kept : s.ledger.lost = 0)
    (carried : i.carried = [p.packet]) (positive : 0 < p.queue.capacity)
    (captured : s'.ledger.captured = s.ledger.captured)
    (away : i'.carried = [] ∧ i'.letThrough = []) (unsaid : i'.owes = true ∨ p.records = [])
    (sizes : ∀ fate, s'.ledger.size? fate =
      (s.ledger.size? fate).map (· + if p.fate = fate then 1 else 0)) :
    (t.note p).Fits s' [i'] where
  captured := by simp [captured, h.captured, carried, away.1, Telling.note]
  told := by
    have told := h.told
    have silent := h.owed (by simpa using owes)
    have all : p.told.filter LogRecord.tellsFate = p.told :=
      List.filter_eq_self.mpr fun r => Passage.tellsFate_of_mem_told
    simp only [silent, List.map_nil, List.append_nil] at told
    simp only [Telling.note, List.filter_append, List.flatMap_append, List.flatMap_singleton, told]
    exact congrArg _ all
  owed := by
    intro silent
    rcases unsaid with owing | nothing
    · rw [silent i' List.mem_cons_self] at owing
      cases owing
    · exact nothing
  due := by
    intro r said
    have tells : r.byProducer.tellsFate = true :=
      Passage.tellsFate_of_mem_told (List.mem_map_of_mem said)
    exact tells
  admitted := by simp [away.2]
  sizes := by
    intro fate size known
    rw [sizes, Option.map_eq_some_iff] at known
    obtain ⟨before, sized, rfl⟩ := known
    simp [Telling.note, List.countP_append, h.sizes fate before sized, List.countP_singleton]
  slots := by
    intro q member
    rcases List.mem_append.mp member with old | new
    · exact h.slots q old
    · rw [List.mem_singleton.mp new]
      exact positive
  whole := by
    simp only [Telling.note, List.dropLast_concat]
    exact h.unbroken kept

/-- A step of the producer's work on a frame. Two stages settle a fate, two others say it, and the
rest leave the log alone. -/
theorem work (h : t.Fits s [i]) (kept : s.ledger.lost = i.broke.toNat)
    (positive : 0 < s.queue.queue.capacity) (stepped : i.step s = some (s', i')) :
    (t.work s i).Fits s' [i'] := by
  cases i with
  | capture p =>
    cases stepped
    exact { h with
      captured := by
        simp [Telling.work, h.captured, SharedQueue.capture, SharedQueue.count, Ingest.carried]
      owed := fun _ => h.owed (by simp [Ingest.owes])
      admitted := by simp [Ingest.letThrough]
      sizes := h.sizes }
  | measure p =>
    cases stepped
    exact h.pass rfl rfl rfl (.inl rfl) rfl
  | judge p =>
    simp only [Ingest.step] at stepped
    cases judged : s.filters.firstRejection p with
    | error fault =>
      rw [judged] at stepped
      cases stepped
      simp only [Telling.work, judged]
      have silent : Passage.records ⟨p, s.filters, s.queue.queue⟩ = [] := by
        simp [Passage.records, judged]
      refine h.note rfl kept rfl positive rfl ⟨rfl, rfl⟩ (.inr silent) ?_
      intro fate
      cases fate <;> simp [Ledger.size?, SharedQueue.breakOver, Passage.fate, judged]
    | ok rejection =>
      rw [judged] at stepped
      cases rejection with
      | some rejecter =>
        cases stepped
        simp only [Telling.work, judged]
        refine h.note rfl kept rfl positive rfl ⟨rfl, rfl⟩ (.inl rfl) ?_
        intro fate
        cases fate <;> simp [Ledger.size?, SharedQueue.filter, Passage.fate, judged]
      | none =>
        cases stepped
        simp only [Telling.work, judged]
        exact { h with
          owed := fun _ => h.owed (by simp [Ingest.owes])
          admitted := by simpa [Ingest.letThrough] using judged }
  | dismiss =>
    cases stepped
    exact h.pay rfl rfl rfl rfl
  | enter p =>
    simp only [Ingest.step] at stepped
    split at stepped <;> cases stepped
    exact h.pass rfl rfl rfl (.inr rfl) rfl
  | register p =>
    cases stepped
    exact h.pass rfl rfl rfl (.inr rfl) rfl
  | decide p =>
    cases stepped
    have admitted : t.admitting.firstRejection p = .ok none :=
      h.admitted p (by simp [Ingest.letThrough])
    refine h.note rfl kept rfl positive rfl ⟨rfl, rfl⟩ (.inl rfl) ?_
    -- the class that gains a packet is that of the outcome
    intro fate
    cases outcome : (s.queue.queue.offer p).2 with
    | error fault =>
      cases fate <;> simp [Ledger.size?, SharedQueue.offer, Passage.fate, admitted, outcome,
        Offered.named, Offered.returned, Offered.broken]
    | ok offered =>
      cases offered <;> cases fate <;> simp [Ledger.size?, SharedQueue.offer, Passage.fate,
        admitted, outcome, Offered.named, Offered.returned, Offered.broken]
  | settle asked outcome =>
    cases stepped
    rw [SharedQueue.countAll_eq]
    exact h.pass rfl rfl rfl (.inl rfl) rfl
  | release outcome =>
    cases stepped
    exact h.pass rfl rfl rfl (.inl rfl) rfl
  | leave outcome =>
    cases stepped
    rw [SharedQueue.countAll_eq]
    exact h.pay rfl rfl rfl rfl
  | done result => cases stepped

theorem begin (h : t.Fits s []) (p : Packet) : t.Fits s [.capture p] :=
  { h with
    captured := by simpa [Ingest.carried] using h.captured
    owed := fun _ => h.owed (by simp)
    admitted := by simp [Ingest.letThrough] }

theorem finish {result : Except Fault Unit} (h : t.Fits s [.done result]) :
    (t.work s (.done result)).Fits s [] := by
  have silent : t.due = [] := h.owed (by simp [Ingest.owes])
  have said := h.say silent fun r member => (Session.aside_of_break result r member).1
  exact { said with
    captured := by simpa [Ingest.carried, Telling.work] using said.captured
    owed := fun _ => silent
    admitted := by simp }

-- Other threads neither capture nor settle anything.
theorem of_eq (h : t.Fits s stage) (captured : s'.ledger.captured = s.ledger.captured)
    (sizes : s'.ledger.size? = s.ledger.size?) : t.Fits s' stage :=
  { h with
    captured := by rw [captured]; exact h.captured
    sizes := by rw [sizes]; exact h.sizes }

theorem exists_broken (h : t.Fits s stage) : ∃ whole broken, t.passages = whole ++ broken ∧
    (∀ p ∈ whole, p.broke = false) ∧ (∀ p ∈ broken, p.broke = true) ∧ broken.length ≤ 1 := by
  rcases List.eq_nil_or_concat t.passages with empty | ⟨earlier, last, passages⟩
  · exact ⟨[], [], empty, by simp, by simp, by simp⟩
  · rw [List.concat_eq_append] at passages
    have whole := h.whole
    rw [passages, List.dropLast_concat] at whole
    cases broke : last.broke with
    | true => exact ⟨earlier, [last], passages, whole, by simp [broke], by simp⟩
    | false =>
      refine ⟨earlier ++ [last], [], by simp [passages], ?_, by simp, by simp⟩
      intro p member
      rcases List.mem_append.mp member with old | new
      · exact whole p old
      · rw [List.mem_singleton.mp new, broke]

end Telling.Fits

end CaptureQueue
