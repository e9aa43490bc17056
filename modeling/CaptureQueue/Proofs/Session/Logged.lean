import CaptureQueue.Proofs.Session.Failure

/-! The producer among threads, with what it says in the log. Its word on a packet is settled when
the packet is judged, or when the queue decides on it, and said once all is counted. -/

set_option autoImplicit false
namespace CaptureQueue

variable {σ τ : Type}

/-! ## What becomes of a packet -/

/-- A predicate broke over an unjudged packet, and the strategy over an undecided one. -/
inductive Fate where
  | filtered
  | accepted
  | dropped
  | rejected
  | unjudged
  | undecided
deriving DecidableEq, Repr

/-- A captured packet with the filters that judged it, and with the queue as it stood when the packet
was offered to it or turned away from it. -/
structure Passage where
  packet : Packet
  filters : FilterChain
  queue : PacketQueue

namespace Passage

def fate (p : Passage) : Fate :=
  match p.filters.firstRejection p.packet with
  | .error _ => .unjudged
  | .ok (some _) => .filtered
  | .ok none =>
    match (p.queue.offer p.packet).2 with
    | .ok .accepted => .accepted
    | .ok (.dropped _ _) => .dropped
    | .ok (.rejected _) => .rejected
    | .error _ => .undecided

def broke (p : Passage) : Bool := p.fate = .unjudged || p.fate = .undecided

def enqueuedRecords (p : Packet) : Except Fault Offered → List LogRecord
  | .ok .accepted =>
    [Session.record .trace "Packet enqueued" [("sequence", toString p.sequence)]]
  | _ => []

def records (p : Passage) : List LogRecord :=
  match p.filters.firstRejection p.packet with
  | .error _ => []
  | .ok (some (id, name)) =>
    [Session.record .trace "Packet filtered"
      [("sequence", toString p.packet.sequence), ("id", id.text), ("filter", name)]]
  | .ok none =>
    MeteredQueue.offerRecords p.queue p.packet (p.queue.offer p.packet).2 ++
      enqueuedRecords p.packet (p.queue.offer p.packet).2

end Passage

/-- The producer's work on one frame says what a passage through the filters and the queue of the
session says. -/
theorem Session.ingest_records (s : Session σ τ) (sequence : Nat) (data : Bytes) :
    (s.ingest sequence data).records =
      Passage.records ⟨{ sequence := sequence, data := data }, s.filters, s.queue.queue⟩ := by
  unfold ingest Passage.records
  dsimp only
  cases s.filters.firstRejection { sequence := sequence, data := data } with
  | error fault => rfl
  | ok rejection =>
    cases rejection with
    | some rejecter => rfl
    | none =>
      simp only [bind, Traced.bind, MeteredQueue.enqueue]
      cases (s.queue.queue.offer { sequence := sequence, data := data }).2 with
      | error fault => rfl
      | ok offered => cases offered <;> rfl

/-! ## The log of the producer -/

theorem Act.records_bind {α β : Type} (x : Act σ α) (f : α → Act σ β) (world : σ) :
    ((x >>= f) world).records =
      (x world).records ++ (f (x world).value.1 (x world).value.2).records := rfl

def Session.breakRecords : Except Fault Unit → List LogRecord
  | .ok () => []
  | .error fault => [brokenRecord fault]

theorem Session.produce_ingest_records {s : Session σ τ} {data : Bytes} {stream : τ} {frames : Nat}
    (on : s.producer = .active (.ingest data) stream frames) (world : σ) :
    (s.produce world).records =
      (s.ingest frames data).records ++ breakRecords (s.ingest frames data).value.2 := by
  have lifted : ((liftM (s.ingest frames data) : Act σ _) world).records =
      (s.ingest frames data).records := List.append_nil _
  simp only [produce, on, Act.records_bind, Act.value_lift, lifted]
  obtain ⟨after, outcome⟩ := (s.ingest frames data).value
  cases outcome <;> rfl

def LogRecord.byProducer (r : LogRecord) : LogRecord := { r with thread := .producer }

/-- What the producer has said so far, what is settled and due to be said, and the packets whose fate is
settled. The filters are those that admitted the packet on its way to the queue. -/
structure Telling where
  log : List LogRecord := []
  due : List LogRecord := []
  passages : List Passage := []
  admitting : FilterChain := .empty

namespace Telling

def say (t : Telling) (records : List LogRecord) : Telling :=
  { t with log := t.log ++ records.map LogRecord.byProducer }

theorem say_append (t : Telling) (first second : List LogRecord) :
    t.say (first ++ second) = (t.say first).say second := by
  simp [say]

def note (t : Telling) (p : Passage) : Telling :=
  { t with due := p.records, passages := t.passages ++ [p] }

def work (t : Telling) (s : SharedQueue) : Ingest → Telling
  | .judge p =>
    match s.filters.firstRejection p with
    | .ok none => { t with admitting := s.filters }
    | _ => t.note { packet := p, filters := s.filters, queue := s.queue.queue }
  -- the filters may have changed since they were asked
  | .decide p => t.note { packet := p, filters := t.admitting, queue := s.queue.queue }
  | .dismiss | .leave _ => { t.say t.due with due := [] }
  | .done result => t.say (Session.breakRecords result)
  | _ => t

end Telling

structure LoggedSession (σ τ : Type) where
  live : LiveSession σ τ
  telling : Telling := {}

namespace LoggedSession

def ofSession (session : Session σ τ) (world : σ) : LoggedSession σ τ :=
  { live := .ofSession session world }

/-- The log after the next step of the producer. Besides its work on frames, a step says what the
producer says at once. -/
def turn (l : LoggedSession σ τ) : Telling :=
  match l.live.session.producer with
  | .active (.ingest _) _ _ => l.live.ingest.elim l.telling (l.telling.work l.live.shared)
  | _ => l.telling.say (l.live.session.produce l.live.world).records

def step (l : LoggedSession σ τ) (action : LiveAction σ) : Option (LoggedSession σ τ) := do
  let live ← l.live.step action
  return { live := live, telling := match action with
    | .produce => l.turn
    | _ => l.telling }

def run (l : LoggedSession σ τ) (actions : List (LiveAction σ)) : Option (LoggedSession σ τ) :=
  actions.foldlM step l

end LoggedSession

/-! ## A producer that nobody interrupts -/

def Telling.Follows (before : Telling) (p : Passage) (t : Telling) (s : SharedQueue) :
    Ingest → Prop
  | .capture q | .measure q | .judge q =>
    q = p.packet ∧ s.filters = p.filters ∧ s.queue.queue = p.queue ∧
      t.log = before.log ∧ t.due = []
  | .enter q | .register q | .decide q =>
    q = p.packet ∧ t.admitting = p.filters ∧ s.queue.queue = p.queue ∧
      t.log = before.log ∧ t.due = []
  | .dismiss | .settle _ _ | .release _ | .leave _ => t.log = before.log ∧ t.due = p.records
  | .done _ => t.log = before.log ++ p.records.map LogRecord.byProducer ∧ t.due = []

theorem Telling.Follows.step {before t : Telling} {p : Passage} {s s' : SharedQueue}
    {i i' : Ingest} (h : before.Follows p t s i) (stepped : i.step s = some (s', i')) :
    before.Follows p (t.work s i) s' i' := by
  cases i with
  | capture q | measure q =>
    cases stepped
    exact h
  | judge q =>
    obtain ⟨rfl, filters, queue, log, due⟩ := h
    simp only [Ingest.step] at stepped
    cases judged : s.filters.firstRejection p.packet with
    | error fault =>
      rw [judged] at stepped
      cases stepped
      have silent : p.records = [] := by
        rw [filters] at judged
        simp [Passage.records, judged]
      simp only [work, judged]
      exact ⟨by simp [note, silent, log], by simp [note, filters, queue, silent]⟩
    | ok rejection =>
      rw [judged] at stepped
      cases rejection with
      | some rejecter =>
        cases stepped
        simp only [work, judged]
        exact ⟨log, by simp [note, filters, queue]⟩
      | none =>
        cases stepped
        simp only [work, judged]
        exact ⟨rfl, filters, queue, log, due⟩
  | enter q =>
    simp only [Ingest.step] at stepped
    split at stepped <;> cases stepped
    exact h
  | register q =>
    cases stepped
    exact h
  | decide q =>
    obtain ⟨rfl, admitting, queue, log, due⟩ := h
    cases stepped
    exact ⟨log, by simp [work, note, admitting, queue]⟩
  | dismiss | leave outcome =>
    obtain ⟨log, due⟩ := h
    cases stepped
    exact ⟨by simp [work, say, log, due], rfl⟩
  | settle asked outcome | release outcome =>
    cases stepped
    exact h
  | done result => cases stepped

namespace LoggedSession

variable {l : LoggedSession σ τ} {task : ProducerTask} {data : Bytes} {stream : τ} {frames : Nat}

/-- One step of a producer that nobody interrupts. -/
def Next (a b : LoggedSession σ τ) : Prop := a.step .produce = some b

theorem next_of_step {s : SharedQueue} {i i' : Ingest}
    (on : l.live.session.producer = .active (.ingest data) stream frames)
    (inside : l.live.ingest.getD (.capture { sequence := frames, data := data }) = i)
    (moved : i.step l.live.shared = some (s, i')) :
    Next l { live := { l.live.withShared s with ingest := some i' }, telling := l.turn } := by
  simp only [Next, step, LiveSession.step, LiveSession.produce_of_next on inside moved]
  rfl

theorem turn_of_errand (on : l.live.session.producer = .active task stream frames)
    (outside : ∀ data, task ≠ .ingest data) :
    l.turn = l.telling.say (l.live.session.produce l.live.world).records := by
  unfold turn
  rw [on]
  cases task with
  | ingest data => exact absurd rfl (outside data)
  | _ => rfl

theorem turn_of_ingest (on : l.live.session.producer = .active (.ingest data) stream frames) :
    l.turn = l.live.ingest.elim l.telling (l.telling.work l.live.shared) := by
  unfold turn
  rw [on]

theorem errand_alone (on : l.live.session.producer = .active task stream frames)
    (outside : ∀ data, task ≠ .ingest data) :
    ∃ closed, Next l { live := { l.live.errand with closed := closed }, telling := l.turn } := by
  obtain ⟨closed, produced, _⟩ := LiveSession.produce_of_errand on outside
  refine ⟨closed, ?_⟩
  simp only [Next, step, LiveSession.step, produced]
  rfl

def standing (l : LoggedSession σ τ) (stage : SharedQueue × Ingest) (t : Telling) :
    LoggedSession σ τ :=
  { live := { l.live.withShared stage.1 with ingest := some stage.2 }, telling := t }

theorem work_alone {before t : Telling} {p : Passage} {a b : SharedQueue × Ingest}
    (on : l.live.session.producer = .active (.ingest data) stream frames)
    (path : Relation.ReflTransGen Ingest.Next a b) (follows : before.Follows p t a.1 a.2) :
    ∃ t', Relation.ReflTransGen Next (l.standing a t) (l.standing b t') ∧
      before.Follows p t' b.1 b.2 := by
  induction path with
  | refl => exact ⟨t, .refl, follows⟩
  | @tail b c _ next ih =>
    obtain ⟨t', path, follows⟩ := ih
    have one := next_of_step (l := l.standing b t') on rfl next
    rw [show (l.standing b t').turn = t'.work b.1 b.2 from turn_of_ingest on] at one
    exact ⟨_, path.tail one, follows.step next⟩

theorem done_alone {shared : SharedQueue} {t : Telling} {result : Except Fault Unit}
    (on : l.live.session.producer = .active (.ingest data) stream frames) :
    Next (l.standing (shared, .done result) t) {
      live := { l.live.withShared shared with
        session := { l.live.session with
          filters := shared.filters
          queue := shared.queue
          producer := .afterIngest stream frames result }
        ingest := none }
      telling := t.work shared (.done result) } := by
  have turned : (l.standing (shared, .done result) t).turn = t.work shared (.done result) :=
    turn_of_ingest on
  have produced := LiveSession.produce_of_through
    (l := (l.standing (shared, .done result) t).live) on rfl
  simp only [Next, step, LiveSession.step, produced, turned]
  rfl

/-- Nobody interrupts the producer: its steps come to what it does at once, and say the same. -/
theorem produce_alone (on : l.live.session.producer = .active task stream frames)
    (outside : l.live.ingest = none) (free : l.live.queueHeld = false)
    (silent : l.telling.due = []) :
    ∃ l', Relation.ReflTransGen Next l l' ∧
      (l'.live.session, l'.live.world) = (l.live.session.produce l.live.world).value ∧
      l'.live.ingest = none ∧ l'.live.queueHeld = false ∧ l'.telling.due = [] ∧
      l'.telling.log = l.telling.log ++
        ((l.live.session.produce l.live.world).onThread .producer).records := by
  by_cases inside : ∃ data, task = .ingest data
  · obtain ⟨data, rfl⟩ := inside
    obtain ⟨shared, work, released, result⟩ :=
      Session.ingest_alone l.live.session l.live.ledger frames data
    have standing : l.live.shared = {
        filters := l.live.session.filters
        queue := l.live.session.queue
        ledger := l.live.ledger } := by
      simp [LiveSession.shared, free]
    rw [← standing] at work
    rcases work.cases_head with same | ⟨first, next, rest⟩
    · cases same
    have begun := next_of_step on (by rw [outside]; rfl) next
    rw [turn_of_ingest on, outside] at begun
    let p : Passage := ⟨{ sequence := frames, data := data }, l.live.session.filters,
      l.live.session.queue.queue⟩
    have follows : l.telling.Follows p l.telling first.1 first.2 := by
      cases next
      exact ⟨rfl, rfl, rfl, rfl, silent⟩
    obtain ⟨t, path, log, due⟩ := work_alone on rest follows
    refine ⟨_, (path.head begun).tail (done_alone on), ?_, rfl, released, ?_, ?_⟩
    · rw [Session.produce_ingest on, result]
      rfl
    · exact due
    · have said : (t.say (Session.breakRecords (l.live.session.ingest frames data).value.2)).log =
          l.telling.log ++ (l.live.session.produce l.live.world).records.map
            LogRecord.byProducer := by
        rw [Session.produce_ingest_records on, Session.ingest_records, Telling.say, log,
          List.append_assoc, ← List.map_append]
      exact said
  · have errand : ∀ data, task ≠ .ingest data := fun data same => inside ⟨data, same⟩
    obtain ⟨closed, next⟩ := errand_alone on errand
    rw [turn_of_errand on errand] at next
    exact ⟨_, .single next, rfl, outside, free, silent, rfl⟩

end LoggedSession

end CaptureQueue
