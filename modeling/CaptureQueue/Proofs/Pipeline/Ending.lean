import CaptureQueue.Proofs.Pipeline.Turns
import CaptureQueue.Proofs.Session.Unbroken

/-! When a capture comes to its end by itself. The schedule of a capture with a deadline, or with an
event that ends it, has an outcome; without either it goes on as long as it is let. -/

set_option autoImplicit false
namespace CaptureQueue

/-! ## What the parts of a step leave alone -/

theorem PacketQueue.length_offer_le (q : PacketQueue) (p : Packet) :
    (q.offer p).1.packets.length ≤ q.packets.length + 1 := by
  unfold offer
  split
  · simp
  · split
    case h_1 decision decided => cases decision <;> simp [overflow]
    case h_2 => exact Nat.le_succ _

namespace Session

variable {σ τ : Type}

theorem length_ingest (s : Session σ τ) (sequence : Nat) (data : Bytes) :
    (s.ingest sequence data).value.1.queue.queue.packets.length ≤
      s.queue.queue.packets.length + 1 := by
  obtain ⟨metrics, queue, after, same | offered⟩ := s.ingest_frame sequence data
  · rw [after, same]
    exact Nat.le_succ _
  · rw [after, offered]
    exact PacketQueue.length_offer_le _ _

theorem ingest_ok {s : Session σ τ} (answers : ∀ entry ∈ s.filters.entries, entry.2.Answers)
    (decides : s.queue.queue.strategy.Decides) (sequence : Nat) (data : Bytes) :
    (s.ingest sequence data).value.2 = .ok () := by
  unfold ingest
  simp only
  split
  case h_1 fault broke =>
    obtain ⟨rejection, judged⟩ :=
      FilterChain.firstRejection_ok answers { sequence := sequence, data := data }
    cases broke.symm.trans judged
  case h_2 => rfl
  case h_3 =>
    obtain ⟨offered, decided⟩ :=
      PacketQueue.offer_ok decides { sequence := sequence, data := data }
    simp only [bind, Traced.bind, MeteredQueue.enqueue, decided]
    split <;> rfl

theorem dequeue_cases (s : Session σ τ) :
    (s.queue.queue.packets = [] ∧ s.dequeue.value.2 = none ∧
      s.dequeue.value.1.queue.queue.packets = []) ∨
    ∃ p rest, s.queue.queue.packets = p :: rest ∧ s.dequeue.value.2 = some p ∧
      s.dequeue.value.1.queue.queue.packets = rest := by
  have taken : s.dequeue.value =
      ({ s with queue := s.queue.dequeue.value.1 }, s.queue.dequeue.value.2) := rfl
  rw [taken]
  unfold MeteredQueue.dequeue PacketQueue.take
  cases held : s.queue.queue.packets with
  | nil => exact .inl ⟨rfl, rfl, rfl⟩
  | cons p rest => exact .inr ⟨p, rest, rfl, rfl, rfl⟩

end Session

/-! ## Work that is left -/

/-- Steps left to a producer at most, by the number of events to come. Taking a frame in counts for
more than what its packet costs the consumers. -/
def Producer.load (events : Nat) : Producer Channel → Nat
  | .active (.ingest _) _ _ => 8 * events + 8
  | .active .poll _ _ => 8 * events + 4
  | .active .read _ _ => if events = 0 then 5 else 8 * events + 3
  | .active (.fail _) _ _ => 3
  | .active .halt _ _ => 2
  | .active .close _ _ => 1
  | .absent | .ended _ => 0

/-- Steps left to a consumer at most, apart from three for each packet. One that waits for a packet
has nothing to do until there is one or none can come. -/
def Consumer.load (consuming : Bool) (c : Consumer) : Nat :=
  match c.task with
  | .await => if consuming then 0 else 4
  | .look => if consuming then 1 else 3
  | .inspect _ => if consuming then 2 else 4
  | .inspectLeft _ => 3
  | .drain => 2
  | .done | .broken => 0

namespace Pipeline

def load (p : Pipeline Host Channel) (events : Nat) : Nat :=
  p.session.producer.load events + 3 * p.session.queue.queue.packets.length +
    (p.consumers.map (Consumer.load p.consuming)).sum

end Pipeline

namespace Schedule

def ticksLeft (horizon time : Nat) : Nat := (horizon + tick - time) / tick

/-- Steps left to the supervisor at most, if the capture has an end by the horizon. Those for the
consumers are paid when it tells them that no more packets come. -/
def supervisorLoad (horizon : Nat) (s : Schedule) : Nat :=
  let told := 4 * s.pipeline.consumers.length
  match s.pipeline.supervisor with
  | .look =>
    if s.pipeline.interrupted then told + 4
    else told + 2 * ticksLeft horizon (s.supervisorAt + tick) + 7
  | .sleep =>
    if s.pipeline.interrupted then told + 5 else told + 2 * ticksLeft horizon s.supervisorAt + 6
  | .stop => told + 3
  | .join _ => told + 2
  | .gather _ => 1
  | .done _ => 0

def load (horizon : Nat) (s : Schedule) (events : List ChannelEvent) : Nat :=
  s.pipeline.load events.length + s.supervisorLoad horizon

end Schedule

/-! ## What ends a capture -/

def ChannelEvent.ends : ChannelEvent → Bool
  | .interrupt => true
  | .failure e => !Datalink.isIdle e
  | .frame _ | .pause _ => false

namespace ProducerTask

def reads : ProducerTask → Bool
  | .poll | .read | .ingest _ => true
  | _ => false

def fails : ProducerTask → Bool
  | .fail _ | .halt => true
  | _ => false

end ProducerTask

namespace Schedule

variable {s s' : Schedule} {events events' : List ChannelEvent} {horizon : Nat}

/-- Why a capture comes to its end: it was told to, or it will be by the horizon. -/
inductive Due (horizon : Nat) (s : Schedule) (events : List ChannelEvent) : Prop where
  | interrupted (told : s.pipeline.interrupted = true)
  | stopped (told : s.pipeline.session.phase = .stopped)
  | deadline {time : Nat} (set : s.pipeline.deadline = some time) (soon : time ≤ horizon)
  | failing {task : ProducerTask} {c : Channel} {n : Nat}
      (on : s.pipeline.session.producer = .active task c n) (fails : task.fails = true)
      (ahead : s.now ≤ s.producerAt) (soon : s.producerAt ≤ horizon)
  | coming {task : ProducerTask} {c : Channel} {n : Nat}
      (on : s.pipeline.session.producer = .active task c n) (reads : task.reads = true)
      (ends : ∃ event ∈ events, event.ends = true) (ahead : s.now ≤ s.producerAt)
      (soon : s.producerAt + pauses events ≤ horizon)

/-- What the threads of a pipeline know of each other. -/
structure Orderly (s : Schedule) : Prop where
  backend : s.pipeline.session.backend = Datalink.backend
  begun : s.pipeline.session.phase ≠ .idle
  timed : s.consumersAt.length = s.pipeline.consumers.length
  stopped : ∀ previous, s.pipeline.supervisor = .join previous → s.pipeline.session.phase = .stopped
  told : ∀ outcome, s.pipeline.supervisor = .gather outcome → s.pipeline.consuming = false

theorem pauses_cons (event : ChannelEvent) (rest : List ChannelEvent) :
    pauses (event :: rest) = (match event with | .pause ms => ms | _ => 0) + pauses rest := by
  unfold pauses
  rw [← List.sum_eq_foldl, ← List.sum_eq_foldl]
  exact List.sum_cons

end Schedule

theorem Session.Fares.settings {s after : Session Host Channel} {events events' : List ChannelEvent}
    (fares : s.Fares events after events') :
    after.backend = s.backend ∧ (after.phase = s.phase ∨ after.phase = .stopped) := by
  cases fares with
  | @ingest c n data events on =>
    obtain ⟨metrics, queue, same, -⟩ := s.ingest_frame n data
    rw [same]
    exact ⟨rfl, .inl rfl⟩
  | halt => exact ⟨rfl, .inr rfl⟩
  | look | wait | frame | idle | failure | refused | fail | close => exact ⟨rfl, .inl rfl⟩

theorem Pipeline.consumeAs_frame {σ τ : Type} (p : Pipeline σ τ) (c : Consumer) :
    ∃ queue, (p.consumeAs c).value.1 = { p with session := { p.session with queue := queue } } ∧
      queue.queue.strategy = p.session.queue.queue.strategy := by
  rw [consumeAs_value]
  cases c.task with
  | look | inspect | inspectLeft | done | broken => exact ⟨_, rfl, rfl⟩
  | await | drain =>
    refine ⟨p.session.queue.dequeue.value.1, rfl, ?_⟩
    unfold MeteredQueue.dequeue PacketQueue.take
    cases p.session.queue.queue.packets <;> rfl

namespace Schedule

variable {s s' : Schedule} {events events' : List ChannelEvent} {horizon : Nat} {turn : Turn}

theorem Orderly.takes (h : s.Orderly) (took : s.Takes turn events s' events') : s'.Orderly := by
  cases took with
  | pause | interrupt => exact ⟨h.backend, h.begun, h.timed, h.stopped, h.told⟩
  | produce fares same =>
    obtain ⟨backend, phase⟩ := fares.settings
    refine ⟨backend.trans h.backend, ?_, h.timed, fun previous waits => ?_, h.told⟩
    · rcases phase with same | stopped
      · rw [same]
        exact h.begun
      · simp [stopped]
    · rcases phase with same | stopped
      · exact same.trans (h.stopped previous waits)
      · exact stopped
  | @consume index c _ times found all =>
    obtain ⟨queue, same, -⟩ := s.pipeline.consumeAs_frame c
    rw [same]
    exact ⟨h.backend, h.begun, by simp [all, h.timed], h.stopped, h.told⟩
  | supervise watches =>
    cases watches with
    | heed | doze | rouse | wake | gather => exact ⟨h.backend, h.begun, h.timed, by simp, by simp⟩
    | stop => exact ⟨h.backend, by simp [Session.requestStop], h.timed, fun _ _ => rfl, by simp⟩
    | join => exact ⟨h.backend, h.begun, h.timed, by simp, fun _ _ => rfl⟩

/-- The end comes no nearer while time goes on to a turn, and no other thread than the producer goes
beyond a time that the producer is waited for. -/
theorem Due.move {h : Host} {time : Nat} (due : s.Due horizon h.events)
    (chosen : earliest s.now (s.turns h) = some (turn, time)) :
    Due horizon { s with now := time } h.events ∧
      (turn ≠ .producer → s.pipeline.interrupted = true ∨ s.pipeline.session.phase = .stopped ∨
        (∃ set, s.pipeline.deadline = some set ∧ set ≤ horizon) ∨ time < horizon) := by
  have ahead {task : ProducerTask} {c : Channel} {n : Nat}
      (on : s.pipeline.session.producer = .active task c n)
      (goes : task = .poll → h.events = [] → s.pipeline.session.phase ≠ .capturing)
      (before : s.now ≤ s.producerAt) :
      time ≤ s.producerAt ∧ (turn ≠ .producer → time < s.producerAt) := by
    have sooner := lt_producerAt on goes chosen
    rw [Nat.max_eq_right before] at sooner
    by_cases mine : turn = .producer
    · subst mine
      obtain ⟨t, member, same⟩ := mem_of_earliest chosen
      cases ready_of_mem member
      exact ⟨by omega, fun other => absurd rfl other⟩
    · exact ⟨Nat.le_of_lt (sooner mine), sooner⟩
  cases due with
  | interrupted told => exact ⟨.interrupted told, fun _ => .inl told⟩
  | stopped told => exact ⟨.stopped told, fun _ => .inr (.inl told)⟩
  | deadline set soon => exact ⟨.deadline set soon, fun _ => .inr (.inr (.inl ⟨_, set, soon⟩))⟩
  | failing on fails before soon =>
    obtain ⟨le, lt⟩ := ahead on (by rintro rfl; cases fails) before
    exact ⟨.failing on fails le soon, fun other => .inr (.inr (.inr (by have := lt other; omega)))⟩
  | coming on reads ends before soon =>
    obtain ⟨le, lt⟩ := ahead on (fun _ none => by simp [none] at ends) before
    exact ⟨.coming on reads ends le soon, fun other => .inr (.inr (.inr (by have := lt other; omega)))⟩

theorem Due.of_eq (due : s.Due horizon events)
    (interrupted : s'.pipeline.interrupted = s.pipeline.interrupted)
    (phase : s'.pipeline.session.phase = s.pipeline.session.phase)
    (deadline : s'.pipeline.deadline = s.pipeline.deadline)
    (producer : s'.pipeline.session.producer = s.pipeline.session.producer)
    (now : s'.now = s.now) (producerAt : s'.producerAt = s.producerAt) : s'.Due horizon events := by
  cases due with
  | interrupted told => exact .interrupted (interrupted.trans told)
  | stopped told => exact .stopped (phase.trans told)
  | deadline set soon => exact .deadline (deadline.trans set) soon
  | failing on fails ahead soon =>
    exact .failing (producer.trans on) fails (by omega) (by omega)
  | coming on reads ends ahead soon =>
    exact .coming (producer.trans on) reads ends (by omega) (by omega)

theorem Due.produce {session : Session Host Channel} {time : Nat} (due : s.Due horizon events)
    (begun : s.pipeline.session.phase ≠ .idle)
    (fares : s.pipeline.session.Fares events session events')
    (same : events ≠ [] ∨ (∀ c n, s.pipeline.session.producer ≠ .active .read c n) →
      time = s.producerAt) :
    Due horizon { s with
      pipeline := { s.pipeline with session := session }, producerAt := time } events' := by
  cases due with
  | interrupted told => exact .interrupted told
  | deadline set soon => exact .deadline set soon
  | stopped told =>
    obtain ⟨-, phase | phase⟩ := fares.settings
    · exact .stopped (phase.trans told)
    · exact .stopped phase
  | failing on fails ahead soon =>
    have there := same (.inr fun c n reads => by rw [on] at reads; cases reads; cases fails)
    cases fares with
    | fail => exact .failing rfl rfl (there ▸ ahead) (there ▸ soon)
    | halt => exact .stopped rfl
    | look on' | wait on' | frame on' | idle on' | failure on' | refused on' | ingest on' | close on' =>
      rw [on] at on'
      cases on'
      cases fails
  | coming on reads ends ahead soon =>
    obtain ⟨event, member, ends⟩ := ends
    cases same (.inl (List.ne_nil_of_mem member))
    -- The event that ends the capture is still to come behind one that does not.
    have later {first : ChannelEvent} {rest : List ChannelEvent} (mild : first.ends = false)
        (all : events = first :: rest) :
        (∃ event ∈ rest, event.ends = true) ∧ s.producerAt + pauses rest ≤ horizon := by
      rw [all] at member soon
      rw [pauses_cons] at soon
      refine ⟨⟨event, ?_, ends⟩, by omega⟩
      rcases List.mem_cons.mp member with rfl | after
      · rw [mild] at ends
        cases ends
      · exact after
    cases fares with
    | look =>
      by_cases captures : s.pipeline.session.phase = .capturing
      · rw [if_pos captures]
        exact .coming rfl rfl ⟨event, member, ends⟩ ahead soon
      · refine .stopped ?_
        cases phase : s.pipeline.session.phase with
        | idle => exact absurd phase begun
        | capturing => exact absurd phase captures
        | stopped => rfl
    | wait => cases member
    | frame =>
      obtain ⟨ends, soon⟩ := later rfl rfl
      exact .coming rfl rfl ends ahead soon
    | idle _ idle =>
      obtain ⟨ends, soon⟩ := later (by simp [ChannelEvent.ends, idle]) rfl
      exact .coming rfl rfl ends ahead soon
    | failure | refused =>
      exact .failing rfl rfl ahead (by dsimp only; omega)
    | @ingest c n data =>
      cases (s.pipeline.session.ingest n data).value.2 with
      | ok done => exact .coming rfl rfl ⟨event, member, ends⟩ ahead soon
      | error fault => exact .failing rfl rfl ahead (by dsimp only; omega)
    | fail on' | halt on' | close on' =>
      rw [on] at on'
      cases on'
      cases reads

theorem Due.takes (due : s.Due horizon events) (orderly : s.Orderly)
    (took : s.Takes turn events s' events') : s'.Due horizon events' := by
  cases took with
  | @pause c n ms rest on =>
    cases due with
    | interrupted told => exact .interrupted told
    | stopped told => exact .stopped told
    | deadline set soon => exact .deadline set soon
    | failing on' fails =>
      rw [on] at on'
      cases on'
      cases fails
    | coming on' reads ends ahead soon =>
      obtain ⟨event, member, ends⟩ := ends
      rw [pauses_cons] at soon
      dsimp only at soon
      refine .coming on' reads ⟨event, ?_, ends⟩ (Nat.le_add_right _ _) (by dsimp only; omega)
      rcases List.mem_cons.mp member with rfl | later
      · cases ends
      · exact later
  | interrupt => exact .interrupted rfl
  | produce fares same => exact due.produce orderly.begun fares same
  | @consume index c _ times found all =>
    obtain ⟨queue, same, -⟩ := s.pipeline.consumeAs_frame c
    rw [same]
    exact due.of_eq rfl rfl rfl rfl rfl rfl
  | supervise watches =>
    cases watches with
    | heed | doze | rouse | wake | gather => exact due.of_eq rfl rfl rfl rfl rfl rfl
    | stop => exact .stopped rfl
    | join at_it => exact .stopped (orderly.stopped _ at_it)

end Schedule

/-! ## The work gets less -/

theorem Session.Fares.load_lt {s after : Session Host Channel} {events events' : List ChannelEvent}
    (fares : s.Fares events after events')
    (goes : ∀ c n, s.producer = .active .poll c n → events = [] → s.phase ≠ .capturing) :
    after.producer.load events'.length + 3 * after.queue.queue.packets.length <
      s.producer.load events.length + 3 * s.queue.queue.packets.length := by
  cases fares with
  | look on =>
    by_cases captures : s.phase = .capturing
    · have some : events.length ≠ 0 := fun none =>
        goes _ _ on (List.length_eq_zero_iff.mp none) captures
      simp only [on, Producer.load, if_pos captures, if_neg some]
      omega
    · simp only [on, Producer.load, if_neg captures]
      omega
  | @ingest c n data events on =>
    have entered := s.length_ingest n data
    simp only [on, Producer.load]
    cases (s.ingest n data).value.2 with
    | ok done =>
      simp only [Producer.afterIngest]
      omega
    | error fault =>
      simp only [Producer.afterIngest]
      omega
  | wait on =>
    simp only [on, Producer.load, List.length_nil, if_true]
    omega
  | frame on | idle on | failure on | refused on =>
    simp only [on, Producer.load, List.length_cons]
    split <;> omega
  | fail on | halt on | close on =>
    simp only [on, Producer.load]
    omega

namespace Pipeline

variable {p : Pipeline Host Channel}

theorem consumeAs_load_lt {c : Consumer} (goes : Schedule.isReady p c = true) :
    3 * (p.consumeAs c).value.1.session.queue.queue.packets.length +
        (p.consumeAs c).value.2.load p.consuming <
      3 * p.session.queue.queue.packets.length + c.load p.consuming := by
  rw [consumeAs_value]
  obtain ⟨task, consumed⟩ := c
  cases task with
  | look => cases p.consuming <;> simp [Consumer.load]
  | await =>
    obtain ⟨empty, got, left⟩ | ⟨packet, rest, held, got, left⟩ := p.session.dequeue_cases
    · have told : p.consuming = false := by simpa [Schedule.isReady, empty] using goes
      simp [got, left, told, Consumer.load]
    · simp only [got, left, held, Consumer.load, List.length_cons, Option.map_some, Option.getD_some]
      cases p.consuming <;> simp
      omega
  | drain =>
    obtain ⟨empty, got, left⟩ | ⟨packet, rest, held, got, left⟩ := p.session.dequeue_cases
    · simp [got, left, Consumer.load]
    · simp only [got, left, held, Consumer.load, List.length_cons, Option.map_some, Option.getD_some]
      omega
  | inspect packet => cases p.consuming <;> simp [Consumer.load]
  | inspectLeft packet => simp [Consumer.load]
  | done | broken => simp [Schedule.isReady] at goes

theorem consume_load_lt {index : Nat} {c : Consumer} (found : p.consumers[index]? = some c)
    (goes : Schedule.isReady p c = true) (events : Nat) :
    load { (p.consumeAs c).value.1 with
        consumers := (p.consumeAs c).value.1.consumers.set index (p.consumeAs c).value.2 } events <
      p.load events := by
  have lighter := consumeAs_load_lt goes
  obtain ⟨others, was, now⟩ := exists_others found
  have before := (was.map (Consumer.load p.consuming)).sum_nat
  have after := ((now (p.consumeAs c).value.2).map (Consumer.load p.consuming)).sum_nat
  obtain ⟨queue, same, -⟩ := p.consumeAs_frame c
  rw [same] at lighter ⊢
  simp only [load, List.map_cons, List.sum_cons] at before after lighter ⊢
  omega

theorem load_lt_of_read {c : Channel} {n : Nat} (on : p.session.producer = .active .read c n)
    (events : Nat) : p.load events < p.load (events + 1) := by
  simp only [load, on, Producer.load]
  split <;> split <;> omega

theorem sum_load_le (consuming : Bool) (consumers : List Consumer) :
    (consumers.map (Consumer.load false)).sum ≤
      (consumers.map (Consumer.load consuming)).sum + 4 * consumers.length := by
  induction consumers with
  | nil => exact Nat.le_refl _
  | cons c rest ih =>
    have one : c.load false ≤ c.load consuming + 4 := by
      obtain ⟨task, consumed⟩ := c
      cases task <;> simp [Consumer.load]
    simp only [List.map_cons, List.sum_cons, List.length_cons]
    omega

end Pipeline

namespace Schedule

variable {s s' : Schedule} {events events' : List ChannelEvent} {horizon : Nat} {turn : Turn}

theorem ticksLeft_anti {early late : Nat} (le : early ≤ late) :
    ticksLeft horizon late ≤ ticksLeft horizon early :=
  Nat.div_le_div_right (by omega)

theorem ticksLeft_lt {early late : Nat} (le : early ≤ late) (before : late < horizon) :
    ticksLeft horizon (late + tick) < ticksLeft horizon early := by
  have next : ticksLeft horizon late = ticksLeft horizon (late + tick) + 1 := by
    have split : horizon + tick - late = horizon + tick - (late + tick) + tick := by omega
    rw [ticksLeft, split, Nat.add_div_right _ (by decide)]
    rfl
  have sooner : ticksLeft horizon late ≤ ticksLeft horizon early := ticksLeft_anti le
  omega

theorem load_supervise_lt {p : Pipeline Host Channel} (watches : s.pipeline.Watches s.now p)
    (reached : s.supervisorAt ≤ s.now)
    (bound : s.pipeline.interrupted = true ∨ s.pipeline.session.phase = .stopped ∨
      (∃ set, s.pipeline.deadline = some set ∧ set ≤ horizon) ∨ s.now < horizon) :
    load horizon { s with
      pipeline := p
      supervisorAt := s.now + (match p.supervisor with | .sleep => tick | _ => 0) } events <
        s.load horizon events := by
  cases watches with
  | heed at_it told => simp [load, Pipeline.load, supervisorLoad, at_it, told]
  | doze at_it untold =>
    have sooner : ticksLeft horizon (s.now + tick) ≤ ticksLeft horizon (s.supervisorAt + tick) :=
      ticksLeft_anti (by omega)
    simp only [load, Pipeline.load, supervisorLoad, at_it, untold, Bool.false_eq_true, if_false]
    omega
  | rouse at_it ends =>
    simp only [load, Pipeline.load, supervisorLoad, at_it]
    split <;> omega
  | wake at_it on =>
    simp only [load, Pipeline.load, supervisorLoad, at_it, Nat.add_zero]
    split
    · omega
    case isFalse untold =>
      -- The end has not come, so it is ahead, and the tick counts.
      have before : s.now < horizon := by
        rcases bound with told | stopped | ⟨set, deadline, soon⟩ | before
        · exact absurd told untold
        · exact absurd (.inl stopped) on
        · have late : ¬ set ≤ s.now := fun reached => on (.inr (by simp [deadline, reached]))
          omega
        · exact before
      have fewer := ticksLeft_lt reached before
      omega
  | stop at_it =>
    simp only [load, Pipeline.load, supervisorLoad, at_it, Session.requestStop]
    omega
  | @join previous outcome producer at_it through =>
    have costs := Pipeline.sum_load_le s.pipeline.consuming s.pipeline.consumers
    have none : producer.load events.length = 0 := by
      cases producer with
      | active => cases through
      | absent | ended => rfl
    simp only [load, Pipeline.load, supervisorLoad, at_it, none]
    omega
  | gather at_it =>
    simp only [load, Pipeline.load, supervisorLoad, at_it]
    omega

theorem supervisorLoad_interrupt (horizon : Nat) (s : Schedule) :
    supervisorLoad horizon { s with pipeline := { s.pipeline with interrupted := true } } ≤
      supervisorLoad horizon s := by
  unfold supervisorLoad
  cases s.pipeline.supervisor with
  | look | sleep =>
    simp only [if_true]
    split <;> omega
  | stop | join | gather | done => exact Nat.le_refl _

theorem Takes.load_lt {time : Nat} (took : s.Takes turn events s' events')
    (ready : s.Ready events turn time) (reached : time ≤ s.now)
    (bound : turn ≠ .producer → s.pipeline.interrupted = true ∨
      s.pipeline.session.phase = .stopped ∨
      (∃ set, s.pipeline.deadline = some set ∧ set ≤ horizon) ∨ s.now < horizon) :
    s'.load horizon events' < s.load horizon events := by
  cases took with
  | pause on =>
    exact Nat.add_lt_add_of_lt_of_le (Pipeline.load_lt_of_read on _) (Nat.le_refl _)
  | interrupt on =>
    exact Nat.add_lt_add_of_lt_of_le (Pipeline.load_lt_of_read on _)
      (supervisorLoad_interrupt horizon s)
  | produce fares same =>
    refine Nat.add_lt_add_of_lt_of_le (Nat.add_lt_add_right (fares.load_lt ?_) _) (Nat.le_refl _)
    intro c n polls none captures
    cases ready with
    | producer on goes =>
      rw [on] at polls
      cases polls
      exact goes rfl none captures
  | @consume index c events times found all =>
    cases ready with
    | consumer found' goes =>
      cases found.symm.trans found'
      refine Nat.add_lt_add_of_lt_of_le (Pipeline.consume_load_lt found goes _) (Nat.le_of_eq ?_)
      obtain ⟨queue, same, -⟩ := s.pipeline.consumeAs_frame c
      rw [same]
      simp only [supervisorLoad, List.length_set]
  | supervise watches =>
    cases ready with
    | supervisor goes => exact load_supervise_lt watches reached (bound (by simp))

/-! ## Captures that end -/

/-- Nobody has anything left to do only after the end: all wait for others that do not. -/
theorem done_of_still {h : Host} (orderly : s.Orderly) (still : s.turns h = []) :
    ∃ outcome, s.pipeline.supervisor = .done outcome := by
  simp only [turns, List.append_eq_nil_iff, Option.toList_eq_nil_iff] at still
  obtain ⟨⟨producer, consumers⟩, supervisor⟩ := still
  cases at_it : s.pipeline.supervisor with
  | done outcome => exact ⟨outcome, rfl⟩
  | look | sleep | stop => simp [supervisorTurn, at_it] at supervisor
  | join previous =>
    -- The session is stopped by then, so that a producer at work has its turn.
    have stopped := orderly.stopped previous at_it
    have waits : s.pipeline.session.producer.isActive = true := by
      simpa [supervisorTurn, at_it] using supervisor
    cases on : s.pipeline.session.producer with
    | absent | ended => simp [on, Producer.isActive] at waits
    | active task c n => cases task <;> simp [producerTurn, on, stopped] at producer
  | gather outcome =>
    have waits : s.pipeline.allOver = false := by
      simpa [supervisorTurn, at_it] using supervisor
    -- One of the consumers is not through. All were told that no more packets come, so it has its turn.
    obtain ⟨c, member, busy⟩ : ∃ c ∈ s.pipeline.consumers, c.task.isOver = false := by
      simpa [Pipeline.allOver] using waits
    obtain ⟨index, bound, rfl⟩ := List.getElem_of_mem member
    have goes : isReady s.pipeline s.pipeline.consumers[index] = true := by
      unfold isReady
      cases task : s.pipeline.consumers[index].task with
      | await => simp [orderly.told outcome at_it]
      | done | broken => simp [task, ConsumerTask.isOver] at busy
      | look | inspect | drain | inspectLeft => rfl
    have timed : index < s.consumersAt.length := orderly.timed ▸ bound
    have listed : ((s.pipeline.consumers[index], s.consumersAt[index]), index) ∈
        (s.pipeline.consumers.zip s.consumersAt).zipIdx := by
      rw [List.mk_mem_zipIdx_iff_getElem?, List.getElem?_zip_eq_some]
      exact ⟨List.getElem?_eq_getElem bound, List.getElem?_eq_getElem timed⟩
    rw [consumerTurns, List.map_eq_nil_iff, List.filter_eq_nil_iff] at consumers
    exact absurd goes (consumers _ listed)

theorem done_of_due {h : Host} {fuel : Nat} (orderly : s.Orderly) (due : s.Due horizon h.events)
    (enough : s.load horizon h.events < fuel) :
    ∃ outcome, (s.runWithin fuel h).value.1.pipeline.supervisor = .done outcome := by
  -- Each turn leaves the end due and lowers the load, which the fuel bounds.
  induction fuel generalizing s h with
  | zero => cases enough
  | succ fuel ih =>
    rw [runWithin_succ]
    cases chosen : earliest s.now (s.turns h) with
    | none => exact done_of_still orderly (earliest_eq_none chosen)
    | some next =>
      obtain ⟨turn, time⟩ := next
      let moved : Schedule := { s with now := time }
      obtain ⟨t, member, same⟩ := mem_of_earliest chosen
      have ready : moved.Ready h.events turn t := ready_of_mem (s := moved) member
      obtain ⟨due, bound⟩ := due.move chosen
      have settled : moved.Orderly :=
        ⟨orderly.backend, orderly.begun, orderly.timed, orderly.stopped, orderly.told⟩
      have took := takes_of_ready settled.backend ready
      have lighter := took.load_lt ready (by simp only [moved]; omega) bound
      exact ih (settled.takes took) (due.takes settled took)
        (Nat.lt_of_lt_of_le lighter (Nat.le_of_lt_succ enough))

/-! ## Captures that go on -/

/-- A capture that nothing has ended, and to which nothing comes that ends one. -/
structure GoesOn (s : Schedule) (events : List ChannelEvent) : Prop where
  backend : s.pipeline.session.backend = Datalink.backend
  filters : ∀ entry ∈ s.pipeline.session.filters.entries, entry.2.Answers
  strategy : s.pipeline.session.queue.queue.strategy.Decides
  capturing : s.pipeline.session.phase = .capturing
  untold : s.pipeline.interrupted = false
  endless : s.pipeline.deadline = none
  watching : s.pipeline.supervisor = .look ∨ s.pipeline.supervisor = .sleep
  producing : ∃ task c n, s.pipeline.session.producer = .active task c n ∧ task.reads = true ∧
    c.isOpen = true
  mild : ∀ event ∈ events, event.ends = false

namespace GoesOn

theorem produce {session : Session Host Channel} {time : Nat} (on : s.GoesOn events)
    (fares : s.pipeline.session.Fares events session events') :
    GoesOn { s with
      pipeline := { s.pipeline with session := session }, producerAt := time } events' := by
  obtain ⟨task, c, n, busy, reads, isOpen⟩ := on.producing
  have mild {first : ChannelEvent} {rest : List ChannelEvent} (all : events = first :: rest) :
      ∀ event ∈ rest, event.ends = false :=
    fun event member => on.mild event (all ▸ List.mem_cons_of_mem _ member)
  cases fares with
  | look at_it =>
    rw [busy] at at_it
    cases at_it
    rw [if_pos on.capturing]
    exact { on with producing := ⟨_, _, _, rfl, rfl, isOpen⟩ }
  | wait at_it =>
    rw [busy] at at_it
    cases at_it
    exact { on with producing := ⟨_, _, _, rfl, rfl, isOpen⟩ }
  | frame at_it | idle at_it =>
    rw [busy] at at_it
    cases at_it
    exact { on with producing := ⟨_, _, _, rfl, rfl, isOpen⟩, mild := mild rfl }
  | failure at_it grave =>
    have mild := on.mild _ List.mem_cons_self
    simp [ChannelEvent.ends, grave] at mild
  | refused at_it closed =>
    rw [busy] at at_it
    cases at_it
    exact absurd isOpen (by simp [closed])
  | @ingest c' n' data _ at_it =>
    rw [busy] at at_it
    cases at_it
    obtain ⟨metrics, queue, same, offered⟩ := s.pipeline.session.ingest_frame n data
    have strategy : queue.strategy.Decides := by
      rcases offered with rfl | rfl
      · exact on.strategy
      · rw [PacketQueue.offer_strategy]
        exact on.strategy
    rw [Session.ingest_ok on.filters on.strategy, same]
    exact { on with strategy := strategy, producing := ⟨_, _, _, rfl, rfl, isOpen⟩ }
  | fail at_it | halt at_it | close at_it =>
    rw [busy] at at_it
    cases at_it
    cases reads

theorem takes (on : s.GoesOn events) (took : s.Takes turn events s' events') :
    s'.GoesOn events' := by
  cases took with
  | pause =>
    exact { on with mild := fun event member => on.mild event (List.mem_cons_of_mem _ member) }
  | interrupt => cases on.mild _ List.mem_cons_self
  | produce fares same => exact on.produce fares
  | @consume index c _ times found all =>
    obtain ⟨queue, same, strategy⟩ := s.pipeline.consumeAs_frame c
    rw [same]
    exact { on with strategy := strategy ▸ on.strategy }
  | supervise watches =>
    cases watches with
    | heed at_it told => cases told.symm.trans on.untold
    | doze => exact { on with watching := .inr rfl }
    | rouse at_it ends => simp [on.capturing, on.endless] at ends
    | wake => exact { on with watching := .inl rfl }
    | stop at_it | join at_it | gather at_it => simpa [at_it] using on.watching

theorem runWithin {h : Host} (on : s.GoesOn h.events) (fuel : Nat) :
    (s.runWithin fuel h).value.1.GoesOn (s.runWithin fuel h).value.2.events := by
  induction fuel generalizing s h with
  | zero => exact on
  | succ fuel ih =>
    rw [runWithin_succ]
    cases chosen : earliest s.now (s.turns h) with
    | none => exact on
    | some next =>
      obtain ⟨turn, time⟩ := next
      let moved : Schedule := { s with now := time }
      obtain ⟨t, member, same⟩ := mem_of_earliest chosen
      have ready : moved.Ready h.events turn t := ready_of_mem (s := moved) member
      have still : moved.GoesOn h.events := { on with }
      exact ih (still.takes (takes_of_ready still.backend ready))

end GoesOn
end Schedule

/-! ## From the start -/

structure Session.Begun (s : Session Host Channel) : Prop where
  backend : s.backend = Datalink.backend
  filters : ∀ entry ∈ s.filters.entries, entry.2.Answers
  strategy : s.queue.queue.strategy.Decides
  capturing : s.phase = .capturing
  producing : ∃ c, s.producer = .active .poll c 0 ∧ c.isOpen = true
  empty : s.queue.queue.packets = []

theorem Session.begun_of_start {config : Config} {before h : Host} {s : Session Host Channel}
    (made : (create config Datalink.backend before).value.1 = .ok (.ok s))
    (started : (s.start h).value.1.2 = .ok ()) :
    (s.start h).value.1.1.Begun ∧ (s.start h).value.2.events = h.events := by
  have sound : (LiveSession.ofSession s h).Unbroken := Session.unbroken made h
  obtain ⟨_, _, interface, rfl⟩ := create_eq_ok made
  obtain ⟨events, opens⟩ := Datalink.openOn_eq interface config.openOptions h
  rw [start_of_idle rfl] at started ⊢
  dsimp only at started ⊢
  generalize (Datalink.backend.openOn interface config.openOptions h).value = opened at *
  obtain ⟨e | stream, later⟩ := opened
  · cases started
  · exact ⟨⟨rfl, sound.filters, sound.strategy, rfl, ⟨stream, rfl, (opens stream rfl).1⟩, rfl⟩,
      events⟩

namespace Schedule

theorem goesOn_of_begun {s : Session Host Channel} (begun : s.Begun) (consumers interval delay : Nat)
    {events : List ChannelEvent} (mild : ∀ event ∈ events, event.ends = false) :
    (ofPipeline (.ofSession s consumers none interval) delay).GoesOn events := by
  obtain ⟨c, on, isOpen⟩ := begun.producing
  exact ⟨begun.backend, begun.filters, begun.strategy, begun.capturing, rfl, rfl, .inl rfl,
    ⟨_, c, 0, on, rfl, isOpen⟩, mild⟩

theorem load_begun_lt {s : Session Host Channel} (begun : s.Begun) (consumers : Nat)
    (deadline : Option Nat) (interval delay : Nat) (h : Host) :
    let schedule := ofPipeline (.ofSession s consumers deadline interval) delay
    schedule.load (pauses h.events + deadline.getD 0) h.events < schedule.fuel h := by
  obtain ⟨c, on, -⟩ := begun.producing
  simp only [load, Pipeline.load, supervisorLoad, fuel, ticksLeft, ofPipeline, Pipeline.ofSession, on,
    begun.empty, Producer.load, Consumer.load, List.map_replicate, List.sum_replicate_nat,
    List.length_replicate, List.length_nil, if_true, Bool.false_eq_true, if_false, Nat.mul_one,
    Nat.zero_add, Nat.add_sub_cancel]
  omega

/-- A capture comes to an end by itself if it has a deadline, or if an event is still to come that ends
it, and otherwise it does not. -/
theorem outcome?_isSome_iff {s : Session Host Channel} (begun : s.Begun) (consumers : Nat)
    (deadline : Option Nat) (interval delay : Nat) (h : Host) :
    ((ofPipeline (.ofSession s consumers deadline interval) delay).run
        h).value.1.pipeline.outcome?.isSome = true ↔
      deadline.isSome = true ∨ ∃ event ∈ h.events, event.ends = true := by
  let schedule := ofPipeline (.ofSession s consumers deadline interval) delay
  have ran : (schedule.run h).value = (schedule.runWithin (schedule.fuel h) h).value := rfl
  rw [ran]
  constructor
  · intro ended
    by_contra! on
    obtain ⟨unset, mild⟩ := on
    cases deadline with
    | some set => exact absurd rfl unset
    | none =>
      -- However many turns there were, the capture still goes on.
      have still := (goesOn_of_begun begun consumers interval delay
        fun event member => eq_false_of_ne_true (mild event member)).runWithin (schedule.fuel h)
      obtain looks | sleeps := still.watching
      · simp [schedule, Pipeline.outcome?, looks] at ended
      · simp [schedule, Pipeline.outcome?, sleeps] at ended
  · intro ends
    -- By the horizon the deadline has passed, and so have all pauses of the host.
    have due : schedule.Due (pauses h.events + deadline.getD 0) h.events := by
      obtain set | ends := ends
      · obtain ⟨time, set⟩ := Option.isSome_iff_exists.mp set
        exact .deadline set (by simp [set])
      · obtain ⟨c, on, -⟩ := begun.producing
        exact .coming on rfl ends (Nat.le_refl _) (by simp [schedule, ofPipeline])
    have orderly : schedule.Orderly :=
      ⟨begun.backend, by simp [schedule, ofPipeline, Pipeline.ofSession, begun.capturing],
        by simp [schedule, ofPipeline], by simp [schedule, ofPipeline, Pipeline.ofSession],
        by simp [schedule, ofPipeline, Pipeline.ofSession]⟩
    have enough : schedule.load (pauses h.events + deadline.getD 0) h.events < schedule.fuel h :=
      load_begun_lt begun consumers deadline interval delay h
    obtain ⟨outcome, ended⟩ := done_of_due orderly due enough
    simp [Pipeline.outcome?, ended]

end Schedule
end CaptureQueue
