import CaptureQueue.Pipeline.Schedule
import CaptureQueue.Proofs.Pipeline.Alone
import CaptureQueue.Proofs.Session.Feeding

/-! Schedules by their single turns: whose turn it may be, what a thread does when it is, and that a
schedule as a whole is a run of its pipeline. -/

set_option autoImplicit false
namespace CaptureQueue

/-! ## What a read brings -/

namespace Datalink

variable {c : Channel} {h : Host} {rest : List ChannelEvent}

theorem read_closed (closed : c.isOpen = false) :
    (backend.read c h).value = (readFailure (c.interface ++ " is closed"), h) := by
  simp only [backend, read, closed]
  rfl

theorem read_open (isOpen : c.isOpen = true) : (backend.read c h).value =
    (match (Host.deliver h.interrupts h.events).1.getD (.error (.ofKind .timedOut)) with
      | .ok data => .frame (data.take c.snaplen)
      | .error e => if isIdle e then .idle else readFailure (c.interface ++ ": " ++ e.text),
    { h with
      events := (Host.deliver h.interrupts h.events).2.1
      interrupts := (Host.deliver h.interrupts h.events).2.2 }) := by
  obtain ⟨interface, snaplen, _⟩ := c
  cases isOpen
  exact read_eq snaplen interface h

end Datalink

/-! ## Turns of the producer -/

theorem Act.value_get_bind {σ α : Type} (f : σ → Act σ α) (world : σ) :
    ((get >>= f) world).value = (f world world).value := rfl

/-- What one step of a producer on a host makes of the session, by the events before and after. It
never comes to a pause or an interrupt. -/
inductive Session.Fares (s : Session Host Channel) :
    List ChannelEvent → Session Host Channel → List ChannelEvent → Prop where
  | look {c : Channel} {n : Nat} {events : List ChannelEvent} (on : s.producer = .active .poll c n) :
      Fares s events { s with
        producer := .active (if s.phase = .capturing then .read else .close) c n } events
  | wait {c : Channel} {n : Nat} (on : s.producer = .active .read c n) :
      Fares s [] { s with producer := .active .poll c n } []
  | frame {c : Channel} {n : Nat} {data kept : Bytes} {rest : List ChannelEvent}
      (on : s.producer = .active .read c n) :
      Fares s (.frame data :: rest) { s with producer := .active (.ingest kept) c n } rest
  | idle {c : Channel} {n : Nat} {e : IoError} {rest : List ChannelEvent}
      (on : s.producer = .active .read c n) (idle : Datalink.isIdle e = true) :
      Fares s (.failure e :: rest) { s with producer := .active .poll c n } rest
  | failure {c : Channel} {n : Nat} {e : IoError} {told : CaptureError} {rest : List ChannelEvent}
      (on : s.producer = .active .read c n) (grave : Datalink.isIdle e = false) :
      Fares s (.failure e :: rest) { s with producer := .active (.fail told) c n } rest
  | refused {c : Channel} {n : Nat} {told : CaptureError} {events : List ChannelEvent}
      (on : s.producer = .active .read c n) (closed : c.isOpen = false) :
      Fares s events { s with producer := .active (.fail told) c n } events
  | ingest {c : Channel} {n : Nat} {data : Bytes} {events : List ChannelEvent}
      (on : s.producer = .active (.ingest data) c n) :
      Fares s events { (s.ingest n data).value.1 with
        producer := .afterIngest c n (s.ingest n data).value.2 } events
  | fail {c : Channel} {n : Nat} {e : CaptureError} {events : List ChannelEvent}
      (on : s.producer = .active (.fail e) c n) :
      Fares s events { s with failure := some e, producer := .active .halt c n } events
  | halt {c : Channel} {n : Nat} {events : List ChannelEvent} (on : s.producer = .active .halt c n) :
      Fares s events { s with phase := .stopped, producer := .active .close c n } events
  | close {c : Channel} {n : Nat} {events : List ChannelEvent} (on : s.producer = .active .close c n) :
      Fares s events { s with producer := .ended true } events

namespace Session

variable {s : Session Host Channel} {h : Host} {task : ProducerTask} {c : Channel} {n : Nat}

theorem fares_of_read (backend : s.backend = Datalink.backend) (on : s.producer = .active .read c n)
    (away : ∀ event rest, h.events = event :: rest → event ≠ .interrupt ∧ ∀ ms, event ≠ .pause ms) :
    s.Fares h.events (s.produce h).value.1 (s.produce h).value.2.events := by
  have result : (s.produce h).value = ({ s with
      producer := .active (afterRead (Datalink.backend.read c h).value.1).value c n },
      (Datalink.backend.read c h).value.2) := by
    simp only [produce, on, backend]
    rfl
  rw [result]
  cases isOpen : c.isOpen with
  | false =>
    rw [Datalink.read_closed isOpen]
    exact .refused on isOpen
  | true =>
    rw [Datalink.read_open isOpen]
    cases events : h.events with
    | nil => exact .wait on
    | cons event rest =>
      cases event with
      | frame data => exact .frame on
      | failure e =>
        cases grave : Datalink.isIdle e with
        | true =>
          simp only [Host.deliver, Option.getD_some, grave, if_true]
          exact .idle on grave
        | false =>
          simp only [Host.deliver, Option.getD_some, grave, Bool.false_eq_true, if_false]
          exact .failure on grave
      | pause ms => exact absurd rfl ((away _ _ events).2 ms)
      | interrupt => exact absurd rfl (away _ _ events).1

theorem fares_of_produce (backend : s.backend = Datalink.backend) (on : s.producer = .active task c n)
    (away : task = .read → ∀ event rest, h.events = event :: rest →
      event ≠ .interrupt ∧ ∀ ms, event ≠ .pause ms) :
    s.Fares h.events (s.produce h).value.1 (s.produce h).value.2.events := by
  cases task with
  | read => exact fares_of_read backend on (away rfl)
  | ingest data =>
    rw [produce_ingest on]
    exact .ingest on
  | poll =>
    have result : (s.produce h).value = ({ s with
        producer := .active (if s.phase = .capturing then .read else .close) c n }, h) := by
      simp only [produce, on]
      rfl
    rw [result]
    exact .look on
  | fail e =>
    have result : (s.produce h).value = ({ s with
        failure := some e, producer := .active .halt c n }, h) := by
      simp only [produce, on]
      rfl
    rw [result]
    exact .fail on
  | halt =>
    have result : (s.produce h).value = ({ s with
        phase := .stopped, producer := .active .close c n }, h) := by
      simp only [produce, on]
      rfl
    rw [result]
    exact .halt on
  | close =>
    have result : (s.produce h).value = ({ s with producer := .ended true }, h) := by
      obtain ⟨interface, snaplen, isOpen⟩ := c
      simp only [produce, on, backend]
      cases isOpen <;> rfl
    rw [result]
    exact .close on

end Session

/-! ## Turns of the supervisor -/

theorem Session.conclude_frame {σ τ : Type} (s : Session σ τ) (previous : Phase)
    (through : s.producer.isActive = false) : ∃ producer : Producer τ,
      (conclude previous s).value.1 = { s with producer := producer, failure := none } ∧
      producer.isActive = false := by
  have concluded : (conclude previous s).value.1 = { s.join.value with failure := none } := by
    by_cases stopped : previous = .stopped
    · simp only [conclude, stopped]
      rfl
    · simp only [conclude, ne_eq, stopped]
      rfl
  rw [concluded]
  cases on : s.producer with
  | absent =>
    have same : s.join.value = s := by
      simp only [join, on]
      rfl
    exact ⟨s.producer, by rw [same], through⟩
  | active => simp [on, Producer.isActive] at through
  | ended clean =>
    refine ⟨.absent, ?_, rfl⟩
    simp only [join, on]
    cases clean <;> rfl

namespace Pipeline

variable {σ τ : Type} {p : Pipeline σ τ}

/-- What a supervisor does that does not have to wait for others. -/
inductive Watches (p : Pipeline σ τ) (now : Nat) : Pipeline σ τ → Prop where
  | heed (at_it : p.supervisor = .look) (told : p.interrupted = true) :
      Watches p now { p with supervisor := .stop }
  | doze (at_it : p.supervisor = .look) (untold : p.interrupted = false) :
      Watches p now { p with supervisor := .sleep }
  | rouse (at_it : p.supervisor = .sleep)
      (ends : p.session.phase = .stopped ∨ p.deadline.any (· ≤ now)) :
      Watches p now { p with supervisor := .stop }
  | wake {reports : List Report} {last : Nat} (at_it : p.supervisor = .sleep)
      (on : ¬ (p.session.phase = .stopped ∨ p.deadline.any (· ≤ now))) :
      Watches p now { p with supervisor := .look, reports := reports, lastReport := last }
  | stop (at_it : p.supervisor = .stop) : Watches p now { p with
      session := p.session.requestStop, supervisor := .join p.session.phase }
  | join {previous : Phase} {outcome : Except CaptureError Unit} {producer : Producer τ}
      (at_it : p.supervisor = .join previous) (through : producer.isActive = false) :
      Watches p now { p with
        session := { p.session with producer := producer, failure := none }
        consuming := false
        supervisor := .gather outcome }
  | gather {outcome : Except CaptureError Unit} {reports : List Report} {last : Nat}
      (at_it : p.supervisor = .gather outcome) : Watches p now { p with
        supervisor := .done outcome, reports := reports, lastReport := last }

theorem watches_of_supervise (now : Nat)
    (joins : ∀ previous, p.supervisor = .join previous → p.session.producer.isActive = false)
    (gathers : ∀ outcome, p.supervisor = .gather outcome → p.allOver = true)
    (works : ∀ outcome, p.supervisor ≠ .done outcome) : p.Watches now (p.supervise now).value := by
  rw [supervise_value]
  cases at_it : p.supervisor with
  | look =>
    dsimp only
    split
    case isTrue told => exact .heed at_it told
    case isFalse untold => exact .doze at_it (eq_false_of_ne_true untold)
  | sleep =>
    dsimp only
    rw [wake_value]
    split
    case isTrue ends => exact .rouse at_it ends
    case isFalse on =>
      dsimp only
      split
      · exact .wake at_it on
      · exact .wake at_it on
  | stop => exact .stop at_it
  | join previous =>
    have through := joins previous at_it
    obtain ⟨producer, same, ended⟩ := p.session.conclude_frame previous through
    simp only [through, Bool.false_eq_true, if_false, same]
    exact .join at_it ended
  | gather outcome =>
    simp only [gathers outcome at_it, if_true]
    exact .gather at_it
  | done outcome => exact absurd at_it (works outcome)

end Pipeline

namespace Schedule

variable {s s' : Schedule} {h h' : Host} {events : List ChannelEvent}

inductive Takes (s : Schedule) :
    Turn → List ChannelEvent → Schedule → List ChannelEvent → Prop where
  | pause {c : Channel} {n ms : Nat} {rest : List ChannelEvent}
      (on : s.pipeline.session.producer = .active .read c n) :
      Takes s .producer (.pause ms :: rest) { s with producerAt := s.now + ms } rest
  | interrupt {c : Channel} {n : Nat} {rest : List ChannelEvent}
      (on : s.pipeline.session.producer = .active .read c n) :
      Takes s .producer (.interrupt :: rest)
        { s with pipeline := { s.pipeline with interrupted := true } } rest
  | produce {session : Session Host Channel} {events after : List ChannelEvent} {time : Nat}
      (fares : s.pipeline.session.Fares events session after)
      (same : events ≠ [] ∨ (∀ c n, s.pipeline.session.producer ≠ .active .read c n) →
        time = s.producerAt) :
      Takes s .producer events
        { s with pipeline := { s.pipeline with session := session }, producerAt := time } after
  | consume {index : Nat} {c : Consumer} {events : List ChannelEvent} {times : List Nat}
      (found : s.pipeline.consumers[index]? = some c) (all : times.length = s.consumersAt.length) :
      Takes s (.consumer index) events { s with
        pipeline := { (s.pipeline.consumeAs c).value.1 with
          consumers := (s.pipeline.consumeAs c).value.1.consumers.set index
            (s.pipeline.consumeAs c).value.2 }
        consumersAt := times } events
  | supervise {p : Pipeline Host Channel} {events : List ChannelEvent}
      (watches : s.pipeline.Watches s.now p) :
      Takes s .supervisor events { s with
        pipeline := p
        supervisorAt := s.now + (match p.supervisor with | .sleep => tick | _ => 0) } events

theorem takes_of_producer {task : ProducerTask} {c : Channel} {n : Nat}
    (backend : s.pipeline.session.backend = Datalink.backend)
    (on : s.pipeline.session.producer = .active task c n) :
    s.Takes .producer h.events (s.producerStep h).value.1 (s.producerStep h).value.2.events := by
  rw [producerStep, Act.value_get_bind]
  simp only [on]
  cases task with
  | read =>
    cases events : h.events with
    | nil =>
      have fares := Session.fares_of_read backend on (h := h) (by simp [events])
      rw [events] at fares
      exact .produce fares (by simp [on])
    | cons event rest =>
      cases event with
      | pause ms => exact .pause on
      | interrupt => exact .interrupt on
      | frame data | failure e =>
        have fares := Session.fares_of_read backend on (h := h) (by simp [events])
        rw [events] at fares
        exact .produce fares fun _ => rfl
  | poll | ingest | fail | halt | close =>
    exact .produce (Session.fares_of_produce backend on (by simp)) fun _ => rfl

/-! ## Whose turn it is -/

/-- What a thread whose turn it is has to do, and when. -/
inductive Ready (s : Schedule) (events : List ChannelEvent) : Turn → Nat → Prop where
  | producer {task : ProducerTask} {c : Channel} {n : Nat}
      (on : s.pipeline.session.producer = .active task c n)
      (goes : task = .poll → events = [] → s.pipeline.session.phase ≠ .capturing) :
      Ready s events .producer s.producerAt
  | consumer {index time : Nat} {c : Consumer} (found : s.pipeline.consumers[index]? = some c)
      (goes : isReady s.pipeline c = true) : Ready s events (.consumer index) time
  | supervisor (goes : s.supervisorTurn = some (.supervisor, s.supervisorAt)) :
      Ready s events .supervisor s.supervisorAt

theorem ready_of_producerTurn {turn : Turn} {time : Nat}
    (due : s.producerTurn h = some (turn, time)) : s.Ready h.events turn time := by
  unfold producerTurn at due
  split at due
  case h_1 on =>
    split at due
    case isTrue => cases due
    case isFalse waits =>
      cases due
      refine .producer on fun _ none captures => waits ?_
      simp [none, captures]
  case h_2 task c n other on =>
    cases due
    exact .producer on fun polls => absurd polls other
  case h_3 => cases due

theorem ready_of_consumerTurns {turn : Turn} {time : Nat}
    (due : (turn, time) ∈ s.consumerTurns) : s.Ready events turn time := by
  simp only [consumerTurns, List.mem_map, List.mem_filter, Prod.exists] at due
  obtain ⟨c, at_it, index, ⟨member, goes⟩, same⟩ := due
  cases same
  have found := List.mk_mem_zipIdx_iff_getElem?.mp member
  rw [List.getElem?_zip_eq_some] at found
  exact .consumer found.1 goes

theorem ready_of_supervisorTurn {turn : Turn} {time : Nat}
    (due : s.supervisorTurn = some (turn, time)) : s.Ready events turn time := by
  have same : (turn, time) = (.supervisor, s.supervisorAt) := by
    unfold supervisorTurn at due
    split at due
    case h_1 => cases due
    case h_2 | h_3 =>
      split at due <;> cases due
      rfl
    case h_4 =>
      cases due
      rfl
  cases same
  exact .supervisor due

theorem ready_of_mem {turn : Turn} {time : Nat} (due : (turn, time) ∈ s.turns h) :
    s.Ready h.events turn time := by
  simp only [turns, List.mem_append, Option.mem_toList] at due
  obtain (due | due) | due := due
  · exact ready_of_producerTurn due
  · exact ready_of_consumerTurns due
  · exact ready_of_supervisorTurn due

theorem takes_of_ready {turn : Turn} {time : Nat}
    (backend : s.pipeline.session.backend = Datalink.backend) (ready : s.Ready h.events turn time) :
    s.Takes turn h.events (s.act turn h).value.1 (s.act turn h).value.2.events := by
  cases ready with
  | producer on goes => exact takes_of_producer backend on
  | @consumer index time c found goes =>
    obtain ⟨times, all, result⟩ : ∃ times, times.length = s.consumersAt.length ∧
        (s.act (.consumer index) h).value = ({ s with
          pipeline := (s.pipeline.step (.consume index) h).value.1
          consumersAt := times }, (s.pipeline.step (.consume index) h).value.2) :=
      ⟨_, List.length_set, rfl⟩
    rw [result, Pipeline.consume_value found]
    exact .consume found all
  | supervisor goes =>
    refine .supervise (Pipeline.watches_of_supervise s.now ?_ ?_ ?_)
    · intro previous at_it
      simpa [supervisorTurn, at_it] using goes
    · intro outcome at_it
      simpa [supervisorTurn, at_it] using goes
    · intro outcome at_it
      simp [supervisorTurn, at_it] at goes

/-- The turn that comes is one of the turns, and none of them comes before. -/
theorem mem_of_earliest {now time : Nat} {turn : Turn} {turns : List (Turn × Nat)}
    (first : earliest now turns = some (turn, time)) : ∃ t, (turn, t) ∈ turns ∧ time = max now t := by
  induction turns generalizing turn time with
  | nil => cases first
  | cons head rest ih =>
    obtain ⟨other, t⟩ := head
    simp only [earliest] at first
    split at first
    case h_1 next sooner found =>
      split at first <;> cases first
      · obtain ⟨t', member, same⟩ := ih found
        exact ⟨t', List.mem_cons_of_mem _ member, same⟩
      · exact ⟨t, List.mem_cons_self, rfl⟩
    case h_2 =>
      cases first
      exact ⟨t, List.mem_cons_self, rfl⟩

theorem earliest_eq_none {now : Nat} {turns : List (Turn × Nat)} (none : earliest now turns = none) :
    turns = [] := by
  cases turns with
  | nil => rfl
  | cons head rest =>
    simp only [earliest] at none
    split at none
    case h_1 => split at none <;> cases none
    case h_2 => cases none

theorem first_of_earliest {now time t : Nat} {turn first : Turn} {rest : List (Turn × Nat)}
    (chosen : earliest now ((first, t) :: rest) = some (turn, time)) :
    turn = first ∨ time < max now t := by
  simp only [earliest] at chosen
  split at chosen
  case h_1 next sooner found =>
    split at chosen <;> cases chosen
    case isTrue before => exact .inr before
    case isFalse => exact .inl rfl
  case h_2 =>
    cases chosen
    exact .inl rfl

/-- While the producer has something to do, the others come only before its time. -/
theorem lt_producerAt {task : ProducerTask} {c : Channel} {n now time : Nat} {turn : Turn}
    (on : s.pipeline.session.producer = .active task c n)
    (goes : task = .poll → h.events = [] → s.pipeline.session.phase ≠ .capturing)
    (chosen : earliest now (s.turns h) = some (turn, time)) (other : turn ≠ .producer) :
    time < max now s.producerAt := by
  have ready : s.producerTurn h = some (.producer, s.producerAt) := by
    unfold producerTurn
    rw [on]
    cases task with
    | poll =>
      have busy : (h.events.isEmpty && decide (s.pipeline.session.phase = .capturing)) = false := by
        cases events : h.events with
        | nil => simp [goes rfl events]
        | cons event rest => rfl
      simp only [busy, Bool.false_eq_true, if_false]
    | read | ingest | fail | halt | close => rfl
  rw [turns, ready] at chosen
  exact (first_of_earliest chosen).resolve_left other

/-! ## Runs -/

theorem run_append {σ τ : Type} (first others : List (PipelineAction σ)) (p : Pipeline σ τ)
    (world : σ) : (p.run (first ++ others) world).value =
      ((p.run first world).value.1.run others (p.run first world).value.2).value := by
  induction first generalizing p world with
  | nil => rfl
  | cons action rest ih => exact ih (p.step action world).value.1 (p.step action world).value.2

theorem next?_value (s : Schedule) (h : Host) : (s.next? h).value =
    match earliest s.now (s.turns h) with
    | none => (none, h)
    | some (turn, time) =>
      (some (({ s with now := time } : Schedule).act turn h).value.1,
        (({ s with now := time } : Schedule).act turn h).value.2) := by
  rw [next?, Act.value_get_bind]
  cases earliest s.now (s.turns h) with
  | none => rfl
  | some next => rfl

theorem act_run (s : Schedule) (turn : Turn) (h : Host) : ∃ actions,
    (s.pipeline.run actions h).value =
      ((s.act turn h).value.1.pipeline, (s.act turn h).value.2) := by
  cases turn with
  | consumer index => exact ⟨[.consume index], rfl⟩
  | supervisor => exact ⟨[.supervise s.now], rfl⟩
  | producer =>
    simp only [act]
    rw [producerStep, Act.value_get_bind]
    cases s.pipeline.session.producer with
    | absent | ended => exact ⟨[.produce], rfl⟩
    | active task c n =>
      cases task with
      | read =>
        cases h.events with
        | nil => exact ⟨[.produce], rfl⟩
        | cons event rest =>
          cases event with
          | pause ms => exact ⟨[.outside { h with events := rest }], rfl⟩
          | interrupt =>
            let left := { h with events := rest, interrupts := h.interrupts + 1 }
            exact ⟨[.outside left, .interrupt], rfl⟩
          | frame | failure => exact ⟨[.produce], rfl⟩
      | poll | ingest | fail | halt | close => exact ⟨[.produce], rfl⟩

theorem runWithin_succ (fuel : Nat) (s : Schedule) (h : Host) :
    (s.runWithin (fuel + 1) h).value =
      match earliest s.now (s.turns h) with
      | none => (s, h)
      | some (turn, time) =>
        let after := (({ s with now := time } : Schedule).act turn h).value
        (after.1.runWithin fuel after.2).value := by
  rw [runWithin, Act.value_bind, next?_value]
  cases earliest s.now (s.turns h) with
  | none => rfl
  | some next => rfl

/-- A schedule is a run of its pipeline. -/
theorem exists_run (fuel : Nat) (s : Schedule) (h : Host) : ∃ actions,
    (s.pipeline.run actions h).value =
      ((s.runWithin fuel h).value.1.pipeline, (s.runWithin fuel h).value.2) := by
  induction fuel generalizing s h with
  | zero => exact ⟨[], rfl⟩
  | succ fuel ih =>
    rw [runWithin_succ]
    cases earliest s.now (s.turns h) with
    | none => exact ⟨[], rfl⟩
    | some next =>
      obtain ⟨turn, time⟩ := next
      let moved : Schedule := { s with now := time }
      obtain ⟨first, acted⟩ := act_run moved turn h
      obtain ⟨others, ran⟩ := ih (moved.act turn h).value.1 (moved.act turn h).value.2
      refine ⟨first ++ others, ?_⟩
      rw [run_append, show (s.pipeline.run first h).value = _ from acted]
      exact ran

end Schedule
end CaptureQueue
