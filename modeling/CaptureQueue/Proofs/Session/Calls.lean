import CaptureQueue.Proofs.Session.Live

/-! What the stages of a call of start or stop stand for, and what one step of a call changes. -/

set_option autoImplicit false
namespace CaptureQueue

variable {σ τ : Type}

/-! ## Phases -/

/-- The changes that a phase may undergo. -/
def Phase.Leads : Phase → Phase → Prop
  | .idle, .capturing | .capturing, .stopped | .idle, .stopped => True
  | p, p' => p = p'

theorem Phase.leads_refl (p : Phase) : p.Leads p := by
  cases p <;> rfl

theorem Phase.leads_stopped (p : Phase) : p.Leads .stopped := by
  cases p <;> trivial

theorem Phase.eq_stopped_of_leads {p : Phase} (leads : Phase.stopped.Leads p) : p = .stopped := by
  cases p <;> first | rfl | cases leads

theorem Phase.eq_idle_of_leads {p : Phase} (leads : p.Leads .idle) : p = .idle := by
  cases p <;> first | rfl | cases leads

/-! ## What the stages of a call stand for -/

namespace Producer

def streams : Producer τ → List τ
  | .active _ stream _ => [stream]
  | _ => []

end Producer

namespace Call

def holds : Call τ → Bool
  | .startMove | .startOpen | .startFail _ | .startSpawn _ | .startStore | .startUnlock _ _
  | .stopTake | .stopJoin | .stopUnlock => true
  | _ => false

def passed : Call τ → Bool
  | .startOpen | .startFail _ | .startSpawn _ | .startStore => true
  | .startUnlock passed _ | .started passed _ => passed
  | _ => false

/-- Whether the call is on its way from the transition to the stored handle. -/
def underway : Call τ → Bool
  | .startOpen | .startFail _ | .startSpawn _ | .startStore => true
  | _ => false

def opens : Call τ → Bool
  | .startOpen => true
  | _ => false

def streams : Call τ → List τ
  | .startSpawn stream => [stream]
  | _ => []

def hasHandle : Call τ → Bool
  | .startStore | .stopJoin => true
  | _ => false

def marked : Call τ → Bool
  | .stopLock | .stopTake | .stopJoin | .stopUnlock | .stopReport | .stopped _ => true
  | _ => false

def concluded : Call τ → Bool
  | .stopUnlock | .stopReport | .stopped _ => true
  | _ => false

def starts : Call τ → Bool
  | .startLock | .startMove | .startOpen | .startFail _ | .startSpawn _ | .startStore
  | .startUnlock _ _ | .started _ _ => true
  | _ => false

/-- The result that a start has, once it has one, without having passed the transition. -/
def refusal : Call τ → Option (Except CaptureError Unit)
  | .startUnlock false result | .started false result => some result
  | _ => none

theorem holds_of_hasHandle {c : Call τ} (handle : c.hasHandle = true) : c.holds = true := by
  cases c <;> first | rfl | cases handle

theorem holds_of_underway {c : Call τ} (underway : c.underway = true) : c.holds = true := by
  cases c <;> first | rfl | cases underway

theorem marked_of_concluded {c : Call τ} (concluded : c.concluded = true) : c.marked = true := by
  cases c <;> first | rfl | cases concluded

theorem underway_of_concluded {c : Call τ} (concluded : c.concluded = true) : c.underway = false := by
  cases c <;> first | rfl | cases concluded

end Call

/-! ## What one step of a call changes -/

namespace Call

variable {l l' : LiveSession σ τ} {c c' : Call τ}

theorem step_phase (stepped : c.step l = some (l', c')) :
    l.session.phase.Leads l'.session.phase := by
  cases called_of_step stepped with
  | startMove idle =>
    rw [idle]
    trivial
  | startFail | stopMark => exact Phase.leads_stopped _
  | _ => exact Phase.leads_refl _

-- The lock goes with the call that holds it.
theorem step_locked (held : c.holds = true → l.locked = true) (stepped : c.step l = some (l', c')) :
    l'.locked.toNat + c.holds.toNat = l.locked.toNat + c'.holds.toNat := by
  cases called_of_step stepped with
  | startLock free | stopLock free =>
    rw [free]
    rfl
  | startUnlock | stopUnlock =>
    rw [held rfl]
    rfl
  | _ => rfl

theorem step_passed (stepped : c.step l = some (l', c')) :
    c'.passed = c.passed ∨
      c.passed = false ∧ c'.passed = true ∧ l.session.phase = .idle ∧
        l'.session.phase = .capturing := by
  cases called_of_step stepped with
  | startMove idle => exact .inr ⟨rfl, rfl, idle, rfl⟩
  | _ => exact .inl rfl

theorem step_marked (stepped : c.step l = some (l', c')) (marked : c'.marked = true) :
    c.marked = true ∨ l'.session.phase = .stopped := by
  cases called_of_step stepped with
  | stopMark => exact .inr rfl
  | stopLock | stopTake | stopMissed | stopJoin | stopUnlock | stopReport => exact .inl rfl
  | _ => cases marked

-- The backend is asked once by each start that has passed, and gives one stream at most.
theorem step_openings (stepped : c.step l = some (l', c')) :
    l'.openings + c'.opens.toNat + c.passed.toNat = l.openings + c.opens.toNat + c'.passed.toNat ∧
      l'.opened.length + l.openings ≤ l.opened.length + l'.openings := by
  cases called_of_step stepped with
  | startUnopened | startOpened =>
    simp only [opens, passed, Bool.toNat_false, Bool.toNat_true, List.length_append,
      List.length_singleton, true_and]
    omega
  | _ => simp [opens, passed]

-- A stream is in the hands of the start that opened it, and then of the producer.
theorem step_streams (alone : c.streams ≠ [] → l.session.producer = .absent)
    (stepped : c.step l = some (l', c')) :
    ∃ added, l'.opened = l.opened ++ added ∧ l'.closed = l.closed ∧
      (c'.streams ++ l'.session.producer.streams).Perm
        (added ++ (c.streams ++ l.session.producer.streams)) ∧
      l'.spawnings + c'.streams.length = l.spawnings + c.streams.length + added.length := by
  cases called_of_step stepped with
  | @startOpened stream world => exact ⟨[stream], rfl, rfl, .refl _, rfl⟩
  | startSpawn =>
    rw [alone (by simp [streams])]
    exact ⟨[], by simp, rfl, .refl _, rfl⟩
  | stopJoin on =>
    rw [on]
    exact ⟨[], by simp, rfl, .refl _, rfl⟩
  | _ => exact ⟨[], by simp, rfl, .refl _, rfl⟩

/-- Calls put a producer in place or take an ended one away. -/
theorem step_producer (stepped : c.step l = some (l', c')) :
    l'.session.producer = l.session.producer ∧ l'.spawnings = l.spawnings ∨
      (∃ stream, c.streams = [stream] ∧ l'.session.producer = .active .poll stream 0 ∧
        l'.spawnings = l.spawnings + 1) ∨
      ∃ clean, l.session.producer = .ended clean ∧ l'.session.producer = .absent ∧
        l'.spawnings = l.spawnings := by
  cases called_of_step stepped with
  | @startSpawn stream => exact .inr (.inl ⟨stream, rfl, rfl, rfl⟩)
  | @stopJoin clean failure on => exact .inr (.inr ⟨clean, on, rfl, rfl⟩)
  | _ => exact .inl ⟨rfl, rfl⟩

/-- A producer that is not joined has its handle with one call or in store. -/
theorem step_handle (alone : c.streams ≠ [] → l.session.producer = .absent)
    (empty : c.hasHandle = true → l.stored = false) (stepped : c.step l = some (l', c')) :
    l'.session.producer.present.toNat + l.stored.toNat + c.hasHandle.toNat =
        l.session.producer.present.toNat + l'.stored.toNat + c'.hasHandle.toNat ∧
      l'.session.producer.present.toNat + l.spawnings ≤
        l.session.producer.present.toNat + l'.spawnings := by
  cases called_of_step stepped with
  | startSpawn =>
    rw [alone (by simp [streams])]
    simp only [Producer.present, hasHandle, Bool.toNat_true, Bool.toNat_false]
    omega
  | startStore =>
    rw [empty rfl]
    simp [hasHandle]
  | stopJoin on =>
    rw [on, empty rfl]
    simp [Producer.present, hasHandle]
  | stopTake stored =>
    rw [stored]
    simp [hasHandle]
  | _ => exact ⟨rfl, Nat.le_refl _⟩

-- Once the session is not idle and no start is underway, calls leave the producer away.
theorem step_settled (stepped : c.step l = some (l', c')) (settled : c.underway = false)
    (begun : l.session.phase ≠ .idle) (absent : l.session.producer = .absent) :
    c'.underway = false ∧ l'.session.producer = .absent ∧ l'.openings = l.openings ∧
      l'.spawnings = l.spawnings ∧ l'.opened = l.opened ∧ l'.closed = l.closed := by
  cases called_of_step stepped with
  | startMove idle => exact absurd idle begun
  | startUnopened | startOpened | startFail | startSpawn | startStore => cases settled
  | stopJoin => exact ⟨rfl, rfl, rfl, rfl, rfl, rfl⟩
  | _ => exact ⟨rfl, absent, rfl, rfl, rfl, rfl⟩

theorem step_concluded (stepped : c.step l = some (l', c')) (concluded : c'.concluded = true) :
    c.concluded = true ∨ c'.holds = true ∧ c'.hasHandle = false ∧ l'.stored = l.stored ∧
      (l.stored = false ∨ c.hasHandle = true) := by
  cases called_of_step stepped with
  | stopMissed missing => exact .inr ⟨rfl, rfl, rfl, .inl missing⟩
  | stopJoin => exact .inr ⟨rfl, rfl, rfl, .inr rfl⟩
  | stopUnlock | stopReport => exact .inl rfl
  | _ => cases concluded

theorem step_refusal {result : Except CaptureError Unit} (stepped : c.step l = some (l', c'))
    (refused : c'.refusal = some result) :
    c.refusal = some result ∨ ∃ phase : Phase, phase ≠ .idle ∧
      result = .error (.invalidState phase.name Phase.capturing.name) := by
  cases called_of_step stepped with
  | startRefused busy =>
    cases refused
    exact .inr ⟨_, busy, rfl⟩
  | @startUnlock passed outcome => cases passed <;> exact .inl refused
  | _ => cases refused

/-- A start that has not passed the transition changes nothing but who holds the lock. -/
theorem eq_of_step_unpassed (stepped : c.step l = some (l', c')) (starts : c.starts = true)
    (unpassed : c'.passed = false) : l' = { l with locked := l'.locked } := by
  cases called_of_step stepped with
  | startLock | startRefused | startUnlock => rfl
  | startMove | startUnopened | startOpened | startFail | startSpawn | startStore => cases unpassed
  | stopMark | stopLock | stopTake | stopMissed | stopJoin | stopUnlock | stopReport => cases starts

end Call
end CaptureQueue
