import CaptureQueue.Proofs.Config.Usable
import CaptureQueue.Proofs.Filter.History

/-! The making of a session, which comes about as a whole or not at all: when it does, what it is made
of, which of several obstacles is told, and what the backend is asked meanwhile. -/

set_option autoImplicit false
namespace CaptureQueue

variable {σ τ : Type}

/-! ## What a backend is asked -/

inductive BackendQuery where
  | interfaces
  | default
  | openOn
  | read
  | close
deriving DecidableEq, Repr

/-- The action with a note of it in the world. -/
def Act.noting {α : Type} (query : BackendQuery) (x : Act σ α) : Act (σ × List BackendQuery) α :=
  fun (world, asked) =>
    ⟨((x world).value.1, (x world).value.2, asked ++ [query]), (x world).records⟩

namespace Backend

def noting (b : Backend σ τ) : Backend (σ × List BackendQuery) τ where
  name := b.name
  interfaces := b.interfaces.noting .interfaces
  defaultInterface := b.defaultInterface.noting .default
  openOn id options := (b.openOn id options).noting .openOn
  read stream := (b.read stream).noting .read
  pending world := b.pending world.1
  close stream := (b.close stream).noting .close

/-! ## Finding the interface -/

/-- What keeps the interface from being found, the first thing that does. -/
inductive Refuses (b : Backend σ τ) (world : σ) : Option InterfaceRequest → CaptureError → Prop
  | unlisted {request : Option InterfaceRequest} {e : CaptureError} {later : σ}
    (failed : (b.interfaces world).value = (.error e, later)) : Refuses b world request e
  | empty {request : Option InterfaceRequest} {available : NameSet} {later : σ}
    (listed : (b.interfaces world).value = (.ok available, later))
    (nothing : available.toList = []) : Refuses b world request .noInterfaces
  | noName {found : String} {available : NameSet} {later : σ}
    (listed : (b.interfaces world).value = (.ok available, later))
    (occupied : available.toList ≠ []) :
    Refuses b world (some (.invalid found)) (.invalidInterfaceType found)
  | missing {name : String} {available : NameSet} {later : σ}
    (listed : (b.interfaces world).value = (.ok available, later))
    (occupied : available.toList ≠ []) (absent : name ∉ available.toList) :
    Refuses b world (some (.name name)) (.interfaceNotFound name available)
  | noDefault {available : NameSet} {later : σ}
    (listed : (b.interfaces world).value = (.ok available, later))
    (occupied : available.toList ≠ [])
    (absent : ∀ name, (b.defaultInterface later).value.1 = some name → name ∉ available.toList) :
    Refuses b world none (.interfaceNotFound "<platform default>" available)

section

variable {b : Backend σ τ} {world : σ} {request : Option InterfaceRequest}

theorem Refuses.resolve {e : CaptureError} (h : b.Refuses world request e) :
    (b.resolve request world).value.1 = .error e := by
  cases h with
  | unlisted failed => exact resolve_of_failed (congrArg Prod.fst failed) request
  | empty listed nothing =>
    rw [resolve_value listed]
    simp [InterfaceId.resolve, NameSet.isEmpty, nothing]
  | noName listed occupied =>
    rw [resolve_value listed]
    simp [InterfaceId.resolve, NameSet.isEmpty, occupied]
  | missing listed occupied absent =>
    rw [resolve_value listed]
    simp [InterfaceId.resolve, NameSet.isEmpty, occupied, InterfaceId.lookUp, NameSet.contains, absent]
  | @noDefault available later listed occupied absent =>
    rw [resolve_value listed]
    cases chosen : (b.defaultInterface later).value.1 with
    | none => simp [InterfaceId.resolve, NameSet.isEmpty, occupied, InterfaceId.lookUp,
        InterfaceId.defaultLabel]
    | some name => simp [InterfaceId.resolve, NameSet.isEmpty, occupied, InterfaceId.lookUp,
        InterfaceId.defaultLabel, NameSet.contains, absent name chosen]

theorem offers_or_refuses (b : Backend σ τ) (world : σ) (request : Option InterfaceRequest) :
    (∃ name, b.Offers world request name) ∨ ∃ e, b.Refuses world request e := by
  rcases listed : (b.interfaces world).value with ⟨outcome, later⟩
  cases outcome with
  | error e => exact .inr ⟨e, .unlisted listed⟩
  | ok available =>
    by_cases nothing : available.toList = []
    · exact .inr ⟨_, .empty listed nothing⟩
    have contained {name : String} (present : name ∈ available.toList) :
        available.contains name = true := List.contains_iff_mem.mpr present
    match request with
    | some (.invalid found) => exact .inr ⟨_, .noName listed nothing⟩
    | some (.name name) =>
      by_cases present : name ∈ available.toList
      · exact .inl ⟨name, available, later, listed, contained present, rfl⟩
      · exact .inr ⟨_, .missing listed nothing present⟩
    | none =>
      by_cases found : ∃ name, (b.defaultInterface later).value.1 = some name ∧ name ∈ available.toList
      · obtain ⟨name, chosen, present⟩ := found
        exact .inl ⟨name, available, later, listed, contained present, chosen⟩
      · exact .inr ⟨_, .noDefault listed nothing fun name chosen present =>
          found ⟨name, chosen, present⟩⟩

theorem resolve_eq_ok_iff {id : InterfaceId} :
    (b.resolve request world).value.1 = .ok id ↔ b.Offers world request id.name := by
  refine ⟨fun found => ?_, Offers.resolve⟩
  obtain ⟨name, offered⟩ | ⟨e, refused⟩ := b.offers_or_refuses world request
  · cases offered.resolve.symm.trans found
    exact offered
  · cases refused.resolve.symm.trans found

theorem resolve_eq_error_iff {e : CaptureError} :
    (b.resolve request world).value.1 = .error e ↔ b.Refuses world request e := by
  refine ⟨fun failed => ?_, Refuses.resolve⟩
  obtain ⟨name, offered⟩ | ⟨other, refused⟩ := b.offers_or_refuses world request
  · cases offered.resolve.symm.trans failed
  · cases refused.resolve.symm.trans failed
    exact refused

/-- The default is asked for only if no interface is named, and after the list. -/
theorem resolve_world (b : Backend σ τ) (world : σ) (request : Option InterfaceRequest) :
    (b.resolve request world).value.2 =
      match (b.interfaces world).value with
      | (.error _, later) => later
      | (.ok _, later) => if request.isNone then (b.defaultInterface later).value.2 else later := by
  rcases listed : (b.interfaces world).value with ⟨outcome, later⟩
  have emitted (r : LogRecord) (world : σ) : (Act.emit r world).value = ((), world) := rfl
  have returned (world : σ) : ((pure none : Act σ (Option String)) world).value = (none, world) := rfl
  unfold resolve
  simp only [Act.value_bind, listed]
  cases outcome with
  | error e => rfl
  | ok available =>
    cases request with
    | none =>
      simp only [Act.value_bind, emitted, Option.isNone_none, if_true]
      cases InterfaceId.resolve none available (b.defaultInterface later).value.1 <;> rfl
    | some r =>
      simp only [Act.value_bind, emitted, returned, Option.isNone_some, Bool.false_eq_true, if_false]
      cases InterfaceId.resolve (some r) available none <;> rfl

end
end Backend

/-! ## Making the session -/

namespace Session

variable {c : Config} {b : Backend σ τ} {world : σ}

theorem create_of_flawed {e : CaptureError} (flawed : c.validate = .error e) (b : Backend σ τ)
    (world : σ) : (create c b world).value = (.ok (.error e), world) := by
  unfold create Act.within Traced.within
  rw [flawed]
  rfl

theorem create_world (valid : c.validate = .ok ()) (b : Backend σ τ) (world : σ) :
    (create c b world).value.2 = (b.resolve c.capture.interface world).value.2 := by
  unfold create Act.within Traced.within
  rw [valid]
  simp only [Act.value_bind]
  cases (b.resolve c.capture.interface world).value.1 with
  | error e => rfl
  | ok interface =>
    simp only [Act.value_bind, Act.value_lift]
    rcases (MeteredQueue.create c.queue.capacity (.always c.queue.dropStrategy)).value with
      fault | e | queue <;> rfl

def questions (c : Config) (b : Backend σ τ) (world : σ) : List BackendQuery :=
  match c.validate, (b.interfaces world).value.1 with
  | .error _, _ => []
  | .ok _, .error _ => [.interfaces]
  | .ok _, .ok _ => if c.capture.interface.isNone then [.interfaces, .default] else [.interfaces]

theorem create_noting (c : Config) (b : Backend σ τ) (world : σ) :
    (create c b.noting (world, [])).value.2 = ((create c b world).value.2, questions c b world) := by
  cases checked : c.validate with
  | error e => simp only [create_of_flawed checked, questions, checked]
  | ok _ =>
    rw [create_world checked, create_world checked, Backend.resolve_world, Backend.resolve_world,
      questions, checked]
    simp only [Backend.noting, Act.noting, List.nil_append]
    obtain ⟨outcome, later⟩ := (b.interfaces world).value
    cases outcome with
    | error e => rfl
    | ok available => cases c.capture.interface <;> rfl

theorem queue_create_ne_error (valid : c.validate = .ok ()) (strategy : DropStrategy)
    (e : CaptureError) : (MeteredQueue.create c.queue.capacity strategy).value ≠ .ok (.error e) := by
  rw [MeteredQueue.create, if_neg (Nat.ne_of_gt (c.capacity_pos valid))]
  simp only [bind, Traced.bind]
  split <;> simp [pure]

def made (c : Config) (b : Backend σ τ) (interface : InterfaceId) : Session σ τ where
  backend := b
  interface := interface
  options := c.openOptions
  filters := c.filterChain
  queue := { queue := .create c.queue.capacity (.always c.queue.dropStrategy) }

/-- What keeps a session from being made: a flaw of the configuration, or an interface that is not found. -/
def Obstacle (c : Config) (b : Backend σ τ) (world : σ) (e : CaptureError) : Prop :=
  c.validate = .error e ∨ c.validate = .ok () ∧ b.Refuses world c.capture.interface e

theorem create_of_obstacle {e : CaptureError} (obstacle : Obstacle c b world e) :
    (create c b world).value.1 = .ok (.error e) := by
  rcases obstacle with flawed | ⟨valid, refused⟩
  · rw [create_of_flawed flawed]
  · rw [create_value valid, refused.resolve]

theorem create_cases (c : Config) (b : Backend σ τ) (world : σ) :
    (∃ e, Obstacle c b world e) ∨
    c.validate = .ok () ∧ ∃ name, b.Offers world c.capture.interface name ∧
      (c.Allocatable ∧ (create c b world).value.1 = .ok (.ok (made c b ⟨name⟩)) ∨
        ¬ c.Allocatable ∧ (create c b world).value.1 = .error (.ofText "capacity overflow")) := by
  cases valid : c.validate with
  | error e => exact .inl ⟨e, .inl valid⟩
  | ok _ =>
    obtain ⟨name, offered⟩ | ⟨e, refused⟩ := b.offers_or_refuses world c.capture.interface
    · refine .inr ⟨rfl, name, offered, ?_⟩
      rw [create_value valid, offered.resolve]
      rcases Nat.lt_or_ge PacketQueue.largestSize (c.queue.capacity * PacketQueue.slotSize) with
        large | fits
      · exact .inr ⟨Nat.not_le.mpr large, if_pos large⟩
      · exact .inl ⟨fits, if_neg (Nat.not_lt.mpr fits)⟩
    · exact .inl ⟨e, .inr ⟨valid, refused⟩⟩

theorem names_made (c : Config) (b : Backend σ τ) (interface : InterfaceId) :
    (made c b interface).filters.names = c.filters.map (·.name) := by
  have entries : (made c b interface).filters.entries = _ := FilterChain.entries_filterChain c
  rw [FilterChain.names, entries, List.map_map]
  conv => rhs; rw [← List.zipIdx_map_fst 0 c.filters, List.map_map]
  rfl

/-- A session is made if and only if the configuration is valid, the backend lists the interface asked
for, or its default if none is asked for, and the queue can be allocated. Otherwise the first
obstacle is told, validation before the list, the list before the request. What is made is on a
listed interface, has not begun, and is empty; its queue and filters are as configured. The backend
is asked for its list if the configuration is valid, for its default if there is a list and no
request, and for nothing else. -/
theorem creation_all_or_nothing (c : Config) (b : Backend σ τ) (world : σ) :
    let outcome := (create c b world).value.1
    let possible := c.validate = .ok () ∧ ∃ name, b.Offers world c.capture.interface name
    ((∃ s, outcome = .ok (.ok s)) ↔ possible ∧ c.Allocatable) ∧
    ((∃ fault, outcome = .error fault) ↔ possible ∧ ¬ c.Allocatable) ∧
    (∀ e, outcome = .ok (.error e) ↔ Obstacle c b world e) ∧
    (∀ s, outcome = .ok (.ok s) →
      (∃ available later, (b.interfaces world).value = (.ok available, later) ∧
        s.interface.name ∈ available.toList) ∧
      b.Offers world c.capture.interface s.interface.name ∧
      s.phase = .idle ∧ s.producer = .absent ∧ s.failure = none ∧ s.options = c.openOptions ∧
      s.queue.metrics = .zero ∧ s.queue.queue.packets = [] ∧
      s.queue.queue.capacity = c.queue.capacity ∧
      s.queue.queue.strategy = .always c.queue.dropStrategy ∧
      s.filters.names = c.filters.map (·.name)) ∧
    (c.validate = .ok () → ∀ strategy e,
      (MeteredQueue.create c.queue.capacity strategy).value ≠ .ok (.error e)) ∧
    (create c b.noting (world, [])).value.2 = ((create c b world).value.2, questions c b world) := by
  intro outcome possible
  have told {e : CaptureError} (obstacle : Obstacle c b world e) : outcome = .ok (.error e) :=
    create_of_obstacle obstacle
  have unaddressed : c.validate = .ok () → ∀ strategy e,
      (MeteredQueue.create c.queue.capacity strategy).value ≠ .ok (.error e) := queue_create_ne_error
  rcases create_cases c b world with
    ⟨e, obstacle⟩ | ⟨valid, name, offered, ⟨fits, whole⟩ | ⟨large, broke⟩⟩
  case inl =>
    have impossible : ¬ possible := by
      rintro ⟨valid, name, offered⟩
      rcases obstacle with flawed | ⟨_, refused⟩
      · cases valid.symm.trans flawed
      · cases offered.resolve.symm.trans refused.resolve
    rw [told obstacle]
    refine ⟨iff_of_false (by simp) fun h => impossible h.1, iff_of_false (by simp) fun h => impossible h.1,
      fun other => ⟨fun same => ?_, fun also => (told obstacle).symm.trans (told also)⟩, by simp,
      unaddressed, create_noting c b world⟩
    cases same
    exact obstacle
  case inr.inl =>
    have whole : outcome = .ok (.ok (made c b ⟨name⟩)) := whole
    refine ⟨iff_of_true ⟨_, whole⟩ ⟨⟨valid, name, offered⟩, fits⟩,
      iff_of_false (by simp [whole]) fun h => h.2 fits,
      fun other => iff_of_false (by simp [whole]) fun also => ?_, fun s same => ?_,
      unaddressed, create_noting c b world⟩
    · cases whole.symm.trans (told also)
    · cases whole.symm.trans same
      obtain ⟨available, later, listed, present, _⟩ := id offered
      exact ⟨⟨available, later, listed, List.contains_iff_mem.mp present⟩, offered, rfl, rfl, rfl, rfl,
        rfl, rfl, rfl, rfl, names_made c b _⟩
  case inr.inr =>
    have broke : outcome = .error (.ofText "capacity overflow") := broke
    refine ⟨iff_of_false (by simp [broke]) fun h => large h.2,
      iff_of_true ⟨_, broke⟩ ⟨⟨valid, name, offered⟩, large⟩,
      fun other => iff_of_false (by simp [broke]) fun also => ?_, by simp [broke],
      unaddressed, create_noting c b world⟩
    cases broke.symm.trans (told also)

end Session
end CaptureQueue
