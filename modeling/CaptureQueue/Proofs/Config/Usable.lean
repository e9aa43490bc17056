import CaptureQueue.Backend.Memory
import CaptureQueue.Program.Capture
import CaptureQueue.Proofs.Config.Numbers
import CaptureQueue.Proofs.Program.Job
import CaptureQueue.Proofs.Session.Lifecycle

/-! What a configuration that is read and found valid is good for. One that asks for an interface by
its name, or for none, can be written and makes a session on every host that lists the interface. One
whose interface is no name passes both checks, and is refused where it is used. -/

set_option autoImplicit false
namespace CaptureQueue

variable {σ τ : Type}

/-! ## Finding the interface -/

namespace Backend

/-- The backend lists an interface, which is the one asked for, or its default if none is asked for. -/
def Offers (b : Backend σ τ) (world : σ) (request : Option InterfaceRequest) (name : String) : Prop :=
  ∃ available later, (b.interfaces world).value = (.ok available, later) ∧
    available.contains name = true ∧
    match request with
    | some r => r = .name name
    | none => (b.defaultInterface later).value.1 = some name

theorem resolve_value {b : Backend σ τ} {world later : σ} {available : NameSet}
    (listed : (b.interfaces world).value = (.ok available, later)) (request : Option InterfaceRequest) :
    (b.resolve request world).value.1 = InterfaceId.resolve request available
      (if request.isNone then (b.defaultInterface later).value.1 else none) := by
  have emitted (r : LogRecord) (world : σ) : (Act.emit r world).value = ((), world) := rfl
  have returned (world : σ) : ((pure none : Act σ (Option String)) world).value = (none, world) := rfl
  unfold resolve
  cases request with
  | none =>
    simp only [Act.value_bind, listed, emitted, Option.isNone_none, if_true]
    cases InterfaceId.resolve none available (b.defaultInterface later).value.1 <;> rfl
  | some r =>
    simp only [Act.value_bind, listed, emitted, returned, Option.isNone_some, Bool.false_eq_true,
      if_false]
    cases InterfaceId.resolve (some r) available none <;> rfl

theorem resolve_of_failed {b : Backend σ τ} {world : σ} {e : CaptureError}
    (failed : (b.interfaces world).value.1 = .error e) (request : Option InterfaceRequest) :
    (b.resolve request world).value.1 = .error e := by
  unfold resolve
  rw [Act.value_bind, failed]
  rfl

theorem Offers.resolve {b : Backend σ τ} {world : σ} {request : Option InterfaceRequest}
    {name : String} (h : b.Offers world request name) :
    (b.resolve request world).value.1 = .ok ⟨name⟩ := by
  obtain ⟨available, later, listed, present, wanted⟩ := h
  have occupied : available.isEmpty = false := by
    have member : name ∈ available.toList := by simpa [NameSet.contains] using present
    simpa [NameSet.isEmpty] using List.ne_nil_of_mem member
  rw [resolve_value listed]
  cases request with
  | none => simp [InterfaceId.resolve, InterfaceId.lookUp, occupied, wanted, present]
  | some r =>
    cases wanted
    simp [InterfaceId.resolve, InterfaceId.lookUp, occupied, present]

theorem resolve_invalid (b : Backend σ τ) (world : σ) (found : String) :
    ∃ e, (b.resolve (some (.invalid found)) world).value.1 = .error e ∧
      ∀ available, (b.interfaces world).value.1 = .ok available → available.isEmpty = false →
        e = .invalidInterfaceType found := by
  cases listed : (b.interfaces world).value.1 with
  | error e => exact ⟨e, resolve_of_failed listed _, by simp⟩
  | ok available =>
    rw [resolve_value (Prod.ext listed rfl)]
    cases empty : available.isEmpty with
    | true => exact ⟨.noInterfaces, by simp [InterfaceId.resolve, empty], by simp [empty]⟩
    | false => exact ⟨.invalidInterfaceType found, by simp [InterfaceId.resolve, empty], by simp⟩

end Backend

/-! ## Making the session -/

theorem Config.capacity_pos {c : Config} (valid : c.validate = .ok ()) : 0 < c.queue.capacity := by
  refine Nat.pos_of_ne_zero fun zero => ?_
  rw [validate, flaw?, if_pos zero] at valid
  cases valid

/-- The queue of the configuration takes no more bytes than one queue can. -/
def Config.Allocatable (c : Config) : Prop :=
  c.queue.capacity * PacketQueue.slotSize ≤ PacketQueue.largestSize

theorem Session.create_value {c : Config} (valid : c.validate = .ok ()) (b : Backend σ τ) (world : σ) :
    (create c b world).value.1 =
      match (b.resolve c.capture.interface world).value.1 with
      | .error e => .ok (.error e)
      | .ok interface =>
        if PacketQueue.largestSize < c.queue.capacity * PacketQueue.slotSize then
          .error (.ofText "capacity overflow")
        else .ok (.ok {
          backend := b, interface := interface, options := c.openOptions, filters := c.filterChain,
          queue := { queue := .create c.queue.capacity (.always c.queue.dropStrategy) } }) := by
  have positive := c.capacity_pos valid
  unfold create Act.within Traced.within
  rw [valid]
  simp only [Act.value_bind]
  cases (b.resolve c.capture.interface world).value.1 with
  | error e => rfl
  | ok interface =>
    simp only [Act.value_bind, Act.value_lift]
    have made : (MeteredQueue.create c.queue.capacity (.always c.queue.dropStrategy)).value =
        if PacketQueue.largestSize < c.queue.capacity * PacketQueue.slotSize then
          .error (.ofText "capacity overflow")
        else .ok (.ok { queue := .create c.queue.capacity (.always c.queue.dropStrategy) }) := by
      rw [MeteredQueue.create, if_neg (Nat.ne_of_gt positive)]
      simp only [bind, Traced.bind]
      split <;> rfl
    rw [made]
    split <;> rfl

theorem Session.create_of_offers {c : Config} (valid : c.validate = .ok ()) (fits : c.Allocatable)
    {b : Backend σ τ} {world : σ} {name : String} (offered : b.Offers world c.capture.interface name) :
    ∃ s : Session σ τ, (create c b world).value.1 = .ok (.ok s) ∧ s.interface = ⟨name⟩ := by
  rw [create_value valid, offered.resolve]
  exact ⟨_, if_neg (Nat.not_lt.mpr fits), rfl⟩

theorem Session.create_of_invalid {c : Config} (valid : c.validate = .ok ()) {found : String}
    (asked : c.capture.interface = some (.invalid found)) (b : Backend σ τ) (world : σ) :
    ∃ e, (create c b world).value.1 = .ok (.error e) ∧
      ∀ available, (b.interfaces world).value.1 = .ok available → available.isEmpty = false →
        e = .invalidInterfaceType found := by
  obtain ⟨e, refused, told⟩ := b.resolve_invalid world found
  rw [create_value valid, asked, refused]
  exact ⟨e, rfl, told⟩

theorem MemoryHost.offers_of_single (name : String) (feed : MemoryFeed)
    {request : Option InterfaceRequest} (wanted : ∀ r ∈ request, r = .name name) :
    (ofNames [name]).backend.Offers feed request name := by
  refine ⟨.ofList [name], feed, rfl, ?_, ?_⟩
  · simp [NameSet.contains, NameSet.mem_toList_ofList]
  · cases request with
    | none => rfl
    | some r => exact wanted r rfl

/-! ## At the command line -/

namespace ConfigFile

def Holds (e : Surroundings) (named : Option String) (w : Workplace) (text : String) : Prop :=
  ∃ path, find? e w.files named = some path ∧
    (w.files.read path).toOption.bind Bytes.text? = some text

variable {e : Surroundings} {named : Option String} {w : Workplace} {text path : String} {c : Config}

theorem value_loadAt (held : (w.files.read path).toOption.bind Bytes.text? = some text)
    (read : Config.ofText text = .ok c) : (loadAt path w).value = (.ok c, w) := by
  have loaded : Config.load w.files path = .ok c := by
    rw [Config.load, held]
    dsimp only
    rw [read]
    rfl
  rw [loadAt, Job.value_get_bind, Job.value_within_ofCapture, loaded]
  rfl

theorem validate_of_holds (held : Holds e named w text) (read : Config.ofText text = .ok c)
    (valid : c.validate = .ok ()) : (validate e named w).value.1 = .ok () := by
  obtain ⟨path, found, held⟩ := held
  rw [validate, Job.value_get_bind, found]
  dsimp only
  have checked : (Job.within "Configuration validation failed" (Job.ofCapture c.validate) w).value =
      (.ok (), w) := by
    rw [valid]
    rfl
  rw [Job.value_bind_of_ok (value_loadAt held read), Job.value_bind_of_ok checked]
  rfl

theorem showEffective_of_holds (held : Holds e named w text) (read : Config.ofText text = .ok c) :
    (showEffective e named w).value.1 =
      (c.toText.map fun _ => ()).mapError fun failure =>
        Halt.within "Failed to serialize config" (.failed { cause := .capture failure.toError }) := by
  obtain ⟨path, found, held⟩ := held
  have loaded : (loadEffective e named w).value = (.ok c, w) := by
    rw [loadEffective, Job.value_get_bind, found]
    exact value_loadAt held read
  have encoded : (written c w).value =
      (c.toText.mapError fun failure => Halt.within "Failed to serialize config"
        (.failed { cause := .capture failure.toError }), w) := by
    rw [written, Job.value_within_ofCapture]
    cases c.toText <;> rfl
  rw [showEffective, Job.value_bind_of_ok loaded]
  cases told : c.toText with
  | error failure =>
    rw [told] at encoded
    rw [Job.value_bind_of_error encoded]
    rfl
  | ok text =>
    rw [told] at encoded
    rw [Job.value_bind_of_ok encoded]
    rfl

end ConfigFile

namespace Capture

theorem openSession_of_create {c : Config} {w : Workplace} {s : HostSession}
    (made : (Session.create c Datalink.backend w.host).value.1 = .ok (.ok s)) :
    (openSession c w).value.1 = .ok s := by
  have opened : (Job.onHost (Session.create c Datalink.backend) w).value.1 = .ok (.ok (.ok s)) :=
    congrArg Except.ok made
  have kept : ((do
      Job.ofCapture (← Job.ofFaulty (← Job.onHost (Session.create c Datalink.backend))) :
        Job HostSession) w).value.1 = .ok s := by
    rw [Job.value_bind_of_ok (Prod.ext opened rfl)]
    rfl
  exact congrArg (Except.mapError (Halt.within "Failed to set up capture session")) kept

end Capture

/-! ## Reading, checking and using -/

namespace Config

theorem toText_of_invalid {c : Config} {found : String}
    (asked : c.capture.interface = some (.invalid found)) :
    c.toText = .error (.interfaceNotName found) := by
  rw [toText, toToml, CaptureSettings.toToml, asked]
  rfl

theorem exists_toText_of_named {text : String} {c : Config} (read : ofText text = .ok c)
    (named : ∀ found, c.capture.interface ≠ some (.invalid found)) :
    ∃ written, c.toText = .ok written := by
  obtain ⟨members, encoded⟩ := exists_toToml_iff.mpr ⟨named, numbers_of_ofText read⟩
  exact ⟨_, toText_eq_ok.mpr ⟨members, encoded, rfl⟩⟩

/-- A name that the interface asked for goes by. -/
theorem exists_wanted {c : Config} (named : ∀ found, c.capture.interface ≠ some (.invalid found)) :
    ∃ name, ∀ r ∈ c.capture.interface, r = .name name := by
  match asked : c.capture.interface with
  | none => exact ⟨"", by simp⟩
  | some (.name name) => exact ⟨name, by simp⟩
  | some (.invalid found) => exact absurd asked (named found)

/-- A text that is read as a configuration and found valid passes the check of its file. If it asks for
an interface by its name or for none, it can be written and shown, and unless its queue cannot be
allocated it makes a session on every backend that lists the interface, of which there is one. If what
it asks for is no name, it is neither written nor shown nor made a session of. -/
theorem valid_usable {text : String} {c : Config} (read : ofText text = .ok c)
    (valid : c.validate = .ok ()) :
    (∀ e named w, ConfigFile.Holds e named w text → (ConfigFile.validate e named w).value.1 = .ok ()) ∧
    ((∀ found, c.capture.interface ≠ some (.invalid found)) →
      (∃ written, c.toText = .ok written) ∧
      (∀ e named w, ConfigFile.Holds e named w text →
        (ConfigFile.showEffective e named w).value.1 = .ok ()) ∧
      (c.Allocatable →
        (∀ (σ τ : Type) (b : Backend σ τ) (world : σ) (name : String),
          b.Offers world c.capture.interface name →
          ∃ s, (Session.create c b world).value.1 = .ok (.ok s) ∧ s.interface = ⟨name⟩) ∧
        (∃ (host : MemoryHost) (s : Session MemoryFeed MemoryStream),
          (Session.create c host.backend {}).value.1 = .ok (.ok s)) ∧
        ∀ (w : Workplace) (name : String), Datalink.backend.Offers w.host c.capture.interface name →
          ∃ s, (Capture.openSession c w).value.1 = .ok s)) ∧
    ∀ found, c.capture.interface = some (.invalid found) →
      c.toText = .error (.interfaceNotName found) ∧
      (∀ e named w, ConfigFile.Holds e named w text →
        ∃ halt, (ConfigFile.showEffective e named w).value.1 = .error halt) ∧
      ∀ (σ τ : Type) (b : Backend σ τ) (world : σ),
        ∃ e, (Session.create c b world).value.1 = .ok (.error e) ∧
          ∀ available, (b.interfaces world).value.1 = .ok available → available.isEmpty = false →
            e = .invalidInterfaceType found := by
  refine ⟨fun e named w held => ConfigFile.validate_of_holds held read valid, ?_, ?_⟩
  · intro named
    obtain ⟨written, encoded⟩ := exists_toText_of_named read named
    refine ⟨⟨written, encoded⟩, ?_, fun fits => ⟨?_, ?_, ?_⟩⟩
    · intro e named w held
      rw [ConfigFile.showEffective_of_holds held read, encoded]
      rfl
    · intro σ τ b world name offered
      exact Session.create_of_offers valid fits offered
    · obtain ⟨name, wanted⟩ := exists_wanted named
      obtain ⟨s, made, _⟩ := Session.create_of_offers valid fits
        (MemoryHost.offers_of_single name {} wanted)
      exact ⟨_, s, made⟩
    · intro w name offered
      obtain ⟨s, made, _⟩ := Session.create_of_offers valid fits offered
      exact ⟨s, Capture.openSession_of_create made⟩
  · intro found asked
    refine ⟨toText_of_invalid asked, ?_, ?_⟩
    · intro e named w held
      rw [ConfigFile.showEffective_of_holds held read, toText_of_invalid asked]
      exact ⟨_, rfl⟩
    · intro σ τ b world
      exact Session.create_of_invalid valid asked b world

theorem exists_ofText {text : String} {p : Config → Bool}
    (holds : (ofText text).toOption.any p = true) : ∃ c, ofText text = .ok c ∧ p c = true := by
  cases read : ofText text with
  | error e =>
    rw [read] at holds
    cases holds
  | ok c =>
    rw [read] at holds
    exact ⟨c, rfl, holds⟩

theorem valid_usable_of_eth0 :
    let text := "[capture]\ninterface = \"eth0\"\n"
    ∃ c, ofText text = .ok c ∧ c.validate = .ok () ∧
      (∀ found, c.capture.interface ≠ some (.invalid found)) ∧ c.Allocatable ∧
      (∃ written, c.toText = .ok written) ∧
      ∃ s, (Session.create c (MemoryHost.ofNames ["eth0", "lo"]).backend {}).value.1 = .ok (.ok s) ∧
        s.interface = ⟨"eth0"⟩ := by
  intro text
  have holds : (ofText text).toOption.any (fun c =>
      c.capture.interface == some (.name "eth0") && c.queue.capacity == 4096 &&
        c.flaw?.isNone) = true := by
    decide +kernel
  obtain ⟨c, read, props⟩ := exists_ofText holds
  simp only [Bool.and_eq_true, beq_iff_eq, Option.isNone_iff_eq_none] at props
  obtain ⟨⟨asked, capacity⟩, sound⟩ := props
  have valid : c.validate = .ok () := by rw [validate, sound]
  have named : ∀ found, c.capture.interface ≠ some (.invalid found) := by simp [asked]
  have fits : c.Allocatable := by
    rw [Allocatable, capacity]
    decide
  have offered : (MemoryHost.ofNames ["eth0", "lo"]).backend.Offers {} c.capture.interface "eth0" :=
    ⟨.ofList ["eth0", "lo"], {}, rfl, by decide, by rw [asked]⟩
  obtain ⟨_, usable, _⟩ := valid_usable read valid
  obtain ⟨written, _, making⟩ := usable named
  exact ⟨c, read, valid, named, fits, written, (making fits).1 _ _ _ _ _ offered⟩

/-- Two texts that pass every check and make no session on any backend: an interface that is a number,
which cannot be written either, and a queue too large to be allocated. -/
theorem valid_not_usable :
    (∃ c, ofText "[capture]\ninterface = 3\n" = .ok c ∧ c.validate = .ok () ∧
      c.toText = .error (.interfaceNotName "integer") ∧
      ∀ (σ τ : Type) (b : Backend σ τ) (world : σ) (s : Session σ τ),
        (Session.create c b world).value.1 ≠ .ok (.ok s)) ∧
    ∃ c, ofText "[queue]\ncapacity = 9223372036854775807\n" = .ok c ∧ c.validate = .ok () ∧
      ∀ (σ τ : Type) (b : Backend σ τ) (world : σ) (s : Session σ τ),
        (Session.create c b world).value.1 ≠ .ok (.ok s) := by
  constructor
  · have holds : (ofText "[capture]\ninterface = 3\n").toOption.any (fun c =>
        c.capture.interface == some (.invalid "integer") && c.flaw?.isNone) = true := by
      decide +kernel
    obtain ⟨c, read, props⟩ := exists_ofText holds
    simp only [Bool.and_eq_true, beq_iff_eq, Option.isNone_iff_eq_none] at props
    obtain ⟨asked, sound⟩ := props
    have valid : c.validate = .ok () := by rw [validate, sound]
    refine ⟨c, read, valid, toText_of_invalid asked, ?_⟩
    intro σ τ b world s made
    obtain ⟨e, refused, _⟩ := Session.create_of_invalid valid asked b world
    rw [refused] at made
    cases made
  · have holds : (ofText "[queue]\ncapacity = 9223372036854775807\n").toOption.any (fun c =>
        c.queue.capacity == 9223372036854775807 && c.flaw?.isNone) = true := by
      decide +kernel
    obtain ⟨c, read, props⟩ := exists_ofText holds
    simp only [Bool.and_eq_true, beq_iff_eq, Option.isNone_iff_eq_none] at props
    obtain ⟨capacity, sound⟩ := props
    have valid : c.validate = .ok () := by rw [validate, sound]
    have large : PacketQueue.largestSize < c.queue.capacity * PacketQueue.slotSize := by
      rw [capacity]
      decide
    refine ⟨c, read, valid, ?_⟩
    intro σ τ b world s made
    rw [Session.create_value valid] at made
    split at made
    · cases made
    · rw [if_pos large] at made
      cases made

end Config
end CaptureQueue
