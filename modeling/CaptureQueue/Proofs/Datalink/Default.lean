import CaptureQueue.Program.AdapterTable
import CaptureQueue.Proofs.Config.Usable

/-! The adapter that the list of adapters marks as the default, and the one that a capture for which
none is asked is on. The list is marked by looking through the adapters that it shows; a capture goes
through the set of their names. -/

set_option autoImplicit false
namespace CaptureQueue

/-! ## The pick of a host -/

namespace Adapter

theorem isDefaultCandidate_iff {a : Adapter} :
    a.isDefaultCandidate = true ↔ a.isUp = true ∧ a.isLoopback = false ∧ a.addresses ≠ [] := by
  simp [isDefaultCandidate, and_assoc]

theorem pickDefault_eq_some_iff {adapters : List Adapter} {a : Adapter} :
    pickDefault adapters = some a ↔ ∃ before after, adapters = before ++ a :: after ∧
      a.isDefaultCandidate = true ∧ ∀ b ∈ before, b.isDefaultCandidate = false := by
  rw [pickDefault, List.find?_eq_some_iff_append]
  constructor
  · rintro ⟨candidate, before, after, split, none⟩
    exact ⟨before, after, split, candidate, by simpa using none⟩
  · rintro ⟨before, after, split, candidate, none⟩
    exact ⟨candidate, before, after, split, by simpa using none⟩

theorem pickDefault_eq_none_iff {adapters : List Adapter} :
    pickDefault adapters = none ↔ ∀ a ∈ adapters, a.isDefaultCandidate = false := by
  simp [pickDefault]

theorem mem_of_pickDefault {adapters : List Adapter} {a : Adapter}
    (picked : pickDefault adapters = some a) : a ∈ adapters := List.mem_of_find?_eq_some picked

theorem isUp_of_pickDefault {adapters : List Adapter} {a : Adapter}
    (picked : pickDefault adapters = some a) : a.isUp = true :=
  (isDefaultCandidate_iff.mp (List.find?_some picked)).1

end Adapter

/-! ## The interface of a capture -/

theorem Host.value_listing {h : Host} (steady : h.listingsLeft = none) :
    (listing h).value = (h.adapters, h) := by
  rw [listing, steady]
  rfl

namespace Datalink

variable {h : Host}

/-- What is found where no interface is asked for, on a host whose adapters stay. -/
theorem resolve_default (steady : h.listingsLeft = none) :
    (backend.resolve none h).value.1 =
      match Adapter.pickDefault h.adapters with
      | some a => .ok ⟨a.name⟩
      | none =>
        if h.adapters = [] then .error .noInterfaces
        else .error (.interfaceNotFound InterfaceId.defaultLabel (.ofList (h.adapters.map (·.name)))) := by
  have listing := Host.value_listing steady
  have listed : (backend.interfaces h).value = (.ok (.ofList (h.adapters.map (·.name))), h) := by
    simp only [backend, Act.value_bind, listing]
    rfl
  have chosen : (backend.defaultInterface h).value.1 = (Adapter.pickDefault h.adapters).map (·.name) := by
    simp only [backend, Act.value_bind, listing]
    rfl
  have named (a : Adapter) (present : a ∈ h.adapters) :
      a.name ∈ (NameSet.ofList (h.adapters.map (·.name))).toList :=
    NameSet.mem_toList_ofList.mpr (List.mem_map_of_mem present)
  rw [Backend.resolve_value listed, Option.isNone_none, if_pos rfl, chosen]
  cases picked : Adapter.pickDefault h.adapters with
  | some a =>
    have present := named a (Adapter.mem_of_pickDefault picked)
    simp [InterfaceId.resolve, InterfaceId.lookUp, NameSet.isEmpty, NameSet.contains,
      List.ne_nil_of_mem present, present]
  | none =>
    by_cases empty : h.adapters = []
    · rw [empty]
      rfl
    · obtain ⟨a, present⟩ := List.exists_mem_of_ne_nil _ empty
      have occupied := List.ne_nil_of_mem (named a present)
      simp [InterfaceId.resolve, InterfaceId.lookUp, NameSet.isEmpty, occupied, empty]

theorem resolve_default_eq_ok_iff (steady : h.listingsLeft = none) (id : InterfaceId) :
    (backend.resolve none h).value.1 = .ok id ↔
      ∃ a, Adapter.pickDefault h.adapters = some a ∧ a.name = id.name := by
  obtain ⟨name⟩ := id
  rw [resolve_default steady]
  cases Adapter.pickDefault h.adapters with
  | some a => simp
  | none =>
    dsimp only
    split <;> simp

theorem resolve_default_eq_error_iff (steady : h.listingsLeft = none) {e : CaptureError} :
    (backend.resolve none h).value.1 = .error e ↔
      h.adapters = [] ∧ e = .noInterfaces ∨
      h.adapters ≠ [] ∧ Adapter.pickDefault h.adapters = none ∧
        e = .interfaceNotFound InterfaceId.defaultLabel (.ofList (h.adapters.map (·.name))) := by
  rw [resolve_default steady]
  by_cases empty : h.adapters = []
  · simp [empty, Adapter.pickDefault, eq_comm]
  · cases Adapter.pickDefault h.adapters <;> simp [empty, eq_comm]

end Datalink

namespace Session

variable {σ τ : Type} {c : Config} {b : Backend σ τ} {world : σ}

theorem create_of_unresolved {e : CaptureError} (valid : c.validate = .ok ())
    (failed : (b.resolve c.capture.interface world).value.1 = .error e) :
    (create c b world).value.1 = .ok (.error e) := by
  rw [create_value valid, failed]

theorem resolve_of_create {s : Session σ τ} (valid : c.validate = .ok ())
    (made : (create c b world).value.1 = .ok (.ok s)) :
    (b.resolve c.capture.interface world).value.1 = .ok s.interface := by
  rw [create_value valid] at made
  split at made
  · cases made
  case _ id found =>
    split at made <;> cases made
    exact found

end Session

/-! ## The list of adapters -/

namespace AdapterTable

variable {adapters : List Adapter} {a : Adapter}

theorem isDefault_iff : isDefault adapters a = true ↔
    ∃ d, Adapter.pickDefault adapters = some d ∧ d.name = a.name := by
  simp [isDefault, Option.any_eq_true]

theorem mem_shown {all : Bool} : a ∈ shown all adapters ↔ a ∈ adapters ∧ (all = true ∨ a.isUp = true) := by
  simp [shown]

def MarkedInJson (adapters : List Adapter) (a : Adapter) : Prop :=
  ∃ members, toJson adapters a = .object members ∧ Json.member? members "default" = some (.bool true)

def MarkedInTable (colours : Bool) (adapters : List Adapter) (a : Adapter) : Prop :=
  (marker colours).toList <+: (row colours adapters a).toList

theorem markedInJson_iff : MarkedInJson adapters a ↔ isDefault adapters a = true := by
  simp [MarkedInJson, toJson, Json.member?]

theorem row_eq (colours : Bool) (adapters : List Adapter) (a : Adapter) :
    ∃ rest, row colours adapters a =
      (if isDefault adapters a then marker colours else " ") ++ (" " ++ rest) := by
  unfold row
  simp only [String.append_assoc]
  exact ⟨_, rfl⟩

/-- With or without colours, the mark does not begin as a row without it does. -/
theorem marker_begins (colours : Bool) : ∃ c rest, (marker colours).toList = c :: rest ∧ c ≠ ' ' := by
  cases colours with
  | false =>
    refine ⟨'*', [], ?_, by decide⟩
    simp [marker, Text.Style.apply, Text.Style.applyPadded, Text.padded]
  | true =>
    have opened : ∃ rest, marker true = "\x1b[" ++ rest := by
      simp only [marker, Text.Style.apply, Text.Style.applyPadded, if_true, Text.Style.opening,
        String.append_assoc]
      exact ⟨_, rfl⟩
    obtain ⟨rest, opened⟩ := opened
    refine ⟨'\x1b', '[' :: rest.toList, ?_, by decide⟩
    rw [opened, String.toList_append]
    rfl

theorem markedInTable_iff {colours : Bool} :
    MarkedInTable colours adapters a ↔ isDefault adapters a = true := by
  obtain ⟨rest, written⟩ := row_eq colours adapters a
  rw [MarkedInTable, written, String.toList_append]
  cases isDefault adapters a with
  | true => simp
  | false =>
    obtain ⟨c, others, begins, visible⟩ := marker_begins colours
    rw [begins]
    simp [visible]

theorem value_print {e : Surroundings} {w : Workplace} (steady : w.host.listingsLeft = none)
    (all json : Bool) : (print e all json w).value = (.ok (), { w with
      output := (lines e.colours all json w.host.adapters).foldl
        (fun said line => said ++ line ++ "\n") w.output }) := by
  have listing : (Job.onHost Host.listing w).value = (.ok w.host.adapters, w) := by
    rw [Job.value_onHost, Host.value_listing steady]
  rw [print, Job.value_bind_of_ok listing, Job.value_printAll]

end AdapterTable

/-! ## Both -/

namespace Datalink

/-- On a host whose adapters stay, the entries of the list that are marked are those of the name that a
capture finds where none is asked for, and one is marked if and only if it finds one: what is picked is
up, and so always shown. It is the first adapter that is up, no loopback and with an address, and the
capture fails only if there is none, which it tells apart from a host without adapters. -/
theorem default_marked_and_captured (h : Host) (steady : h.listingsLeft = none) (all : Bool) :
    let found := (backend.resolve none h).value.1
    let shown := AdapterTable.shown all h.adapters
    let usable (a : Adapter) := a.isUp = true ∧ a.isLoopback = false ∧ a.addresses ≠ []
    (∀ e w json, w.host = h →
      (AdapterTable.print e all json w).value = (.ok (), { w with
        output := (AdapterTable.lines e.colours all json h.adapters).foldl
          (fun said line => said ++ line ++ "\n") w.output })) ∧
    (∀ colours, AdapterTable.lines colours all true h.adapters =
        [(Json.array (shown.map (AdapterTable.toJson h.adapters))).pretty] ∧
      shown.map (AdapterTable.row colours h.adapters) <+:
        AdapterTable.lines colours all false h.adapters) ∧
    (∀ a ∈ shown, (AdapterTable.MarkedInJson h.adapters a ↔ found = .ok ⟨a.name⟩) ∧
      ∀ colours, AdapterTable.MarkedInTable colours h.adapters a ↔ found = .ok ⟨a.name⟩) ∧
    ((∃ a ∈ shown, AdapterTable.MarkedInJson h.adapters a) ↔ ∃ id, found = .ok id) ∧
    (∀ id, found = .ok id ↔ ∃ before a after, h.adapters = before ++ a :: after ∧ usable a ∧
      (∀ b ∈ before, ¬ usable b) ∧ a.name = id.name) ∧
    (found = .error .noInterfaces ↔ h.adapters = []) ∧
    (∀ names, found = .error (.interfaceNotFound "<platform default>" names) ↔
      h.adapters ≠ [] ∧ (∀ a ∈ h.adapters, ¬ usable a) ∧
        names = .ofList (h.adapters.map (·.name))) ∧
    ∀ c : Config, c.validate = .ok () → c.capture.interface = none →
      (∀ e, found = .error e → (Session.create c backend h).value.1 = .ok (.error e)) ∧
      ∀ s, (Session.create c backend h).value.1 = .ok (.ok s) → found = .ok s.interface := by
  intro found shown usable
  have usable_iff (a : Adapter) : usable a ↔ a.isDefaultCandidate = true :=
    Adapter.isDefaultCandidate_iff.symm
  have marked_iff (a : Adapter) : AdapterTable.isDefault h.adapters a = true ↔ found = .ok ⟨a.name⟩ :=
    AdapterTable.isDefault_iff.trans (resolve_default_eq_ok_iff steady ⟨a.name⟩).symm
  refine ⟨?printed, ?listed, ?marked, ?some, ?first, ?empty, ?none, ?captured⟩
  case printed =>
    rintro e w json rfl
    exact AdapterTable.value_print steady all json
  case listed =>
    intro colours
    refine ⟨by rw [AdapterTable.lines, if_pos rfl], ?_⟩
    rw [AdapterTable.lines, if_neg Bool.false_ne_true]
    split
    case isTrue nothing => simp [shown, List.isEmpty_iff.mp nothing]
    case isFalse => exact List.prefix_append _ _
  case marked =>
    intro a _
    exact ⟨AdapterTable.markedInJson_iff.trans (marked_iff a),
      fun _ => AdapterTable.markedInTable_iff.trans (marked_iff a)⟩
  case some =>
    constructor
    · rintro ⟨a, _, marked⟩
      exact ⟨_, (marked_iff a).mp (AdapterTable.markedInJson_iff.mp marked)⟩
    · rintro ⟨id, ok⟩
      obtain ⟨a, picked, _⟩ := (resolve_default_eq_ok_iff steady id).mp ok
      have marked : AdapterTable.isDefault h.adapters a = true :=
        AdapterTable.isDefault_iff.mpr ⟨a, picked, rfl⟩
      exact ⟨a, AdapterTable.mem_shown.mpr
        ⟨Adapter.mem_of_pickDefault picked, .inr (Adapter.isUp_of_pickDefault picked)⟩,
        AdapterTable.markedInJson_iff.mpr marked⟩
  case first =>
    intro id
    simp only [found, resolve_default_eq_ok_iff steady, Adapter.pickDefault_eq_some_iff, usable_iff,
      Bool.not_eq_true]
    constructor
    · rintro ⟨a, ⟨before, after, split, candidate, others⟩, named⟩
      exact ⟨before, a, after, split, candidate, others, named⟩
    · rintro ⟨before, a, after, split, candidate, others, named⟩
      exact ⟨a, ⟨before, after, split, candidate, others⟩, named⟩
  case empty =>
    simp [found, resolve_default_eq_error_iff steady]
  case none =>
    intro names
    simp [found, resolve_default_eq_error_iff steady, InterfaceId.defaultLabel,
      Adapter.pickDefault_eq_none_iff, usable_iff]
  case captured =>
    intro c valid absent
    simp only [found]
    rw [← absent]
    exact ⟨fun _ => Session.create_of_unresolved valid, fun _ => Session.resolve_of_create valid⟩

/-- A loopback, an adapter that is down and two of one name, the second without an address. Both are
marked, and they alone. -/
theorem default_marked_and_captured_of_repeated :
    let address : IpAddress := .v4 ⟨10, 0, 0, 5⟩
    let h : Host := { adapters := [
      { name := "lo", flags := 9, addresses := [.v4 ⟨127, 0, 0, 1⟩] },
      { name := "eth1", flags := 0, addresses := [address] },
      { name := "eth0", flags := 1, addresses := [address] },
      { name := "wlan0", flags := 1, addresses := [address] },
      { name := "eth0", flags := 1 }] }
    h.listingsLeft = none ∧ (backend.resolve none h).value.1 = .ok ⟨"eth0"⟩ ∧
      ∀ a ∈ AdapterTable.shown false h.adapters,
        AdapterTable.MarkedInJson h.adapters a ↔ a.name = "eth0" := by
  intro address h
  obtain ⟨_, _, marked, _, first, _⟩ := default_marked_and_captured h rfl false
  have found : (backend.resolve none h).value.1 = .ok ⟨"eth0"⟩ :=
    (first ⟨"eth0"⟩).mpr ⟨h.adapters.take 2, _, h.adapters.drop 3, rfl, by decide, by decide, rfl⟩
  refine ⟨rfl, found, fun a member => ?_⟩
  rw [(marked a member).1, found]
  simp [eq_comm]

end Datalink
end CaptureQueue
