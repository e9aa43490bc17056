import CaptureQueue.Proofs.Config.Numbers
import CaptureQueue.Proofs.Filter.Widened

/-! Files that say a part of a configuration. What they leave out has its default, and what they say
beside it does not count. Any value may stand for the interface, unless a table in it has the key of a
date and tells none. -/

set_option autoImplicit false
namespace CaptureQueue

open Toml.Decode (within_eq_ok)
open Toml (Revised Fieldwise including unchanged)

/-! ## Sections -/

namespace NamedRule

/-- What is known of a filter once some of its keys have been seen. -/
def given (seen : String → Bool) (f : NamedRule) : Partial where
  name := if seen "name" then some f.name else none
  rule := if seen "rule" then some f.rule else none

def MayStand (key : String) (v v' : TomlValue) : Prop :=
  if key = "rule" then FilterRule.Widened v v' else v' = v

/-- The entry of a filter, and the same with further keys in it and in its rule. -/
inductive Widened : TomlValue → TomlValue → Prop
  | entry {members revised : List (String × TomlValue)}
    (revision : Revised ["name", "rule"] (fun _ => true) MayStand members revised) :
    Widened (.table members) (.table revised)

theorem fieldwise {f : NamedRule} {rule : TomlValue} (written : f.rule.toToml = .ok rule) :
    Fieldwise ["name", "rule"] setField {} MayStand [("name", .string f.name), ("rule", rule)]
      (f.given ·) := by
  constructor
  case known => simp
  case none => rfl
  case set =>
    intro key v v' seen member stands
    simp only [List.mem_cons, Prod.mk.injEq, List.not_mem_nil, or_false] at member
    obtain ⟨rfl, rfl⟩ | ⟨rfl, rfl⟩ := member
    · cases (stands : v' = _)
      simp [setField, given, including, Toml.Decode.string]
    · have decoded := FilterRule.ofToml_of_widened f.rule v v' written stands
      simp [setField, given, including, decoded]
  case congr =>
    intro seen seen' same
    simp only [List.forall_mem_cons] at same
    rw [given, given, same.1, same.2.1]

theorem ofToml_of_widened {f : NamedRule} {v v' : TomlValue} (written : f.toToml = .ok v)
    (widened : Widened v v') : ofToml v' = .ok f := by
  obtain ⟨rule, first, same⟩ := bind_eq_ok.mp written
  cases same
  obtain ⟨revision⟩ := widened
  exact bind_eq_ok.mpr ⟨_, (fieldwise first).record_of_revised revision, rfl⟩

end NamedRule

namespace CaptureSettings

def keep (kept : String → Bool) (s : CaptureSettings) : CaptureSettings :=
  let default : CaptureSettings := {}
  { interface := if kept "interface" then s.interface else none
    promiscuous := if kept "promiscuous" then s.promiscuous else default.promiscuous
    snaplen := if kept "snaplen" then s.snaplen else default.snaplen
    readTimeout := if kept "read_timeout_ms" then s.readTimeout else default.readTimeout }

theorem fieldwise {s : CaptureSettings} {members : List (String × TomlValue)}
    (written : s.toToml = .ok (.table members)) :
    Fieldwise ["interface", "promiscuous", "snaplen", "read_timeout_ms"] setField {} unchanged members
      (s.keep ·) := by
  obtain ⟨entries, snaplen, readTimeout, first, second, third, same⟩ := toToml_eq_ok.mp written
  cases same
  constructor
  case known =>
    refine List.forall_mem_append.mpr ⟨fun entry member => ?_, by simp⟩
    rw [Toml.key_of_mem_optionalEntry first member]
    decide
  case none => rfl
  case set =>
    rintro key v _ seen member rfl
    rcases List.mem_append.mp member with member | member
    · obtain ⟨rfl, request, asked, encoded⟩ := Toml.of_mem_optionalEntry first member
      cases request with
      | invalid _ => cases encoded
      | name name =>
        cases encoded
        simp [setField, keep, including, asked, InterfaceRequest.ofToml, TomlValue.settled?]
    · have size := Toml.decode_natural second "usize"
      have wait := Toml.decode_natural third "u64"
      simp only [List.mem_cons, Prod.mk.injEq, List.not_mem_nil, or_false] at member
      rcases member with ⟨rfl, rfl⟩ | ⟨rfl, rfl⟩ | ⟨rfl, rfl⟩ <;>
        simp [setField, keep, including, Toml.Decode.boolean, Toml.Decode.size,
          Toml.Decode.word64, size, wait]
  case congr =>
    intro seen seen' same
    obtain ⟨asked, same⟩ := List.forall_mem_append.mp same
    simp only [List.forall_mem_cons] at same
    simp only [keep]
    rw [Toml.ite_optionalEntry_congr first asked, same.1, same.2.1, same.2.2.1]

end CaptureSettings

namespace QueueSettings

def keep (kept : String → Bool) (s : QueueSettings) : QueueSettings :=
  let default : QueueSettings := {}
  { capacity := if kept "capacity" then s.capacity else default.capacity
    dropStrategy := if kept "drop_strategy" then s.dropStrategy else default.dropStrategy }

theorem fieldwise {s : QueueSettings} {members : List (String × TomlValue)}
    (written : s.toToml = .ok (.table members)) :
    Fieldwise ["capacity", "drop_strategy"] setField {} unchanged members (s.keep ·) := by
  obtain ⟨capacity, first, same⟩ := bind_eq_ok.mp written
  cases same
  have size := Toml.decode_natural first "usize"
  have decision : DropDecision.ofToml (.string s.dropStrategy.name) = .ok s.dropStrategy := by
    cases s.dropStrategy <;> rfl
  constructor
  case known => simp
  case none => rfl
  case set =>
    rintro key v _ seen member rfl
    simp only [List.mem_cons, Prod.mk.injEq, List.not_mem_nil, or_false] at member
    rcases member with ⟨rfl, rfl⟩ | ⟨rfl, rfl⟩ <;>
      simp [setField, keep, including, Toml.Decode.size, size, decision]
  case congr =>
    intro seen seen' same
    simp only [List.forall_mem_cons] at same
    simp only [keep]
    rw [same.1, same.2.1]

end QueueSettings

namespace LoggingSettings

def keep (kept : String → Bool) (s : LoggingSettings) : LoggingSettings :=
  let default : LoggingSettings := {}
  { level := if kept "level" then s.level else default.level
    file := if kept "file" then s.file else none
    jsonFormat := if kept "json_format" then s.jsonFormat else default.jsonFormat }

theorem fieldwise {s : LoggingSettings} {members : List (String × TomlValue)}
    (written : s.toToml = .table members) :
    Fieldwise ["level", "file", "json_format"] setField {} unchanged members (s.keep ·) := by
  obtain ⟨level, file, jsonFormat⟩ := s
  cases written
  constructor
  case known => cases file <;> simp
  case none => rfl
  case set =>
    rintro key v _ seen member rfl
    cases file with
    | none =>
      simp only [Option.toList, List.map_nil, List.append_nil, List.cons_append, List.nil_append,
        List.mem_cons, Prod.mk.injEq, List.not_mem_nil, or_false] at member
      rcases member with ⟨rfl, rfl⟩ | ⟨rfl, rfl⟩ <;>
        simp [setField, keep, including, Toml.Decode.string, Toml.Decode.boolean]
    | some file =>
      simp only [Option.toList, List.map_cons, List.map_nil, List.cons_append, List.nil_append,
        List.mem_cons, Prod.mk.injEq, List.not_mem_nil, or_false] at member
      rcases member with ⟨rfl, rfl⟩ | ⟨rfl, rfl⟩ | ⟨rfl, rfl⟩ <;>
        simp [setField, keep, including, Toml.Decode.string, Toml.Decode.boolean]
  case congr =>
    intro seen seen' same
    cases file <;> simp_all [keep]

end LoggingSettings

/-! ## The whole configuration -/

namespace Config

/-- Which of the sections of a configuration are kept, and which of the keys of each. -/
structure Kept where
  sections : String → Bool
  capture : String → Bool
  queue : String → Bool
  logging : String → Bool

def keep (kept : Kept) (c : Config) : Config where
  capture := if kept.sections "capture" then c.capture.keep kept.capture else {}
  queue := if kept.sections "queue" then c.queue.keep kept.queue else {}
  filters := if kept.sections "filters" then c.filters else []
  logging := if kept.sections "logging" then c.logging.keep kept.logging else {}

/-- A section, and the same with some of its keys left out and unknown ones put in. -/
inductive MayStand (kept : Kept) : String → TomlValue → TomlValue → Prop
  | capture {members revised : List (String × TomlValue)}
    (revision : Revised ["interface", "promiscuous", "snaplen", "read_timeout_ms"] kept.capture unchanged
      members revised) : MayStand kept "capture" (.table members) (.table revised)
  | queue {members revised : List (String × TomlValue)}
    (revision : Revised ["capacity", "drop_strategy"] kept.queue unchanged members revised) :
    MayStand kept "queue" (.table members) (.table revised)
  | filters {vs vs' : List TomlValue} {v' : TomlValue} (each : List.Forall₂ NamedRule.Widened vs vs')
    (laid : Toml.ListOf vs' v') : MayStand kept "filters" (.array vs) v'
  | logging {members revised : List (String × TomlValue)}
    (revision : Revised ["level", "file", "json_format"] kept.logging unchanged members revised) :
    MayStand kept "logging" (.table members) (.table revised)

/-- A file in which only the kept sections and keys are left, and unknown keys have been put in. -/
def PartOf (kept : Kept) : List (String × TomlValue) → List (String × TomlValue) → Prop :=
  Revised ["capture", "queue", "filters", "logging"] kept.sections (MayStand kept)

theorem itemsFrom_of_widened {filters : List NamedRule} {vs vs' : List TomlValue}
    (written : filters.mapM NamedRule.toToml = .ok vs) (each : List.Forall₂ NamedRule.Widened vs vs')
    (index : Nat) : Toml.Decode.itemsFrom NamedRule.ofToml index vs' = .ok filters := by
  induction filters generalizing vs vs' index with
  | nil =>
    cases written
    cases each
    rfl
  | cons f filters ih =>
    obtain ⟨v, rest, first, later, rfl⟩ := Toml.mapM_cons_eq_ok.mp written
    cases each with
    | cons widened each =>
      exact bind_eq_ok.mpr ⟨f, within_eq_ok.mpr (NamedRule.ofToml_of_widened first widened),
        bind_eq_ok.mpr ⟨filters, ih later each (index + 1), rfl⟩⟩

theorem sequence_of_listOf {α : Type} {decode : Toml.Decode.Decoder α} {vs : List TomlValue}
    {v : TomlValue} (laid : Toml.ListOf vs v) :
    Toml.Decode.sequence decode v = Toml.Decode.itemsFrom decode 0 vs := by
  rcases laid with rfl | rfl <;> rfl

theorem fieldwise {c : Config} {members : List (String × TomlValue)} (kept : Kept)
    (written : c.toToml = .ok members) :
    Fieldwise ["capture", "queue", "filters", "logging"] setField {} (MayStand kept) members
      fun seen => c.keep { kept with sections := seen } := by
  obtain ⟨capture, queue, filters, first, second, third, rfl⟩ := toToml_eq_ok.mp written
  constructor
  case known => cases filters <;> simp
  case none => rfl
  case set =>
    intro key v v' seen member stands
    cases stands with
    | capture revision =>
      obtain rfl : _ = capture := by simpa using member
      have decoded : CaptureSettings.ofToml _ = .ok _ :=
        (CaptureSettings.fieldwise first).record_of_revised revision
      simp [setField, keep, including, decoded]
    | queue revision =>
      obtain rfl : _ = queue := by simpa using member
      have decoded : QueueSettings.ofToml _ = .ok _ :=
        (QueueSettings.fieldwise second).record_of_revised revision
      simp [setField, keep, including, decoded]
    | filters each laid =>
      obtain ⟨_, rfl⟩ : ¬ filters = [] ∧ _ = filters := by simpa using member
      have decoded := (sequence_of_listOf laid).trans (itemsFrom_of_widened third each 0)
      simp [setField, keep, including, decoded]
    | @logging members _ revision =>
      have table : .table members = c.logging.toToml := by simpa using member
      have decoded : LoggingSettings.ofToml _ = .ok _ :=
        (LoggingSettings.fieldwise table.symm).record_of_revised revision
      simp [setField, keep, including, decoded]
  case congr =>
    intro seen seen' same
    -- Where no key is written for the filters there are none, whether it is looked for or not.
    cases listed : c.filters with
    | nil =>
      rw [listed] at third
      cases third
      simp_all [keep]
    | cons f rest =>
      rw [listed] at third
      obtain ⟨v, vs, _, _, rfl⟩ := Toml.mapM_cons_eq_ok.mp third
      simp_all [keep]

theorem ofToml_of_partOf {c : Config} {members revised : List (String × TomlValue)} {kept : Kept}
    (written : c.toToml = .ok members) (part : PartOf kept members revised) :
    ofToml (.table revised) = .ok (c.keep kept) :=
  (fieldwise kept written).record_of_revised part

end Config

/-! ## The interface -/

/-- No table in the value has the key of a date as its first. -/
inductive TomlValue.Undated : TomlValue → Prop
  | string (s : String) : Undated (.string s)
  | integer (n : Int) : Undated (.integer n)
  | float (x : Float) : Undated (.float x)
  | boolean (b : Bool) : Undated (.boolean b)
  | datetime (text : String) : Undated (.datetime text)
  | array {items : List TomlValue} (each : ∀ v ∈ items, Undated v) : Undated (.array items)
  | headed {items : List TomlValue} (each : ∀ v ∈ items, Undated v) : Undated (.headed items)
  | table {members : List (String × TomlValue)} (first : dateEntry? members = none)
    (each : ∀ m ∈ members, Undated m.2) : Undated (.table members)

namespace TomlValue

theorem settledItems?_eq_self {items : List TomlValue} (each : ∀ v ∈ items, v.settled? = some v) :
    settledItems? items = some items := by
  induction items with
  | nil => rfl
  | cons v rest ih =>
    obtain ⟨first, later⟩ := List.forall_mem_cons.mp each
    rw [settledItems?, first, ih later]
    rfl

theorem settledMembers?_eq_self {members : List (String × TomlValue)}
    (each : ∀ m ∈ members, m.2.settled? = some m.2) : settledMembers? members = some members := by
  induction members with
  | nil => rfl
  | cons m rest ih =>
    obtain ⟨first, later⟩ := List.forall_mem_cons.mp each
    rw [settledMembers?, first, ih later]
    rfl

theorem Undated.settled? {v : TomlValue} (undated : v.Undated) : v.settled? = some v := by
  induction undated with
  | string | integer | float | boolean | datetime => rfl
  | array _ ih => rw [TomlValue.settled?, settledItems?_eq_self ih, Option.map_some]
  | headed _ ih => rw [TomlValue.settled?, settledItems?_eq_self ih, Option.map_some]
  | table first _ ih =>
    rw [TomlValue.settled?, first, settledMembers?_eq_self ih, Option.map_some]

end TomlValue

namespace InterfaceRequest

def ofValue : TomlValue → InterfaceRequest
  | .string s => .name s
  | v => .invalid v.kind

theorem ofToml_of_settled {v w : TomlValue} (settled : v.settled? = some w) :
    ofToml v = .ok (ofValue w) := by
  rw [ofToml, settled]
  cases w <;> rfl

theorem ofToml_ne_ok {v : TomlValue} (unsettled : v.settled? = none) (request : InterfaceRequest) :
    ofToml v ≠ .ok request := by
  rw [ofToml, unsettled]
  exact fun same => by cases same

end InterfaceRequest

namespace CaptureSettings

def ask (request : InterfaceRequest) (s : CaptureSettings) : CaptureSettings :=
  { s with interface := some request }

theorem apart_ask {request : InterfaceRequest} (key : String) (v : TomlValue) (other : key ≠ "interface") :
    Toml.Apart (ask request) (setField key v) :=
  .ite_else (by simpa using other) <|
    .ite (.bind fun _ _ => rfl) (.ite (.bind fun _ _ => rfl) (.ite (.bind fun _ _ => rfl) .const))

variable {before after : List (String × TomlValue)} {v w : TomlValue}

theorem ofToml_ask {s : CaptureSettings} (others : ∀ entry ∈ after, entry.1 ≠ "interface")
    (settled : v.settled? = some w) (found : ofToml (.table (before ++ [] ++ after)) = .ok s) :
    ofToml (.table (before ++ [("interface", v)] ++ after)) = .ok (s.ask (.ofValue w)) := by
  refine Toml.record_update apart_ask ?_ others found
  intro a b nothing
  cases nothing
  rw [Toml.setKnown_singleton (by decide)]
  exact bind_eq_ok.mpr ⟨_, InterfaceRequest.ofToml_of_settled settled, rfl⟩

theorem ofToml_ne_ok (unsettled : v.settled? = none) (s : CaptureSettings) :
    ofToml (.table (before ++ [("interface", v)] ++ after)) ≠ .ok s := by
  refine Toml.record_ne_ok (by decide) ?_ s
  intro a b found
  obtain ⟨request, first, _⟩ := bind_eq_ok.mp found
  exact InterfaceRequest.ofToml_ne_ok unsettled request first

end CaptureSettings

namespace Config

def ask (request : InterfaceRequest) (c : Config) : Config :=
  { c with capture := c.capture.ask request }

theorem apart_ask {request : InterfaceRequest} (key : String) (v : TomlValue) (other : key ≠ "capture") :
    Toml.Apart (ask request) (setField key v) :=
  .ite_else (by simpa using other) <|
    .ite (.bind fun _ _ => rfl) (.ite (.bind fun _ _ => rfl) (.ite (.bind fun _ _ => rfl) .const))

def around (before inner inner' after entries : List (String × TomlValue)) : List (String × TomlValue) :=
  before ++ [("capture", .table (inner ++ entries ++ inner'))] ++ after

variable {before inner inner' after : List (String × TomlValue)} {v w : TomlValue}

theorem ofToml_ask {c : Config} (others : ∀ entry ∈ after, entry.1 ≠ "capture")
    (others' : ∀ entry ∈ inner', entry.1 ≠ "interface") (settled : v.settled? = some w)
    (found : ofToml (.table (around before inner inner' after [])) = .ok c) :
    ofToml (.table (around before inner inner' after [("interface", v)])) = .ok (c.ask (.ofValue w)) := by
  refine Toml.record_update apart_ask ?_ others found
  intro a b found
  rw [Toml.setKnown_singleton (by decide)] at found ⊢
  obtain ⟨s, first, same⟩ := bind_eq_ok.mp found
  cases same
  exact bind_eq_ok.mpr ⟨_, CaptureSettings.ofToml_ask others' settled first, rfl⟩

theorem ofToml_ne_ok (unsettled : v.settled? = none) (c : Config) :
    ofToml (.table (around before inner inner' after [("interface", v)])) ≠ .ok c := by
  refine Toml.record_ne_ok (by decide) ?_ c
  intro a b found
  obtain ⟨s, first, _⟩ := bind_eq_ok.mp found
  exact CaptureSettings.ofToml_ne_ok unsettled s first

/-! ## Files -/

/-- A configuration is what is read from a tree of values and from every text of it. -/
def ReadFrom (c : Config) (members : List (String × TomlValue)) : Prop :=
  ofToml (.table members) = .ok c ∧ ∀ text read, Toml.document? text = some read →
    Toml.Located.memberValues read = members → ofText text = .ok c

def Unreadable (members : List (String × TomlValue)) : Prop :=
  (∀ c, ofToml (.table members) ≠ .ok c) ∧ ∀ text read, Toml.document? text = some read →
    Toml.Located.memberValues read = members → ∀ c, ofText text ≠ .ok c

theorem readFrom_of_ofToml {c : Config} {members : List (String × TomlValue)}
    (found : ofToml (.table members) = .ok c) : c.ReadFrom members := by
  refine ⟨found, ?_⟩
  rintro text read document rfl
  exact ofText_of_ofToml document found

theorem unreadable_of_ofToml {members : List (String × TomlValue)}
    (refused : ∀ c, ofToml (.table members) ≠ .ok c) : Unreadable members := by
  refine ⟨refused, ?_⟩
  rintro text read document rfl c found
  obtain ⟨read', document', decoded⟩ := ofToml_of_ofText found
  cases document.symm.trans document'
  exact refused c decoded

/-- A file that is a part of what a configuration is written as is read as what is kept of it. And
whatever is put for the interface into a file that is read without it is taken as a name or kept by its
kind; only a table that has the key of a date and tells none makes the file unreadable. -/
theorem files_overlay_defaults (c : Config) (file : List (String × TomlValue)) :
    (∀ members kept, c.toToml = .ok members → PartOf kept members file → (c.keep kept).ReadFrom file) ∧
    ∀ before inner inner' after, file = around before inner inner' after [] →
      (∀ entry ∈ after, entry.1 ≠ "capture") → (∀ entry ∈ inner', entry.1 ≠ "interface") →
      ofToml (.table file) = .ok c → ∀ v : TomlValue,
        (∀ w, v.settled? = some w →
          (c.ask (.ofValue w)).ReadFrom (around before inner inner' after [("interface", v)])) ∧
        (v.settled? = none → Unreadable (around before inner inner' after [("interface", v)])) ∧
        (v.Undated → v.settled? = some v) := by
  constructor
  · intro members kept written part
    exact readFrom_of_ofToml (ofToml_of_partOf written part)
  · rintro before inner inner' after rfl others others' found v
    exact ⟨fun w settled => readFrom_of_ofToml (ofToml_ask others others' settled found),
      fun unsettled => unreadable_of_ofToml (ofToml_ne_ok unsettled), TomlValue.Undated.settled?⟩

theorem files_overlay_defaults_of_part :
    let length (members : List (String × TomlValue)) : TomlValue :=
      .table [("not", .table [("length", .table members)])]
    let entry : TomlValue := .table [("name", .string "short"), ("note", .integer 1),
      ("rule", length [("unit", .string "bytes"), ("min", .integer 64)])]
    let file := around [("theme", .boolean true), ("filters", .headed [entry])]
      [("promiscuous", .boolean false)] [("color", .boolean true)] []
    let read : Config :=
      { capture := { promiscuous := false }, filters := [⟨"short", .not (.length { min := some 64 })⟩] }
    read.ReadFrom (file []) ∧
      (read.ask (.name "eth0")).ReadFrom (file [("interface", .string "eth0")]) ∧
      (read.ask (.invalid "table")).ReadFrom (file [("interface", .table [("name", .string "eth0")])]) ∧
      Unreadable (file [("interface", .table [(TomlValue.dateKey, .integer 3)])]) := by
  intro length entry file read
  let c : Config := { read with
    capture := { promiscuous := false, snaplen := 96 }, queue := { capacity := 8 } }
  let kept : Kept := ⟨(· ∈ ["capture", "filters"]), (· = "promiscuous"), fun _ => true, fun _ => true⟩
  let capture : List (String × TomlValue) := [("promiscuous", .boolean false),
    ("snaplen", .integer 96), ("read_timeout_ms", .integer 100)]
  let plain : TomlValue := .table [("name", .string "short"), ("rule", length [("min", .integer 64)])]
  have range : LengthRange.Widened [("min", .integer 64)]
      [("unit", .string "bytes"), ("min", .integer 64)] := by
    constructor <;> simp [unchanged]
  have rule : FilterRule.Widened (length [("min", .integer 64)])
      (length [("unit", .string "bytes"), ("min", .integer 64)]) := .part rfl (.length rfl range)
  have widened : NamedRule.Widened plain entry := by
    refine .entry ?_
    constructor <;> simp [NamedRule.MayStand, rule]
  have captured : MayStand kept "capture" (.table capture)
      (.table [("promiscuous", .boolean false), ("color", .boolean true)]) := by
    refine .capture ?_
    constructor <;> simp [unchanged, kept, capture]
  have filters : MayStand kept "filters" (.array [plain]) (.headed [entry]) :=
    .filters (.cons widened .nil) (.inr rfl)
  have part : PartOf kept [("capture", .table capture),
      ("queue", .table [("capacity", .integer 8), ("drop_strategy", .string "drop_oldest")]),
      ("filters", .array [plain]), ("logging", c.logging.toToml)] (file []) := by
    have left : kept.sections "capture" = true ∧ kept.sections "filters" = true := by decide
    constructor
    · simp [kept, file, around]
    · simp [file, around, left, captured, filters]
  have whole : read.ReadFrom (file []) := (files_overlay_defaults c (file [])).1 _ kept rfl part
  have asked := (files_overlay_defaults read (file [])).2 _ _ _ _ rfl (by simp) (by simp) whole.1
  exact ⟨whole, (asked (.string "eth0")).1 _ rfl,
    (asked (.table [("name", .string "eth0")])).1 _ rfl,
    (asked (.table [(TomlValue.dateKey, .integer 3)])).2.1 rfl⟩

/-- A text whose interface is a table that has the key of a date and a number under it. -/
theorem unreadable_interface :
    let text := "[capture]\ninterface = \x7b \"$__toml_private_datetime\" = 3 \x7d\n"
    (∃ read, Toml.document? text = some read ∧ (TomlValue.table (Toml.Located.memberValues read)).plain =
        .table [("capture", .table [("interface", .table [(TomlValue.dateKey, .integer 3)])])]) ∧
      ∀ c, ofText text ≠ .ok c := by
  intro text
  have document : (Toml.document? text).any (fun read =>
      (TomlValue.table (Toml.Located.memberValues read)).agree
        (.table (around [] [] [] [] [("interface", .table [(TomlValue.dateKey, .integer 3)])]))) = true := by
    decide +kernel
  have refused : (ofText text).toOption.isNone = true := by decide +kernel
  constructor
  · obtain ⟨read, parsed, same⟩ := (Option.any_eq_true _ _).mp document
    exact ⟨read, parsed, TomlValue.plain_of_agree _ _ same⟩
  · intro c found
    rw [found] at refused
    cases refused

end Config
end CaptureQueue
