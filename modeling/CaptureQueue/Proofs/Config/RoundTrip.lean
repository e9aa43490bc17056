import CaptureQueue.Proofs.Filter.RoundTrip

/-! A configuration is read back from what it is written as, however its lists of tables are laid
out. Only a request for an interface that is no name and numbers too large cannot be written. -/

set_option autoImplicit false
namespace CaptureQueue

open Toml.Decode (within_eq_ok Steady)

/-! ## Sections -/

namespace NamedRule

theorem exists_toToml_iff {f : NamedRule} :
    (∃ v, f.toToml = .ok v) ↔ ∀ n ∈ f.rule.bounds, n ≤ Toml.largest := by
  rw [← FilterRule.exists_toToml_iff]
  exact Toml.exists_map_iff

theorem ofToml_toToml {f : NamedRule} {v : TomlValue} (written : f.toToml = .ok v) :
    ofToml v = .ok f := by
  obtain ⟨rule, first, same⟩ := bind_eq_ok.mp written
  cases same
  have both : Toml.Decode.record "FilterConfig" ["name", "rule"] setField {}
      (.table [("name", .string f.name), ("rule", rule)]) = .ok ⟨some f.name, some f.rule⟩ := by
    refine Toml.record_eq_ok (by simp) ?_
    simp [setField, Toml.Decode.string, FilterRule.ofToml_toToml f.rule rule first, bind,
      Except.bind, pure, Except.pure]
  exact bind_eq_ok.mpr ⟨_, both, rfl⟩

theorem steady_ofToml : Steady ofToml := by
  have fields : Steady (Toml.Decode.record "FilterConfig" ["name", "rule"] setField {}) :=
    .record fun _ _ => .ite (.bind (.string _)) (.ite (.bind FilterRule.steady_ofToml) (.const _))
  intro v f found
  obtain ⟨p, first, found⟩ := bind_eq_ok.mp found
  refine bind_eq_ok.mpr ⟨p, fields v p first, ?_⟩
  match p, found with
  | ⟨some _, some _⟩, found => exact found
  | ⟨none, _⟩, found | ⟨some _, none⟩, found =>
    dsimp only at found
    split at found <;> cases found

theorem plain_toToml (f : NamedRule) (v : TomlValue) (written : f.toToml = .ok v) :
    v.plain = v := by
  obtain ⟨rule, first, same⟩ := bind_eq_ok.mp written
  cases same
  simp [TomlValue.plain, TomlValue.plainMembers, FilterRule.plain_toToml f.rule rule first]

end NamedRule

namespace InterfaceRequest

theorem steady_ofToml : Steady ofToml := by
  intro v request found
  rw [ofToml, TomlValue.settled?_plain] at found
  rw [ofToml]
  cases settled : v.settled? with
  | none => rw [settled] at found; cases found
  | some w =>
    rw [settled] at found
    cases w <;> exact found

end InterfaceRequest

namespace CaptureSettings

theorem toToml_eq_ok {s : CaptureSettings} {v : TomlValue} :
    s.toToml = .ok v ↔ ∃ interface snaplen readTimeout,
      Toml.optionalEntry "interface" InterfaceRequest.toToml s.interface = .ok interface ∧
      Toml.natural s.snaplen = .ok snaplen ∧ Toml.natural s.readTimeout = .ok readTimeout ∧
      .table (interface ++ [("promiscuous", .boolean s.promiscuous), ("snaplen", snaplen),
        ("read_timeout_ms", readTimeout)]) = v := by
  simp [toToml, bind_eq_ok, pure, Except.pure]

theorem exists_toToml_iff {s : CaptureSettings} :
    (∃ v, s.toToml = .ok v) ↔ (∀ found, s.interface ≠ some (.invalid found)) ∧
      s.snaplen ≤ Toml.largest ∧ s.readTimeout ≤ Toml.largest := by
  have named : (∃ entries, Toml.optionalEntry "interface" InterfaceRequest.toToml s.interface =
      .ok entries) ↔ ∀ found, s.interface ≠ some (.invalid found) := by
    rw [Toml.exists_optionalEntry_iff]
    match s.interface with
    | none => simp
    | some (.name _) => simp [InterfaceRequest.toToml]
    | some (.invalid _) => simp [InterfaceRequest.toToml]
  rw [← named]
  constructor
  · rintro ⟨v, written⟩
    obtain ⟨entries, _, _, first, second, third, _⟩ := toToml_eq_ok.mp written
    exact ⟨⟨entries, first⟩, (Toml.natural_eq_ok.mp second).1, (Toml.natural_eq_ok.mp third).1⟩
  · rintro ⟨⟨entries, first⟩, second, third⟩
    exact ⟨_, toToml_eq_ok.mpr ⟨entries, _, _, first, Toml.natural_eq_ok.mpr ⟨second, rfl⟩,
      Toml.natural_eq_ok.mpr ⟨third, rfl⟩, rfl⟩⟩

theorem ofToml_toToml {s : CaptureSettings} {v : TomlValue} (written : s.toToml = .ok v) :
    ofToml v = .ok s := by
  obtain ⟨entries, snaplen, readTimeout, first, second, third, rfl⟩ := toToml_eq_ok.mp written
  refine Toml.record_eq_ok ?_ ?_
  · intro entry member
    rcases List.mem_append.mp member with member | member
    · rw [Toml.key_of_mem_optionalEntry first member]
      decide
    · simp only [List.mem_cons, List.not_mem_nil, or_false] at member
      rcases member with rfl | rfl | rfl <;> simp
  · have asked := Toml.foldlM_optionalEntry setField {}
      (fun request => { interface := some request }) first fun request v encoded => by
        cases request with
        | invalid _ => cases encoded
        | name _ =>
          cases encoded
          rfl
    rw [List.foldlM_append, asked]
    have rest := Toml.decode_natural second "usize"
    have wait := Toml.decode_natural third "u64"
    obtain ⟨interface, promiscuous, _, _⟩ := s
    cases interface <;>
      simp_all [setField, Toml.Decode.boolean, Toml.Decode.size, Toml.Decode.word64, bind,
        Except.bind, pure, Except.pure]

theorem steady_ofToml : Steady ofToml := Steady.record fun _ _ =>
  .ite (.bind InterfaceRequest.steady_ofToml) (.ite (.bind .boolean)
    (.ite (.bind (.natural _ _)) (.ite (.bind (.natural _ _)) (.const _))))

theorem plain_toToml {s : CaptureSettings} {v : TomlValue}
    (written : s.toToml = .ok v) : v.plain = v := by
  obtain ⟨entries, snaplen, readTimeout, first, second, third, rfl⟩ := toToml_eq_ok.mp written
  have names (request : InterfaceRequest) (v : TomlValue) (encoded : request.toToml = .ok v) :
      v.plain = v := by
    cases request <;> cases encoded
    rfl
  simp [TomlValue.plain, TomlValue.plainMembers, TomlValue.plainMembers_append,
    Toml.plain_optionalEntry names first, Toml.plain_natural second, Toml.plain_natural third]

end CaptureSettings

namespace QueueSettings

theorem exists_toToml_iff {s : QueueSettings} :
    (∃ v, s.toToml = .ok v) ↔ s.capacity ≤ Toml.largest := by
  rw [QueueSettings.toToml, Toml.exists_map_iff]
  simp [Toml.natural_eq_ok]

theorem ofToml_toToml {s : QueueSettings} {v : TomlValue} (written : s.toToml = .ok v) :
    ofToml v = .ok s := by
  obtain ⟨capacity, first, same⟩ := bind_eq_ok.mp written
  cases same
  have size := Toml.decode_natural first "usize"
  have decision : DropDecision.ofToml (.string s.dropStrategy.name) = .ok s.dropStrategy := by
    cases s.dropStrategy <;> rfl
  refine Toml.record_eq_ok (by simp) ?_
  simp [setField, Toml.Decode.size, size, decision, bind, Except.bind, pure, Except.pure]

theorem steady_ofToml : Steady ofToml := Steady.record fun _ _ =>
  .ite (.bind (.natural _ _)) (.ite (.bind (.bind (.nameOnly _))) (.const _))

theorem plain_toToml {s : QueueSettings} {v : TomlValue}
    (written : s.toToml = .ok v) : v.plain = v := by
  obtain ⟨capacity, first, same⟩ := bind_eq_ok.mp written
  cases same
  simp [TomlValue.plain, TomlValue.plainMembers, Toml.plain_natural first]

end QueueSettings

namespace LoggingSettings

theorem ofToml_toToml (s : LoggingSettings) : ofToml s.toToml = .ok s := by
  obtain ⟨level, file, jsonFormat⟩ := s
  refine Toml.record_eq_ok ?_ ?_ <;> cases file <;>
    simp [setField, Toml.Decode.string, Toml.Decode.boolean, bind, Except.bind, pure, Except.pure]

theorem steady_ofToml : Steady ofToml := Steady.record fun _ _ =>
  .ite (.bind (.string _)) (.ite (.bind (.string _)) (.ite (.bind .boolean) (.const _)))

theorem plain_toToml (s : LoggingSettings) : s.toToml.plain = s.toToml := by
  obtain ⟨level, file, jsonFormat⟩ := s
  cases file <;> rfl

end LoggingSettings

/-! ## The whole configuration -/

namespace Toml

section

variable {α : Type} {encode : α → Except EncodeError TomlValue} {decode : Decode.Decoder α}

theorem mapM_cons_eq_ok {a : α} {as : List α} {vs : List TomlValue} :
    (a :: as).mapM encode = .ok vs ↔
      ∃ v rest, encode a = .ok v ∧ as.mapM encode = .ok rest ∧ v :: rest = vs := by
  simp [List.mapM_cons, bind_eq_ok, pure, Except.pure]

theorem exists_mapM_iff {as : List α} :
    (∃ vs, as.mapM encode = .ok vs) ↔ ∀ a ∈ as, ∃ v, encode a = .ok v := by
  induction as with
  | nil => simp [pure, Except.pure]
  | cons a as ih =>
    rw [List.forall_mem_cons, ← ih]
    constructor
    · rintro ⟨_, written⟩
      obtain ⟨v, vs, first, later, _⟩ := mapM_cons_eq_ok.mp written
      exact ⟨⟨v, first⟩, vs, later⟩
    · rintro ⟨⟨v, first⟩, vs, later⟩
      exact ⟨_, mapM_cons_eq_ok.mpr ⟨v, vs, first, later, rfl⟩⟩

theorem itemsFrom_mapM (each : ∀ a v, encode a = .ok v → decode v = .ok a) {as : List α}
    {vs : List TomlValue} (written : as.mapM encode = .ok vs) (index : Nat) :
    Decode.itemsFrom decode index vs = .ok as := by
  induction as generalizing vs index with
  | nil =>
    cases written
    rfl
  | cons a as ih =>
    obtain ⟨v, rest, first, later, rfl⟩ := mapM_cons_eq_ok.mp written
    exact bind_eq_ok.mpr ⟨a, within_eq_ok.mpr (each a v first),
      bind_eq_ok.mpr ⟨as, ih later (index + 1), rfl⟩⟩

theorem plain_mapM (each : ∀ a v, encode a = .ok v → v.plain = v) {as : List α} {vs : List TomlValue}
    (written : as.mapM encode = .ok vs) : TomlValue.plainItems vs = vs := by
  induction as generalizing vs with
  | nil =>
    cases written
    rfl
  | cons a as ih =>
    obtain ⟨v, rest, first, later, rfl⟩ := mapM_cons_eq_ok.mp written
    rw [TomlValue.plainItems, each a v first, ih later]

end

/-- Whether the text of a document is read back as that document, but for the layout of arrays. -/
def Faithful (members : List (String × TomlValue)) : Prop :=
  ∃ read, document? (print members) = some read ∧
    (TomlValue.table (Located.memberValues read)).plain = (TomlValue.table members).plain

theorem faithful_of_agree {members : List (String × TomlValue)}
    (same : (document? (print members)).any (fun read =>
      (TomlValue.table (Located.memberValues read)).agree (.table members)) = true) :
    Faithful members := by
  unfold Faithful
  generalize document? (print members) = read? at same
  match read?, same with
  | some read, same => exact ⟨read, rfl, TomlValue.plain_of_agree _ _ same⟩

end Toml

namespace Config

def numbers (c : Config) : List Nat :=
  [c.capture.snaplen, c.capture.readTimeout, c.queue.capacity] ++
    c.filters.flatMap (·.rule.bounds)

theorem toToml_eq_ok {c : Config} {members : List (String × TomlValue)} :
    c.toToml = .ok members ↔ ∃ capture queue filters,
      c.capture.toToml = .ok capture ∧ c.queue.toToml = .ok queue ∧
      c.filters.mapM NamedRule.toToml = .ok filters ∧
      [("capture", capture), ("queue", queue)] ++
        (if filters.isEmpty then [] else [("filters", .array filters)]) ++
        [("logging", c.logging.toToml)] = members := by
  simp [toToml, bind_eq_ok, pure, Except.pure]

theorem exists_toToml_iff {c : Config} :
    (∃ members, c.toToml = .ok members) ↔
      (∀ found, c.capture.interface ≠ some (.invalid found)) ∧ ∀ n ∈ c.numbers, n ≤ Toml.largest := by
  have filters : (∃ vs, c.filters.mapM NamedRule.toToml = .ok vs) ↔
      ∀ n ∈ c.filters.flatMap (·.rule.bounds), n ≤ Toml.largest := by
    simp only [Toml.exists_mapM_iff, NamedRule.exists_toToml_iff, List.mem_flatMap,
      forall_exists_index, and_imp]
    exact ⟨fun h n f member => h f member n, fun h f member n => h n f member⟩
  rw [numbers, List.forall_mem_append, ← filters]
  simp only [List.forall_mem_cons, List.not_mem_nil, false_imp_iff, implies_true, and_true]
  constructor
  · rintro ⟨_, written⟩
    obtain ⟨capture, queue, vs, first, second, third, _⟩ := toToml_eq_ok.mp written
    obtain ⟨named, snaplen, readTimeout⟩ := CaptureSettings.exists_toToml_iff.mp ⟨capture, first⟩
    exact ⟨named, ⟨snaplen, readTimeout, QueueSettings.exists_toToml_iff.mp ⟨queue, second⟩⟩, vs, third⟩
  · rintro ⟨named, ⟨snaplen, readTimeout, capacity⟩, vs, third⟩
    obtain ⟨capture, first⟩ := CaptureSettings.exists_toToml_iff.mpr ⟨named, snaplen, readTimeout⟩
    obtain ⟨queue, second⟩ := QueueSettings.exists_toToml_iff.mpr capacity
    exact ⟨_, toToml_eq_ok.mpr ⟨capture, queue, vs, first, second, third, rfl⟩⟩

theorem ofToml_toToml {c : Config} {members : List (String × TomlValue)}
    (written : c.toToml = .ok members) : ofToml (.table members) = .ok c := by
  obtain ⟨capture, queue, vs, first, second, third, rfl⟩ := toToml_eq_ok.mp written
  have items := Toml.itemsFrom_mapM (fun _ _ => NamedRule.ofToml_toToml) third 0
  refine Toml.record_eq_ok (by cases vs <;> simp) ?_
  have readCapture : setField "capture" capture {} = .ok { capture := c.capture } := by
    simp [setField, CaptureSettings.ofToml_toToml first, bind, Except.bind, pure, Except.pure]
  have readQueue : setField "queue" queue { capture := c.capture } =
      .ok { capture := c.capture, queue := c.queue } := by
    simp [setField, QueueSettings.ofToml_toToml second, bind, Except.bind, pure, Except.pure]
  -- Without filters nothing is written for them, and the list keeps its default.
  have readFilters : (if vs.isEmpty then [] else [("filters", TomlValue.array vs)]).foldlM
      (fun c entry => setField entry.1 entry.2 c) { capture := c.capture, queue := c.queue } =
        .ok { c with logging := {} } := by
    cases vs with
    | nil => rw [← Except.ok.inj items]; rfl
    | cons v vs => simp [setField, Toml.Decode.sequence, items, bind, Except.bind, pure, Except.pure]
  have readLogging : setField "logging" c.logging.toToml { c with logging := {} } = .ok c := by
    simp [setField, LoggingSettings.ofToml_toToml, bind, Except.bind, pure, Except.pure]
  simp only [List.foldlM_append, List.foldlM_cons, List.foldlM_nil, readCapture, readQueue,
    readFilters, readLogging, bind, Except.bind, pure, Except.pure]

theorem steady_ofToml : Steady ofToml := Steady.record fun _ _ =>
  .ite (.bind CaptureSettings.steady_ofToml) (.ite (.bind QueueSettings.steady_ofToml)
    (.ite (.bind NamedRule.steady_ofToml.sequence) (.ite (.bind LoggingSettings.steady_ofToml)
      (.const _))))

theorem plain_toToml {c : Config} {members : List (String × TomlValue)}
    (written : c.toToml = .ok members) : TomlValue.plainMembers members = members := by
  obtain ⟨capture, queue, vs, first, second, third, rfl⟩ := toToml_eq_ok.mp written
  have items := Toml.plain_mapM NamedRule.plain_toToml third
  cases vs <;>
    simp [TomlValue.plain, TomlValue.plainMembers, items,
      CaptureSettings.plain_toToml first, QueueSettings.plain_toToml second,
      LoggingSettings.plain_toToml]

theorem ofToml_of_plain {c : Config} {members : List (String × TomlValue)}
    (written : c.toToml = .ok members) {v : TomlValue} (same : v.plain = (TomlValue.table members).plain) :
    ofToml v = .ok c := by
  refine steady_ofToml v c ?_
  rw [same, TomlValue.plain, plain_toToml written, ofToml_toToml written]

theorem ofText_of_ofToml {s : String} {read : List (Toml.Key × Toml.Located)} {c : Config}
    (document : Toml.document? s = some read)
    (found : ofToml (.table (Toml.Located.memberValues read)) = .ok c) : ofText s = .ok c := by
  unfold ofText
  rw [document]
  dsimp only
  rw [found]

theorem toText_eq_ok {c : Config} {s : String} :
    c.toText = .ok s ↔ ∃ members, c.toToml = .ok members ∧ Toml.print members = s := by
  simp [toText, bind_eq_ok, pure, Except.pure]

/-- A configuration is written unless its interface is no name or one of its numbers is too large,
and what is written stands for that configuration, in every layout of its arrays. -/
theorem round_trip (c : Config) :
    ((∃ e, c.toText = .error e) ↔
      (∃ found, c.capture.interface = some (.invalid found)) ∨ ∃ n ∈ c.numbers, Nat.pow 2 63 - 1 < n) ∧
    ∀ text, c.toText = .ok text → ∃ members,
      c.toToml = .ok members ∧ text = Toml.print members ∧
      (∀ v : TomlValue, v.plain = (TomlValue.table members).plain → ofToml v = .ok c) ∧
      (Toml.Faithful members → ofText text = .ok c) := by
  constructor
  · have fails : (∃ e, c.toText = .error e) ↔ ¬ ∃ members, c.toToml = .ok members := by
      rw [toText]
      cases c.toToml <;> simp [bind, Except.bind, pure, Except.pure]
    rw [fails, exists_toToml_iff, Classical.not_and_iff_not_or_not]
    simp [Toml.largest]
  · intro text written
    obtain ⟨members, first, rfl⟩ := toText_eq_ok.mp written
    refine ⟨members, first, rfl, fun v same => ofToml_of_plain first same, ?_⟩
    rintro ⟨read, document, same⟩
    exact ofText_of_ofToml document (ofToml_of_plain first same)

/-- A filter whose rule rules out what has any length. -/
theorem round_trip_of_nested :
    let c : Config := { filters := [⟨"a", .not (.length {})⟩] }
    ∃ text, c.toText = .ok text ∧ ofText text = .ok c := by
  intro c
  have written : ∃ members, c.toToml = .ok members ∧ Toml.Faithful members :=
    ⟨_, rfl, Toml.faithful_of_agree (by decide +kernel)⟩
  obtain ⟨members, first, faithful⟩ := written
  obtain ⟨_, same, _, _, back⟩ := (round_trip c).2 _ (toText_eq_ok.mpr ⟨members, first, rfl⟩)
  cases first.symm.trans same
  exact ⟨_, toText_eq_ok.mpr ⟨members, first, rfl⟩, back faithful⟩

end Config
end CaptureQueue
