import CaptureQueue.Program
import CaptureQueue.Proofs.CommandLine.Mentions

/-! Which records are logged, how and where to: what the options of a command line say, and what a
configuration file says where they say nothing. -/

set_option autoImplicit false
namespace CaptureQueue

/-! ## The arguments of a grammar -/

namespace CommandLine

variable {c : Command} {a : Argument}

theorem mem_outlines {path : List String} {inherited : List Argument} {s : Station}
    {commands : List Command} (member : c ∈ commands) (met : s ∈ outline path inherited c) :
    s ∈ outlines path inherited commands := by
  induction commands with
  | nil => cases member
  | cons first rest ih =>
    rw [outlines, List.mem_append]
    rcases List.mem_cons.mp member with rfl | later
    · exact .inl met
    · exact .inr (ih later)

/-- All arguments of a grammar are met in its outline. -/
theorem Command.Declares.exists_station (h : c.Declares a) (path : List String)
    (inherited : List Argument) : ∃ s ∈ outline path inherited c, a ∈ s.command.arguments := by
  induction h generalizing path inherited with
  | @here c a own =>
    obtain ⟨name, about, arguments, subcommands⟩ := c
    exact ⟨_, by rw [outline]; exact List.mem_cons_self, own⟩
  | @under c sub a member _ ih =>
    obtain ⟨name, about, arguments, subcommands⟩ := c
    obtain ⟨s, met, own⟩ := ih _ _
    exact ⟨s, by rw [outline]; exact List.mem_cons_of_mem _ (mem_outlines member met), own⟩

end CommandLine

open CommandLine

/-! ## What a command line gives -/

namespace Invocation

variable {environment : String → Option String} {words : List String} {m : Matches} {name : String}

def HasEffect (name : String) (effect : Effect) : Prop :=
  ∀ s ∈ grammar.stations, ∀ a ∈ s.command.arguments, a.name = name → a.effect = effect

instance (name : String) (effect : Effect) : Decidable (HasEffect name effect) :=
  inferInstanceAs (Decidable (∀ s ∈ grammar.stations, ∀ a ∈ s.command.arguments, _ → _))

theorem verbose_effect : HasEffect "verbose" .count := by decide +kernel

theorem logFile_effect : HasEffect "log-file" (.value .text "FILE") := by decide +kernel

theorem logFormat_effect :
    HasEffect "log-format" (.value (.oneOf (LogFormat.all.map LogFormat.name)) "LOG_FORMAT") := by
  decide +kernel

theorem counts_of_stations {limit : Nat} (all : ∀ s ∈ grammar.stations, ∀ a ∈ s.command.arguments,
    name ∉ a.replaces ∧ (a.name = name → a.effect.limit? = some limit)) :
    grammar.Counts name limit := by
  intro a declared
  obtain ⟨s, met, own⟩ := declared.exists_station [] []
  exact all s met a own

theorem verbose_counts : grammar.Counts "verbose" Argument.countLimit :=
  counts_of_stations (by decide +kernel)

theorem quiet_counts : grammar.Counts "quiet" 1 := counts_of_stations (by decide +kernel)

theorem gives_of_flag {effect : Effect} (parsed : Matches.ofWords grammar environment words = .ok m)
    (only : HasEffect name effect) (given : m.flag name = true) :
    ∃ (a : Argument) (found : Given), a.effect = effect ∧ m.gifts.find? name = some found ∧
      a.Gives found.value := by
  obtain ⟨found, there⟩ := Option.isSome_iff_exists.mp given
  obtain ⟨a, declared, same, gives⟩ := Matches.sound_of_ofWords parsed _ (Gifts.mem_of_find? there)
  obtain ⟨s, met, own⟩ := declared.exists_station [] []
  exact ⟨a, found, only s met a own same, there, gives⟩

theorem number_of_flag (parsed : Matches.ofWords grammar environment words = .ok m)
    (only : HasEffect name .count) (given : m.flag name = true) :
    ∃ n, 0 < n ∧ m.number? name = some n := by
  obtain ⟨a, found, effect, there, gives⟩ := gives_of_flag parsed only given
  rw [Argument.Gives, effect] at gives
  obtain ⟨n, positive, _, value⟩ := gives
  obtain ⟨source, value'⟩ := found
  cases value
  exact ⟨n, positive, by rw [Matches.number?, there]⟩

theorem text_of_flag {label : String} (parsed : Matches.ofWords grammar environment words = .ok m)
    (only : HasEffect name (.value .text label)) (given : m.flag name = true) :
    ∃ s, m.text? name = some s := by
  obtain ⟨a, found, effect, there, gives⟩ := gives_of_flag parsed only given
  rw [Argument.Gives, effect] at gives
  obtain ⟨s, read⟩ := gives
  obtain ⟨source, value⟩ := found
  cases read
  exact ⟨s, by rw [Matches.text?, there]⟩

theorem choice_of_flag {label : String} {names : List String}
    (parsed : Matches.ofWords grammar environment words = .ok m)
    (only : HasEffect name (.value (.oneOf names) label)) (given : m.flag name = true) :
    ∃ s ∈ names, m.text? name = some s := by
  obtain ⟨a, found, effect, there, gives⟩ := gives_of_flag parsed only given
  rw [Argument.Gives, effect] at gives
  obtain ⟨s, read⟩ := gives
  obtain ⟨source, value⟩ := found
  rw [Argument.read] at read
  split at read <;> cases read
  case _ chosen => exact ⟨s, List.contains_iff_mem.mp chosen, by rw [Matches.text?, there]⟩

theorem find?_of_absent (absent : m.flag name = false) : m.gifts.find? name = none := by
  simpa [Matches.flag] using absent

theorem number?_of_absent (absent : m.flag name = false) : m.number? name = none := by
  rw [Matches.number?, find?_of_absent absent]

theorem text?_of_absent (absent : m.flag name = false) : m.text? name = none := by
  rw [Matches.text?, find?_of_absent absent]

theorem exists_matches {i : Invocation} (accepted : ofWords environment words = .ok i) :
    ∃ m, Matches.ofWords grammar environment words = .ok m ∧ i.globals = globalsOf m := by
  obtain ⟨m, parsed, accepted⟩ := bind_eq_ok.mp accepted
  cases asked : requestOf? m with
  | none =>
    rw [asked] at accepted
    cases accepted
  | some request =>
    rw [asked] at accepted
    cases accepted
    exact ⟨m, parsed, rfl⟩

end Invocation

theorem LogFormat.ofName?_name (f : LogFormat) : ofName? f.name = some f := by
  cases f <;> decide

/-! ## What is logged -/

namespace LogPlan

variable {o : GlobalOptions} {section? : Option LoggingSettings}

theorem of_ofOptions {filter : Option String} {p : LogPlan}
    (planned : ofOptions filter o section? = .ok p) :
    p.level = o.levelOver section? ∧ p.format = o.formatOver section? ∧
      p.file = o.fileOver section? := by
  obtain ⟨f, _, same⟩ := bind_eq_ok.mp planned
  cases same
  exact ⟨rfl, rfl, rfl⟩

/-- Where nothing else is said of the records to be logged, it goes by the level. -/
theorem ofOptions_none (o : GlobalOptions) (section? : Option LoggingSettings) :
    ofOptions none o section? = .ok {
      level := o.levelOver section?
      filter := ⟨[{ level := some (o.levelOver section?) }]⟩
      format := o.formatOver section?
      file := o.fileOver section? } := rfl

end LogPlan

namespace Program

variable {e : Surroundings} {w w' : Workplace} {words : List String} {i : Invocation} {p : LogPlan}

theorem run_of_plan (accepted : Invocation.ofWords e.environment words = .ok i)
    (planned : LogPlan.ofOptions e.logFilter i.globals (loggingSection e w i) = .ok p)
    (opened : ((openLog p).run.run w).value = (.ok (), w')) :
    (run e w words).format = p.format ∧ (run e w words).logFile = p.file ∧
      ∀ r ∈ (run e w words).records, p.filter.admits r = true := by
  have value : run e w words = { Ending.ofResult ((executeAloud e i).run.run w').value.2
      ((executeAloud e i).run.run w').value.1 with
        format := p.format
        records := ((executeAloud e i).run.run w').records.filter p.filter.admits
        logFile := p.file } := by
    rw [run, accepted]
    dsimp only
    rw [runInvocation, planned]
    dsimp only
    rw [opened]
  rw [value]
  exact ⟨rfl, rfl, fun r member => (List.mem_filter.mp member).2⟩

/-- A command line that is taken settles each setting of the log by itself, and the section of the
configuration file stands in where it says nothing: for the level without quiet and verbose, for the
file without a file. For the format it stands in without a format, and where the format given is text;
a format that is given is one of the choices, and any other goes before the section. Quiet and verbose
are given where the words name them, and verbose as often as the last command does that has it named.
The program logs by what is settled, and where nothing is said of the records, by the level alone. -/
theorem logging_settled (accepted : Invocation.ofWords e.environment words = .ok i)
    (section? : Option LoggingSettings) :
    ∃ m, CommandLine.Matches.ofWords Invocation.grammar e.environment words = .ok m ∧
      let times (name : String) := Invocation.grammar.timesNamed name words
      let level := i.globals.levelOver section?
      let format := i.globals.formatOver section?
      let file := i.globals.fileOver section?
      (m.flag "quiet" = decide (times "quiet" ≠ 0) ∧
        m.flag "verbose" = decide (times "verbose" ≠ 0) ∧
        m.number? "verbose" =
          if times "verbose" = 0 then none else some (min 255 (times "verbose"))) ∧
      (m.flag "quiet" = true → level = .error) ∧
      (m.flag "quiet" = false →
        (m.flag "verbose" = true → ∃ n, 0 < n ∧ m.number? "verbose" = some n ∧
          level = if n = 1 then .debug else .trace) ∧
        (m.flag "verbose" = false →
          level = (section?.bind fun s => Level.ofText? s.level).getD .info)) ∧
      (m.flag "log-format" = true → ∃ f : LogFormat, m.text? "log-format" = some f.name ∧
        (f ≠ .text → format = f)) ∧
      (m.flag "log-format" = false ∨ m.text? "log-format" = some "text" →
        format = if section?.any (·.jsonFormat) then .json else .text) ∧
      (m.flag "log-file" = true → ∃ path, m.text? "log-file" = some path ∧ file = some path) ∧
      (m.flag "log-file" = false → file = section?.bind (·.file)) ∧
      LogPlan.ofOptions none i.globals section? = .ok ⟨level, ⟨[{ level := some level }]⟩, format, file⟩ ∧
      (∀ filter p, LogPlan.ofOptions filter i.globals section? = .ok p →
        p.level = level ∧ p.format = format ∧ p.file = file) ∧
      ∀ w w' p, loggingSection e w i = section? →
        LogPlan.ofOptions e.logFilter i.globals section? = .ok p →
        ((openLog p).run.run w).value = (.ok (), w') →
        (run e w words).format = format ∧ (run e w words).logFile = file ∧
          ∀ r ∈ (run e w words).records, p.filter.admits r = true := by
  obtain ⟨m, parsed, globals⟩ := Invocation.exists_matches accepted
  refine ⟨m, parsed, ?_⟩
  rw [globals]
  refine ⟨?said, ?quiet, ?loud, ?format, ?standing, ?file, ?noFile, LogPlan.ofOptions_none _ section?,
    fun filter p => LogPlan.of_ofOptions, ?run⟩
  case said =>
    exact ⟨Matches.flag_of_ofWords Invocation.quiet_counts Nat.one_pos parsed,
      Matches.flag_of_ofWords Invocation.verbose_counts (by decide) parsed,
      Matches.number?_of_ofWords Invocation.verbose_counts (by decide) parsed⟩
  case quiet =>
    intro quiet
    simp [GlobalOptions.levelOver, Invocation.globalsOf, quiet]
  case loud =>
    intro loud
    refine ⟨fun verbose => ?_, fun absent => ?_⟩
    · obtain ⟨n, positive, counted⟩ := Invocation.number_of_flag parsed Invocation.verbose_effect verbose
      refine ⟨n, positive, counted, ?_⟩
      match n with
      | 1 | k + 2 => simp [GlobalOptions.levelOver, Invocation.globalsOf, loud, counted]
    · have none := Invocation.number?_of_absent absent
      simp [GlobalOptions.levelOver, Invocation.globalsOf, loud, none]
  case format =>
    intro given
    obtain ⟨s, chosen, told⟩ := Invocation.choice_of_flag parsed Invocation.logFormat_effect given
    obtain ⟨f, _, rfl⟩ := List.mem_map.mp chosen
    refine ⟨f, told, fun other => ?_⟩
    simp [GlobalOptions.formatOver, Invocation.globalsOf, told, LogFormat.ofName?_name, other]
  case standing =>
    intro silent
    have text : (Invocation.globalsOf m).logFormat = .text := by
      rcases silent with absent | told
      · have none := Invocation.text?_of_absent absent
        simp [Invocation.globalsOf, none]
      · simp [Invocation.globalsOf, told, show LogFormat.ofName? "text" = some .text by decide]
    simp [GlobalOptions.formatOver, text]
  case file =>
    intro given
    obtain ⟨path, told⟩ := Invocation.text_of_flag parsed Invocation.logFile_effect given
    exact ⟨path, told, by simp [GlobalOptions.fileOver, Invocation.globalsOf, told]⟩
  case noFile =>
    intro absent
    have none := Invocation.text?_of_absent absent
    simp [GlobalOptions.fileOver, Invocation.globalsOf, none]
  case run =>
    rintro w w' p rfl planned opened
    rw [← globals] at planned ⊢
    obtain ⟨format, file, admitted⟩ := run_of_plan accepted planned opened
    obtain ⟨_, format', file'⟩ := LogPlan.of_ofOptions planned
    exact ⟨format.trans format', file.trans file', admitted⟩

/-- Options for the gravity and the file, and a section that says something of everything. -/
theorem logging_settled_of_verbose :
    let e : Surroundings := {}
    let section? : Option LoggingSettings :=
      some { level := "warn", file := some "other.log", jsonFormat := true }
    ∃ i, Invocation.ofWords e.environment ["-v", "--log-file", "capq.log", "interfaces"] = .ok i ∧
      i.globals.levelOver section? = .debug ∧ i.globals.formatOver section? = .json ∧
      i.globals.fileOver section? = some "capq.log" := by
  intro e section?
  have accepted : Invocation.ofWords e.environment ["-v", "--log-file", "capq.log", "interfaces"] =
      .ok ⟨{ verbosity := 1, logFile := some "capq.log" }, .listAdapters false false⟩ := rfl
  refine ⟨_, accepted, ?_⟩
  obtain ⟨m, parsed, _, _, loud, _, standing, given, _⟩ := logging_settled accepted section?
  cases parsed
  obtain ⟨n, _, counted, level⟩ := (loud rfl).1 rfl
  obtain ⟨path, told, file⟩ := given rfl
  cases counted
  cases told
  exact ⟨level, standing (.inl rfl), file⟩

/-- The format of text, though it is asked for on the command line, gives way to the file. -/
theorem stated_text_overruled :
    let words := ["--log-format", "text", "config", "show"]
    let text := Bytes.ofText "[logging]\njson_format = true\n"
    ∃ m, CommandLine.Matches.ofWords Invocation.grammar (fun _ => none) words = .ok m ∧
      m.text? "log-format" = some LogFormat.text.name ∧
      (run {} { files := { files := [(["capq.toml"], text)] } } words).format = .json := by
  refine ⟨⟨["capq", "config", "show"], [("log-format", ⟨.words, .text "text"⟩)]⟩, rfl, rfl, ?_⟩
  decide +kernel

end Program
end CaptureQueue
