import DriverSurvey.CommandLine.Report
import DriverSurvey.Proofs.Loading
import DriverSurvey.Proofs.Scanning
/-!
# Exit — how a command line ends, and which libraries it opens

A run fails if the settings file that it was asked to use is refused, and then it has called nothing.  Any other run
ends well whatever the machine replies and however chance orders a snapshot, since no report has a way to fail, and it
opens no library but those that its settings name (`exit_of_run`).
-/
namespace DriverSurvey

open Program

/-! ## Libraries that are opened -/

/-- If the call opens a Vulkan loader, then under one of these names. -/
def Request.Within (names : List String) : Request → Prop
  | .openLoader name => name ∈ names
  | _ => True

/-- If the call opens a library, then under one of these names. -/
def NativeRequest.Within (names : List String) : NativeRequest → Prop
  | .openLibrary name => name ∈ names
  | _ => True

variable {names : List String}

theorem Request.Within.mono {more : List String} (h : names ⊆ more) {q : Request} (hq : q.Within names) :
    q.Within more := by
  cases q with
  | openLoader name => exact h hq
  | _ => trivial

theorem Request.Acquires.within {q : Request} (h : q.Acquires) : q.Within names := by
  rcases h with hbuilds | ⟨display, surface, context, rfl⟩
  · cases q <;> trivial
  · trivial

theorem Request.Asks.within {active : Active} {checked : Prop} {q : Request} (h : q.Asks active checked) :
    q.Within names := by
  cases h <;> trivial

theorem openFirst_within : ∀ {candidates : List String}, candidates ⊆ names →
    (Vulkan.openFirst candidates).Only (Request.Within names)
  | [], _ => only_pure _ _
  | name :: rest, h => by
    obtain ⟨hname, hrest⟩ := List.cons_subset.1 h
    refine (only_ask hname).bind fun opened => ?_
    split
    · exact only_pure _ _
    · exact openFirst_within hrest

theorem inspect_within (library : String) : (Vulkan.inspect library).Only (Request.Within names) := by
  refine (only_ask trivial).bind fun found => ?_
  split
  · exact (only_ask trivial).bind fun _ => only_pure _ _
  · exact only_pure _ _

theorem check_within (names : List String) : (Vulkan.check names).Only (Request.Within names) := by
  refine (openFirst_within (List.Subset.refl names)).bind fun library? => ?_
  cases library? with
  | none => exact only_pure _ _
  | some library =>
    exact (inspect_within library).bind fun _ => (only_ask trivial).bind fun _ => only_pure _ _

/-! ## Surveys -/

/-- A survey that opens Vulkan loaders under these names alone and ends in an answer that satisfies `post`. -/
def Survey.Keeps {α : Type} (names : List String) (post : α → Prop) (survey : Survey α) : Prop :=
  ∀ runtime : Runtime, (survey runtime).Keeps (Request.Within names) fun played => post played.1

namespace Survey

variable {α β : Type} {mid : α → Prop} {post : β → Prop}

theorem keeps_pure {b : β} (h : post b) : (pure b : Survey β).Keeps names post :=
  fun _ => h

theorem Keeps.bind {survey : Survey α} {f : α → Survey β} (h : survey.Keeps names mid)
    (hf : ∀ a, mid a → (f a).Keeps names post) : (survey >>= f).Keeps names post :=
  fun runtime => (h runtime).bind fun played hmid => hf played.1 hmid played.2

theorem keeps_lift {p : Program Calls α} (h : p.Only (Request.Within names)) :
    (liftM p : Survey α).Keeps names fun _ => True :=
  fun _ => h.keeps.bind fun _ _ => trivial

theorem keeps_stage : Survey.stage.Keeps names fun _ => True :=
  fun _ => trivial

theorem keeps_query (query : Query) : query.survey.Keeps names fun _ => True := by
  intro runtime
  refine ((acquire_acquires runtime).mono fun _ h => h.within).keeps.bind fun acquired _ => ?_
  obtain ⟨result, after⟩ := acquired
  cases result with
  | ok active => exact ((body_asks query active).mono fun _ h => h.within).keeps.bind fun _ _ => trivial
  | error fault => exact trivial

end Survey

theorem keeps_probe (maxExtensions : Nat) (snapshot : Snapshot Timing) :
    ∀ topic : Topic, (topic.probe names maxExtensions snapshot).Keeps names fun _ => True
  | .vulkan => (Survey.keeps_lift (check_within names)).bind fun _ _ => Survey.keeps_pure trivial
  | .renderer | .vendor | .version | .extensions | .displayVendor | .configuration | .memory | .maxTextureSize
  | .computeInvocations | .benchmark => (Survey.keeps_query _).bind fun _ _ => Survey.keeps_pure trivial

theorem keeps_probeAll (maxExtensions : Nat) : ∀ (order : List Topic) (snapshot : Snapshot Timing),
    (probeAll names maxExtensions snapshot order).Keeps names fun _ => True
  | [], _ => Survey.keeps_pure trivial
  | topic :: rest, snapshot =>
    (keeps_probe maxExtensions snapshot topic).bind fun after _ => keeps_probeAll maxExtensions rest after

theorem keeps_takeSnapshot (maxExtensions : Nat) (order : List Topic) :
    (takeSnapshot names maxExtensions order).Keeps names fun _ => True :=
  (keeps_probeAll maxExtensions order _).bind fun _ _ =>
    Survey.keeps_stage.bind fun _ _ => Survey.keeps_pure trivial

/-! ## Reports -/

namespace CommandLine

/-- **So many runs of the benchmark give so many lines**, numbered from the first run on. -/
theorem keeps_runLines : ∀ count run : Nat, (runLines run count).Keeps names fun lines =>
    ∃ timings : List Timing, timings.length = count ∧ lines = timings.mapIdx fun i timing => runLine (i + run) timing
  | 0, _ => Survey.keeps_pure ⟨[], rfl, rfl⟩
  | count + 1, run => by
    refine (Survey.keeps_query .benchmark).bind fun timing _ => (keeps_runLines count (run + 1)).bind ?_
    rintro _ ⟨timings, rfl, rfl⟩
    refine Survey.keeps_pure ⟨timing :: timings, rfl, ?_⟩
    have hnumber : (fun i timing => runLine (i + (run + 1)) timing) = fun i timing => runLine (i + 1 + run) timing := by
      funext i timing
      rw [Nat.add_right_comm, Nat.add_assoc]
    rw [List.mapIdx_cons, Nat.zero_add, hnumber]

/-- The command ended well, and a benchmark printed a line for each of its runs, in order. -/
def Command.Reported (command : Command) (outcome : Outcome) : Prop :=
  outcome.code = 0 ∧ ∀ runs, command = .benchmark runs → ∃ timings : List Timing,
    timings.length = max runs 1 ∧ outcome.out = timings.mapIdx fun i timing => runLine (i + 1) timing

theorem keeps_report (drivers : Bindings) (settings : Settings) (shuffle : Shuffle) : ∀ command : Command,
    (command.report drivers settings shuffle).Keeps settings.libraries.vulkan command.Reported
  | .snapshot pretty => (keeps_takeSnapshot _ _).bind fun _ _ => Survey.keeps_pure ⟨rfl, nofun⟩
  | .identity =>
    (Survey.keeps_query _).bind fun _ _ => (Survey.keeps_query _).bind fun _ _ => (Survey.keeps_query _).bind fun _ _ =>
      (Survey.keeps_query _).bind fun _ _ => (Survey.keeps_query _).bind fun _ _ =>
        (Survey.keeps_query _).bind fun _ _ => Survey.keeps_pure ⟨rfl, nofun⟩
  | .extensions | .memory => (Survey.keeps_query _).bind fun _ _ => Survey.keeps_pure ⟨rfl, nofun⟩
  | .limits =>
    (Survey.keeps_query _).bind fun _ _ => (Survey.keeps_query _).bind fun _ _ => (Survey.keeps_query _).bind fun _ _ =>
      Survey.keeps_pure ⟨rfl, nofun⟩
  | .benchmark runs => by
    refine (keeps_runLines (max runs 1) 1).bind ?_
    rintro _ ⟨timings, hlength, rfl⟩
    refine Survey.keeps_pure ⟨rfl, fun runs' hruns => ?_⟩
    cases hruns
    exact ⟨timings, hlength, rfl⟩
  | .vulkan => (Survey.keeps_lift (check_within _)).bind fun _ _ => Survey.keeps_pure ⟨rfl, nofun⟩

/-! ## Runs -/

theorem callEgl_within {α : Type} (drivers : Bindings) {absent : α} {entry : Entry} {read : entry.Reply → α} :
    (drivers.callEgl absent entry read).Only (NativeRequest.Within names) := by
  unfold Bindings.callEgl
  split
  · exact only_pure _ _
  · exact ⟨trivial, fun _ => trivial⟩

theorem callGles_within {α : Type} (drivers : Bindings) {absent : α} {entry : Entry} {read : entry.Reply → α} :
    (drivers.callGles absent entry read).Only (NativeRequest.Within names) := by
  unfold Bindings.callGles
  split
  · exact only_pure _ _
  · exact ⟨trivial, fun _ => trivial⟩

/-- **To route a call opens no library but that of the call.** -/
theorem route_within (drivers : Bindings) : ∀ {q : Request}, q.Within names →
    (drivers.route q).Only (NativeRequest.Within names)
  | .openLoader _, h => ⟨h, fun _ => trivial⟩
  | .findVersionEntry _, _ | .loaderVersion _, _ | .closeLoader _, _ => ⟨trivial, fun _ => trivial⟩
  | .integers _ 0, _ => trivial
  | .entryPoint name, _ => by
    unfold Bindings.route
    dsimp only
    split
    · exact only_pure _ _
    · exact callEgl_within drivers
  | .defaultDisplay, _ | .openDisplay _, _ | .bindApi, _ | .chooseConfig _ _, _ | .createSurface _ _, _
  | .createContext _ _ _, _ | .destroySurface _ _, _ | .makeCurrent _ _ _, _ | .displayText _ _, _
  | .configDepth _ _ _, _ | .indexedText _ _, _ => callEgl_within drivers
  | .integers _ (_ + 1), _ | .text _, _ | .error, _ | .clearColor _, _ | .clear _, _ | .finish, _ =>
    callGles_within drivers

/-- The names of all libraries that the settings name. -/
def libraryNames (settings : Settings) : List String :=
  settings.libraries.egl ++ settings.libraries.gles ++ settings.libraries.vulkan

/-- **A command carried out opens no library but those named, and reports.** -/
theorem keeps_perform (command : Command) (settings : Settings) (shuffle : Shuffle) :
    (command.perform settings shuffle).Keeps (NativeRequest.Within (libraryNames settings)) command.Reported := by
  have hload : (Bindings.load settings.libraries.egl settings.libraries.gles).Only
      (NativeRequest.Within (libraryNames settings)) := by
    refine (load_loads _ _).mono fun q hq => ?_
    cases hq with
    | openLibrary h => exact List.mem_append_left _ h
    | findSymbol library symbol => trivial
    | closeLibrary library => trivial
  refine hload.keeps.bind fun drivers _ => ?_
  have hreport : (command.report drivers settings shuffle .uninitialized).Keeps
      (Request.Within settings.libraries.vulkan) fun played => command.Reported played.1 :=
    keeps_report drivers settings shuffle command .uninitialized
  exact (hreport.via fun q hq => route_within drivers (hq.mono (List.subset_append_right _ _))).bind
    fun played hplayed => hplayed

/-! ## Asking for a command -/

/-- The arguments by which a command is asked for. -/
def Command.arguments : Command → List String
  | .snapshot pretty => "snapshot" :: if pretty then ["--pretty"] else []
  | .identity => ["identity"]
  | .extensions => ["extensions"]
  | .memory => ["memory"]
  | .limits => ["limits"]
  | .benchmark runs => ["benchmark", "--runs", decimalText runs]
  | .vulkan => ["vulkan"]

/-- The digits of a number do not begin with a sign. -/
theorem decimalText_unsigned (n : Nat) : ∃ c rest, (decimalText n).toList = c :: rest ∧ c ≠ '+' ∧ c ≠ '-' := by
  unfold decimalText
  rw [String.toList_ofList]
  cases h : digitsOf 10 n with
  | nil => exact absurd h (Json.Numeral.digitsOf_ne_nil n)
  | cons c rest =>
    have hc : isDecimal c = true := Json.isDecimal_digitsOf n c (by rw [h]; exact List.mem_cons_self)
    refine ⟨c, rest, rfl, ?_, ?_⟩
    · rintro rfl
      cases hc
    · rintro rfl
      cases hc

theorem runs?_decimalText {runs : Nat} (h : runs < Nat.pow 2 32) : runs? (decimalText runs) = some runs := by
  have hdigits : (decimalText runs).toList.all isDecimal = true :=
    List.all_eq_true.2 fun c hc => Json.isDecimal_digitsOf runs c (by simpa [decimalText] using hc)
  have hspelled : spelled 10 (decimalText runs).toList = runs := by
    rw [decimalText, String.toList_ofList, spelled_digitsOf (by decide) (by decide)]
  obtain ⟨c, rest, hcons, hplus, hminus⟩ := decimalText_unsigned runs
  unfold runs?
  rw [hcons] at hdigits hspelled ⊢
  split
  next negative digits hsign =>
    obtain ⟨rfl, rfl⟩ : negative = false ∧ digits = c :: rest := by
      split at hsign
      next heq => exact absurd (List.cons.inj heq).1 hplus
      next heq => exact absurd (List.cons.inj heq).1 hminus
      next =>
        cases hsign
        exact ⟨rfl, rfl⟩
    simp only [List.isEmpty_cons, hdigits, hspelled, h, Bool.not_true, Bool.or_self, Bool.false_eq_true,
      ↓reduceIte]

theorem shapeOf_decimalText (runs : Nat) : shapeOf (decimalText runs) = .word := by
  obtain ⟨c, rest, hcons, -, hdash⟩ := decimalText_unsigned runs
  unfold shapeOf
  rw [hcons]
  split
  next heq => exact absurd (List.cons.inj heq).1 hdash
  next heq => exact absurd (List.cons.inj heq).1 hdash
  next heq => exact absurd (List.cons.inj heq).1 hdash
  next => rfl

theorem shapeOf_config (path : String) : shapeOf ("--config=" ++ path) = .long "config" (some path) := by
  simp [shapeOf, String.toList_append]

theorem readCommand_eq_ok {outer given : Given} {name : String} {arguments : List String} {command : Command}
    (hname : (name == "help") = false ∧ commandNames.contains name = true)
    (hlevel : readLevel (configOption :: helpOption :: ownOptions name) [] arguments = .ok (given, none))
    (hcommand : command? name given = some command) :
    readCommand outer name arguments = .ok ⟨(given.lookup "config").or (outer.lookup "config"), command⟩ := by
  unfold readCommand
  simp only [hname, Bool.false_eq_true, Bool.not_true, ↓reduceIte, hlevel, hcommand]
  rfl

theorem readCommand_arguments (outer : Given) : ∀ {command : Command},
    (∀ runs, command = .benchmark runs → runs < Nat.pow 2 32) → ∃ name rest, command.arguments = name :: rest ∧
      shapeOf name = .word ∧ readCommand outer name rest = .ok ⟨outer.lookup "config", command⟩
  | .snapshot true, _ => by
    have hshape : shapeOf "--pretty" = .long "pretty" none := by simp [shapeOf]
    have hlevel : readLevel [configOption, helpOption, prettyOption] [] ["--pretty"] = .ok ([("pretty", "")], none) := by
      rw [readLevel, hshape]
      rfl
    exact ⟨"snapshot", ["--pretty"], rfl, rfl, @readCommand_eq_ok outer _ "snapshot" _ _ (by decide) hlevel rfl⟩
  | .snapshot false, _ | .identity, _ | .extensions, _ | .memory, _ | .limits, _ | .vulkan, _ => ⟨_, _, rfl, rfl, rfl⟩
  | .benchmark runs, h => by
    have hruns := runs?_decimalText (h runs rfl)
    have hshape : shapeOf "--runs" = .long "runs" none := by simp [shapeOf]
    have hlevel : readLevel [configOption, helpOption, runsOption] [] ["--runs", decimalText runs] =
        .ok ([("runs", decimalText runs)], none) := by
      simp [readLevel, hshape, shapeOf_decimalText, takeLong, configOption, helpOption, runsOption, give, hruns]
    have hcommand : command? "benchmark" [("runs", decimalText runs)] = some (.benchmark runs) := by
      show (runs? (decimalText runs)).map Command.benchmark = _
      rw [hruns]
      rfl
    exact ⟨"benchmark", ["--runs", decimalText runs], rfl, rfl,
      @readCommand_eq_ok outer _ "benchmark" _ _ (by decide) hlevel hcommand⟩

/-- **Every command can be asked for**, with a settings file and without. -/
theorem read_arguments (config : Option String) {command : Command}
    (h : ∀ runs, command = .benchmark runs → runs < Nat.pow 2 32) :
    read ((config.toList.map fun path => "--config=" ++ path) ++ command.arguments) = .ok ⟨config, command⟩ := by
  have hword (given : Given) (name : String) (rest : List String) (hname : shapeOf name = .word) :
      readLevel [configOption, helpOption, versionOption] given (name :: rest) = .ok (given, some (name, rest)) := by
    rw [readLevel, hname]
  cases config with
  | none =>
    obtain ⟨name, rest, hname, hshape, hread⟩ := readCommand_arguments [] h
    show read command.arguments = _
    rw [hname, read, hword _ _ _ hshape]
    exact hread
  | some path =>
    obtain ⟨name, rest, hname, hshape, hread⟩ := readCommand_arguments [("config", path)] h
    have hlevel : readLevel [configOption, helpOption, versionOption] [] (("--config=" ++ path) :: name :: rest) =
        readLevel [configOption, helpOption, versionOption] [("config", path)] (name :: rest) := by
      rw [readLevel, shapeOf_config]
      rfl
    show read (("--config=" ++ path) :: command.arguments) = _
    rw [hname, read, hlevel, hword _ _ _ hshape]
    exact hread

/-! ## Outcomes -/

theorem loadLeniently_settings (file : FileState) : Settings.load file = .ok (Settings.loadLeniently file).settings ∨
    (∃ fault, Settings.load file = .error fault) ∧ (Settings.loadLeniently file).settings = {} := by
  unfold Settings.loadLeniently
  split
  next settings h => exact .inl h
  next h => exact .inr ⟨⟨_, h⟩, rfl⟩
  next fault _ h => exact .inr ⟨⟨_, h⟩, rfl⟩

/-- An invocation is refused the file that it names, or has the settings of that file, of the one at hand, or the
defaults. -/
theorem Invocation.settings_cases (files : String → FileState) (systemFileExists : Bool) : ∀ invocation : Invocation,
    let file := files (invocation.path systemFileExists)
    let atHand := files (settingsPath systemFileExists)
    (∃ path fault, invocation.config = some path ∧ Settings.load (files path) = .error fault ∧
      invocation.settings file = .error fault) ∨
    ∃ settings, invocation.settings file = .ok settings ∧
      (∀ path, invocation.config = some path → Settings.load (files path) = .ok settings) ∧
      (invocation.config = none → Settings.load atHand = .ok settings ∨
        (∃ fault, Settings.load atHand = .error fault) ∧ settings = {})
  | ⟨none, _⟩ => .inr ⟨_, rfl, nofun, fun _ => loadLeniently_settings _⟩
  | ⟨some path, _⟩ => by
    intro file atHand
    cases h : Settings.load (files path) with
    | error fault => exact .inl ⟨path, fault, rfl, h, h⟩
    | ok settings =>
      refine .inr ⟨settings, h, fun path' hpath => ?_, nofun⟩
      cases hpath
      exact h

theorem Invocation.reported {invocation : Invocation} {file : FileState} {settings : Settings}
    (h : invocation.settings file = .ok settings) (shuffle : Shuffle) (shelf : Shelf) (driver : DriverState) :
    let ran := (invocation.perform file shuffle).run (DriverState.serveNative shelf) driver
    invocation.command.Reported ran.value ∧ ∀ event ∈ ran.events, event.request.Within (libraryNames settings) := by
  unfold Invocation.perform
  rw [h]
  exact (keeps_perform invocation.command settings shuffle).run _ driver

/-- **A run fails exactly if the settings file that it was asked to use is refused, and then it calls nothing and prints
nothing.**  Any other run ends well whatever the machine replies, and opens no library but those named in the settings:
those of the file that it was asked to use, or of the file at hand, or the defaults where that is of no use.  A benchmark
prints a line for each of its runs, numbered from one on, and any number of runs of thirty-two bits can be asked for.
All this holds however chance orders a snapshot, and where the order is left to chance, any order of the topics can come
up. -/
theorem exit_of_run (files : String → FileState) (systemFileExists : Bool) {arguments : List String}
    {invocation : Invocation} (hread : read arguments = .ok invocation) (shuffle : Shuffle) (shelf : Shelf)
    (driver : DriverState) :
    let ran := (run files systemFileExists arguments shuffle).run (DriverState.serveNative shelf) driver
    let atHand := files (settingsPath systemFileExists)
    let refused := ∃ path fault, invocation.config = some path ∧ Settings.load (files path) = .error fault
    (ran.value.code ≠ 0 ↔ refused) ∧
    (refused → ran.events = [] ∧ ran.value.out = []) ∧
    (¬refused → ∃ settings : Settings,
      (∀ path, invocation.config = some path → Settings.load (files path) = .ok settings) ∧
      (invocation.config = none → Settings.load atHand = .ok settings ∨
        (∃ fault, Settings.load atHand = .error fault) ∧ settings = {}) ∧
      (∀ event ∈ ran.events, ∀ name, event.request = .openLibrary name →
        name ∈ settings.libraries.egl ++ settings.libraries.gles ++ settings.libraries.vulkan) ∧
      ∀ runs, invocation.command = .benchmark runs → ∃ timings : List Timing, timings.length = max runs 1 ∧
        ran.value.out = timings.mapIdx fun i timing => runLine (i + 1) timing) ∧
    (∀ (config : Option String) (runs : Nat), runs < Nat.pow 2 32 →
      read ((config.toList.map fun path => "--config=" ++ path) ++ ["benchmark", "--runs", decimalText runs]) =
        .ok ⟨config, .benchmark runs⟩) ∧
    ∀ (asked : SnapshotSettings) (order : List Topic), asked.shuffleOrder = true →
      order.Perm (Topic.selected asked) → ∃ chance : Shuffle, Topic.ordered chance asked = order := by
  intro ran atHand refused
  have hruns (config : Option String) (runs : Nat) (h : runs < Nat.pow 2 32) :
      read ((config.toList.map fun path => "--config=" ++ path) ++ ["benchmark", "--runs", decimalText runs]) =
        .ok ⟨config, .benchmark runs⟩ :=
    @read_arguments config (.benchmark runs) fun runs' hruns' => by cases hruns'; exact h
  have horders (asked : SnapshotSettings) (order : List Topic) (hchance : asked.shuffleOrder = true)
      (h : order.Perm (Topic.selected asked)) : ∃ chance : Shuffle, Topic.ordered chance asked = order :=
    Topic.exists_ordered hchance h
  have hran : ran = (invocation.perform (files (invocation.path systemFileExists)) shuffle).run
      (DriverState.serveNative shelf) driver := by
    show (run files systemFileExists arguments shuffle).run _ _ = _
    rw [run, hread]
  rcases invocation.settings_cases files systemFileExists with
    ⟨path, fault, hconfig, hload, hsettings⟩ | ⟨settings, hsettings, hasked, hatHand⟩
  · have hrefused : refused := ⟨path, fault, hconfig, hload⟩
    unfold Invocation.perform at hran
    rw [hsettings] at hran
    rw [hran]
    exact ⟨⟨fun _ => hrefused, fun _ => Nat.one_ne_zero⟩, fun _ => ⟨rfl, rfl⟩, fun h => absurd hrefused h, hruns,
      horders⟩
  · have hnot : ¬refused := by
      rintro ⟨path, fault, hconfig, hload⟩
      rw [hasked path hconfig] at hload
      cases hload
    obtain ⟨⟨hcode, hlines⟩, hwithin⟩ := Invocation.reported hsettings shuffle shelf driver
    rw [← hran] at hcode hlines hwithin
    refine ⟨⟨fun h => absurd hcode h, fun h => absurd h hnot⟩, fun h => absurd h hnot, fun _ => ?_, hruns,
      horders⟩
    refine ⟨settings, hasked, hatHand, fun event hevent name hname => ?_, hlines⟩
    have hopened := hwithin event hevent
    rw [hname] at hopened
    exact hopened

/-- No runs at all, without a settings file or a library: there is one line. -/
theorem exit_of_no_runs :
    let ran := (run (fun _ => .error (.system .notFound)) false ["benchmark", "--runs", "0"]).run
      (DriverState.serveNative {}) {}
    read ["benchmark", "--runs", "0"] = .ok ⟨none, .benchmark 0⟩ ∧ ran.value.code = 0 ∧
      ∃ timing, ran.value.out = [runLine 1 timing] := by
  intro ran
  have hread : read ["benchmark", "--runs", "0"] = .ok ⟨none, .benchmark 0⟩ := by
    have hzero : decimalText 0 = "0" := by decide +kernel
    rw [← hzero]
    exact @read_arguments none (.benchmark 0) fun runs hruns => by cases hruns; decide
  obtain ⟨hfails, -, hends, -⟩ := exit_of_run (fun _ => .error (.system .notFound)) false hread .still {} {}
  have hnot : ¬∃ path fault, (none : Option String) = some path ∧
      Settings.load (.error (.system .notFound)) = .error fault := by
    rintro ⟨path, fault, hpath, -⟩
    cases hpath
  obtain ⟨settings, -, -, -, hlines⟩ := hends hnot
  obtain ⟨timings, hlength, hout⟩ := hlines 0 rfl
  obtain ⟨timing, rfl⟩ := List.length_eq_one_iff.1 hlength
  exact ⟨hread, not_not.1 fun hcode => hnot (hfails.1 hcode), timing, hout⟩

end CommandLine
end DriverSurvey
