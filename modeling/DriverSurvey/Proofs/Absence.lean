import DriverSurvey.Proofs.Loading
import DriverSurvey.Proofs.Shading
/-!
# Absence — what is left of a survey without a driver

Without a driver for EGL every query that needs a context answers its sentinel, the runtime never leaves its first
stage, and nothing is entered but a loader for Vulkan.  With one for EGL and none for OpenGL ES the queries that only
OpenGL ES can answer are dark: texts are empty, lists have no members, numbers are zero.  All else goes as over any
drivers with one for EGL, whichever libraries those came from (`sentinels_of_load`).
-/
namespace DriverSurvey

open Program

/-! ## Entry points by library -/

def Entry.isGles : Entry → Bool
  | .glGetString _ | .glGetIntegerv _ | .glGetError | .glGetStringi _ _ | .glClearColor _ | .glClear _
  | .glFinish => true
  | _ => false

/-- Whether the function chooses a configuration, which the driver remembers. -/
def Entry.chooses : Entry → Bool
  | .eglChooseConfig _ _ _ => true
  | _ => false

/-- Whether the call enters a function of OpenGL ES. -/
def NativeRequest.isGles : NativeRequest → Bool
  | .enter _ entry => entry.isGles
  | _ => false

/-- Whether the call enters a function of EGL or OpenGL ES. -/
def NativeRequest.isGraphics : NativeRequest → Bool
  | .enter _ .vkEnumerateInstanceVersion => false
  | .enter _ _ => true
  | _ => false

/-- Whether the call goes to the driver for EGL, and does not look for an entry point or call one. -/
def Request.isEgl : Request → Bool
  | .defaultDisplay | .openDisplay _ | .bindApi | .chooseConfig _ _ | .createSurface _ _ | .createContext _ _ _
  | .destroySurface _ _ | .makeCurrent _ _ _ | .displayText _ _ | .configDepth _ _ _ => true
  | _ => false

/-- Whether the answer can come of OpenGL ES alone. -/
def Query.needsGles : Query → Bool
  | .renderer | .vendor | .version | .extensions | .maxTextureSize | .maxComputeInvocations | .memory => true
  | _ => false

/-! ## Looking for Vulkan -/

variable {shelf : Shelf} {drivers : Bindings} {names : List String}

/-- **To look for Vulkan enters neither driver**, and leaves the session as it is. -/
theorem Session.vulkan_apart (shelf : Shelf) (drivers : Bindings) (names : List String) (session : Session) :
    (session.play (.native shelf drivers) (Step.survey names .vulkan)).after = session ∧
      ∀ e ∈ (session.play (.native shelf drivers) (Step.survey names .vulkan)).events,
        e.request.isGraphics = false ∧ e.request.isGles = false := by
  have honly : ((Vulkan.check names).via drivers.route).Only fun q : NativeRequest =>
      (q.isGraphics = false ∧ q.isGles = false) ∧ ∀ d, (DriverState.serveNative shelf q d).2 = d :=
    (check_loads names).via fun q hq => by cases hq <;> exact ⟨⟨⟨rfl, rfl⟩, fun _ => rfl⟩, fun _ => trivial⟩
  have hstate : (((Vulkan.check names).via drivers.route).run (DriverState.serveNative shelf) session.driver).state =
      session.driver := run_still (honly.mono fun _ h => h.2) session.driver
  have hplayed := session.play_lift (.native shelf drivers) (Vulkan.check names)
  constructor
  · exact (congrArg Performed.after hplayed).trans (congrArg (Session.mk session.runtime) hstate)
  · intro e he
    rw [show (session.play (.native shelf drivers) (Step.survey names .vulkan)).events = _ from
      congrArg Performed.events hplayed] at he
    exact (honly.of_mem (trace_run _ _ _) e he).1

/-! ## Without EGL -/

theorem Session.play_without_egl (gles : Option GlesBinding) (query : Query) {session : Session}
    (h : session.runtime = .uninitialized) :
    session.play (.native shelf ⟨none, gles⟩) query.survey = ⟨query.sentinel, session, []⟩ := by
  obtain ⟨runtime, driver⟩ := session
  subst h
  rfl

theorem shades_without_egl (gles : Option GlesBinding) : (Rig.native shelf ⟨none, gles⟩).Shades
    (.native shelf ⟨none, gles⟩) names (fun _ => true)
    (fun session session' => session.runtime = .uninitialized ∧ session'.runtime = .uninitialized)
    fun q : NativeRequest => q.isGraphics = false where
  query query session session' h := by
    rw [Session.play_without_egl gles query h.1, Session.play_without_egl gles query h.2]
    exact ⟨rfl, h, fun e he => absurd he List.not_mem_nil⟩
  vulkan session session' h := by
    obtain ⟨hafter, hcalls⟩ := session.vulkan_apart shelf ⟨none, gles⟩ names
    obtain ⟨hafter', -⟩ := session'.vulkan_apart shelf ⟨none, gles⟩ names
    rw [hafter, hafter']
    exact ⟨trivial, h, fun e he => (hcalls e he).1⟩
  held session session' h := by
    rw [h.1]
    rfl

/-! ## Without OpenGL ES -/

/-- The drivers are in the middle of the same script, but for the errors not yet read. -/
def DriverState.Kin (d d' : DriverState) : Prop :=
  d.script = d'.script ∧ d.chosen = d'.chosen

theorem takeError_kin (d : DriverState) : d.takeError.2.Kin d := by
  unfold DriverState.takeError
  split <;> exact ⟨rfl, rfl⟩

theorem DriverState.Kin.trans {d d' d'' : DriverState} (h : d.Kin d') (h' : d'.Kin d'') : d.Kin d'' :=
  ⟨h.1.trans h'.1, h.2.trans h'.2⟩

theorem DriverState.Kin.symm {d d' : DriverState} (h : d.Kin d') : d'.Kin d :=
  ⟨h.1.symm, h.2.symm⟩

theorem serveEntry_kept {entry : Entry} (h : entry.chooses = false) (d : DriverState) :
    (d.serveEntry entry).2.Kin d := by
  unfold DriverState.serveEntry
  cases entry with
  | eglChooseConfig => cases h
  | eglInitialize | eglGetConfigAttrib => dsimp only; split <;> exact ⟨rfl, rfl⟩
  | glGetError => exact takeError_kin d
  | _ => exact ⟨rfl, rfl⟩

theorem serveEntry_kin {entry : Entry} (h : entry.isGles = false) {d d' : DriverState} (hkin : d.Kin d') :
    (d.serveEntry entry).1 = (d'.serveEntry entry).1 ∧ (d.serveEntry entry).2.Kin (d'.serveEntry entry).2 := by
  obtain ⟨script, errors, chosen⟩ := d
  obtain ⟨script', errors', chosen'⟩ := d'
  obtain ⟨hscript, hchosen⟩ := hkin
  dsimp only at hscript hchosen
  subst hscript hchosen
  unfold DriverState.serveEntry
  cases entry with
  | eglInitialize => cases hconnection : script.connection <;> simp [DriverState.Kin, hconnection]
  | eglGetConfigAttrib display config token =>
    cases hdepth : (Channel.ofToken? token).bind script.depth <;> simp [DriverState.Kin, hdepth]
  | glGetString | glGetIntegerv | glGetError | glGetStringi | glClearColor | glClear | glFinish => cases h
  | _ => exact ⟨rfl, rfl, rfl⟩

/-- A server that answers the calls of a survey through the drivers. -/
abbrev Bindings.serve (drivers : Bindings) (shelf : Shelf) : Server Calls DriverState :=
  served drivers.route (DriverState.serveNative shelf)

variable {full : Shelf} {others : Bindings}

theorem callEgl_kin (hegl : drivers.egl.isSome) (hegl' : others.egl.isSome) {α : Type} {absent : α} {entry : Entry}
    {read : entry.Reply → α} (h : entry.isGles = false) {d d' : DriverState} (hkin : d.Kin d') :
    let played := (drivers.callEgl absent entry read).run (DriverState.serveNative shelf) d
    let played' := (others.callEgl absent entry read).run (DriverState.serveNative full) d'
    played.value = played'.value ∧ played.state.Kin played'.state := by
  obtain ⟨driver, hdriver⟩ := Option.isSome_iff_exists.1 hegl
  obtain ⟨other, hother⟩ := Option.isSome_iff_exists.1 hegl'
  obtain ⟨hreply, hstate⟩ := serveEntry_kin h hkin
  unfold Bindings.callEgl
  rw [hdriver, hother]
  exact ⟨congrArg read hreply, hstate⟩

theorem callEgl_kept {α : Type} {absent : α} {entry : Entry} {read : entry.Reply → α}
    (h : entry.chooses = false) (d : DriverState) :
    ((drivers.callEgl absent entry read).run (DriverState.serveNative shelf) d).state.Kin d := by
  unfold Bindings.callEgl
  cases drivers.egl with
  | none => exact ⟨rfl, rfl⟩
  | some driver => exact serveEntry_kept h d

theorem callGles_kept {α : Type} {absent : α} {entry : Entry} {read : entry.Reply → α}
    (h : entry.chooses = false) (d : DriverState) :
    ((drivers.callGles absent entry read).run (DriverState.serveNative shelf) d).state.Kin d := by
  unfold Bindings.callGles
  cases drivers.gles with
  | none => exact ⟨rfl, rfl⟩
  | some driver => exact serveEntry_kept h d

theorem serve_asks_kept {active : Active} {checked : Prop} {q : Request} (h : q.Asks active checked) (d : DriverState) :
    (drivers.serve shelf q d).2.Kin d := by
  cases h with
  | displayText | configDepth | indexedText => exact callEgl_kept rfl d
  | text | error | clearColor | clear | finish => exact callGles_kept rfl d
  | integers token =>
    cases hroom : nativeRoom token with
    | zero => exact ⟨rfl, rfl⟩
    | succ room => exact callGles_kept rfl d
  | entryPoint name =>
    unfold Bindings.serve served
    rw [Bindings.route]
    split
    · exact ⟨rfl, rfl⟩
    · exact callEgl_kept rfl d

/-- **Under a context nothing is asked that another survey could notice**, but for errors. -/
theorem body_kept (query : Query) (active : Active) (d : DriverState) :
    ((query.body active).run (drivers.serve shelf) d).state.Kin d :=
  run_kept (R := fun d d' : DriverState => d'.Kin d) (fun _ => ⟨rfl, rfl⟩) (fun h h' => h'.trans h)
    ((body_asks query active).mono fun _ hq => serve_asks_kept hq) d

theorem serve_egl_kin (hegl : drivers.egl.isSome) (hegl' : others.egl.isSome) {q : Request} (h : q.isEgl = true)
    {d d' : DriverState} (hkin : d.Kin d') : (drivers.serve shelf q d).1 = (others.serve full q d').1 ∧
      (drivers.serve shelf q d).2.Kin (others.serve full q d').2 := by
  cases q with
  | defaultDisplay | openDisplay | bindApi | chooseConfig | createSurface | createContext | destroySurface | makeCurrent
  | displayText | configDepth => exact callEgl_kin hegl hegl' rfl hkin
  | _ => cases h

/-- **To the calls that go to EGL it does not matter whether there is OpenGL ES.** -/
theorem run_egl_kin (hegl : drivers.egl.isSome) (hegl' : others.egl.isSome) {α : Type} {p : Program Calls α}
    (hp : p.Only fun q : Request => q.isEgl = true) {d d' : DriverState} (hkin : d.Kin d') :
    (p.run (drivers.serve shelf) d).value = (p.run (others.serve full) d').value ∧
      (p.run (drivers.serve shelf) d).state.Kin (p.run (others.serve full) d').state :=
  hp.run_eq (fun _ hq _ _ hst => serve_egl_kin hegl hegl' hq hst) hkin

theorem acquire_egl (runtime : Runtime) : runtime.acquire.Only fun q : Request => q.isEgl = true := by
  refine (acquire_acquires runtime).mono fun q hq => ?_
  rcases hq with hq | ⟨display, surface, context, rfl⟩
  · cases q <;> first | rfl | cases hq
  · rfl

theorem readFormat_egl (active : Active) : (readFormat active).Only fun q : Request => q.isEgl = true := by
  have depth (channel : Channel) : (readDepth active channel).Only fun q : Request => q.isEgl = true :=
    ⟨rfl, fun _ => trivial⟩
  exact (depth _).bind fun _ => (depth _).bind fun _ => (depth _).bind fun _ => (depth _).bind fun _ =>
    (depth _).bind fun _ => (depth _).bind fun _ => only_pure _ _

theorem body_egl {query : Query} (h : query.needsGles = false) (hbench : query ≠ .benchmark) (active : Active) :
    (query.body active).Only fun q : Request => q.isEgl = true := by
  cases query with
  | ensure | active | contextVersion => exact only_pure _ _
  | displayVendor | displayVersion => exact ⟨rfl, fun _ => trivial⟩
  | configuration => exact readFormat_egl active
  | benchmark => exact absurd rfl hbench
  | _ => cases h

/-! ## Dark queries -/

def look (egl : Option EglBinding) : Program NativeCalls Bool :=
  Bindings.callEgl ⟨egl, none⟩ false (.eglGetProcAddress indexedTextEntry) id

theorem readExtensions_dark (egl : Option EglBinding) :
    readExtensions.via (Bindings.route ⟨egl, none⟩) = look egl >>= fun _ => pure [] := by
  have hnames : ∀ found : Bool, (if found then readIndexed 0 0 else pure []).via (Bindings.route ⟨egl, none⟩) =
      (pure [] : Program NativeCalls (List String)) := by
    intro found
    cases found <;> rfl
  show (look egl).bind (fun found => (if found then readIndexed 0 0 else pure []).via (Bindings.route ⟨egl, none⟩)) = _
  rw [funext hnames]
  rfl

/-- **Without OpenGL ES nothing comes of a dark query** but a look at an entry point, and its sentinel. -/
theorem body_dark (egl : Option EglBinding) {query : Query} (h : query.needsGles = true) (active : Active) :
    (query.body active).via (Bindings.route ⟨egl, none⟩) = pure query.sentinel ∨
      (query.body active).via (Bindings.route ⟨egl, none⟩) = look egl >>= fun _ => pure query.sentinel := by
  cases query with
  | renderer | vendor | version | maxTextureSize | maxComputeInvocations => exact .inl rfl
  | extensions => exact .inr (readExtensions_dark egl)
  | memory =>
    right
    have hvia : (Query.memory.body active).via (Bindings.route ⟨egl, none⟩) =
        readExtensions.via (Bindings.route ⟨egl, none⟩) >>= fun names =>
          (readMemory names).via (Bindings.route ⟨egl, none⟩) :=
      via_bind _ readMemory readExtensions
    have hmemory : (readMemory []).via (Bindings.route ⟨egl, none⟩) = pure .unknown := rfl
    rw [hvia, readExtensions_dark, bind_assoc]
    show (look egl >>= fun _ => (readMemory []).via (Bindings.route ⟨egl, none⟩)) = _
    rw [hmemory]
    rfl
  | _ => cases h

theorem body_dark_value (egl : Option EglBinding) {query : Query} (h : query.needsGles = true) (active : Active)
    (d : DriverState) : ((query.body active).run (Bindings.serve ⟨egl, none⟩ shelf) d).value = query.sentinel := by
  rw [← (run_via _ _ (query.body active) d).1]
  rcases body_dark egl h active with hvia | hvia
  · rw [hvia]
    rfl
  · rw [hvia, run_bind]
    rfl

/-! ## What is called -/

theorem look_calls (egl : Option EglBinding) : (look egl).Only fun q : NativeRequest => q.isGles = false := by
  cases egl with
  | none => exact only_pure _ _
  | some driver => exact ⟨rfl, fun _ => trivial⟩

theorem route_egl_calls {q : Request} (h : q.isEgl = true) :
    (drivers.route q).Only fun q : NativeRequest => q.isGles = false := by
  obtain ⟨egl, gles⟩ := drivers
  cases q with
  | defaultDisplay | openDisplay | bindApi | chooseConfig | createSurface | createContext | destroySurface | makeCurrent
  | displayText | configDepth =>
    cases egl with
    | none => exact only_pure _ _
    | some driver => exact ⟨rfl, fun _ => trivial⟩
  | _ => cases h

theorem body_calls (egl : Option EglBinding) (query : Query) (active : Active) :
    ((query.body active).via (Bindings.route ⟨egl, none⟩)).Only fun q : NativeRequest => q.isGles = false := by
  by_cases hdark : query.needsGles = true
  · rcases body_dark egl hdark active with hvia | hvia
    · rw [hvia]
      exact only_pure _ _
    · rw [hvia]
      exact (look_calls egl).bind fun _ => only_pure _ _
  · by_cases hbench : query = .benchmark
    · subst hbench
      exact only_pure _ Timing.measured
    · exact (body_egl (Bool.not_eq_true _ ▸ hdark) hbench active).via fun _ hq => route_egl_calls hq

/-- **Without OpenGL ES no query enters a function of it.** -/
theorem query_calls (egl : Option EglBinding) (query : Query) (runtime : Runtime) :
    ((query.survey runtime).via (Bindings.route ⟨egl, none⟩)).Only fun q : NativeRequest => q.isGles = false := by
  have hacquire : (runtime.acquire.via (Bindings.route ⟨egl, none⟩)).Only fun q : NativeRequest => q.isGles = false :=
    (acquire_egl runtime).via fun _ hq => route_egl_calls hq
  unfold Query.survey Survey.withContext
  rw [via_bind]
  refine hacquire.bind fun acquired => ?_
  obtain ⟨result, after⟩ := acquired
  cases result with
  | error fault => exact only_pure _ _
  | ok active =>
    dsimp only
    rw [via_bind]
    exact (body_calls egl query active).bind fun _ => only_pure _ _

theorem Session.play_native {α : Type} (shelf : Shelf) (drivers : Bindings) (survey : Survey α) (session : Session) :
    let played := (survey session.runtime).run (drivers.serve shelf) session.driver
    (session.play (.native shelf drivers) survey).answer = played.value.1 ∧
      (session.play (.native shelf drivers) survey).after = ⟨played.value.2, played.state⟩ := by
  intro played
  obtain ⟨hvalue, hstate⟩ :=
    run_via drivers.route (DriverState.serveNative shelf) (survey session.runtime) session.driver
  exact ⟨congrArg Prod.fst hvalue, congr (congrArg Session.mk (congrArg Prod.snd hvalue)) hstate⟩

/-- **A query answers its sentinel if it needs OpenGL ES, and else as it does where there is OpenGL ES.** -/
theorem query_beside (egl : EglBinding) (hegl : others.egl.isSome) (query : Query) (runtime : Runtime)
    {d d' : DriverState} (hkin : d.Kin d') :
    let played := (query.survey runtime).run (Bindings.serve ⟨some egl, none⟩ shelf) d
    let played' := (query.survey runtime).run (others.serve full) d'
    played.value.1 = query.shown Query.needsGles played'.value.1 ∧ played.value.2 = played'.value.2 ∧
      played.state.Kin played'.state := by
  have hacquired : (runtime.acquire.run (Bindings.serve ⟨some egl, none⟩ shelf) d).value =
        (runtime.acquire.run (others.serve full) d').value ∧
      (runtime.acquire.run (Bindings.serve ⟨some egl, none⟩ shelf) d).state.Kin
        (runtime.acquire.run (others.serve full) d').state :=
    run_egl_kin rfl hegl (acquire_egl runtime) hkin
  dsimp only
  rw [Survey.run_query, Survey.run_query]
  generalize runtime.acquire.run (Bindings.serve ⟨some egl, none⟩ shelf) d = acquired at hacquired ⊢
  generalize runtime.acquire.run (others.serve full) d' = acquired' at hacquired ⊢
  obtain ⟨⟨result, after⟩, state, events⟩ := acquired
  obtain ⟨⟨result', after'⟩, state', events'⟩ := acquired'
  obtain ⟨hvalue, hstate⟩ := hacquired
  cases hvalue
  cases result with
  | error fault =>
    have hsentinel : query.shown Query.needsGles query.sentinel = query.sentinel := ite_self _
    exact ⟨hsentinel.symm, rfl, hstate⟩
  | ok active =>
    have hleft : ((query.body active).run (Bindings.serve ⟨some egl, none⟩ shelf) state).state.Kin
        ((query.body active).run (others.serve full) state').state :=
      (body_kept query active state).trans (hstate.trans (body_kept query active state').symm)
    refine ⟨?_, rfl, hleft⟩
    dsimp only
    unfold Query.shown
    by_cases hdark : query.needsGles = true
    · rw [if_pos hdark]
      exact body_dark_value (some egl) hdark active state
    · rw [if_neg hdark]
      by_cases hbench : query = .benchmark
      · -- what the rounds of a benchmark reply is not looked at
        subst hbench
        rfl
      · exact (run_egl_kin rfl hegl (body_egl (Bool.not_eq_true _ ▸ hdark) hbench active) hstate).1

theorem shades_without_gles (egl : EglBinding) (hegl : others.egl.isSome) :
    (Rig.native shelf ⟨some egl, none⟩).Shades (.native full others) names Query.needsGles
      (fun session session' => session.runtime = session'.runtime ∧ session.driver.Kin session'.driver)
      fun q : NativeRequest => q.isGles = false where
  query query session session' h := by
    obtain ⟨runtime, driver⟩ := session
    obtain ⟨runtime', driver'⟩ := session'
    obtain ⟨rfl, hkin⟩ := h
    obtain ⟨hanswer, hafter⟩ := Session.play_native shelf ⟨some egl, none⟩ query.survey ⟨runtime, driver⟩
    obtain ⟨hanswer', hafter'⟩ := Session.play_native full others query.survey ⟨runtime, driver'⟩
    obtain ⟨hshown, hruntime, hleft⟩ := @query_beside shelf full others egl hegl query runtime _ _ hkin
    rw [hanswer, hanswer', hafter, hafter']
    exact ⟨hshown, ⟨hruntime, hleft⟩, (query_calls (some egl) query runtime).of_mem (trace_run _ _ _)⟩
  vulkan session session' h := by
    obtain ⟨hafter, hcalls⟩ := session.vulkan_apart shelf ⟨some egl, none⟩ names
    obtain ⟨hafter', -⟩ := session'.vulkan_apart full others names
    rw [hafter, hafter']
    exact ⟨trivial, h, fun e he => (hcalls e he).2⟩
  held session session' h := by
    rw [h.1]
    rfl

/-! ## Runs -/

/-- The result of a step that no driver served. -/
def Step.Unserved : (step : Step) → step.Answer → Prop
  | .query asked, answer => answer = asked.sentinel
  | .heldVersion, version => version = none
  | .snapshot _ _, taken => taken.graphics = .blank .notRun
  | .together callers, ensured => ensured = List.replicate callers false
  | .vulkan, _ | .raw _, _ | .amend _, _ => True

/-- The answer to a query that no driver for OpenGL ES served. -/
def Query.Dark : (query : Query) → query.Answer → Prop
  | .renderer, text | .vendor, text | .version, text => text = ""
  | .extensions, names => names = []
  | .maxTextureSize, limit | .maxComputeInvocations, limit => limit = 0
  | .memory, found => found = ⟨0, 0, 0⟩
  | _, _ => True

/-- The snapshot holds nothing that only OpenGL ES can tell. -/
structure Snapshot.Dark (taken : Snapshot Timing) : Prop where
  renderer : taken.renderer = ""
  vendor : taken.vendor = ""
  version : taken.version = ""
  extensions : taken.extensions = []
  extensionCount : taken.extensionCount = 0
  memory : taken.memory = ⟨0, 0, 0⟩
  maxTextureSize : taken.maxTextureSize = 0
  computeInvocations : taken.computeInvocations = 0
  computeSupported : taken.computeSupported = false

/-- The result of a step that no driver for OpenGL ES served. -/
def Step.Dark : (step : Step) → step.Answer → Prop
  | .query asked, answer => asked.Dark answer
  | .snapshot _ _, taken => taken.Dark
  | _, _ => True

theorem unserved_of_shown {step : Step} {answer answer' : step.Answer}
    (h : step.shown lit answer = step.shown (fun _ => true) answer') : step.Unserved answer := by
  cases step with
  | query asked => exact h
  | heldVersion => exact h
  | snapshot maxExtensions order => exact h
  | together callers => exact h
  | _ => trivial

theorem dark_of_shown {step : Step} {answer answer' : step.Answer}
    (h : step.shown lit answer = step.shown Query.needsGles answer') : step.Dark answer := by
  cases step with
  | query asked =>
    cases asked with
    | renderer | vendor | version | extensions | maxTextureSize | maxComputeInvocations | memory => exact h
    | _ => trivial
  | snapshot maxExtensions order =>
    exact {
      renderer := congrArg Snapshot.renderer h
      vendor := congrArg Snapshot.vendor h
      version := congrArg Snapshot.version h
      extensions := congrArg Snapshot.extensions h
      extensionCount := congrArg Snapshot.extensionCount h
      memory := congrArg Snapshot.memory h
      maxTextureSize := congrArg Snapshot.maxTextureSize h
      computeInvocations := congrArg Snapshot.computeInvocations h
      computeSupported := congrArg Snapshot.computeSupported h }
  | _ => trivial

namespace Session

theorem shown_of_outcome {rig : Rig} {dark : Query → Bool} {performed : Σ step : Step, Performed rig step.Answer}
    (h : outcome lit performed = outcome dark performed) :
    performed.1.shown lit performed.2.answer = performed.1.shown dark performed.2.answer := by
  obtain ⟨step, performed⟩ := performed
  simpa [outcome] using h

variable (names : List String) {steps : List Step} (hsteps : ∀ step ∈ steps, step.isRaw = false) (driver : DriverState)

include hsteps

/-- **A run without EGL ends where it began**, with sentinels, and enters no driver. -/
theorem performAll_without_egl (hegl : drivers.egl = none) :
    ∀ performed ∈ ({ driver } : Session).performAll (.native shelf drivers) names steps,
      performed.2.after.runtime = .uninitialized ∧ performed.1.Unserved performed.2.answer ∧
        ∀ e ∈ performed.2.events, e.request.isGraphics = false := by
  obtain ⟨egl, gles⟩ := drivers
  dsimp only at hegl
  subst hegl
  have hnear : ({ driver } : Session).runtime = .uninitialized ∧ ({ driver } : Session).runtime = .uninitialized :=
    ⟨rfl, rfl⟩
  obtain ⟨houtcomes, hall⟩ := (@shades_without_egl shelf names gles).performAll (fun _ _ _ h => h)
    (fun _ _ h => h.1.trans h.2.symm) steps hsteps hnear
  intro performed hperformed
  obtain ⟨⟨session', hruntime, -⟩, hcalls⟩ := hall performed hperformed
  have hshown : performed.1.shown lit performed.2.answer = performed.1.shown (fun _ => true) performed.2.answer :=
    shown_of_outcome (List.map_inj_left.1 houtcomes performed hperformed)
  exact ⟨hruntime, unserved_of_shown hshown, hcalls⟩

/-- **A run without OpenGL ES comes to what it comes to with it**, but for dark queries, and enters no function of
it. -/
theorem performAll_without_gles (hegl : drivers.egl.isSome) (hgles : drivers.gles = none)
    (hothers : others.egl.isSome) :
    (({ driver } : Session).performAll (.native shelf drivers) names steps).map (outcome lit) =
        (({ driver } : Session).performAll (.native full others) names steps).map (outcome Query.needsGles) ∧
      ∀ performed ∈ ({ driver } : Session).performAll (.native shelf drivers) names steps,
        ∀ e ∈ performed.2.events, e.request.isGles = false := by
  obtain ⟨_ | egl, gles⟩ := drivers
  · cases hegl
  · dsimp only at hgles
    subst hgles
    have hamend : ∀ (session session' : Session) (change : Change),
        session.runtime = session'.runtime ∧ session.driver.Kin session'.driver →
          (session.amended change).runtime = (session'.amended change).runtime ∧
            (session.amended change).driver.Kin (session'.amended change).driver := by
      rintro session session' change ⟨hruntime, hscript, hchosen⟩
      exact ⟨hruntime, congrArg (Script.amend · change) hscript, hchosen⟩
    have hnear : ({ driver } : Session).runtime = ({ driver } : Session).runtime ∧ driver.Kin driver := ⟨rfl, rfl, rfl⟩
    obtain ⟨houtcomes, hall⟩ := (@shades_without_gles shelf names full others egl hothers).performAll hamend
      (fun _ _ h => h.1) steps hsteps hnear
    exact ⟨houtcomes, fun performed hperformed => (hall performed hperformed).2⟩

/-- **A run without OpenGL ES is dark.** -/
theorem performAll_dark (hegl : drivers.egl.isSome) (hgles : drivers.gles = none) :
    ∀ performed ∈ ({ driver } : Session).performAll (.native shelf drivers) names steps,
      performed.1.Dark performed.2.answer := by
  -- the run is compared with itself
  have hbeside := @performAll_without_gles shelf drivers shelf drivers names steps hsteps driver hegl hgles hegl
  intro performed hperformed
  exact dark_of_shown (shown_of_outcome (List.map_inj_left.1 hbeside.1 performed hperformed))

/-- **Drivers that are missing leave sentinels behind**, in every run over any libraries.  Without EGL no query is
served and no driver entered, from the loading on.  With EGL and without OpenGL ES, what only OpenGL ES can tell is
empty or zero, and no function of it is entered; every step comes to what it comes to over any other drivers with one
for EGL, from whatever libraries and with or without one for OpenGL ES, but for the dark queries, and leaves the same
runtime. -/
theorem sentinels_of_load (shelf : Shelf) (egl gles : List String) :
    let loading := (Bindings.load egl gles).run (DriverState.serveNative shelf) driver
    let played := ({ driver } : Session).performAll (.native shelf loading.value) names steps
    (∀ e ∈ loading.events, e.request.enters = false) ∧
      (¬shelf.Serves eglSymbols egl → ∀ performed ∈ played, performed.2.after.runtime = .uninitialized ∧
        performed.1.Unserved performed.2.answer ∧ ∀ e ∈ performed.2.events, e.request.isGraphics = false) ∧
      (shelf.Serves eglSymbols egl → ¬shelf.Serves glesSymbols gles →
        (∀ performed ∈ played, performed.1.Dark performed.2.answer ∧
          ∀ e ∈ performed.2.events, e.request.isGles = false) ∧
        ∀ (full : Shelf) (others : Bindings), others.egl.isSome → played.map (outcome lit) =
          (({ driver } : Session).performAll (.native full others) names steps).map (outcome Query.needsGles)) := by
  intro loading played
  have hegl : loading.value.egl.isSome ↔ shelf.Serves eglSymbols egl := by
    rw [show loading.value = _ from load_value egl gles driver, Option.isSome_map, isSome_served?]
  have hgles : loading.value.gles = none ↔ ¬shelf.Serves glesSymbols gles := by
    rw [show loading.value = _ from load_value egl gles driver, Option.map_eq_none_iff, served?_eq_none]
  refine ⟨fun e he => (load_links egl gles).of_mem (trace_run _ _ _) e he, fun hmissing => ?_,
    fun hthere hmissing => ?_⟩
  · have hnone : loading.value.egl = none := Option.not_isSome_iff_eq_none.1 fun hsome => hmissing (hegl.1 hsome)
    exact performAll_without_egl names hsteps driver hnone
  · have hsome : loading.value.egl.isSome := hegl.2 hthere
    have hnone : loading.value.gles = none := hgles.2 hmissing
    have hbeside (full : Shelf) (others : Bindings) (hothers : others.egl.isSome) :=
      @performAll_without_gles shelf loading.value full others names steps hsteps driver hsome hnone hothers
    have hdark := @performAll_dark shelf loading.value names steps hsteps driver hsome hnone
    refine ⟨fun performed hperformed => ⟨hdark performed hperformed, ?_⟩, fun full others hothers =>
      (hbeside full others hothers).1⟩
    exact (hbeside shelf loading.value hsome).2 performed hperformed

omit hsteps in
/-- Over a shelf with a library for EGL alone, a run is dark, and comes to what it comes to over one with both but for
dark queries. -/
theorem sentinels_of_displayOnly :
    let steps := [.query .ensure, .query .renderer, .together 2, .query .displayVendor, .snapshot 15 Topic.all]
    let load (shelf : Shelf) :=
      (Bindings.load ["libEGL.so.1"] ["libGLESv2.so.2"]).run (DriverState.serveNative shelf) {}
    let played := Session.performAll (.native .displayOnly (load .displayOnly).value) [] steps {}
    let full := Session.performAll (.native .stocked (load .stocked).value) [] steps {}
    (∀ step ∈ steps, Step.isRaw step = false) ∧ Shelf.displayOnly.Serves eglSymbols ["libEGL.so.1"] ∧
      ¬Shelf.displayOnly.Serves glesSymbols ["libGLESv2.so.2"] ∧ (load .stocked).value.egl.isSome ∧
      (load .stocked).value.gles.isSome ∧ (∀ performed ∈ played, performed.1.Dark performed.2.answer) ∧
      played.map (outcome lit) = full.map (outcome Query.needsGles) := by
  intro steps load played full
  have hsteps : ∀ step ∈ steps, Step.isRaw step = false := by decide
  have hegl : Shelf.displayOnly.Serves eglSymbols ["libEGL.so.1"] := (isSome_served? _ _).1 (by decide +kernel)
  have hmissing : ¬Shelf.displayOnly.Serves glesSymbols ["libGLESv2.so.2"] :=
    (served?_eq_none _ _).1 (by decide +kernel)
  have hfull : (load .stocked).value.egl.isSome := by decide +kernel
  have hgles : (load .stocked).value.gles.isSome := by decide +kernel
  obtain ⟨hdark, hbeside⟩ :=
    (sentinels_of_load [] hsteps {} .displayOnly ["libEGL.so.1"] ["libGLESv2.so.2"]).2.2 hegl hmissing
  exact ⟨hsteps, hegl, hmissing, hfull, hgles, fun performed hperformed => (hdark performed hperformed).1,
    hbeside .stocked (load .stocked).value hfull⟩

end Session

end DriverSurvey
