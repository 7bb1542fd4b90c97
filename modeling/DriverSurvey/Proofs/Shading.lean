import DriverSurvey.Proofs.Order
/-!
# Shading — a session in the shade of another

Two sessions play the same steps, and in one of them some queries are dark: they answer their sentinels, whatever is
answered in the other.  Where that holds of each query alone (`Shades`), it holds of topics, of snapshots and of every
step (`Shades.perform`).  What a loader for Vulkan says is left out of the comparison.
-/
namespace DriverSurvey

open Program

/-! ## What is shown -/

/-- The answer to a query, or its sentinel where the query is dark. -/
def Query.shown (dark : Query → Bool) (query : Query) (answer : query.Answer) : query.Answer :=
  if dark query then query.sentinel else answer

/-- A snapshot in which dark queries found nothing, and no loader for Vulkan was asked. -/
def Snapshot.shown (dark : Query → Bool) (taken : Snapshot Timing) : Snapshot Timing where
  renderer := Query.renderer.shown dark taken.renderer
  vendor := Query.vendor.shown dark taken.vendor
  version := Query.version.shown dark taken.version
  displayVendor := Query.displayVendor.shown dark taken.displayVendor
  extensions := if dark .extensions then [] else taken.extensions
  extensionCount := if dark .extensions then 0 else taken.extensionCount
  configuration := Query.configuration.shown dark taken.configuration
  memory := Query.memory.shown dark taken.memory
  maxTextureSize := Query.maxTextureSize.shown dark taken.maxTextureSize
  computeInvocations := Query.maxComputeInvocations.shown dark taken.computeInvocations
  computeSupported := if dark .maxComputeInvocations then false else taken.computeSupported
  vulkanSupported := false
  benchmark := Query.benchmark.shown dark taken.benchmark
  contextVersion := Query.contextVersion.shown dark taken.contextVersion

/-- The result of a step in which dark queries found nothing, and no loader for Vulkan was asked. -/
def Step.shown (dark : Query → Bool) : (step : Step) → step.Answer → step.Answer
  | .query asked, answer => asked.shown dark answer
  | .heldVersion, version => Query.contextVersion.shown dark version
  | .vulkan, _ => {}
  | .snapshot _ _, taken => Snapshot.shown dark taken
  | .together callers, ensured => if dark .ensure then List.replicate callers false else ensured
  | .raw _, reply => reply
  | .amend _, _ => ()

/-- Nothing is dark. -/
def lit : Query → Bool := fun _ => false

theorem Topic.shown_enter (dark : Query → Bool) (maxExtensions : Nat) (snapshot : Snapshot Timing) (topic : Topic)
    (found : topic.step.Answer) : (topic.enter maxExtensions snapshot found).shown dark =
      topic.enter maxExtensions (snapshot.shown dark) (topic.step.shown dark found) := by
  cases topic with
  | extensions =>
    by_cases h : dark .extensions = true
    · simp [Topic.enter, Snapshot.shown, Step.shown, Query.shown, h, Query.sentinel, distinctNames]
    · simp [Topic.enter, Snapshot.shown, Step.shown, Query.shown, h]
  | computeInvocations =>
    by_cases h : dark .maxComputeInvocations = true
    · simp [Topic.enter, Snapshot.shown, Step.shown, Query.shown, h, Query.sentinel]
    · simp [Topic.enter, Snapshot.shown, Step.shown, Query.shown, h]
  | _ => rfl

/-! ## Surveys side by side -/

/-- From sessions that `near` relates, one survey finds what `same` relates to what the other finds, and sessions are
left that `near` relates; and the first makes no calls but those that satisfy `allowed`. -/
def Survey.Relates {α β : Type} (rig rig' : Rig) (near : Session → Session → Prop) (allowed : rig.Wire.Request → Prop)
    (same : α → β → Prop) (survey : Survey α) (survey' : Survey β) : Prop :=
  ∀ session session', near session session' →
    same (session.play rig survey).answer (session'.play rig' survey').answer ∧
      near (session.play rig survey).after (session'.play rig' survey').after ∧
      ∀ e ∈ (session.play rig survey).events, allowed e.request

namespace Survey

variable {rig rig' : Rig} {near : Session → Session → Prop} {allowed : rig.Wire.Request → Prop} {α β γ δ : Type}
  {same : α → β → Prop} {same' : γ → δ → Prop}

theorem relates_pure {a : α} {b : β} (h : same a b) : Relates rig rig' near allowed same (pure a) (pure b) :=
  fun _ _ hnear => ⟨h, hnear, fun _ he => absurd he List.not_mem_nil⟩

theorem Relates.bind {survey : Survey α} {survey' : Survey β} {f : α → Survey γ} {f' : β → Survey δ}
    (h : Relates rig rig' near allowed same survey survey')
    (hf : ∀ a b, same a b → Relates rig rig' near allowed same' (f a) (f' b)) :
    Relates rig rig' near allowed same' (survey >>= f) (survey' >>= f') := by
  intro session session' hnear
  obtain ⟨hfound, hleft, hcalls⟩ := h session session' hnear
  obtain ⟨hfound', hleft', hcalls'⟩ := hf _ _ hfound _ _ hleft
  rw [Session.play_bind, Session.play_bind]
  refine ⟨hfound', hleft', fun e he => ?_⟩
  rcases List.mem_append.1 he with he | he
  · exact hcalls e he
  · exact hcalls' e he

theorem relates_stage {held : Stage → Stage → Prop}
    (h : ∀ session session' : Session, near session session' → held session.runtime.stage session'.runtime.stage) :
    Relates rig rig' near allowed held stage stage :=
  fun session session' hnear => ⟨h session session' hnear, hnear, fun _ he => absurd he List.not_mem_nil⟩

end Survey

/-- Queries over the first rig are those over the second with the dark ones left dark. -/
structure Rig.Shades (rig rig' : Rig) (names : List String) (dark : Query → Bool) (near : Session → Session → Prop)
    (allowed : rig.Wire.Request → Prop) : Prop where
  query (query : Query) : Survey.Relates rig rig' near allowed (fun answer answer' => answer = query.shown dark answer')
    query.survey query.survey
  vulkan : Survey.Relates rig rig' near allowed (fun _ _ => True) (Step.survey names .vulkan)
    (Step.survey names .vulkan)
  held (session session' : Session) : near session session' →
    session.runtime.stage.version = Query.contextVersion.shown dark session'.runtime.stage.version

namespace Rig.Shades

open Survey

variable {rig rig' : Rig} {names : List String} {dark : Query → Bool} {near : Session → Session → Prop}
  {allowed : rig.Wire.Request → Prop}

/-- Both results are shown alike, the one as it is, the other in the shade. -/
abbrev alike (dark : Query → Bool) (step : Step) (answer answer' : step.Answer) : Prop :=
  step.shown lit answer = step.shown dark answer'

theorem topic (h : rig.Shades rig' names dark near allowed) (topic : Topic) :
    Relates rig rig' near allowed (alike dark topic.step) (topic.step.survey names) (topic.step.survey names) := by
  obtain rfl | ⟨query, hquery⟩ := topic.step_eq_query
  · intro session session' hnear
    exact ⟨rfl, (h.vulkan session session' hnear).2⟩
  · generalize topic.step = step at hquery ⊢
    subst hquery
    exact h.query query

theorem probeAll (h : rig.Shades rig' names dark near allowed) (maxExtensions : Nat) : ∀ (order : List Topic)
    {snapshot snapshot' : Snapshot Timing}, snapshot.shown lit = snapshot'.shown dark →
      Relates rig rig' near allowed (fun taken taken' => taken.shown lit = taken'.shown dark)
        (probeAll names maxExtensions snapshot order) (probeAll names maxExtensions snapshot' order)
  | [], _, _, hshown => relates_pure hshown
  | topic :: rest, _, _, hshown => by
    unfold DriverSurvey.probeAll
    rw [Topic.probe_eq, Topic.probe_eq]
    refine ((h.topic topic).bind fun found found' hfound => relates_pure ?_).bind fun taken taken' htaken =>
      h.probeAll maxExtensions rest htaken
    rw [Topic.shown_enter, Topic.shown_enter, hshown, hfound]

theorem ensureEach (h : rig.Shades rig' names dark near allowed) : ∀ callers : Nat,
    Relates rig rig' near allowed (alike dark (.together callers)) (ensureEach callers) (ensureEach callers)
  | 0 => relates_pure (by simp [alike, Step.shown, lit])
  | callers + 1 => by
    refine (h.query .ensure).bind fun ensured ensured' hensured => (h.ensureEach callers).bind fun rest rest' hrest =>
      relates_pure ?_
    have hrest : rest = if dark .ensure then List.replicate callers false else rest' := hrest
    show ensured :: rest = if dark .ensure then List.replicate (callers + 1) false else ensured' :: rest'
    rw [hensured, hrest, Query.shown]
    by_cases hdark : dark .ensure = true
    · simp [hdark, Query.sentinel, List.replicate_succ]
    · simp [hdark]

theorem stage (h : rig.Shades rig' names dark near allowed) : Relates rig rig' near allowed
    (fun reached reached' : Stage => reached.version = Query.contextVersion.shown dark reached'.version)
    Survey.stage Survey.stage :=
  relates_stage h.held

theorem takeSnapshot (h : rig.Shades rig' names dark near allowed) (maxExtensions : Nat) (order : List Topic) :
    Relates rig rig' near allowed (fun taken taken' => taken.shown lit = taken'.shown dark)
      (takeSnapshot names maxExtensions order) (takeSnapshot names maxExtensions order) := by
  have hblank : (Snapshot.blank .notRun : Snapshot Timing).shown lit = (Snapshot.blank .notRun).shown dark := by
    unfold Snapshot.shown Query.shown
    simp [Snapshot.blank, Query.sentinel, lit]
  refine (h.probeAll maxExtensions order hblank).bind fun probed probed' hprobed =>
    h.stage.bind fun reached reached' hreached => relates_pure ?_
  calc { probed with contextVersion := reached.version }.shown lit
      = { probed.shown lit with contextVersion := reached.version } := rfl
    _ = { probed'.shown dark with contextVersion := Query.contextVersion.shown dark reached'.version } := by
        rw [hprobed, hreached]
    _ = { probed' with contextVersion := reached'.version }.shown dark := rfl

/-- **The survey of a step finds in the shade what it finds in the light**, but for what is dark. -/
theorem step (h : rig.Shades rig' names dark near allowed) : ∀ {step : Step}, step.isRaw = false →
    Relates rig rig' near allowed (alike dark step) (step.survey names) (step.survey names)
  | .query asked, _ => h.query asked
  | .heldVersion, _ => h.stage.bind fun _ _ hreached => relates_pure hreached
  | .vulkan, _ => fun session session' hnear => ⟨rfl, (h.vulkan session session' hnear).2⟩
  | .snapshot maxExtensions order, _ => h.takeSnapshot maxExtensions order
  | .together callers, _ => h.ensureEach callers
  | .amend _, _ => relates_pure rfl

end Rig.Shades

/-! ## Runs side by side -/

/-- The session with the driver changed. -/
def Session.amended (change : Change) (session : Session) : Session :=
  { session with driver := session.driver.amend change }

/-- What a step came to: its result as it is shown, and the runtime after it. -/
def Session.outcome {rig : Rig} (dark : Query → Bool) :
    (Σ step : Step, Performed rig step.Answer) → Σ step : Step, step.Answer × Runtime
  | ⟨step, performed⟩ => ⟨step, step.shown dark performed.answer, performed.after.runtime⟩

namespace Rig.Shades

variable {rig rig' : Rig} {names : List String} {dark : Query → Bool} {near : Session → Session → Prop}
  {allowed : rig.Wire.Request → Prop}

theorem perform (h : rig.Shades rig' names dark near allowed)
    (hamend : ∀ session session' change, near session session' →
      near (session.amended change) (session'.amended change))
    {step : Step} (hstep : step.isRaw = false) {session session' : Session} (hnear : near session session') :
    step.shown lit (session.perform rig names step).answer =
        step.shown dark (session'.perform rig' names step).answer ∧
      near (session.perform rig names step).after (session'.perform rig' names step).after ∧
      ∀ e ∈ (session.perform rig names step).events, allowed e.request := by
  obtain ⟨hfound, hleft, hcalls⟩ := h.step hstep session session' hnear
  exact ⟨hfound, hamend _ _ step.change hleft, hcalls⟩

/-- **A run comes to the same in the shade and in the light**, but for what is dark. -/
theorem performAll (h : rig.Shades rig' names dark near allowed)
    (hamend : ∀ session session' change, near session session' →
      near (session.amended change) (session'.amended change))
    (hruntime : ∀ session session', near session session' → session.runtime = session'.runtime) :
    ∀ (steps : List Step), (∀ step ∈ steps, step.isRaw = false) →
      ∀ {session session' : Session}, near session session' →
      (session.performAll rig names steps).map (Session.outcome lit) =
          (session'.performAll rig' names steps).map (Session.outcome dark) ∧
        ∀ played ∈ session.performAll rig names steps,
          (∃ session', near played.2.after session') ∧ ∀ e ∈ played.2.events, allowed e.request
  | [], _, _, _, _ => ⟨rfl, fun _ hplayed => absurd hplayed List.not_mem_nil⟩
  | step :: rest, hsteps, session, session', hnear => by
    obtain ⟨hshown, hleft, hcalls⟩ := h.perform hamend (hsteps step List.mem_cons_self) hnear
    obtain ⟨houtcomes, hallowed⟩ :=
      performAll h hamend hruntime rest (fun other hmem => hsteps other (List.mem_cons_of_mem _ hmem)) hleft
    constructor
    · unfold Session.performAll
      rw [List.map_cons, List.map_cons, houtcomes, Session.outcome, hshown, hruntime _ _ hleft]
      rfl
    · intro played hplayed
      rcases List.mem_cons.1 hplayed with rfl | hplayed
      · exact ⟨⟨_, hleft⟩, hcalls⟩
      · exact hallowed played hplayed

end Rig.Shades

end DriverSurvey
