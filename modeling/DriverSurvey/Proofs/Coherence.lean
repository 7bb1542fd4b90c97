import DriverSurvey.Proofs.Resources
/-!
# Coherence — what is held came together, and nothing else is ever current

Display, configuration, surface and context of a runtime that is ready are those of one attempt in the log, for one
version, on a display that was initialized before (`Course.origin`).  Only they are ever made current, and only their
display and configuration are handed out or asked about (`Course.of_mem`).
-/
namespace DriverSurvey

/-! ## Calls under a context -/

/-- The calls that a bound context is there for: making it current, and asking under it. -/
def Bound.Allows (display : Display) (bound : Bound) (request : Request) : Prop :=
  request = .makeCurrent display bound.surface bound.context ∨ request.Asks (bound.active display) True

theorem Move.of_mem {r r' : Runtime} {calls : List (Event Calls)} (m : Move r calls r') {e : Event Calls}
    (he : e ∈ calls) :
    e.request.builds = true ∨ e.request.Loads ∨ ∃ d b, r' = .ready d b ∧ b.Allows d e.request := by
  cases m with
  | activated d b current =>
    cases List.mem_singleton.1 he
    exact .inr (.inr ⟨d, b, rfl, .inl rfl⟩)
  | asked d b _ ha =>
    cases List.mem_singleton.1 he
    exact .inr (.inr ⟨d, b, rfl, .inr ha⟩)
  | loader r _ hl =>
    cases List.mem_singleton.1 he
    exact .inr (.inl hl)
  | _ => exact .inl (builds_of_all rfl he)

/-- **A call of a course builds a context, or loads, or is made under the context that the course ends with.** -/
theorem Course.of_mem {r r' : Runtime} {log : List (Event Calls)} (h : Course r log r') {e : Event Calls}
    (he : e ∈ log) :
    e.request.builds = true ∨ e.request.Loads ∨ ∃ d b, r' = .ready d b ∧ b.Allows d e.request := by
  obtain ⟨r₁, es₁, calls, r₂, es₂, -, m, hmem, c⟩ := h.mem he
  rcases m.of_mem hmem with hb | hl | ⟨d, b, rfl, ha⟩
  · exact .inl hb
  · exact .inr (.inl hl)
  · exact .inr (.inr ⟨d, b, c.eq_ready rfl, ha⟩)

/-! ## One attempt -/

theorem Course.madeContext_of_same {r : Runtime} {log : List (Event Calls)} (h : Course r log r) :
    log.filterMap Event.madeContext? = [] :=
  List.self_eq_append_right.1 (h.accumulates contexts_conserved).symm

theorem Course.not_current {r r' : Runtime} {log : List (Event Calls)} (h : Course r log r')
    (hr : r'.bound? = none) {e : Event Calls} (he : e ∈ log) (d : Display) (s : Surface) (x : Context) :
    e.request ≠ .makeCurrent d s x := by
  intro hq
  rcases h.of_mem he with hb | hl | ⟨d', b, rfl, -⟩
  · rw [hq] at hb
    cases hb
  · rw [hq] at hl
    cases hl
  · cases hr

/-- What a log tells of where the context of a runtime came from and what was done with it. -/
structure Coherent (log : List (Event Calls)) (runtime : Runtime) : Prop where
  /-- All that is held came out of one attempt, on a display initialized before.  No other attempt got a context, and
  nothing was made current before this one. -/
  origin : ∀ display bound, runtime = .ready display bound → ∃ before version between api after,
    log = before ++ opening display version ++ between ++ creation api display bound ++ after ∧
      (before ++ between ++ after).filterMap Event.madeContext? = [] ∧
      ∀ e ∈ before ++ between, ∀ d s x, e.request ≠ .makeCurrent d s x
  /-- Nothing is made current but what is held. -/
  current : ∀ display surface context reply, ⟨.makeCurrent display surface context, reply⟩ ∈ log →
    ∃ bound, runtime = .ready display bound ∧ bound.surface = surface ∧ bound.context = context
  /-- No display is asked for a text but the one held, under a context. -/
  displayText : ∀ display which reply, ⟨.displayText display which, reply⟩ ∈ log →
    ∃ bound, runtime = .ready display bound
  /-- No configuration is asked for a depth but the one held. -/
  configDepth : ∀ display config channel reply, ⟨.configDepth display config channel, reply⟩ ∈ log →
    ∃ bound, runtime = .ready display bound ∧ bound.config = config

/-- **Every course from the start is coherent.** -/
theorem Course.coherent {runtime : Runtime} {log : List (Event Calls)} (h : Course .uninitialized log runtime) :
    Coherent log runtime where
  origin := by
    rintro display bound rfl
    obtain ⟨opened, api, after, rfl, copened, cafter⟩ := h.exists_creation nofun
    obtain ⟨before, version, between, rfl, cbefore, cbetween⟩ := copened.exists_opening nofun
    refine ⟨before, version, between, api, after, rfl, ?_, fun e he => ?_⟩
    · rw [List.filterMap_append, List.filterMap_append, cbefore.madeContext_of_same, cbetween.madeContext_of_same,
        cafter.madeContext_of_same]
      rfl
    · rcases List.mem_append.1 he with he | he
      · exact cbefore.not_current rfl he
      · exact cbetween.not_current rfl he
  current := by
    intro display surface context reply he
    rcases h.of_mem he with hb | hl | ⟨d, b, rfl, hq | ha⟩
    · cases hb
    · cases hl
    · cases hq
      exact ⟨b, rfl, rfl, rfl⟩
    · cases ha
  displayText := by
    intro display which reply he
    rcases h.of_mem he with hb | hl | ⟨d, b, rfl, hq | ha⟩
    · cases hb
    · cases hl
    · cases hq
    · cases ha
      exact ⟨b, rfl⟩
  configDepth := by
    intro display config channel reply he
    rcases h.of_mem he with hb | hl | ⟨d, b, rfl, hq | ha⟩
    · cases hb
    · cases hl
    · cases hq
    · cases ha
      exact ⟨b, rfl, rfl⟩

/-! ## What is handed out -/

/-- **The handles that a step answers are those that the runtime then holds.** -/
theorem active_of_answer {runtime after : Runtime} {es : List (Event Calls)} {active : Active}
    (h : (Query.survey .active runtime).Trace es (some active, after)) : after.active? = some active := by
  obtain ⟨es₁, result, es₂, h₁, -, h₂⟩ := Survey.query_trace h
  cases result with
  | error fault => cases h₂.1
  | ok held =>
    obtain ⟨rfl, h₂⟩ := h₂
    cases h₂
    exact (acquire_course h₁).2 active rfl

theorem version_of_answer {runtime after : Runtime} {es : List (Event Calls)} {version : EsVersion}
    (h : (Query.survey .contextVersion runtime).Trace es (some version, after)) :
    ∃ active, after.active? = some active ∧ active.version = version := by
  obtain ⟨es₁, result, es₂, h₁, -, h₂⟩ := Survey.query_trace h
  cases result with
  | error fault => cases h₂.1
  | ok held =>
    obtain ⟨rfl, h₂⟩ := h₂
    cases h₂
    exact ⟨held, (acquire_course h₁).2 held rfl, rfl⟩

theorem Course.active?_eq {r r' : Runtime} {log : List (Event Calls)} (h : Course r log r') {active : Active}
    (ha : r.active? = some active) : r'.active? = some active := by
  obtain ⟨display, bound, rfl, rfl⟩ := Runtime.active?_eq_some ha
  rw [h.eq_ready rfl]
  rfl

/-- **One coherent set is held, and it alone is made current and handed out**, in every state that any steps reach
over any driver, raw calls and changes of the driver among them. -/
theorem coherent_of_steps (loaders : LoaderShelf) (names : List String) (steps : List Step) (driver : DriverState) :
    let runtime := (Session.afterAll (.direct loaders) names steps { driver }).runtime
    let played := ({ driver } : Session).performAll (.direct loaders) names steps
    Coherent (Session.surveyCalls loaders names steps { driver }) runtime ∧
      (∀ performed active, ⟨.query .active, performed⟩ ∈ played → performed.answer = some active →
        runtime.active? = some active) ∧
      (∀ performed version, ⟨.query .contextVersion, performed⟩ ∈ played → performed.answer = some version →
        runtime.stage.version = some version) ∧
      ∀ (r after : Runtime) es active, r.acquire.Trace es (.ok active, after) → after.active? = some active := by
  intro runtime played
  refine ⟨(Session.course_of_steps loaders names steps { driver }).coherent, ?_, ?_, ?_⟩
  · intro performed active hmem hanswer
    obtain ⟨r, es, log, ht, c⟩ := Session.trace_of_mem loaders names steps { driver } hmem
    rw [hanswer] at ht
    exact c.active?_eq (active_of_answer ht)
  · intro performed version hmem hanswer
    obtain ⟨r, es, log, ht, c⟩ := Session.trace_of_mem loaders names steps { driver } hmem
    rw [hanswer] at ht
    obtain ⟨active, ha, rfl⟩ := version_of_answer ht
    obtain ⟨display, bound, hr, rfl⟩ := Runtime.active?_eq_some (c.active?_eq ha)
    rw [show runtime = .ready display bound from hr]
    rfl
  · intro r after es active h
    exact (acquire_course h).2 active rfl

end DriverSurvey
