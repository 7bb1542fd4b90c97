import DriverSurvey.Proofs.Acquisition
/-!
# Managed — surveys move the context only by acquiring it

Every step but a raw call is a course of its runtime, whatever the driver answers (`managed_step`).  A whole session,
with its driver changing between the steps, is therefore one course (`course_of_steps`).
-/
namespace DriverSurvey

open Program

/-! ## Acquiring is a course -/

/-- **Acquiring is a course, and what it hands out is what the runtime then holds.** -/
theorem acquire_course {runtime : Runtime} {es : List (Event Calls)} {result : Except Fault Active} {after : Runtime}
    (h : runtime.acquire.Trace es (result, after)) :
    Course runtime es after ∧ ∀ active, result = .ok active → after.active? = some active := by
  have hacquisition := acquire_trace h
  refine ⟨hacquisition.course, fun active hresult => ?_⟩
  subst hresult
  exact hacquisition.active

/-! ## Surveys are courses -/

/-- A survey that touches the lifecycle only by acquiring: each of its traces is a course of the runtime. -/
def Survey.Managed {α : Type} (survey : Survey α) : Prop :=
  ∀ (runtime : Runtime) (es : List (Event Calls)) (value : α) (after : Runtime),
    (survey runtime).Trace es (value, after) → Course runtime es after

namespace Survey

variable {α β : Type}

theorem managed_pure (a : α) : (pure a : Survey α).Managed := by
  rintro runtime _ _ _ ⟨rfl, h⟩
  cases h
  exact .rest runtime

theorem Managed.bind {survey : Survey α} {f : α → Survey β} (h : survey.Managed) (hf : ∀ a, (f a).Managed) :
    (survey >>= f).Managed := by
  intro runtime es b after ht
  obtain ⟨es₁, ⟨a, middle⟩, es₂, h₁, h₂, rfl⟩ := (trace_bind _ _ _ _).1 ht
  exact (h _ _ _ _ h₁).append (hf a _ _ _ _ h₂)

theorem managed_stage : Survey.stage.Managed := by
  rintro runtime _ _ _ ⟨rfl, h⟩
  cases h
  exact .rest runtime

theorem managed_lift {p : Program Calls α} (h : p.Only Request.Loads) : (liftM p : Survey α).Managed := by
  intro runtime es a after ht
  obtain ⟨es₁, a, es₂, h₁, ⟨rfl, h₂⟩, rfl⟩ := (trace_bind _ _ _ _).1 ht
  cases h₂
  rw [List.append_nil]
  exact course_of_forall fun e he => .loader runtime e (h.of_mem h₁ e he)

/-- **A query acquires, and then gives its sentinel or asks under the context that the runtime holds.** -/
theorem query_trace {query : Query} {runtime : Runtime} {es : List (Event Calls)} {answer : query.Answer}
    {after : Runtime} (h : (query.survey runtime).Trace es (answer, after)) :
    ∃ es₁ result es₂, runtime.acquire.Trace es₁ (result, after) ∧ es = es₁ ++ es₂ ∧ match result with
      | .error _ => answer = query.sentinel ∧ es₂ = []
      | .ok active => (query.body active).Trace es₂ answer := by
  obtain ⟨es₁, ⟨result, acquired⟩, es₂, h₁, h₂, rfl⟩ := (trace_bind _ _ _ _).1 h
  cases result with
  | error fault =>
    obtain ⟨rfl, h₂⟩ := h₂
    cases h₂
    exact ⟨es₁, .error fault, [], h₁, rfl, rfl, rfl⟩
  | ok active =>
    obtain ⟨es₃, _, es₄, h₃, ⟨rfl, h₄⟩, rfl⟩ := (trace_bind _ _ _ _).1 h₂
    cases h₄
    rw [List.append_nil]
    exact ⟨es₁, .ok active, es₃, h₁, rfl, h₃⟩

/-- **To play a query is to play acquiring**, and then to give the sentinel or to play what is asked. -/
theorem run_query {σ : Type} (serve : Server Calls σ) (query : Query) (runtime : Runtime) (state : σ) :
    (query.survey runtime).run serve state =
      let acquired := runtime.acquire.run serve state
      match acquired.value.1 with
      | .error _ => ⟨(query.sentinel, acquired.value.2), acquired.state, acquired.events⟩
      | .ok active =>
        let asked := (query.body active).run serve acquired.state
        ⟨(asked.value, acquired.value.2), asked.state, acquired.events ++ asked.events⟩ := by
  have hrun : (query.survey runtime).run serve state = _ := run_bind serve _ runtime.acquire state
  rw [hrun]
  generalize runtime.acquire.run serve state = acquired
  obtain ⟨⟨result, after⟩, state, events⟩ := acquired
  cases result with
  | error fault =>
    show Played.mk _ _ (events ++ []) = _
    rw [List.append_nil]
    rfl
  | ok active =>
    have hasked := run_bind serve (fun answer => (pure (answer, after) : Program Calls _)) (query.body active) state
    show Played.mk ((query.body active >>= fun answer => pure (answer, after)).run serve state).value _ _ = _
    rw [hasked]
    show Played.mk _ _ (events ++ (_ ++ [])) = _
    rw [List.append_nil]
    rfl

/-- **A query is a course.** -/
theorem managed_query (query : Query) : query.survey.Managed := by
  intro runtime es a after ht
  obtain ⟨es₁, result, es₂, h₁, rfl, h₂⟩ := query_trace ht
  obtain ⟨c, hactive⟩ := acquire_course h₁
  cases result with
  | error fault =>
    obtain ⟨-, rfl⟩ := h₂
    rwa [List.append_nil]
  | ok active =>
    obtain ⟨display, bound, rfl, rfl⟩ := Runtime.active?_eq_some (hactive active rfl)
    exact c.append (course_of_forall fun e he => .asked display bound e
      (((body_asks query _).of_mem h₂ e he).mono fun _ => trivial))

end Survey

theorem managed_probe (names : List String) (maxExtensions : Nat) (snapshot : Snapshot Timing) :
    ∀ topic : Topic, (topic.probe names maxExtensions snapshot).Managed
  | .vulkan => (Survey.managed_lift (check_loads names)).bind fun _ => Survey.managed_pure _
  | .renderer | .vendor | .version | .extensions | .displayVendor | .configuration | .memory | .maxTextureSize
  | .computeInvocations | .benchmark => (Survey.managed_query _).bind fun _ => Survey.managed_pure _

theorem managed_probeAll (names : List String) (maxExtensions : Nat) :
    ∀ (topics : List Topic) (snapshot : Snapshot Timing), (probeAll names maxExtensions snapshot topics).Managed
  | [], _ => Survey.managed_pure _
  | topic :: rest, snapshot => (managed_probe names maxExtensions snapshot topic).bind fun after =>
      managed_probeAll names maxExtensions rest after

theorem managed_ensureEach : ∀ callers : Nat, (ensureEach callers).Managed
  | 0 => Survey.managed_pure _
  | callers + 1 => (Survey.managed_query .ensure).bind fun _ => (managed_ensureEach callers).bind fun _ =>
      Survey.managed_pure _

/-- Whether the step is a single call and not a survey. -/
def Step.isRaw : Step → Bool
  | .raw _ => true
  | _ => false

/-- **Every step but a raw call is a course of the runtime.** -/
theorem managed_step (names : List String) : ∀ step : Step, step.isRaw = false → (step.survey names).Managed
  | .query asked, _ => Survey.managed_query asked
  | .heldVersion, _ => Survey.managed_stage.bind fun _ => Survey.managed_pure _
  | .vulkan, _ => Survey.managed_lift (check_loads names)
  | .snapshot maxExtensions order, _ => (managed_probeAll names maxExtensions order _).bind fun _ =>
      Survey.managed_stage.bind fun _ => Survey.managed_pure _
  | .together callers, _ => managed_ensureEach callers
  | .amend _, _ => Survey.managed_pure ()

/-! ## Sessions are courses -/

theorem via_ask {α : Type} : ∀ p : Program Calls α, p.via ask = p
  | .done _ => rfl
  | .call q next => congrArg (Program.call q) (funext fun r => via_ask (next r))

namespace Session

/-- The session after some steps. -/
def afterAll (rig : Rig) (names : List String) : List Step → Session → Session
  | [], session => session
  | step :: rest, session => afterAll rig names rest (session.perform rig names step).after

/-- The calls that a step made as a survey; a raw call is none. -/
def managedCalls {loaders : LoaderShelf} :
    (Σ step : Step, Performed (.direct loaders) step.Answer) → List (Event Calls)
  | ⟨step, performed⟩ => if step.isRaw then [] else performed.events

/-- The calls that the surveys among some steps made, in order; raw calls are left out. -/
def surveyCalls (loaders : LoaderShelf) (names : List String) (steps : List Step) (session : Session) :
    List (Event Calls) :=
  (session.performAll (.direct loaders) names steps).flatMap managedCalls

theorem surveyCalls_cons (loaders : LoaderShelf) (names : List String) (step : Step) (rest : List Step)
    (session : Session) : surveyCalls loaders names (step :: rest) session =
      managedCalls ⟨step, session.perform (.direct loaders) names step⟩ ++
        surveyCalls loaders names rest (session.perform (.direct loaders) names step).after :=
  List.flatMap_cons

theorem play_direct {α : Type} (loaders : LoaderShelf) (survey : Survey α) (session : Session) :
    session.play (.direct loaders) survey =
      let played := (survey session.runtime).run (DriverState.serve loaders) session.driver
      ⟨played.value.1, ⟨played.value.2, played.state⟩, played.events⟩ := by
  simp only [play, Rig.direct, via_ask]

theorem play_pure {α : Type} (rig : Rig) (a : α) (session : Session) :
    session.play rig (pure a) = ⟨a, session, []⟩ := rfl

/-- **Surveys in a row are played in a row**, the second from the session that the first leaves. -/
theorem play_bind {α β : Type} (rig : Rig) (survey : Survey α) (f : α → Survey β) (session : Session) :
    session.play rig (survey >>= f) =
      ⟨((session.play rig survey).after.play rig (f (session.play rig survey).answer)).answer,
        ((session.play rig survey).after.play rig (f (session.play rig survey).answer)).after,
        (session.play rig survey).events ++
          ((session.play rig survey).after.play rig (f (session.play rig survey).answer)).events⟩ := by
  have hplayed := run_bind rig.serve (fun found : α × Runtime => (f found.1 found.2).via rig.route)
    ((survey session.runtime).via rig.route) session.driver
  rw [← via_bind] at hplayed
  unfold play
  rw [show (((survey >>= f) session.runtime).via rig.route).run _ _ = _ from hplayed]

/-- A program that does not look at the runtime leaves it as it is. -/
theorem play_lift {α : Type} (rig : Rig) (p : Program Calls α) (session : Session) :
    session.play rig (liftM p : Survey α) =
      let played := (p.via rig.route).run rig.serve session.driver
      ⟨played.value, ⟨session.runtime, played.state⟩, played.events⟩ := by
  have hplayed := run_bind rig.serve (fun found => (pure (found, session.runtime) : Program rig.Wire _))
    (p.via rig.route) session.driver
  have hvia : ((liftM p : Survey α) session.runtime).via rig.route =
      p.via rig.route >>= fun found => pure (found, session.runtime) := via_bind rig.route _ p
  unfold play
  rw [hvia, hplayed]
  exact congrArg (Performed.mk _ _) (List.append_nil _)

/-- **A step that does not change the driver is the playing of its survey.** -/
theorem perform_eq_play (rig : Rig) (names : List String) {step : Step} (h : step.change = {}) (session : Session) :
    session.perform rig names step = session.play rig (step.survey names) := by
  rw [perform, h]
  simp only [DriverState.amend_nothing]

theorem perform_direct (loaders : LoaderShelf) (names : List String) (step : Step) (session : Session) :
    session.perform (.direct loaders) names step =
      let played := (step.survey names session.runtime).run (DriverState.serve loaders) session.driver
      ⟨played.value.1, ⟨played.value.2, played.state.amend step.change⟩, played.events⟩ := by
  rw [perform, play_direct]

/-- **A query that is played acquires**, and then gives its sentinel or asks under the context. -/
theorem perform_query (loaders : LoaderShelf) (names : List String) (query : Query) (session : Session) :
    session.perform (.direct loaders) names (.query query) =
      let acquired := session.runtime.acquire.run (DriverState.serve loaders) session.driver
      match acquired.value.1 with
      | .error _ => ⟨query.sentinel, ⟨acquired.value.2, acquired.state⟩, acquired.events⟩
      | .ok active =>
        let asked := (query.body active).run (DriverState.serve loaders) acquired.state
        ⟨asked.value, ⟨acquired.value.2, asked.state⟩, acquired.events ++ asked.events⟩ := by
  have hrun := Survey.run_query (DriverState.serve loaders) query session.runtime session.driver
  rw [perform_eq_play _ _ rfl, play_direct]
  simp only [Step.survey, hrun]
  cases (session.runtime.acquire.run (DriverState.serve loaders) session.driver).value.1 <;> rfl

/-- **To ask for the context is to acquire**, and no more. -/
theorem perform_active (loaders : LoaderShelf) (names : List String) (session : Session) :
    session.perform (.direct loaders) names (.query .active) =
      let acquired := session.runtime.acquire.run (DriverState.serve loaders) session.driver
      ⟨acquired.value.1.toOption, ⟨acquired.value.2, acquired.state⟩, acquired.events⟩ := by
  rw [perform_query]
  generalize session.runtime.acquire.run (DriverState.serve loaders) session.driver = acquired
  obtain ⟨⟨result, after⟩, state, events⟩ := acquired
  cases result with
  | error fault => rfl
  | ok active => exact congrArg (Performed.mk (some active) ⟨after, state⟩) (List.append_nil events)

theorem trace_perform (loaders : LoaderShelf) (names : List String) (step : Step) (session : Session) :
    ∃ es, (step.survey names session.runtime).Trace es
      ((session.perform (.direct loaders) names step).answer,
        (session.perform (.direct loaders) names step).after.runtime) := by
  rw [perform_direct]
  exact ⟨_, trace_run (DriverState.serve loaders) (step.survey names session.runtime) session.driver⟩

theorem course_perform (loaders : LoaderShelf) (names : List String) (step : Step) (session : Session) :
    Course session.runtime (managedCalls ⟨step, session.perform (.direct loaders) names step⟩)
      (session.perform (.direct loaders) names step).after.runtime := by
  rw [perform_direct]
  cases hraw : step.isRaw with
  | false =>
    rw [managedCalls, hraw]
    exact managed_step names step hraw _ _ _ _ (trace_run _ _ _)
  | true =>
    cases step with
    | raw request => exact .rest _
    | _ => cases hraw

/-- **The surveys of a session are one course of its runtime**, over any driver, also one that changes on the way. -/
theorem course_of_steps (loaders : LoaderShelf) (names : List String) : ∀ (steps : List Step) (session : Session),
    Course session.runtime (surveyCalls loaders names steps session)
      (afterAll (.direct loaders) names steps session).runtime
  | [], session => .rest session.runtime
  | step :: rest, session => by
    rw [surveyCalls_cons]
    exact (course_perform loaders names step session).append (course_of_steps loaders names rest _)

/-- **Every step that was played is a trace of its survey**, and the rest of the session goes on from what it left. -/
theorem trace_of_mem (loaders : LoaderShelf) (names : List String)
    {played : Σ step : Step, Performed (.direct loaders) step.Answer} : ∀ (steps : List Step) (session : Session),
      played ∈ session.performAll (.direct loaders) names steps → ∃ runtime es log,
        (played.1.survey names runtime).Trace es (played.2.answer, played.2.after.runtime) ∧
          Course played.2.after.runtime log (afterAll (.direct loaders) names steps session).runtime
  | [], _, h => absurd h List.not_mem_nil
  | step :: rest, session, h => by
    rcases List.mem_cons.1 h with rfl | h
    · obtain ⟨es, ht⟩ := trace_perform loaders names step session
      exact ⟨session.runtime, es, _, ht, course_of_steps loaders names rest _⟩
    · exact trace_of_mem loaders names rest _ h

end Session
end DriverSurvey
