import DriverSurvey.Proofs.Order
import DriverSurvey.Proofs.Coherence
/-!
# Guard — nothing is asked of the driver without a context

A query acquires once and before all else.  Without a context it answers its sentinel and calls no more; with one, all
that it asks comes behind the call that made the context current (`Session.guarded`).  The topics of a snapshot are
queries one behind the other (`Session.perform_snapshot`).  To read the version held, or to look for Vulkan, leaves
everything as it is, and so may be left out (`Session.performAll_active`).
-/
namespace DriverSurvey

open Program

/-! ## Queries -/

theorem Request.Asks.not_acquires {active : Active} {checked : Prop} {q : Request} (h : q.Asks active checked) :
    ¬q.Acquires := by
  rintro (hbuilds | ⟨display, surface, context, rfl⟩)
  · rw [h.not_builds] at hbuilds
    cases hbuilds
  · cases h

/-- How a query is played beside how acquiring alone is: acquiring makes `calls`, and `rest` is what the query calls
beyond that. -/
structure Guarded {loaders : LoaderShelf} (session : Session) (query : Query)
    (acquired : Performed (.direct loaders) (Option Active)) (performed : Performed (.direct loaders) query.Answer)
    (calls rest : List (Event Calls)) : Prop where
  /-- One acquiring, in one of the ways it can go, and nothing before it. -/
  acquiring : acquired.events = calls ∧ performed.events = calls ++ rest ∧
    performed.after.runtime = acquired.after.runtime ∧
    ∃ result, Acquisition session.runtime calls result acquired.after.runtime ∧ result.toOption = acquired.answer
  /-- No other acquiring behind it. -/
  once : ∀ e ∈ rest, ¬e.request.Acquires
  /-- Without a context, the sentinel and not one call more; errors stay pending. -/
  refused : acquired.answer = none → performed.answer = query.sentinel ∧ rest = [] ∧
    performed.after = acquired.after ∧ performed.after.driver.errors = session.driver.errors
  /-- With one, only what may be asked under it, behind the call that made it current. -/
  allowed : ∀ active, acquired.answer = some active → ∃ display bound earlier,
    performed.after.runtime = .ready display bound ∧ active = bound.active display ∧
      calls = earlier ++ [⟨.makeCurrent display bound.surface bound.context, true⟩] ∧
      ∀ e ∈ rest, e.request.Asks (bound.active display) (query = .maxComputeInvocations)

namespace Session

variable (loaders : LoaderShelf) (names : List String)

/-- **No query without a context**: acquiring comes first, and decides whether anything else comes at all. -/
theorem guarded (session : Session) (query : Query) : ∃ calls rest,
    Guarded session query (session.perform (.direct loaders) names (.query .active))
      (session.perform (.direct loaders) names (.query query)) calls rest := by
  obtain ⟨value, version, events, hrun, -, -⟩ := @acquire_ends loaders session.runtime session.driver
  have hacquisition := acquire_trace (trace_run (DriverState.serve loaders) session.runtime.acquire session.driver)
  rw [perform_active, perform_query]
  rw [hrun] at hacquisition ⊢
  obtain ⟨result, after⟩ := value
  cases result with
  | error fault =>
    exact ⟨events, [], ⟨rfl, (List.append_nil events).symm, rfl, _, hacquisition, rfl⟩,
      fun e he => absurd he List.not_mem_nil, fun _ => ⟨rfl, rfl, rfl, rfl⟩, nofun⟩
  | ok active =>
    have hasks := (body_asks query active).of_mem
      (trace_run (DriverState.serve loaders) (query.body active) { session.driver with chosen := version })
    refine ⟨events, _, ⟨rfl, rfl, rfl, _, hacquisition, rfl⟩, fun e he => (hasks e he).not_acquires, nofun, ?_⟩
    intro handed hhanded
    cases hhanded
    obtain ⟨display, bound, rfl, rfl⟩ := Runtime.active?_eq_some hacquisition.active
    rcases hacquisition.ends with ⟨d, b, earlier, hready, hevents, -⟩ | ⟨hnone, -⟩
    · cases hready
      exact ⟨display, bound, earlier, rfl, rfl, hevents, hasks⟩
    · cases hnone

/-! ## Snapshots -/

/-- The snapshot with the answers entered of topics that are played one after the other. -/
def entered (maxExtensions : Nat) : List Topic → Session → Snapshot Timing → Snapshot Timing
  | [], _, snapshot => snapshot
  | topic :: rest, session, snapshot =>
    let performed := session.perform (.direct loaders) names topic.step
    entered maxExtensions rest performed.after (topic.enter maxExtensions snapshot performed.answer)

theorem change_step (topic : Topic) : topic.step.change = {} := by
  cases topic <;> rfl

theorem isRaw_step (topic : Topic) : topic.step.isRaw = false := by
  cases topic <;> rfl

theorem play_probe (maxExtensions : Nat) (snapshot : Snapshot Timing) (topic : Topic) (session : Session) :
    session.play (.direct loaders) (topic.probe names maxExtensions snapshot) =
      let performed := session.perform (.direct loaders) names topic.step
      ⟨topic.enter maxExtensions snapshot performed.answer, performed.after, performed.events⟩ := by
  have hprobe : topic.probe names maxExtensions snapshot =
      topic.step.survey names >>= fun found => pure (topic.enter maxExtensions snapshot found) :=
    Topic.probe_eq names maxExtensions snapshot topic
  rw [hprobe, play_bind, play_pure, ← perform_eq_play _ _ (change_step topic)]
  exact congrArg (Performed.mk _ _) (List.append_nil _)

theorem play_probeAll (maxExtensions : Nat) : ∀ (order : List Topic) (snapshot : Snapshot Timing) (session : Session),
    session.play (.direct loaders) (probeAll names maxExtensions snapshot order) =
      ⟨session.entered loaders names maxExtensions order snapshot,
        session.afterAll (.direct loaders) names (order.map Topic.step),
        session.surveyCalls loaders names (order.map Topic.step)⟩
  | [], snapshot, session => play_pure (.direct loaders) snapshot session
  | topic :: rest, snapshot, session => by
    rw [probeAll, play_bind, play_probe, play_probeAll maxExtensions rest, List.map_cons, surveyCalls_cons,
      managedCalls, isRaw_step]
    rfl

/-- **A snapshot plays the steps of its topics** one after the other, and enters what they answer. -/
theorem perform_snapshot (session : Session) (maxExtensions : Nat) (order : List Topic) :
    session.perform (.direct loaders) names (.snapshot maxExtensions order) =
      let after := session.afterAll (.direct loaders) names (order.map Topic.step)
      ⟨{ session.entered loaders names maxExtensions order (.blank .notRun) with
          contextVersion := after.runtime.stage.version },
        after, session.surveyCalls loaders names (order.map Topic.step)⟩ := by
  rw [perform_eq_play _ _ rfl, Step.survey, takeSnapshot, play_bind, play_probeAll]
  exact congrArg (Performed.mk _ _) (List.append_nil _)

end Session

/-! ## Steps without a context -/

/-- Whether the step needs no context: to read the version held, or to look for Vulkan. -/
def Step.isPassive : Step → Bool
  | .heldVersion | .vulkan => true
  | _ => false

namespace Session

variable (loaders : LoaderShelf) (names : List String)

theorem perform_heldVersion (session : Session) : session.perform (.direct loaders) names .heldVersion =
    ⟨session.runtime.stage.version, session, []⟩ := by
  rw [perform_eq_play _ _ rfl, play_direct]
  rfl

theorem perform_vulkan (session : Session) : session.perform (.direct loaders) names .vulkan =
    let checked := (Vulkan.check names).run (DriverState.serve loaders) session.driver
    ⟨checked.value, session, checked.events⟩ := by
  have hstate : ((Vulkan.check names).run (DriverState.serve loaders) session.driver).state = session.driver :=
    run_still ((check_loads names).mono fun q hq => by cases hq <;> exact fun _ => rfl) session.driver
  have hplayed := session.play_lift (.direct loaders) (Vulkan.check names)
  simp only [Rig.direct, via_ask, hstate] at hplayed
  rw [perform_eq_play _ _ rfl]
  exact hplayed

/-- **A step that needs no context leaves everything as it is**, and calls nothing but loaders. -/
theorem perform_passive {step : Step} (h : step.isPassive = true) (session : Session) :
    (session.perform (.direct loaders) names step).after = session ∧
      ∀ e ∈ (session.perform (.direct loaders) names step).events, e.request.Loads := by
  cases step with
  | heldVersion =>
    rw [perform_heldVersion]
    exact ⟨rfl, fun e he => absurd he List.not_mem_nil⟩
  | vulkan =>
    rw [perform_vulkan]
    exact ⟨rfl, (check_loads names).of_mem (trace_run _ _ _)⟩
  | _ => cases h

/-- **What is found of Vulkan, the loaders alone decide**: in every session the same. -/
theorem vulkan_regardless (session other : Session) :
    let found := session.perform (.direct loaders) names .vulkan
    let found' := other.perform (.direct loaders) names .vulkan
    found.answer = found'.answer ∧ found.events = found'.events := by
  simp only [perform_vulkan]
  exact run_regardless ((check_loads names).mono fun q hq => by cases hq <;> exact fun _ _ => rfl) session.driver
    other.driver

/-- **Steps that need no context may be left out**: the others do what they did. -/
theorem performAll_active : ∀ (steps : List Step) (session : Session),
    session.performAll (.direct loaders) names (steps.filter fun step => !step.isPassive) =
      (session.performAll (.direct loaders) names steps).filter fun played => !played.1.isPassive
  | [], _ => rfl
  | step :: rest, session => by
    rw [performAll]
    cases h : step.isPassive with
    | true =>
      rw [List.filter_cons_of_neg (by simp [h]), List.filter_cons_of_neg (by simp [h]),
        (perform_passive loaders names h session).1]
      exact performAll_active rest session
    | false =>
      rw [List.filter_cons_of_pos (by simp [h]), List.filter_cons_of_pos (by simp [h]), performAll,
        performAll_active rest]

/-- **The driver is asked nothing without a context**, in every state and over every driver.  Queries acquire first and
give their sentinels if that fails, alone or in a snapshot; steps that need no context call nothing but loaders, change
nothing, find the same in whatever state, and leave all other steps as they would be without them. -/
theorem guarded_of_state (session : Session) :
    (∀ query, ∃ calls rest, Guarded session query (session.perform (.direct loaders) names (.query .active))
      (session.perform (.direct loaders) names (.query query)) calls rest) ∧
    (∀ maxExtensions order, session.perform (.direct loaders) names (.snapshot maxExtensions order) =
      let after := session.afterAll (.direct loaders) names (order.map Topic.step)
      ⟨{ session.entered loaders names maxExtensions order (.blank .notRun) with
          contextVersion := after.runtime.stage.version },
        after, session.surveyCalls loaders names (order.map Topic.step)⟩) ∧
    (∀ step : Step, step.isPassive = true → (session.perform (.direct loaders) names step).after = session ∧
      ∀ e ∈ (session.perform (.direct loaders) names step).events, e.request.Loads) ∧
    session.perform (.direct loaders) names .heldVersion = ⟨session.runtime.stage.version, session, []⟩ ∧
    (∀ other : Session, (session.perform (.direct loaders) names .vulkan).answer =
      (other.perform (.direct loaders) names .vulkan).answer) ∧
    ∀ steps : List Step, session.performAll (.direct loaders) names (steps.filter fun step => !step.isPassive) =
      (session.performAll (.direct loaders) names steps).filter fun played => !played.1.isPassive :=
  ⟨fun query => guarded loaders names session query,
    fun maxExtensions order => perform_snapshot loaders names session maxExtensions order,
    fun _ h => perform_passive loaders names h session,
    perform_heldVersion loaders names session,
    fun other => (vulkan_regardless loaders names session other).1,
    fun steps => performAll_active loaders names steps session⟩

end Session

end DriverSurvey
