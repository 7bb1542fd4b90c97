import DriverSurvey.Proofs.Managed
/-!
# Outcome — what acquiring comes to under a script

A scripted driver decides by its script alone whether a display opens, whether a version gets a context and whether it
can be made current (`acquire_ends`).  Neither the errors it has pending nor what it was asked before matter, so a
runtime that has acquired once stays as it is (`acquired_acquired`).
-/
namespace DriverSurvey

open Program

/-! ## What a script has to give -/

namespace Script

/-- The display that can be opened. -/
def opens? (script : Script) : Option Display :=
  if script.connection.isSome then script.display.map (⟨·⟩) else none

/-- The context that an attempt at a version gets. -/
def binds? (script : Script) (version : EsVersion) : Option Bound := do
  let config ← (script.configs.get version).config?
  let surface ← script.surfaces.get version
  let context ← script.contexts.get version
  return ⟨⟨surface⟩, ⟨context⟩, config, version⟩

/-- What a runtime comes to that tries for a context on a display. -/
def boundOn (script : Script) (display : Display) : Runtime :=
  match EsVersion.byPreference.findSome? script.binds? with
  | some bound => .ready display bound
  | none => .displayBound display

end Script

/-- What a runtime comes to that acquires under a script. -/
def Runtime.acquired (script : Script) : Runtime → Runtime
  | .ready display bound => .ready display bound
  | .displayBound display => script.boundOn display
  | .uninitialized => match script.opens? with
    | some display => script.boundOn display
    | none => .uninitialized

/-- The handles that acquiring hands out under a script. -/
def Script.active? (script : Script) (runtime : Runtime) : Option Active :=
  if script.makesCurrent then (runtime.acquired script).active? else none

namespace Runtime

variable (script : Script)

theorem acquired_boundOn (display : Display) : (script.boundOn display).acquired script = script.boundOn display := by
  cases h : EsVersion.byPreference.findSome? script.binds? <;> simp only [Script.boundOn, h, acquired]

/-- **Acquiring twice comes to no more than acquiring once.** -/
theorem acquired_acquired : ∀ runtime : Runtime, (runtime.acquired script).acquired script = runtime.acquired script
  | .ready _ _ => rfl
  | .displayBound display => acquired_boundOn script display
  | .uninitialized => by
    cases h : script.opens? with
    | none => simp only [acquired, h]
    | some display => simpa only [acquired, h] using acquired_boundOn script display

end Runtime

/-! ## Acquiring from a scripted driver -/

/-- The error codes that a call raises under a script. -/
def Script.raisedBy (script : Script) : Request → List UInt32
  | .integers token _ => (script.raises.lookup token).getD []
  | _ => []

/-- The error codes that a row of calls raises, oldest first. -/
def Script.raised (script : Script) (events : List (Event Calls)) : List UInt32 :=
  events.flatMap fun event => script.raisedBy event.request

theorem Script.raised_append (script : Script) (before after : List (Event Calls)) :
    script.raised (before ++ after) = script.raised before ++ script.raised after :=
  List.flatMap_append

/-- The run ends in a value that satisfies `post`.  It raised no error and took none, and of the driver it changed
nothing but the version last chosen. -/
def Program.Ends {α : Type} (loaders : LoaderShelf) (p : Program Calls α) (d : DriverState) (post : α → Prop) : Prop :=
  ∃ value version events, p.run (DriverState.serve loaders) d = ⟨value, { d with chosen := version }, events⟩ ∧
    d.script.raised events = [] ∧ post value

variable {loaders : LoaderShelf} {α β : Type}

theorem ends_pure {a : α} {d : DriverState} {post : α → Prop} (h : post a) :
    (pure a : Program Calls α).Ends loaders d post :=
  ⟨a, d.chosen, [], rfl, rfl, h⟩

theorem Program.Ends.bind {p : Program Calls α} {f : α → Program Calls β} {d : DriverState} {mid : α → Prop}
    {post : β → Prop} (hp : p.Ends loaders d mid)
    (hf : ∀ a version, mid a → (f a).Ends loaders { d with chosen := version } post) :
    (p >>= f).Ends loaders d post := by
  obtain ⟨a, version, events, hrun, hraised, ha⟩ := hp
  obtain ⟨b, last, events', hrun', hraised', hb⟩ := hf a version ha
  refine ⟨b, last, events ++ events', ?_, ?_, hb⟩
  · rw [run_bind, hrun, hrun']
  · rw [Script.raised_append, hraised]
    exact hraised'

theorem openDisplay_ends (d : DriverState) :
    Runtime.openDisplay.Ends loaders d fun result => result.toOption = d.script.opens? := by
  simp only [Program.Ends, Runtime.openDisplay, ask, call_bind, done_bind, run, DriverState.serve, Script.opens?]
  cases d.script.display with
  | none => exact ⟨_, d.chosen, _, rfl, rfl, by cases d.script.connection <;> rfl⟩
  | some display =>
    simp only [run, DriverState.serve, Option.map_some]
    cases d.script.connection <;> exact ⟨_, d.chosen, _, rfl, rfl, rfl⟩

theorem attempt_ends (display : Display) (version : EsVersion) (d : DriverState) :
    (Runtime.attempt display version).Ends loaders d fun result => result.toOption = d.script.binds? version := by
  simp only [Program.Ends, Runtime.attempt, ask, call_bind, done_bind, run, DriverState.serve, Script.binds?,
    FormatRequest.standard]
  cases (d.script.configs.get version).config? with
  | none => exact ⟨_, version, _, rfl, rfl, rfl⟩
  | some config =>
    simp only [run, DriverState.serve]
    cases d.script.surfaces.get version with
    | none => exact ⟨_, version, _, rfl, rfl, rfl⟩
    | some surface =>
      simp only [run, DriverState.serve, Option.map_some]
      cases d.script.contexts.get version <;> exact ⟨_, version, _, rfl, rfl, rfl⟩

theorem attemptAll_ends (display : Display) : ∀ (versions : List EsVersion) (last : Fault) (d : DriverState),
    (Runtime.attemptAll display last versions).Ends loaders d fun result =>
      result.toOption = versions.findSome? d.script.binds?
  | [], _, _ => ends_pure rfl
  | version :: rest, _, d => by
    refine (attempt_ends display version d).bind fun attempted chosen hattempted => ?_
    rw [List.findSome?_cons, ← hattempted]
    cases attempted with
    | ok bound => exact ends_pure rfl
    | error fault => exact attemptAll_ends display rest fault _

theorem activate_ends (display : Display) (bound : Bound) (d : DriverState) :
    (Runtime.activate display bound).Ends loaders d fun acquired => acquired.2 = .ready display bound ∧
      acquired.1.toOption = if d.script.makesCurrent then some (bound.active display) else none := by
  simp only [Program.Ends, Runtime.activate, ask, call_bind, done_bind, run, DriverState.serve]
  by_cases h : d.script.makesCurrent = true <;> simp only [h] <;> exact ⟨_, d.chosen, _, rfl, rfl, rfl, rfl⟩

theorem bindContext_ends (display : Display) (d : DriverState) :
    (Runtime.bindContext display).Ends loaders d fun acquired => acquired.2 = d.script.boundOn display ∧
      acquired.1.toOption = if d.script.makesCurrent then (d.script.boundOn display).active? else none := by
  refine (attemptAll_ends display _ _ d).bind fun created chosen hcreated => ?_
  rw [Script.boundOn, ← hcreated]
  cases created with
  | ok bound => exact activate_ends display bound _
  | error fault => exact ends_pure ⟨rfl, by split <;> rfl⟩

/-- **What acquiring comes to, the script alone decides.** -/
theorem acquire_ends : ∀ (runtime : Runtime) (d : DriverState),
    runtime.acquire.Ends loaders d fun acquired => acquired.2 = runtime.acquired d.script ∧
      acquired.1.toOption = d.script.active? runtime
  | .ready display bound, d => activate_ends display bound d
  | .displayBound display, d => bindContext_ends display d
  | .uninitialized, d => by
    refine (openDisplay_ends d).bind fun opened chosen hopened => ?_
    rw [Script.active?, Runtime.acquired, ← hopened]
    cases opened with
    | ok display => exact bindContext_ends display _
    | error fault => exact ends_pure ⟨rfl, by split <;> rfl⟩

/-- **Where there is a context, a query is what it asks under that context**, with the calls that acquire it before. -/
theorem Session.query_under_context (names : List String) {session : Session}
    (h : (session.perform (.direct loaders) names (.query .active)).answer.isSome) :
    ∃ (active : Active) (version : EsVersion) (acquiring : List (Event Calls)),
      (∀ e ∈ acquiring, e.request.Acquires) ∧ ∀ query : Query,
      session.perform (.direct loaders) names (.query query) =
        let asked := (query.body active).run (DriverState.serve loaders) { session.driver with chosen := version }
        ⟨asked.value, ⟨session.runtime.acquired session.driver.script, asked.state⟩, acquiring ++ asked.events⟩ := by
  obtain ⟨⟨result, after⟩, version, acquiring, hrun, -, rfl, -⟩ := @acquire_ends loaders session.runtime session.driver
  have hacquires : ∀ e ∈ acquiring, e.request.Acquires := by
    have htrace := trace_run (DriverState.serve loaders) session.runtime.acquire session.driver
    rw [hrun] at htrace
    exact (acquire_acquires session.runtime).of_mem htrace
  rw [perform_active, hrun] at h
  cases result with
  | error fault => cases h
  | ok active =>
    refine ⟨active, version, acquiring, hacquires, fun query => ?_⟩
    rw [perform_query, hrun]

theorem Session.query_without_context (names : List String) {session : Session}
    (h : (session.perform (.direct loaders) names (.query .active)).answer = none) (query : Query) :
    (session.perform (.direct loaders) names (.query query)).answer = query.sentinel := by
  rw [perform_active] at h
  rw [perform_query]
  generalize session.runtime.acquire.run (DriverState.serve loaders) session.driver = acquired at h
  obtain ⟨⟨_ | active, after⟩, state, events⟩ := acquired
  · rfl
  · cases h

end DriverSurvey
