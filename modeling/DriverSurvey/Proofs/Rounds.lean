import DriverSurvey.Proofs.Loading
/-!
# Rounds — the work behind a benchmark

A benchmark that is said to be measured made its rounds of clearing and waiting, alone or in a snapshot, and nothing
else clears (`benchmark_drawing`, `snapshot_drawing`).  Behind native libraries the rounds reach the library that serves
for OpenGL ES.  Where none serves, a benchmark is measured all the same, though nothing is cleared
(`rounds_of_benchmark`).
-/
namespace DriverSurvey

open Program

/-! ## Rounds of a survey -/

/-- The calls among some that clear or wait. -/
def drawing (calls : List (Event Calls)) : List Request :=
  (calls.map (·.request)).filter Request.draws

/-- The calls of so many rounds, from `round` on. -/
def clearing (round count : Nat) : List Request :=
  (List.range' round count).flatMap fun i => [.clearColor (roundColor i), .clear roundMask, .finish]

theorem drawing_append (first last : List (Event Calls)) : drawing (first ++ last) = drawing first ++ drawing last := by
  simp [drawing]

theorem drawing_of_idle {α : Type} {p : Program Calls α} {es : List (Event Calls)} {a : α}
    (h : p.Only fun q : Request => q.draws = false) (ht : p.Trace es a) : drawing es = [] := by
  have hes := h.of_mem ht
  unfold drawing
  rw [List.filter_eq_nil_iff]
  intro q hq
  obtain ⟨e, he, rfl⟩ := List.mem_map.1 hq
  simp [hes e he]

theorem clearRounds_drawing : ∀ (count round : Nat) {es : List (Event Calls)} {a : Unit},
    (clearRounds round count).Trace es a → drawing es = clearing round count
  | 0, round, _, _, h => by
    obtain ⟨rfl, -⟩ := h
    rfl
  | count + 1, round, _, a, h => by
    obtain ⟨_, _, rfl, _, _, rfl, _, rest, rfl, h⟩ := h
    have hrest : drawing rest = clearing (round + 1) count := clearRounds_drawing count (round + 1) h
    have hround : drawing [⟨.clearColor (roundColor round), ()⟩, ⟨.clear roundMask, ()⟩, ⟨.finish, ()⟩] =
        [.clearColor (roundColor round), .clear roundMask, .finish] := rfl
    unfold clearing at hrest ⊢
    rw [List.range'_succ, List.flatMap_cons, ← hrest, ← hround, ← drawing_append]
    rfl

theorem acquire_idle (runtime : Runtime) : runtime.acquire.Only fun q : Request => q.draws = false := by
  refine (acquire_acquires runtime).mono fun q hq => ?_
  rcases hq with hq | ⟨display, surface, context, rfl⟩
  · cases q <;> first | rfl | cases hq
  · rfl

theorem query_idle {query : Query} (h : query ≠ .benchmark) (runtime : Runtime) :
    (query.survey runtime).Only fun q : Request => q.draws = false := by
  refine (acquire_idle runtime).bind fun acquired => ?_
  obtain ⟨result, after⟩ := acquired
  cases result with
  | ok active => exact ((body_reads h active).mono fun _ hq => hq.2).bind fun _ => only_pure _ _
  | error fault => exact only_pure _ _

/-- **A benchmark clears in its rounds if it is measured, and not at all if it is not.** -/
theorem benchmark_drawing {runtime after : Runtime} {es : List (Event Calls)} {timing : Timing}
    (h : (Query.survey .benchmark runtime).Trace es (timing, after)) :
    drawing es = if timing = .measured then clearing 0 benchmarkRounds else [] := by
  obtain ⟨es₁, result, es₂, h₁, rfl, h₂⟩ := Survey.query_trace h
  rw [drawing_append, drawing_of_idle (acquire_idle runtime) h₁, List.nil_append]
  cases result with
  | error fault =>
    obtain ⟨rfl, rfl⟩ := h₂
    rfl
  | ok active =>
    obtain ⟨rounds, _, rest, hrounds, ⟨rfl, rfl⟩, rfl⟩ := (trace_bind _ _ _ _).1 h₂
    rw [List.append_nil, clearRounds_drawing _ _ hrounds]
    rfl

/-! ## Rounds of a snapshot -/

theorem probe_trace {names : List String} {maxExtensions : Nat} {snapshot taken : Snapshot Timing} {topic : Topic}
    {runtime after : Runtime} {es : List (Event Calls)}
    (h : (topic.probe names maxExtensions snapshot runtime).Trace es (taken, after)) :
    ∃ found, (topic.step.survey names runtime).Trace es (found, after) ∧
      taken = topic.enter maxExtensions snapshot found := by
  rw [Topic.probe_eq] at h
  obtain ⟨es₁, ⟨found, middle⟩, es₂, h₁, ⟨rfl, h₂⟩, rfl⟩ := (trace_bind _ _ _ _).1 h
  cases h₂
  rw [List.append_nil]
  exact ⟨found, h₁, rfl⟩

theorem Topic.step_idle (names : List String) {topic : Topic} (h : topic ≠ .benchmark) (runtime : Runtime) :
    (topic.step.survey names runtime).Only fun q : Request => q.draws = false := by
  cases topic with
  | benchmark => exact absurd rfl h
  | vulkan =>
    have hloads : (Vulkan.check names).Only fun q : Request => q.draws = false :=
      (check_loads names).mono fun q hq => by cases hq <;> rfl
    exact hloads.bind fun _ => only_pure _ _
  | _ => exact query_idle (by nofun) runtime

theorem Topic.benchmark_enter (maxExtensions : Nat) (snapshot : Snapshot Timing) {topic : Topic}
    (h : topic ≠ .benchmark) (found : topic.step.Answer) :
    (topic.enter maxExtensions snapshot found).benchmark = snapshot.benchmark := by
  cases topic <;> first | rfl | exact absurd rfl h

variable {names : List String} {maxExtensions : Nat}

theorem probe_idle {snapshot taken : Snapshot Timing} {topic : Topic} {runtime after : Runtime}
    {es : List (Event Calls)} (h : (topic.probe names maxExtensions snapshot runtime).Trace es (taken, after))
    (htopic : topic ≠ .benchmark) : drawing es = [] ∧ taken.benchmark = snapshot.benchmark := by
  obtain ⟨found, ht, rfl⟩ := probe_trace h
  exact ⟨drawing_of_idle (Topic.step_idle names htopic runtime) ht, Topic.benchmark_enter _ _ htopic found⟩

/-- **Topics without the benchmark among them clear nothing.** -/
theorem probeAll_idle : ∀ {order : List Topic} {snapshot taken : Snapshot Timing} {runtime after : Runtime}
    {es : List (Event Calls)}, (probeAll names maxExtensions snapshot order runtime).Trace es (taken, after) →
      .benchmark ∉ order → drawing es = [] ∧ taken.benchmark = snapshot.benchmark
  | [], _, _, _, _, _, h, _ => by
    obtain ⟨rfl, h⟩ := h
    cases h
    exact ⟨rfl, rfl⟩
  | topic :: rest, _, _, _, _, _, h, horder => by
    obtain ⟨es₁, ⟨middle, runtime'⟩, es₂, h₁, h₂, rfl⟩ := (trace_bind _ _ _ _).1 h
    obtain ⟨hdrawn, hkept⟩ := probe_idle h₁ fun htopic => horder (htopic ▸ List.mem_cons_self)
    obtain ⟨hdrawn', hkept'⟩ := probeAll_idle h₂ fun hmem => horder (List.mem_cons_of_mem _ hmem)
    rw [drawing_append, hdrawn, hdrawn', hkept', hkept]
    exact ⟨rfl, rfl⟩

theorem probeAll_drawing : ∀ {order : List Topic} {snapshot taken : Snapshot Timing} {runtime after : Runtime}
    {es : List (Event Calls)}, (probeAll names maxExtensions snapshot order runtime).Trace es (taken, after) →
      order.Nodup → snapshot.benchmark = .notRun →
        drawing es = if taken.benchmark = .measured then clearing 0 benchmarkRounds else []
  | [], snapshot, _, _, _, _, h, _, hnone => by
    obtain ⟨rfl, h⟩ := h
    cases h
    simp [drawing, hnone]
  | topic :: rest, _, taken, _, _, _, h, horder, hnone => by
    obtain ⟨hnew, hrest⟩ := List.nodup_cons.1 horder
    obtain ⟨es₁, ⟨middle, runtime'⟩, es₂, h₁, h₂, rfl⟩ := (trace_bind _ _ _ _).1 h
    rw [drawing_append]
    by_cases htopic : topic = .benchmark
    · -- the rounds are this topic's: those behind it clear nothing more, and leave what it entered
      subst htopic
      obtain ⟨timing, hran, rfl⟩ := probe_trace h₁
      obtain ⟨hdrawn, hkept⟩ := probeAll_idle h₂ hnew
      have hentered : taken.benchmark = timing := hkept
      rw [hdrawn, List.append_nil, hentered]
      exact benchmark_drawing hran
    · obtain ⟨hdrawn, hkept⟩ := probe_idle h₁ htopic
      rw [hdrawn, List.nil_append]
      exact probeAll_drawing h₂ hrest (hkept.trans hnone)

theorem takeSnapshot_trace {order : List Topic} {taken : Snapshot Timing} {runtime after : Runtime}
    {es : List (Event Calls)} (h : (takeSnapshot names maxExtensions order runtime).Trace es (taken, after)) :
    ∃ probed, (probeAll names maxExtensions (.blank .notRun) order runtime).Trace es (probed, after) ∧
      taken = { probed with contextVersion := after.stage.version } := by
  obtain ⟨es₁, ⟨probed, runtime'⟩, es₂, h₁, ⟨rfl, h₂⟩, rfl⟩ := (trace_bind _ _ _ _).1 h
  cases h₂
  rw [List.append_nil]
  exact ⟨probed, h₁, rfl⟩

/-- **A snapshot without the benchmark clears nothing**, and its benchmark is not run. -/
theorem snapshot_idle {order : List Topic} {taken : Snapshot Timing} {runtime after : Runtime}
    {es : List (Event Calls)} (h : (takeSnapshot names maxExtensions order runtime).Trace es (taken, after))
    (horder : .benchmark ∉ order) : drawing es = [] ∧ taken.benchmark = .notRun := by
  obtain ⟨probed, hprobed, rfl⟩ := takeSnapshot_trace h
  exact probeAll_idle hprobed horder

/-- **A snapshot clears in the rounds of its benchmark if that is measured, and else not at all.** -/
theorem snapshot_drawing {order : List Topic} {taken : Snapshot Timing} {runtime after : Runtime}
    {es : List (Event Calls)} (h : (takeSnapshot names maxExtensions order runtime).Trace es (taken, after))
    (horder : order.Nodup) :
    drawing es = if taken.benchmark = .measured then clearing 0 benchmarkRounds else [] := by
  obtain ⟨probed, hprobed, rfl⟩ := takeSnapshot_trace h
  have hdrawn := probeAll_drawing hprobed horder rfl
  exact hdrawn

/-! ## Rounds behind native libraries -/

def Entry.draws : Entry → Bool
  | .glClearColor _ | .glClear _ | .glFinish => true
  | _ => false

def NativeRequest.draws : NativeRequest → Bool
  | .enter _ entry => entry.draws
  | _ => false

/-- The native calls among some that clear or wait. -/
def drawn (events : List (Event NativeCalls)) : List NativeRequest :=
  (events.map (·.request)).filter NativeRequest.draws

/-- Twelve rounds in a library: set a color, clear, wait. -/
def roundsOn (library : String) : List NativeRequest :=
  (List.range 12).flatMap fun round =>
    [.enter library (.glClearColor (roundColor round)), .enter library (.glClear roundMask), .enter library .glFinish]

namespace Bindings

variable (drivers : Bindings)

/-- The rounds of a benchmark, in the library of OpenGL ES if there is one. -/
def rounds : List NativeRequest :=
  drivers.gles.elim [] fun driver => roundsOn driver.library

/-- What a call that draws becomes behind the drivers. -/
def draw : Request → List NativeRequest
  | .clearColor color => drivers.gles.toList.map fun driver => .enter driver.library (.glClearColor color)
  | .clear mask => drivers.gles.toList.map fun driver => .enter driver.library (.glClear mask)
  | .finish => drivers.gles.toList.map fun driver => .enter driver.library .glFinish
  | _ => []

theorem flatMap_draw_clearing : (clearing 0 benchmarkRounds).flatMap drivers.draw = drivers.rounds := by
  obtain ⟨egl, gles⟩ := drivers
  unfold rounds roundsOn clearing
  rw [List.flatMap_assoc, List.range_eq_range']
  cases gles with
  | none => exact List.flatMap_eq_nil_iff.2 fun round _ => rfl
  | some driver => rfl

variable {drivers} {α : Type} {absent a : α} {entry : Entry} {read : entry.Reply → α} {es : List (Event NativeCalls)}

theorem callEgl_drawn (h : (drivers.callEgl absent entry read).Trace es a) (hentry : entry.draws = false) :
    drawn es = [] := by
  unfold callEgl at h
  cases hegl : drivers.egl with
  | none =>
    rw [hegl] at h
    rw [h.1]
    rfl
  | some driver =>
    rw [hegl] at h
    obtain ⟨reply, rest, rfl, rfl, -⟩ := h
    simp [drawn, NativeRequest.draws, hentry]

theorem callGles_drawn (h : (drivers.callGles absent entry read).Trace es a) :
    drawn es = if entry.draws then drivers.gles.toList.map fun driver => .enter driver.library entry else [] := by
  unfold callGles at h
  cases hgles : drivers.gles with
  | none =>
    rw [hgles] at h
    rw [h.1]
    simp [drawn]
  | some driver =>
    rw [hgles] at h
    obtain ⟨reply, rest, rfl, rfl, -⟩ := h
    cases hentry : entry.draws <;> simp [drawn, NativeRequest.draws, hentry]

theorem route_drawn (q : Request) {r : q.Reply} (h : (drivers.route q).Trace es r) : drawn es = drivers.draw q := by
  cases q with
  | text | error | clearColor | clear | finish => exact callGles_drawn h
  | integers token room =>
    cases room with
    | zero =>
      rw [h.1]
      rfl
    | succ room => exact callGles_drawn h
  | entryPoint name =>
    rw [route] at h
    split at h
    · rw [h.1]
      rfl
    · exact callEgl_drawn h rfl
  | openLoader | findVersionEntry | loaderVersion | closeLoader =>
    obtain ⟨_, _, rfl, rfl, -⟩ := h
    rfl
  | _ => exact callEgl_drawn h rfl

theorem draw_of_idle {q : Request} (h : q.draws = false) : drivers.draw q = [] := by
  cases q <;> first | rfl | cases h

/-- **What reaches native libraries is what the calls of the survey draw**, each as it is routed. -/
theorem drawn_via {p : Program Calls α} (h : (p.via drivers.route).Trace es a) :
    ∃ calls, p.Trace calls a ∧ drawn es = (drawing calls).flatMap drivers.draw := by
  obtain ⟨log, htrace, rfl, hroute⟩ := trace_via drivers.route p es a h
  refine ⟨_, htrace, ?_⟩
  clear htrace h
  induction log with
  | nil => rfl
  | cons played rest ih =>
    have hfirst : drawn played.2 = drivers.draw played.1.request := route_drawn _ (hroute played List.mem_cons_self)
    have hrest := ih fun other hmem => hroute other (List.mem_cons_of_mem _ hmem)
    have happend : drawn (played.2 ++ rest.flatMap Prod.snd) = drawn played.2 ++ drawn (rest.flatMap Prod.snd) := by
      simp [drawn]
    rw [List.flatMap_cons, happend, hfirst, hrest]
    cases hdraws : played.1.request.draws with
    | true => simp [drawing, hdraws]
    | false => simp [drawing, hdraws, draw_of_idle hdraws]

end Bindings

namespace Session

variable (shelf : Shelf) (drivers : Bindings) (names : List String) (session : Session)

theorem trace_perform_native (step : Step) :
    ((step.survey names session.runtime).via drivers.route).Trace
      (session.perform (.native shelf drivers) names step).events
      ((session.perform (.native shelf drivers) names step).answer,
        (session.perform (.native shelf drivers) names step).after.runtime) :=
  trace_run (DriverState.serveNative shelf) _ session.driver

theorem drawn_benchmark :
    let ran := session.perform (.native shelf drivers) names (.query .benchmark)
    drawn ran.events = if ran.answer = .measured then drivers.rounds else [] := by
  intro ran
  obtain ⟨calls, htrace, hdrawn⟩ :=
    Bindings.drawn_via (session.trace_perform_native shelf drivers names (.query .benchmark))
  rw [hdrawn, benchmark_drawing htrace, ← drivers.flatMap_draw_clearing]
  split <;> rfl

theorem drawn_snapshot (maxExtensions : Nat) {order : List Topic} (horder : order.Nodup) :
    let taken := session.perform (.native shelf drivers) names (.snapshot maxExtensions order)
    drawn taken.events = if taken.answer.benchmark = .measured then drivers.rounds else [] := by
  intro taken
  obtain ⟨calls, htrace, hdrawn⟩ :=
    Bindings.drawn_via (session.trace_perform_native shelf drivers names (.snapshot maxExtensions order))
  rw [hdrawn, snapshot_drawing htrace horder, ← drivers.flatMap_draw_clearing]
  split <;> rfl

theorem measured_iff_active :
    (session.perform (.native shelf drivers) names (.query .benchmark)).answer = .measured ↔
      (session.perform (.native shelf drivers) names (.query .active)).answer.isSome := by
  have hanswer (query : Query) : (session.perform (.native shelf drivers) names (.query query)).answer =
      ((query.survey session.runtime).run (served drivers.route (DriverState.serveNative shelf))
        session.driver).value.1 :=
    congrArg Prod.fst (run_via drivers.route (DriverState.serveNative shelf) _ session.driver).1
  rw [hanswer, hanswer, Survey.run_query, Survey.run_query]
  generalize session.runtime.acquire.run _ session.driver = acquired
  obtain ⟨⟨result, after⟩, state, events⟩ := acquired
  cases result with
  | error fault => exact iff_of_false nofun nofun
  | ok active => exact iff_of_true rfl rfl

/-- **A benchmark that is measured made its rounds in the library that serves for OpenGL ES**, alone or in a snapshot,
and one that is not run made none.  It is measured exactly where there is a context, so where no library serves it is
measured without a round. -/
theorem rounds_of_benchmark (egl gles : List String) (loaded : DriverState) (settings : SnapshotSettings)
    (order : List Topic) (horder : order.Perm (Topic.selected settings)) :
    let drivers := ((Bindings.load egl gles).run (DriverState.serveNative shelf) loaded).value
    let active := session.perform (.native shelf drivers) names (.query .active)
    let ran := session.perform (.native shelf drivers) names (.query .benchmark)
    let taken := session.perform (.native shelf drivers) names (.snapshot settings.maxExtensions order)
    let rounds := (shelf.served? glesSymbols gles).elim [] roundsOn
    drawn ran.events = (if ran.answer = .measured then rounds else []) ∧
      drawn taken.events = (if taken.answer.benchmark = .measured then rounds else []) ∧
      (ran.answer = .measured ↔ active.answer.isSome) ∧
      (ran.answer = .measured ∧ drawn ran.events = [] ↔ active.answer.isSome ∧ ¬shelf.Serves glesSymbols gles) := by
  intro drivers active ran taken rounds
  have hrounds : drivers.rounds = rounds := by
    unfold Bindings.rounds
    rw [show drivers = _ from load_value egl gles loaded, Option.elim_map]
    rfl
  have hran : drawn ran.events = if ran.answer = .measured then rounds else [] :=
    hrounds ▸ session.drawn_benchmark shelf drivers names
  have htaken : drawn taken.events = if taken.answer.benchmark = .measured then rounds else [] :=
    hrounds ▸ session.drawn_snapshot shelf drivers names settings.maxExtensions
      (horder.nodup_iff.2 (nodup_selected settings))
  have hmeasured : ran.answer = .measured ↔ active.answer.isSome := session.measured_iff_active shelf drivers names
  have hnone : rounds = [] ↔ ¬shelf.Serves glesSymbols gles := by
    rw [← served?_eq_none]
    cases hserved : shelf.served? glesSymbols gles with
    | none => simp [rounds, hserved]
    | some library => simp [rounds, hserved, roundsOn, List.range_succ]
  refine ⟨hran, htaken, hmeasured, ?_⟩
  rw [← hmeasured, ← hnone, hran]
  refine and_congr_right fun hanswer => ?_
  rw [if_pos hanswer]

/-- Over a shelf with both libraries a benchmark makes twelve rounds. -/
theorem rounds_of_stocked :
    let drivers := ((Bindings.load ["libEGL.so.1"] ["libGLESv2.so.2"]).run (DriverState.serveNative .stocked) {}).value
    let ran := Session.perform (.native .stocked drivers) [] (.query .benchmark) {}
    Topic.all.Perm (Topic.selected {}) ∧ ran.answer = .measured ∧ drawn ran.events = roundsOn "libGLESv2.so.2" := by
  intro drivers ran
  have horder : Topic.all.Perm (Topic.selected {}) := by decide
  have hanswer : ran.answer = .measured := by decide +kernel
  have hserved : Shelf.stocked.served? glesSymbols ["libGLESv2.so.2"] = some "libGLESv2.so.2" := by decide +kernel
  have hran := (rounds_of_benchmark .stocked [] {} ["libEGL.so.1"] ["libGLESv2.so.2"] {} {} Topic.all horder).1
  rw [if_pos hanswer, hserved] at hran
  exact ⟨horder, hanswer, hran⟩

/-- Without a library for OpenGL ES a benchmark is measured, alone and in a snapshot, and nothing is cleared. -/
theorem measured_without_rounds :
    let drivers := ((Bindings.load ["libEGL.so.1"] ["libGLESv2.so.2"]).run (DriverState.serveNative .displayOnly)
      {}).value
    let ran := Session.perform (.native .displayOnly drivers) [] (.query .benchmark) {}
    let taken := Session.perform (.native .displayOnly drivers) [] (.snapshot 15 Topic.all) {}
    ran.answer = .measured ∧ drawn ran.events = [] ∧
      taken.answer.benchmark = .measured ∧ drawn taken.events = [] := by
  decide +kernel

end Session
end DriverSurvey
