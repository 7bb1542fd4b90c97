import DriverSurvey.Proofs.Guard
import DriverSurvey.Proofs.Rounds
/-!
# Consistency — a snapshot does not contradict itself

The version of the context is read off at the end of a snapshot, long after the other fields were filled.  A context
that is bound stays bound, so where there is none at the end there was none before, and every topic found its sentinel
(`probeAll_unserved`).  That and the laws between fields hold of every trace (`takeSnapshot_consistent`), whatever
machine is behind it.
-/
namespace DriverSurvey

open Program

/-- The fields of a snapshot agree with one another. -/
structure Snapshot.Consistent (maxExtensions : Nat) (taken : Snapshot Timing) : Prop where
  /-- Without a context, nothing was found but what a loader for Vulkan said. -/
  unserved : taken.contextVersion = none → taken.graphics = .blank .notRun
  compute : taken.computeSupported = true ↔ 0 < taken.computeInvocations
  extensions : taken.extensions.length = min taken.extensionCount maxExtensions

/-! ## Without a context -/

theorem Course.unready {r r' : Runtime} {log : List (Event Calls)} (h : Course r log r')
    (hnone : r'.stage.version = none) : r.stage.version = none := by
  cases r with
  | uninitialized | displayBound => rfl
  | ready display bound =>
    rw [h.eq_ready rfl] at hnone
    cases hnone

theorem query_unserved {query : Query} {runtime after : Runtime} {es : List (Event Calls)} {answer : query.Answer}
    (h : (query.survey runtime).Trace es (answer, after)) (hnone : after.stage.version = none) :
    answer = query.sentinel := by
  obtain ⟨es₁, result, es₂, h₁, -, h₂⟩ := Survey.query_trace h
  cases result with
  | error fault => exact h₂.1
  | ok active =>
    have hactive : after.active? = some active := (acquire_course h₁).2 active rfl
    obtain ⟨display, bound, rfl, -⟩ := Runtime.active?_eq_some hactive
    cases hnone

variable {names : List String} {maxExtensions : Nat}

theorem probe_unserved {snapshot taken : Snapshot Timing} {topic : Topic} {runtime after : Runtime}
    {es : List (Event Calls)} (h : (topic.probe names maxExtensions snapshot runtime).Trace es (taken, after))
    (hnone : after.stage.version = none) (hblank : snapshot.graphics = .blank .notRun) :
    taken.graphics = .blank .notRun := by
  obtain ⟨found, ht, rfl⟩ := probe_trace h
  have hentered : (topic.enter maxExtensions snapshot found).graphics =
      (topic.enter maxExtensions (.blank .notRun) found).graphics :=
    calc (topic.enter maxExtensions snapshot found).graphics
        = topic.enter maxExtensions snapshot.graphics (topic.step.shown lit found) := Topic.shown_enter lit _ _ _ _
      _ = topic.enter maxExtensions (.blank .notRun) (topic.step.shown lit found) := by rw [hblank]
      _ = _ := (Topic.shown_enter lit _ (.blank .notRun) _ _).symm
  rw [hentered]
  cases topic with
  | vulkan => rfl
  | extensions =>
    obtain rfl := query_unserved ht hnone
    simp [Topic.enter, Query.sentinel, distinctNames, Snapshot.graphics, Snapshot.blank]
  | _ =>
    obtain rfl := query_unserved ht hnone
    rfl

/-- **Where there is no context at the end, no topic found anything** but what a loader for Vulkan said. -/
theorem probeAll_unserved : ∀ {order : List Topic} {snapshot taken : Snapshot Timing} {runtime after : Runtime}
    {es : List (Event Calls)}, (probeAll names maxExtensions snapshot order runtime).Trace es (taken, after) →
      after.stage.version = none → snapshot.graphics = .blank .notRun → taken.graphics = .blank .notRun
  | [], _, _, _, _, _, h, _, hblank => by
    obtain ⟨-, h⟩ := h
    cases h
    exact hblank
  | topic :: rest, _, _, _, _, _, h, hnone, hblank => by
    obtain ⟨es₁, ⟨middle, runtime'⟩, es₂, h₁, h₂, rfl⟩ := (trace_bind _ _ _ _).1 h
    -- a context that this topic had got would still be there at the end
    have hmiddle : runtime'.stage.version = none :=
      (managed_probeAll names maxExtensions rest middle _ _ _ _ h₂).unready hnone
    exact probeAll_unserved h₂ hnone (probe_unserved h₁ hmiddle hblank)

/-! ## Fields that follow from one another -/

theorem probeAll_keeps {P : Snapshot Timing → Prop}
    (henter : ∀ snapshot topic found, P snapshot → P (Topic.enter maxExtensions snapshot topic found)) :
    ∀ {order : List Topic} {snapshot taken : Snapshot Timing} {runtime after : Runtime} {es : List (Event Calls)},
      (probeAll names maxExtensions snapshot order runtime).Trace es (taken, after) → P snapshot → P taken
  | [], _, _, _, _, _, h, hP => by
    obtain ⟨-, h⟩ := h
    cases h
    exact hP
  | topic :: rest, _, _, _, _, _, h, hP => by
    obtain ⟨es₁, ⟨middle, runtime'⟩, es₂, h₁, h₂, rfl⟩ := (trace_bind _ _ _ _).1 h
    obtain ⟨found, -, rfl⟩ := probe_trace h₁
    exact probeAll_keeps henter h₂ (henter _ topic found hP)

theorem enter_compute (snapshot : Snapshot Timing) (topic : Topic) (found : topic.step.Answer)
    (h : snapshot.computeSupported = true ↔ 0 < snapshot.computeInvocations) :
    (topic.enter maxExtensions snapshot found).computeSupported = true ↔
      0 < (topic.enter maxExtensions snapshot found).computeInvocations := by
  cases topic with
  | computeInvocations => exact decide_eq_true_iff
  | _ => exact h

theorem enter_extensions (snapshot : Snapshot Timing) (topic : Topic) (found : topic.step.Answer)
    (h : snapshot.extensions.length = min snapshot.extensionCount maxExtensions) :
    (topic.enter maxExtensions snapshot found).extensions.length =
      min (topic.enter maxExtensions snapshot found).extensionCount maxExtensions := by
  cases topic with
  | extensions =>
    show ((distinctNames found).take maxExtensions).length = min (distinctNames found).length maxExtensions
    rw [List.length_take, Nat.min_comm]
  | _ => exact h

/-- **A snapshot is consistent**, whatever the machine replies. -/
theorem takeSnapshot_consistent {order : List Topic} {taken : Snapshot Timing} {runtime after : Runtime}
    {es : List (Event Calls)} (h : (takeSnapshot names maxExtensions order runtime).Trace es (taken, after)) :
    taken.Consistent maxExtensions := by
  obtain ⟨probed, hprobed, rfl⟩ := takeSnapshot_trace h
  constructor
  · intro hnone
    have hblank : probed.graphics = .blank .notRun := probeAll_unserved hprobed hnone rfl
    calc { probed with contextVersion := after.stage.version }.graphics
        = { probed.graphics with contextVersion := after.stage.version } := rfl
      _ = .blank .notRun := by
        rw [hblank, show after.stage.version = none from hnone]
        rfl
  · have hblank : (Snapshot.blank Timing.notRun).computeSupported = true ↔
        0 < (Snapshot.blank Timing.notRun).computeInvocations := by decide
    have hkept := probeAll_keeps enter_compute hprobed hblank
    exact hkept
  · have hblank : (Snapshot.blank Timing.notRun).extensions.length =
        min (Snapshot.blank Timing.notRun).extensionCount maxExtensions := (Nat.zero_min _).symm
    have hkept := probeAll_keeps enter_extensions hprobed hblank
    exact hkept

/-! ## Played snapshots -/

namespace Session

/-- What is played on any rig is a trace of the survey. -/
theorem trace_play {α : Type} (rig : Rig) (survey : Survey α) (session : Session) : ∃ calls,
    (survey session.runtime).Trace calls
      ((session.play rig survey).answer, (session.play rig survey).after.runtime) := by
  obtain ⟨log, htrace, -⟩ := trace_via rig.route _ _ _
    (trace_run rig.serve ((survey session.runtime).via rig.route) session.driver)
  exact ⟨_, htrace⟩

variable (loaders : LoaderShelf) (names : List String)

theorem entered_vulkan (other : Session) : ∀ (order : List Topic) (session : Session) (snapshot : Snapshot Timing),
    (.vulkan ∈ order ∨ snapshot.vulkanSupported = (other.perform (.direct loaders) names .vulkan).answer.supported) →
      (session.entered loaders names maxExtensions order snapshot).vulkanSupported =
        (other.perform (.direct loaders) names .vulkan).answer.supported
  | [], _, _, h => h.resolve_left List.not_mem_nil
  | topic :: rest, session, snapshot, h => by
    unfold entered
    refine entered_vulkan other rest _ _ ?_
    by_cases htopic : topic = .vulkan
    · subst htopic
      exact .inr (congrArg Vulkan.Support.supported (vulkan_regardless loaders names session other).1)
    · rcases h with hmem | hkept
      · exact .inl (List.mem_of_ne_of_mem (Ne.symm htopic) hmem)
      · refine .inr (Eq.trans ?_ hkept)
        cases topic <;> first | rfl | exact absurd rfl htopic

/-- **A snapshot does not contradict itself**, on any machine, from any state and in any order.  What it says of Vulkan
is the loader's verdict, with a context or without, and if no benchmark is asked for, none is run and nothing drawn. -/
theorem consistent_of_order (session : Session) (settings : SnapshotSettings) (order : List Topic)
    (horder : order.Perm (Topic.selected settings)) :
    (∀ rig : Rig,
      (session.perform rig names (.snapshot settings.maxExtensions order)).answer.Consistent settings.maxExtensions) ∧
    let performed := session.perform (.direct loaders) names (.snapshot settings.maxExtensions order)
    performed.answer.vulkanSupported = (session.perform (.direct loaders) names .vulkan).answer.supported ∧
      (settings.runBenchmark = false →
        performed.answer.benchmark = .notRun ∧ ∀ e ∈ performed.events, e.request.draws = false) := by
  refine ⟨fun rig => ?_, ?_, fun hbenchmark => ?_⟩
  · obtain ⟨calls, htrace⟩ :=
      session.trace_play rig (Step.survey names (.snapshot settings.maxExtensions order))
    exact takeSnapshot_consistent htrace
  · have hvulkan : .vulkan ∈ order := horder.mem_iff.2 (by simp [Topic.selected, Topic.all])
    rw [perform_snapshot]
    exact entered_vulkan loaders names session order session _ (.inl hvulkan)
  · have hnone : .benchmark ∉ order := by
      rw [horder.mem_iff]
      simp [Topic.selected, hbenchmark]
    have htrace : (takeSnapshot names settings.maxExtensions order session.runtime).Trace
        (session.perform (.direct loaders) names (.snapshot settings.maxExtensions order)).events
        ((session.perform (.direct loaders) names (.snapshot settings.maxExtensions order)).answer,
          (session.perform (.direct loaders) names (.snapshot settings.maxExtensions order)).after.runtime) := by
      rw [perform_direct]
      exact trace_run _ _ _
    obtain ⟨hdrawing, hnotRun⟩ := snapshot_idle htrace hnone
    refine ⟨hnotRun, fun e he => ?_⟩
    unfold drawing at hdrawing
    rw [List.filter_eq_nil_iff] at hdrawing
    simpa using hdrawing e.request (List.mem_map_of_mem he)

/-- A snapshot in reverse, over a driver without contexts and a loader for Vulkan, holds the loader's verdict alone. -/
theorem consistent_without_contexts :
    let settings : SnapshotSettings := { runBenchmark := false }
    let order := (Topic.selected settings).reverse
    let performed := withoutContexts.perform (.direct fun _ => some none) ["libvulkan.so"] (.snapshot 15 order)
    order.Perm (Topic.selected settings) ∧ performed.answer.contextVersion = none ∧
      performed.answer.graphics = .blank .notRun ∧ performed.answer.vulkanSupported = true ∧
      ∀ e ∈ performed.events, e.request.draws = false := by
  intro settings order performed
  have horder : order.Perm (Topic.selected settings) := List.reverse_perm _
  have hnone : performed.answer.contextVersion = none := by decide +kernel
  have hverdict : (withoutContexts.perform (.direct fun _ => some none) ["libvulkan.so"] .vulkan).answer.supported =
      true := by decide +kernel
  obtain ⟨hconsistent, hvulkan, hidle⟩ :=
    consistent_of_order (fun _ => some none) ["libvulkan.so"] withoutContexts settings order horder
  exact ⟨horder, hnone, (hconsistent (.direct fun _ => some none)).unserved hnone, hvulkan.trans hverdict,
    (hidle rfl).2⟩

end Session

end DriverSurvey
