import DriverSurvey.Proofs.Errors
/-!
# Order — a snapshot is the probes taken alone, in any order

What a topic finds the script alone decides, wherever among the others it comes (`Topic.told`), as long as the errors
left by those before it can be thrown away.  Topics fill different fields, so what they find can be entered in any
order (`enter_comm`), and a snapshot holds what each of its probes answers alone (`snapshot_eq_alone`).
-/
namespace DriverSurvey

open Program

namespace Topic

/-- The step that probes the topic alone. -/
abbrev step : Topic → Step
  | .renderer => .query .renderer
  | .vendor => .query .vendor
  | .version => .query .version
  | .extensions => .query .extensions
  | .displayVendor => .query .displayVendor
  | .configuration => .query .configuration
  | .memory => .query .memory
  | .maxTextureSize => .query .maxTextureSize
  | .computeInvocations => .query .maxComputeInvocations
  | .vulkan => .vulkan
  | .benchmark => .query .benchmark

/-- Enter what was found on a topic. -/
def enter (maxExtensions : Nat) (snapshot : Snapshot Timing) : (topic : Topic) → topic.step.Answer → Snapshot Timing
  | .renderer, text => { snapshot with renderer := text }
  | .vendor, text => { snapshot with vendor := text }
  | .version, text => { snapshot with version := text }
  | .extensions, found =>
    let names := distinctNames found
    { snapshot with extensions := names.take maxExtensions, extensionCount := names.length }
  | .displayVendor, text => { snapshot with displayVendor := text }
  | .configuration, format => { snapshot with configuration := format }
  | .memory, counters => { snapshot with memory := counters }
  | .maxTextureSize, size => { snapshot with maxTextureSize := size }
  | .computeInvocations, invocations =>
    { snapshot with computeInvocations := invocations, computeSupported := invocations > 0 }
  | .vulkan, support => { snapshot with vulkanSupported := support.supported }
  | .benchmark, timing => { snapshot with benchmark := timing }

/-- **To probe a topic is to play its step and enter the answer.** -/
theorem probe_eq (names : List String) (maxExtensions : Nat) (snapshot : Snapshot Timing) (topic : Topic) :
    topic.probe names maxExtensions snapshot =
      (topic.step.survey names >>= fun found => pure (topic.enter maxExtensions snapshot found)) := by
  cases topic <;> rfl

/-- **Topics fill different fields**, so it does not matter which is entered first. -/
theorem enter_comm (maxExtensions : Nat) (found : (topic : Topic) → topic.step.Answer) (snapshot : Snapshot Timing)
    (t t' : Topic) :
    t'.enter maxExtensions (t.enter maxExtensions snapshot (found t)) (found t') =
      t.enter maxExtensions (t'.enter maxExtensions snapshot (found t')) (found t) := by
  cases t <;> cases t' <;> rfl

variable {loaders : LoaderShelf} {script : Script}

theorem step_eq_guarded (topic : Topic) : topic.step = .query .maxComputeInvocations ↔ topic = .computeInvocations := by
  cases topic <;> decide

theorem step_eq_query (topic : Topic) : topic = .vulkan ∨ ∃ query, topic.step = .query query := by
  cases topic with
  | vulkan => exact .inl rfl
  | _ => exact .inr ⟨_, rfl⟩

/-- **What a topic finds, the script alone decides.**  Probing it ends with the context that can be acquired; only the
topic that needs none leaves the runtime as it was. -/
theorem told (names : List String) (home : Runtime) (topic : Topic) : ∃ found codes, ∀ runtime : Runtime,
    runtime.acquired script = home → ∃ after, (after = home ∨ topic = .vulkan ∧ after = runtime) ∧
      (topic.step.survey names runtime).Told loaders script (topic = .computeInvocations) (found, after) codes := by
  obtain rfl | ⟨query, hquery⟩ := topic.step_eq_query
  · obtain ⟨found, codes, h⟩ := told_of_steady ((check_loads names).mono fun _ h => h.steady) _
    exact ⟨found, codes, fun runtime _ => ⟨runtime, .inr ⟨rfl, rfl⟩, h.map _⟩⟩
  · rw [← step_eq_guarded]
    generalize topic.step = step at hquery ⊢
    subst hquery
    obtain ⟨found, codes, h⟩ := @query_told loaders script query home
    refine ⟨found, codes, fun runtime hhome => ⟨home, .inl rfl, ?_⟩⟩
    rw [Step.query.injEq]
    exact h runtime hhome

end Topic

namespace Session

variable (loaders : LoaderShelf) (names : List String) (settings : SnapshotSettings) (session : Session)

/-- What is found on a topic when it is probed alone. -/
def finds (topic : Topic) : topic.step.Answer :=
  (session.perform (.direct loaders) names topic.step).answer

/-- The errors that a topic leaves behind when it is probed alone. -/
def left (topic : Topic) : List UInt32 :=
  session.driver.script.raised (session.perform (.direct loaders) names topic.step).events

/-- The errors that are pending, and those that all topics but the guarded one leave behind. -/
def stale : List UInt32 :=
  session.driver.errors ++
    ((Topic.selected settings).filter (· != .computeInvocations)).flatMap (session.left loaders names)

/-- What the probes answer, each of them alone in the session. -/
def alone : Snapshot Timing :=
  let asked (query : Query) := (session.perform (.direct loaders) names (.query query)).answer
  let extensions := distinctNames (asked .extensions)
  { renderer := asked .renderer
    vendor := asked .vendor
    version := asked .version
    displayVendor := asked .displayVendor
    extensions := extensions.take settings.maxExtensions
    extensionCount := extensions.length
    configuration := asked .configuration
    memory := asked .memory
    maxTextureSize := asked .maxTextureSize
    computeInvocations := asked .maxComputeInvocations
    computeSupported := asked .maxComputeInvocations > 0
    vulkanSupported := (session.perform (.direct loaders) names .vulkan).answer.supported
    benchmark := if settings.runBenchmark then asked .benchmark else .notRun
    contextVersion := (session.perform (.direct loaders) names (.query .ensure)).after.runtime.stage.version }

variable {session}

/-- **A topic finds later in the session what it finds alone**, and leaves the same errors behind. -/
theorem probe_alone (hclean : Discardable session.driver.errors) (maxExtensions : Nat) (snapshot : Snapshot Timing)
    (topic : Topic) {runtime : Runtime}
    (hhome : runtime.acquired session.driver.script = session.runtime.acquired session.driver.script) :
    ∃ after, (after = session.runtime.acquired session.driver.script ∨ topic = .vulkan ∧ after = runtime) ∧
      (topic.probe names maxExtensions snapshot runtime).Told loaders session.driver.script
        (topic = .computeInvocations)
        (topic.enter maxExtensions snapshot (session.finds loaders names topic), after)
        (session.left loaders names topic) := by
  obtain ⟨found, codes, htold⟩ := @Topic.told loaders session.driver.script names _ topic
  obtain ⟨alone, -, hself⟩ := htold session.runtime rfl
  obtain ⟨state, events, hrun, -, hcodes⟩ := hself session.driver rfl fun _ => hclean
  have hfound : session.finds loaders names topic = found := by
    rw [finds, perform_direct, hrun]
  have hleft : session.left loaders names topic = session.driver.script.raised events := by
    rw [left, perform_direct, hrun]
  obtain ⟨after, hafter, hlater⟩ := htold runtime hhome
  rw [hfound, hleft, Topic.probe_eq]
  refine ⟨after, hafter, fun d hd hdiscard => ?_⟩
  obtain ⟨state', events', hrun', hscript', hcodes'⟩ :=
    hlater.map (fun found => (topic.enter maxExtensions snapshot found.1, found.2)) d hd hdiscard
  refine ⟨state', events', hrun', hscript', fun hc => ?_⟩
  rw [(hcodes hc).2]
  exact hcodes' hc

/-- **Topics taken in a row find what they find alone**, if the errors pending when the guarded one comes can be thrown
away.  With one topic that needs the context, they end with it. -/
theorem probeAll_alone (hclean : Discardable session.driver.errors) (maxExtensions : Nat) :
    ∀ (topics : List Topic) (snapshot : Snapshot Timing) (runtime : Runtime) (d : DriverState),
      d.script = session.driver.script →
      runtime.acquired session.driver.script = session.runtime.acquired session.driver.script → topics.Nodup →
      (.computeInvocations ∈ topics → Discardable (d.errors ++
        (topics.filter (· != .computeInvocations)).flatMap (session.left loaders names))) →
      let played := (probeAll names maxExtensions snapshot topics runtime).run (DriverState.serve loaders) d
      played.value.1 = topics.foldl
          (fun entered topic => topic.enter maxExtensions entered (session.finds loaders names topic)) snapshot ∧
        (runtime = session.runtime.acquired session.driver.script ∨ (∃ topic ∈ topics, topic ≠ .vulkan) →
          played.value.2 = session.runtime.acquired session.driver.script)
  | [], _, _, _, _, _, _, _ => ⟨rfl, fun h => h.elim id fun ⟨_, hmem, _⟩ => absurd hmem List.not_mem_nil⟩
  | topic :: rest, snapshot, runtime, d, hscript, hhome, hnodup, hstale => by
    obtain ⟨hnew, hrest⟩ := List.nodup_cons.1 hnodup
    obtain ⟨after, hafter, htold⟩ := probe_alone loaders names hclean maxExtensions snapshot topic hhome
    obtain ⟨state, events, hrun, hstate, hcodes⟩ := htold d hscript fun hc =>
      (hstale (hc ▸ List.mem_cons_self)).of_append
    have hnext : after.acquired session.driver.script = session.runtime.acquired session.driver.script := by
      rcases hafter with rfl | ⟨-, rfl⟩
      · exact Runtime.acquired_acquired _ _
      · exact hhome
    -- what the guarded topic will have to throw away is the same list, one topic further on
    obtain ⟨hvalue, hends⟩ := probeAll_alone hclean maxExtensions rest _ after state hstate hnext hrest fun hmem => by
      have hc : topic ≠ .computeInvocations := fun h => hnew (h ▸ hmem)
      have hkept : (topic :: rest).filter (· != .computeInvocations) =
          topic :: rest.filter (· != .computeInvocations) := List.filter_cons_of_pos (bne_iff_ne.2 hc)
      rw [(hcodes hc).1, List.append_assoc, ← List.flatMap_cons, ← hkept]
      exact hstale (List.mem_cons_of_mem _ hmem)
    have hplayed : (probeAll names maxExtensions snapshot (topic :: rest) runtime).run (DriverState.serve loaders) d =
        let entered := topic.enter maxExtensions snapshot (session.finds loaders names topic)
        let later := (probeAll names maxExtensions entered rest after).run (DriverState.serve loaders) state
        ⟨later.value, later.state, events ++ later.events⟩ :=
      (run_bind _ _ (topic.probe names maxExtensions snapshot runtime) d).trans (by rw [hrun])
    rw [hplayed]
    refine ⟨hvalue, fun h => hends ?_⟩
    rcases hafter with hafter | ⟨htopic, hafter⟩
    · exact .inl hafter
    · rcases h with h | ⟨other, hmem, hne⟩
      · exact .inl (hafter.trans h)
      · rcases List.mem_cons.1 hmem with rfl | hmem
        · exact absurd htopic hne
        · exact .inr ⟨other, hmem, hne⟩

theorem runtime_of_ensure : (session.perform (.direct loaders) names (.query .ensure)).after.runtime =
    session.runtime.acquired session.driver.script := by
  obtain ⟨answer, codes, htold⟩ := @query_told loaders session.driver.script .ensure _
  obtain ⟨state, events, hrun, -⟩ := htold session.runtime rfl session.driver rfl nofun
  rw [perform_direct]
  exact congrArg (fun played => played.value.2) hrun

theorem nodup_selected : (Topic.selected settings).Nodup :=
  List.Pairwise.filter _ (by decide)

theorem renderer_mem_selected : .renderer ∈ Topic.selected settings := by
  rw [Topic.selected, List.mem_filter]
  exact ⟨by decide, by simp⟩

/-- **What all topics find alone, entered in their order**, is what the probes answer alone. -/
theorem foldl_selected : (Topic.selected settings).foldl
      (fun entered topic => topic.enter settings.maxExtensions entered (session.finds loaders names topic))
      (.blank .notRun) = { session.alone loaders names settings with contextVersion := none } := by
  obtain ⟨shuffle, benchmark, limit⟩ := settings
  cases benchmark <;> rfl

/-- **A snapshot holds what its probes answer alone**, whatever the order in which its topics are taken. -/
theorem snapshot_eq_alone (hstale : Discardable (session.stale loaders names settings)) {order : List Topic}
    (horder : order.Perm (Topic.selected settings)) :
    (session.perform (.direct loaders) names (.snapshot settings.maxExtensions order)).answer =
      session.alone loaders names settings := by
  have hcodes : Discardable (session.driver.errors ++
      (order.filter (· != .computeInvocations)).flatMap (session.left loaders names)) :=
    hstale.perm (((horder.filter _).flatMap_right _).append_left _).symm
  obtain ⟨hentered, hends⟩ := probeAll_alone loaders names hcodes.of_append settings.maxExtensions order
    (.blank .notRun) session.runtime session.driver rfl rfl (horder.nodup_iff.2 (nodup_selected settings)) fun _ => hcodes
  have hruntime := hends (.inr ⟨.renderer, horder.mem_iff.2 (renderer_mem_selected settings), nofun⟩)
  rw [horder.foldl_eq' (fun t _ t' _ entered => Topic.enter_comm _ (session.finds loaders names) entered t t'),
    foldl_selected] at hentered
  have htaken : (session.perform (.direct loaders) names (.snapshot settings.maxExtensions order)).answer =
      let played := (probeAll names settings.maxExtensions (.blank .notRun) order session.runtime).run
        (DriverState.serve loaders) session.driver
      { played.value.1 with contextVersion := played.value.2.stage.version } := by
    rw [perform_direct]
    exact congrArg (fun played : Played Calls DriverState (Snapshot Timing × Runtime) => played.value.1)
      (run_bind _ _ (probeAll names settings.maxExtensions (.blank .notRun) order session.runtime) _)
  rw [htaken]
  simp only [hentered, hruntime]
  rw [← runtime_of_ensure loaders names]
  rfl

/-- **The order of a snapshot's topics does not matter**, and no topic disturbs another: a snapshot holds what its
probes answer alone, in whatever order they come.  The pending errors, and those that all topics but the guarded one
raise, have to be such that a checked read can throw them away. -/
theorem snapshot_of_order (hstale : Discardable (session.stale loaders names settings)) (order order' : List Topic)
    (horder : order.Perm (Topic.selected settings)) (horder' : order'.Perm (Topic.selected settings)) :
    let taken (topics : List Topic) :=
      (session.perform (.direct loaders) names (.snapshot settings.maxExtensions topics)).answer
    taken order = session.alone loaders names settings ∧ taken order' = taken order :=
  ⟨snapshot_eq_alone loaders names settings hstale horder,
    (snapshot_eq_alone loaders names settings hstale horder').trans
      (snapshot_eq_alone loaders names settings hstale horder).symm⟩

/-- A driver with an error pending, whose reads of numbers raise more. -/
def flagged : Session :=
  .start
    { integers := some [(Gl.maxTextureSize, [4096]), (Gl.maxComputeInvocations, [1024])]
      raises := some [(Gl.extensionCount, [0x500]), (Gl.maxTextureSize, [0x501, 0x502])]
      errors := [0x505] }

/-- Taken backwards, the topics find the same of such a driver. -/
theorem snapshot_of_flagged : Discardable (flagged.stale (fun _ => none) [] {}) ∧
    Topic.all.Perm (Topic.selected {}) ∧ Topic.all.reverse.Perm (Topic.selected {}) ∧
    let taken (topics : List Topic) := (flagged.perform (.direct fun _ => none) [] (.snapshot 15 topics)).answer
    taken Topic.all = flagged.alone (fun _ => none) [] {} ∧ taken Topic.all.reverse = taken Topic.all :=
  have hstale : Discardable (flagged.stale (fun _ => none) [] {}) := by decide +kernel
  have hall : Topic.all.Perm (Topic.selected {}) := by decide
  have hreverse : Topic.all.reverse.Perm (Topic.selected {}) := by decide
  ⟨hstale, hall, hreverse, snapshot_of_order (fun _ => none) [] {} hstale _ _ hall hreverse⟩

end Session
end DriverSurvey
