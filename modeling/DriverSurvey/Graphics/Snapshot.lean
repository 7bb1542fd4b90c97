import DriverSurvey.Graphics.Query
import DriverSurvey.Vulkan
/-!
# Snapshot — everything found out in one pass

A snapshot is taken topic by topic.  The order is the caller's; each topic fills its own fields, and the version of the
context is read off the runtime at the end.
-/
namespace DriverSurvey

/-- A part of a snapshot that is probed in one go. -/
inductive Topic where
  | renderer
  | vendor
  | version
  | extensions
  | displayVendor
  | configuration
  | memory
  | maxTextureSize
  | computeInvocations
  | vulkan
  | benchmark
  deriving DecidableEq, Repr

/-- What a snapshot is to hold. -/
structure SnapshotSettings where
  /-- Whether the order of the topics is left to chance. -/
  shuffleOrder : Bool := true
  runBenchmark : Bool := true
  /-- How many extension names are kept. -/
  maxExtensions : Nat := 15
  deriving DecidableEq, Repr

/-! ## Chance -/

/-- How chance orders topics: none is lost, and none comes up more often than before. -/
structure Shuffle where
  order : List Topic → List Topic
  perm (topics : List Topic) : (order topics).Perm topics

/-- Put every topic in among those behind it, at the place drawn for it.  Where no place is left, the rest stays. -/
def scatter : List Nat → List Topic → List Topic
  | place :: places, topic :: rest =>
    let scattered := scatter places rest
    let before := place % (scattered.length + 1)
    scattered.take before ++ topic :: scattered.drop before
  | [], topics => topics
  | _ :: _, [] => []

theorem scatter_perm : ∀ (places : List Nat) (topics : List Topic), (scatter places topics).Perm topics
  | [], _ => .refl _
  | _ :: _, [] => .refl _
  | place :: places, topic :: rest => by
    have hrest : (scatter places rest).Perm rest := scatter_perm places rest
    refine List.perm_middle.trans (.cons topic ?_)
    rw [List.take_append_drop]
    exact hrest

namespace Shuffle

/-- Chance that leaves all in order. -/
def still : Shuffle where
  order := id
  perm := List.Perm.refl

/-- Chance that drew these places. -/
def drawn (places : List Nat) : Shuffle where
  order := scatter places
  perm := scatter_perm places

/-- Chance that brings about one order of some topics. -/
def bringing {topics order : List Topic} (h : order.Perm topics) : Shuffle where
  order others := if others = topics then order else others
  perm others := by
    split
    next heq =>
      rw [heq]
      exact h
    next => exact .refl _

end Shuffle

/-! ## Topics -/

namespace Topic

/-- All topics, in the order in which they are taken where nothing else is asked for. -/
def all : List Topic :=
  [.renderer, .vendor, .version, .extensions, .displayVendor, .configuration, .memory, .maxTextureSize,
   .computeInvocations, .vulkan, .benchmark]

/-- The topics that the settings ask for. -/
def selected (settings : SnapshotSettings) : List Topic :=
  all.filter (fun topic => settings.runBenchmark || topic != .benchmark)

/-- The topics that the settings ask for, as chance orders them where the settings leave it to chance. -/
def ordered (shuffle : Shuffle) (settings : SnapshotSettings) : List Topic :=
  if settings.shuffleOrder then shuffle.order (selected settings) else selected settings

/-- **Any order of the topics can come up** where it is left to chance. -/
theorem exists_ordered {settings : SnapshotSettings} (hchance : settings.shuffleOrder = true) {order : List Topic}
    (h : order.Perm (selected settings)) : ∃ shuffle : Shuffle, ordered shuffle settings = order :=
  ⟨.bringing h, (if_pos hchance).trans (if_pos rfl)⟩

/-- Probe one topic and enter what was found.  `loaders` are the names under which Vulkan is looked for. -/
def probe (loaders : List String) (maxExtensions : Nat) (snapshot : Snapshot Timing) :
    Topic → Survey (Snapshot Timing)
  | .renderer => return { snapshot with renderer := ← Query.survey .renderer }
  | .vendor => return { snapshot with vendor := ← Query.survey .vendor }
  | .version => return { snapshot with version := ← Query.survey .version }
  | .extensions => do
    let names := distinctNames (← Query.survey .extensions)
    return { snapshot with extensions := names.take maxExtensions, extensionCount := names.length }
  | .displayVendor => return { snapshot with displayVendor := ← Query.survey .displayVendor }
  | .configuration => return { snapshot with configuration := ← Query.survey .configuration }
  | .memory => return { snapshot with memory := ← Query.survey .memory }
  | .maxTextureSize => return { snapshot with maxTextureSize := ← Query.survey .maxTextureSize }
  | .computeInvocations => do
    let invocations ← Query.survey .maxComputeInvocations
    return { snapshot with computeInvocations := invocations, computeSupported := invocations > 0 }
  | .vulkan => return { snapshot with vulkanSupported := (← Vulkan.check loaders).supported }
  | .benchmark => return { snapshot with benchmark := ← Query.survey .benchmark }

end Topic

/-! ## Taking a snapshot -/

/-- Probe the topics in order, each on what those before it entered. -/
def probeAll (loaders : List String) (maxExtensions : Nat) (snapshot : Snapshot Timing) :
    List Topic → Survey (Snapshot Timing)
  | [] => return snapshot
  | topic :: rest => do
    let after ← topic.probe loaders maxExtensions snapshot
    probeAll loaders maxExtensions after rest

/-- Take a snapshot, its topics in the order given. -/
def takeSnapshot (loaders : List String) (maxExtensions : Nat) (order : List Topic) : Survey (Snapshot Timing) := do
  let snapshot ← probeAll loaders maxExtensions (.blank .notRun) order
  return { snapshot with contextVersion := (← Survey.stage).version }

end DriverSurvey
