import DriverSurvey.Version
/-!
# Report — what a survey finds out

The records that probes answer and a snapshot holds.  Each has a value that stands for "not known".
-/
namespace DriverSurvey

/-- Bit depths of the offscreen surface.  All zero means that they are not known. -/
structure SurfaceFormat where
  red : UInt32 := 0
  green : UInt32 := 0
  blue : UInt32 := 0
  alpha : UInt32 := 0
  depth : UInt32 := 0
  stencil : UInt32 := 0
  deriving DecidableEq, Repr, Inhabited

namespace SurfaceFormat

/-- Nothing is known of the surface. -/
def unknown : SurfaceFormat := {}

/-- The depths in the order of their fields. -/
def toList (format : SurfaceFormat) : List UInt32 :=
  [format.red, format.green, format.blue, format.alpha, format.depth, format.stencil]

end SurfaceFormat

/-- Memory of the graphics unit in kilobytes.  All zero means that no counter is known. -/
structure VideoMemory where
  total : UInt32 := 0
  used : UInt32 := 0
  free : UInt32 := 0
  deriving DecidableEq, Repr, Inhabited

/-- Nothing is known of the memory. -/
def VideoMemory.unknown : VideoMemory := {}

/-- Whether a benchmark was timed.  The time itself differs from run to run, so a survey keeps only that it was taken;
a time that is measured is positive. -/
inductive Timing where
  | notRun
  | measured
  deriving DecidableEq, Repr, Inhabited

/-- Mean milliseconds of one benchmark round; zero where none was run. -/
structure RoundTime where
  millis : Float

namespace RoundTime

/-- No round was run. -/
def notRun : RoundTime := ⟨0.0⟩

/-- Whether a round was run. -/
def didRun (time : RoundTime) : Bool :=
  time.millis > 0.0

/-- Equality of numbers: zero equals its negative, and what is no number equals nothing. -/
def same (left right : RoundTime) : Bool :=
  left.millis == right.millis

end RoundTime

/-- Everything found out in one pass.  `Reading` is how the benchmark's time is kept. -/
structure Snapshot (Reading : Type) where
  renderer : String
  vendor : String
  version : String
  displayVendor : String
  /-- Distinct names that are not blank, up to a limit. -/
  extensions : List String
  /-- How many distinct names there are without the limit. -/
  extensionCount : Nat
  configuration : SurfaceFormat
  memory : VideoMemory
  maxTextureSize : UInt32
  computeInvocations : UInt32
  computeSupported : Bool
  vulkanSupported : Bool
  benchmark : Reading
  contextVersion : Option EsVersion
  deriving DecidableEq, Repr

namespace Snapshot

/-- A snapshot in which nothing is known. -/
def blank {Reading : Type} (reading : Reading) : Snapshot Reading where
  renderer := ""
  vendor := ""
  version := ""
  displayVendor := ""
  extensions := []
  extensionCount := 0
  configuration := .unknown
  memory := .unknown
  maxTextureSize := 0
  computeInvocations := 0
  computeSupported := false
  vulkanSupported := false
  benchmark := reading
  contextVersion := none

/-- The same snapshot with another form of the benchmark's time. -/
def withReading {Reading Other : Type} (snapshot : Snapshot Reading) (reading : Other) : Snapshot Other where
  renderer := snapshot.renderer
  vendor := snapshot.vendor
  version := snapshot.version
  displayVendor := snapshot.displayVendor
  extensions := snapshot.extensions
  extensionCount := snapshot.extensionCount
  configuration := snapshot.configuration
  memory := snapshot.memory
  maxTextureSize := snapshot.maxTextureSize
  computeInvocations := snapshot.computeInvocations
  computeSupported := snapshot.computeSupported
  vulkanSupported := snapshot.vulkanSupported
  benchmark := reading
  contextVersion := snapshot.contextVersion

end Snapshot
end DriverSurvey
