import DriverSurvey.Graphics.Context
import DriverSurvey.Graphics.Extension
import DriverSurvey.Report
/-!
# Query — what can be asked of the graphics driver

Every query has the type of its answer, a sentinel, and a program that asks it under a current context.  Asking it is
the same for all of them: acquire the context, then ask; the sentinel where there is no context.
-/
namespace DriverSurvey

/-- A query of the graphics driver. -/
inductive Query where
  /-- Whether there is a context. -/
  | ensure
  | active
  | contextVersion
  | renderer
  | vendor
  | version
  | displayVendor
  | displayVersion
  | extensions
  | configuration
  | maxTextureSize
  | maxComputeInvocations
  | memory
  | benchmark
  deriving DecidableEq, Repr

/-- The type of the answer to a query. -/
abbrev Query.Answer : Query → Type
  | .ensure => Bool
  | .active => Option Active
  | .contextVersion => Option EsVersion
  | .renderer | .vendor | .version | .displayVendor | .displayVersion => String
  | .extensions => List String
  | .configuration => SurfaceFormat
  | .maxTextureSize | .maxComputeInvocations => UInt32
  | .memory => VideoMemory
  | .benchmark => Timing

/-- The answer where there is no context. -/
def Query.sentinel : (query : Query) → query.Answer
  | .ensure => false
  | .active => none
  | .contextVersion => none
  | .renderer | .vendor | .version | .displayVendor | .displayVersion => ""
  | .extensions => []
  | .configuration => .unknown
  | .maxTextureSize | .maxComputeInvocations => 0
  | .memory => .unknown
  | .benchmark => .notRun

/-! ## Numbers -/

/-- The number itself where it is not negative, else zero. -/
def nonNegative (value : Int32) : UInt32 :=
  UInt32.ofNat value.toInt.toNat

/-- The difference, or zero where it would be negative. -/
def lessOrZero (left right : UInt32) : UInt32 :=
  UInt32.ofNat (left.toNat - right.toNat)

theorem toInt_nonNegative (value : Int32) : ((nonNegative value).toNat : Int) = max 0 value.toInt := by
  have hvalue : value.toInt < 2 ^ 31 := value.toInt_lt
  have hsmall : value.toInt.toNat < 2 ^ 32 := by omega
  rw [nonNegative, UInt32.toNat_ofNat_of_lt' hsmall]
  omega

theorem toNat_lessOrZero (left right : UInt32) : (lessOrZero left right).toNat = left.toNat - right.toNat := by
  have hsmall : left.toNat - right.toNat < 2 ^ 32 := Nat.lt_of_le_of_lt (Nat.sub_le _ _) left.toNat_lt
  exact UInt32.toNat_ofNat_of_lt' hsmall

/-! ## Reading with the error flag checked -/

/-- How many error codes left by earlier calls are thrown away before a checked read. -/
def discardLimit : Nat := 8

/-- Throw error codes away until there is none, but at most so many. -/
def discardErrors : Nat → Program Calls Unit
  | 0 => return ()
  | limit + 1 => do
    if (← ask .error) == Gl.noError then return ()
    else discardErrors limit

/-- Read one integer, and fail if the read raised an error. -/
def readGuarded (token : UInt32) : Program Calls (Except Fault Int32) := do
  discardErrors discardLimit
  let value ← readInteger token
  let code ← ask .error
  if code == Gl.noError then return .ok value
  else return .error (.flagged "glGetIntegerv" code)

/-! ## Memory -/

/-- The extension under which NVIDIA reports total and available memory. -/
def nvxExtension : String := "GL_NVX_gpu_memory_info"
/-- The extension under which ATI reports free memory. -/
def atiExtension : String := "GL_ATI_meminfo"

/-- Whether the names, written one behind the other, mention the extension. -/
def mentions (names : List String) (marker : String) : Bool :=
  occursIn marker.toList (spaced names).toList

/-- The memory of which the NVX counters tell. -/
def nvxMemory (total current : Int32) : VideoMemory :=
  let free := nonNegative current
  ⟨nonNegative total, lessOrZero (nonNegative total) free, free⟩

/-- The memory of which the ATI counter tells: free memory stands for the total too. -/
def atiMemory (free : Int32) : VideoMemory :=
  ⟨nonNegative free, 0, nonNegative free⟩

/-- Read the ATI counters if the names mention them. -/
def readAtiMemory (names : List String) : Program Calls VideoMemory := do
  if mentions names atiExtension then
    let free := (← readIntegers Gl.freeMemory [0, 0, 0, 0]).headD 0
    if free > 0 then return atiMemory free else return .unknown
  else return .unknown

/-- Read the counters of whichever vendor the names mention, NVX first.  A total that is not positive says nothing. -/
def readMemory (names : List String) : Program Calls VideoMemory := do
  if mentions names nvxExtension then
    let total ← readInteger Gl.totalMemory
    let current ← readInteger Gl.availableMemory
    if total > 0 then return nvxMemory total current else readAtiMemory names
  else readAtiMemory names

/-! ## Benchmark -/

/-- How many rounds a benchmark has. -/
def benchmarkRounds : Nat := 12

/-- The color of a round.  Its red differs from round to round, so that no clear can be left out. -/
def roundColor (round : Nat) : Color where
  red := ((0.1 : Float32) * Float32.ofNat round).toBits
  green := (0.2 : Float32).toBits
  blue := (0.3 : Float32).toBits
  alpha := (1.0 : Float32).toBits

/-- The buffers that a round clears. -/
def roundMask : UInt32 :=
  Gl.colorBufferBit ||| Gl.depthBufferBit ||| Gl.stencilBufferBit

/-- So many rounds of clearing and waiting, from `round` on. -/
def clearRounds (round : Nat) : Nat → Program Calls Unit
  | 0 => return ()
  | count + 1 => do
    ask (.clearColor (roundColor round))
    ask (.clear roundMask)
    ask .finish
    clearRounds (round + 1) count

/-! ## Asking -/

/-- Ask a string of the context; the empty text where there is none. -/
def readText (token : UInt32) : Program Calls String := do
  return (← ask (.text token)).getD ""

/-- Read one bit depth of the configuration, zero where it is refused. -/
def readDepth (active : Active) (channel : Channel) : Program Calls UInt32 := do
  return ((← ask (.configDepth active.display active.config channel)).map nonNegative).getD 0

/-- Read the bit depths of the configuration. -/
def readFormat (active : Active) : Program Calls SurfaceFormat := do
  let red ← readDepth active .red
  let green ← readDepth active .green
  let blue ← readDepth active .blue
  let alpha ← readDepth active .alpha
  let depth ← readDepth active .depth
  let stencil ← readDepth active .stencil
  return ⟨red, green, blue, alpha, depth, stencil⟩

/-- What a query asks under a current context. -/
def Query.body : (query : Query) → Active → Program Calls query.Answer
  | .ensure, _ => return true
  | .active, current => return some current
  | .contextVersion, current => return some current.version
  | .renderer, _ => readText Gl.renderer
  | .vendor, _ => readText Gl.vendor
  | .version, _ => readText Gl.version
  | .displayVendor, current => return (← ask (.displayText current.display .vendor)).getD ""
  | .displayVersion, current => return (← ask (.displayText current.display .version)).getD ""
  | .extensions, _ => readExtensions
  | .configuration, current => readFormat current
  | .maxTextureSize, _ => return nonNegative (← readInteger Gl.maxTextureSize)
  | .maxComputeInvocations, _ => do
    match ← readGuarded Gl.maxComputeInvocations with
    | .ok value => return nonNegative value
    | .error _ => return 0
  | .memory, _ => do readMemory (← readExtensions)
  | .benchmark, _ => do
    clearRounds 0 benchmarkRounds
    return .measured

/-- Ask a query of whatever context can be had. -/
def Query.survey (query : Query) : Survey query.Answer :=
  Survey.withContext query.sentinel query.body

end DriverSurvey
