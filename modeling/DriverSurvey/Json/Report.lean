import DriverSurvey.Json.Field
import DriverSurvey.Settings.Basic
import DriverSurvey.Report
import DriverSurvey.Vulkan
/-!
# Report — reports and settings in JSON

Each record has a writer to a JSON value and a reader back.  Writers take the form of numbers as an argument, so that a
report can hold a time that has no numeral.
-/
namespace DriverSurvey
namespace Json

variable {N : Type}

/-! ## Writing -/

/-- A member with a text for its key. -/
def member (key : String) (value : Tree N) : Option String × Tree N := (some key, value)

/-- A text. -/
def ofText (text : String) : Tree N := .text (some text)

/-- A list of texts. -/
def ofTexts (texts : List String) : Tree N := .array (texts.map ofText)

/-- A value, or null. -/
def ofOption {α : Type} (write : α → Tree N) : Option α → Tree N
  | none => .null
  | some a => write a

/-- A whole number. -/
def ofNat (number : Numeral → N) (n : Nat) : Tree N := .number (number (.ofNat n))

/-- A number of thirty-two bits. -/
def ofWord (number : Numeral → N) (n : UInt32) : Tree N := ofNat number n.toNat

/-- A version under its key. -/
def ofVersion (version : EsVersion) : Tree N := ofText version.key

def ofFormat (number : Numeral → N) (format : SurfaceFormat) : Tree N :=
  .object [member "red" (ofWord number format.red), member "green" (ofWord number format.green),
    member "blue" (ofWord number format.blue), member "alpha" (ofWord number format.alpha),
    member "depth" (ofWord number format.depth), member "stencil" (ofWord number format.stencil)]

def ofMemory (number : Numeral → N) (memory : VideoMemory) : Tree N :=
  .object [member "total" (ofWord number memory.total), member "used" (ofWord number memory.used),
    member "free" (ofWord number memory.free)]

/-- A snapshot, its fields in order.  `reading` writes the time of the benchmark. -/
def ofSnapshot {Reading : Type} (number : Numeral → N) (reading : Reading → N) (s : Snapshot Reading) : Tree N :=
  .object [member "renderer" (ofText s.renderer), member "vendor" (ofText s.vendor),
    member "version" (ofText s.version), member "displayVendor" (ofText s.displayVendor),
    member "extensions" (ofTexts s.extensions), member "extensionCount" (ofNat number s.extensionCount),
    member "configuration" (ofFormat number s.configuration), member "memory" (ofMemory number s.memory),
    member "maxTextureSize" (ofWord number s.maxTextureSize),
    member "computeWorkGroupInvocations" (ofWord number s.computeInvocations),
    member "computeSupported" (.bool s.computeSupported), member "vulkanSupported" (.bool s.vulkanSupported),
    member "microBenchmarkMs" (.number (reading s.benchmark)),
    member "contextVersion" (ofOption ofVersion s.contextVersion)]

def ofSupport (number : Numeral → N) (support : Vulkan.Support) : Tree N :=
  .object [member "supported" (.bool support.supported), member "library" (ofOption ofText support.library),
    member "apiVersion" (ofOption (ofWord number) support.apiVersion)]

def ofLibraryNames (names : LibraryNames) : Tree N :=
  .object [member "egl" (ofTexts names.egl), member "gles" (ofTexts names.gles),
    member "vulkan" (ofTexts names.vulkan)]

def ofSnapshotSettings (number : Numeral → N) (settings : SnapshotSettings) : Tree N :=
  .object [member "shuffle_order" (.bool settings.shuffleOrder), member "run_benchmark" (.bool settings.runBenchmark),
    member "max_extensions" (ofNat number settings.maxExtensions)]

def ofSettings (number : Numeral → N) (settings : Settings) : Tree N :=
  .object [member "libraries" (ofLibraryNames settings.libraries),
    member "snapshot" (ofSnapshotSettings number settings.snapshot)]

/-! ## Reading -/

/-- A version: its key, or an object with the key alone and null under it. -/
def version? : Value → Option EsVersion
  | .text (some key) => EsVersion.ofKey? key
  | .object [(some key, .null)] => EsVersion.ofKey? key
  | _ => none

/-- A version or null. -/
def heldVersion? : Value → Option (Option EsVersion)
  | .null => some none
  | value => (version? value).map some

def formatFields : List String := ["red", "green", "blue", "alpha", "depth", "stencil"]

def format? (value : Value) : Option SurfaceFormat := do
  let fields ← fields? formatFields value
  return {
    red := ← required? word? "red" fields
    green := ← required? word? "green" fields
    blue := ← required? word? "blue" fields
    alpha := ← required? word? "alpha" fields
    depth := ← required? word? "depth" fields
    stencil := ← required? word? "stencil" fields }

def memoryFields : List String := ["total", "used", "free"]

def memory? (value : Value) : Option VideoMemory := do
  let fields ← fields? memoryFields value
  return {
    total := ← required? word? "total" fields
    used := ← required? word? "used" fields
    free := ← required? word? "free" fields }

def snapshotFields : List String :=
  ["renderer", "vendor", "version", "displayVendor", "extensions", "extensionCount", "configuration", "memory",
   "maxTextureSize", "computeWorkGroupInvocations", "computeSupported", "vulkanSupported", "microBenchmarkMs",
   "contextVersion"]

/-- A snapshot with the time of its benchmark as a number.  In an object the version of the context may be left out;
an array holds every field. -/
def snapshot? (value : Value) : Option (Snapshot Float) := do
  let fields ← fields? snapshotFields value
  return {
    renderer := ← required? text? "renderer" fields
    vendor := ← required? text? "vendor" fields
    version := ← required? text? "version" fields
    displayVendor := ← required? text? "displayVendor" fields
    extensions := ← required? texts? "extensions" fields
    extensionCount := ← required? size? "extensionCount" fields
    configuration := ← required? format? "configuration" fields
    memory := ← required? memory? "memory" fields
    maxTextureSize := ← required? word? "maxTextureSize" fields
    computeInvocations := ← required? word? "computeWorkGroupInvocations" fields
    computeSupported := ← required? bool? "computeSupported" fields
    vulkanSupported := ← required? bool? "vulkanSupported" fields
    benchmark := ← required? float? "microBenchmarkMs" fields
    contextVersion := ←
      if isArray value then required? heldVersion? "contextVersion" fields
      else optional? none heldVersion? "contextVersion" fields }

def libraryFields : List String := ["egl", "gles", "vulkan"]

/-- Lists of libraries, each with its default. -/
def libraryNames? (value : Value) : Option LibraryNames := do
  let fields ← fields? libraryFields value
  return {
    egl := ← optional? defaultEglNames texts? "egl" fields
    gles := ← optional? defaultGlesNames texts? "gles" fields
    vulkan := ← optional? defaultVulkanNames texts? "vulkan" fields }

def snapshotSettingsFields : List String := ["shuffle_order", "run_benchmark", "max_extensions"]

/-- What a snapshot is to hold, each field with its default. -/
def snapshotSettings? (value : Value) : Option SnapshotSettings := do
  let fields ← fields? snapshotSettingsFields value
  let standard : SnapshotSettings := {}
  return {
    shuffleOrder := ← optional? standard.shuffleOrder bool? "shuffle_order" fields
    runBenchmark := ← optional? standard.runBenchmark bool? "run_benchmark" fields
    maxExtensions := ← optional? standard.maxExtensions size? "max_extensions" fields }

def settingsFields : List String := ["libraries", "snapshot"]

/-- All settings, each section with its default.  Whether they are usable is not asked here. -/
def settings? (value : Value) : Option Settings := do
  let fields ← fields? settingsFields value
  return {
    libraries := ← optional? {} libraryNames? "libraries" fields
    snapshot := ← optional? {} snapshotSettings? "snapshot" fields }

/-- The time of a benchmark: a bare number. -/
def roundTime? (value : Value) : Option RoundTime :=
  (float? value).map RoundTime.mk

end Json
end DriverSurvey
