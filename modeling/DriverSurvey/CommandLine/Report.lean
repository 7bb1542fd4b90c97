import DriverSurvey.CommandLine.Arguments
import DriverSurvey.Settings.Document
import DriverSurvey.Native.Binding
import DriverSurvey.Json.Report
/-!
# Report — what a command prints

Settings come first: a file that was asked for has to be usable, and only then is a library opened.  Behind that point
nothing fails, and every command prints its report.
-/
namespace DriverSurvey
namespace CommandLine

/-- The name of the program and its version. -/
def versionLine : String := "gfxprobe 0.1.0"

/-- What a run leaves: the code it ends with, and the lines on each of its outputs. -/
structure Outcome where
  code : Nat := 0
  out : List String := []
  err : List String := []
  deriving DecidableEq, Repr

/-- The mark that stands for a measured time, which differs from run to run. -/
def timeMark : String := "<ms>"

/-! ## Numbers of a report -/

/-- A number in a report: one with digits, or a measured time. -/
inductive Figure where
  | exact (n : Json.Numeral)
  | measured
  deriving DecidableEq, Repr

/-- The characters of a figure. -/
def Figure.text : Figure → List Char
  | .exact n => n.text
  | .measured => timeMark.toList

/-- The figure of a benchmark in a snapshot. -/
def figureOf : Timing → Figure
  | .notRun => .exact .zeroPointZero
  | .measured => .measured

/-- A JSON value on one line, or with each member on its own. -/
def jsonText (pretty : Bool) (tree : Json.Tree Figure) : String :=
  String.ofList (if pretty then tree.pretty Figure.text 0 else tree.compact Figure.text)

/-! ## Reports -/

/-- Whether a driver is there, in a word. -/
def presence (present : Bool) : String :=
  if present then "loaded" else "missing"

/-- The report on identity. -/
def identityReport (drivers : Bindings) : Survey Outcome := do
  let renderer ← Query.survey .renderer
  let vendor ← Query.survey .vendor
  let version ← Query.survey .version
  let displayVendor ← Query.survey .displayVendor
  let displayVersion ← Query.survey .displayVersion
  let contextVersion ← Query.survey .contextVersion
  return { out := [
    "Drivers:        EGL " ++ presence drivers.egl.isSome ++ ", GLES " ++ presence drivers.gles.isSome,
    "Renderer:       " ++ renderer,
    "Vendor:         " ++ vendor,
    "Version:        " ++ version,
    "Display vendor: " ++ displayVendor,
    "EGL version:    " ++ displayVersion,
    "Context:        " ++ (contextVersion.map EsVersion.text).getD "unavailable"] }

/-- The report on extensions: a name a line. -/
def extensionsReport : Survey Outcome := do
  let names ← Query.survey .extensions
  return { out := names, err := if names.isEmpty then ["no extensions reported"] else [] }

/-- The report on memory. -/
def memoryReport : Survey Outcome := do
  let memory ← Query.survey .memory
  return {
    out := [jsonText true (Json.ofMemory Figure.exact memory)]
    err := if memory == .unknown then ["no vendor memory extension available"] else [] }

/-- A number of thirty-two bits in decimal digits. -/
def decimal (n : UInt32) : String := decimalText n.toNat

/-- The report on the surface and the limits of the driver. -/
def limitsReport : Survey Outcome := do
  let format ← Query.survey .configuration
  let textureSize ← Query.survey .maxTextureSize
  let invocations ← Query.survey .maxComputeInvocations
  return { out := [
    "Configuration:     R" ++ decimal format.red ++ " G" ++ decimal format.green ++ " B" ++ decimal format.blue ++
      " A" ++ decimal format.alpha ++ " D" ++ decimal format.depth ++ " S" ++ decimal format.stencil,
    "Max texture size:  " ++ decimal textureSize,
    "Max compute invoc: " ++ decimal invocations] }

/-- The line of one run of the benchmark. -/
def runLine (run : Nat) : Timing → String
  | .measured => "run " ++ decimalText run ++ ": " ++ timeMark ++ " ms/iteration"
  | .notRun => "run " ++ decimalText run ++ ": no context, benchmark skipped"

/-- The lines of so many runs, from `run` on. -/
def runLines (run : Nat) : Nat → Survey (List String)
  | 0 => return []
  | count + 1 => do
    let timing ← Query.survey .benchmark
    return runLine run timing :: (← runLines (run + 1) count)

/-- The report of a command. -/
def Command.report (drivers : Bindings) (settings : Settings) (shuffle : Shuffle) : Command → Survey Outcome
  | .snapshot pretty => do
    let order := Topic.ordered shuffle settings.snapshot
    let snapshot ← takeSnapshot settings.libraries.vulkan settings.snapshot.maxExtensions order
    return { out := [jsonText pretty (Json.ofSnapshot Figure.exact figureOf snapshot)] }
  | .identity => identityReport drivers
  | .extensions => extensionsReport
  | .memory => memoryReport
  | .limits => limitsReport
  | .benchmark runs => return { out := ← runLines 1 (max runs 1) }
  | .vulkan => do
    let support ← Vulkan.check settings.libraries.vulkan
    return { out := [jsonText true (Json.ofSupport Figure.exact support)] }

/-! ## Running -/

/-- The settings of an invocation: those of the file it names, which has to be usable, or those of the file at hand,
with the defaults in its place if it is not. -/
def Invocation.settings (invocation : Invocation) (file : FileState) : Except Fault Settings :=
  match invocation.config with
  | some _ => Settings.load file
  | none => .ok (Settings.loadLeniently file).settings

/-- What is printed where the file asked for cannot be used. -/
def refusal (path : String) (fault : Fault) : Outcome where
  code := 1
  err := ["Error: failed to load " ++ path ++ ": " ++ fault.message]

/-- Load the drivers and print the report of the command. -/
def Command.perform (command : Command) (settings : Settings) (shuffle : Shuffle) : Program NativeCalls Outcome := do
  let drivers ← Bindings.load settings.libraries.egl settings.libraries.gles
  let played ← (command.report drivers settings shuffle .uninitialized).via drivers.route
  return played.1

/-- Carry out an invocation. -/
def Invocation.perform (invocation : Invocation) (file : FileState) (shuffle : Shuffle) :
    Program NativeCalls Outcome :=
  match invocation.settings file with
  | .error fault => return refusal (invocation.config.getD "") fault
  | .ok settings => invocation.command.perform settings shuffle

/-- What is left where a command line asks for no command.  The words of usage and help are not part of it. -/
def Stop.outcome : Stop → Outcome
  | .usage => { code := 2 }
  | .help => {}
  | .version => { out := [versionLine] }

/-- The file that an invocation reads. -/
def Invocation.path (invocation : Invocation) (systemFileExists : Bool) : String :=
  invocation.config.getD (settingsPath systemFileExists)

/-- Carry out a command line, given what stands at each path and how chance orders a snapshot. -/
def run (files : String → FileState) (systemFileExists : Bool) (arguments : List String) (shuffle : Shuffle := .still) :
    Program NativeCalls Outcome :=
  match read arguments with
  | .error stop => return stop.outcome
  | .ok invocation => invocation.perform (files (invocation.path systemFileExists)) shuffle

end CommandLine
end DriverSurvey
