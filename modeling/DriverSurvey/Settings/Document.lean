import DriverSurvey.Settings.Basic
import DriverSurvey.Toml.Document
import DriverSurvey.Path
import DriverSurvey.Text.Utf8
/-!
# Document — settings from a TOML document or a file

A key that is missing takes its default, each on its own; a key that is not known is ignored.  A section may also be
written as the list of its fields.  A file that cannot be used is refused by `load`, and replaced by the defaults by
`loadLeniently`.
-/
namespace DriverSurvey
namespace Settings

open Toml (Value Members)

/-! ## Values -/

/-- A text. -/
def text? : Value → Option String
  | .text text => some text
  | _ => none

/-- A list of texts. -/
def texts? : Value → Option (List String)
  | .array items => items.mapM text?
  | _ => none

/-- A truth value. -/
def flag? : Value → Option Bool
  | .boolean b => some b
  | _ => none

/-- A whole number that is not negative. -/
def count? : Value → Option Nat
  | .integer n => if 0 ≤ n then some n.toNat else none
  | _ => none

/-- A field that may be missing: its default then, else what `read` makes of it. -/
def orDefault {α : Type} (standard : α) (read : Value → Option α) : Option Value → Option α
  | none => some standard
  | some value => read value

/-- The fields of a section by name.  Written as a list it gives them in the order of `names`; a list of tables is such
a list.  A date has no field of any name. -/
def section? (names : List String) : Value → Option (String → Option Value)
  | .table _ members => some fun name => members.lookup name
  | .array items => some fun name => (names.zip items).lookup name
  | .tables items => some fun name => (names.zip (items.map (Value.table .header))).lookup name
  | .instant => some fun _ => none
  | _ => none

/-! ## Sections -/

/-- The lists of libraries. -/
def libraries? (value : Value) : Option LibraryNames := do
  let field ← section? ["egl", "gles", "vulkan"] value
  return {
    egl := ← orDefault defaultEglNames texts? (field "egl")
    gles := ← orDefault defaultGlesNames texts? (field "gles")
    vulkan := ← orDefault defaultVulkanNames texts? (field "vulkan") }

/-- What a snapshot is to hold. -/
def snapshot? (value : Value) : Option SnapshotSettings := do
  let field ← section? ["shuffle_order", "run_benchmark", "max_extensions"] value
  let standard : SnapshotSettings := {}
  return {
    shuffleOrder := ← orDefault standard.shuffleOrder flag? (field "shuffle_order")
    runBenchmark := ← orDefault standard.runBenchmark flag? (field "run_benchmark")
    maxExtensions := ← orDefault standard.maxExtensions count? (field "max_extensions") }

/-- The settings that the members of a document spell; `none` where a value is not of the kind its key asks for. -/
def ofMembers? (members : Members) : Option Settings := do
  return {
    libraries := ← orDefault {} libraries? (members.lookup "libraries")
    snapshot := ← orDefault {} snapshot? (members.lookup "snapshot") }

/-- Settings that have to be usable. -/
def checked (settings : Settings) : Except Fault Settings :=
  match settings.flaw? with
  | none => .ok settings
  | some complaint => .error (.badSettings (.unusable complaint))

/-- The settings of a document. -/
def ofToml (document : String) : Except Fault Settings :=
  match (Toml.parse document).bind ofMembers? with
  | none => .error (.badSettings .malformed)
  | some settings => checked settings

/-! ## Files -/

/-- The settings in a file. -/
def load (file : FileState) : Except Fault Settings :=
  match file with
  | .error failure => .error (.unreadable failure)
  | .ok octets =>
    match decodeUtf8? octets with
    | none => .error (.unreadable .notUtf8)
    | some text => ofToml (String.ofList text)

/-- Settings in use, and how many warnings were given on the way. -/
structure Loaded where
  settings : Settings
  warnings : Nat
  deriving DecidableEq, Repr

/-- The settings in a file, or the defaults.  A file that is there and cannot be used earns a warning. -/
def loadLeniently (file : FileState) : Loaded :=
  match load file with
  | .ok settings => ⟨settings, 0⟩
  | .error (.unreadable (.system .notFound)) => ⟨{}, 0⟩
  | .error _ => ⟨{}, 1⟩

end Settings
end DriverSurvey
