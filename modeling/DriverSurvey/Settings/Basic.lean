import DriverSurvey.Graphics.Snapshot
import DriverSurvey.Text.Blank
/-!
# Basic — settings and their defaults

Which libraries are tried, and what a snapshot holds.  Settings are usable when each list of libraries has a name and
none of its names is blank; `flaw?` finds the first list that is not.
-/
namespace DriverSurvey

/-- The platform that the default names are for. -/
def hostPlatform : String := "linux"

def defaultEglNames : List String := ["libEGL.so.1", "libEGL.so"]
def defaultGlesNames : List String := ["libGLESv2.so.2", "libGLESv2.so"]
def defaultVulkanNames : List String := ["libvulkan.so", "libvulkan.so.1"]

/-- The names under which native libraries are tried, in order. -/
structure LibraryNames where
  egl : List String := defaultEglNames
  gles : List String := defaultGlesNames
  vulkan : List String := defaultVulkanNames
  deriving DecidableEq, Repr

/-- All settings of a survey. -/
structure Settings where
  libraries : LibraryNames := {}
  snapshot : SnapshotSettings := {}
  deriving DecidableEq, Repr

/-- The file of the whole system. -/
def systemSettingsPath : String := "/etc/gfxprobe/gfxprobe.toml"

/-- The file of the directory at hand. -/
def localSettingsPath : String := "gfxprobe.toml"

/-- The file read where none is asked for: the system's if there is one. -/
def settingsPath (systemFileExists : Bool) : String :=
  if systemFileExists then systemSettingsPath else localSettingsPath

/-- A log sink is installed only where there is none yet; whether it was, and that there is one now. -/
def installSink (installed : Bool) : Bool × Bool := (!installed, true)

/-- Whether a list has a name, and no blank one. -/
def isUsableList (names : List String) : Bool :=
  !names.isEmpty && names.all (fun name => !isBlankText name)

namespace Settings

/-- The lists of libraries under their keys, in the order in which they are checked. -/
def lists (settings : Settings) : List (String × List String) :=
  [("libraries.egl", settings.libraries.egl), ("libraries.gles", settings.libraries.gles),
   ("libraries.vulkan", settings.libraries.vulkan)]

/-- What is said of a list without a usable name. -/
def listComplaint (key : String) : String :=
  key ++ " must list at least one non-empty library name"

/-- The complaint about the first list that is not usable. -/
def flaw? (settings : Settings) : Option String :=
  (settings.lists.find? (fun list => !isUsableList list.2)).map (fun list => listComplaint list.1)

/-- Whether every list is usable. -/
def isUsable (settings : Settings) : Bool :=
  settings.lists.all (fun list => isUsableList list.2)

theorem flaw?_eq_none_iff (settings : Settings) : settings.flaw? = none ↔ settings.isUsable = true := by
  simp [flaw?, isUsable, List.find?_eq_none]

end Settings
end DriverSurvey
