import DriverSurvey.Session
import DriverSurvey.Settings.Basic
/-!
# Shared — the one survey of a process

A process has one survey, made by whoever asks for it first.  Later callers get that one, whatever settings they bring.
-/
namespace DriverSurvey

/-- Bindings loaded under some settings, with the session over them. -/
structure Shared where
  settings : Settings
  drivers : Bindings
  session : Session

namespace Shared

/-- Load drivers and begin. -/
def start (shelf : Shelf) (driver : DriverState) (settings : Settings) : Shared :=
  let played := (Bindings.load settings.libraries.egl settings.libraries.gles).run
    (DriverState.serveNative shelf) driver
  ⟨settings, played.value, { driver := played.state }⟩

/-- The survey that is held, or one begun with the settings offered. -/
def heldOrStarted (shelf : Shelf) (driver : DriverState) (held : Option Shared) (offered : Settings) : Shared :=
  held.getD (start shelf driver offered)

/-- The rig of a shared survey. -/
def rig (shelf : Shelf) (shared : Shared) : Rig :=
  .native shelf shared.drivers

end Shared
end DriverSurvey
