import DriverSurvey.Graphics.Call
import DriverSurvey.Fault
/-!
# Context — the one rendering context that all queries share

The runtime moves through three stages, `uninitialized`, `displayBound` and `ready`, and is never torn down.  Its type
admits nothing else: a bound context has a display, and surface, context and configuration come from one attempt.

`acquire` goes on from the stage that was reached, and always ends in a fresh make-current.  A failure keeps what was
gained before it.
-/
namespace DriverSurvey

/-- Surface, context and configuration of one successful attempt. -/
structure Bound where
  surface : Surface
  context : Context
  config : Config
  version : EsVersion
  deriving DecidableEq, Repr

/-- What is held of the graphics system. -/
inductive Runtime where
  | uninitialized
  | displayBound (display : Display)
  | ready (display : Display) (bound : Bound)
  deriving DecidableEq, Repr

/-- How far a runtime has come. -/
inductive Stage where
  | uninitialized
  | displayBound
  | ready (version : EsVersion)
  deriving DecidableEq, Repr

namespace Stage

/-- The version of the context, once there is one. -/
def version : Stage → Option EsVersion
  | .ready version => some version
  | _ => none

/-- The place of the stage in the lifecycle. -/
def rank : Stage → Nat
  | .uninitialized => 0
  | .displayBound => 1
  | .ready _ => 2

end Stage

/-- The handles of the current context that queries need. -/
structure Active where
  display : Display
  config : Config
  version : EsVersion
  deriving DecidableEq, Repr

namespace Runtime

/-- The stage of a runtime. -/
def stage : Runtime → Stage
  | .uninitialized => .uninitialized
  | .displayBound _ => .displayBound
  | .ready _ bound => .ready bound.version

/-- The display held, if any. -/
def display? : Runtime → Option Display
  | .uninitialized => none
  | .displayBound display => some display
  | .ready display _ => some display

/-- The bound context held, if any. -/
def bound? : Runtime → Option Bound
  | .ready _ bound => some bound
  | _ => none

/-! ## Acquiring -/

/-- Find the default display and initialize it. -/
def openDisplay : Program Calls (Except Fault Display) := do
  match ← ask .defaultDisplay with
  | none => return .error (.unavailable "no default display")
  | some display =>
    match ← ask (.openDisplay display) with
    | none => return .error (.unavailable "display initialization failed")
    | some _ => return .ok display

/-- One attempt at a context of one version.  Whether the driver says that the API is bound does not matter; a surface
left without a context is given back. -/
def attempt (display : Display) (version : EsVersion) : Program Calls (Except Fault Bound) := do
  let _ ← ask .bindApi
  match ← ask (.chooseConfig display (.standard version)) with
  | none => return .error (.noConfiguration version)
  | some config =>
    match ← ask (.createSurface display config) with
    | none => return .error (.rejected "pbuffer surface creation" version)
    | some surface =>
      match ← ask (.createContext display config version) with
      | none =>
        ask (.destroySurface display surface)
        return .error (.rejected "context creation" version)
      | some context => return .ok ⟨surface, context, config, version⟩

/-- The first attempt that succeeds; if none does, the fault of the last one, or `last` where there is none. -/
def attemptAll (display : Display) (last : Fault) : List EsVersion → Program Calls (Except Fault Bound)
  | [] => return .error last
  | version :: rest => do
    match ← attempt display version with
    | .ok bound => return .ok bound
    | .error fault => attemptAll display fault rest

/-- Make the bound context current.  A refusal leaves the runtime as it is. -/
def activate (display : Display) (bound : Bound) : Program Calls (Except Fault Active × Runtime) := do
  if ← ask (.makeCurrent display bound.surface bound.context) then
    return (.ok ⟨display, bound.config, bound.version⟩, .ready display bound)
  else
    return (.error (.rejected "make-current" bound.version), .ready display bound)

/-- Bind a context on a display that is held, and make it current. -/
def bindContext (display : Display) : Program Calls (Except Fault Active × Runtime) := do
  match ← attemptAll display (.unavailable "no context versions to try") EsVersion.byPreference with
  | .ok bound => activate display bound
  | .error fault => return (.error fault, .displayBound display)

/-- Have a context that is current, going on from what the runtime holds. -/
def acquire : Runtime → Program Calls (Except Fault Active × Runtime)
  | .ready display bound => activate display bound
  | .displayBound display => bindContext display
  | .uninitialized => do
    match ← openDisplay with
    | .ok display => bindContext display
    | .error fault => return (.error fault, .uninitialized)

end Runtime

/-! ## Surveys -/

/-- A program that shares the runtime with those before and after it. -/
abbrev Survey (α : Type) : Type := StateT Runtime (Program Calls) α

namespace Survey

/-- Acquire the context and ask `query` under it; `sentinel` where there is none to be had. -/
def withContext {α : Type} (sentinel : α) (query : Active → Program Calls α) : Survey α := fun runtime => do
  match ← runtime.acquire with
  | (.ok active, after) => return (← query active, after)
  | (.error _, after) => return (sentinel, after)

/-- The stage of the runtime, without a call. -/
def stage : Survey Stage := do
  return (← get).stage

end Survey
end DriverSurvey
