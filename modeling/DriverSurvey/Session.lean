import DriverSurvey.Graphics.Snapshot
import DriverSurvey.Machine.Native
/-!
# Session — a survey step by step

A rig is a scripted machine with the way in which calls reach it: `Rig.direct` serves the calls of a survey themselves,
`Rig.native` serves native libraries below them.  A session plays steps on a rig one after the other, each from the
runtime and the driver that the one before left, and keeps what was called during each.
-/
namespace DriverSurvey

/-- A scripted machine: the calls that reach it, how a survey's calls become such calls, and the answers to them. -/
structure Rig where
  Wire : Interface
  route : Route Calls Wire
  serve : Server Wire DriverState

/-- The script itself as the machine. -/
def Rig.direct (loaders : LoaderShelf) : Rig where
  Wire := Calls
  route := ask
  serve := DriverState.serve loaders

/-- Native drivers over a shelf of libraries. -/
def Rig.native (shelf : Shelf) (drivers : Bindings) : Rig where
  Wire := NativeCalls
  route := drivers.route
  serve := DriverState.serveNative shelf

/-! ## Steps -/

/-- One step of a session. -/
inductive Step where
  | query (asked : Query)
  /-- The version of the context held, without a call. -/
  | heldVersion
  /-- Whether Vulkan is usable, and the details behind it. -/
  | vulkan
  | snapshot (maxExtensions : Nat) (order : List Topic)
  /-- So many callers ensure the context at once.  One holds the runtime at a time, so they follow one another. -/
  | together (callers : Nat)
  /-- A single call. -/
  | raw (request : Request)
  /-- The driver changes. -/
  | amend (change : Change)
  deriving DecidableEq, Repr

/-- The type of the result of a step. -/
abbrev Step.Answer : Step → Type
  | .query asked => asked.Answer
  | .heldVersion => Option EsVersion
  | .vulkan => Vulkan.Support
  | .snapshot _ _ => Snapshot Timing
  | .together _ => List Bool
  | .raw request => request.Reply
  | .amend _ => Unit

/-- Callers that ensure the context one after the other. -/
def ensureEach : Nat → Survey (List Bool)
  | 0 => return []
  | callers + 1 => return (← Query.survey .ensure) :: (← ensureEach callers)

/-- What a step does through calls.  `loaders` are the names under which Vulkan is looked for. -/
def Step.survey (loaders : List String) : (step : Step) → Survey step.Answer
  | .query asked => asked.survey
  | .heldVersion => return (← Survey.stage).version
  | .vulkan => Vulkan.check loaders
  | .snapshot maxExtensions order => takeSnapshot loaders maxExtensions order
  | .together callers => ensureEach callers
  | .raw request => ask request
  | .amend _ => return ()

/-- The change of the driver that a step is. -/
def Step.change : Step → Change
  | .amend change => change
  | _ => {}

/-! ## Playing -/

/-- What is held between two steps. -/
structure Session where
  runtime : Runtime := .uninitialized
  driver : DriverState := {}
  deriving DecidableEq, Repr

/-- A step that was played: its result, the session after it, and the calls made. -/
structure Performed (rig : Rig) (α : Type) where
  answer : α
  after : Session
  events : List (Event rig.Wire)

namespace Session

/-- A session that has done nothing yet, over a driver with the default script amended. -/
def start (change : Change) : Session where
  driver := ({} : DriverState).amend change

/-- Play a survey. -/
def play {α : Type} (rig : Rig) (survey : Survey α) (session : Session) : Performed rig α :=
  let played := ((survey session.runtime).via rig.route).run rig.serve session.driver
  ⟨played.value.1, ⟨played.value.2, played.state⟩, played.events⟩

/-- Play a step. -/
def perform (rig : Rig) (loaders : List String) (step : Step) (session : Session) : Performed rig step.Answer :=
  let played := session.play rig (step.survey loaders)
  { played with after := { played.after with driver := played.after.driver.amend step.change } }

/-- Play steps in order, and keep what each of them did. -/
def performAll (rig : Rig) (loaders : List String) : List Step → Session →
    List (Σ step : Step, Performed rig step.Answer)
  | [], _ => []
  | step :: rest, session =>
    let performed := session.perform rig loaders step
    ⟨step, performed⟩ :: performAll rig loaders rest performed.after

end Session
end DriverSurvey
