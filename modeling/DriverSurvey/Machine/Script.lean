import DriverSurvey.Graphics.Call
import DriverSurvey.Graphics.Token
import DriverSurvey.Graphics.Extension
import DriverSurvey.Text.Utf8
/-!
# Script — a graphics driver that does as it is told

A script says what a driver answers.  `DriverState` is a script with the little that a driver remembers: the error
codes not yet read, and the version of which a configuration was last chosen.  `DriverState.serve` answers the calls of
a survey straight from it.
-/
namespace DriverSurvey

/-- One value for each version of OpenGL ES. -/
structure PerVersion (α : Type) where
  es3 : α
  es2 : α
  deriving DecidableEq, Repr

/-- The value of a version. -/
def PerVersion.get {α : Type} (values : PerVersion α) : EsVersion → α
  | .es3 => values.es3
  | .es2 => values.es2

/-- What the driver does when a configuration is to be chosen. -/
inductive ConfigOffer where
  | refused
  | chosen (address : UInt64)
  /-- Success flag, count of configurations and stored configuration, each on its own. -/
  | spelled (accepted : Bool) (count : Int32) (address : UInt64)
  deriving DecidableEq, Repr

/-- What the entry point of the Vulkan loader does: the code it returns, and whether and what it stores. -/
structure LoaderScript where
  result : Int32 := 0
  writes : Bool := true
  version : UInt32 := 0
  deriving DecidableEq, Repr

/-- The reply of the entry point. -/
def LoaderScript.reply (script : LoaderScript) : VersionReply :=
  ⟨script.result, if script.writes then some script.version else none⟩

/-- What a driver answers. -/
structure Script where
  display : Option UInt64 := some 3349
  /-- The version of the display connection; `none` where it cannot be initialized. -/
  connection : Option (Int32 × Int32) := some (1, 5)
  bindsApi : Bool := true
  configs : PerVersion ConfigOffer := ⟨.chosen 195, .chosen 194⟩
  surfaces : PerVersion (Option UInt64) := ⟨some 4099, some 4098⟩
  contexts : PerVersion (Option UInt64) := ⟨some 8195, some 8194⟩
  makesCurrent : Bool := true
  destroys : Bool := true
  displayVendor : Option (List UInt8) := some "Fake EGL Vendor".toUTF8.toList
  displayVersion : Option (List UInt8) := some "1.5 Fake".toUTF8.toList
  /-- Red, green, blue, alpha, depth and stencil bits; `none` where the query is refused. -/
  depths : List (Option Int32) := [some 8, some 8, some 8, some 8, some 16, some 8]
  texts : List (UInt32 × List UInt8) := []
  integers : List (UInt32 × List Int32) := []
  /-- Error codes raised by reading a token. -/
  raises : List (UInt32 × List UInt32) := []
  /-- The error code reported when no other is left. -/
  stickyError : UInt32 := 0
  /-- Whether the entry point for indexed names can be looked up. -/
  servesIndexed : Bool := true
  indexed : List (Option (List UInt8)) := []
  eglError : Int32 := 12289
  loader : LoaderScript := {}
  deriving DecidableEq, Repr

/-- The position of a channel among the bit depths. -/
def Channel.index : Channel → Nat
  | .red => 0
  | .green => 1
  | .blue => 2
  | .alpha => 3
  | .depth => 4
  | .stencil => 5

namespace Script

/-- The bit depth of a channel. -/
def depth (script : Script) (channel : Channel) : Option Int32 :=
  (script.depths[channel.index]?).join

/-- The octets of a display string. -/
def displayText (script : Script) : DisplayText → Option (List UInt8)
  | .vendor => script.displayVendor
  | .version => script.displayVersion

/-- The octets of a string of the context. -/
def text (script : Script) (token : UInt32) : Option (List UInt8) :=
  script.texts.lookup token

/-- The values stored by reading a token: those listed, and for the count of extensions, unless listed, the number of
indexed names. -/
def values (script : Script) (token : UInt32) : List Int32 :=
  match script.integers.lookup token with
  | some values => values
  | none => if token == Gl.extensionCount then [Int32.ofNat script.indexed.length] else []

/-- The octets of an indexed name. -/
def indexedText (script : Script) (index : UInt32) : Option (List UInt8) :=
  (script.indexed[index.toNat]?).join

/-- Whether a name can be looked up as an entry point. -/
def resolves (script : Script) (name : String) : Bool :=
  name == indexedTextEntry && script.servesIndexed

end Script

/-! ## State -/

/-- A driver in the middle of its script. -/
structure DriverState where
  script : Script := {}
  /-- Error codes raised and not yet read, oldest first. -/
  errors : List UInt32 := []
  /-- The version of the latest choice of a configuration. -/
  chosen : EsVersion := .es3
  deriving DecidableEq, Repr

namespace DriverState

/-- Take the next error code. -/
def takeError (state : DriverState) : UInt32 × DriverState :=
  match state.errors with
  | [] => (state.script.stickyError, state)
  | code :: rest => (code, { state with errors := rest })

/-- Raise the errors of reading a token. -/
def raise (state : DriverState) (token : UInt32) : DriverState :=
  { state with errors := state.errors ++ (state.script.raises.lookup token).getD [] }

end DriverState

/-! ## Answering a survey -/

/-- The Vulkan loaders that open, by name; `none` inside stands for a loader without the entry point. -/
abbrev LoaderShelf : Type := String → Option (Option VersionReply)

/-- The configuration a direct driver chooses. -/
def ConfigOffer.config? : ConfigOffer → Option Config
  | .refused => none
  | .chosen address => some ⟨address⟩
  | .spelled _ _ address => some ⟨address⟩

/-- Answer a call straight from the script.  Here every number is an ordinary handle, and texts may hold any
character.  The Vulkan loaders are no part of the script, and stay as they are when it changes. -/
def DriverState.serve (loaders : LoaderShelf) : Server Calls DriverState
  | .defaultDisplay, s => (s.script.display.map (⟨·⟩), s)
  | .openDisplay _, s => (s.script.connection, s)
  | .bindApi, s => (s.script.bindsApi, s)
  | .chooseConfig _ wanted, s =>
    ((s.script.configs.get wanted.version).config?, { s with chosen := wanted.version })
  | .createSurface _ _, s => ((s.script.surfaces.get s.chosen).map (⟨·⟩), s)
  | .createContext _ _ version, s => ((s.script.contexts.get version).map (⟨·⟩), s)
  | .destroySurface _ _, s => ((), s)
  | .makeCurrent _ _ _, s => (s.script.makesCurrent, s)
  | .displayText _ which, s => ((s.script.displayText which).map fun t => String.ofList (decodeLossy t), s)
  | .configDepth _ _ channel, s => (s.script.depth channel, s)
  | .text token, s => ((s.script.text token).map fun t => String.ofList (decodeLossy t), s)
  | .integers token room, s => ((s.script.values token).take room, s.raise token)
  | .error, s => s.takeError
  | .entryPoint name, s => (s.script.resolves name, s)
  | .indexedText _ index, s => ((s.script.indexedText index).map terminatedText, s)
  | .clearColor _, s => ((), s)
  | .clear _, s => ((), s)
  | .finish, s => ((), s)
  | .openLoader name, s => ((loaders name).isSome, s)
  | .findVersionEntry name, s => ((loaders name).join.isSome, s)
  | .loaderVersion name, s => ((loaders name).join.getD ⟨0, none⟩, s)
  | .closeLoader _, s => ((), s)

/-! ## Changing the script -/

/-- New values for some members of a script, and error codes that are raised when they take effect. -/
structure Change where
  display : Option (Option UInt64) := none
  connection : Option (Option (Int32 × Int32)) := none
  bindsApi : Option Bool := none
  configs : Option (PerVersion ConfigOffer) := none
  surfaces : Option (PerVersion (Option UInt64)) := none
  contexts : Option (PerVersion (Option UInt64)) := none
  makesCurrent : Option Bool := none
  destroys : Option Bool := none
  displayTexts : Option (Option (List UInt8) × Option (List UInt8)) := none
  depths : Option (List (Option Int32)) := none
  texts : Option (List (UInt32 × List UInt8)) := none
  integers : Option (List (UInt32 × List Int32)) := none
  raises : Option (List (UInt32 × List UInt32)) := none
  stickyError : Option UInt32 := none
  servesIndexed : Option Bool := none
  indexed : Option (List (Option (List UInt8))) := none
  eglError : Option Int32 := none
  loader : Option LoaderScript := none
  errors : List UInt32 := []
  deriving DecidableEq, Repr

/-- The script with the members of the change in place of its own. -/
def Script.amend (script : Script) (change : Change) : Script where
  display := change.display.getD script.display
  connection := change.connection.getD script.connection
  bindsApi := change.bindsApi.getD script.bindsApi
  configs := change.configs.getD script.configs
  surfaces := change.surfaces.getD script.surfaces
  contexts := change.contexts.getD script.contexts
  makesCurrent := change.makesCurrent.getD script.makesCurrent
  destroys := change.destroys.getD script.destroys
  displayVendor := (change.displayTexts.map (·.1)).getD script.displayVendor
  displayVersion := (change.displayTexts.map (·.2)).getD script.displayVersion
  depths := change.depths.getD script.depths
  texts := change.texts.getD script.texts
  integers := change.integers.getD script.integers
  raises := change.raises.getD script.raises
  stickyError := change.stickyError.getD script.stickyError
  servesIndexed := change.servesIndexed.getD script.servesIndexed
  indexed := change.indexed.getD script.indexed
  eglError := change.eglError.getD script.eglError
  loader := change.loader.getD script.loader

/-- The change takes effect: new members for the script, new codes behind those not yet read. -/
def DriverState.amend (state : DriverState) (change : Change) : DriverState :=
  { state with script := state.script.amend change, errors := state.errors ++ change.errors }

theorem DriverState.amend_nothing (state : DriverState) : state.amend {} = state := by
  rw [DriverState.amend, List.append_nil]
  rfl

end DriverSurvey
