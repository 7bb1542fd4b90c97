import DriverSurvey.Program
import DriverSurvey.Version
/-!
# Call — what a survey asks of a machine

The calls are the primitives of a display connection, of a rendering context and of a Vulkan loader, each with the
type of its reply.  A reply is what the driver says, `none` or `false` where it refuses; what that means is decided
by the caller.

Handles are addresses that only the driver can read.  Their kind is in their type, so a surface is never handed in for
a context.
-/
namespace DriverSurvey

/-- What a handle stands for. -/
inductive HandleKind where
  | display
  | surface
  | context
  | config
  deriving DecidableEq, Repr

/-- An address that the driver gave out. -/
structure Handle (kind : HandleKind) where
  address : UInt64
  deriving DecidableEq, Repr

/-- A connection to a display. -/
abbrev Display : Type := Handle .display
/-- An offscreen surface. -/
abbrev Surface : Type := Handle .surface
/-- A rendering context. -/
abbrev Context : Type := Handle .context
/-- A framebuffer configuration. -/
abbrev Config : Type := Handle .config

/-- The handle at an address; address zero is no handle. -/
def Handle.ofAddress? {kind : HandleKind} (address : UInt64) : Option (Handle kind) :=
  if address == 0 then none else some ⟨address⟩

/-- The bit depths asked of a framebuffer configuration. -/
structure FormatRequest where
  version : EsVersion
  red : Int32
  green : Int32
  blue : Int32
  alpha : Int32
  depth : Int32
  stencil : Int32
  deriving DecidableEq, Repr

/-- Eight bits a channel and for the stencil, sixteen for the depth, whatever the version. -/
def FormatRequest.standard (version : EsVersion) : FormatRequest :=
  ⟨version, 8, 8, 8, 8, 16, 8⟩

/-- A bit depth of a configuration that can be read back. -/
inductive Channel where
  | red
  | green
  | blue
  | alpha
  | depth
  | stencil
  deriving DecidableEq, Repr

/-- A string that the display connection itself reports. -/
inductive DisplayText where
  | vendor
  | version
  deriving DecidableEq, Repr

/-- The color of a clear, each component as the bits of its binary32 number. -/
structure Color where
  red : UInt32
  green : UInt32
  blue : UInt32
  alpha : UInt32
  deriving DecidableEq, Repr

/-- One call to the machine. -/
inductive Request where
  | defaultDisplay
  | openDisplay (display : Display)
  | bindApi
  | chooseConfig (display : Display) (wanted : FormatRequest)
  | createSurface (display : Display) (config : Config)
  | createContext (display : Display) (config : Config) (version : EsVersion)
  | destroySurface (display : Display) (surface : Surface)
  | makeCurrent (display : Display) (surface : Surface) (context : Context)
  | displayText (display : Display) (which : DisplayText)
  | configDepth (display : Display) (config : Config) (channel : Channel)
  | text (token : UInt32)
  /-- Read integers into a buffer with room for so many. -/
  | integers (token : UInt32) (room : Nat)
  | error
  /-- Look an entry point up by name. -/
  | entryPoint (name : String)
  /-- Ask the entry point for names by index. -/
  | indexedText (token index : UInt32)
  | clearColor (color : Color)
  | clear (mask : UInt32)
  | finish
  | openLoader (library : String)
  /-- Look for the loader's entry point that reports a version. -/
  | findVersionEntry (library : String)
  | loaderVersion (library : String)
  | closeLoader (library : String)
  deriving DecidableEq, Repr

/-- What a loader's entry point did: the code it returned, and the version it stored, if it stored one. -/
structure VersionReply where
  result : Int32
  stored : Option UInt32
  deriving DecidableEq, Repr

/-- The type of the reply to a call. -/
abbrev Request.Reply : Request → Type
  | .defaultDisplay => Option Display
  | .openDisplay _ => Option (Int32 × Int32)
  | .bindApi => Bool
  | .chooseConfig _ _ => Option Config
  | .createSurface _ _ => Option Surface
  | .createContext _ _ _ => Option Context
  | .destroySurface _ _ => Unit
  | .makeCurrent _ _ _ => Bool
  | .displayText _ _ => Option String
  | .configDepth _ _ _ => Option Int32
  | .text _ => Option String
  | .integers _ _ => List Int32
  | .error => UInt32
  | .entryPoint _ => Bool
  | .indexedText _ _ => Option String
  | .clearColor _ => Unit
  | .clear _ => Unit
  | .finish => Unit
  | .openLoader _ => Bool
  | .findVersionEntry _ => Bool
  | .loaderVersion _ => VersionReply
  | .closeLoader _ => Unit

/-- The calls of a survey with their replies. -/
abbrev Calls : Interface := ⟨Request, Request.Reply⟩

/-- Whether the call goes to a Vulkan loader and not to the graphics driver. -/
def Request.isLoader : Request → Bool
  | .openLoader _ | .findVersionEntry _ | .loaderVersion _ | .closeLoader _ => true
  | _ => false

/-- Make one call. -/
def ask (request : Request) : Program Calls request.Reply :=
  .call request .done

/-- What a buffer holds once the driver has stored some values from its front on. -/
def stored (values buffer : List Int32) : List Int32 :=
  (values ++ buffer.drop values.length).take buffer.length

/-- Read integers over a buffer. -/
def readIntegers (token : UInt32) (buffer : List Int32) : Program Calls (List Int32) := do
  let values ← ask (.integers token buffer.length)
  return stored values buffer

/-- Read one integer; zero where the driver stores none. -/
def readInteger (token : UInt32) : Program Calls Int32 := do
  let values ← readIntegers token [0]
  return values.headD 0

end DriverSurvey
