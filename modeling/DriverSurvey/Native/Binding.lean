import DriverSurvey.Native.Entry
import DriverSurvey.Graphics.Token
import DriverSurvey.Text.Utf8
import DriverSurvey.Fault
/-!
# Binding — native libraries as drivers

A driver is bound to the first library of a list that opens; if that library lacks a required function it is closed
again and the driver is missing.  `Bindings.route` makes every call of a survey out of native calls.  A missing driver
answers as one that refuses everything.
-/
namespace DriverSurvey

/-- The functions without which there is no EGL driver, in the order in which they are looked up. -/
def eglSymbols : List String :=
  ["eglGetDisplay", "eglInitialize", "eglBindAPI", "eglChooseConfig", "eglCreatePbufferSurface", "eglCreateContext",
   "eglDestroySurface", "eglMakeCurrent", "eglQueryString", "eglGetConfigAttrib", "eglGetProcAddress"]

/-- The function that an EGL driver may lack. -/
def eglErrorSymbol : String := "eglGetError"

/-- The functions without which there is no driver of OpenGL ES. -/
def glesSymbols : List String :=
  ["glGetString", "glGetIntegerv", "glGetError", "glClearColor", "glClear", "glFinish"]

/-- An EGL library with all that is required of it. -/
structure EglBinding where
  library : String
  /-- Whether it can tell its last error. -/
  tellsError : Bool
  deriving DecidableEq, Repr

/-- A library of OpenGL ES with all that is required of it. -/
structure GlesBinding where
  library : String
  deriving DecidableEq, Repr

/-- The drivers in use. -/
structure Bindings where
  egl : Option EglBinding := none
  gles : Option GlesBinding := none
  deriving DecidableEq, Repr

/-! ## Loading -/

/-- A library that is open. -/
structure OpenLibrary where
  /-- The name it was opened by. -/
  name : String
  /-- The name that the linker has for it. -/
  linked : String
  deriving DecidableEq, Repr

/-- Open the first library that opens; if none does, the words for the last failure, or `last` where there is none. -/
def openFirst (last : String) : List String → Program NativeCalls (Except String OpenLibrary)
  | [] => return .error last
  | name :: rest => do
    match ← link (.openLibrary name) with
    | .ok linked => return .ok ⟨name, linked⟩
    | .error failure => openFirst (name ++ ": " ++ failure.text name) rest

/-- The first of the functions that the library lacks. -/
def firstMissing (library : String) : List String → Program NativeCalls (Option String)
  | [] => return none
  | symbol :: rest => do
    if ← link (.findSymbol library symbol) then firstMissing library rest else return some symbol

/-- What is said of a library that lacks a function. -/
def missingText (linked symbol : String) : String :=
  "missing symbol " ++ symbol ++ ": " ++ linked ++ ": undefined symbol: " ++ symbol

/-- Open the first candidate that opens and look all required functions up in it. -/
def loadLibrary (kind : String) (required candidates : List String) : Program NativeCalls (Except Fault String) := do
  match ← openFirst "no candidates configured" candidates with
  | .error last => return .error (.notLoaded (kind ++ " (" ++ last ++ ")"))
  | .ok library =>
    match ← firstMissing library.name required with
    | none => return .ok library.name
    | some symbol =>
      link (.closeLibrary library.name)
      return .error (.notLoaded (missingText library.linked symbol))

/-- Load the EGL driver. -/
def EglBinding.load (candidates : List String) : Program NativeCalls (Except Fault EglBinding) := do
  match ← loadLibrary "EGL" eglSymbols candidates with
  | .error fault => return .error fault
  | .ok library => return .ok ⟨library, ← link (.findSymbol library eglErrorSymbol)⟩

/-- Load the driver of OpenGL ES. -/
def GlesBinding.load (candidates : List String) : Program NativeCalls (Except Fault GlesBinding) := do
  match ← loadLibrary "GLES" glesSymbols candidates with
  | .error fault => return .error fault
  | .ok library => return .ok ⟨library⟩

/-- Load both drivers, each from its own list. -/
def Bindings.load (egl gles : List String) : Program NativeCalls Bindings := do
  let egl ← EglBinding.load egl
  let gles ← GlesBinding.load gles
  return ⟨egl.toOption, gles.toOption⟩

/-- The code of the last error, zero where the driver cannot tell it. -/
def EglBinding.lastCode (driver : EglBinding) : Program NativeCalls Int32 :=
  if driver.tellsError then enter driver.library .eglGetError else return 0

/-! ## Calls of a survey as native calls -/

/-- The bit by which a configuration is asked to render a version. -/
def EsVersion.renderableBit : EsVersion → Int32
  | .es3 => Egl.es3Bit
  | .es2 => Egl.es2Bit

/-- The attribute that holds a bit depth. -/
def Channel.token : Channel → Int32
  | .red => Egl.redSize
  | .green => Egl.greenSize
  | .blue => Egl.blueSize
  | .alpha => Egl.alphaSize
  | .depth => Egl.depthSize
  | .stencil => Egl.stencilSize

/-- The token of a display string. -/
def DisplayText.token : DisplayText → Int32
  | .vendor => Egl.vendor
  | .version => Egl.version

/-- The attributes of the configuration asked for. -/
def FormatRequest.attributes (wanted : FormatRequest) : List Int32 :=
  [Egl.surfaceType, Egl.pbufferBit, Egl.renderableType, wanted.version.renderableBit,
   Egl.redSize, wanted.red, Egl.greenSize, wanted.green, Egl.blueSize, wanted.blue, Egl.alphaSize, wanted.alpha,
   Egl.depthSize, wanted.depth, Egl.stencilSize, wanted.stencil, Egl.endOfList]

/-- The attributes of a surface of one pixel. -/
def surfaceAttributes : List Int32 :=
  [Egl.width, 1, Egl.height, 1, Egl.endOfList]

/-- The attributes of a context of a version. -/
def EsVersion.contextAttributes (version : EsVersion) : List Int32 :=
  [Egl.contextClientVersion, Int32.ofNat version.major, Egl.endOfList]

/-- The configuration chosen, if the flag, the count and the pointer all say that there is one. -/
def ChooseReply.config? (reply : ChooseReply) : Option Config :=
  if reply.accepted && reply.count > 0 then Handle.ofAddress? reply.config else none

namespace Bindings

/-- Call a function of the EGL driver and read its reply; `absent` where there is no such driver. -/
def callEgl {α : Type} (drivers : Bindings) (absent : α) (entry : Entry) (read : entry.Reply → α) :
    Program NativeCalls α :=
  match drivers.egl with
  | none => return absent
  | some driver => return read (← enter driver.library entry)

/-- Call a function of the driver of OpenGL ES and read its reply; `absent` where there is no such driver. -/
def callGles {α : Type} (drivers : Bindings) (absent : α) (entry : Entry) (read : entry.Reply → α) :
    Program NativeCalls α :=
  match drivers.gles with
  | none => return absent
  | some driver => return read (← enter driver.library entry)

/-- Every call of a survey, made out of native calls. -/
def route (drivers : Bindings) : Route Calls NativeCalls
  | .defaultDisplay => drivers.callEgl none (.eglGetDisplay 0) Handle.ofAddress?
  | .openDisplay display =>
    drivers.callEgl none (.eglInitialize display.address) fun reply => if reply.1 then some reply.2 else none
  | .bindApi => drivers.callEgl false (.eglBindAPI Egl.openGlEsApi) id
  | .chooseConfig display wanted =>
    drivers.callEgl none (.eglChooseConfig display.address wanted.attributes 1) ChooseReply.config?
  | .createSurface display config =>
    drivers.callEgl none (.eglCreatePbufferSurface display.address config.address surfaceAttributes) Handle.ofAddress?
  | .createContext display config version =>
    drivers.callEgl none (.eglCreateContext display.address config.address 0 version.contextAttributes)
      Handle.ofAddress?
  | .destroySurface display surface =>
    drivers.callEgl () (.eglDestroySurface display.address surface.address) fun _ => ()
  | .makeCurrent display surface context =>
    drivers.callEgl false (.eglMakeCurrent display.address surface.address surface.address context.address) id
  | .displayText display which =>
    drivers.callEgl none (.eglQueryString display.address which.token) (Option.map terminatedText)
  | .configDepth display config channel =>
    drivers.callEgl none (.eglGetConfigAttrib display.address config.address channel.token)
      fun reply => if reply.1 then some reply.2 else none
  | .text token => drivers.callGles none (.glGetString token) (Option.map terminatedText)
  | .integers _ 0 => return []
  | .integers token (room + 1) => drivers.callGles [] (.glGetIntegerv token) (List.take (room + 1))
  | .error => drivers.callGles 0 .glGetError id
  | .entryPoint name =>
    if name.toList.contains '\x00' then return false
    else drivers.callEgl false (.eglGetProcAddress name) id
  | .indexedText token index => drivers.callEgl none (.glGetStringi token index) (Option.map terminatedText)
  | .clearColor color => drivers.callGles () (.glClearColor color) id
  | .clear mask => drivers.callGles () (.glClear mask) id
  | .finish => drivers.callGles () .glFinish id
  | .openLoader library => return (← link (.openLibrary library)).isOk
  | .findVersionEntry library => link (.findSymbol library Entry.vkEnumerateInstanceVersion.symbol)
  | .loaderVersion library => enter library .vkEnumerateInstanceVersion
  | .closeLoader library => link (.closeLibrary library)

end Bindings
end DriverSurvey
