import DriverSurvey.Fault
import DriverSurvey.Vulkan
/-!
# Entry — the entry points of native libraries, and the linker that finds them

Below the calls of a survey lie those of the shared libraries themselves, with numbers for handles, attribute lists
and octets for text.  Address zero is the null pointer.
-/
namespace DriverSurvey

/-- A call of one native function. -/
inductive Entry where
  | eglGetDisplay (native : UInt64)
  | eglInitialize (display : UInt64)
  | eglBindAPI (api : UInt32)
  | eglChooseConfig (display : UInt64) (attributes : List Int32) (room : Int32)
  | eglCreatePbufferSurface (display config : UInt64) (attributes : List Int32)
  | eglCreateContext (display config share : UInt64) (attributes : List Int32)
  | eglDestroySurface (display surface : UInt64)
  | eglMakeCurrent (display draw read context : UInt64)
  | eglQueryString (display : UInt64) (token : Int32)
  | eglGetConfigAttrib (display config : UInt64) (token : Int32)
  | eglGetProcAddress (name : String)
  | eglGetError
  | glGetString (token : UInt32)
  | glGetIntegerv (token : UInt32)
  | glGetError
  | glGetStringi (token index : UInt32)
  | glClearColor (color : Color)
  | glClear (mask : UInt32)
  | glFinish
  | vkEnumerateInstanceVersion
  deriving DecidableEq, Repr

/-- What `eglChooseConfig` hands back: its flag, the count and the configuration it stored. -/
structure ChooseReply where
  accepted : Bool
  count : Int32
  config : UInt64
  deriving DecidableEq, Repr

/-- The type of what a native function hands back.  Strings are the octets at the pointer, `none` for the null
pointer; integers those that were stored. -/
abbrev Entry.Reply : Entry → Type
  | .eglGetDisplay _ => UInt64
  | .eglInitialize _ => Bool × Int32 × Int32
  | .eglBindAPI _ => Bool
  | .eglChooseConfig _ _ _ => ChooseReply
  | .eglCreatePbufferSurface _ _ _ => UInt64
  | .eglCreateContext _ _ _ _ => UInt64
  | .eglDestroySurface _ _ => Bool
  | .eglMakeCurrent _ _ _ _ => Bool
  | .eglQueryString _ _ => Option (List UInt8)
  | .eglGetConfigAttrib _ _ _ => Bool × Int32
  | .eglGetProcAddress _ => Bool
  | .eglGetError => Int32
  | .glGetString _ => Option (List UInt8)
  | .glGetIntegerv _ => List Int32
  | .glGetError => UInt32
  | .glGetStringi _ _ => Option (List UInt8)
  | .glClearColor _ => Unit
  | .glClear _ => Unit
  | .glFinish => Unit
  | .vkEnumerateInstanceVersion => VersionReply

/-- The name under which the function is exported. -/
def Entry.symbol : Entry → String
  | .eglGetDisplay _ => "eglGetDisplay"
  | .eglInitialize _ => "eglInitialize"
  | .eglBindAPI _ => "eglBindAPI"
  | .eglChooseConfig _ _ _ => "eglChooseConfig"
  | .eglCreatePbufferSurface _ _ _ => "eglCreatePbufferSurface"
  | .eglCreateContext _ _ _ _ => "eglCreateContext"
  | .eglDestroySurface _ _ => "eglDestroySurface"
  | .eglMakeCurrent _ _ _ _ => "eglMakeCurrent"
  | .eglQueryString _ _ => "eglQueryString"
  | .eglGetConfigAttrib _ _ _ => "eglGetConfigAttrib"
  | .eglGetProcAddress _ => "eglGetProcAddress"
  | .eglGetError => "eglGetError"
  | .glGetString _ => "glGetString"
  | .glGetIntegerv _ => "glGetIntegerv"
  | .glGetError => "glGetError"
  | .glGetStringi _ _ => "glGetStringi"
  | .glClearColor _ => "glClearColor"
  | .glClear _ => "glClear"
  | .glFinish => "glFinish"
  | .vkEnumerateInstanceVersion => Vulkan.versionEntry

/-- The name under which the linker looks a library up.  The NUL that ends every such name may be written out. -/
def linkedName (library : String) : String :=
  if library.toList.getLast? == some '\x00' then String.ofList library.toList.dropLast else library

/-- Why a shared library did not open. -/
inductive OpenFailure where
  | nulInName
  /-- There is a NUL in a name that has its last NUL written out. -/
  | nulBeforeEnd
  | notOpened (error : SystemError)
  | notRead (error : SystemError)
  | notAnObject
  | tooShort
  deriving DecidableEq, Repr

/-- The linker's words for the failure to open the named library. -/
def OpenFailure.text (library : String) : OpenFailure → String
  | .nulInName => "could not create a C string from bytes"
  | .nulBeforeEnd => "could not create a C string from bytes with trailing null"
  | .notOpened error => linkedName library ++ ": cannot open shared object file: " ++ error.words
  | .notRead error => linkedName library ++ ": cannot read file data: " ++ error.words
  | .notAnObject => linkedName library ++ ": invalid ELF header"
  | .tooShort => linkedName library ++ ": file too short"

/-- A call to the linker, or into an open library. -/
inductive NativeRequest where
  | openLibrary (library : String)
  | findSymbol (library symbol : String)
  | closeLibrary (library : String)
  | enter (library : String) (entry : Entry)
  deriving DecidableEq, Repr

/-- The type of the reply: for an open, the name that the linker has for the library, or the failure. -/
abbrev NativeRequest.Reply : NativeRequest → Type
  | .openLibrary _ => Except OpenFailure String
  | .findSymbol _ _ => Bool
  | .closeLibrary _ => Unit
  | .enter _ entry => entry.Reply

/-- The calls to native libraries with their replies. -/
abbrev NativeCalls : Interface := ⟨NativeRequest, NativeRequest.Reply⟩

/-- Make one call to the linker. -/
def link (request : NativeRequest) : Program NativeCalls request.Reply :=
  .call request .done

/-- Call a function of an open library. -/
def enter (library : String) (entry : Entry) : Program NativeCalls entry.Reply :=
  .call (.enter library entry) .done

end DriverSurvey
