import DriverSurvey.Machine.Script
import DriverSurvey.Native.Binding
import DriverSurvey.Path
/-!
# Native — a script behind native libraries

A shelf holds the libraries that the linker can find.  Every one of them, whatever its name, acts out one script;
`DriverState.serveNative` answers linker and entry points.
-/
namespace DriverSurvey

/-- A file that the linker finds. -/
inductive LibraryFile where
  /-- A file that is no shared object. -/
  | garbage
  /-- A file that ends too early. -/
  | truncated
  /-- A shared object with its exported functions, and the path the linker has for it if that is not its name. -/
  | shared (symbols : List String) (path : Option String := none)
  deriving DecidableEq, Repr

/-- What the linker finds. -/
structure Shelf where
  /-- Libraries by name, which is a path where a slash is in it.  The empty name is that of the program itself. -/
  libraries : List (String × LibraryFile) := []
  /-- Where any other path leads.  No file here is a shared object. -/
  volume : Volume := []
  /-- The directory in which such a path begins, unless it begins at the root. -/
  here : List String := []
  deriving DecidableEq, Repr

/-- How many octets a shared object has at least. -/
def objectHeaderSize : Nat := 64

/-- Why what a path leads to is no library. -/
def pathFailure : Except SystemError (List UInt8) → OpenFailure
  | .error .isDirectory => .notRead .isDirectory
  | .error error => .notOpened error
  | .ok octets => if octets.length < objectHeaderSize then .tooShort else .notAnObject

/-- What the linker makes of a file that it found under a name. -/
def LibraryFile.opened (name : String) : LibraryFile → Except OpenFailure String
  | .garbage => .error .notAnObject
  | .truncated => .error .tooShort
  | .shared _ path => .ok (path.getD name)

/-- Open the library that stands under a name without a slash.  Such a name may lead to a directory too. -/
def Shelf.openNamed (shelf : Shelf) (name : String) : Except OpenFailure String :=
  if name == "." || name == ".." then .error (.notRead .isDirectory)
  else if longestName < name.utf8ByteSize then .error (.notOpened .nameTooLong)
  else match shelf.libraries.lookup name with
    | some file => file.opened name
    | none => .error (.notOpened .notFound)

/-- Open the library at a path.  Where none stands there, what the path leads to says why. -/
def Shelf.openPath (shelf : Shelf) (path : String) : Except OpenFailure String :=
  match shelf.libraries.lookup path with
  | some file => file.opened path
  | none => .error (pathFailure (shelf.volume.contents shelf.here path))

/-- Open a library. -/
def Shelf.openLibrary (shelf : Shelf) (library : String) : Except OpenFailure String :=
  let name := linkedName library
  if name.toList.contains '\x00' then .error (if name == library then .nulInName else .nulBeforeEnd)
  else if name.toList.contains '/' then shelf.openPath name
  else shelf.openNamed name

/-- Whether a library that opened exports a function. -/
def Shelf.exports (shelf : Shelf) (library symbol : String) : Bool :=
  match shelf.libraries.lookup (linkedName library) with
  | some (.shared symbols _) => symbols.contains symbol
  | _ => false

/-- The value behind a key in an attribute list. -/
def attribute? (key : Int32) : List Int32 → Option Int32
  | name :: value :: rest => if name == key then some value else attribute? key rest
  | _ => none

/-- The version of which attributes ask a configuration. -/
def chosenVersion (attributes : List Int32) : EsVersion :=
  if attribute? Egl.renderableType attributes == some Egl.es2Bit then .es2 else .es3

/-- The version of which attributes ask a context. -/
def contextVersion (attributes : List Int32) : EsVersion :=
  if attribute? Egl.contextClientVersion attributes == some 2 then .es2 else .es3

/-- What `eglChooseConfig` hands back for an offer. -/
def ConfigOffer.reply : ConfigOffer → ChooseReply
  | .refused => ⟨false, 0, 0⟩
  | .chosen address => ⟨true, 1, address⟩
  | .spelled accepted count address => ⟨accepted, count, address⟩

/-- The channel of an attribute. -/
def Channel.ofToken? (token : Int32) : Option Channel :=
  [Channel.red, .green, .blue, .alpha, .depth, .stencil].find? (fun channel => channel.token == token)

/-- How many integers a driver stores for a token at most. -/
def nativeRoom (token : UInt32) : Nat :=
  if token == Gl.freeMemory then 4 else 1

/-- Act out a native function. -/
def DriverState.serveEntry : (entry : Entry) → DriverState → entry.Reply × DriverState
  | .eglGetDisplay _, s => (s.script.display.getD 0, s)
  | .eglInitialize _, s =>
    match s.script.connection with
    | none => ((false, 0, 0), s)
    | some version => ((true, version), s)
  | .eglBindAPI _, s => (s.script.bindsApi, s)
  | .eglChooseConfig _ attributes _, s =>
    ((s.script.configs.get (chosenVersion attributes)).reply, { s with chosen := chosenVersion attributes })
  | .eglCreatePbufferSurface _ _ _, s => ((s.script.surfaces.get s.chosen).getD 0, s)
  | .eglCreateContext _ _ _ attributes, s => ((s.script.contexts.get (contextVersion attributes)).getD 0, s)
  | .eglDestroySurface _ _, s => (s.script.destroys, s)
  | .eglMakeCurrent _ _ _ _, s => (s.script.makesCurrent, s)
  | .eglQueryString _ token, s =>
    (if token == Egl.vendor then s.script.displayVendor
      else if token == Egl.version then s.script.displayVersion
      else none, s)
  | .eglGetConfigAttrib _ _ token, s =>
    match (Channel.ofToken? token).bind s.script.depth with
    | some value => ((true, value), s)
    | none => ((false, 77), s)
  | .eglGetProcAddress name, s => (s.script.resolves name, s)
  | .eglGetError, s => (s.script.eglError, s)
  | .glGetString token, s => (s.script.text token, s)
  | .glGetIntegerv token, s => ((s.script.values token).take (nativeRoom token), s.raise token)
  | .glGetError, s => s.takeError
  | .glGetStringi _ index, s => (s.script.indexedText index, s)
  | .glClearColor _, s => ((), s)
  | .glClear _, s => ((), s)
  | .glFinish, s => ((), s)
  | .vkEnumerateInstanceVersion, s => (s.script.loader.reply, s)

/-- Answer linker calls from the shelf and act out native functions. -/
def DriverState.serveNative (shelf : Shelf) : Server NativeCalls DriverState
  | .openLibrary library, s => (shelf.openLibrary library, s)
  | .findSymbol library symbol, s => (shelf.exports library symbol, s)
  | .closeLibrary _, s => ((), s)
  | .enter _ entry, s => s.serveEntry entry

/-- The Vulkan loaders on a shelf, whose entry point does as it is told. -/
def Shelf.loaders (shelf : Shelf) (script : LoaderScript) : LoaderShelf := fun library =>
  if (shelf.openLibrary library).isOk then
    some (if shelf.exports library Entry.vkEnumerateInstanceVersion.symbol then some script.reply else none)
  else none

end DriverSurvey
