import DriverSurvey.Fault
/-!
# Path — how a path leads to a file

A volume is what stands at each place, a place being the names on the way down from the root.  `Volume.contents` follows
a path name by name, and ends at a file or at the first thing that is in the way.
-/
namespace DriverSurvey

/-- What stands at a path: octets, or the reason why there are none. -/
abbrev FileState : Type := Except ReadFailure (List UInt8)

/-- What stands at a place of a volume. -/
inductive FileItem where
  | directory
  | file (octets : List UInt8)
  deriving DecidableEq, Repr

/-- Directories and files by place.  The root has no entry. -/
abbrev Volume : Type := List (List String × FileItem)

/-- How many octets a name has at most. -/
def longestName : Nat := 255

/-- How many octets a path has at most. -/
def longestPath : Nat := 4095

/-! ## The names in a path -/

/-- Put a character in front of the first of some pieces. -/
def extendPiece (c : Char) : List (List Char) → List (List Char)
  | [] => [[c]]
  | piece :: rest => (c :: piece) :: rest

/-- The pieces between the marks in a text.  There is always one, and one more for every mark. -/
def cutAt (mark : Char) : List Char → List (List Char)
  | [] => [[]]
  | c :: rest => if c == mark then [] :: cutAt mark rest else extendPiece c (cutAt mark rest)

/-- The names in a path, with an empty one where no name stands before, between or behind slashes. -/
def pathNames (path : String) : List String :=
  (cutAt '/' path.toList).map String.ofList

/-- Whether a path begins at the root. -/
def isAbsolute (path : String) : Bool :=
  path.toList.head? == some '/'

/-! ## Following a path -/

namespace Volume

/-- Follow names from a directory on.  An empty name and a dot stay where they are, two dots go up as far as to the
root, and nothing lies behind a file. -/
def follow (volume : Volume) (here : List String) : List String → Except SystemError (List UInt8)
  | [] => .error .isDirectory
  | name :: rest =>
    if name == "" || name == "." then volume.follow here rest
    else if name == ".." then volume.follow here.dropLast rest
    else if longestName < name.utf8ByteSize then .error .nameTooLong
    else match volume.lookup (here ++ [name]) with
      | none => .error .notFound
      | some .directory => volume.follow (here ++ [name]) rest
      | some (.file octets) => if rest.isEmpty then .ok octets else .error .notDirectory

/-- The octets of the file at a path, which begins at the root or in the directory `here`. -/
def contents (volume : Volume) (here : List String) (path : String) : Except SystemError (List UInt8) :=
  if path.isEmpty then .error .notFound
  else if longestPath < path.utf8ByteSize then .error .nameTooLong
  else volume.follow (if isAbsolute path then [] else here) (pathNames path)

/-- Read the file at a path. -/
def read (volume : Volume) (here : List String) (path : String) : FileState :=
  if path.toList.contains '\x00' then .error .nulInPath
  else (volume.contents here path).mapError .system

end Volume

end DriverSurvey
