import DriverSurvey.Graphics.Call
import DriverSurvey.Graphics.Token
import DriverSurvey.Text.Blank
/-!
# Extension — the names a driver advertises

Bindings advertise their extensions in one of two ways: all names in one string, or one name at a time by index.
`readExtensions` takes the string where it is not empty, and the indexed names otherwise.
-/
namespace DriverSurvey

/-- The entry point that serves names by index. -/
def indexedTextEntry : String := "glGetStringi"

/-- Ask for so many names by index, from `index` on; an index without a name is passed over. -/
def readIndexed (index : Nat) : Nat → Program Calls (List String)
  | 0 => return []
  | count + 1 => do
    match ← ask (.indexedText Gl.extensions (UInt32.ofNat index)) with
    | none => readIndexed (index + 1) count
    | some name => return name :: (← readIndexed (index + 1) count)

/-- The names served by index: none where the entry point is missing or the count is not positive. -/
def readIndexedExtensions : Program Calls (List String) := do
  let count ← readInteger Gl.extensionCount
  if ← ask (.entryPoint indexedTextEntry) then
    readIndexed 0 count.toInt.toNat
  else return []

/-- The extension names in the driver's order.  A context has to be current. -/
def readExtensions : Program Calls (List String) := do
  match ← ask (.text Gl.extensions) with
  | none => readIndexedExtensions
  | some raw => if raw.isEmpty then readIndexedExtensions else return words raw

/-- The first occurrences of the names that are not blank, in order. -/
def distinctNames (names : List String) : List String :=
  (names.filter (fun name => !isBlankText name)).eraseDups

end DriverSurvey
