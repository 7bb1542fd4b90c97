import DriverSurvey.Graphics.Call
/-!
# Vulkan — whether a usable Vulkan loader is there

The loader is opened under the first of its names that opens, asked for its version if it can be, and always closed.
A loader that opens but has no way to tell its version counts as usable: that it opens is itself the signal.
-/
namespace DriverSurvey
namespace Vulkan

/-- The entry point that reports the version. -/
def versionEntry : String := "vkEnumerateInstanceVersion"

/-- The code of a call that succeeded. -/
def success : Int32 := 0

/-- Version 1.0 in packed form, the lowest that counts as working. -/
def lowestVersion : UInt32 := 0x400000

/-- The outcome of the check. -/
structure Support where
  supported : Bool := false
  /-- The name under which the loader opened. -/
  library : Option String := none
  /-- The version it reported, packed. -/
  apiVersion : Option UInt32 := none
  deriving DecidableEq, Repr

/-- The parts of a packed version: seven bits from the 22nd, ten from the twelfth, the lowest twelve. -/
def unpack (version : UInt32) : Nat × Nat × Nat :=
  (version.toNat / Nat.pow 2 22 % Nat.pow 2 7, version.toNat / Nat.pow 2 12 % Nat.pow 2 10,
    version.toNat % Nat.pow 2 12)

/-- The version reported, in parts. -/
def Support.triple (support : Support) : Option (Nat × Nat × Nat) :=
  support.apiVersion.map unpack

/-- Open the first library that opens. -/
def openFirst : List String → Program Calls (Option String)
  | [] => return none
  | name :: rest => do
    if ← ask (.openLoader name) then return some name else openFirst rest

/-- The verdict on an opened loader that reported `reply`.  A version that it did not store is zero. -/
def verdict (library : String) (reply : VersionReply) : Support :=
  let version := reply.stored.getD 0
  { supported := reply.result == success && lowestVersion ≤ version
    library := some library
    apiVersion := if reply.result == success then some version else none }

/-- Ask an opened loader. -/
def inspect (library : String) : Program Calls Support := do
  if ← ask (.findVersionEntry library) then return verdict library (← ask (.loaderVersion library))
  else return { supported := true, library := some library }

/-- Check the candidates in order. -/
def check (candidates : List String) : Program Calls Support := do
  match ← openFirst candidates with
  | none => return {}
  | some library =>
    let support ← inspect library
    ask (.closeLoader library)
    return support

end Vulkan
end DriverSurvey
