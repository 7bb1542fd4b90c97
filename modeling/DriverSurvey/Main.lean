import DriverSurvey.CommandLine.Report
import DriverSurvey.Machine.Native
/-!
# Main — the program

Reads the one settings file that the command line leads to, carries the command out, and prints its outcome.  The
program links no native library, so it runs on a machine whose shelf is empty: every driver is missing, and every
report holds its sentinels.  The order of a snapshot is drawn from the random octets of the system.
-/
namespace DriverSurvey
namespace CommandLine

/-- Why the system could not read a file.  A failure to open it names the file, one to read from it does not. -/
def readFailure : IO.Error → ReadFailure
  | .noFileOrDirectory _ _ _ => .system .notFound
  | .inappropriateType (some _) _ _ => .system .notDirectory
  | .inappropriateType none _ _ => .system .isDirectory
  | .invalidArgument _ _ _ => .system .nameTooLong
  | error => .other (toString error)

/-- What stands at a path. -/
def readFileState (path : String) : IO FileState := do
  if path.toList.contains '\x00' then
    return .error .nulInPath
  try
    return .ok (← IO.FS.readBinFile path).toList
  catch error =>
    return .error (readFailure error)

/-- Whether the file of the whole system is there. -/
def systemFileExists : IO Bool := do
  match ← readFileState systemSettingsPath with
  | .error (.system _) => return false
  | _ => return true

/-! ## Chance -/

/-- Draw the order of a snapshot. -/
def drawShuffle : IO Shuffle := do
  let octets ← IO.getRandomBytes (USize.ofNat Topic.all.length)
  return .drawn (octets.toList.map UInt8.toNat)

end CommandLine
end DriverSurvey

open DriverSurvey in
/-- The program. -/
def main (arguments : List String) : IO UInt32 := do
  let outcome ← match CommandLine.read arguments with
    | .error stop => pure stop.outcome
    | .ok invocation => do
      let file ← CommandLine.readFileState (invocation.path (← CommandLine.systemFileExists))
      let shuffle ← CommandLine.drawShuffle
      pure ((invocation.perform file shuffle).run (DriverState.serveNative {}) {}).value
  for line in outcome.err do
    IO.eprintln line
  for line in outcome.out do
    IO.println line
  return UInt32.ofNat outcome.code
