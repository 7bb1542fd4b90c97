import DriverSurvey.Version
import DriverSurvey.Text.Digit
/-!
# Fault — what can go wrong, and how it is said

A fault is kept as its cause; `Fault.message` is the only place where causes become words.  No probe of a driver lets a
fault through: there it only decides between an answer and a sentinel.
-/
namespace DriverSurvey

/-- Why the operating system does not open a file, or does not read it. -/
inductive SystemError where
  | notFound
  | isDirectory
  | notDirectory
  | nameTooLong
  deriving DecidableEq, Repr

namespace SystemError

/-- The number of the error. -/
def code : SystemError → Nat
  | .notFound => 2
  | .isDirectory => 21
  | .notDirectory => 20
  | .nameTooLong => 36

/-- The operating system's words for the error. -/
def words : SystemError → String
  | .notFound => "No such file or directory"
  | .isDirectory => "Is a directory"
  | .notDirectory => "Not a directory"
  | .nameTooLong => "File name too long"

end SystemError

/-- Why a file could not be read as text. -/
inductive ReadFailure where
  | system (error : SystemError)
  | nulInPath
  | notUtf8
  | other (reason : String)
  deriving DecidableEq, Repr

/-- The words for the failure. -/
def ReadFailure.text : ReadFailure → String
  | .system error => error.words ++ " (os error " ++ decimalText error.code ++ ")"
  | .nulInPath => "file name contained an unexpected NUL byte"
  | .notUtf8 => "stream did not contain valid UTF-8"
  | .other reason => reason

/-- What is wrong with a settings document. -/
inductive SettingsFlaw where
  /-- The document does not parse, or a value in it is not of the kind its key asks for. -/
  | malformed
  /-- The named list has no entry, or a blank one. -/
  | unusable (reason : String)
  deriving DecidableEq, Repr

/-- Everything that can go wrong in a survey. -/
inductive Fault where
  | unavailable (reason : String)
  | noConfiguration (version : EsVersion)
  | rejected (operation : String) (version : EsVersion)
  | unsupported (capability : String)
  | flagged (operation : String) (code : UInt32)
  | notLoaded (reason : String)
  | badSettings (flaw : SettingsFlaw)
  | unreadable (failure : ReadFailure)
  deriving DecidableEq, Repr

/-- The code in lower-case hexadecimal, with zeros in front up to four digits. -/
def hexCode (code : UInt32) : String :=
  let digits := digitsOf 16 code.toNat
  String.ofList (List.replicate (4 - digits.length) '0' ++ digits)

/-- The words for a flaw.  Those of a malformed document depend on its text and are left out. -/
def SettingsFlaw.text : SettingsFlaw → String
  | .malformed => ""
  | .unusable reason => reason

/-- The one sentence shown for a fault. -/
def Fault.message : Fault → String
  | .unavailable reason => "graphics environment unavailable: " ++ reason
  | .noConfiguration version => "no matching configuration for " ++ version.text
  | .rejected operation version => "driver rejected " ++ operation ++ " for " ++ version.text
  | .unsupported capability => "capability absent: " ++ capability
  | .flagged operation code => "driver raised error 0x" ++ hexCode code ++ " after " ++ operation
  | .notLoaded reason => "failed to load library: " ++ reason
  | .badSettings flaw => "configuration error: " ++ flaw.text
  | .unreadable failure => "IO error: " ++ failure.text

end DriverSurvey
