/-!
# Version — the major versions of OpenGL ES

Only two are ever asked for: 3, and 2 where 3 cannot be had.
-/
namespace DriverSurvey

/-- A major version of OpenGL ES. -/
inductive EsVersion where
  | es2
  | es3
  deriving DecidableEq, Repr

namespace EsVersion

/-- The versions in the order in which they are attempted. -/
def byPreference : List EsVersion := [.es3, .es2]

/-- The number of the version. -/
def major : EsVersion → Nat
  | .es2 => 2
  | .es3 => 3

/-- The name shown to a person. -/
def text : EsVersion → String
  | .es2 => "GLES2"
  | .es3 => "GLES3"

/-- The key under which the version is stored. -/
def key : EsVersion → String
  | .es2 => "gles2"
  | .es3 => "gles3"

/-- The version stored under a key. -/
def ofKey? (key : String) : Option EsVersion :=
  byPreference.find? (fun version => version.key == key)

theorem mem_byPreference (version : EsVersion) : version ∈ byPreference := by
  cases version <;> simp [byPreference]

theorem ofKey?_key (version : EsVersion) : ofKey? version.key = some version := by
  cases version <;> decide

end EsVersion
end DriverSurvey
