/-!
# Utf8 — bytes to characters

Two readings of the same octets.  `decodeUtf8?` takes well-formed UTF-8 alone.  `decodeLossy` takes anything: a maximal
start of a character that breaks off, or an octet that starts none, stands as one replacement character.
-/
namespace DriverSurvey

/-- What stands at the front of some octets: a character or a broken start of one, and how many of the octets after
the first belong to it. -/
inductive Front where
  | char (c : Char) (more : Nat)
  | broken (more : Nat)
  deriving DecidableEq, Repr

/-- Read `remaining` further octets of a character.  The next one has to lie between `low` and `high`, those after it
in 80–BF; `bits` are the bits read so far, `taken` counts the octets read after the first. -/
def gather (low high : UInt8) (bits taken : Nat) : Nat → List UInt8 → Front
  | 0, _ => .char (Char.ofNat bits) taken
  | _ + 1, [] => .broken taken
  | remaining + 1, b :: rest =>
    if low ≤ b && b ≤ high then
      gather 0x80 0xBF (bits * 64 + (b.toNat - 0x80)) (taken + 1) remaining rest
    else .broken taken

/-- Classify the octet `b` followed by `rest`.  The ranges of the second octet keep out overlong forms, surrogates and
what lies beyond the last code point. -/
def front (b : UInt8) (rest : List UInt8) : Front :=
  if b < 0x80 then .char (Char.ofNat b.toNat) 0
  else if b < 0xC2 then .broken 0
  else if b < 0xE0 then gather 0x80 0xBF (b.toNat - 0xC0) 0 1 rest
  else if b == 0xE0 then gather 0xA0 0xBF 0 0 2 rest
  else if b == 0xED then gather 0x80 0x9F 0xD 0 2 rest
  else if b < 0xF0 then gather 0x80 0xBF (b.toNat - 0xE0) 0 2 rest
  else if b == 0xF0 then gather 0x90 0xBF 0 0 3 rest
  else if b < 0xF4 then gather 0x80 0xBF (b.toNat - 0xF0) 0 3 rest
  else if b == 0xF4 then gather 0x80 0x8F 4 0 3 rest
  else .broken 0

/-- The characters of any octets. -/
def decodeLossy : List UInt8 → List Char
  | [] => []
  | b :: rest =>
    match front b rest with
    | .char c more => c :: decodeLossy (rest.drop more)
    | .broken more => '\uFFFD' :: decodeLossy (rest.drop more)
termination_by bytes => bytes.length
decreasing_by all_goals simp only [List.length_drop, List.length_cons]; omega

/-- The characters of well-formed octets. -/
def decodeUtf8? : List UInt8 → Option (List Char)
  | [] => some []
  | b :: rest =>
    match front b rest with
    | .char c more => (decodeUtf8? (rest.drop more)).map (c :: ·)
    | .broken _ => none
termination_by bytes => bytes.length
decreasing_by simp only [List.length_drop, List.length_cons]; omega

/-- The text of octets that end at the first zero octet or, if there is none, at their end. -/
def terminatedText (bytes : List UInt8) : String :=
  String.ofList (decodeLossy (bytes.takeWhile (· != 0)))

end DriverSurvey
