import DriverSurvey.Json.Tree
/-!
# Field — records in JSON

A record is an object with its fields as members, or an array of its fields in order.  In an object the order does not
matter and members of other names are ignored; a field given twice is refused.  In an array no item is left over.
-/
namespace DriverSurvey
namespace Json

/-! ## Values -/

/-- A text. -/
def text? {N : Type} : Tree N → Option String
  | .text content => content
  | _ => none

/-- A truth value. -/
def bool? {N : Type} : Tree N → Option Bool
  | .bool b => some b
  | _ => none

/-- A list of texts. -/
def texts? {N : Type} : Tree N → Option (List String)
  | .array items => items.mapM text?
  | _ => none

/-- A whole number below a limit. -/
def natBelow? (limit : Nat) : Value → Option Nat
  | .number n => n.toNatBelow? limit
  | _ => none

/-- A whole number of thirty-two bits. -/
def word? (value : Value) : Option UInt32 :=
  (natBelow? (Nat.pow 2 32) value).map UInt32.ofNat

/-- A whole number of sixty-four bits. -/
def size? (value : Value) : Option Nat :=
  natBelow? (Nat.pow 2 64) value

/-- A binary64 number. -/
def float? : Value → Option Float
  | .number n => n.toFloat?
  | _ => none

/-! ## Fields -/

/-- The members with a name of the record; refused if one has no text for its key, or if a name comes twice. -/
def knownMembers? (names : List String) : List (Option String × Value) → Option (List (String × Value))
  | [] => some []
  | (none, _) :: _ => none
  | (some key, value) :: rest =>
    match knownMembers? names rest with
    | none => none
    | some known =>
      if names.contains key then
        if (known.lookup key).isSome then none else some ((key, value) :: known)
      else some known

/-- The fields of a record by name. -/
def fields? (names : List String) : Value → Option (List (String × Value))
  | .object members => knownMembers? names members
  | .array items => if items.length ≤ names.length then some (names.zip items) else none
  | _ => none

/-- A field that has to be there. -/
def required? {α : Type} (read : Value → Option α) (name : String) (fields : List (String × Value)) : Option α :=
  match fields.lookup name with
  | none => none
  | some value => read value

/-- A field with a default. -/
def optional? {α : Type} (standard : α) (read : Value → Option α) (name : String)
    (fields : List (String × Value)) : Option α :=
  match fields.lookup name with
  | none => some standard
  | some value => read value

/-- Whether a record is written as an array. -/
def isArray {N : Type} : Tree N → Bool
  | .array _ => true
  | _ => false

end Json
end DriverSurvey
