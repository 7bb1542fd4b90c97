/-!
# Value — what a TOML document holds

A table keeps how it came about, since that decides whether a later line may add to it.  `alter` is the one way into a
table along a path of keys; every rule on redefinition is a change made through it.
-/
namespace DriverSurvey
namespace Toml

/-- How a table came about. -/
inductive Origin where
  /-- By a header of its own. -/
  | header
  /-- As a parent of a table with a header. -/
  | parent
  /-- By a dotted key. -/
  | dotted
  /-- In braces. -/
  | inline
  /-- By a dotted key in braces. -/
  | inlineDotted
  deriving DecidableEq, Repr

/-- Whether the table was never written down itself. -/
def Origin.isImplied : Origin → Bool
  | .parent | .dotted | .inlineDotted => true
  | .header | .inline => false

/-- Whether the table came about by a dotted key. -/
def Origin.isDotted : Origin → Bool
  | .dotted | .inlineDotted => true
  | _ => false

/-- Whether the table stands in braces. -/
def Origin.isInline : Origin → Bool
  | .inline | .inlineDotted => true
  | _ => false

/-- A TOML value.  Of numbers with a fraction and of dates nothing but their kind is kept. -/
inductive Value where
  | text (text : String)
  | integer (n : Int)
  | float
  | boolean (b : Bool)
  | instant
  | array (items : List Value)
  | table (origin : Origin) (members : List (String × Value))
  /-- An array of tables, each with a header. -/
  | tables (items : List (List (String × Value)))

/-- The members of a table in the order in which they came. -/
abbrev Members : Type := List (String × Value)

/-- Put a value in the place of the one under a key. -/
def replaceMember (key : String) (value : Value) : Members → Members
  | [] => []
  | member :: rest =>
    if member.1 == key then (key, value) :: rest else member :: replaceMember key value rest

/-- Take the member under a key away. -/
def eraseMember (key : String) (members : Members) : Members :=
  members.filter (fun member => member.1 != key)

/-- Add a member under a new key; `none` where the key is taken. -/
def insertMember (key : String) (value : Value) (members : Members) : Option Members :=
  match members.lookup key with
  | none => some (members ++ [(key, value)])
  | some _ => none

/-- Change the table that a path leads to, beginning at a table of origin `here`.  Missing tables on the way come about
with origin `fresh`; an array of tables is entered at its last one.  A key that leads to anything else is refused, and
so is a dotted key into a table that was written down. -/
def alter {α : Type} (fresh : Origin) (change : Origin → Members → Option (α × Members)) :
    List String → Origin → Members → Option (α × Members)
  | [], here, members => change here members
  | key :: rest, _, members =>
    match members.lookup key with
    | none =>
      (alter fresh change rest fresh []).map fun (result, inner) => (result, members ++ [(key, .table fresh inner)])
    | some (.table origin inner) =>
      if origin.isInline != fresh.isInline || (fresh.isDotted && !origin.isImplied) then none
      else
        (alter fresh change rest origin inner).map fun (result, inner) =>
          (result, replaceMember key (.table origin inner) members)
    | some (.tables items) =>
      match items.getLast? with
      | none => none
      | some last =>
        (alter fresh change rest .header last).map fun (result, inner) =>
          (result, replaceMember key (.tables (items.dropLast ++ [inner])) members)
    | some _ => none

/-- Add a value under a dotted key.  The table it goes into has to be the one at hand, or one that dotted keys made. -/
def assign (fresh here : Origin) (path : List String) (key : String) (value : Value) (members : Members) :
    Option Members :=
  (alter fresh
    (fun origin inner =>
      if origin.isDotted == path.isEmpty then none else (insertMember key value inner).map ((), ·))
    path here members).map (·.2)

end Toml
end DriverSurvey
