import DriverSurvey.Toml.Value
import DriverSurvey.Toml.Lexical
/-!
# Document — TOML from its text

Values are read by recursive descent, at most seventy-nine arrays or braces deep.  A document is read line by line into
a `Draft`: the tables that are finished, and the one that the lines at hand go into.
-/
namespace DriverSurvey
namespace Toml

/-! ## Keys -/

def isBareKeyChar (c : Char) : Bool :=
  isDecimal c || ('a' ≤ c && c ≤ 'z') || ('A' ≤ c && c ≤ 'Z') || c == '-' || c == '_'

/-- One part of a key. -/
def keyPart (text : List Char) : Option (String × List Char) :=
  match text with
  | '"' :: _ => shortString text
  | '\'' :: _ => shortString text
  | text =>
    let part := text.takeWhile isBareKeyChar
    if part.isEmpty then none else some (String.ofList part, text.dropWhile isBareKeyChar)

/-- How many parts a key has at most. -/
def maxKeyParts : Nat := 79

/-- A key of at most so many parts, with space around each; the parts before the last, and the last. -/
def key : Nat → Reader (List String × String)
  | 0, _ => none
  | limit + 1, text => do
    let (part, rest) ← keyPart (skipSpace text)
    match skipSpace rest with
    | '.' :: rest => (key limit rest).map fun ((path, last), rest) => ((part :: path, last), rest)
    | rest => return (([], part), rest)

/-! ## Values -/

/-- How deep arrays and braces may lie in one another. -/
def maxDepth : Nat := 79

mutual

/-- A value, with so much depth left.  The first argument bounds the number of steps. -/
def value : Nat → Nat → Reader Value
  | 0, _, _ => none
  | steps + 1, depth, text =>
    match text with
    | [] => none
    | c :: rest =>
      if c == '"' || c == '\'' then (string text).map fun (s, rest) => (.text s, rest)
      else if c == '[' then
        match depth with
        | 0 => none
        | depth + 1 => (items steps depth rest).map fun (items, rest) => (.array items, rest)
      else if c == '{' then
        match depth with
        | 0 => none
        | depth + 1 =>
          match skipSpace rest with
          | '}' :: rest => some (.table .inline [], rest)
          | _ => (members steps depth rest []).map fun (members, rest) => (.table .inline members, rest)
      else if c == '+' || c == '-' || isDecimal c then
        match instant text with
        | .seen rest => some (.instant, rest)
        | .mistake => none
        | .absent =>
          (number text).map fun (n, rest) =>
            ((match n with | some n => .integer n | none => .float), rest)
      else
        match text with
        | 't' :: 'r' :: 'u' :: 'e' :: rest => some (.boolean true, rest)
        | 'f' :: 'a' :: 'l' :: 's' :: 'e' :: rest => some (.boolean false, rest)
        | 'i' :: 'n' :: 'f' :: rest => some (.float, rest)
        | 'n' :: 'a' :: 'n' :: rest => some (.float, rest)
        | _ => none

/-- The items of an array up to its bracket.  A comma may stand behind the last one. -/
def items : Nat → Nat → Reader (List Value)
  | 0, _, _ => none
  | steps + 1, depth, text =>
    match skipLines (text.length + 1) text with
    | none => none
    | some (']' :: rest) => some ([], rest)
    | some text => do
      let (item, rest) ← value steps depth text
      match ← skipLines (rest.length + 1) rest with
      | ',' :: rest => (items steps depth rest).map fun (items, rest) => (item :: items, rest)
      | ']' :: rest => return ([item], rest)
      | _ => none

/-- One or more members of a table in braces, on top of those read before, up to the brace. -/
def members : Nat → Nat → List Char → Members → Option (Members × List Char)
  | 0, _, _, _ => none
  | steps + 1, depth, text, before => do
    let ((path, last), rest) ← key maxKeyParts text
    match rest with
    | '=' :: rest => do
      let (item, rest) ← value steps depth (skipSpace rest)
      let after ← assign .inlineDotted .inline path last item before
      match skipSpace rest with
      | ',' :: rest => members steps depth rest after
      | '}' :: rest => return (after, rest)
      | _ => none
    | _ => none

end

/-! ## Lines -/

/-- A document in the middle of its lines. -/
structure Draft where
  root : Members := []
  /-- The table that the lines at hand go into. -/
  current : Members := []
  /-- The key of that table; `none` before the first header. -/
  header : Option (List String × String) := none
  /-- Whether that table is one of an array. -/
  isItem : Bool := false

namespace Draft

/-- The draft with the table at hand put into its place. -/
def settle (draft : Draft) : Option Members :=
  match draft.header with
  | none => some draft.current
  | some (path, last) =>
    let place (_ : Origin) (inner : Members) : Option (Unit × Members) :=
      match inner.lookup last with
      | none => some ((), inner ++
          [(last, if draft.isItem then .tables [draft.current] else .table .header draft.current)])
      | some (.tables items) =>
        if draft.isItem then some ((), replaceMember last (.tables (items ++ [draft.current])) inner) else none
      | some (.table origin _) =>
        if !draft.isItem && origin.isImplied then
          some ((), replaceMember last (.table .header draft.current) inner)
        else none
      | some _ => none
    (alter .parent place path .header draft.root).map (·.2)

/-- Begin a table.  One that so far was only a parent goes on with what it has; any other is not begun twice. -/
def beginTable (draft : Draft) (path : List String) (last : String) : Option Draft := do
  let root ← draft.settle
  let take (_ : Origin) (inner : Members) : Option (Members × Members) :=
    match inner.lookup last with
    | none => some ([], inner)
    | some (.table .parent own) => some (own, eraseMember last inner)
    | some _ => none
  let (own, root) ← alter .parent take path .header root
  return ⟨root, own, some (path, last), false⟩

/-- Begin the next table of an array. -/
def beginItem (draft : Draft) (path : List String) (last : String) : Option Draft := do
  let root ← draft.settle
  let look (_ : Origin) (inner : Members) : Option (Unit × Members) :=
    match inner.lookup last with
    | none => some ((), inner ++ [(last, .tables [])])
    | some (.tables _) => some ((), inner)
    | some _ => none
  let (_, root) ← alter .parent look path .header root
  return ⟨root, [], some (path, last), true⟩

/-- Enter a key with its value. -/
def enterKey (draft : Draft) (path : List String) (last : String) (item : Value) : Option Draft :=
  (assign .dotted .header path last item draft.current).map fun current => { draft with current := current }

/-- Read one line that is not empty. -/
def line (draft : Draft) (text : List Char) : Option (Draft × List Char) :=
  match text with
  | '[' :: '[' :: rest => do
    let ((path, last), rest) ← key maxKeyParts rest
    match rest with
    | ']' :: ']' :: rest => return (← draft.beginItem path last, ← lineEnd? rest)
    | _ => none
  | '[' :: rest => do
    let ((path, last), rest) ← key maxKeyParts rest
    match rest with
    | ']' :: rest => return (← draft.beginTable path last, ← lineEnd? rest)
    | _ => none
  | text => do
    let ((path, last), rest) ← key maxKeyParts text
    match rest with
    | '=' :: rest => do
      let (item, rest) ← value (2 * rest.length + 8) maxDepth (skipSpace rest)
      return (← draft.enterKey path last item, ← lineEnd? rest)
    | _ => none

/-- Read all lines, so many at most. -/
def lines : Nat → Draft → List Char → Option Draft
  | 0, _, _ => none
  | limit + 1, draft, text =>
    match skipSpace text with
    | [] => some draft
    | '#' :: rest => (lineEnd? ('#' :: rest)).bind (lines limit draft)
    | '\n' :: rest => lines limit draft rest
    | '\r' :: rest => (lineBreak? ('\r' :: rest)).bind (lines limit draft)
    | text => (draft.line text).bind fun (draft, rest) => lines limit draft rest

end Draft

/-- The members of a document; `none` where it is no TOML.  A byte order mark at the front is skipped. -/
def parse (text : String) : Option Members :=
  let chars := match text.toList with
    | '\uFEFF' :: rest => rest
    | chars => chars
  (Draft.lines (chars.length + 1) {} chars).bind Draft.settle

end Toml
end DriverSurvey
