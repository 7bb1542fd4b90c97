import DriverSurvey.Json.Token
/-!
# Tree — JSON values

A value keeps the members of an object in order, with every repetition, so that what a repeated member means is decided
by whoever reads it.  `read?` is a machine with a stack that takes one token at a time; it knows no depth that would be
too deep.
-/
namespace DriverSurvey
namespace Json

/-- A value whose numbers are `N`.  Strings that denote no text are `none`. -/
inductive Tree (N : Type) where
  | null
  | bool (b : Bool)
  | number (n : N)
  | text (content : Option String)
  | array (items : List (Tree N))
  | object (members : List (Option String × Tree N))

/-- A value as it is read: its numbers are numerals. -/
abbrev Value : Type := Tree Numeral

/-! ## Reading -/

/-- An array or object that is open, with what it has so far, newest first. -/
inductive Frame where
  | items (before : List Value)
  | member (before : List (Option String × Value)) (key : Option String)

/-- What may come next. -/
inductive Await where
  | value
  /-- A value or a closing bracket. -/
  | firstItem
  /-- A key or a closing brace. -/
  | firstKey
  | key (before : List (Option String × Value))
  | colon (before : List (Option String × Value)) (key : Option String)
  /-- A value is complete. -/
  | after (value : Value)

/-- The machine between two tokens. -/
structure State where
  frames : List Frame := []
  await : Await := .value

/-- Take the first token of a value. -/
def State.begin (frames : List Frame) : Token → Option State
  | .null => some ⟨frames, .after .null⟩
  | .bool b => some ⟨frames, .after (.bool b)⟩
  | .number n => some ⟨frames, .after (.number n)⟩
  | .text content => some ⟨frames, .after (.text content)⟩
  | .mark .openBracket => some ⟨frames, .firstItem⟩
  | .mark .openBrace => some ⟨frames, .firstKey⟩
  | .mark _ => none

/-- Take a token behind a complete value. -/
def State.goOn (value : Value) (token : Token) : List Frame → Option State
  | [] => none
  | .items before :: frames =>
    if token == .mark .comma then some ⟨.items (value :: before) :: frames, .value⟩
    else if token == .mark .closeBracket then some ⟨frames, .after (.array (value :: before).reverse)⟩
    else none
  | .member before key :: frames =>
    if token == .mark .comma then some ⟨frames, .key ((key, value) :: before)⟩
    else if token == .mark .closeBrace then some ⟨frames, .after (.object ((key, value) :: before).reverse)⟩
    else none

/-- Take a token. -/
def State.step (state : State) (token : Token) : Option State :=
  match state.await with
  | .value => State.begin state.frames token
  | .firstItem =>
    if token == .mark .closeBracket then some ⟨state.frames, .after (.array [])⟩
    else State.begin (.items [] :: state.frames) token
  | .firstKey =>
    match token with
    | .mark .closeBrace => some ⟨state.frames, .after (.object [])⟩
    | .text key => some ⟨state.frames, .colon [] key⟩
    | _ => none
  | .key before =>
    match token with
    | .text key => some ⟨state.frames, .colon before key⟩
    | _ => none
  | .colon before key =>
    if token == .mark .colon then some ⟨.member before key :: state.frames, .value⟩ else none
  | .after value => State.goOn value token state.frames

/-- The value, if it is complete and nothing is open. -/
def State.result? (state : State) : Option Value :=
  match state.frames, state.await with
  | [], .after value => some value
  | _, _ => none

/-- Take the tokens of a text one by one. -/
def readFrom (state : State) (text : List Char) : Option Value :=
  match _h : next text with
  | .finished => state.result?
  | .broken => none
  | .token token rest =>
    match state.step token with
    | none => none
    | some state => readFrom state rest
termination_by text.length
decreasing_by exact length_of_next _h

/-- The value that a text writes. -/
def read? (text : String) : Option Value :=
  readFrom {} text.toList

/-! ## Writing -/

/-- A character as it is written between quotes. -/
def escaped (c : Char) : List Char :=
  if c == '"' then ['\\', '"']
  else if c == '\\' then ['\\', '\\']
  else if c == '\x08' then ['\\', 'b']
  else if c == '\x0C' then ['\\', 'f']
  else if c == '\n' then ['\\', 'n']
  else if c == '\r' then ['\\', 'r']
  else if c == '\t' then ['\\', 't']
  else if c.toNat < 0x20 then ['\\', 'u', '0', '0', digitChar (c.toNat / 16), digitChar (c.toNat % 16)]
  else [c]

/-- A text in quotes.  What denotes no text has no form of its own and is written empty. -/
def quoted (content : Option String) : List Char :=
  '"' :: ((content.getD "").toList.flatMap escaped ++ ['"'])

mutual

/-- A value on one line without space. -/
def Tree.compact {N : Type} (number : N → List Char) : Tree N → List Char
  | .null => "null".toList
  | .bool b => if b then "true".toList else "false".toList
  | .number n => number n
  | .text content => quoted content
  | .array items => '[' :: (compactItems number items ++ [']'])
  | .object members => '{' :: (compactMembers number members ++ ['}'])

/-- Items with commas between them. -/
def compactItems {N : Type} (number : N → List Char) : List (Tree N) → List Char
  | [] => []
  | [item] => item.compact number
  | item :: rest => item.compact number ++ ',' :: compactItems number rest

/-- Members with commas between them. -/
def compactMembers {N : Type} (number : N → List Char) : List (Option String × Tree N) → List Char
  | [] => []
  | [(key, value)] => quoted key ++ ':' :: value.compact number
  | (key, value) :: rest => quoted key ++ ':' :: value.compact number ++ ',' :: compactMembers number rest

end

/-- A line break, and two spaces for each level. -/
def newLine (level : Nat) : List Char :=
  '\n' :: List.replicate (2 * level) ' '

mutual

/-- A value with every item and member on a line of its own. -/
def Tree.pretty {N : Type} (number : N → List Char) (level : Nat) : Tree N → List Char
  | .null => "null".toList
  | .bool b => if b then "true".toList else "false".toList
  | .number n => number n
  | .text content => quoted content
  | .array [] => ['[', ']']
  | .array (item :: rest) => '[' :: (prettyItems number (level + 1) (item :: rest) ++ newLine level ++ [']'])
  | .object [] => ['{', '}']
  | .object (member :: rest) =>
    '{' :: (prettyMembers number (level + 1) (member :: rest) ++ newLine level ++ ['}'])

/-- Items, each on its line, with commas between them. -/
def prettyItems {N : Type} (number : N → List Char) (level : Nat) : List (Tree N) → List Char
  | [] => []
  | [item] => newLine level ++ item.pretty number level
  | item :: rest => newLine level ++ item.pretty number level ++ ',' :: prettyItems number level rest

/-- Members, each on its line, with commas between them. -/
def prettyMembers {N : Type} (number : N → List Char) (level : Nat) : List (Option String × Tree N) → List Char
  | [] => []
  | [(key, value)] => newLine level ++ quoted key ++ ':' :: ' ' :: value.pretty number level
  | (key, value) :: rest =>
    newLine level ++ quoted key ++ ':' :: ' ' :: value.pretty number level ++ ',' :: prettyMembers number level rest

end

end Json
end DriverSurvey
