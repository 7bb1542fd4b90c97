import DriverSurvey.Proofs.Scanning
/-!
# Lexing — a value is read as it was written, on one line or on many

Both layouts of a value are the same tokens with different space between them (`lexes_compact`, `lexes_pretty`), and
the machine that reads makes of those tokens the value again (`feed_tokens`).
-/
namespace DriverSurvey
namespace Json

/-! ## Single tokens -/

theorem next_space {c : Char} (h : isSpace c = true) (rest : List Char) : next (c :: rest) = next rest := by
  simp [next, h]

theorem next_quoted (content : Option String) (rest : List Char) :
    next (quoted content ++ rest) = .token (.text (some (content.getD ""))) rest := by
  obtain ⟨pieces, hpieces, hdenoted⟩ := pieces?_escaped (content.getD "").toList rest
  have hquoted : quoted content ++ rest = '"' :: ((content.getD "").toList.flatMap escaped ++ '"' :: rest) := by
    simp [quoted]
  rw [hquoted]
  show tokenAt '"' _ = _
  have hmark : mark? '"' = none := rfl
  unfold tokenAt
  simp [hmark, hpieces, hdenoted]

theorem next_numeral {c : Char} (hc : c ∈ ['-', '0', '1', '2', '3', '4', '5', '6', '7', '8', '9'])
    {rest after : List Char} {n : Numeral} (h : Numeral.scan? (c :: rest) = some (n, after)) :
    next (c :: rest) = .token (.number n) after := by
  have hplain : isSpace c = false ∧ mark? c = none ∧ c ≠ '"' ∧ c ≠ 't' ∧ c ≠ 'f' ∧ c ≠ 'n' := by
    fin_cases hc <;> decide
  obtain ⟨hspace, hmark, hquote, htrue, hfalse, hnull⟩ := hplain
  simp [next, tokenAt, hspace, hmark, hquote, htrue, hfalse, hnull, h]

theorem next_number {n : Numeral} (h : n.WellFormed) {rest : List Char} (hrest : Numeral.ends rest = true) :
    next (n.text ++ rest) = .token (.number n) rest := by
  have hscan := Numeral.scan?_text h hrest
  obtain ⟨c, tail, hwhole⟩ := List.exists_cons_of_ne_nil h.whole.1
  cases hn : n.negative with
  | true =>
    have htext : ∃ tail, n.text ++ rest = '-' :: tail := ⟨_, by rw [Numeral.text_eq, hn]; rfl⟩
    obtain ⟨tail, htext⟩ := htext
    rw [htext] at hscan ⊢
    exact next_numeral (by simp) hscan
  | false =>
    have htext : ∃ tail, n.text ++ rest = c :: tail := ⟨_, by rw [Numeral.text_eq, hn, hwhole]; rfl⟩
    obtain ⟨tail, htext⟩ := htext
    rw [htext] at hscan ⊢
    exact next_numeral (List.mem_cons_of_mem _ (decimal_cases (h.whole.2 c (by simp [hwhole])))) hscan

/-! ## Rows of tokens -/

/-- The front of the text is these tokens, with any space before each, and `rest` is left. -/
inductive Lexes : List Char → List Token → List Char → Prop where
  | nothing (rest : List Char) : Lexes rest [] rest
  | space {c : Char} {text rest : List Char} {tokens : List Token} : isSpace c = true → Lexes text tokens rest →
    Lexes (c :: text) tokens rest
  | token {text middle rest : List Char} {token : Token} {tokens : List Token} : next text = .token token middle →
    Lexes middle tokens rest → Lexes text (token :: tokens) rest

theorem Lexes.append {text middle rest : List Char} {tokens tokens' : List Token} (h : Lexes text tokens middle)
    (h' : Lexes middle tokens' rest) : Lexes text (tokens ++ tokens') rest := by
  induction h with
  | nothing => exact h'
  | space hc _ ih => exact .space hc (ih h')
  | token hnext _ ih => exact .token hnext (ih h')

theorem Lexes.one {text rest : List Char} {token : Token} (h : next text = .token token rest) :
    Lexes text [token] rest :=
  .token h (.nothing rest)

theorem Lexes.spaces {space text rest : List Char} {tokens : List Token} (hspace : ∀ c ∈ space, isSpace c = true)
    (h : Lexes text tokens rest) : Lexes (space ++ text) tokens rest := by
  induction space with
  | nil => exact h
  | cons c space ih =>
    exact .space (hspace c List.mem_cons_self) (ih fun d hd => hspace d (List.mem_cons_of_mem _ hd))

theorem readFrom_eq (state : State) (text : List Char) : readFrom state text = match next text with
    | .finished => state.result?
    | .broken => none
    | .token token rest => (state.step token).bind fun state => readFrom state rest := by
  rw [readFrom.eq_def]
  split
  · rename_i hnext
    rw [hnext]
  · rename_i hnext
    rw [hnext]
  · rename_i token rest hnext
    rw [hnext]
    dsimp only
    cases state.step token <;> rfl

/-- **Reading takes the tokens one by one.** -/
theorem Lexes.readFrom {text rest : List Char} {tokens : List Token} (h : Lexes text tokens rest) {state state' : State}
    (hfeed : tokens.foldlM State.step state = some state') : readFrom state text = readFrom state' rest := by
  induction h generalizing state with
  | nothing rest =>
    cases hfeed
    rfl
  | space hc _ ih =>
    rw [← ih hfeed, readFrom_eq, next_space hc, ← readFrom_eq]
  | token hnext _ ih =>
    rw [List.foldlM_cons, Option.bind_eq_bind, Option.bind_eq_some_iff] at hfeed
    obtain ⟨middle, hstep, hfeed⟩ := hfeed
    rw [readFrom_eq, hnext]
    dsimp only
    rw [hstep, Option.bind_some]
    exact ih hfeed

/-! ## Tokens of a value -/

mutual

/-- The tokens of a value, with commas between items and between members. -/
def Tree.tokens : Value → List Token
  | .null => [.null]
  | .bool b => [.bool b]
  | .number n => [.number n]
  | .text content => [.text content]
  | .array items => .mark .openBracket :: (itemTokens items ++ [.mark .closeBracket])
  | .object members => .mark .openBrace :: (memberTokens members ++ [.mark .closeBrace])

def itemTokens : List Value → List Token
  | [] => []
  | [item] => item.tokens
  | item :: rest => item.tokens ++ .mark .comma :: itemTokens rest

def memberTokens : List (Option String × Value) → List Token
  | [] => []
  | [(key, value)] => .text key :: .mark .colon :: value.tokens
  | (key, value) :: rest => .text key :: .mark .colon :: value.tokens ++ .mark .comma :: memberTokens rest

end

theorem itemTokens_cons_cons (item second : Value) (rest : List Value) :
    itemTokens (item :: second :: rest) = item.tokens ++ .mark .comma :: itemTokens (second :: rest) := by
  rw [itemTokens]
  nofun

theorem memberTokens_cons_cons (key : Option String) (value : Value) (second : Option String × Value)
    (rest : List (Option String × Value)) : memberTokens ((key, value) :: second :: rest) =
      .text key :: .mark .colon :: (value.tokens ++ .mark .comma :: memberTokens (second :: rest)) := by
  rw [memberTokens]
  · rfl
  · nofun

/-- No value begins with a closing bracket. -/
theorem tokens_cons (value : Value) :
    ∃ token tokens, value.tokens = token :: tokens ∧ token ≠ .mark .closeBracket := by
  cases value with
  | null => exact ⟨.null, [], Tree.tokens.eq_1, nofun⟩
  | bool b => exact ⟨.bool b, [], Tree.tokens.eq_2 b, nofun⟩
  | number n => exact ⟨.number n, [], Tree.tokens.eq_3 n, nofun⟩
  | text content => exact ⟨.text content, [], Tree.tokens.eq_4 content, nofun⟩
  | array items => exact ⟨.mark .openBracket, _, Tree.tokens.eq_5 items, by decide⟩
  | object members => exact ⟨.mark .openBrace, _, Tree.tokens.eq_6 members, by decide⟩

theorem itemTokens_cons (item : Value) (rest : List Value) :
    ∃ token tokens, itemTokens (item :: rest) = token :: tokens ∧ token ≠ .mark .closeBracket := by
  obtain ⟨token, tokens, htokens, htoken⟩ := tokens_cons item
  cases rest with
  | nil => exact ⟨token, tokens, by rw [itemTokens, htokens], htoken⟩
  | cons second rest => exact ⟨token, _, by rw [itemTokens_cons_cons, htokens, List.cons_append], htoken⟩

/-! ## From tokens to the value -/

/-- Behind an opening bracket, what is not its closing one begins the first item. -/
theorem step_firstItem (frames : List Frame) {token : Token} (h : token ≠ .mark .closeBracket) :
    State.step ⟨frames, .firstItem⟩ token = State.step ⟨.items [] :: frames, .value⟩ token := by
  show (if token == .mark .closeBracket then _ else _) = _
  rw [if_neg (by simpa using h)]
  rfl

mutual

/-- **The tokens of a value make the value**, whatever is open around it. -/
theorem feed_tokens : ∀ (value : Value) (frames : List Frame),
    value.tokens.foldlM State.step ⟨frames, .value⟩ = some ⟨frames, .after value⟩
  | .null, _ | .bool _, _ | .number _, _ | .text _, _ => by
    rw [Tree.tokens]
    rfl
  | .array [], _ => by
    rw [Tree.tokens, itemTokens]
    rfl
  | .array (item :: rest), frames => by
    -- behind the bracket the first item is awaited, and read as any other
    have hfeed := feed_items (item :: rest) [] frames nofun
    obtain ⟨token, tokens, htokens, htoken⟩ := itemTokens_cons item rest
    rw [htokens, List.cons_append, List.foldlM_cons] at hfeed
    rw [Tree.tokens, List.foldlM_cons]
    show (itemTokens _ ++ _).foldlM State.step ⟨frames, .firstItem⟩ = _
    rw [htokens, List.cons_append, List.foldlM_cons, step_firstItem frames htoken, hfeed]
    rfl
  | .object [], _ => by
    rw [Tree.tokens, memberTokens]
    rfl
  | .object (member :: rest), frames => by
    have hfeed := feed_members (member :: rest) [] frames nofun
    rw [Tree.tokens, List.foldlM_cons]
    show (memberTokens _ ++ _).foldlM State.step ⟨frames, .firstKey⟩ = _
    cases rest with
    | nil =>
      rw [memberTokens] at hfeed ⊢
      exact hfeed
    | cons second rest =>
      rw [memberTokens_cons_cons] at hfeed ⊢
      exact hfeed

theorem feed_items : ∀ (items before : List Value) (frames : List Frame), items ≠ [] →
    (itemTokens items ++ [Token.mark .closeBracket]).foldlM State.step ⟨.items before :: frames, .value⟩ =
      some ⟨frames, .after (.array (before.reverse ++ items))⟩
  | [], _, _, h => absurd rfl h
  | [item], before, frames, _ => by
    rw [itemTokens, List.foldlM_append, feed_tokens item]
    show some _ = _
    rw [List.reverse_cons]
  | item :: second :: rest, before, frames, _ => by
    rw [itemTokens_cons_cons, List.append_assoc, List.foldlM_append, feed_tokens item]
    show (itemTokens (second :: rest) ++ [Token.mark .closeBracket]).foldlM State.step
      ⟨.items (item :: before) :: frames, .value⟩ = _
    rw [feed_items (second :: rest) (item :: before) frames nofun]
    simp

theorem feed_members : ∀ (members before : List (Option String × Value)) (frames : List Frame), members ≠ [] →
    (memberTokens members ++ [Token.mark .closeBrace]).foldlM State.step ⟨frames, .key before⟩ =
      some ⟨frames, .after (.object (before.reverse ++ members))⟩
  | [], _, _, h => absurd rfl h
  | [(key, value)], before, frames, _ => by
    rw [memberTokens]
    show (value.tokens ++ _).foldlM State.step ⟨.member before key :: frames, .value⟩ = _
    rw [List.foldlM_append, feed_tokens value]
    show some _ = _
    rw [List.reverse_cons]
  | (key, value) :: second :: rest, before, frames, _ => by
    rw [memberTokens_cons_cons]
    show (value.tokens ++ _ ++ _).foldlM State.step ⟨.member before key :: frames, .value⟩ = _
    rw [List.append_assoc, List.foldlM_append, feed_tokens value]
    show (memberTokens (second :: rest) ++ [Token.mark .closeBrace]).foldlM State.step
      ⟨frames, .key ((key, value) :: before)⟩ = _
    rw [feed_members (second :: rest) ((key, value) :: before) frames nofun]
    simp

end

/-! ## What is written -/

mutual

/-- The value that is written, its numbers as numerals. -/
def Tree.value {N : Type} (numeral : N → Numeral) : Tree N → Value
  | .null => .null
  | .bool b => .bool b
  | .number n => .number (numeral n)
  | .text content => .text (some (content.getD ""))
  | .array items => .array (itemValues numeral items)
  | .object members => .object (memberValues numeral members)

def itemValues {N : Type} (numeral : N → Numeral) : List (Tree N) → List Value
  | [] => []
  | item :: rest => item.value numeral :: itemValues numeral rest

def memberValues {N : Type} (numeral : N → Numeral) : List (Option String × Tree N) → List (Option String × Value)
  | [] => []
  | (key, value) :: rest => (some (key.getD ""), value.value numeral) :: memberValues numeral rest

end

mutual

/-- Every number of a value has a property. -/
def Tree.Numbers {N : Type} (property : N → Prop) : Tree N → Prop
  | .null | .bool _ | .text _ => True
  | .number n => property n
  | .array items => itemNumbers property items
  | .object members => memberNumbers property members

def itemNumbers {N : Type} (property : N → Prop) : List (Tree N) → Prop
  | [] => True
  | item :: rest => item.Numbers property ∧ itemNumbers property rest

def memberNumbers {N : Type} (property : N → Prop) : List (Option String × Tree N) → Prop
  | [] => True
  | (_, value) :: rest => value.Numbers property ∧ memberNumbers property rest

end

/-- A number is written as a numeral in the form that JSON has for it. -/
def IsNumeral {N : Type} (number : N → List Char) (numeral : N → Numeral) (n : N) : Prop :=
  number n = (numeral n).text ∧ (numeral n).WellFormed

section Layouts

variable {N : Type} {number : N → List Char} {numeral : N → Numeral}

theorem lexes_null (rest : List Char) : Lexes ("null".toList ++ rest) [.null] rest :=
  .one rfl

theorem lexes_bool (b : Bool) (rest : List Char) :
    Lexes ((if b then "true".toList else "false".toList) ++ rest) [.bool b] rest := by
  cases b <;> exact .one rfl

theorem lexes_number {n : N} (h : IsNumeral number numeral n) {rest : List Char} (hrest : Numeral.ends rest = true) :
    Lexes (number n ++ rest) [.number (numeral n)] rest := by
  rw [h.1]
  exact .one (next_number h.2 hrest)

mutual

/-- **On one line a value is its tokens.** -/
theorem lexes_compact : ∀ (tree : Tree N) (rest : List Char), tree.Numbers (IsNumeral number numeral) →
    Numeral.ends rest = true → Lexes (tree.compact number ++ rest) (tree.value numeral).tokens rest
  | .null, rest, _, _ => lexes_null rest
  | .bool b, rest, _, _ => lexes_bool b rest
  | .number n, rest, h, hrest => lexes_number h hrest
  | .text content, rest, _, _ => .one (next_quoted content rest)
  | .array items, rest, h, _ => by
    have hitems := lexes_compactItems items rest h
    rw [Tree.compact, List.cons_append, List.append_assoc]
    exact .token rfl hitems
  | .object members, rest, h, _ => by
    have hmembers := lexes_compactMembers members rest h
    rw [Tree.compact, List.cons_append, List.append_assoc]
    exact .token rfl hmembers

theorem lexes_compactItems : ∀ (items : List (Tree N)) (rest : List Char),
    itemNumbers (IsNumeral number numeral) items → Lexes (compactItems number items ++ ']' :: rest)
      (itemTokens (itemValues numeral items) ++ [.mark .closeBracket]) rest
  | [], rest, _ => .one rfl
  | [item], rest, h => by
    rw [compactItems, itemValues, itemValues, itemTokens]
    exact (lexes_compact item (']' :: rest) h.1 rfl).append (.one rfl)
  | item :: second :: rest, after, h => by
    -- a comma stands behind the item, so that a numeral ends there
    have hitem := lexes_compact item (',' :: (compactItems number (second :: rest) ++ ']' :: after)) h.1 rfl
    have hrest := lexes_compactItems (second :: rest) after h.2
    rw [compactItems, itemValues, itemValues, itemTokens_cons_cons, List.append_assoc, List.append_assoc]
    · exact hitem.append (.token rfl hrest)
    · nofun

theorem lexes_compactMembers : ∀ (members : List (Option String × Tree N)) (rest : List Char),
    memberNumbers (IsNumeral number numeral) members → Lexes (compactMembers number members ++ '}' :: rest)
      (memberTokens (memberValues numeral members) ++ [.mark .closeBrace]) rest
  | [], rest, _ => .one rfl
  | [(key, value)], rest, h => by
    have hvalue := lexes_compact value ('}' :: rest) h.1 rfl
    rw [compactMembers, memberValues, memberValues, memberTokens, List.append_assoc]
    exact .token (next_quoted key _) (.token rfl (hvalue.append (.one rfl)))
  | (key, value) :: second :: rest, after, h => by
    have hvalue := lexes_compact value (',' :: (compactMembers number (second :: rest) ++ '}' :: after)) h.1 rfl
    have hrest := lexes_compactMembers (second :: rest) after h.2
    rw [compactMembers, memberValues, memberValues, memberTokens_cons_cons]
    · simp only [List.append_assoc, List.cons_append]
      exact .token (next_quoted key _) (.token rfl (hvalue.append (.token rfl hrest)))
    · nofun

end

theorem Lexes.newLine (level : Nat) {text rest : List Char} {tokens : List Token} (h : Lexes text tokens rest) :
    Lexes (newLine level ++ text) tokens rest := by
  have hspaces : ∀ c ∈ List.replicate (2 * level) ' ', isSpace c = true := by
    intro c hc
    rw [List.eq_of_mem_replicate hc]
    rfl
  exact .space rfl (h.spaces hspaces)

mutual

/-- **On many lines a value is the same tokens.** -/
theorem lexes_pretty : ∀ (tree : Tree N) (level : Nat) (rest : List Char), tree.Numbers (IsNumeral number numeral) →
    Numeral.ends rest = true → Lexes (tree.pretty number level ++ rest) (tree.value numeral).tokens rest
  | .null, _, rest, _, _ => lexes_null rest
  | .bool b, _, rest, _, _ => lexes_bool b rest
  | .number n, _, rest, h, hrest => lexes_number h hrest
  | .text content, _, rest, _, _ => .one (next_quoted content rest)
  | .array [], _, _, _, _ => .token rfl (.one rfl)
  | .array (item :: items), level, rest, h, _ => by
    have hitems := lexes_prettyItems (item :: items) (level + 1) level rest nofun h
    rw [Tree.pretty, List.cons_append, List.append_assoc, List.append_assoc]
    exact .token rfl hitems
  | .object [], _, _, _, _ => .token rfl (.one rfl)
  | .object (member :: members), level, rest, h, _ => by
    have hmembers := lexes_prettyMembers (member :: members) (level + 1) level rest nofun h
    rw [Tree.pretty, List.cons_append, List.append_assoc, List.append_assoc]
    exact .token rfl hmembers

theorem lexes_prettyItems : ∀ (items : List (Tree N)) (level outer : Nat) (rest : List Char), items ≠ [] →
    itemNumbers (IsNumeral number numeral) items →
    Lexes (prettyItems number level items ++ (newLine outer ++ ']' :: rest))
      (itemTokens (itemValues numeral items) ++ [.mark .closeBracket]) rest
  | [], _, _, _, h, _ => absurd rfl h
  | [item], level, outer, rest, _, h => by
    have hitem := lexes_pretty item level (newLine outer ++ ']' :: rest) h.1 rfl
    rw [prettyItems, itemValues, itemValues, itemTokens, List.append_assoc]
    exact (hitem.append (.newLine outer (.one rfl))).newLine level
  | item :: second :: items, level, outer, rest, _, h => by
    have hitem := lexes_pretty item level
      (',' :: (prettyItems number level (second :: items) ++ (newLine outer ++ ']' :: rest))) h.1 rfl
    have hitems := lexes_prettyItems (second :: items) level outer rest nofun h.2
    rw [prettyItems, itemValues, itemValues, itemTokens_cons_cons]
    · simp only [List.append_assoc, List.cons_append]
      exact (hitem.append (.token rfl hitems)).newLine level
    · nofun

theorem lexes_prettyMembers : ∀ (members : List (Option String × Tree N)) (level outer : Nat) (rest : List Char),
    members ≠ [] → memberNumbers (IsNumeral number numeral) members →
    Lexes (prettyMembers number level members ++ (newLine outer ++ '}' :: rest))
      (memberTokens (memberValues numeral members) ++ [.mark .closeBrace]) rest
  | [], _, _, _, h, _ => absurd rfl h
  | [(key, value)], level, outer, rest, _, h => by
    have hvalue := lexes_pretty value level (newLine outer ++ '}' :: rest) h.1 rfl
    rw [prettyMembers, memberValues, memberValues, memberTokens]
    simp only [List.append_assoc, List.cons_append]
    exact .newLine level (.token (next_quoted key _)
      (.token rfl (.space rfl (hvalue.append (.newLine outer (.one rfl))))))
  | (key, value) :: second :: members, level, outer, rest, _, h => by
    have hvalue := lexes_pretty value level
      (',' :: (prettyMembers number level (second :: members) ++ (newLine outer ++ '}' :: rest))) h.1 rfl
    have hmembers := lexes_prettyMembers (second :: members) level outer rest nofun h.2
    rw [prettyMembers, memberValues, memberValues, memberTokens_cons_cons]
    · simp only [List.append_assoc, List.cons_append]
      exact .newLine level (.token (next_quoted key _)
        (.token rfl (.space rfl (hvalue.append (.token rfl hmembers)))))
    · nofun

end

/-! ## Reading what is written -/

theorem readFrom_end (value : Value) : readFrom ⟨[], .after value⟩ [] = some value := by
  rw [readFrom_eq]
  rfl

theorem Lexes.read? {text : List Char} {value : Value} (h : Lexes text value.tokens []) :
    read? (String.ofList text) = some value := by
  unfold Json.read?
  rw [String.toList_ofList, h.readFrom (feed_tokens value []), readFrom_end]

/-- **What stands on one line is read as it was written.** -/
theorem read?_compact {tree : Tree N} (h : tree.Numbers (IsNumeral number numeral)) :
    read? (String.ofList (tree.compact number)) = some (tree.value numeral) := by
  have hlexes := lexes_compact tree [] h rfl
  rw [List.append_nil] at hlexes
  exact hlexes.read?

/-- **What stands on many lines is read as it was written.** -/
theorem read?_pretty {tree : Tree N} (level : Nat) (h : tree.Numbers (IsNumeral number numeral)) :
    read? (String.ofList (tree.pretty number level)) = some (tree.value numeral) := by
  have hlexes := lexes_pretty tree level [] h rfl
  rw [List.append_nil] at hlexes
  exact hlexes.read?

end Layouts

end Json
end DriverSurvey
