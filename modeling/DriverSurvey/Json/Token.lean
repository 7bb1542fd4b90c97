import DriverSurvey.Json.Numeral
/-!
# Token — the words of JSON

`next?` takes a token off the front of a text.  A string may name half of a surrogate pair by an escape; such a string
is well formed and still denotes no text, so its content is `none`.
-/
namespace DriverSurvey
namespace Json

/-- The marks that structure a text. -/
inductive Mark where
  | openBrace
  | closeBrace
  | openBracket
  | closeBracket
  | comma
  | colon
  deriving DecidableEq, Repr

/-- A token. -/
inductive Token where
  | mark (mark : Mark)
  | null
  | bool (b : Bool)
  | number (n : Numeral)
  | text (content : Option String)
  deriving DecidableEq, Repr

/-! ## Strings -/

/-- What stands at one place of a string: a character, or a sixteen-bit unit that an escape names. -/
inductive Piece where
  | char (c : Char)
  | unit (n : Nat)
  deriving DecidableEq, Repr

/-- The unit of four hexadecimal digits. -/
def unit? (a b c d : Char) : Option Nat :=
  if [a, b, c, d].all (isDigitOf 16) then some (spelled 16 [a, b, c, d]) else none

/-- The character of an escape of one letter. -/
def shortEscape? (c : Char) : Option Char :=
  [('"', '"'), ('\\', '\\'), ('/', '/'), ('b', '\x08'), ('f', '\x0C'), ('n', '\n'), ('r', '\r'), ('t', '\t')].lookup c

/-- The pieces of a string behind its first quote, and the rest behind its last.  Control characters have to be
escaped. -/
def pieces? : List Char → Option (List Piece × List Char)
  | [] => none
  | c :: rest =>
    if c == '"' then some ([], rest)
    else if c == '\\' then
      match rest with
      | [] => none
      | e :: rest =>
        if e == 'u' then
          match rest with
          | a :: b :: c :: d :: rest =>
            match unit? a b c d, pieces? rest with
            | some n, some (pieces, rest) => some (.unit n :: pieces, rest)
            | _, _ => none
          | _ => none
        else
          match shortEscape? e, pieces? rest with
          | some c, some (pieces, rest) => some (.char c :: pieces, rest)
          | _, _ => none
    else if c.toNat < 0x20 then none
    else
      match pieces? rest with
      | some (pieces, rest) => some (.char c :: pieces, rest)
      | none => none

def isHighSurrogate (n : Nat) : Bool := 0xD800 ≤ n && n ≤ 0xDBFF
def isLowSurrogate (n : Nat) : Bool := 0xDC00 ≤ n && n ≤ 0xDFFF

/-- The character of a surrogate pair. -/
def joinSurrogates (high low : Nat) : Char :=
  Char.ofNat (0x10000 + (high - 0xD800) * 0x400 + (low - 0xDC00))

/-- The text that pieces denote: none if a surrogate stands alone. -/
def denoted? : List Piece → Option (List Char)
  | [] => some []
  | .char c :: rest => (denoted? rest).map (c :: ·)
  | .unit n :: rest =>
    if isHighSurrogate n then
      match rest with
      | .unit m :: rest => if isLowSurrogate m then (denoted? rest).map (joinSurrogates n m :: ·) else none
      | _ => none
    else if isLowSurrogate n then none
    else (denoted? rest).map (Char.ofNat n :: ·)

/-! ## Tokens -/

/-- White space between tokens. -/
def isSpace (c : Char) : Bool := c == ' ' || c == '\n' || c == '\t' || c == '\r'

/-- The mark that a character is. -/
def mark? (c : Char) : Option Mark :=
  [('{', Mark.openBrace), ('}', .closeBrace), ('[', .openBracket), (']', .closeBracket), (',', .comma),
    (':', .colon)].lookup c

/-- The rest behind a word. -/
def afterWord? (word text : List Char) : Option (List Char) :=
  if word.isPrefixOf text then some (text.drop word.length) else none

/-- What is at the front of a text. -/
inductive Scanned where
  | finished
  | broken
  | token (token : Token) (rest : List Char)

/-- The token that begins with a character that is no space. -/
def tokenAt (c : Char) (rest : List Char) : Scanned :=
  match mark? c with
  | some mark => .token (.mark mark) rest
  | none =>
    if c == '"' then
      match pieces? rest with
      | some (pieces, rest) => .token (.text ((denoted? pieces).map String.ofList)) rest
      | none => .broken
    else if c == 't' then
      match afterWord? ['r', 'u', 'e'] rest with
      | some rest => .token (.bool true) rest
      | none => .broken
    else if c == 'f' then
      match afterWord? ['a', 'l', 's', 'e'] rest with
      | some rest => .token (.bool false) rest
      | none => .broken
    else if c == 'n' then
      match afterWord? ['u', 'l', 'l'] rest with
      | some rest => .token .null rest
      | none => .broken
    else
      match Numeral.scan? (c :: rest) with
      | some (n, rest) => .token (.number n) rest
      | none => .broken

/-- The token behind the space at the front of a text. -/
def next : List Char → Scanned
  | [] => .finished
  | c :: rest => if isSpace c then next rest else tokenAt c rest

/-! ## Every token takes something away -/

theorem length_of_pieces? : ∀ {text rest : List Char} {pieces : List Piece},
    pieces? text = some (pieces, rest) → rest.length < text.length
  | [], _, _, h => by simp [pieces?] at h
  | c :: text, rest, pieces, h => by
    unfold pieces? at h
    split at h
    · simp only [Option.some.injEq, Prod.mk.injEq] at h; simp [h.2]
    · split at h
      · split at h
        · simp at h
        · split at h
          · split at h
            · split at h
              · rename_i hp
                simp only [Option.some.injEq, Prod.mk.injEq] at h
                have := length_of_pieces? hp
                simp only [List.length_cons, ← h.2]; omega
              · simp at h
            · simp at h
          · split at h
            · rename_i hp
              simp only [Option.some.injEq, Prod.mk.injEq] at h
              have := length_of_pieces? hp
              simp only [List.length_cons, ← h.2]; omega
            · simp at h
      · split at h
        · simp at h
        · split at h
          · rename_i hp
            simp only [Option.some.injEq, Prod.mk.injEq] at h
            have := length_of_pieces? hp
            simp only [List.length_cons, ← h.2]; omega
          · simp at h

theorem length_spanDigits : ∀ text : List Char, (spanDigits text).2.length ≤ text.length
  | [] => Nat.le_refl _
  | c :: rest => by
    unfold spanDigits
    split
    · have := length_spanDigits rest; simp only [List.length_cons]; omega
    · exact Nat.le_refl _

namespace Numeral

theorem length_of_scanWhole? {text rest whole : List Char} (h : scanWhole? text = some (whole, rest)) :
    rest.length < text.length := by
  unfold scanWhole? at h
  split at h
  · simp at h
  · rename_i c tail
    split at h
    · simp only [Option.some.injEq, Prod.mk.injEq] at h; simp [h.2]
    · split at h
      · simp only [Option.some.injEq, Prod.mk.injEq] at h
        have := length_spanDigits tail
        simp only [List.length_cons, ← h.2]; omega
      · simp at h

theorem length_of_scanDigits? {text rest digits : List Char} (h : scanDigits? text = some (digits, rest)) :
    rest.length ≤ text.length := by
  unfold scanDigits? at h
  split at h
  · simp at h
  · simp only [Option.some.injEq] at h
    have := length_spanDigits text
    rw [h] at this; exact this

theorem length_of_scanFraction? {text rest : List Char} {fraction : Option (List Char)}
    (h : scanFraction? text = some (fraction, rest)) : rest.length ≤ text.length := by
  unfold scanFraction? at h
  split at h
  · simp only [Option.map_eq_some_iff, Prod.exists, Prod.mk.injEq] at h
    obtain ⟨digits, rest', hd, -, rfl⟩ := h
    have := length_of_scanDigits? hd
    simp only [List.length_cons]; omega
  · simp only [Option.some.injEq, Prod.mk.injEq] at h; simp [h.2]

theorem length_scanSign (text : List Char) : (scanSign text).2.length ≤ text.length := by
  unfold scanSign; split <;> simp

theorem length_scanMinus (text : List Char) : (scanMinus text).2.length ≤ text.length := by
  unfold scanMinus; split <;> simp

theorem length_of_scanExponent? {text rest : List Char} {exponent : Option (Bool × List Char)}
    (h : scanExponent? text = some (exponent, rest)) : rest.length ≤ text.length := by
  unfold scanExponent? at h
  split at h
  · simp only [Option.some.injEq, Prod.mk.injEq] at h; simp [← h.2]
  · rename_i c tail
    split at h
    · simp only [Option.map_eq_some_iff, Prod.exists, Prod.mk.injEq] at h
      obtain ⟨digits, rest', hd, -, rfl⟩ := h
      have := length_of_scanDigits? hd
      have := length_scanSign tail
      simp only [List.length_cons]; omega
    · simp only [Option.some.injEq, Prod.mk.injEq] at h; simp [← h.2]

theorem length_of_scan? {text rest : List Char} {n : Numeral} (h : scan? text = some (n, rest)) :
    rest.length < text.length := by
  simp only [scan?, Option.bind_eq_bind, Option.bind_eq_some_iff, Prod.exists, Option.pure_def, Option.some.injEq,
    Prod.mk.injEq] at h
  obtain ⟨whole, r₁, h₁, fraction, r₂, h₂, exponent, r₃, h₃, -, rfl⟩ := h
  have := length_of_scanWhole? h₁
  have := length_of_scanFraction? h₂
  have := length_of_scanExponent? h₃
  have := length_scanMinus text
  omega

end Numeral

theorem length_of_afterWord? {word text rest : List Char} (h : afterWord? word text = some rest) :
    rest.length ≤ text.length := by
  unfold afterWord? at h
  split at h
  · simp only [Option.some.injEq] at h
    rw [← h, List.length_drop]; omega
  · simp at h

theorem length_of_tokenAt {c : Char} {text rest : List Char} {token : Token}
    (h : tokenAt c text = .token token rest) : rest.length ≤ text.length := by
  unfold tokenAt at h
  split at h
  · simp only [Scanned.token.injEq] at h; simp [h.2]
  · split at h
    · split at h
      · rename_i hp
        simp only [Scanned.token.injEq] at h
        have := length_of_pieces? hp
        rw [← h.2]; omega
      · simp at h
    · split at h
      · split at h
        · rename_i hw
          simp only [Scanned.token.injEq] at h
          rw [← h.2]; exact length_of_afterWord? hw
        · simp at h
      · split at h
        · split at h
          · rename_i hw
            simp only [Scanned.token.injEq] at h
            rw [← h.2]; exact length_of_afterWord? hw
          · simp at h
        · split at h
          · split at h
            · rename_i hw
              simp only [Scanned.token.injEq] at h
              rw [← h.2]; exact length_of_afterWord? hw
            · simp at h
          · split at h
            · rename_i hn
              simp only [Scanned.token.injEq] at h
              have := Numeral.length_of_scan? hn
              simp only [List.length_cons] at this
              rw [← h.2]; omega
            · simp at h

theorem length_of_next : ∀ {text rest : List Char} {token : Token},
    next text = .token token rest → rest.length < text.length
  | [], _, _, h => by simp [next] at h
  | c :: text, rest, token, h => by
    unfold next at h
    split at h
    · have := length_of_next h
      simp only [List.length_cons]; omega
    · have := length_of_tokenAt h
      simp only [List.length_cons]; omega

end Json
end DriverSurvey
