import Mathlib.Tactic.FinCases
import Mathlib.Tactic.IntervalCases
import DriverSurvey.Json.Tree
/-!
# Scanning — numerals and strings are read as they were written

A numeral in the form that JSON has for it is taken off the front of a text whole, if what stands behind it does not go
on with it (`scan?_text`).  A string in quotes is taken off whatever its characters, escaped or not, and denotes the
text that was written (`pieces?_escaped`).
-/
namespace DriverSurvey
namespace Json

/-! ## Digits -/

theorem decimal_cases {c : Char} (h : isDecimal c = true) :
    c ∈ ['0', '1', '2', '3', '4', '5', '6', '7', '8', '9'] := by
  have hrange : 48 ≤ c.toNat ∧ c.toNat ≤ 57 := by
    have hvalue : digitValue c < 10 := by simpa [isDecimal, isDigitOf] using h
    unfold digitValue at hvalue
    split at hvalue
    · rename_i hdigit
      rw [Bool.and_eq_true, decide_eq_true_eq, decide_eq_true_eq] at hdigit
      exact hdigit
    · split at hvalue
      · omega
      · split at hvalue <;> omega
  obtain ⟨hlow, hhigh⟩ := hrange
  have hc : c = Char.ofNat c.toNat := (Char.ofNat_toNat c).symm
  generalize c.toNat = n at hlow hhigh hc
  subst hc
  interval_cases n <;> decide

theorem isDecimal_digitChar {n : Nat} (h : n < 10) : isDecimal (digitChar n) = true := by
  interval_cases n <;> decide

theorem isDecimal_digitsOf (n : Nat) : ∀ c ∈ digitsOf 10 n, isDecimal c = true := by
  induction n using digitsOf.induct 10 with
  | case1 n h =>
    unfold digitsOf
    rw [dif_pos h]
    intro c hc
    rw [List.mem_singleton.1 hc]
    exact isDecimal_digitChar (by omega)
  | case2 n h ih =>
    unfold digitsOf
    rw [dif_neg h]
    intro c hc
    rcases List.mem_append.1 hc with hc | hc
    · exact ih c hc
    · rw [List.mem_singleton.1 hc]
      exact isDecimal_digitChar (Nat.mod_lt _ (by omega))

def noDigit : List Char → Bool
  | [] => true
  | c :: _ => !isDecimal c

theorem spanDigits_append : ∀ {digits rest : List Char}, (∀ c ∈ digits, isDecimal c = true) → noDigit rest = true →
    spanDigits (digits ++ rest) = (digits, rest)
  | [], [], _, _ => rfl
  | [], c :: rest, _, h => by
    have hc : isDecimal c = false := by simpa [noDigit] using h
    simp [spanDigits, hc]
  | c :: digits, rest, hdigits, h => by
    have hc : isDecimal c = true := hdigits c List.mem_cons_self
    have hrest := spanDigits_append (fun d hd => hdigits d (List.mem_cons_of_mem _ hd)) h
    simp [spanDigits, hc, hrest]

/-! ## Numerals -/

namespace Numeral

/-- Digits, one at least. -/
def IsDigits (digits : List Char) : Prop :=
  digits ≠ [] ∧ ∀ c ∈ digits, isDecimal c = true

/-- The numeral has a form in JSON: digits in all its parts, and no zero in front of another digit. -/
structure WellFormed (n : Numeral) : Prop where
  whole : IsDigits n.whole
  leading : n.whole.head? = some '0' → n.whole = ['0']
  fraction (digits : List Char) : n.fraction = some digits → IsDigits digits
  exponent (negative : Bool) (digits : List Char) : n.exponent = some (negative, digits) → IsDigits digits

/-- The text does not go on with a numeral. -/
def ends : List Char → Bool
  | [] => true
  | c :: _ => !(isDecimal c || c == '.' || c == 'e' || c == 'E')

theorem noDigit_of_ends : ∀ {rest : List Char}, ends rest = true → noDigit rest = true
  | [], _ => rfl
  | c :: rest, h => by
    simp only [ends, Bool.not_eq_true', Bool.or_eq_false_iff] at h
    simp [noDigit, h.1.1.1]

theorem scanDigits?_append {digits rest : List Char} (h : IsDigits digits) (hrest : noDigit rest = true) :
    scanDigits? (digits ++ rest) = some (digits, rest) := by
  unfold scanDigits?
  rw [spanDigits_append h.2 hrest, if_neg (by simpa using h.1)]

theorem scanMinus_append {n : Numeral} (h : IsDigits n.whole) (rest : List Char) :
    scanMinus ((if n.negative then ['-'] else []) ++ n.whole ++ rest) = (n.negative, n.whole ++ rest) := by
  cases hn : n.negative with
  | true => rfl
  | false =>
    obtain ⟨c, tail, hwhole⟩ := List.exists_cons_of_ne_nil h.1
    have hc : c ≠ '-' := by
      rintro rfl
      have hminus := h.2 '-' (by simp [hwhole])
      exact absurd hminus (by decide)
    simp [hwhole, scanMinus, hc]

theorem scanWhole?_append {n : Numeral} (h : n.WellFormed) {rest : List Char} (hrest : noDigit rest = true) :
    scanWhole? (n.whole ++ rest) = some (n.whole, rest) := by
  obtain ⟨c, tail, hwhole⟩ := List.exists_cons_of_ne_nil h.whole.1
  have hdigits := h.whole.2
  have hleading := h.leading
  rw [hwhole] at hdigits hleading ⊢
  by_cases hzero : c = '0'
  · subst hzero
    have htail : tail = [] := by simpa using hleading rfl
    subst htail
    rfl
  · have hc : isDecimal c = true := hdigits c List.mem_cons_self
    have hspan := spanDigits_append (fun d hd => hdigits d (List.mem_cons_of_mem _ hd)) hrest
    simp [scanWhole?, hzero, hc, hspan]

def fractionText : Option (List Char) → List Char
  | none => []
  | some digits => '.' :: digits

def exponentText : Option (Bool × List Char) → List Char
  | none => []
  | some (negative, digits) => 'e' :: ((if negative then ['-'] else []) ++ digits)

theorem text_eq (n : Numeral) : n.text =
    (if n.negative then ['-'] else []) ++ n.whole ++ (fractionText n.fraction ++ exponentText n.exponent) := by
  obtain ⟨negative, whole, fraction, exponent⟩ := n
  cases fraction <;> cases exponent <;> simp [text, fractionText, exponentText]

theorem scanFraction?_append {n : Numeral} (h : n.WellFormed) {rest : List Char} (hdigit : noDigit rest = true)
    (hpoint : rest.head? ≠ some '.') : scanFraction? (fractionText n.fraction ++ rest) = some (n.fraction, rest) := by
  cases hfraction : n.fraction with
  | none =>
    unfold scanFraction? fractionText
    split
    · rename_i heq
      rw [List.nil_append] at heq
      simp [heq] at hpoint
    · rfl
  | some digits =>
    show (scanDigits? (digits ++ rest)).map _ = _
    rw [scanDigits?_append (h.fraction digits hfraction) hdigit]
    rfl

theorem noDigit_fractionText (fraction : Option (List Char)) {rest : List Char} (h : noDigit rest = true) :
    noDigit (fractionText fraction ++ rest) = true := by
  cases fraction with
  | none => exact h
  | some digits => rfl

theorem exponentText_stops (exponent : Option (Bool × List Char)) {rest : List Char} (h : ends rest = true) :
    noDigit (exponentText exponent ++ rest) = true ∧ (exponentText exponent ++ rest).head? ≠ some '.' := by
  cases exponent with
  | some power => exact ⟨rfl, by simp [exponentText]⟩
  | none =>
    refine ⟨noDigit_of_ends h, ?_⟩
    rw [exponentText, List.nil_append]
    intro hpoint
    obtain ⟨tail, rfl⟩ := List.head?_eq_some_iff.1 hpoint
    exact absurd h (by simp [ends])

theorem scanSign_append {negative : Bool} {digits : List Char} (h : IsDigits digits) (rest : List Char) :
    scanSign ((if negative then ['-'] else []) ++ digits ++ rest) = (negative, digits ++ rest) := by
  cases negative with
  | true => rfl
  | false =>
    obtain ⟨c, tail, rfl⟩ := List.exists_cons_of_ne_nil h.1
    have hc : c ≠ '+' ∧ c ≠ '-' := by
      constructor <;> rintro rfl <;> exact absurd (h.2 _ List.mem_cons_self) (by decide)
    simp [scanSign, hc.1, hc.2]

theorem scanExponent?_append {n : Numeral} (h : n.WellFormed) {rest : List Char} (hrest : ends rest = true) :
    scanExponent? (exponentText n.exponent ++ rest) = some (n.exponent, rest) := by
  cases hexponent : n.exponent with
  | none =>
    cases rest with
    | nil => rfl
    | cons c rest =>
      simp only [ends, Bool.not_eq_true', Bool.or_eq_false_iff, beq_eq_false_iff_ne] at hrest
      simp [exponentText, scanExponent?, hrest.1.2, hrest.2]
  | some power =>
    obtain ⟨negative, digits⟩ := power
    have hdigits := h.exponent negative digits hexponent
    have hsign : scanSign ((if negative then ['-'] else []) ++ digits ++ rest) = (negative, digits ++ rest) :=
      scanSign_append hdigits rest
    have hspan := scanDigits?_append hdigits (noDigit_of_ends hrest)
    simp only [exponentText, List.cons_append, scanExponent?, hsign, hspan]
    rfl

/-- **A numeral is read as it was written**, if the text does not go on with it. -/
theorem scan?_text {n : Numeral} (h : n.WellFormed) {rest : List Char} (hrest : ends rest = true) :
    scan? (n.text ++ rest) = some (n, rest) := by
  have hexponent := scanExponent?_append h hrest
  obtain ⟨hdigit, hpoint⟩ := exponentText_stops n.exponent hrest
  have hfraction := scanFraction?_append h hdigit hpoint
  have hwhole := scanWhole?_append h (noDigit_fractionText n.fraction hdigit)
  have hminus := scanMinus_append h.whole (fractionText n.fraction ++ (exponentText n.exponent ++ rest))
  have htext : n.text ++ rest = (if n.negative then ['-'] else []) ++ n.whole ++
      (fractionText n.fraction ++ (exponentText n.exponent ++ rest)) := by
    rw [text_eq]
    simp
  unfold scan?
  rw [htext, hminus]
  simp only [hwhole, hfraction, hexponent, Option.bind_eq_bind, Option.bind_some]
  rfl

theorem digitsOf_ne_nil (n : Nat) : digitsOf 10 n ≠ [] := by
  unfold digitsOf
  split
  · exact List.cons_ne_nil _ _
  · exact List.append_ne_nil_of_right_ne_nil _ (List.cons_ne_nil _ _)

/-- **No number but zero begins with a zero.** -/
theorem head?_digitsOf (n : Nat) : (digitsOf 10 n).head? = some '0' → digitsOf 10 n = ['0'] := by
  induction n using digitsOf.induct 10 with
  | case1 n h =>
    unfold digitsOf
    rw [dif_pos h]
    intro hzero
    rw [Option.some.inj hzero]
  | case2 n h ih =>
    unfold digitsOf
    have hhead : (digitsOf 10 (n / 10) ++ [digitChar (n % 10)]).head? = (digitsOf 10 (n / 10)).head? := by
      obtain ⟨c, tail, hdigits⟩ := List.exists_cons_of_ne_nil (digitsOf_ne_nil (n / 10))
      rw [hdigits]
      rfl
    rw [dif_neg h, hhead]
    intro hzero
    -- the digits in front would be a zero, and the number one digit long
    have hspelled : spelled 10 (digitsOf 10 (n / 10)) = n / 10 := spelled_digitsOf (by omega) (by omega) _
    rw [ih hzero] at hspelled
    have hdiv : n / 10 = 0 := hspelled.symm
    omega

theorem wellFormed_ofNat (n : Nat) : (ofNat n).WellFormed where
  whole := ⟨digitsOf_ne_nil n, isDecimal_digitsOf n⟩
  leading := head?_digitsOf n
  fraction _ h := by cases h
  exponent _ _ h := by cases h

theorem isDigits_zero : IsDigits ['0'] := by
  refine ⟨List.cons_ne_nil _ _, fun c hc => ?_⟩
  rw [List.mem_singleton.1 hc]
  rfl

theorem wellFormed_zeroPointZero : zeroPointZero.WellFormed where
  whole := isDigits_zero
  leading _ := rfl
  fraction _ h := by
    cases h
    exact isDigits_zero
  exponent _ _ h := by cases h

/-- **A numeral of a whole number below a limit is read as that number.** -/
theorem toNatBelow?_ofNat {limit n : Nat} (h : n < limit) : (ofNat n).toNatBelow? limit = some n := by
  have hspelled : spelled 10 (digitsOf 10 n) = n := spelled_digitsOf (by omega) (by omega) n
  simp [toNatBelow?, ofNat, hspelled, h]

end Numeral

/-! ## Strings -/

theorem pieces?_quote (rest : List Char) : pieces? ('"' :: rest) = some ([], rest) := by
  unfold pieces?
  rfl

theorem pieces?_short {e c : Char} (hunit : e ≠ 'u') (h : shortEscape? e = some c) {rest after : List Char}
    {pieces : List Piece} (hrest : pieces? rest = some (pieces, after)) :
    pieces? ('\\' :: e :: rest) = some (.char c :: pieces, after) := by
  unfold pieces?
  simp [hunit, h, hrest]

theorem pieces?_unit {a b c d : Char} {n : Nat} (h : unit? a b c d = some n) {rest after : List Char}
    {pieces : List Piece} (hrest : pieces? rest = some (pieces, after)) :
    pieces? ('\\' :: 'u' :: a :: b :: c :: d :: rest) = some (.unit n :: pieces, after) := by
  unfold pieces?
  simp [h, hrest]

theorem pieces?_char {c : Char} (hquote : c ≠ '"') (hslash : c ≠ '\\') (hcontrol : 0x20 ≤ c.toNat)
    {rest after : List Char} {pieces : List Piece} (hrest : pieces? rest = some (pieces, after)) :
    pieces? (c :: rest) = some (.char c :: pieces, after) := by
  unfold pieces?
  simp [hquote, hslash, Nat.not_lt.2 hcontrol, hrest]

/-- A character is written by a letter behind a backslash, by its number, or as it is. -/
theorem escaped_cases (c : Char) :
    (∃ e, e ≠ 'u' ∧ shortEscape? e = some c ∧ escaped c = ['\\', e]) ∨
      (c.toNat < 0x20 ∧ escaped c = ['\\', 'u', '0', '0', digitChar (c.toNat / 16), digitChar (c.toNat % 16)]) ∨
      (c ≠ '"' ∧ c ≠ '\\' ∧ 0x20 ≤ c.toNat ∧ escaped c = [c]) := by
  by_cases hshort : c ∈ ['"', '\\', '\x08', '\x0C', '\n', '\r', '\t']
  · left
    fin_cases hshort <;> exact ⟨_, by decide, rfl, rfl⟩
  · right
    simp only [List.mem_cons, List.not_mem_nil, or_false, not_or] at hshort
    obtain ⟨hquote, hslash, hback, hfeed, hline, hreturn, htab⟩ := hshort
    have hescaped : escaped c = if c.toNat < 0x20 then
        ['\\', 'u', '0', '0', digitChar (c.toNat / 16), digitChar (c.toNat % 16)] else [c] := by
      simp [escaped, hquote, hslash, hback, hfeed, hline, hreturn, htab]
    by_cases hcontrol : c.toNat < 0x20
    · exact .inl ⟨hcontrol, by rw [hescaped, if_pos hcontrol]⟩
    · exact .inr ⟨hquote, hslash, Nat.not_lt.1 hcontrol, by rw [hescaped, if_neg hcontrol]⟩

theorem unit?_control {n : Nat} (h : n < 0x20) : unit? '0' '0' (digitChar (n / 16)) (digitChar (n % 16)) = some n := by
  interval_cases n <;> rfl

/-- A unit below the surrogates denotes its character. -/
theorem denoted?_control {c : Char} (h : c.toNat < 0x20) {pieces : List Piece} {text : List Char}
    (hpieces : denoted? pieces = some text) : denoted? (.unit c.toNat :: pieces) = some (c :: text) := by
  have hhigh : isHighSurrogate c.toNat = false := by simp [isHighSurrogate]; omega
  have hlow : isLowSurrogate c.toNat = false := by simp [isLowSurrogate]; omega
  unfold denoted?
  rw [hhigh, hlow, hpieces, Char.ofNat_toNat]
  rfl

/-- **A string is taken off up to its last quote**, and its pieces denote the text that was written. -/
theorem pieces?_escaped : ∀ (text rest : List Char), ∃ pieces,
    pieces? (text.flatMap escaped ++ '"' :: rest) = some (pieces, rest) ∧ denoted? pieces = some text
  | [], rest => ⟨[], pieces?_quote rest, rfl⟩
  | c :: text, rest => by
    obtain ⟨pieces, hpieces, hdenoted⟩ := pieces?_escaped text rest
    have hchar : denoted? (.char c :: pieces) = some (c :: text) := by simp [denoted?, hdenoted]
    rw [List.flatMap_cons, List.append_assoc]
    rcases escaped_cases c with ⟨e, hunit, hshort, hescaped⟩ | ⟨hcontrol, hescaped⟩ | ⟨hquote, hslash, hplain, hescaped⟩
    · rw [hescaped]
      exact ⟨_, pieces?_short hunit hshort hpieces, hchar⟩
    · rw [hescaped]
      exact ⟨_, pieces?_unit (unit?_control hcontrol) hpieces, denoted?_control hcontrol hdenoted⟩
    · rw [hescaped]
      exact ⟨_, pieces?_char hquote hslash hplain hpieces, hchar⟩

end Json
end DriverSurvey
