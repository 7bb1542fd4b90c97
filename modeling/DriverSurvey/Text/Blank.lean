/-!
# Blank — white space, and words between it

`isBlank` is the Unicode property White_Space.  `words` cuts a text into its maximal runs of other characters;
`spaced` puts names behind one another, a space after each.
-/
namespace DriverSurvey

/-- The code points with the property White_Space, as closed ranges. -/
def blankRanges : List (Nat × Nat) :=
  [(0x09, 0x0D), (0x20, 0x20), (0x85, 0x85), (0xA0, 0xA0), (0x1680, 0x1680), (0x2000, 0x200A),
   (0x2028, 0x2029), (0x202F, 0x202F), (0x205F, 0x205F), (0x3000, 0x3000)]

/-- Whether the character is white space. -/
def isBlank (c : Char) : Bool :=
  blankRanges.any (fun range => range.1 ≤ c.toNat && c.toNat ≤ range.2)

/-- Whether nothing but white space is in the text. -/
def isBlankText (text : String) : Bool :=
  text.toList.all isBlank

theorem isBlankText_iff {text : String} : isBlankText text = true ↔ ∀ c ∈ text.toList, isBlank c = true :=
  List.all_eq_true

/-- Whether a word goes on at the front of the text. -/
def inWord : List Char → Bool
  | [] => false
  | c :: _ => !isBlank c

/-- Put a character in front of the first word. -/
def extendWord (c : Char) : List (List Char) → List (List Char)
  | [] => [[c]]
  | word :: rest => (c :: word) :: rest

/-- The maximal runs of characters other than white space, in order. -/
def wordsOf : List Char → List (List Char)
  | [] => []
  | c :: rest =>
    if isBlank c then wordsOf rest
    else if inWord rest then extendWord c (wordsOf rest)
    else [c] :: wordsOf rest

/-- The words of a text. -/
def words (text : String) : List String :=
  (wordsOf text.toList).map String.ofList

/-- The names one behind the other, each followed by a space. -/
def spaced : List String → String
  | [] => ""
  | name :: rest => name ++ " " ++ spaced rest

theorem toList_spaced_cons (name : String) (rest : List String) :
    (spaced (name :: rest)).toList = name.toList ++ ' ' :: (spaced rest).toList := by
  simp [spaced]

/-- Whether the first text occurs in the second without a gap. -/
def occursIn (marker : List Char) : List Char → Bool
  | [] => marker.isEmpty
  | c :: rest => marker.isPrefixOf (c :: rest) || occursIn marker rest

theorem occursIn_iff (marker : List Char) : ∀ text : List Char, occursIn marker text = true ↔ marker <:+: text
  | [] => by rw [occursIn, List.isEmpty_iff, List.infix_nil]
  | c :: rest => by
    rw [occursIn, Bool.or_eq_true, List.isPrefixOf_iff_prefix, occursIn_iff marker rest, List.infix_cons_iff]

end DriverSurvey
