import DriverSurvey.Text.Blank
/-!
# Words — a text is its words and the white space around them

A `Layout` is a text taken apart: white space, a name, white space, and so on, with white space at both ends.  Every
text has one (`exists_layout`), and the names in it are the words of the text whatever the layout (`words_text`), so
there is no other way to cut it.  To put names behind one another and cut the result again is to cut each of them
(`words_spaced`).
-/
namespace DriverSurvey

/-- A name that can stand in a list of names: it is not empty, and there is no white space in it. -/
def IsWord (name : String) : Prop :=
  name ≠ "" ∧ ∀ c ∈ name.toList, isBlank c = false

instance (name : String) : Decidable (IsWord name) :=
  decidable_of_iff (name ≠ "" ∧ name.toList.all (fun c => !isBlank c) = true) (by simp [IsWord])

/-- A text taken apart into names and white space. -/
structure Layout where
  /-- The white space in front of the first name. -/
  lead : String
  /-- The names, each with the white space behind it. -/
  entries : List (String × String)
  lead_blank : isBlankText lead = true
  isWord : ∀ entry ∈ entries, IsWord entry.1
  gap_blank : ∀ entry ∈ entries, isBlankText entry.2 = true
  /-- Behind the last name alone there may be nothing. -/
  gap_ne_empty : ∀ entry ∈ entries.dropLast, entry.2 ≠ ""

namespace Layout

/-- The text that was taken apart. -/
def text (layout : Layout) : String :=
  layout.lead ++ String.join (layout.entries.map fun entry => entry.1 ++ entry.2)

/-- The names in a text, in order. -/
def names (layout : Layout) : List String :=
  layout.entries.map Prod.fst

end Layout

/-! ## White space in front, behind and between -/

theorem wordsOf_blank_append : ∀ {gap : List Char}, (∀ c ∈ gap, isBlank c = true) → ∀ back : List Char,
    wordsOf (gap ++ back) = wordsOf back
  | [], _, _ => rfl
  | c :: gap, h, back => by
    rw [List.cons_append, wordsOf, if_pos (h c List.mem_cons_self)]
    exact wordsOf_blank_append (fun c hc => h c (List.mem_cons_of_mem _ hc)) back

theorem wordsOf_ne_nil {text : List Char} (h : inWord text = true) : wordsOf text ≠ [] := by
  cases text with
  | nil => cases h
  | cons c rest =>
    have hc : isBlank c = false := by simpa [inWord] using h
    rw [wordsOf, hc, if_neg Bool.false_ne_true]
    cases inWord rest with
    | false => exact List.cons_ne_nil _ _
    | true => cases wordsOf rest <;> exact List.cons_ne_nil _ _

theorem extendWord_append (c : Char) (more : List (List Char)) : ∀ {first : List (List Char)}, first ≠ [] →
    extendWord c (first ++ more) = extendWord c first ++ more
  | [], h => absurd rfl h
  | _ :: _, _ => rfl

/-- **No word goes across white space.** -/
theorem wordsOf_append_cons {c : Char} (hc : isBlank c = true) (back : List Char) : ∀ front : List Char,
    wordsOf (front ++ c :: back) = wordsOf front ++ wordsOf back
  | [] => by
    rw [List.nil_append, wordsOf.eq_2, if_pos hc]
    rfl
  | first :: front => by
    have hfront : inWord (front ++ c :: back) = inWord front := by
      cases front with
      | nil => exact congrArg not hc
      | cons => rfl
    rw [List.cons_append, wordsOf, wordsOf, hfront, wordsOf_append_cons hc back front]
    cases hfirst : isBlank first with
    | true => rfl
    | false =>
      simp only [Bool.false_eq_true, ↓reduceIte]
      by_cases hword : inWord front = true
      · rw [if_pos hword, if_pos hword]
        exact extendWord_append first _ (wordsOf_ne_nil hword)
      · rw [if_neg hword, if_neg hword, List.cons_append]

theorem wordsOf_word : ∀ {word : List Char}, word ≠ [] → (∀ c ∈ word, isBlank c = false) → wordsOf word = [word]
  | [], h, _ => absurd rfl h
  | [c], _, h => by rw [wordsOf, h c List.mem_cons_self]; rfl
  | c :: d :: rest, _, h => by
    have hrest : ∀ e ∈ d :: rest, isBlank e = false := fun e he => h e (List.mem_cons_of_mem _ he)
    have hword : inWord (d :: rest) = true := by rw [inWord, hrest d List.mem_cons_self]; rfl
    rw [wordsOf, h c List.mem_cons_self, if_neg Bool.false_ne_true, if_pos hword,
      wordsOf_word (List.cons_ne_nil _ _) hrest]
    rfl

/-- **A word ends where white space or the text's end comes behind it.** -/
theorem wordsOf_word_append {word gap back : List Char} (hne : word ≠ []) (hword : ∀ c ∈ word, isBlank c = false)
    (hgap : ∀ c ∈ gap, isBlank c = true) (hend : gap = [] → back = []) :
    wordsOf (word ++ gap ++ back) = word :: wordsOf back := by
  cases gap with
  | nil =>
    rw [hend rfl, List.append_nil, List.append_nil]
    exact wordsOf_word hne hword
  | cons c gap =>
    have hrest : ∀ c ∈ gap, isBlank c = true := fun c hc => hgap c (List.mem_cons_of_mem _ hc)
    rw [List.append_assoc, List.cons_append, wordsOf_append_cons (hgap c List.mem_cons_self),
      wordsOf_word hne hword, wordsOf_blank_append hrest, List.singleton_append]

/-! ## Layouts -/

theorem forall_mem_dropLast_cons {α : Type} {P : α → Prop} {first : α} : ∀ {rest : List α},
    (∀ x ∈ (first :: rest).dropLast, P x) ↔ (rest ≠ [] → P first) ∧ ∀ x ∈ rest.dropLast, P x
  | [] => by simp
  | second :: rest => by
    rw [List.dropLast_cons_of_ne_nil (List.cons_ne_nil _ _), List.forall_mem_cons]
    simp

theorem wordsOf_entries : ∀ {entries : List (String × String)}, (∀ entry ∈ entries, IsWord entry.1) →
    (∀ entry ∈ entries, isBlankText entry.2 = true) → (∀ entry ∈ entries.dropLast, entry.2 ≠ "") →
      wordsOf (entries.flatMap fun entry => entry.1.toList ++ entry.2.toList) =
        entries.map fun entry => entry.1.toList
  | [], _, _, _ => rfl
  | (name, gap) :: rest, hwords, hblank, hgaps => by
    obtain ⟨⟨hne, hname⟩, hrest⟩ := List.forall_mem_cons.1 hwords
    obtain ⟨hgap, hblank⟩ := List.forall_mem_cons.1 hblank
    obtain ⟨hlast, hgaps⟩ := forall_mem_dropLast_cons.1 hgaps
    have hend : gap.toList = [] → rest.flatMap (fun entry => entry.1.toList ++ entry.2.toList) = [] := by
      intro hnone
      have hrest : rest = [] := Classical.byContradiction fun h => hlast h (String.toList_eq_nil_iff.1 hnone)
      rw [hrest, List.flatMap_nil]
    rw [List.flatMap_cons, List.map_cons,
      wordsOf_word_append (mt String.toList_eq_nil_iff.1 hne) hname (isBlankText_iff.1 hgap) hend,
      wordsOf_entries hrest hblank hgaps]

namespace Layout

theorem toList_text (layout : Layout) : layout.text.toList =
    layout.lead.toList ++ layout.entries.flatMap fun entry => entry.1.toList ++ entry.2.toList := by
  rw [text, String.toList_append, String.toList_join, List.flatMap_map]
  simp only [String.toList_append]

/-- **The names in a text are its words**, however it is taken apart. -/
theorem words_text (layout : Layout) : words layout.text = layout.names := by
  rw [words, toList_text, wordsOf_blank_append (isBlankText_iff.1 layout.lead_blank),
    wordsOf_entries layout.isWord layout.gap_blank layout.gap_ne_empty, List.map_map, names]
  exact List.map_congr_left fun entry _ => String.ofList_toList

/-- White space comes in front. -/
def indent (layout : Layout) {c : Char} (h : isBlank c = true) : Layout :=
  { layout with
    lead := String.singleton c ++ layout.lead
    lead_blank := by
      rw [isBlankText_iff, String.toList_append, String.toList_singleton]
      exact List.forall_mem_cons.2 ⟨h, isBlankText_iff.1 layout.lead_blank⟩ }

/-- A name of one character comes in front.  What there was behind it now has to stand apart from it. -/
def prepend (layout : Layout) {c : Char} (h : isBlank c = false) (hlead : layout.entries ≠ [] → layout.lead ≠ "") :
    Layout where
  lead := ""
  entries := (String.singleton c, layout.lead) :: layout.entries
  lead_blank := rfl
  isWord := List.forall_mem_cons.2 ⟨⟨by simp, by simpa using h⟩, layout.isWord⟩
  gap_blank := List.forall_mem_cons.2 ⟨layout.lead_blank, layout.gap_blank⟩
  gap_ne_empty := forall_mem_dropLast_cons.2 ⟨hlead, layout.gap_ne_empty⟩

/-- A character comes in front of the first name. -/
def extend (layout : Layout) {c : Char} (h : isBlank c = false) {name gap : String} {rest : List (String × String)}
    (hentries : layout.entries = (name, gap) :: rest) : Layout where
  lead := ""
  entries := (String.singleton c ++ name, gap) :: rest
  lead_blank := rfl
  isWord := by
    obtain ⟨⟨-, hname⟩, hrest⟩ := List.forall_mem_cons.1 (hentries ▸ layout.isWord)
    refine List.forall_mem_cons.2 ⟨⟨by simp, ?_⟩, hrest⟩
    rw [String.toList_append, String.toList_singleton]
    exact List.forall_mem_cons.2 ⟨h, hname⟩
  gap_blank := List.forall_mem_cons.2 (List.forall_mem_cons.1 (hentries ▸ layout.gap_blank))
  gap_ne_empty := forall_mem_dropLast_cons.2 (forall_mem_dropLast_cons.1 (hentries ▸ layout.gap_ne_empty))

end Layout

/-- **Every text can be taken apart.** -/
theorem exists_layout (text : String) : ∃ layout : Layout, layout.text = text := by
  suffices h : ∀ chars : List Char, ∃ layout : Layout, layout.text.toList = chars by
    obtain ⟨layout, hlayout⟩ := h text.toList
    exact ⟨layout, String.toList_inj.1 hlayout⟩
  intro chars
  induction chars with
  | nil => exact ⟨⟨"", [], rfl, by simp, by simp, by simp⟩, rfl⟩
  | cons c rest ih =>
    obtain ⟨layout, rfl⟩ := ih
    cases hc : isBlank c with
    | true => exact ⟨layout.indent hc, by simp [Layout.toList_text, Layout.indent]⟩
    | false =>
      by_cases hlead : layout.entries ≠ [] → layout.lead ≠ ""
      · exact ⟨layout.prepend hc hlead, by simp [Layout.toList_text, Layout.prepend]⟩
      · -- the text begins with a name, which grows by the character
        obtain ⟨hne, hlead⟩ := Classical.not_imp.1 hlead
        obtain ⟨⟨name, gap⟩, others, hentries⟩ := List.exists_cons_of_ne_nil hne
        refine ⟨layout.extend hc hentries, ?_⟩
        simp [Layout.toList_text, Layout.extend, hentries, Classical.not_not.1 hlead]

/-- **The words of a text are the names in it, and nothing else is.** -/
theorem words_eq_iff {text : String} {names : List String} :
    words text = names ↔ ∃ layout : Layout, layout.text = text ∧ layout.names = names := by
  constructor
  · rintro rfl
    obtain ⟨layout, rfl⟩ := exists_layout text
    exact ⟨layout, rfl, layout.words_text.symm⟩
  · rintro ⟨layout, rfl, rfl⟩
    exact layout.words_text

theorem isWord_of_mem_words {text name : String} (h : name ∈ words text) : IsWord name := by
  obtain ⟨layout, -, hnames⟩ := words_eq_iff.1 (rfl : words text = words text)
  rw [← hnames, Layout.names, List.mem_map] at h
  obtain ⟨entry, hentry, rfl⟩ := h
  exact layout.isWord entry hentry

/-! ## Names one behind the other -/

theorem words_of_isWord {name : String} (h : IsWord name) : words name = [name] := by
  rw [words, wordsOf_word (mt String.toList_eq_nil_iff.1 h.1) h.2, List.map_singleton, String.ofList_toList]

/-- **To cut names that stand one behind the other is to cut each of them.** -/
theorem words_spaced : ∀ names : List String, words (spaced names) = names.flatMap words
  | [] => rfl
  | name :: rest => by
    have hspace : isBlank ' ' = true := by decide
    rw [words, toList_spaced_cons, wordsOf_append_cons hspace, List.map_append, List.flatMap_cons, ← words_spaced rest]
    rfl

theorem words_spaced_eq_self : ∀ {names : List String}, (∀ name ∈ names, IsWord name) → words (spaced names) = names
  | [], _ => rfl
  | name :: rest, h => by
    obtain ⟨hname, hrest⟩ := List.forall_mem_cons.1 h
    have ih := words_spaced_eq_self hrest
    rw [words_spaced] at ih ⊢
    rw [List.flatMap_cons, words_of_isWord hname, ih, List.singleton_append]

/-- **Cutting a text is exact, and undoes putting names behind one another.**  The words of a text are the names in it
whenever it is taken apart into names and white space, and no other list is.  Names one behind the other are cut one by
one, and given back as they were exactly if each of them is a word; so to cut, join and cut again is to cut once. -/
theorem words_of_layout (text : String) (names : List String) :
    (words text = names ↔ ∃ layout : Layout, layout.text = text ∧ layout.names = names) ∧
      words (spaced names) = names.flatMap words ∧
      (words (spaced names) = names ↔ ∀ name ∈ names, IsWord name) ∧
      words (spaced (words text)) = words text := by
  refine ⟨words_eq_iff, words_spaced names, ⟨fun h name hname => ?_, words_spaced_eq_self⟩,
    words_spaced_eq_self fun name hname => isWord_of_mem_words hname⟩
  rw [← h] at hname
  exact isWord_of_mem_words hname

end DriverSurvey
