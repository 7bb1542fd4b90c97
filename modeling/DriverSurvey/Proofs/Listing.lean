import Mathlib.Data.List.ReduceOption
import DriverSurvey.Proofs.Encoding
import DriverSurvey.Proofs.Routing
import DriverSurvey.Proofs.Words
/-!
# Listing — the names a driver advertises, in one text or by index

An `Advertisement` is all that a driver says of its extensions.  Which names are read, and by which calls, is settled
by it alone, whatever else there is to the driver: by the text if it is not empty (`readExtensions_of_text`), and by the
indices below the count if it is (`readExtensions_of_no_text`).
-/
namespace DriverSurvey

open Program

/-- What a driver says of its extensions. -/
structure Advertisement where
  /-- All names in one text. -/
  text : Option String
  /-- How many names there are by index. -/
  count : Int32
  /-- Whether the entry point for names by index can be looked up. -/
  served : Bool
  /-- A name by its index, as octets that may end at a zero octet. -/
  octets : UInt32 → Option (List UInt8)

namespace Advertisement

/-- The reply is that of the advertisement; of calls about anything else it says nothing. -/
def Gives (a : Advertisement) : Event Calls → Prop
  | ⟨.text token, reply⟩ => token = Gl.extensions → reply = a.text
  | ⟨.integers token room, reply⟩ => token = Gl.extensionCount → 0 < room → reply.headD 0 = a.count
  | ⟨.entryPoint entry, reply⟩ => entry = indexedTextEntry → reply = a.served
  | ⟨.indexedText token index, reply⟩ => token = Gl.extensions → reply = (a.octets index).map terminatedText
  | _ => True

/-- The name at an index. -/
def name (a : Advertisement) (index : Nat) : Option String :=
  (a.octets (UInt32.ofNat index)).map terminatedText

/-- The indices that are asked for. -/
def indices (a : Advertisement) : List Nat :=
  List.range (if a.served = true ∧ 0 < a.count then a.count.toInt.toNat else 0)

theorem indices_of_served {a : Advertisement} (h : a.served = true) : a.indices = List.range a.count.toInt.toNat := by
  unfold indices
  by_cases hcount : 0 < a.count
  · rw [if_pos ⟨h, hcount⟩]
  · have hnone : a.count.toInt ≤ 0 := Int.not_lt.1 fun hpositive => hcount (Int32.lt_iff_toInt_lt.2 hpositive)
    rw [if_neg fun hboth => hcount hboth.2, Int.toNat_of_nonpos hnone]

theorem indices_of_unserved {a : Advertisement} (h : ¬a.served = true) : a.indices = [] := by
  rw [indices, if_neg fun hboth => h hboth.1, List.range_zero]

end Advertisement

/-- The call for a name by index. -/
def nameRequest (index : Nat) : Request :=
  .indexedText Gl.extensions (UInt32.ofNat index)

/-! ## What is read -/

section
variable {a : Advertisement} {es : List (Event Calls)} {names : List String}

theorem readIndexed_listed : ∀ {count index : Nat} {es : List (Event Calls)} {names : List String},
    (readIndexed index count).Trace es names → (∀ e ∈ es, a.Gives e) →
      names = (List.range' index count).filterMap a.name ∧
        es.map (·.request) = (List.range' index count).map nameRequest
  | 0, _, _, _, ⟨rfl, rfl⟩, _ => ⟨rfl, rfl⟩
  | count + 1, index, _, names, ⟨reply, rest, rfl, ht⟩, h => by
    obtain ⟨hreply, hrest⟩ := List.forall_mem_cons.1 h
    have hname : reply = a.name index := hreply rfl
    rw [List.range'_succ, List.filterMap_cons, ← hname, List.map_cons, List.map_cons]
    cases reply with
    | none =>
      obtain ⟨hnames, hcalls⟩ := readIndexed_listed ht hrest
      exact ⟨hnames, congrArg _ hcalls⟩
    | some name =>
      -- the other names are read before this one is put in front of them
      obtain ⟨es, others, _, hread, ⟨rfl, rfl⟩, rfl⟩ :=
        (trace_bind (fun others => pure (name :: others)) (readIndexed (index + 1) count) rest names).1 ht
      obtain ⟨hnames, hcalls⟩ := readIndexed_listed hread fun e he => hrest e (List.mem_append_left [] he)
      rw [List.append_nil]
      exact ⟨congrArg _ hnames, congrArg _ hcalls⟩

theorem headD_stored (values : List Int32) : (stored values [0]).headD 0 = values.headD 0 := by
  cases values <;> rfl

/-- **Names are asked for by index up to the count**, if they can be. -/
theorem readIndexedExtensions_listed (ht : readIndexedExtensions.Trace es names) (h : ∀ e ∈ es, a.Gives e) :
    names = a.indices.filterMap a.name ∧ es.map (·.request) =
      .integers Gl.extensionCount 1 :: .entryPoint indexedTextEntry :: a.indices.map nameRequest := by
  obtain ⟨values, _, rfl, found, es, rfl, ht⟩ := ht
  obtain ⟨hvalues, h⟩ := List.forall_mem_cons.1 h
  obtain ⟨hfound, h⟩ := List.forall_mem_cons.1 h
  have hcount : (stored values [0]).headD 0 = a.count := (headD_stored values).trans (hvalues rfl Nat.one_pos)
  have hserved : found = a.served := hfound rfl
  have hread : (if found = true then readIndexed 0 ((stored values [0]).headD 0).toInt.toNat else pure []).Trace es
      names := ht
  rw [hcount, hserved] at hread
  by_cases hs : a.served = true
  · rw [if_pos hs] at hread
    obtain ⟨hnames, hcalls⟩ := readIndexed_listed hread h
    rw [a.indices_of_served hs, List.range_eq_range']
    exact ⟨hnames, congrArg (_ :: _ :: ·) hcalls⟩
  · rw [if_neg hs] at hread
    obtain ⟨rfl, rfl⟩ := hread
    rw [a.indices_of_unserved hs]
    exact ⟨rfl, rfl⟩

/-- **Where the text is empty, the names are those that are served by index.** -/
theorem readExtensions_of_no_text (ht : readExtensions.Trace es names) (h : ∀ e ∈ es, a.Gives e)
    (htext : a.text = none ∨ a.text = some "") : names = a.indices.filterMap a.name ∧ es.map (·.request) =
      .text Gl.extensions :: .integers Gl.extensionCount 1 :: .entryPoint indexedTextEntry ::
        a.indices.map nameRequest := by
  obtain ⟨raw?, es, rfl, ht⟩ := ht
  obtain ⟨hraw, h⟩ := List.forall_mem_cons.1 h
  have hraw : raw? = a.text := hraw rfl
  have hread : readIndexedExtensions.Trace es names := by
    rcases htext with hnone | hempty
    · rw [hraw, hnone] at ht
      exact ht
    · rw [hraw, hempty] at ht
      exact ht
  obtain ⟨hnames, hcalls⟩ := readIndexedExtensions_listed hread h
  exact ⟨hnames, congrArg _ hcalls⟩

/-- **Where there is a text, the names are its words**, and nothing else is asked. -/
theorem readExtensions_of_text (ht : readExtensions.Trace es names) (h : ∀ e ∈ es, a.Gives e) {raw : String}
    (htext : a.text = some raw) (hraw : raw ≠ "") :
    names = words raw ∧ es.map (·.request) = [.text Gl.extensions] := by
  obtain ⟨raw?, es, rfl, ht⟩ := ht
  obtain ⟨hreply, h⟩ := List.forall_mem_cons.1 h
  have hreply : raw? = some raw := (hreply rfl).trans htext
  have hread : (if raw.isEmpty = true then readIndexedExtensions else pure (words raw)).Trace es names := by
    rw [hreply] at ht
    exact ht
  rw [if_neg (mt String.isEmpty_iff.1 hraw)] at hread
  obtain ⟨rfl, rfl⟩ := hread
  exact ⟨rfl, rfl⟩

end

/-! ## Two ways to advertise names -/

namespace Advertisement

/-- The names stand in the text, with white space between them and anywhere around them. -/
def Writes (a : Advertisement) (names : List String) : Prop :=
  ∃ layout : Layout, layout.names = names ∧ a.text = some layout.text

/-- The entries are served by index: at each one a name, or none. -/
structure Serves (a : Advertisement) (entries : List (Option String)) : Prop where
  text_empty : a.text = none ∨ a.text = some ""
  served : a.served = true
  length_lt : entries.length < Nat.pow 2 31
  count_eq : a.count = Int32.ofNat entries.length
  octets_eq (index : Nat) (h : index < entries.length) :
    a.octets (UInt32.ofNat index) = entries[index].map fun name => name.toUTF8.toList

/-- The names are served by index, with any number of entries between them that are none. -/
def Indexes (a : Advertisement) (names : List String) : Prop :=
  ∃ entries : List (Option String), entries.reduceOption = names ∧ a.Serves entries

end Advertisement

theorem filterMap_range {α : Type} {entries : List (Option α)} {f : Nat → Option α}
    (h : ∀ (index : Nat) (hindex : index < entries.length), f index = entries[index]) :
    (List.range entries.length).filterMap f = entries.reduceOption := by
  have hmap : (List.range entries.length).map f = entries :=
    List.ext_getElem (by simp) fun index _ hindex => by rw [List.getElem_map, List.getElem_range, h index hindex]
  conv => rhs; rw [← hmap]
  rw [List.reduceOption, List.filterMap_map, Function.id_comp]

namespace Advertisement

variable {a : Advertisement}

theorem Serves.indices_eq {entries : List (Option String)} (h : a.Serves entries) :
    a.indices = List.range entries.length := by
  have hcount : a.count.toInt = entries.length := by
    rw [h.count_eq]
    exact Int32.toInt_ofNat_of_lt h.length_lt
  rw [indices_of_served h.served, hcount, Int.toNat_natCast]

/-- **Each name comes back from its octets**, and an entry without one is passed over. -/
theorem Serves.filterMap_name {entries : List (Option String)} (h : a.Serves entries)
    (hzero : ∀ name ∈ entries.reduceOption, '\x00' ∉ name.toList) :
    a.indices.filterMap a.name = entries.reduceOption := by
  rw [h.indices_eq]
  refine filterMap_range fun index hindex => ?_
  rw [Advertisement.name, h.octets_eq index hindex, Option.map_map]
  cases hentry : entries[index] with
  | none => rfl
  | some name =>
    have hname : name ∈ entries.reduceOption := List.reduceOption_mem_iff.2 (hentry ▸ List.getElem_mem hindex)
    exact congrArg some (terminatedText_toUTF8 (hzero name hname))

end Advertisement

theorem Layout.text_ne_empty {layout : Layout} (h : layout.names ≠ []) : layout.text ≠ "" := by
  intro hempty
  have hwords : words layout.text = layout.names := layout.words_text
  rw [hempty] at hwords
  exact h hwords.symm

/-! ## Scripts -/

/-- What a script advertises. -/
def Script.advertisement (script : Script) : Advertisement where
  text := (script.text Gl.extensions).map fun octets => String.ofList (decodeLossy octets)
  count := (script.values Gl.extensionCount).headD 0
  served := script.resolves indexedTextEntry
  octets := script.indexedText

theorem headD_take {α : Type} {room : Nat} (h : 0 < room) (values : List α) (last : α) :
    (values.take room).headD last = values.headD last := by
  rw [List.headD_eq_head?_getD, List.headD_eq_head?_getD, List.head?_take, if_neg (Nat.ne_of_gt h)]

theorem gives_of_script (loaders : LoaderShelf) (d : DriverState) (q : Request) :
    d.script.advertisement.Gives ⟨q, (d.serve loaders q).1⟩ := by
  cases q with
  | text token => exact fun htoken => by rw [htoken]; rfl
  | integers token room => exact fun htoken hroom => by rw [htoken]; exact headD_take hroom _ 0
  | entryPoint entry => exact fun hentry => by rw [hentry]; rfl
  | indexedText token index => exact fun _ => rfl
  | _ => trivial

/-- **A scripted driver gives what its script advertises**, all along. -/
theorem gives_of_run (loaders : LoaderShelf) {α : Type} : ∀ (p : Program Calls α) (d : DriverState),
    ∀ e ∈ (p.run (DriverState.serve loaders) d).events, d.script.advertisement.Gives e
  | .done _, _, _, he => absurd he List.not_mem_nil
  | .call q next, d, e, he => by
    rcases List.mem_cons.1 he with rfl | he
    · exact gives_of_script loaders d q
    · rw [← serve_script q d]
      exact gives_of_run loaders (next _) _ e he

/-! ## Names in any way -/

/-- **The names of a driver are read exactly, whichever way it advertises them.**  Where there is no text, or an empty
one, they are the names at the indices below the count, in order, each asked for once; none where the entry point is
missing.  Where there is a text, they are its words, and nothing else is asked of the driver.  So names that are written
one behind the other with any white space, and the same names served by index among entries without a name, are read
alike. -/
theorem listed_of_advertisement {σ : Type} (serve : Server Calls σ) (state : σ) (a : Advertisement)
    (h : ∀ e ∈ (readExtensions.run serve state).events, a.Gives e) :
    let read := readExtensions.run serve state
    let calls := read.events.map (·.request)
    (a.text = none ∨ a.text = some "" →
        let indices := List.range (if a.served = true ∧ 0 < a.count then a.count.toInt.toNat else 0)
        read.value = indices.filterMap (fun index => (a.octets (UInt32.ofNat index)).map terminatedText) ∧
          calls = .text Gl.extensions :: .integers Gl.extensionCount 1 :: .entryPoint indexedTextEntry ::
            indices.map fun index => .indexedText Gl.extensions (UInt32.ofNat index)) ∧
      (∀ raw, a.text = some raw → raw ≠ "" → read.value = words raw ∧ calls = [.text Gl.extensions]) ∧
      ∀ names : List String, names ≠ [] → (∀ name ∈ names, IsWord name ∧ '\x00' ∉ name.toList) →
        a.Writes names ∨ a.Indexes names → read.value = names := by
  intro read calls
  have htrace := trace_run serve readExtensions state
  refine ⟨readExtensions_of_no_text htrace h, fun raw htext hraw => readExtensions_of_text htrace h htext hraw,
    fun names hnames hwords hways => ?_⟩
  rcases hways with ⟨layout, hlayout, htext⟩ | ⟨entries, hentries, hserves⟩
  · have hsome : layout.text ≠ "" := Layout.text_ne_empty (hlayout ▸ hnames)
    obtain ⟨hvalue, -⟩ := readExtensions_of_text htrace h htext hsome
    rw [hvalue, layout.words_text, hlayout]
  · obtain ⟨hvalue, -⟩ := readExtensions_of_no_text htrace h hserves.text_empty
    have hzero : ∀ name ∈ entries.reduceOption, '\x00' ∉ name.toList :=
      fun name hname => (hwords name (hentries ▸ hname)).2
    rw [hvalue, hserves.filterMap_name hzero, hentries]

/-- A driver that writes its names, with more white space than it takes. -/
def writing : DriverState where
  script := { texts := [(Gl.extensions, "\tGL_A  GL_B\nGL_A ".toUTF8.toList)] }

/-- A driver that serves the same names by index, and no name at some of the indices. -/
def indexing : DriverState where
  script := { indexed := [none, some "GL_A", some "GL_B", none, some "GL_A"].map (·.map (·.toUTF8.toList)) }

theorem listed_alike :
    let names := ["GL_A", "GL_B", "GL_A"]
    let read (d : DriverState) := readExtensions.run (DriverState.serve fun _ => none) d
    (names ≠ [] ∧ ∀ name ∈ names, IsWord name ∧ '\x00' ∉ name.toList) ∧
      writing.script.advertisement.Writes names ∧ indexing.script.advertisement.Indexes names ∧
      (read writing).value = names ∧ (read writing).events.length = 1 ∧
      (read indexing).value = names ∧ (read indexing).events.length = 8 := by
  intro names read
  have hwords : names ≠ [] ∧ ∀ name ∈ names, IsWord name ∧ '\x00' ∉ name.toList := by decide +kernel
  have hwrites : writing.script.advertisement.Writes names :=
    ⟨⟨"\t", [("GL_A", "  "), ("GL_B", "\n"), ("GL_A", " ")], by decide, by decide, by decide, by decide⟩, rfl,
      by decide +kernel⟩
  have hindexes : indexing.script.advertisement.Indexes names :=
    ⟨[none, some "GL_A", some "GL_B", none, some "GL_A"], rfl, .inl rfl, rfl, by decide, rfl, by decide +kernel⟩
  obtain ⟨-, hwritten, hnames⟩ := listed_of_advertisement (DriverState.serve fun _ => none) writing
    writing.script.advertisement (gives_of_run _ _ _)
  obtain ⟨hindexed, -, hnames'⟩ := listed_of_advertisement (DriverState.serve fun _ => none) indexing
    indexing.script.advertisement (gives_of_run _ _ _)
  obtain ⟨-, hcalls⟩ := hwritten _ (by decide +kernel : _ = some "\tGL_A  GL_B\nGL_A ") (by decide)
  obtain ⟨-, hcalls'⟩ := hindexed (.inl rfl)
  have hlength := congrArg List.length hcalls
  have hlength' := congrArg List.length hcalls'
  rw [List.length_map] at hlength hlength'
  exact ⟨hwords, hwrites, hindexes, hnames names hwords.1 hwords.2 (.inl hwrites), hlength,
    hnames' names hwords.1 hwords.2 (.inr hindexes), hlength'.trans (by decide +kernel)⟩

end DriverSurvey
