import DriverSurvey.Proofs.Ranges
import DriverSurvey.Settings.Document
/-!
# Completion — which documents are settings, and which settings they are

`Spells` says what settings a document spells: what it has is taken as it stands, what it lacks is the default.  A
document of which every value is of the kind that its key asks for spells settings, and no other does; they are accepted
where every list of libraries is usable (`ofToml_iff`).
-/
namespace DriverSurvey
namespace Settings

open Toml (Value Members AllSized parse_sized)

/-! ## What a document spells -/

/-- The value can stand for a section: it is a table, or a list of the section's fields. -/
inductive IsSection : Value → Prop where
  | table (origin : Toml.Origin) (members : Members) : IsSection (.table origin members)
  | array (items : List Value) : IsSection (.array items)
  | tables (items : List Members) : IsSection (.tables items)

/-- What a section has for a field: in a table what stands under its name, in a list what stands in its place. -/
def field? (place : Nat) (name : String) : Value → Option Value
  | .table _ members => members.lookup name
  | .array items => items[place]?
  | .tables items => items[place]?.map (.table .header)
  | _ => none

/-- A field that is there spells what it is; one that is not is the default. -/
def Completes {α : Type} (standard : α) (spells : Value → α → Prop) : Option Value → α → Prop
  | none, a => a = standard
  | some value, a => spells value a

def SpellsTexts (value : Value) (names : List String) : Prop :=
  value = .array (names.map .text)

def SpellsFlag (value : Value) (flag : Bool) : Prop :=
  value = .boolean flag

def SpellsCount (value : Value) (count : Nat) : Prop :=
  value = .integer count ∧ count < Nat.pow 2 63

structure SpellsLibraries (value : Value) (libraries : LibraryNames) : Prop where
  isSection : IsSection value
  egl : Completes defaultEglNames SpellsTexts (field? 0 "egl" value) libraries.egl
  gles : Completes defaultGlesNames SpellsTexts (field? 1 "gles" value) libraries.gles
  vulkan : Completes defaultVulkanNames SpellsTexts (field? 2 "vulkan" value) libraries.vulkan

structure SpellsSnapshot (value : Value) (snapshot : SnapshotSettings) : Prop where
  isSection : IsSection value
  shuffleOrder : Completes true SpellsFlag (field? 0 "shuffle_order" value) snapshot.shuffleOrder
  runBenchmark : Completes true SpellsFlag (field? 1 "run_benchmark" value) snapshot.runBenchmark
  maxExtensions : Completes 15 SpellsCount (field? 2 "max_extensions" value) snapshot.maxExtensions

/-- The settings are what the document has, completed by the defaults: of each field on its own, and of each section. -/
structure Spells (members : Members) (settings : Settings) : Prop where
  libraries : Completes {} SpellsLibraries (members.lookup "libraries") settings.libraries
  snapshot : Completes {} SpellsSnapshot (members.lookup "snapshot") settings.snapshot

/-- The list has a name, and each of its names has a character that is no white space. -/
def Usable (names : List String) : Prop :=
  names ≠ [] ∧ ∀ name ∈ names, ∃ c ∈ name.toList, isBlank c = false

theorem isUsableList_iff (names : List String) : isUsableList names = true ↔ Usable names := by
  simp [isUsableList, isBlankText, Usable]

/-! ## Reading -/

theorem mapM_text?_iff : ∀ {items : List Value} {names : List String},
    items.mapM text? = some names ↔ items = names.map .text
  | [], names => by simp [eq_comm]
  | item :: rest, names => by
    rw [List.mapM_cons]
    constructor
    · intro h
      obtain ⟨name, hname, h⟩ := Option.bind_eq_some_iff.1 h
      obtain ⟨more, hmore, h⟩ := Option.bind_eq_some_iff.1 h
      cases h
      rw [List.map_cons, ← mapM_text?_iff.1 hmore]
      cases item with
      | text text =>
        cases hname
        rfl
      | _ => cases hname
    · intro h
      cases names with
      | nil => cases h
      | cons name names =>
        rw [List.map_cons, List.cons.injEq] at h
        obtain ⟨rfl, hrest⟩ := h
        rw [mapM_text?_iff.2 hrest]
        rfl

theorem texts?_iff {value : Value} {names : List String} : texts? value = some names ↔ SpellsTexts value names := by
  unfold SpellsTexts
  cases value with
  | array items => rw [texts?, mapM_text?_iff, Value.array.injEq]
  | _ => simp [texts?]

theorem flag?_iff {value : Value} {flag : Bool} : flag? value = some flag ↔ SpellsFlag value flag := by
  unfold SpellsFlag
  cases value <;> simp [flag?]

theorem count?_iff {value : Value} (h : value.Sized) {count : Nat} :
    count? value = some count ↔ SpellsCount value count := by
  unfold SpellsCount
  cases h with
  | integer low high =>
    rw [count?, Option.ite_none_right_eq_some, Value.integer.injEq, Option.some.injEq]
    omega
  | _ => simp [count?]

theorem orDefault_iff {α : Type} {standard : α} {read : Value → Option α} {spells : Value → α → Prop} :
    ∀ {value? : Option Value}, (∀ value, value? = some value → ∀ a, read value = some a ↔ spells value a) → ∀ a,
      orDefault standard read value? = some a ↔ Completes standard spells value? a
  | none, _, a => by rw [orDefault, Completes, Option.some.injEq, eq_comm]
  | some value, h, a => h value rfl a

/-! ## Sections -/

theorem lookup_zip_eq_getElem? {α : Type} : ∀ {names : List String} {items : List α} {place : Nat} {name : String},
    names.Nodup → names[place]? = some name → (names.zip items).lookup name = items[place]?
  | [], _, _, _, _, h => by cases h
  | _ :: _, [], _, _, _, _ => rfl
  | first :: names, item :: items, 0, name, _, h => by
    cases h
    simp
  | first :: names, item :: items, place + 1, name, hnames, h => by
    obtain ⟨hfirst, hrest⟩ := List.nodup_cons.1 hnames
    have hne : (name == first) = false := by
      rw [beq_eq_false_iff_ne]
      rintro rfl
      exact hfirst (List.mem_of_getElem? h)
    rw [List.zip_cons_cons, List.lookup_cons, hne, List.getElem?_cons_succ]
    exact lookup_zip_eq_getElem? hrest h

/-- A value that is no date is no section, or its fields are found by name and place. -/
theorem section?_cases {names : List String} (hnames : names.Nodup) {value : Value} (h : value ≠ .instant) :
    (section? names value = none ∧ ¬IsSection value) ∨
    ∃ field, section? names value = some field ∧ IsSection value ∧
      ∀ place name, names[place]? = some name → field name = field? place name value := by
  cases value with
  | table origin members => exact .inr ⟨_, rfl, .table origin members, fun _ _ _ => rfl⟩
  | array items => exact .inr ⟨_, rfl, .array items, fun _ _ hname => lookup_zip_eq_getElem? hnames hname⟩
  | tables items =>
    refine .inr ⟨_, rfl, .tables items, fun _ _ hname => ?_⟩
    rw [lookup_zip_eq_getElem? hnames hname, List.getElem?_map]
    rfl
  | instant => exact absurd rfl h
  | _ => exact .inl ⟨rfl, nofun⟩

theorem field?_sized {value : Value} (h : value.Sized) {place : Nat} {name : String} {found : Value}
    (hfound : field? place name value = some found) : found.Sized := by
  cases h with
  | array hitems => exact hitems found (List.mem_of_getElem? hfound)
  | table hmembers => exact AllSized.lookup hmembers hfound
  | tables hitems =>
    obtain ⟨members, hmembers, hfound⟩ := Option.map_eq_some_iff.1 hfound
    cases hfound
    exact .table (hitems members (List.mem_of_getElem? hmembers))
  | _ => cases hfound

theorem libraries?_iff {value : Value} (h : value ≠ .instant) (libraries : LibraryNames) :
    libraries? value = some libraries ↔ SpellsLibraries value libraries := by
  unfold libraries?
  rcases @section?_cases ["egl", "gles", "vulkan"] (by decide) value h with
    ⟨hsection, hnone⟩ | ⟨field, hsection, hsome, hfield⟩
  · rw [hsection]
    exact ⟨nofun, fun h => absurd h.isSection hnone⟩
  · rw [hsection, Option.bind_eq_bind, Option.bind_some, hfield 0 _ rfl, hfield 1 _ rfl, hfield 2 _ rfl]
    have htexts (standard : List String) (place : Nat) (name : String) (names : List String) :
        orDefault standard texts? (field? place name value) = some names ↔
          Completes standard SpellsTexts (field? place name value) names :=
      orDefault_iff (fun _ _ _ => texts?_iff) names
    constructor
    · intro h
      obtain ⟨egl, hegl, h⟩ := Option.bind_eq_some_iff.1 h
      obtain ⟨gles, hgles, h⟩ := Option.bind_eq_some_iff.1 h
      obtain ⟨vulkan, hvulkan, h⟩ := Option.bind_eq_some_iff.1 h
      cases h
      exact ⟨hsome, (htexts _ _ _ _).1 hegl, (htexts _ _ _ _).1 hgles, (htexts _ _ _ _).1 hvulkan⟩
    · rintro ⟨-, hegl, hgles, hvulkan⟩
      refine Option.bind_eq_some_iff.2 ⟨_, (htexts _ _ _ _).2 hegl, ?_⟩
      refine Option.bind_eq_some_iff.2 ⟨_, (htexts _ _ _ _).2 hgles, ?_⟩
      exact Option.bind_eq_some_iff.2 ⟨_, (htexts _ _ _ _).2 hvulkan, rfl⟩

theorem snapshot?_iff {value : Value} (h : value ≠ .instant) (hsized : value.Sized) (snapshot : SnapshotSettings) :
    snapshot? value = some snapshot ↔ SpellsSnapshot value snapshot := by
  unfold snapshot?
  rcases @section?_cases ["shuffle_order", "run_benchmark", "max_extensions"] (by decide) value h with
    ⟨hsection, hnone⟩ | ⟨field, hsection, hsome, hfield⟩
  · rw [hsection]
    exact ⟨nofun, fun h => absurd h.isSection hnone⟩
  · rw [hsection, Option.bind_eq_bind, Option.bind_some, hfield 0 _ rfl, hfield 1 _ rfl, hfield 2 _ rfl]
    have hflag (place : Nat) (name : String) (flag : Bool) :
        orDefault true flag? (field? place name value) = some flag ↔
          Completes true SpellsFlag (field? place name value) flag :=
      orDefault_iff (fun _ _ _ => flag?_iff) flag
    have hcount (count : Nat) : orDefault 15 count? (field? 2 "max_extensions" value) = some count ↔
        Completes 15 SpellsCount (field? 2 "max_extensions" value) count :=
      orDefault_iff (fun _ hfound _ => count?_iff (field?_sized hsized hfound)) count
    constructor
    · intro h
      obtain ⟨shuffleOrder, hshuffle, h⟩ := Option.bind_eq_some_iff.1 h
      obtain ⟨runBenchmark, hbenchmark, h⟩ := Option.bind_eq_some_iff.1 h
      obtain ⟨maxExtensions, hmax, h⟩ := Option.bind_eq_some_iff.1 h
      cases h
      exact ⟨hsome, (hflag _ _ _).1 hshuffle, (hflag _ _ _).1 hbenchmark, (hcount _).1 hmax⟩
    · rintro ⟨-, hshuffle, hbenchmark, hmax⟩
      refine Option.bind_eq_some_iff.2 ⟨_, (hflag _ _ _).2 hshuffle, ?_⟩
      refine Option.bind_eq_some_iff.2 ⟨_, (hflag _ _ _).2 hbenchmark, ?_⟩
      exact Option.bind_eq_some_iff.2 ⟨_, (hcount _).2 hmax, rfl⟩

/-! ## Documents -/

theorem ofMembers?_iff {members : Members} (hsized : AllSized members)
    (hlibraries : members.lookup "libraries" ≠ some .instant) (hsnapshot : members.lookup "snapshot" ≠ some .instant)
    (settings : Settings) : ofMembers? members = some settings ↔ Spells members settings := by
  have hlibraries' (libraries : LibraryNames) : orDefault {} libraries? (members.lookup "libraries") = some libraries ↔
      Completes {} SpellsLibraries (members.lookup "libraries") libraries := by
    refine orDefault_iff (fun value hvalue => libraries?_iff ?_) libraries
    rintro rfl
    exact hlibraries hvalue
  have hsnapshot' (snapshot : SnapshotSettings) : orDefault {} snapshot? (members.lookup "snapshot") = some snapshot ↔
      Completes {} SpellsSnapshot (members.lookup "snapshot") snapshot := by
    refine orDefault_iff (fun value hvalue => snapshot?_iff ?_ (hsized.lookup hvalue)) snapshot
    rintro rfl
    exact hsnapshot hvalue
  constructor
  · intro h
    obtain ⟨libraries, hl, h⟩ := Option.bind_eq_some_iff.1 h
    obtain ⟨snapshot, hs, h⟩ := Option.bind_eq_some_iff.1 h
    cases h
    exact ⟨(hlibraries' libraries).1 hl, (hsnapshot' snapshot).1 hs⟩
  · rintro ⟨hl, hs⟩
    unfold ofMembers?
    rw [(hlibraries' _).2 hl, (hsnapshot' _).2 hs]
    rfl

theorem flaw?_eq_none_iff_usable (settings : Settings) :
    settings.flaw? = none ↔ ∀ list ∈ settings.lists, Usable list.2 := by
  rw [flaw?_eq_none_iff, isUsable, List.all_eq_true]
  exact forall₂_congr fun list _ => isUsableList_iff list.2

theorem checked_eq_ok_iff {read settings : Settings} :
    checked read = .ok settings ↔ read = settings ∧ ∀ list ∈ settings.lists, Usable list.2 := by
  unfold checked
  cases hflaw : read.flaw? with
  | none =>
    have husable := (flaw?_eq_none_iff_usable read).1 hflaw
    constructor
    · intro h
      cases h
      exact ⟨rfl, husable⟩
    · rintro ⟨rfl, -⟩
      rfl
  | some complaint =>
    refine ⟨nofun, ?_⟩
    rintro ⟨rfl, husable⟩
    rw [(flaw?_eq_none_iff_usable read).2 husable] at hflaw
    cases hflaw

theorem flaw?_of_first {settings : Settings} {before after : List (String × List String)} {key : String}
    {names : List String} (hlists : settings.lists = before ++ (key, names) :: after)
    (hbefore : ∀ list ∈ before, Usable list.2) (hnames : ¬Usable names) :
    settings.flaw? = some (listComplaint key) := by
  have hfind : settings.lists.find? (fun list => !isUsableList list.2) = some (key, names) := by
    refine List.find?_eq_some_iff_append.2 ⟨?_, before, after, hlists, fun list hlist => ?_⟩
    · rw [Bool.not_eq_true', Bool.eq_false_iff]
      exact fun h => hnames ((isUsableList_iff names).1 h)
    · rw [Bool.not_not]
      exact (isUsableList_iff list.2).2 (hbefore list hlist)
  rw [flaw?, hfind]
  rfl

theorem ofToml_of_some {document : String} {members : Members} {settings : Settings}
    (hparse : Toml.parse document = some members) (h : ofMembers? members = some settings) :
    ofToml document = checked settings := by
  rw [ofToml, hparse, Option.bind_some, h]

theorem ofToml_of_none {document : String} {members : Members} (hparse : Toml.parse document = some members)
    (h : ofMembers? members = none) : ofToml document = .error (.badSettings .malformed) := by
  rw [ofToml, hparse, Option.bind_some, h]

theorem ofToml_eq_ok_iff {document : String} {members : Members} (hparse : Toml.parse document = some members)
    (settings : Settings) : ofToml document = .ok settings ↔
      ofMembers? members = some settings ∧ ∀ list ∈ settings.lists, Usable list.2 := by
  cases hread : ofMembers? members with
  | none =>
    rw [ofToml_of_none hparse hread]
    simp
  | some read => rw [ofToml_of_some hparse hread, checked_eq_ok_iff, Option.some.injEq]

/-- **A document is accepted if it spells settings whose lists are usable, and these are the settings.**  If one of the
lists is not, the fault names the first such list; a document that spells no settings is malformed.  Of documents in
which a section is a date nothing is said. -/
theorem ofToml_iff {document : String} {members : Members} (hparse : Toml.parse document = some members)
    (hlibraries : members.lookup "libraries" ≠ some .instant) (hsnapshot : members.lookup "snapshot" ≠ some .instant) :
    (∀ settings, ofToml document = .ok settings ↔
      Spells members settings ∧ ∀ list ∈ settings.lists, Usable list.2) ∧
    (∀ settings before key names after, Spells members settings → settings.lists = before ++ (key, names) :: after →
      (∀ list ∈ before, Usable list.2) → ¬Usable names →
      ofToml document = .error (.badSettings (.unusable (key ++ " must list at least one non-empty library name")))) ∧
    ((∀ settings, ¬Spells members settings) → ofToml document = .error (.badSettings .malformed)) := by
  have hspells := ofMembers?_iff (parse_sized hparse) hlibraries hsnapshot
  refine ⟨fun settings => ?_, fun settings before key names after h hlists hbefore hnames => ?_, fun hnone => ?_⟩
  · rw [ofToml_eq_ok_iff hparse, hspells]
  · rw [ofToml_of_some hparse ((hspells settings).2 h), checked, flaw?_of_first hlists hbefore hnames]
    rfl
  · have hread : ofMembers? members = none :=
      Option.eq_none_iff_forall_ne_some.2 fun settings h => hnone settings ((hspells settings).1 h)
    exact ofToml_of_none hparse hread

/-- A document with one section as a list that breaks off, and one with a single key. -/
def partialDocument : String := "snapshot = [false]\n[libraries]\nvulkan = [\"libvk.so\"]\n"

/-- The members of such a document. -/
def partialMembers : Members :=
  [("snapshot", .array [.boolean false]), ("libraries", .table .header [("vulkan", .array [.text "libvk.so"])])]

/-- Values have no decidable equality; this compares with the members above, so that the parser can be run. -/
def isPartial : Option Members → Bool
  | some [("snapshot", .array [.boolean false]),
      ("libraries", .table .header [("vulkan", .array [.text "libvk.so"])])] => true
  | _ => false

theorem eq_of_isPartial {members : Option Members} (h : isPartial members = true) : members = some partialMembers := by
  unfold isPartial at h
  split at h
  next => rfl
  next => cases h

/-- What such a document lacks is filled in: two lists of libraries, and the rest of what a snapshot is to hold. -/
theorem ofToml_partialDocument :
    (Toml.parse partialDocument = some partialMembers ∧ partialMembers.lookup "libraries" ≠ some .instant ∧
      partialMembers.lookup "snapshot" ≠ some .instant) ∧
    ofToml partialDocument =
      .ok { libraries := { vulkan := ["libvk.so"] }, snapshot := { shuffleOrder := false } } := by
  have hparse : Toml.parse partialDocument = some partialMembers := eq_of_isPartial (by decide +kernel)
  have hlibraries : partialMembers.lookup "libraries" ≠ some .instant := nofun
  have hsnapshot : partialMembers.lookup "snapshot" ≠ some .instant := nofun
  obtain ⟨haccepted, -⟩ := ofToml_iff hparse hlibraries hsnapshot
  refine ⟨⟨hparse, hlibraries, hsnapshot⟩, (haccepted _).2 ⟨⟨?_, ?_⟩, ?_⟩⟩
  · exact ⟨.table _ _, rfl, rfl, rfl⟩
  · exact ⟨.array _, rfl, rfl, rfl⟩
  · exact (flaw?_eq_none_iff_usable _).1 (by decide +kernel)

end Settings
end DriverSurvey
