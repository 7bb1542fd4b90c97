import Mathlib.Data.List.Nodup
import DriverSurvey.Proofs.RoundTrip
/-!
# Forms — one record, many values

A record is written as an object, in which the order of the members does not matter and others may stand between them,
or as an array of its fields in order; a record inside it is written either way, whatever the outer one is.  Every
reader makes the same record of all these values, and none of a value that lacks a field without a default or has a
field twice (`read_of_form`).
-/
namespace DriverSurvey
namespace Json

variable {α β : Type}

/-! ## How records are written -/

/-- How a thing is written: the values that write it, and values that are broken and write nothing. -/
structure Form (α : Type) where
  Writes : α → Value → Prop
  Broken : Value → Prop

/-- The reader finds in each value what the value writes, and refuses a broken one. -/
structure Form.ReadBy (form : Form α) (read : Value → Option α) : Prop where
  writes : ∀ {a : α} {value : Value}, form.Writes a value → read value = some a
  broken : ∀ {value : Value}, form.Broken value → read value = none

/-- A field of a record: one that has to be there, or one with a default. -/
inductive Field (α : Type) : Type 1 where
  | required {β : Type} (name : String) (form : Form β) (get : α → β)
  | optional {β : Type} (name : String) (form : Form β) (get : α → β) (standard : β)

namespace Field

def name : Field α → String
  | required name _ _ => name
  | optional name _ _ _ => name

/-- The value writes the field of the record. -/
def Writes : Field α → α → Value → Prop
  | required _ form get, a, value => form.Writes (get a) value
  | optional _ form get _, a, value => form.Writes (get a) value

def Broken : Field α → Value → Prop
  | required _ form _, value => form.Broken value
  | optional _ form _ _, value => form.Broken value

/-- The field may be left out for the record: it has a default, and the record has the default there. -/
def Omits : Field α → α → Prop
  | required _ _ _, _ => False
  | optional _ _ get standard, a => get a = standard

def IsRequired : Field α → Prop
  | required _ _ _ => True
  | optional _ _ _ _ => False

end Field

/-- A value that writes a record with these fields. -/
inductive Written (fields : List (Field α)) (a : α) : Value → Prop where
  /-- In an object the fields that are written, and any members of other names, stand in any order. -/
  | object {entries : List (Field α × Value)} {unknown members : List (Option String × Value)}
      (hentries : (entries.map Prod.fst).Sublist fields)
      (homitted : ∀ field ∈ fields, field ∉ entries.map Prod.fst → field.Omits a)
      (hwrites : ∀ entry ∈ entries, entry.1.Writes a entry.2)
      (hunknown : ∀ member ∈ unknown, ∃ key, member.1 = some key ∧ key ∉ fields.map Field.name)
      (hmembers : members.Perm (entries.map (fun entry => (some entry.1.name, entry.2)) ++ unknown)) :
    Written fields a (.object members)
  /-- In an array every field is written, in order. -/
  | array {entries : List (Field α × Value)} (hentries : entries.map Prod.fst = fields)
      (hwrites : ∀ entry ∈ entries, entry.1.Writes a entry.2) : Written fields a (.array (entries.map Prod.snd))

/-- A value that writes no record with these fields, whatever else it holds: a field without a default is missing, a
field stands twice, or a record inside is broken. -/
inductive Broken (fields : List (Field α)) : Value → Prop where
  | missing {field : Field α} {members : List (Option String × Value)} (hfield : field ∈ fields)
      (hrequired : field.IsRequired) (hmissing : ∀ member ∈ members, member.1 ≠ some field.name) :
    Broken fields (.object members)
  | repeated {field : Field α} {members : List (Option String × Value)} {first second : Value} (hfield : field ∈ fields)
      (htwice : [(some field.name, first), (some field.name, second)].Sublist members) : Broken fields (.object members)
  | member {field : Field α} {members : List (Option String × Value)} {value : Value} (hfield : field ∈ fields)
      (hmember : (some field.name, value) ∈ members) (hvalue : field.Broken value) : Broken fields (.object members)
  | item {field : Field α} {items : List Value} {item : Value} (hitem : (field, item) ∈ fields.zip items)
      (hvalue : field.Broken item) : Broken fields (.array items)

def recordForm (fields : List (Field α)) : Form α := ⟨Written fields, Broken fields⟩

/-! ## The forms of the records -/

/-- Written in one way. -/
def exactForm (write : α → Value) : Form α := ⟨fun a value => value = write a, fun _ => False⟩

def textForm : Form String := exactForm ofText

def textsForm : Form (List String) := exactForm ofTexts

def flagForm : Form Bool := exactForm .bool

def wordForm : Form UInt32 := exactForm (ofWord id)

/-- A whole number, if sixty-four bits hold it. -/
def sizeForm : Form Nat := ⟨fun n value => n < 2 ^ 64 ∧ value = ofNat id n, fun _ => False⟩

/-- A number that is rounded to the time. -/
def timeForm : Form Float := ⟨fun time value => ∃ numeral, value = .number numeral ∧ numeral.toFloat? = some time,
  fun _ => False⟩

def heldVersionForm : Form (Option EsVersion) := exactForm (ofOption ofVersion)

def formatRecord : List (Field SurfaceFormat) :=
  [.required "red" wordForm (·.red), .required "green" wordForm (·.green), .required "blue" wordForm (·.blue),
   .required "alpha" wordForm (·.alpha), .required "depth" wordForm (·.depth),
   .required "stencil" wordForm (·.stencil)]

def memoryRecord : List (Field VideoMemory) :=
  [.required "total" wordForm (·.total), .required "used" wordForm (·.used), .required "free" wordForm (·.free)]

def snapshotRecord : List (Field (Snapshot Float)) :=
  [.required "renderer" textForm (·.renderer), .required "vendor" textForm (·.vendor),
   .required "version" textForm (·.version), .required "displayVendor" textForm (·.displayVendor),
   .required "extensions" textsForm (·.extensions), .required "extensionCount" sizeForm (·.extensionCount),
   .required "configuration" (recordForm formatRecord) (·.configuration),
   .required "memory" (recordForm memoryRecord) (·.memory),
   .required "maxTextureSize" wordForm (·.maxTextureSize),
   .required "computeWorkGroupInvocations" wordForm (·.computeInvocations),
   .required "computeSupported" flagForm (·.computeSupported),
   .required "vulkanSupported" flagForm (·.vulkanSupported),
   .required "microBenchmarkMs" timeForm (·.benchmark),
   .optional "contextVersion" heldVersionForm (·.contextVersion) none]

def libraryRecord : List (Field LibraryNames) :=
  [.optional "egl" textsForm (·.egl) defaultEglNames, .optional "gles" textsForm (·.gles) defaultGlesNames,
   .optional "vulkan" textsForm (·.vulkan) defaultVulkanNames]

def snapshotSettingsRecord : List (Field SnapshotSettings) :=
  [.optional "shuffle_order" flagForm (·.shuffleOrder) true, .optional "run_benchmark" flagForm (·.runBenchmark) true,
   .optional "max_extensions" sizeForm (·.maxExtensions) 15]

def settingsRecord : List (Field Settings) :=
  [.optional "libraries" (recordForm libraryRecord) (·.libraries) {},
   .optional "snapshot" (recordForm snapshotSettingsRecord) (·.snapshot) {}]

/-! ## Members -/

theorem lookup_eq_some_iff_mem : ∀ {fields : List (String × Value)} {name : String} {value : Value},
    (fields.map Prod.fst).Nodup → (fields.lookup name = some value ↔ (name, value) ∈ fields)
  | [], _, _, _ => by simp
  | (first, other) :: fields, name, value, hdistinct => by
    rw [List.map_cons, List.nodup_cons] at hdistinct
    obtain ⟨hfirst, hrest⟩ := hdistinct
    rw [List.lookup_cons, List.mem_cons, Prod.mk.injEq]
    by_cases hname : name = first
    · subst hname
      have hnot : (name, value) ∉ fields := fun h => hfirst (List.mem_map.2 ⟨_, h, rfl⟩)
      simp [hnot, eq_comm]
    · rw [beq_false_of_ne hname]
      simp [hname, lookup_eq_some_iff_mem hrest]

theorem lookup_eq_none_iff_not_mem {fields : List (String × Value)} {name : String} :
    fields.lookup name = none ↔ name ∉ fields.map Prod.fst := by
  rw [List.lookup_eq_none_iff, List.mem_map, not_exists]
  refine forall_congr' fun field => ?_
  rw [bne_iff_ne, ne_eq, eq_comm, not_and]

/-- A member under its name, if the record has a field of that name. -/
def knownMember? (names : List String) : Option String × Value → Option (String × Value)
  | (none, _) => none
  | (some key, value) => if key ∈ names then some (key, value) else none

theorem knownMember?_eq_some_iff {names : List String} {member : Option String × Value} {name : String}
    {value : Value} : knownMember? names member = some (name, value) ↔ name ∈ names ∧ member = (some name, value) := by
  obtain ⟨_ | key, other⟩ := member
  · simp [knownMember?]
  · rw [knownMember?, Option.ite_none_right_eq_some, Option.some.injEq, Prod.mk.injEq, Prod.mk.injEq, Option.some.injEq]
    constructor
    · rintro ⟨hkey, rfl, rfl⟩
      exact ⟨hkey, rfl, rfl⟩
    · rintro ⟨hname, rfl, rfl⟩
      exact ⟨hname, rfl, rfl⟩

theorem knownMembers?_cons_of_not_mem {names : List String} {key : String} (hkey : key ∉ names) (value : Value)
    (rest : List (Option String × Value)) :
    knownMembers? names ((some key, value) :: rest) = knownMembers? names rest := by
  rw [knownMembers?, List.contains_eq_mem, decide_eq_false hkey]
  cases knownMembers? names rest <;> rfl

theorem knownMembers?_cons_of_mem {names : List String} {key : String} (hkey : key ∈ names) (value : Value)
    (rest : List (Option String × Value)) (found : List (String × Value)) :
    knownMembers? names ((some key, value) :: rest) = some found ↔
      ∃ known, knownMembers? names rest = some known ∧ key ∉ known.map Prod.fst ∧ (key, value) :: known = found := by
  rw [knownMembers?, List.contains_eq_mem, decide_eq_true hkey]
  cases knownMembers? names rest with
  | none => simp
  | some known =>
    simp only [if_true]
    cases hlookup : known.lookup key with
    | none =>
      have hnew := lookup_eq_none_iff_not_mem.1 hlookup
      constructor
      · intro h
        exact ⟨known, rfl, hnew, Option.some.inj h⟩
      · rintro ⟨_, ⟨⟩, -, rfl⟩
        rfl
    | some other =>
      constructor
      · intro h
        cases h
      · rintro ⟨_, ⟨⟩, hnew, -⟩
        rw [lookup_eq_none_iff_not_mem.2 hnew] at hlookup
        cases hlookup

/-- The members of an object are found if every key is a text and no known name comes twice; their order stays. -/
theorem knownMembers?_eq_some_iff {names : List String} : ∀ {members : List (Option String × Value)}
    {found : List (String × Value)}, knownMembers? names members = some found ↔
      (∀ member ∈ members, member.1 ≠ none) ∧ members.filterMap (knownMember? names) = found ∧
        (found.map Prod.fst).Nodup
  | [], found => by
    rw [knownMembers?, Option.some.injEq]
    constructor
    · rintro rfl
      exact ⟨List.forall_mem_nil _, rfl, List.nodup_nil⟩
    · rintro ⟨-, rfl, -⟩
      rfl
  | (none, _) :: rest, found => by
    rw [knownMembers?]
    constructor
    · intro h
      cases h
    · intro h
      exact absurd rfl (h.1 _ List.mem_cons_self)
  | (some key, value) :: rest, found => by
    rw [List.forall_mem_cons, List.filterMap_cons, knownMember?]
    by_cases hkey : key ∈ names
    · rw [knownMembers?_cons_of_mem hkey, if_pos hkey]
      constructor
      · rintro ⟨known, hknown, hnew, rfl⟩
        obtain ⟨htexts, rfl, hdistinct⟩ := knownMembers?_eq_some_iff.1 hknown
        exact ⟨⟨Option.some_ne_none key, htexts⟩, rfl, List.nodup_cons.2 ⟨hnew, hdistinct⟩⟩
      · rintro ⟨⟨-, htexts⟩, rfl, hdistinct⟩
        obtain ⟨hnew, hdistinct⟩ := List.nodup_cons.1 hdistinct
        exact ⟨_, knownMembers?_eq_some_iff.2 ⟨htexts, rfl, hdistinct⟩, hnew, rfl⟩
    · rw [knownMembers?_cons_of_not_mem hkey, if_neg hkey, knownMembers?_eq_some_iff]
      exact and_congr_left fun _ => (and_iff_right (Option.some_ne_none key)).symm

theorem mem_filterMap_knownMember? {names : List String} {members : List (Option String × Value)} {name : String}
    {value : Value} : (name, value) ∈ members.filterMap (knownMember? names) ↔
      name ∈ names ∧ (some name, value) ∈ members := by
  rw [List.mem_filterMap]
  constructor
  · rintro ⟨member, hmember, hknown⟩
    obtain ⟨hname, rfl⟩ := knownMember?_eq_some_iff.1 hknown
    exact ⟨hname, hmember⟩
  · rintro ⟨hname, hmember⟩
    exact ⟨_, hmember, knownMember?_eq_some_iff.2 ⟨hname, rfl⟩⟩

/-! ## Finding fields -/

/-- Among what was found the field is written for the record, or left out of an object that may lack it. -/
inductive Field.Found (field : Field α) (inArray : Bool) (found : List (String × Value)) (a : α) : Prop where
  | there {value : Value} (hlookup : found.lookup field.name = some value) (hvalue : field.Writes a value)
  | absent (hlookup : found.lookup field.name = none) (hobject : inArray = false) (homits : field.Omits a)

/-- Among what was found the field is broken, or it is not there and has no default. -/
inductive Field.Lost (field : Field α) (found : List (String × Value)) : Prop where
  | broken {value : Value} (hlookup : found.lookup field.name = some value) (hvalue : field.Broken value)
  | missing (hlookup : found.lookup field.name = none) (hrequired : field.IsRequired)

/-- The value of a field under its name. -/
def underName (entry : Field α × Value) : String × Value := (entry.1.name, entry.2)

/-- What is found of an object or an array is a rearrangement of the fields that are written; nothing else of the order
counts. -/
theorem found_of_perm {fields : List (Field α)} {entries : List (Field α × Value)} {inArray : Bool} {a : α}
    {found : List (String × Value)} (hdistinct : (fields.map Field.name).Nodup)
    (hentries : (entries.map Prod.fst).Sublist fields)
    (homitted : ∀ field ∈ fields, field ∉ entries.map Prod.fst → inArray = false ∧ field.Omits a)
    (hwrites : ∀ entry ∈ entries, entry.1.Writes a entry.2) (hfound : found.Perm (entries.map underName)) :
    (found.map Prod.fst).Nodup ∧ ∀ field ∈ fields, field.Found inArray found a := by
  have hnames : (found.map Prod.fst).Perm ((entries.map Prod.fst).map Field.name) := by
    rw [List.map_map]
    have h := hfound.map Prod.fst
    rwa [List.map_map] at h
  have hkeys : (found.map Prod.fst).Nodup := hnames.nodup_iff.2 (hdistinct.sublist (hentries.map _))
  refine ⟨hkeys, fun field hfield => ?_⟩
  by_cases hentry : field ∈ entries.map Prod.fst
  · obtain ⟨entry, hmem, rfl⟩ := List.mem_map.1 hentry
    have hfield : (entry.1.name, entry.2) ∈ found := hfound.mem_iff.2 (List.mem_map_of_mem hmem)
    exact .there ((lookup_eq_some_iff_mem hkeys).2 hfield) (hwrites entry hmem)
  · have hnone : found.lookup field.name = none := by
      rw [lookup_eq_none_iff_not_mem, hnames.mem_iff, List.mem_map]
      rintro ⟨other, hother, hname⟩
      have : other = field := List.inj_on_of_nodup_map hdistinct (hentries.mem hother) hfield hname
      exact hentry (this ▸ hother)
    obtain ⟨hobject, homits⟩ := homitted field hfield hentry
    exact .absent hnone hobject homits

theorem Written.found {fields : List (Field α)} {a : α} {value : Value} (h : Written fields a value)
    (hdistinct : (fields.map Field.name).Nodup) :
    ∃ found, fields? (fields.map Field.name) value = some found ∧
      ∀ field ∈ fields, field.Found (isArray value) found a := by
  cases h with
  | @object entries unknown members hentries homitted hwrites hunknown hmembers =>
    have hknown : (entries.map fun entry => (some entry.1.name, entry.2)).filterMap
        (knownMember? (fields.map Field.name)) = entries.map underName := by
      rw [List.filterMap_map, List.filterMap_eq_map_iff_forall_eq_some]
      intro entry hentry
      have hfield : entry.1 ∈ fields := hentries.mem (List.mem_map_of_mem hentry)
      exact knownMember?_eq_some_iff.2 ⟨List.mem_map_of_mem hfield, rfl⟩
    have hother : unknown.filterMap (knownMember? (fields.map Field.name)) = [] := by
      rw [List.filterMap_eq_nil_iff]
      rintro ⟨_, value⟩ hmember
      obtain ⟨key, rfl, hkey⟩ := hunknown _ hmember
      exact if_neg hkey
    have hfound := hmembers.filterMap (knownMember? (fields.map Field.name))
    rw [List.filterMap_append, hknown, hother, List.append_nil] at hfound
    obtain ⟨hkeys, hfields⟩ := found_of_perm hdistinct hentries
      (fun field hfield hentry => ⟨rfl, homitted field hfield hentry⟩) hwrites hfound
    refine ⟨_, knownMembers?_eq_some_iff.2 ⟨fun member hmember => ?_, rfl, hkeys⟩, hfields⟩
    rcases List.mem_append.1 (hmembers.mem_iff.1 hmember) with hmember | hmember
    · obtain ⟨entry, -, rfl⟩ := List.mem_map.1 hmember
      nofun
    · obtain ⟨key, hkey, -⟩ := hunknown member hmember
      rw [hkey]
      nofun
  | @array entries hentries hwrites =>
    subst hentries
    have hfields : fields? ((entries.map Prod.fst).map Field.name) (.array (entries.map Prod.snd)) =
        some (entries.map underName) := by
      rw [fields?, if_pos (by simp), List.map_map, List.zip_map']
      rfl
    have homitted : ∀ field ∈ entries.map Prod.fst, field ∉ entries.map Prod.fst → true = false ∧ field.Omits a :=
      fun field hfield hentry => absurd hfield hentry
    exact ⟨_, hfields, (found_of_perm hdistinct (.refl _) homitted hwrites (.refl _)).2⟩

theorem keys_zip_sublist : ∀ (names : List String) (items : List Value), ((names.zip items).map Prod.fst).Sublist names
  | [], _ => .slnil
  | _ :: _, [] => List.nil_sublist _
  | name :: names, _ :: items => (keys_zip_sublist names items).cons_cons name

theorem Broken.lost {fields : List (Field α)} {value : Value} (h : Broken fields value)
    (hdistinct : (fields.map Field.name).Nodup) {found : List (String × Value)}
    (hfound : fields? (fields.map Field.name) value = some found) : ∃ field ∈ fields, field.Lost found := by
  cases h with
  | @missing field members hfield hrequired hmissing =>
    obtain ⟨-, rfl, -⟩ := knownMembers?_eq_some_iff.1 hfound
    have hnone : (members.filterMap (knownMember? (fields.map Field.name))).lookup field.name = none := by
      rw [lookup_eq_none_iff_not_mem, List.mem_map]
      rintro ⟨⟨_, value⟩, hmember, rfl⟩
      exact hmissing _ (mem_filterMap_knownMember?.1 hmember).2 rfl
    exact ⟨field, hfield, .missing hnone hrequired⟩
  | @repeated field members first second hfield htwice =>
    obtain ⟨-, rfl, hkeys⟩ := knownMembers?_eq_some_iff.1 hfound
    have hname : field.name ∈ fields.map Field.name := List.mem_map_of_mem hfield
    have hboth := (htwice.filterMap (knownMember? (fields.map Field.name))).map Prod.fst
    simp only [List.filterMap_cons, knownMember?, if_pos hname, List.filterMap_nil, List.map_cons, List.map_nil] at hboth
    exact absurd (hkeys.sublist hboth) (by simp)
  | @member field members value hfield hmember hvalue =>
    obtain ⟨-, rfl, hkeys⟩ := knownMembers?_eq_some_iff.1 hfound
    have hmem := mem_filterMap_knownMember?.2 ⟨List.mem_map_of_mem hfield, hmember⟩
    exact ⟨field, hfield, .broken ((lookup_eq_some_iff_mem hkeys).2 hmem) hvalue⟩
  | @item field items item hitem hvalue =>
    obtain ⟨-, hfound⟩ := Option.ite_none_right_eq_some.1 hfound
    cases hfound
    have hmem : (field.name, item) ∈ (fields.map Field.name).zip items := by
      rw [List.zip_map_left]
      exact List.mem_map_of_mem hitem
    have hkeys := hdistinct.sublist (keys_zip_sublist (fields.map Field.name) items)
    exact ⟨field, (List.of_mem_zip hitem).1, .broken ((lookup_eq_some_iff_mem hkeys).2 hmem) hvalue⟩

/-! ## Reading -/

section

variable {form : Form β} {read : Value → Option β} {name : String} {get : α → β} {standard b : β} {inArray : Bool}
  {found : List (String × Value)} {a : α}

theorem required?_of_lookup {value : Value} (hlookup : found.lookup name = some value) :
    required? read name found = read value := by
  rw [required?, hlookup]

theorem optional?_of_lookup {value : Value} (hlookup : found.lookup name = some value) :
    optional? standard read name found = read value := by
  rw [optional?, hlookup]

theorem required?_of_found (hread : form.ReadBy read) (h : (Field.required name form get).Found inArray found a) :
    required? read name found = some (get a) := by
  obtain ⟨hlookup, hvalue⟩ | ⟨-, -, homits⟩ := h
  · exact (required?_of_lookup hlookup).trans (hread.writes hvalue)
  · exact homits.elim

theorem optional?_of_found (hread : form.ReadBy read)
    (h : (Field.optional name form get standard).Found inArray found a) :
    optional? standard read name found = some (get a) := by
  obtain ⟨hlookup, hvalue⟩ | ⟨hlookup, -, homits⟩ := h
  · exact (optional?_of_lookup hlookup).trans (hread.writes hvalue)
  · have hlookup : found.lookup name = none := hlookup
    have homits : get a = standard := homits
    rw [optional?, hlookup, homits]

/-- In an array nothing is left out, so that a field with a default can be read as one without. -/
theorem required?_of_found_array (hread : form.ReadBy read)
    (h : (Field.optional name form get standard).Found true found a) : required? read name found = some (get a) := by
  obtain ⟨hlookup, hvalue⟩ | ⟨-, hobject, -⟩ := h
  · exact (required?_of_lookup hlookup).trans (hread.writes hvalue)
  · cases hobject

theorem not_lost_of_required? (hread : form.ReadBy read) (h : required? read name found = some b) :
    ¬(Field.required name form get).Lost found := by
  rintro (⟨hlookup, hvalue⟩ | ⟨hlookup, -⟩)
  · have hnone : required? read name found = none := (required?_of_lookup hlookup).trans (hread.broken hvalue)
    cases hnone.symm.trans h
  · have hlookup : found.lookup name = none := hlookup
    rw [required?, hlookup] at h
    cases h

theorem not_lost_of_optional? (hread : form.ReadBy read) (h : optional? standard read name found = some b) :
    ¬(Field.optional name form get standard).Lost found := by
  rintro (⟨hlookup, hvalue⟩ | ⟨-, hrequired⟩)
  · have hnone : optional? standard read name found = none :=
      (optional?_of_lookup hlookup).trans (hread.broken hvalue)
    cases hnone.symm.trans h
  · exact hrequired

theorem not_lost_of_required?_array (hread : form.ReadBy read) (h : required? read name found = some b) :
    ¬(Field.optional name form get standard).Lost found := by
  rintro (⟨hlookup, hvalue⟩ | ⟨-, hrequired⟩)
  · have hnone : required? read name found = none := (required?_of_lookup hlookup).trans (hread.broken hvalue)
    cases hnone.symm.trans h
  · exact hrequired

end

/-- The reader of a record reads it from what is found of its fields, and only if no field is lost. -/
structure ReadsFields (fields : List (Field α)) (read : Value → Option α) : Prop where
  distinct : (fields.map Field.name).Nodup
  reads : ∀ {value : Value} {found : List (String × Value)} {a : α}, fields? (fields.map Field.name) value = some found →
    (∀ field ∈ fields, field.Found (isArray value) found a) → read value = some a
  keeps : ∀ {value : Value} {a : α}, read value = some a → ∃ found,
    fields? (fields.map Field.name) value = some found ∧ ∀ field ∈ fields, ¬field.Lost found

theorem ReadsFields.readBy {fields : List (Field α)} {read : Value → Option α} (h : ReadsFields fields read) :
    (recordForm fields).ReadBy read where
  writes := fun hwritten => by
    obtain ⟨found, hfound, hfields⟩ := hwritten.found h.distinct
    exact h.reads hfound hfields
  broken := fun {value} hbroken => by
    cases hread : read value with
    | none => rfl
    | some a =>
      obtain ⟨found, hfound, hkept⟩ := h.keeps hread
      obtain ⟨field, hfield, hlost⟩ := hbroken.lost h.distinct hfound
      exact absurd hlost (hkept field hfield)

/-! ## Values -/

theorem exactForm_readBy {write : α → Value} {read : Value → Option α} (h : ∀ a, read (write a) = some a) :
    (exactForm write).ReadBy read where
  writes := by
    rintro a _ rfl
    exact h a
  broken := False.elim

theorem textForm_readBy : textForm.ReadBy text? := exactForm_readBy fun _ => rfl

theorem flagForm_readBy : flagForm.ReadBy bool? := exactForm_readBy fun _ => rfl

theorem mapM_text?_map : ∀ texts : List String, (texts.map (@ofText Numeral)).mapM text? = some texts
  | [] => rfl
  | text :: texts => by
    rw [List.map_cons, List.mapM_cons, mapM_text?_map texts]
    rfl

theorem textsForm_readBy : textsForm.ReadBy texts? := exactForm_readBy mapM_text?_map

theorem wordForm_readBy : wordForm.ReadBy word? := exactForm_readBy fun n => (readsAs_ofWord n).reads

theorem sizeForm_readBy : sizeForm.ReadBy size? where
  writes := by
    rintro n _ ⟨hn, rfl⟩
    exact (readsAs_ofNat hn).reads
  broken := False.elim

theorem timeForm_readBy : timeForm.ReadBy float? where
  writes := by
    rintro time _ ⟨numeral, rfl, hnumeral⟩
    exact hnumeral
  broken := False.elim

theorem heldVersionForm_readBy : heldVersionForm.ReadBy heldVersion? := exactForm_readBy fun
  | none => rfl
  | some version => congrArg (Option.map some) (EsVersion.ofKey?_key version)

/-! ## Records -/

theorem format?_readsFields : ReadsFields formatRecord format? where
  distinct := by decide
  reads := fun {value found a} hfields hfound => by
    simp only [formatRecord, List.forall_mem_cons] at hfound
    obtain ⟨hred, hgreen, hblue, halpha, hdepth, hstencil, -⟩ := hfound
    refine Option.bind_eq_some_iff.2 ⟨found, hfields, ?_⟩
    simp only [required?_of_found wordForm_readBy hred, required?_of_found wordForm_readBy hgreen,
      required?_of_found wordForm_readBy hblue, required?_of_found wordForm_readBy halpha,
      required?_of_found wordForm_readBy hdepth, required?_of_found wordForm_readBy hstencil]
    rfl
  keeps := fun {value a} h => by
    obtain ⟨found, hfields, h⟩ := Option.bind_eq_some_iff.1 h
    obtain ⟨red, hred, h⟩ := Option.bind_eq_some_iff.1 h
    obtain ⟨green, hgreen, h⟩ := Option.bind_eq_some_iff.1 h
    obtain ⟨blue, hblue, h⟩ := Option.bind_eq_some_iff.1 h
    obtain ⟨alpha, halpha, h⟩ := Option.bind_eq_some_iff.1 h
    obtain ⟨depth, hdepth, h⟩ := Option.bind_eq_some_iff.1 h
    obtain ⟨stencil, hstencil, -⟩ := Option.bind_eq_some_iff.1 h
    refine ⟨found, hfields, ?_⟩
    simp only [formatRecord, List.forall_mem_cons]
    exact ⟨not_lost_of_required? wordForm_readBy hred, not_lost_of_required? wordForm_readBy hgreen,
      not_lost_of_required? wordForm_readBy hblue, not_lost_of_required? wordForm_readBy halpha,
      not_lost_of_required? wordForm_readBy hdepth, not_lost_of_required? wordForm_readBy hstencil, nofun⟩

theorem memory?_readsFields : ReadsFields memoryRecord memory? where
  distinct := by decide
  reads := fun {value found a} hfields hfound => by
    simp only [memoryRecord, List.forall_mem_cons] at hfound
    obtain ⟨htotal, hused, hfree, -⟩ := hfound
    refine Option.bind_eq_some_iff.2 ⟨found, hfields, ?_⟩
    simp only [required?_of_found wordForm_readBy htotal, required?_of_found wordForm_readBy hused,
      required?_of_found wordForm_readBy hfree]
    rfl
  keeps := fun {value a} h => by
    obtain ⟨found, hfields, h⟩ := Option.bind_eq_some_iff.1 h
    obtain ⟨total, htotal, h⟩ := Option.bind_eq_some_iff.1 h
    obtain ⟨used, hused, h⟩ := Option.bind_eq_some_iff.1 h
    obtain ⟨free, hfree, -⟩ := Option.bind_eq_some_iff.1 h
    refine ⟨found, hfields, ?_⟩
    simp only [memoryRecord, List.forall_mem_cons]
    exact ⟨not_lost_of_required? wordForm_readBy htotal, not_lost_of_required? wordForm_readBy hused,
      not_lost_of_required? wordForm_readBy hfree, nofun⟩

theorem libraryNames?_readsFields : ReadsFields libraryRecord libraryNames? where
  distinct := by decide
  reads := fun {value found a} hfields hfound => by
    simp only [libraryRecord, List.forall_mem_cons] at hfound
    obtain ⟨hegl, hgles, hvulkan, -⟩ := hfound
    refine Option.bind_eq_some_iff.2 ⟨found, hfields, ?_⟩
    simp only [optional?_of_found textsForm_readBy hegl, optional?_of_found textsForm_readBy hgles,
      optional?_of_found textsForm_readBy hvulkan]
    rfl
  keeps := fun {value a} h => by
    obtain ⟨found, hfields, h⟩ := Option.bind_eq_some_iff.1 h
    obtain ⟨egl, hegl, h⟩ := Option.bind_eq_some_iff.1 h
    obtain ⟨gles, hgles, h⟩ := Option.bind_eq_some_iff.1 h
    obtain ⟨vulkan, hvulkan, -⟩ := Option.bind_eq_some_iff.1 h
    refine ⟨found, hfields, ?_⟩
    simp only [libraryRecord, List.forall_mem_cons]
    exact ⟨not_lost_of_optional? textsForm_readBy hegl, not_lost_of_optional? textsForm_readBy hgles,
      not_lost_of_optional? textsForm_readBy hvulkan, nofun⟩

theorem snapshotSettings?_readsFields : ReadsFields snapshotSettingsRecord snapshotSettings? where
  distinct := by decide
  reads := fun {value found a} hfields hfound => by
    simp only [snapshotSettingsRecord, List.forall_mem_cons] at hfound
    obtain ⟨hshuffle, hrun, hmax, -⟩ := hfound
    refine Option.bind_eq_some_iff.2 ⟨found, hfields, ?_⟩
    simp only [optional?_of_found flagForm_readBy hshuffle, optional?_of_found flagForm_readBy hrun,
      optional?_of_found sizeForm_readBy hmax]
    rfl
  keeps := fun {value a} h => by
    obtain ⟨found, hfields, h⟩ := Option.bind_eq_some_iff.1 h
    obtain ⟨shuffleOrder, hshuffle, h⟩ := Option.bind_eq_some_iff.1 h
    obtain ⟨runBenchmark, hrun, h⟩ := Option.bind_eq_some_iff.1 h
    obtain ⟨maxExtensions, hmax, -⟩ := Option.bind_eq_some_iff.1 h
    refine ⟨found, hfields, ?_⟩
    simp only [snapshotSettingsRecord, List.forall_mem_cons]
    exact ⟨not_lost_of_optional? flagForm_readBy hshuffle, not_lost_of_optional? flagForm_readBy hrun,
      not_lost_of_optional? sizeForm_readBy hmax, nofun⟩

theorem settings?_readsFields : ReadsFields settingsRecord settings? where
  distinct := by decide
  reads := fun {value found a} hfields hfound => by
    simp only [settingsRecord, List.forall_mem_cons] at hfound
    obtain ⟨hlibraries, hsnapshot, -⟩ := hfound
    refine Option.bind_eq_some_iff.2 ⟨found, hfields, ?_⟩
    simp only [optional?_of_found libraryNames?_readsFields.readBy hlibraries,
      optional?_of_found snapshotSettings?_readsFields.readBy hsnapshot]
    rfl
  keeps := fun {value a} h => by
    obtain ⟨found, hfields, h⟩ := Option.bind_eq_some_iff.1 h
    obtain ⟨libraries, hlibraries, h⟩ := Option.bind_eq_some_iff.1 h
    obtain ⟨snapshot, hsnapshot, -⟩ := Option.bind_eq_some_iff.1 h
    refine ⟨found, hfields, ?_⟩
    simp only [settingsRecord, List.forall_mem_cons]
    exact ⟨not_lost_of_optional? libraryNames?_readsFields.readBy hlibraries,
      not_lost_of_optional? snapshotSettings?_readsFields.readBy hsnapshot, nofun⟩

theorem snapshot?_readsFields : ReadsFields snapshotRecord snapshot? where
  distinct := by decide
  reads := fun {value found a} hfields hfound => by
    simp only [snapshotRecord, List.forall_mem_cons] at hfound
    obtain ⟨hrenderer, hvendor, hversion, hdisplayVendor, hextensions, hcount, hformat, hmemory, htexture,
      hinvocations, hcompute, hvulkan, htime, hcontext, -⟩ := hfound
    refine Option.bind_eq_some_iff.2 ⟨found, hfields, ?_⟩
    refine Option.bind_eq_some_iff.2 ⟨_, required?_of_found textForm_readBy hrenderer, ?_⟩
    refine Option.bind_eq_some_iff.2 ⟨_, required?_of_found textForm_readBy hvendor, ?_⟩
    refine Option.bind_eq_some_iff.2 ⟨_, required?_of_found textForm_readBy hversion, ?_⟩
    refine Option.bind_eq_some_iff.2 ⟨_, required?_of_found textForm_readBy hdisplayVendor, ?_⟩
    refine Option.bind_eq_some_iff.2 ⟨_, required?_of_found textsForm_readBy hextensions, ?_⟩
    refine Option.bind_eq_some_iff.2 ⟨_, required?_of_found sizeForm_readBy hcount, ?_⟩
    refine Option.bind_eq_some_iff.2 ⟨_, required?_of_found format?_readsFields.readBy hformat, ?_⟩
    refine Option.bind_eq_some_iff.2 ⟨_, required?_of_found memory?_readsFields.readBy hmemory, ?_⟩
    refine Option.bind_eq_some_iff.2 ⟨_, required?_of_found wordForm_readBy htexture, ?_⟩
    refine Option.bind_eq_some_iff.2 ⟨_, required?_of_found wordForm_readBy hinvocations, ?_⟩
    refine Option.bind_eq_some_iff.2 ⟨_, required?_of_found flagForm_readBy hcompute, ?_⟩
    refine Option.bind_eq_some_iff.2 ⟨_, required?_of_found flagForm_readBy hvulkan, ?_⟩
    refine Option.bind_eq_some_iff.2 ⟨_, required?_of_found timeForm_readBy htime, ?_⟩
    -- only the version of the context is read by the kind of the value
    split
    next harray =>
      rw [harray] at hcontext
      exact Option.bind_eq_some_iff.2 ⟨_, required?_of_found_array heldVersionForm_readBy hcontext, rfl⟩
    next => exact Option.bind_eq_some_iff.2 ⟨_, optional?_of_found heldVersionForm_readBy hcontext, rfl⟩
  keeps := fun {value a} h => by
    obtain ⟨found, hfields, h⟩ := Option.bind_eq_some_iff.1 h
    obtain ⟨renderer, hrenderer, h⟩ := Option.bind_eq_some_iff.1 h
    obtain ⟨vendor, hvendor, h⟩ := Option.bind_eq_some_iff.1 h
    obtain ⟨version, hversion, h⟩ := Option.bind_eq_some_iff.1 h
    obtain ⟨displayVendor, hdisplayVendor, h⟩ := Option.bind_eq_some_iff.1 h
    obtain ⟨extensions, hextensions, h⟩ := Option.bind_eq_some_iff.1 h
    obtain ⟨count, hcount, h⟩ := Option.bind_eq_some_iff.1 h
    obtain ⟨format, hformat, h⟩ := Option.bind_eq_some_iff.1 h
    obtain ⟨memory, hmemory, h⟩ := Option.bind_eq_some_iff.1 h
    obtain ⟨texture, htexture, h⟩ := Option.bind_eq_some_iff.1 h
    obtain ⟨invocations, hinvocations, h⟩ := Option.bind_eq_some_iff.1 h
    obtain ⟨compute, hcompute, h⟩ := Option.bind_eq_some_iff.1 h
    obtain ⟨vulkan, hvulkan, h⟩ := Option.bind_eq_some_iff.1 h
    obtain ⟨time, htime, h⟩ := Option.bind_eq_some_iff.1 h
    have hcontext : ¬(.optional "contextVersion" heldVersionForm (·.contextVersion) none :
        Field (Snapshot Float)).Lost found := by
      split at h
      next =>
        obtain ⟨held, hheld, -⟩ := Option.bind_eq_some_iff.1 h
        exact not_lost_of_required?_array heldVersionForm_readBy hheld
      next =>
        obtain ⟨held, hheld, -⟩ := Option.bind_eq_some_iff.1 h
        exact not_lost_of_optional? heldVersionForm_readBy hheld
    refine ⟨found, hfields, ?_⟩
    simp only [snapshotRecord, List.forall_mem_cons]
    exact ⟨not_lost_of_required? textForm_readBy hrenderer, not_lost_of_required? textForm_readBy hvendor,
      not_lost_of_required? textForm_readBy hversion, not_lost_of_required? textForm_readBy hdisplayVendor,
      not_lost_of_required? textsForm_readBy hextensions, not_lost_of_required? sizeForm_readBy hcount,
      not_lost_of_required? format?_readsFields.readBy hformat,
      not_lost_of_required? memory?_readsFields.readBy hmemory, not_lost_of_required? wordForm_readBy htexture,
      not_lost_of_required? wordForm_readBy hinvocations, not_lost_of_required? flagForm_readBy hcompute,
      not_lost_of_required? flagForm_readBy hvulkan, not_lost_of_required? timeForm_readBy htime, hcontext, nofun⟩

/-! ## Any form -/

/-- **A record does not depend on how it is written.**  A snapshot, a surface's format, its memory and the settings are
read from any object that has their fields, in any order and with any others between them, from the array of their
fields in order, and from any mix of the two.  A field that is left out of an object has its default; without a default,
or with a field twice, there is no record. -/
theorem read_of_form :
    (recordForm snapshotRecord).ReadBy snapshot? ∧ (recordForm formatRecord).ReadBy format? ∧
    (recordForm memoryRecord).ReadBy memory? ∧ (recordForm settingsRecord).ReadBy settings? ∧
    (recordForm libraryRecord).ReadBy libraryNames? ∧ (recordForm snapshotSettingsRecord).ReadBy snapshotSettings? :=
  ⟨snapshot?_readsFields.readBy, format?_readsFields.readBy, memory?_readsFields.readBy, settings?_readsFields.readBy,
    libraryNames?_readsFields.readBy, snapshotSettings?_readsFields.readBy⟩

/-- Lists of libraries out of order and without one, among members that no record knows. -/
def shuffledLibraries : Value :=
  .object [(some "vulkan", ofTexts ["b"]), (some "", .text none), (some "egl", ofTexts ["a"])]

theorem shuffledLibraries_written :
    Written libraryRecord { egl := ["a"], vulkan := ["b"] } shuffledLibraries := by
  have hentries : [Field.optional "egl" textsForm LibraryNames.egl defaultEglNames,
      Field.optional "vulkan" textsForm LibraryNames.vulkan defaultVulkanNames].Sublist libraryRecord :=
    (List.Sublist.slnil.cons_cons _ |>.cons _).cons_cons _
  refine @Written.object _ _ _ [(_, ofTexts ["a"]), (_, ofTexts ["b"])] [(some "", .text none)] _ hentries ?_ ?_ ?_ ?_
  · simp only [libraryRecord, List.forall_mem_cons]
    exact ⟨fun h => absurd List.mem_cons_self h, fun _ => rfl,
      fun h => absurd (List.mem_cons_of_mem _ List.mem_cons_self) h, nofun⟩
  · simp only [List.forall_mem_cons]
    exact ⟨rfl, rfl, nofun⟩
  · simp only [List.forall_mem_cons]
    exact ⟨⟨"", rfl, by decide⟩, nofun⟩
  · exact @List.perm_middle _ (some "egl", ofTexts ["a"]) [_, _] []

theorem listedSnapshot_written :
    Written snapshotSettingsRecord { shuffleOrder := false, runBenchmark := true, maxExtensions := 3 }
      (.array [.bool false, .bool true, ofNat id 3]) := by
  refine @Written.array _ _ _ (snapshotSettingsRecord.zip [.bool false, .bool true, ofNat id 3]) rfl ?_
  simp only [snapshotSettingsRecord, List.zip_cons_cons, List.zip_nil_left, List.forall_mem_cons]
  exact ⟨rfl, rfl, ⟨by decide, rfl⟩, nofun⟩

/-- Settings with their sections in the other order, one of them an array, are read; a memory with a field twice is
not. -/
theorem read_of_form_shuffled :
    settings? (.object [(some "snapshot", .array [.bool false, .bool true, ofNat id 3]),
      (some "x", .array [.null, .object [(none, .null)]]), (some "libraries", shuffledLibraries)]) = some {
        libraries := { egl := ["a"], vulkan := ["b"] },
        snapshot := { shuffleOrder := false, runBenchmark := true, maxExtensions := 3 } } ∧
    memory? (.object [(some "total", ofWord id 4), (some "used", ofWord id 1), (some "free", ofWord id 3),
      (some "used", ofWord id 1)]) = none := by
  obtain ⟨-, -, hmemory, hsettings, -⟩ := read_of_form
  constructor
  · refine hsettings.writes (@Written.object _ settingsRecord _
      (settingsRecord.zip [shuffledLibraries, .array [.bool false, .bool true, ofNat id 3]]) [_] _ (.refl _) ?_ ?_ ?_
      (@List.perm_middle _ (some "libraries", shuffledLibraries) [_, _] []))
    · exact fun field hfield hentry => absurd hfield hentry
    · simp only [settingsRecord, List.zip_cons_cons, List.zip_nil_left, List.forall_mem_cons]
      exact ⟨shuffledLibraries_written, listedSnapshot_written, List.forall_mem_nil _⟩
    · simp only [List.forall_mem_cons]
      exact ⟨⟨"x", rfl, by decide⟩, List.forall_mem_nil _⟩
  · refine hmemory.broken (@Broken.repeated _ _ (.required "used" wordForm (·.used)) _ (ofWord id 1) (ofWord id 1)
      ?_ ?_)
    · exact List.mem_cons_of_mem _ List.mem_cons_self
    · exact ((List.Sublist.refl _).cons _).cons_cons _ |>.cons _

end Json
end DriverSurvey
