import DriverSurvey.CommandLine.Report
import DriverSurvey.Proofs.Lexing
/-!
# RoundTrip — a report is read back as it was printed

A value that is printed on one line or on many is read as one value, and the reader of a record finds in it the record
that was written (`ReadsAs.jsonText`).  What a record needs for that is shown field by field.
-/
namespace DriverSurvey
namespace Json

open CommandLine (Figure figureOf jsonText)

/-! ## Figures -/

/-- The numeral of a figure.  A measured time has none, and zero stands for it. -/
def numeralOf : Figure → Numeral
  | .exact n => n
  | .measured => .zeroPointZero

/-- A value in which every figure is written as a numeral, and of which a reader makes `a`. -/
structure ReadsAs {α : Type} (tree : Tree Figure) (read : Value → Option α) (a : α) : Prop where
  numerals : tree.Numbers (IsNumeral Figure.text numeralOf)
  reads : read (tree.value numeralOf) = some a

theorem read?_jsonText {tree : Tree Figure} (h : tree.Numbers (IsNumeral Figure.text numeralOf)) (pretty : Bool) :
    read? (jsonText pretty tree) = some (tree.value numeralOf) := by
  cases pretty with
  | true => exact read?_pretty 0 h
  | false => exact read?_compact h

/-- **What is printed is read back**, on one line or on many. -/
theorem ReadsAs.jsonText {α : Type} {tree : Tree Figure} {read : Value → Option α} {a : α} (h : ReadsAs tree read a)
    (pretty : Bool) : (read? (jsonText pretty tree)).bind read = some a := by
  rw [read?_jsonText h.numerals, Option.bind_some, h.reads]

/-! ## Values -/

theorem readsAs_ofText (text : String) : ReadsAs (ofText text) text? text where
  numerals := trivial
  reads := rfl

theorem readsAs_bool (b : Bool) : ReadsAs (.bool b) bool? b where
  numerals := trivial
  reads := rfl

theorem isNumeral_exact {n : Numeral} (h : n.WellFormed) : IsNumeral Figure.text numeralOf (.exact n) :=
  ⟨rfl, h⟩

theorem isNumeral_notRun : IsNumeral Figure.text numeralOf (figureOf .notRun) :=
  isNumeral_exact Numeral.wellFormed_zeroPointZero

theorem readsAs_notRun : ReadsAs (.number (figureOf .notRun)) float? 0.0 where
  numerals := isNumeral_notRun
  reads := rfl

theorem readsAs_ofNat {n : Nat} (h : n < 2 ^ 64) : ReadsAs (ofNat Figure.exact n) size? n where
  numerals := isNumeral_exact (Numeral.wellFormed_ofNat n)
  reads := Numeral.toNatBelow?_ofNat h

theorem readsAs_ofWord (n : UInt32) : ReadsAs (ofWord Figure.exact n) word? n where
  numerals := isNumeral_exact (Numeral.wellFormed_ofNat n.toNat)
  reads := by
    have hnat : natBelow? (Nat.pow 2 32) ((ofWord Figure.exact n).value numeralOf) = some n.toNat :=
      Numeral.toNatBelow?_ofNat n.toNat_lt
    unfold word?
    rw [hnat, Option.map_some, UInt32.ofNat_toNat]

theorem readsAs_ofTexts (texts : List String) : ReadsAs (ofTexts texts) texts? texts where
  numerals := by
    show itemNumbers _ (texts.map ofText)
    induction texts with
    | nil => trivial
    | cons text texts ih => exact ⟨trivial, ih⟩
  reads := by
    show (itemValues numeralOf (texts.map ofText)).mapM text? = some texts
    induction texts with
    | nil => rfl
    | cons text texts ih =>
      rw [List.map_cons, itemValues, List.mapM_cons, ih]
      rfl

theorem readsAs_ofVersion (version : EsVersion) : ReadsAs (ofVersion version) version? version where
  numerals := trivial
  reads := EsVersion.ofKey?_key version

theorem readsAs_heldVersion : ∀ held : Option EsVersion, ReadsAs (ofOption ofVersion held) heldVersion? held
  | none => ⟨trivial, rfl⟩
  | some version => ⟨trivial, congrArg (Option.map some) (EsVersion.ofKey?_key version)⟩

/-! ## Records -/

theorem knownMembers?_zip {names : List String} : ∀ {keys : List String} {values : List Value},
    (∀ key ∈ keys, key ∈ names) → keys.Nodup → knownMembers? names ((keys.map some).zip values) = some (keys.zip values)
  | [], _, _, _ | _ :: _, [], _, _ => rfl
  | key :: keys, value :: values, hknown, hdistinct => by
    rw [List.nodup_cons] at hdistinct
    have hrest := @knownMembers?_zip names keys values (fun key' hkey => hknown key' (List.mem_cons_of_mem _ hkey))
      hdistinct.2
    have hkey : names.contains key = true := List.contains_iff_mem.2 (hknown _ List.mem_cons_self)
    have hlookup : (keys.zip values).lookup key = none := by
      rw [List.lookup_eq_none_iff]
      rintro ⟨other, value'⟩ hfield
      have hother : other ∈ keys := (List.of_mem_zip hfield).1
      rw [bne_iff_ne]
      rintro rfl
      exact hdistinct.1 hother
    rw [List.map_cons, List.zip_cons_cons, knownMembers?, hrest]
    simp only [hkey, hlookup, if_true]
    rfl

theorem memberValues_eq : ∀ {members : List (Option String × Tree Figure)} {names : List String},
    members.map Prod.fst = names.map some → memberValues numeralOf members =
      (names.map some).zip (members.map fun member => member.2.value numeralOf)
  | [], names, _ => by simp [memberValues]
  | _ :: _, [], hnames => by simp at hnames
  | (key, tree) :: members, name :: names, hnames => by
    rw [List.map_cons, List.map_cons, List.cons.injEq] at hnames
    obtain ⟨rfl, hnames⟩ := hnames
    rw [memberValues, memberValues_eq hnames]
    rfl

theorem lookup_zip : ∀ {members : List (Option String × Tree Figure)} {names : List String},
    members.map Prod.fst = names.map some → names.Nodup → ∀ member ∈ members,
    (member.1.bind fun name => (names.zip (members.map fun member => member.2.value numeralOf)).lookup name) =
      some (member.2.value numeralOf)
  | [], _, _, _, _, hmember => absurd hmember List.not_mem_nil
  | _ :: _, [], hnames, _, _, _ => by simp at hnames
  | (key, tree) :: members, name :: names, hnames, hdistinct, member, hmember => by
    rw [List.map_cons, List.map_cons, List.cons.injEq] at hnames
    rw [List.nodup_cons] at hdistinct
    obtain ⟨rfl, hnames⟩ := hnames
    rcases List.mem_cons.1 hmember with rfl | hmember
    · simp
    · have hrest := lookup_zip hnames hdistinct.2 member hmember
      have hkey : member.1 ∈ names.map some := by
        rw [← hnames]
        exact List.mem_map_of_mem hmember
      obtain ⟨other, hother, hkey⟩ := List.mem_map.1 hkey
      have hne : (other == name) = false := by
        rw [beq_eq_false_iff_ne]
        rintro rfl
        exact hdistinct.1 hother
      rw [← hkey, Option.bind_some] at hrest ⊢
      rw [List.map_cons, List.zip_cons_cons, List.lookup_cons, hne, hrest]

/-- **A record is read from its fields**, if it is written with its names in order: each stands under its name. -/
theorem read_record {α : Type} {tree : Tree Figure} {members : List (Option String × Tree Figure)} {names : List String}
    {build : List (String × Value) → Option α} {a : α} (htree : tree = .object members)
    (hnames : members.map Prod.fst = names.map some) (hdistinct : names.Nodup)
    (hbuild : ∀ fields, (∀ member ∈ members, (member.1.bind fun name => fields.lookup name) =
      some (member.2.value numeralOf)) → build fields = some a) :
    (fields? names (tree.value numeralOf) >>= build) = some a := by
  have hfields : fields? names (tree.value numeralOf) =
      some (names.zip (members.map fun member => member.2.value numeralOf)) := by
    rw [htree]
    show knownMembers? names (memberValues numeralOf members) = _
    rw [memberValues_eq hnames]
    exact knownMembers?_zip (fun _ h => h) hdistinct
  rw [hfields, Option.bind_eq_bind, Option.bind_some]
  exact hbuild _ (lookup_zip hnames hdistinct)

theorem readsAs_ofFormat (format : SurfaceFormat) : ReadsAs (ofFormat Figure.exact format) format? format where
  numerals := by
    simp [ofFormat, member, Tree.Numbers, memberNumbers, (readsAs_ofWord _).numerals]
  reads := by
    unfold format?
    refine read_record rfl rfl (by decide) fun fields hlookup => ?_
    simp only [List.forall_mem_cons, member, Option.bind_some] at hlookup
    simp [hlookup, required?, (readsAs_ofWord _).reads]

theorem readsAs_ofMemory (memory : VideoMemory) : ReadsAs (ofMemory Figure.exact memory) memory? memory where
  numerals := by
    simp [ofMemory, member, Tree.Numbers, memberNumbers, (readsAs_ofWord _).numerals]
  reads := by
    unfold memory?
    refine read_record rfl rfl (by decide) fun fields hlookup => ?_
    simp only [List.forall_mem_cons, member, Option.bind_some] at hlookup
    simp [hlookup, required?, (readsAs_ofWord _).reads]

/-- **A snapshot without a benchmark reads as it was**, its time as zero. -/
theorem readsAs_ofSnapshot {s : Snapshot Timing} (hrun : s.benchmark = .notRun) (hcount : s.extensionCount < 2 ^ 64) :
    ReadsAs (ofSnapshot Figure.exact figureOf s) snapshot? (s.withReading 0.0) where
  numerals := by
    simp [ofSnapshot, member, hrun, Tree.Numbers, memberNumbers, isNumeral_notRun, (readsAs_ofText _).numerals,
      (readsAs_ofTexts _).numerals, (readsAs_ofNat hcount).numerals, (readsAs_ofFormat _).numerals,
      (readsAs_ofMemory _).numerals, (readsAs_ofWord _).numerals, (readsAs_heldVersion _).numerals]
  reads := by
    unfold snapshot?
    refine read_record rfl rfl (by decide) fun fields hlookup => ?_
    simp only [List.forall_mem_cons, member, Option.bind_some] at hlookup
    have harray : isArray ((ofSnapshot Figure.exact figureOf s).value numeralOf) = false := rfl
    -- the fields first, the binds after them: `simp` would go through each bind twice
    simp only [hlookup, harray, hrun, required?, optional?, (readsAs_ofText _).reads, (readsAs_ofTexts _).reads,
      (readsAs_ofNat hcount).reads, (readsAs_ofFormat _).reads, (readsAs_ofMemory _).reads, (readsAs_ofWord _).reads,
      (readsAs_bool _).reads, readsAs_notRun.reads, (readsAs_heldVersion _).reads]
    rfl

/-! ## Settings -/

theorem readsAs_ofLibraryNames (names : LibraryNames) : ReadsAs (ofLibraryNames names) libraryNames? names where
  numerals := by
    simp [ofLibraryNames, member, Tree.Numbers, memberNumbers, (readsAs_ofTexts _).numerals]
  reads := by
    unfold libraryNames?
    refine read_record rfl rfl (by decide) fun fields hlookup => ?_
    simp only [List.forall_mem_cons, member, Option.bind_some] at hlookup
    simp [hlookup, optional?, (readsAs_ofTexts _).reads]

theorem readsAs_ofSnapshotSettings {settings : SnapshotSettings} (h : settings.maxExtensions < 2 ^ 64) :
    ReadsAs (ofSnapshotSettings Figure.exact settings) snapshotSettings? settings where
  numerals := by
    simp [ofSnapshotSettings, member, Tree.Numbers, memberNumbers, (readsAs_ofNat h).numerals]
  reads := by
    unfold snapshotSettings?
    refine read_record rfl rfl (by decide) fun fields hlookup => ?_
    simp only [List.forall_mem_cons, member, Option.bind_some] at hlookup
    simp [hlookup, optional?, (readsAs_bool _).reads, (readsAs_ofNat h).reads]

theorem readsAs_ofSettings {settings : Settings} (h : settings.snapshot.maxExtensions < 2 ^ 64) :
    ReadsAs (ofSettings Figure.exact settings) settings? settings where
  numerals := by
    simp [ofSettings, member, Tree.Numbers, memberNumbers, (readsAs_ofLibraryNames _).numerals,
      (readsAs_ofSnapshotSettings h).numerals]
  reads := by
    unfold settings?
    refine read_record rfl rfl (by decide) fun fields hlookup => ?_
    simp only [List.forall_mem_cons, member, Option.bind_some] at hlookup
    simp [hlookup, optional?, (readsAs_ofLibraryNames _).reads, (readsAs_ofSnapshotSettings h).reads]

/-! ## Reports -/

/-- **What is printed of a survey is read back**, on one line or on many.  A snapshot in which no benchmark was run is
read as it was, whatever its texts, its extensions and its numbers, the zero of its benchmark with it, and both layouts
are one value.  So are a surface's format, its memory, a version and the settings. -/
theorem jsonText_round_trip (s : Snapshot Timing) (hrun : s.benchmark = .notRun) (hcount : s.extensionCount < 2 ^ 64)
    (settings : Settings) (hmax : settings.snapshot.maxExtensions < 2 ^ 64) (format : SurfaceFormat)
    (memory : VideoMemory) (version : EsVersion) :
    (∀ pretty, (read? (jsonText pretty (ofSnapshot Figure.exact figureOf s))).bind snapshot? =
      some (s.withReading 0.0)) ∧
    (∃ value, read? (jsonText false (ofSnapshot Figure.exact figureOf s)) = some value ∧
      read? (jsonText true (ofSnapshot Figure.exact figureOf s)) = some value) ∧
    ∀ pretty,
      (read? (jsonText pretty (ofFormat Figure.exact format))).bind format? = some format ∧
      (read? (jsonText pretty (ofMemory Figure.exact memory))).bind memory? = some memory ∧
      (read? (jsonText pretty (ofVersion version))).bind version? = some version ∧
      (read? (jsonText pretty (ofSettings Figure.exact settings))).bind settings? = some settings := by
  have hsnapshot := readsAs_ofSnapshot hrun hcount
  refine ⟨hsnapshot.jsonText, ⟨_, read?_jsonText hsnapshot.numerals false, read?_jsonText hsnapshot.numerals true⟩, ?_⟩
  intro pretty
  have hformat := (readsAs_ofFormat format).jsonText pretty
  have hmemory := (readsAs_ofMemory memory).jsonText pretty
  have hversion := (readsAs_ofVersion version).jsonText pretty
  have hsettings := (readsAs_ofSettings hmax).jsonText pretty
  exact ⟨hformat, hmemory, hversion, hsettings⟩

/-- A snapshot with quotes, backslashes and control characters in its texts, and as many extensions as can be
counted. -/
def awkward : Snapshot Timing where
  renderer := "a \"quoted\" \\ name"
  vendor := "\x01\n\t\x7f"
  version := "é 😀"
  displayVendor := ""
  extensions := ["\"", "\\", "", "\x00"]
  extensionCount := 2 ^ 64 - 1
  configuration := ⟨8, 8, 8, 8, 24, 4294967295⟩
  memory := .unknown
  maxTextureSize := 16384
  computeInvocations := 0
  computeSupported := false
  vulkanSupported := true
  benchmark := .notRun
  contextVersion := some .es3

theorem jsonText_round_trip_awkward :
    (awkward.benchmark = .notRun ∧ awkward.extensionCount < 2 ^ 64 ∧
      ({} : Settings).snapshot.maxExtensions < 2 ^ 64) ∧
    (read? (jsonText true (ofSnapshot Figure.exact figureOf awkward))).bind snapshot? =
      some (awkward.withReading 0.0) ∧
    (read? (jsonText false (ofSettings Figure.exact {}))).bind settings? = some {} := by
  have h := jsonText_round_trip awkward rfl (by decide) {} (by decide) .unknown .unknown .es3
  exact ⟨⟨rfl, by decide, by decide⟩, h.1 true, (h.2.2 false).2.2.2⟩

end Json
end DriverSurvey
