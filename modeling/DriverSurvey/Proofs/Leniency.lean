import DriverSurvey.Proofs.Completion
import DriverSurvey.Proofs.Encoding
import DriverSurvey.Proofs.Whereabouts
/-!
# Leniency — settings from any file, usable in any case

What comes of a file is one of a few outcomes (`Reads`): it cannot be read, is no text, no document, spells no settings
or none that are usable, or is accepted.  The lenient reading takes the settings of an accepted file and the defaults
for every other, with a warning unless there is no file (`loadLeniently_of_file`).
-/
namespace DriverSurvey
namespace Settings

/-! ## What comes of a file -/

/-- What comes of a file when its settings are loaded. -/
inductive Reads : FileState → Except Fault Settings → Prop where
  | unreadable (failure : ReadFailure) : Reads (.error failure) (.error (.unreadable failure))
  /-- The octets are not those of a text. -/
  | garbled {octets : List UInt8} (h : ∀ text : String, octets ≠ text.toUTF8.toList) :
    Reads (.ok octets) (.error (.unreadable .notUtf8))
  /-- The text is no document. -/
  | malformed {text : String} (h : Toml.parse text = none) :
    Reads (.ok text.toUTF8.toList) (.error (.badSettings .malformed))
  /-- A value in the document is not of the kind its key asks for. -/
  | misfit {text : String} {members : Toml.Members} (hparse : Toml.parse text = some members)
      (h : ofMembers? members = none) : Reads (.ok text.toUTF8.toList) (.error (.badSettings .malformed))
  /-- A list of libraries is not usable.  The fault names the first that is not. -/
  | unusable {text : String} {members : Toml.Members} {settings : Settings} {before after : List (String × List String)}
      {key : String} {names : List String} (hparse : Toml.parse text = some members)
      (hread : ofMembers? members = some settings) (hlists : settings.lists = before ++ (key, names) :: after)
      (hbefore : ∀ list ∈ before, Usable list.2) (hnames : ¬Usable names) :
    Reads (.ok text.toUTF8.toList) (.error (.badSettings (.unusable (listComplaint key))))
  | accepted {text : String} {members : Toml.Members} {settings : Settings} (hparse : Toml.parse text = some members)
      (hread : ofMembers? members = some settings) (husable : ∀ list ∈ settings.lists, Usable list.2) :
    Reads (.ok text.toUTF8.toList) (.ok settings)

theorem load_text (text : String) : load (.ok text.toUTF8.toList) = ofToml text := by
  rw [load, decodeUtf8?_toUTF8]
  exact congrArg ofToml (String.ofList_toList)

theorem load_garbled {octets : List UInt8} (h : ∀ text : String, octets ≠ text.toUTF8.toList) :
    load (.ok octets) = .error (.unreadable .notUtf8) := by
  have hnone : decodeUtf8? octets = none :=
    Option.eq_none_iff_forall_ne_some.2 fun chars hchars => h _ (decodeUtf8?_eq_some_iff.1 hchars)
  rw [load, hnone]

theorem Reads.load_eq {file : FileState} {outcome : Except Fault Settings} (h : Reads file outcome) :
    load file = outcome := by
  cases h with
  | unreadable failure => rfl
  | garbled h => exact load_garbled h
  | malformed h => rw [load_text, ofToml, h]; rfl
  | misfit hparse h => rw [load_text, ofToml_of_none hparse h]
  | unusable hparse hread hlists hbefore hnames =>
    rw [load_text, ofToml_of_some hparse hread, checked, flaw?_of_first hlists hbefore hnames]
  | accepted hparse hread husable => rw [load_text, (ofToml_eq_ok_iff hparse _).2 ⟨hread, husable⟩]

theorem reads_ofToml (text : String) : Reads (.ok text.toUTF8.toList) (ofToml text) := by
  cases hparse : Toml.parse text with
  | none =>
    have hmalformed : ofToml text = .error (.badSettings .malformed) := by rw [ofToml, hparse]; rfl
    rw [hmalformed]
    exact .malformed hparse
  | some members =>
    cases hread : ofMembers? members with
    | none => rw [ofToml_of_none hparse hread]; exact .misfit hparse hread
    | some settings =>
      rw [ofToml_of_some hparse hread]
      cases hflaw : settings.lists.find? fun list => !isUsableList list.2 with
      | none =>
        have husable : ∀ list ∈ settings.lists, Usable list.2 :=
          (flaw?_eq_none_iff_usable settings).1 (congrArg (Option.map _) hflaw)
        rw [checked_eq_ok_iff.2 ⟨rfl, husable⟩]
        exact .accepted hparse hread husable
      | some list =>
        obtain ⟨hlist, before, after, hlists, hbefore⟩ := List.find?_eq_some_iff_append.1 hflaw
        have hbefore : ∀ list ∈ before, Usable list.2 := fun list hmem => by
          simpa [isUsableList_iff] using hbefore list hmem
        have hnames : ¬Usable list.2 := by simpa [← isUsableList_iff] using hlist
        rw [checked, flaw?_of_first hlists hbefore hnames]
        exact .unusable hparse hread hlists hbefore hnames

/-- **Every file comes to one of these outcomes**, and to no other. -/
theorem load_eq_iff {file : FileState} {outcome : Except Fault Settings} :
    load file = outcome ↔ Reads file outcome := by
  constructor
  · rintro rfl
    cases file with
    | error failure => exact .unreadable failure
    | ok octets =>
      by_cases htext : ∃ text : String, octets = text.toUTF8.toList
      · obtain ⟨text, rfl⟩ := htext
        rw [load_text]
        exact reads_ofToml text
      · rw [load_garbled (not_exists.1 htext)]
        exact .garbled (not_exists.1 htext)
  · exact Reads.load_eq

/-! ## Reading leniently -/

theorem usable_default : ∀ list ∈ ({} : Settings).lists, Usable list.2 :=
  (flaw?_eq_none_iff_usable {}).1 (by decide +kernel)

theorem loadLeniently_of_ok {file : FileState} {settings : Settings} (h : load file = .ok settings) :
    loadLeniently file = ⟨settings, 0⟩ := by
  rw [loadLeniently, h]

theorem loadLeniently_of_missing {file : FileState} (h : load file = .error (.unreadable (.system .notFound))) :
    loadLeniently file = ⟨{}, 0⟩ := by
  rw [loadLeniently, h]

theorem loadLeniently_of_error {file : FileState} {fault : Fault} (h : load file = .error fault)
    (hfault : fault ≠ .unreadable (.system .notFound)) : loadLeniently file = ⟨{}, 1⟩ := by
  rw [loadLeniently, h]
  split
  · next heq => cases heq
  · next heq =>
    cases heq
    exact absurd rfl hfault
  · rfl

/-- **Settings are read from any file, and are usable in any case.**  A file whose settings load gives these; no file
gives the defaults; and every other file gives the defaults and one warning, so that nothing of a file that is refused
is kept.  `Reads` lists what comes of a file by its octets, and `Volume.Stands` what file stands at a path. -/
theorem loadLeniently_of_file (file : FileState) :
    let loaded := loadLeniently file
    (∀ list ∈ loaded.settings.lists, Usable list.2) ∧
    (∀ settings, load file = .ok settings → loaded = ⟨settings, 0⟩) ∧
    (load file = .error (.unreadable (.system .notFound)) → loaded = ⟨{}, 0⟩) ∧
    (∀ fault, load file = .error fault → fault ≠ .unreadable (.system .notFound) → loaded = ⟨{}, 1⟩) ∧
    (∀ outcome, load file = outcome ↔ Reads file outcome) ∧
    ∀ (volume : Volume) (here : List String) (path : String),
      volume.read here path = file ↔ volume.Stands here path file := by
  intro loaded
  have husable : ∀ list ∈ loaded.settings.lists, Usable list.2 := by
    cases hload : load file with
    | ok settings =>
      have hloaded : loaded = ⟨settings, 0⟩ := loadLeniently_of_ok hload
      rw [hloaded]
      cases load_eq_iff.1 hload with
      | accepted _ _ husable => exact husable
    | error fault =>
      have hloaded : loaded.settings = {} := by
        by_cases hfault : fault = .unreadable (.system .notFound)
        · subst hfault
          exact congrArg Loaded.settings (loadLeniently_of_missing hload)
        · exact congrArg Loaded.settings (loadLeniently_of_error hload hfault)
      rw [hloaded]
      exact usable_default
  exact ⟨husable, fun _ => loadLeniently_of_ok, loadLeniently_of_missing, fun _ => loadLeniently_of_error,
    fun _ => load_eq_iff, fun _ _ _ => Volume.read_eq_iff⟩

/-- A volume with a file of settings, and one whose octets are no text. -/
def mixedVolume : Volume :=
  [(["good.toml"], .file "[snapshot]\nmax_extensions = 3\n".toUTF8.toList), (["bad.toml"], .file [0xFF])]

theorem loadLeniently_of_mixed :
    let good := mixedVolume.read [] "good.toml"
    let bad := mixedVolume.read [] "bad.toml"
    let missing := mixedVolume.read [] "missing.toml"
    (load good = .ok { snapshot := { maxExtensions := 3 } } ∧ load bad = .error (.unreadable .notUtf8) ∧
      load missing = .error (.unreadable (.system .notFound))) ∧
    loadLeniently good = ⟨{ snapshot := { maxExtensions := 3 } }, 0⟩ ∧ loadLeniently bad = ⟨{}, 1⟩ ∧
      loadLeniently missing = ⟨{}, 0⟩ := by
  intro good bad missing
  have hgood : load good = .ok { snapshot := { maxExtensions := 3 } } := by decide +kernel
  have hbad : load bad = .error (.unreadable .notUtf8) := by decide +kernel
  have hmissing : load missing = .error (.unreadable (.system .notFound)) := by decide +kernel
  obtain ⟨-, haccepted, -⟩ := loadLeniently_of_file good
  obtain ⟨-, -, -, hrefused, -⟩ := loadLeniently_of_file bad
  obtain ⟨-, -, hdefaults, -⟩ := loadLeniently_of_file missing
  exact ⟨⟨hgood, hbad, hmissing⟩, haccepted _ hgood, hrefused _ hbad nofun, hdefaults hmissing⟩

end Settings
end DriverSurvey
