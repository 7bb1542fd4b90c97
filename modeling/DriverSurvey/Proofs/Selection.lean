import DriverSurvey.Machine.Native
/-!
# Selection — what comes of the candidates for a driver

Libraries are tried in order until one opens, and the required functions are looked up in it until one is missing
(`loadLibrary_selects`).  The calls of this leave the library of the driver open, and no other
(`Shelf.Selects.leftOpen`).
-/
namespace DriverSurvey

open Program

namespace Shelf

variable (shelf : Shelf)

/-! ## Outcomes -/

/-- A library is tried under a name. -/
def attempt (name : String) : Event NativeCalls :=
  ⟨.openLibrary name, shelf.openLibrary name⟩

/-- A function is looked up in an open library. -/
def look (library symbol : String) : Event NativeCalls :=
  ⟨.findSymbol library symbol, shelf.exports library symbol⟩

/-- Nothing opens under the name. -/
def Refuses (name : String) : Prop :=
  ∃ failure, shelf.openLibrary name = .error failure

/-- What comes of the candidates for a driver, and the calls on the way: the candidates, the outcome, the calls. -/
inductive Selects (kind : String) (required : List String) :
    List String → Except Fault String → List (Event NativeCalls) → Prop where
  | unconfigured :
    Selects kind required [] (.error (.notLoaded (kind ++ " (" ++ "no candidates configured" ++ ")"))) []
  /-- None opens.  The fault names the last. -/
  | noneOpens {before : List String} {last : String} {failure : OpenFailure}
      (hbefore : ∀ name ∈ before, shelf.Refuses name) (hlast : shelf.openLibrary last = .error failure) :
    Selects kind required (before ++ [last])
      (.error (.notLoaded (kind ++ " (" ++ (last ++ ": " ++ failure.text last) ++ ")")))
      ((before ++ [last]).map shelf.attempt)
  /-- The first that opens lacks a function.  The fault names the first that it lacks, and it is closed again. -/
  | lacks {before after present absent : List String} {library linked symbol : String}
      (hbefore : ∀ name ∈ before, shelf.Refuses name) (hopen : shelf.openLibrary library = .ok linked)
      (hrequired : required = present ++ symbol :: absent) (hpresent : ∀ s ∈ present, shelf.exports library s = true)
      (hlacks : shelf.exports library symbol = false) :
    Selects kind required (before ++ library :: after) (.error (.notLoaded (missingText linked symbol)))
      ((before ++ [library]).map shelf.attempt ++
        ((present ++ [symbol]).map (shelf.look library) ++ [⟨.closeLibrary library, ()⟩]))
  /-- The first that opens has all that is required. -/
  | binds {before after : List String} {library linked : String}
      (hbefore : ∀ name ∈ before, shelf.Refuses name) (hopen : shelf.openLibrary library = .ok linked)
      (hrequired : ∀ symbol ∈ required, shelf.exports library symbol = true) :
    Selects kind required (before ++ library :: after) (.ok library)
      ((before ++ [library]).map shelf.attempt ++ required.map (shelf.look library))

variable {shelf}

/-! ## Trying and looking up -/

theorem refuses_iff {name : String} : shelf.Refuses name ↔ (shelf.openLibrary name).isOk = false := by
  unfold Refuses
  cases shelf.openLibrary name with
  | ok linked => exact ⟨nofun, nofun⟩
  | error failure => exact ⟨fun _ => rfl, fun _ => ⟨failure, rfl⟩⟩

theorem exists_opens (shelf : Shelf) (candidates : List String) :
    (∀ name ∈ candidates, shelf.Refuses name) ∨ ∃ before library after linked,
      candidates = before ++ library :: after ∧ (∀ name ∈ before, shelf.Refuses name) ∧
        shelf.openLibrary library = .ok linked := by
  cases hfind : candidates.find? fun name => (shelf.openLibrary name).isOk with
  | none => exact .inl (by simpa [refuses_iff] using hfind)
  | some library =>
    obtain ⟨hopens, before, after, hsplit, hbefore⟩ := List.find?_eq_some_iff_append.1 hfind
    cases hopen : shelf.openLibrary library with
    | error failure => rw [hopen] at hopens; cases hopens
    | ok linked => exact .inr ⟨before, library, after, linked, hsplit, by simpa [refuses_iff] using hbefore, hopen⟩

theorem exists_lacks (shelf : Shelf) (library : String) (required : List String) :
    (∀ symbol ∈ required, shelf.exports library symbol = true) ∨ ∃ present symbol absent,
      required = present ++ symbol :: absent ∧ (∀ s ∈ present, shelf.exports library s = true) ∧
        shelf.exports library symbol = false := by
  cases hfind : required.find? fun symbol => !shelf.exports library symbol with
  | none => exact .inl (by simpa using hfind)
  | some symbol =>
    obtain ⟨hlacks, present, absent, hsplit, hpresent⟩ := List.find?_eq_some_iff_append.1 hfind
    exact .inr ⟨present, symbol, absent, hsplit, by simpa using hpresent, by simpa using hlacks⟩

/-- **Names under which nothing opens are passed over**, each tried once.  Only the words for the last failure stay. -/
theorem openFirst_append (d : DriverState) (rest : List String) : ∀ {before : List String} (last : String),
    (∀ name ∈ before, shelf.Refuses name) → ∃ words,
      (openFirst last (before ++ rest)).run (DriverState.serveNative shelf) d =
        let played := (openFirst words rest).run (DriverState.serveNative shelf) d
        ⟨played.value, played.state, before.map shelf.attempt ++ played.events⟩
  | [], last, _ => ⟨last, rfl⟩
  | name :: before, last, h => by
    obtain ⟨⟨failure, hname⟩, hbefore⟩ := List.forall_mem_cons.1 h
    obtain ⟨words, hrun⟩ := openFirst_append d rest (name ++ ": " ++ failure.text name) hbefore
    refine ⟨words, ?_⟩
    simp only [List.cons_append, openFirst, link, call_bind, done_bind, run, DriverState.serveNative, hname, hrun,
      List.map_cons, attempt]

/-- **Functions that a library has are passed over**, each looked up once. -/
theorem firstMissing_append (library : String) (d : DriverState) (rest : List String) : ∀ {present : List String},
    (∀ symbol ∈ present, shelf.exports library symbol = true) →
      (firstMissing library (present ++ rest)).run (DriverState.serveNative shelf) d =
        let played := (firstMissing library rest).run (DriverState.serveNative shelf) d
        ⟨played.value, played.state, present.map (shelf.look library) ++ played.events⟩
  | [], _ => rfl
  | symbol :: present, h => by
    obtain ⟨hsymbol, hpresent⟩ := List.forall_mem_cons.1 h
    have hrun := firstMissing_append library d rest hpresent
    simp only [List.cons_append, firstMissing, link, call_bind, done_bind, run, DriverState.serveNative, hsymbol,
      if_true, hrun, List.map_cons, look]

/-- **The first library that opens is taken**, and no name behind it is tried. -/
theorem openFirst_opens {before : List String} {library linked : String}
    (hbefore : ∀ name ∈ before, shelf.Refuses name) (hopen : shelf.openLibrary library = .ok linked) (last : String)
    (after : List String) (d : DriverState) :
    (openFirst last (before ++ library :: after)).run (DriverState.serveNative shelf) d =
      ⟨.ok ⟨library, linked⟩, d, (before ++ [library]).map shelf.attempt⟩ := by
  have hfirst (words : String) : (openFirst words (library :: after)).run (DriverState.serveNative shelf) d =
      ⟨.ok ⟨library, linked⟩, d, [shelf.attempt library]⟩ := by
    simp only [openFirst, link, call_bind, done_bind, run, DriverState.serveNative, hopen, attempt]
    rfl
  obtain ⟨words, hrun⟩ := openFirst_append d (library :: after) last hbefore
  rw [hrun, hfirst, List.map_append]
  rfl

theorem openFirst_refused {before : List String} {last : String} {failure : OpenFailure}
    (hbefore : ∀ name ∈ before, shelf.Refuses name) (hlast : shelf.openLibrary last = .error failure) (words : String)
    (d : DriverState) : (openFirst words (before ++ [last])).run (DriverState.serveNative shelf) d =
      ⟨.error (last ++ ": " ++ failure.text last), d, (before ++ [last]).map shelf.attempt⟩ := by
  have hlone (words : String) : (openFirst words [last]).run (DriverState.serveNative shelf) d =
      ⟨.error (last ++ ": " ++ failure.text last), d, [shelf.attempt last]⟩ := by
    simp only [openFirst, link, call_bind, done_bind, run, DriverState.serveNative, hlast, attempt]
    rfl
  obtain ⟨words', hrun⟩ := openFirst_append d [last] words hbefore
  rw [hrun, hlone, List.map_append]
  rfl

/-- **The function that is missing is the first that the library lacks**, and none behind it is looked up. -/
theorem firstMissing_lacks {library symbol : String} {present : List String}
    (hpresent : ∀ s ∈ present, shelf.exports library s = true) (hlacks : shelf.exports library symbol = false)
    (absent : List String) (d : DriverState) :
    (firstMissing library (present ++ symbol :: absent)).run (DriverState.serveNative shelf) d =
      ⟨some symbol, d, (present ++ [symbol]).map (shelf.look library)⟩ := by
  have hfirst : (firstMissing library (symbol :: absent)).run (DriverState.serveNative shelf) d =
      ⟨some symbol, d, [shelf.look library symbol]⟩ := by
    simp only [firstMissing, link, call_bind, done_bind, run, DriverState.serveNative, hlacks, look]
    rfl
  rw [firstMissing_append library d _ hpresent, hfirst, List.map_append]
  rfl

theorem firstMissing_complete {library : String} {required : List String}
    (hrequired : ∀ symbol ∈ required, shelf.exports library symbol = true) (d : DriverState) :
    (firstMissing library required).run (DriverState.serveNative shelf) d =
      ⟨none, d, required.map (shelf.look library)⟩ := by
  have hrun := firstMissing_append library d [] hrequired
  rw [List.append_nil] at hrun
  rw [hrun]
  exact congrArg (Played.mk _ _) (List.append_nil _)

/-! ## Loading a library -/

/-- **Loading comes to one of the four outcomes**, with its calls, and does nothing to the driver. -/
theorem loadLibrary_selects (kind : String) (required candidates : List String) (d : DriverState) :
    ∃ outcome calls, shelf.Selects kind required candidates outcome calls ∧
      (loadLibrary kind required candidates).run (DriverState.serveNative shelf) d = ⟨outcome, d, calls⟩ := by
  unfold loadLibrary
  rw [run_bind]
  rcases exists_opens shelf candidates with hall | ⟨before, library, after, linked, rfl, hbefore, hopen⟩
  · rcases List.eq_nil_or_concat candidates with rfl | ⟨before, last, rfl⟩
    · exact ⟨_, _, .unconfigured, rfl⟩
    · rw [List.concat_eq_append] at hall ⊢
      obtain ⟨hbefore, hlast⟩ := List.forall_mem_append.1 hall
      obtain ⟨failure, hlast⟩ := List.forall_mem_singleton.1 hlast
      refine ⟨_, _, .noneOpens hbefore hlast, ?_⟩
      rw [openFirst_refused hbefore hlast]
      exact congrArg (Played.mk _ _) (List.append_nil _)
  · rw [openFirst_opens hbefore hopen]
    dsimp only
    rw [run_bind]
    rcases exists_lacks shelf library required with hall | ⟨present, symbol, absent, rfl, hpresent, hlacks⟩
    · rw [firstMissing_complete hall]
      exact ⟨_, _, .binds hbefore hopen hall, congrArg (Played.mk _ _) (congrArg _ (List.append_nil _))⟩
    · rw [firstMissing_lacks hpresent hlacks]
      exact ⟨_, _, .lacks hbefore hopen rfl hpresent hlacks, rfl⟩

end Shelf

/-! ## Which library serves -/

/-- The first of the candidates that opens exports all the functions. -/
def Shelf.Serves (shelf : Shelf) (symbols candidates : List String) : Prop :=
  ∃ library, candidates.find? (fun name => (shelf.openLibrary name).isOk) = some library ∧
    ∀ symbol ∈ symbols, shelf.exports library symbol = true

/-- The library that serves as a driver: the first candidate that opens, if it exports all the functions. -/
def Shelf.served? (shelf : Shelf) (symbols candidates : List String) : Option String :=
  (candidates.find? fun name => (shelf.openLibrary name).isOk).filter fun library =>
    symbols.all fun symbol => shelf.exports library symbol

theorem isSome_served? {shelf : Shelf} (symbols candidates : List String) :
    (shelf.served? symbols candidates).isSome ↔ shelf.Serves symbols candidates := by
  unfold Shelf.served? Shelf.Serves
  rw [Option.isSome_iff_exists]
  refine exists_congr fun library => ?_
  rw [Option.filter_eq_some_iff, List.all_eq_true]

theorem served?_eq_none {shelf : Shelf} (symbols candidates : List String) :
    shelf.served? symbols candidates = none ↔ ¬shelf.Serves symbols candidates := by
  rw [← isSome_served?, Option.not_isSome_iff_eq_none]

namespace Shelf

variable {shelf : Shelf}

theorem find?_opens {before after : List String} {library linked : String}
    (hbefore : ∀ name ∈ before, shelf.Refuses name) (hopen : shelf.openLibrary library = .ok linked) :
    (before ++ library :: after).find? (fun name => (shelf.openLibrary name).isOk) = some library := by
  refine List.find?_eq_some_iff_append.2 ⟨by rw [hopen]; rfl, before, after, rfl, ?_⟩
  simpa [refuses_iff] using hbefore

/-- **The outcome is the library that serves**, if one does. -/
theorem Selects.toOption_eq {kind : String} {required candidates : List String} {outcome : Except Fault String}
    {calls : List (Event NativeCalls)} (h : shelf.Selects kind required candidates outcome calls) :
    outcome.toOption = shelf.served? required candidates := by
  unfold served?
  cases h with
  | unconfigured => rfl
  | @noneOpens before last failure hbefore hlast =>
    have hall : ∀ name ∈ before ++ [last], shelf.Refuses name :=
      List.forall_mem_append.2 ⟨hbefore, List.forall_mem_singleton.2 ⟨failure, hlast⟩⟩
    have hnone : (before ++ [last]).find? (fun name => (shelf.openLibrary name).isOk) = none :=
      List.find?_eq_none.2 fun name hname => Bool.eq_false_iff.1 (refuses_iff.1 (hall name hname))
    rw [hnone]
    rfl
  | @lacks before after present absent library linked symbol hbefore hopen hrequired hpresent hlacks =>
    have hall : ¬(required.all fun symbol => shelf.exports library symbol) = true := by
      intro hall
      have hexports := List.all_eq_true.1 hall symbol (by rw [hrequired]; simp)
      rw [hlacks] at hexports
      cases hexports
    rw [find?_opens hbefore hopen, Option.filter_some, if_neg hall]
    rfl
  | binds hbefore hopen hrequired =>
    rw [find?_opens hbefore hopen, Option.filter_some, if_pos (List.all_eq_true.2 hrequired)]
    rfl

/-! ## What stays open -/

/-- The libraries that are open after a call, newest first. -/
def openAfter (before : List String) : Event NativeCalls → List String
  | ⟨.openLibrary library, .ok _⟩ => library :: before
  | ⟨.closeLibrary library, _⟩ => before.erase library
  | _ => before

/-- The libraries that some calls leave open, newest first. -/
def leftOpen (calls : List (Event NativeCalls)) (before : List String) : List String :=
  calls.foldl openAfter before

theorem leftOpen_append (calls more : List (Event NativeCalls)) (before : List String) :
    leftOpen (calls ++ more) before = leftOpen more (leftOpen calls before) :=
  List.foldl_append

theorem leftOpen_looks (library : String) (before : List String) : ∀ symbols : List String,
    leftOpen (symbols.map (shelf.look library)) before = before
  | [] => rfl
  | _ :: rest => leftOpen_looks library before rest

theorem leftOpen_refused {held : List String} : ∀ {names : List String}, (∀ name ∈ names, shelf.Refuses name) →
    leftOpen (names.map shelf.attempt) held = held
  | [], _ => rfl
  | name :: rest, h => by
    obtain ⟨⟨failure, hname⟩, hrest⟩ := List.forall_mem_cons.1 h
    rw [List.map_cons, attempt, hname]
    exact leftOpen_refused hrest

theorem leftOpen_opens {before held : List String} {library linked : String}
    (hbefore : ∀ name ∈ before, shelf.Refuses name) (hopen : shelf.openLibrary library = .ok linked) :
    leftOpen ((before ++ [library]).map shelf.attempt) held = library :: held := by
  rw [List.map_append, leftOpen_append, leftOpen_refused hbefore, List.map_singleton, attempt, hopen]
  rfl

/-- **Loading leaves the library of the driver open**, and no other. -/
theorem Selects.leftOpen {kind : String} {required candidates : List String} {outcome : Except Fault String}
    {calls : List (Event NativeCalls)} (h : shelf.Selects kind required candidates outcome calls) (held : List String) :
    Shelf.leftOpen calls held = outcome.toOption.toList ++ held := by
  cases h with
  | unconfigured => rfl
  | noneOpens hbefore hlast =>
    exact leftOpen_refused (List.forall_mem_append.2 ⟨hbefore, List.forall_mem_singleton.2 ⟨_, hlast⟩⟩)
  | lacks hbefore hopen =>
    rw [leftOpen_append, leftOpen_opens hbefore hopen, leftOpen_append, leftOpen_looks]
    exact List.erase_cons_head _ held
  | binds hbefore hopen => rw [leftOpen_append, leftOpen_opens hbefore hopen, leftOpen_looks]; rfl

end Shelf

/-! ## The drivers bound -/

theorem loadEgl_selects (shelf : Shelf) (candidates : List String) (d : DriverState) :
    ∃ outcome calls, shelf.Selects "EGL" eglSymbols candidates outcome calls ∧
      (EglBinding.load candidates).run (DriverState.serveNative shelf) d =
        ⟨outcome.map fun library => ⟨library, shelf.exports library eglErrorSymbol⟩, d,
          calls ++ outcome.toOption.toList.map fun library => shelf.look library eglErrorSymbol⟩ := by
  obtain ⟨outcome, calls, hselects, hrun⟩ := shelf.loadLibrary_selects "EGL" eglSymbols candidates d
  refine ⟨outcome, calls, hselects, ?_⟩
  unfold EglBinding.load
  rw [run_bind, hrun]
  cases outcome <;> rfl

theorem loadGles_selects (shelf : Shelf) (candidates : List String) (d : DriverState) :
    ∃ outcome calls, shelf.Selects "GLES" glesSymbols candidates outcome calls ∧
      (GlesBinding.load candidates).run (DriverState.serveNative shelf) d = ⟨outcome.map GlesBinding.mk, d, calls⟩ := by
  obtain ⟨outcome, calls, hselects, hrun⟩ := shelf.loadLibrary_selects "GLES" glesSymbols candidates d
  refine ⟨outcome, calls, hselects, ?_⟩
  unfold GlesBinding.load
  rw [run_bind, hrun]
  cases outcome <;> exact congrArg (Played.mk _ _) (List.append_nil _)

theorem toOption_map {ε α β : Type} (f : α → β) (outcome : Except ε α) :
    (outcome.map f).toOption = outcome.toOption.map f := by
  cases outcome <;> rfl

section
variable {shelf : Shelf}

/-- **Each driver is bound to the library that serves for it**, whatever comes of the other. -/
theorem load_value (egl gles : List String) (d : DriverState) :
    ((Bindings.load egl gles).run (DriverState.serveNative shelf) d).value =
      { egl := (shelf.served? eglSymbols egl).map fun library => ⟨library, shelf.exports library eglErrorSymbol⟩
        gles := (shelf.served? glesSymbols gles).map GlesBinding.mk } := by
  obtain ⟨display, _, hdisplay, hegl⟩ := loadEgl_selects shelf egl d
  obtain ⟨drawing, _, hdrawing, hgles⟩ := loadGles_selects shelf gles d
  unfold Bindings.load
  rw [run_bind, hegl]
  simp only [run_bind, hgles]
  rw [← hdisplay.toOption_eq, ← hdrawing.toOption_eq, ← toOption_map, ← toOption_map]
  rfl

theorem isOk_iff_isSome {ε α : Type} (outcome : Except ε α) :
    outcome.isOk = true ↔ outcome.toOption.isSome = true := by
  cases outcome <;> simp [Except.isOk, Except.toBool, Except.toOption]

theorem map_library_toList {α : Type} {bind : String → α} (library : α → String)
    (h : ∀ name, library (bind name) = name) (outcome : Except Fault String) :
    (outcome.map bind).toOption.toList.map library = outcome.toOption.toList := by
  cases outcome with
  | error fault => rfl
  | ok name => exact congrArg (· :: []) (h name)

/-- **Each driver is bound to the first of its candidates that opens, if that has all that is required**, and else it is
missing with a fault that says why; `Shelf.Selects` lists what is tried, looked up and closed on the way.  The function
that the EGL driver may lack is looked up last, and counts for nothing.  Loading both drivers is loading each of them
from its own list, always gives drivers to go on with, and leaves their libraries open and no other. -/
theorem bound_of_candidates (shelf : Shelf) (egl gles : List String) (d : DriverState) :
    let display := (EglBinding.load egl).run (DriverState.serveNative shelf) d
    let drawing := (GlesBinding.load gles).run (DriverState.serveNative shelf) d
    let loaded := (Bindings.load egl gles).run (DriverState.serveNative shelf) d
    (∃ outcome calls, shelf.Selects "EGL" eglSymbols egl outcome calls ∧
      display.value = outcome.map (fun library => ⟨library, shelf.exports library eglErrorSymbol⟩) ∧
      display.events = calls ++ outcome.toOption.toList.map fun library => shelf.look library eglErrorSymbol) ∧
    (∃ outcome, shelf.Selects "GLES" glesSymbols gles outcome drawing.events ∧
      drawing.value = outcome.map GlesBinding.mk) ∧
    (display.value.isOk = true ↔ shelf.Serves eglSymbols egl) ∧
    (drawing.value.isOk = true ↔ shelf.Serves glesSymbols gles) ∧
    loaded = ⟨⟨display.value.toOption, drawing.value.toOption⟩, d, display.events ++ drawing.events⟩ ∧
    Shelf.leftOpen loaded.events [] =
      loaded.value.gles.toList.map GlesBinding.library ++ loaded.value.egl.toList.map EglBinding.library := by
  obtain ⟨found, calls, hdisplay, hegl⟩ := loadEgl_selects shelf egl d
  obtain ⟨found', calls', hdrawing, hgles⟩ := loadGles_selects shelf gles d
  let looked := found.toOption.toList.map fun library => shelf.look library eglErrorSymbol
  have hloaded : (Bindings.load egl gles).run (DriverState.serveNative shelf) d =
      ⟨⟨(found.map fun library => ⟨library, shelf.exports library eglErrorSymbol⟩).toOption,
        (found'.map GlesBinding.mk).toOption⟩, d, (calls ++ looked) ++ calls'⟩ := by
    unfold Bindings.load
    rw [run_bind, hegl]
    simp only [run_bind, hgles]
    exact congrArg (Played.mk _ _) (congrArg _ (List.append_nil _))
  have hlooked : Shelf.leftOpen looked found.toOption.toList = found.toOption.toList := by
    cases found <;> rfl
  have hopen : Shelf.leftOpen ((calls ++ looked) ++ calls') [] = found'.toOption.toList ++ found.toOption.toList := by
    rw [Shelf.leftOpen_append, Shelf.leftOpen_append, hdisplay.leftOpen, List.append_nil, hlooked, hdrawing.leftOpen]
  rw [hegl, hgles, hloaded]
  refine ⟨⟨found, calls, hdisplay, rfl, rfl⟩, ⟨found', hdrawing, rfl⟩, ?_, ?_, rfl, ?_⟩
  · rw [isOk_iff_isSome, toOption_map, Option.isSome_map, hdisplay.toOption_eq, isSome_served?]
  · rw [isOk_iff_isSome, toOption_map, Option.isSome_map, hdrawing.toOption_eq, isSome_served?]
  · rw [hopen, map_library_toList EglBinding.library fun _ => rfl, map_library_toList GlesBinding.library fun _ => rfl]

end

end DriverSurvey
