import DriverSurvey.Path
/-!
# Whereabouts — what stands at a path

The names of a path lead down through directories (`Leads`) until they end, or until something is in the way (`Ends`).
So a path has one of a few things at it (`Stands`), and reading gives what stands there (`read_eq_iff`).
-/
namespace DriverSurvey
namespace Volume

variable {volume : Volume}

/-- The name is the name of something: neither empty nor dots, and not too long. -/
structure IsName (name : String) : Prop where
  nonempty : name ≠ ""
  here : name ≠ "."
  above : name ≠ ".."
  short : name.utf8ByteSize ≤ longestName

/-- The names lead from one directory to another. -/
inductive Leads (volume : Volume) : List String → List String → List String → Prop where
  | here (place : List String) : Leads volume place [] place
  | stays {place names there : List String} {name : String} (hname : name = "" ∨ name = ".")
      (h : Leads volume place names there) : Leads volume place (name :: names) there
  | rises {place names there : List String} (h : Leads volume place.dropLast names there) :
    Leads volume place (".." :: names) there
  | enters {place names there : List String} {name : String} (hname : IsName name)
      (hdirectory : volume.lookup (place ++ [name]) = some .directory) (h : Leads volume (place ++ [name]) names there) :
    Leads volume place (name :: names) there

/-- Where the names end, from a directory on: in a directory, at a file, or at the first thing in the way. -/
inductive Ends (volume : Volume) (place : List String) : List String → Except SystemError (List UInt8) → Prop where
  | directory {names there : List String} (h : Leads volume place names there) :
    Ends volume place names (.error .isDirectory)
  | file {before there : List String} {name : String} {octets : List UInt8} (h : Leads volume place before there)
      (hname : IsName name) (hfile : volume.lookup (there ++ [name]) = some (.file octets)) :
    Ends volume place (before ++ [name]) (.ok octets)
  /-- The names go on behind a file. -/
  | below {before after there : List String} {name : String} {octets : List UInt8} (h : Leads volume place before there)
      (hname : IsName name) (hfile : volume.lookup (there ++ [name]) = some (.file octets)) (hafter : after ≠ []) :
    Ends volume place (before ++ name :: after) (.error .notDirectory)
  | missing {before after there : List String} {name : String} (h : Leads volume place before there)
      (hname : IsName name) (hnone : volume.lookup (there ++ [name]) = none) :
    Ends volume place (before ++ name :: after) (.error .notFound)
  | tooLong {before after there : List String} {name : String} (h : Leads volume place before there)
      (hname : longestName < name.utf8ByteSize) : Ends volume place (before ++ name :: after) (.error .nameTooLong)

/-- The directory in which a path begins. -/
def start (here : List String) (path : String) : List String :=
  if isAbsolute path then [] else here

/-- What stands at a path. -/
inductive Stands (volume : Volume) (here : List String) (path : String) : FileState → Prop where
  | nul (h : '\x00' ∈ path.toList) : Stands volume here path (.error .nulInPath)
  | empty (h : path = "") : Stands volume here path (.error (.system .notFound))
  | tooLong (hclean : '\x00' ∉ path.toList) (h : longestPath < path.utf8ByteSize) :
    Stands volume here path (.error (.system .nameTooLong))
  | ends {outcome : Except SystemError (List UInt8)} (hclean : '\x00' ∉ path.toList) (hpath : path ≠ "")
      (hshort : path.utf8ByteSize ≤ longestPath) (h : Ends volume (start here path) (pathNames path) outcome) :
    Stands volume here path (outcome.mapError .system)

/-! ## Following names -/

theorem follow_stays {name : String} (hname : name = "" ∨ name = ".") (place rest : List String) :
    volume.follow place (name :: rest) = volume.follow place rest := by
  have hstays : (name == "" || name == ".") = true := by simpa using hname
  rw [follow, if_pos hstays]

theorem follow_rises (place rest : List String) :
    volume.follow place (".." :: rest) = volume.follow place.dropLast rest := by
  rw [follow, if_neg (by decide), if_pos (by decide)]

theorem follow_tooLong {name : String} (hname : longestName < name.utf8ByteSize) (place rest : List String) :
    volume.follow place (name :: rest) = .error .nameTooLong := by
  have hne {word : String} (hword : word.utf8ByteSize ≤ longestName) : (name == word) = false := by
    rw [beq_eq_false_iff_ne]
    rintro rfl
    exact absurd hname (Nat.not_lt.2 hword)
  rw [follow, hne (by decide), hne (by decide), hne (by decide), Bool.or_self, if_neg Bool.false_ne_true,
    if_neg Bool.false_ne_true, if_pos hname]

/-- A name is followed to what stands under it. -/
theorem follow_name {name : String} (hname : IsName name) (place rest : List String) :
    volume.follow place (name :: rest) = match volume.lookup (place ++ [name]) with
      | none => .error .notFound
      | some .directory => volume.follow (place ++ [name]) rest
      | some (.file octets) => if rest.isEmpty then .ok octets else .error .notDirectory := by
  have hne {word : String} (hword : name ≠ word) : (name == word) = false := beq_eq_false_iff_ne.2 hword
  have hsteps := Volume.follow.eq_2 volume place name rest
  rw [hne hname.nonempty, hne hname.here, hne hname.above, Bool.or_self, if_neg Bool.false_ne_true,
    if_neg Bool.false_ne_true, if_neg (Nat.not_lt.2 hname.short)] at hsteps
  exact hsteps

/-- **Names that lead somewhere are followed there.** -/
theorem Leads.follow {place names there : List String} (h : Leads volume place names there) (rest : List String) :
    volume.follow place (names ++ rest) = volume.follow there rest := by
  induction h with
  | here place => rfl
  | stays hname _ ih => rw [List.cons_append, follow_stays hname, ih]
  | rises _ ih => rw [List.cons_append, follow_rises, ih]
  | enters hname hdirectory _ ih => rw [List.cons_append, follow_name hname, hdirectory]; exact ih

theorem Leads.trans {place names there more beyond : List String} (h : Leads volume place names there)
    (hmore : Leads volume there more beyond) : Leads volume place (names ++ more) beyond := by
  induction h with
  | here place => exact hmore
  | stays hname _ ih => exact .stays hname (ih hmore)
  | rises _ ih => exact .rises (ih hmore)
  | enters hname hdirectory _ ih => exact .enters hname hdirectory (ih hmore)

/-- **Where names end is where they are followed to.** -/
theorem Ends.follow {place names : List String} {outcome : Except SystemError (List UInt8)}
    (h : Ends volume place names outcome) : volume.follow place names = outcome := by
  cases h with
  | directory h =>
    have hfollow := h.follow []
    rw [List.append_nil] at hfollow
    rw [hfollow, Volume.follow]
  | file h hname hfile => rw [h.follow, follow_name hname, hfile]; rfl
  | below h hname hfile hafter =>
    rw [h.follow, follow_name hname, hfile]
    exact if_neg (fun hempty => hafter (List.isEmpty_iff.1 hempty))
  | missing h hname hnone => rw [h.follow, follow_name hname, hnone]
  | tooLong h hname => rw [h.follow, follow_tooLong hname]

/-- Names that lead to a directory go on from there. -/
theorem Ends.after {place names there rest : List String} {outcome : Except SystemError (List UInt8)}
    (h : Leads volume place names there) (hrest : Ends volume there rest outcome) :
    Ends volume place (names ++ rest) outcome := by
  cases hrest with
  | directory hmore => exact .directory (h.trans hmore)
  | file hmore hname hfile => rw [← List.append_assoc]; exact .file (h.trans hmore) hname hfile
  | below hmore hname hfile hafter => rw [← List.append_assoc]; exact .below (h.trans hmore) hname hfile hafter
  | missing hmore hname hnone => rw [← List.append_assoc]; exact .missing (h.trans hmore) hname hnone
  | tooLong hmore hname => rw [← List.append_assoc]; exact .tooLong (h.trans hmore) hname

/-- **Names end somewhere**, one way or another. -/
theorem ends_follow : ∀ (names place : List String), Ends volume place names (volume.follow place names)
  | [], place => by
    rw [Volume.follow]
    exact .directory (.here place)
  | name :: rest, place => by
    by_cases hstays : name = "" ∨ name = "."
    · rw [follow_stays hstays]
      exact .after (.stays hstays (.here place)) (ends_follow rest place)
    obtain ⟨hempty, hdot⟩ := not_or.1 hstays
    by_cases hrises : name = ".."
    · subst hrises
      rw [follow_rises]
      exact .after (.rises (.here place.dropLast)) (ends_follow rest place.dropLast)
    by_cases hlong : longestName < name.utf8ByteSize
    · rw [follow_tooLong hlong]
      exact .tooLong (.here place) hlong
    have hname : IsName name := ⟨hempty, hdot, hrises, Nat.not_lt.1 hlong⟩
    rw [follow_name hname]
    cases hitem : volume.lookup (place ++ [name]) with
    | none => exact .missing (.here place) hname hitem
    | some item =>
      cases item with
      | directory => exact .after (.enters hname hitem (.here _)) (ends_follow rest (place ++ [name]))
      | file octets =>
        cases rest with
        | nil => exact .file (.here place) hname hitem
        | cons next rest => exact .below (.here place) hname hitem nofun

/-! ## Reading -/

variable {here : List String} {path : String}

theorem read_of_nul (h : '\x00' ∈ path.toList) : volume.read here path = .error .nulInPath :=
  if_pos (List.contains_iff_mem.2 h)

theorem read_of_clean (h : '\x00' ∉ path.toList) :
    volume.read here path = (volume.contents here path).mapError .system :=
  if_neg fun hnul => h (List.contains_iff_mem.1 hnul)

theorem read_empty : volume.read here "" = .error (.system .notFound) := rfl

theorem contents_tooLong (h : longestPath < path.utf8ByteSize) : volume.contents here path = .error .nameTooLong := by
  have hnonempty : ¬path.isEmpty = true := by
    intro hempty
    rw [String.isEmpty_iff.1 hempty] at h
    exact absurd h (by decide)
  rw [contents, if_neg hnonempty, if_pos h]

theorem contents_of_short (hpath : path ≠ "") (hshort : path.utf8ByteSize ≤ longestPath) :
    volume.contents here path = volume.follow (start here path) (pathNames path) := by
  have hnonempty : ¬path.isEmpty = true := fun hempty => hpath (String.isEmpty_iff.1 hempty)
  rw [contents, if_neg hnonempty, if_neg (Nat.not_lt.2 hshort), start]

/-- **What is read at a path is what stands there.** -/
theorem read_eq_iff {file : FileState} : volume.read here path = file ↔ Stands volume here path file := by
  constructor
  · rintro rfl
    by_cases hnul : '\x00' ∈ path.toList
    · rw [read_of_nul hnul]
      exact .nul hnul
    by_cases hpath : path = ""
    · rw [hpath, read_empty]
      exact .empty rfl
    rw [read_of_clean hnul]
    by_cases hlong : longestPath < path.utf8ByteSize
    · rw [contents_tooLong hlong]
      exact .tooLong hnul hlong
    · have hshort := Nat.not_lt.1 hlong
      rw [contents_of_short hpath hshort]
      exact .ends hnul hpath hshort (ends_follow _ _)
  · intro h
    cases h with
    | nul h => exact read_of_nul h
    | empty h => rw [h, read_empty]
    | tooLong hclean h =>
      rw [read_of_clean hclean, contents_tooLong h]
      rfl
    | ends hclean hpath hshort h => rw [read_of_clean hclean, contents_of_short hpath hshort, h.follow]

end Volume
end DriverSurvey
