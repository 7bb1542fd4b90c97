import DriverSurvey.Proofs.Refinement
/-!
# Loading — what loading asks of the linker

Loading the drivers opens none but candidates (`load_loads`), and enters no library (`load_links`).
-/
namespace DriverSurvey

open Program

/-- Whether the call enters a library. -/
def NativeRequest.enters : NativeRequest → Bool
  | .enter _ _ => true
  | _ => false

/-- A shelf with a library for EGL alone. -/
def Shelf.displayOnly : Shelf where
  libraries := [("libEGL.so.1", .shared eglSymbols)]

/-! ## What loading calls -/

/-- What loading asks of the linker: to open a candidate, to look a function up, to close a library again. -/
inductive NativeRequest.Loads (candidates : List String) : NativeRequest → Prop where
  | openLibrary {library : String} (h : library ∈ candidates) : Loads candidates (.openLibrary library)
  | findSymbol (library symbol : String) : Loads candidates (.findSymbol library symbol)
  | closeLibrary (library : String) : Loads candidates (.closeLibrary library)

theorem link_loads {candidates : List String} {q : NativeRequest} (h : q.Loads candidates) :
    (link q).Only (NativeRequest.Loads candidates) :=
  ⟨h, fun _ => trivial⟩

theorem openFirst_links {names : List String} : ∀ {candidates : List String}, candidates ⊆ names → ∀ last : String,
    (openFirst last candidates).Only (NativeRequest.Loads names)
  | [], _, _ => only_pure _ _
  | name :: rest, h, last => by
    obtain ⟨hname, hrest⟩ := List.cons_subset.1 h
    refine (link_loads (.openLibrary hname)).bind fun opened => ?_
    cases opened with
    | ok linked => exact only_pure _ _
    | error failure => exact openFirst_links hrest _

theorem firstMissing_links (names : List String) (library : String) : ∀ symbols : List String,
    (firstMissing library symbols).Only (NativeRequest.Loads names)
  | [] => only_pure _ _
  | symbol :: rest => by
    refine (link_loads (.findSymbol _ _)).bind fun found => ?_
    cases found with
    | true => exact firstMissing_links names library rest
    | false => exact only_pure _ _

theorem loadLibrary_links {names candidates : List String} (h : candidates ⊆ names) (kind : String)
    (symbols : List String) : (loadLibrary kind symbols candidates).Only (NativeRequest.Loads names) := by
  refine (openFirst_links h _).bind fun opened => ?_
  cases opened with
  | error last => exact only_pure _ _
  | ok library =>
    refine (firstMissing_links names library.name symbols).bind fun missing => ?_
    cases missing with
    | none => exact only_pure _ _
    | some symbol => exact (link_loads (.closeLibrary _)).bind fun _ => only_pure _ _

/-- **Loading opens none but the candidates.** -/
theorem load_loads (egl gles : List String) : (Bindings.load egl gles).Only (NativeRequest.Loads (egl ++ gles)) := by
  have hegl : (EglBinding.load egl).Only (NativeRequest.Loads (egl ++ gles)) := by
    refine (loadLibrary_links (List.subset_append_left _ _) _ _).bind fun loaded => ?_
    cases loaded with
    | error fault => exact only_pure _ _
    | ok library => exact (link_loads (.findSymbol _ _)).bind fun _ => only_pure _ _
  have hgles : (GlesBinding.load gles).Only (NativeRequest.Loads (egl ++ gles)) := by
    refine (loadLibrary_links (List.subset_append_right _ _) _ _).bind fun loaded => ?_
    cases loaded <;> exact only_pure _ _
  exact hegl.bind fun _ => hgles.bind fun _ => only_pure _ _

/-- **Loading enters no library.** -/
theorem load_links (egl gles : List String) :
    (Bindings.load egl gles).Only fun q : NativeRequest => q.enters = false :=
  (load_loads egl gles).mono fun _ h => by cases h <;> rfl

end DriverSurvey
