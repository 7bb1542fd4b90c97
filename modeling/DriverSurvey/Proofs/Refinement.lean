import DriverSurvey.Proofs.Routing
import DriverSurvey.Proofs.Selection
import DriverSurvey.Proofs.Shading
/-!
# Refinement — native drivers refine the script they act out

Where libraries open and export all that is required, loading binds both drivers (`load_complete`).  Step by step a
session over them then answers what a session over the script itself answers, and holds the same runtime and driver
(`reports_native`).  What a loader for Vulkan says is set apart: the two find such loaders in different places.
-/
namespace DriverSurvey

open Program

/-! ## Loading -/

variable {shelf : Shelf} {drivers : Bindings} {loaders : LoaderShelf}

/-- **Libraries that open and export what is required give both drivers.** -/
theorem load_complete {egl gles : List String} (hegl : shelf.Serves eglSymbols egl)
    (hgles : shelf.Serves glesSymbols gles) (d : DriverState) :
    ((Bindings.load egl gles).run (DriverState.serveNative shelf) d).value.Complete := by
  rw [load_value]
  unfold Bindings.Complete
  rw [Option.isSome_map, Option.isSome_map]
  exact ⟨(isSome_served? _ _).2 hegl, (isSome_served? _ _).2 hgles⟩

/-! ## Changes that keep a script plain -/

/-- The members that the change brings are plain. -/
def Change.Plain (change : Change) : Prop :=
  (({} : Script).amend change).Plain

theorem getD_of {α : Type} {P : α → Prop} : ∀ {new : Option α} {old old' : α},
    P (new.getD old) → P old' → P (new.getD old')
  | none, _, _, _, h => h
  | some _, _, _, h, _ => h

theorem Script.Plain.amend {script : Script} (hs : script.Plain) {change : Change} (hc : change.Plain) :
    (script.amend change).Plain where
  display := getD_of (P := (· ≠ some 0)) hc.display hs.display
  configs version := getD_of (P := fun configs : PerVersion ConfigOffer => (configs.get version).isPlain = true)
    (hc.configs version) (hs.configs version)
  surfaces version := getD_of (P := fun surfaces : PerVersion (Option UInt64) => surfaces.get version ≠ some 0)
    (hc.surfaces version) (hs.surfaces version)
  contexts version := getD_of (P := fun contexts : PerVersion (Option UInt64) => contexts.get version ≠ some 0)
    (hc.contexts version) (hs.contexts version)
  displayText which := by
    have h := hc.displayText which
    have hold := hs.displayText which
    cases which <;> exact getD_of (P := fun text : Option (List UInt8) => text.all zeroFree = true) h hold
  texts token := getD_of (P := fun texts : List (UInt32 × List UInt8) => (texts.lookup token).all zeroFree = true)
    (hc.texts token) (hs.texts token)

theorem plain_default : ({} : Script).Plain where
  display := by decide
  configs version := by cases version <;> decide
  surfaces version := by cases version <;> decide
  contexts version := by cases version <;> decide
  displayText which := by cases which <;> decide +kernel
  texts _ := rfl

/-! ## Steps -/

/-- A step that both levels offer: no single call, no look for Vulkan alone, and no change to a driver that is not
plain. -/
def Step.Offered : Step → Prop
  | .raw _ | .vulkan => False
  | .amend change => change.Plain
  | _ => True

theorem Step.Offered.change : ∀ {step : Step}, step.Offered → step.change.Plain
  | .amend _, h => h
  | .query _, _ | .heldVersion, _ | .snapshot _ _, _ | .together _, _ => plain_default

/-- The snapshot with what a loader for Vulkan says left out. -/
def Snapshot.graphics {Reading : Type} (snapshot : Snapshot Reading) : Snapshot Reading :=
  { snapshot with vulkanSupported := false }

/-- The result of a step with what a loader for Vulkan says left out. -/
def Step.graphics : (step : Step) → step.Answer → step.Answer
  | .snapshot _ _, taken => Snapshot.graphics taken
  | _, answer => answer

theorem Step.Offered.isRaw : ∀ {step : Step}, step.Offered → step.isRaw = false
  | .query _, _ | .heldVersion, _ | .snapshot _ _, _ | .together _, _ | .amend _, _ => rfl

theorem Step.shown_lit : ∀ {step : Step}, step.Offered → ∀ answer : step.Answer,
    step.shown lit answer = step.graphics answer
  | .query _, _, _ | .heldVersion, _, _ | .snapshot _ _, _, _ | .together _, _, _ | .amend _, _, _ => rfl

/-- The same session, over a script that is plain. -/
def Session.OnPlain (session session' : Session) : Prop :=
  session = session' ∧ session'.driver.script.Plain

/-- Surveys that agree over native drivers and over the script find there what `same` relates. -/
theorem relates_of_agree {α : Type} {same : α → α → Prop} {survey : Survey α}
    (h : ∀ runtime, (survey runtime).Agree shelf drivers loaders (fun x y => same x.1 y.1 ∧ x.2 = y.2)
      (survey runtime)) :
    Survey.Relates (.native shelf drivers) (.direct loaders) Session.OnPlain (fun _ => True) same survey survey := by
  rintro session _ ⟨rfl, hplain⟩
  obtain ⟨⟨hfound, hruntime⟩, hdriver, hscript⟩ := h session.runtime session.driver hplain
  have hafter : (session.play (.native shelf drivers) survey).after = (session.play (.direct loaders) survey).after := by
    rw [Session.play_direct]
    exact congr (congrArg Session.mk hruntime) hdriver
  refine ⟨?_, ⟨hafter, ?_⟩, fun _ _ => trivial⟩ <;> rw [Session.play_direct]
  · exact hfound
  · exact hscript ▸ hplain

/-- **Queries agree over native drivers and over the script**, none of them dark. -/
theorem shades_of_complete (h : drivers.Complete) (names : List String) :
    (Rig.native shelf drivers).Shades (.direct loaders) names lit Session.OnPlain fun _ => True where
  query query := relates_of_agree fun runtime =>
    (agree_of_routed h (query_routed query runtime)).mono fun _ _ hxy => hxy ▸ ⟨rfl, rfl⟩
  vulkan := relates_of_agree fun _ =>
    (agree_of_loads (check_loads names)).bind fun _ _ _ => agree_pure ⟨trivial, rfl⟩
  held _ _ hnear := hnear.1 ▸ rfl

/-! ## Sessions -/

namespace Session

/-- What steps answer and what is held after each of them, with what a loader for Vulkan says left out. -/
def reports (rig : Rig) (names : List String) (steps : List Step) (session : Session) :
    List (Σ step : Step, step.Answer × Session) :=
  (session.performAll rig names steps).map fun played =>
    ⟨played.1, played.1.graphics played.2.answer, played.2.after⟩

theorem reports_cons (rig : Rig) (names : List String) (step : Step) (rest : List Step) (session : Session) :
    session.reports rig names (step :: rest) =
      let performed := session.perform rig names step
      ⟨step, step.graphics performed.answer, performed.after⟩ :: performed.after.reports rig names rest := rfl

variable (shelf : Shelf) (loaders : LoaderShelf) (names : List String)

/-- **A step comes to the same over native drivers and over the script**, and leaves the script plain. -/
theorem perform_native (h : drivers.Complete) {step : Step} (hstep : step.Offered) {session : Session}
    (hplain : session.driver.script.Plain) :
    let native := session.perform (.native shelf drivers) names step
    let direct := session.perform (.direct loaders) names step
    step.graphics native.answer = step.graphics direct.answer ∧ native.after = direct.after ∧
      direct.after.driver.script.Plain := by
  obtain ⟨hanswer, ⟨hafter, hscript⟩, -⟩ :=
    (@shades_of_complete shelf drivers loaders h names).step hstep.isRaw session session ⟨rfl, hplain⟩
  refine ⟨?_, congrArg (amended step.change) hafter, hscript.amend hstep.change⟩
  rw [← Step.shown_lit hstep, ← Step.shown_lit hstep]
  exact hanswer

theorem reports_of_plain (h : drivers.Complete) : ∀ (steps : List Step), (∀ step ∈ steps, step.Offered) →
    ∀ session : Session, session.driver.script.Plain →
      session.reports (.native shelf drivers) names steps = session.reports (.direct loaders) names steps
  | [], _, _, _ => rfl
  | step :: rest, hsteps, session, hplain => by
    obtain ⟨hanswer, hafter, hplain'⟩ := perform_native shelf loaders names h (hsteps step List.mem_cons_self) hplain
    have hrest := reports_of_plain h rest (fun s hs => hsteps s (List.mem_cons_of_mem _ hs)) _ hplain'
    simp only [reports_cons, hanswer, hafter, hrest]

/-- **Native drivers refine the script they act out.**  If the first candidates that open export all that is required,
a session over the drivers loaded from them answers, step by step, what a session over the script itself answers, and
holds the same runtime and driver, whatever a loader for Vulkan says. -/
theorem reports_native (egl gles : List String) (hegl : shelf.Serves eglSymbols egl)
    (hgles : shelf.Serves glesSymbols gles) (steps : List Step) (hsteps : ∀ step ∈ steps, step.Offered)
    (session : Session) (hplain : session.driver.script.Plain) :
    let drivers := ((Bindings.load egl gles).run (DriverState.serveNative shelf) session.driver).value
    session.reports (.native shelf drivers) names steps = session.reports (.direct loaders) names steps :=
  reports_of_plain shelf loaders names (load_complete hegl hgles session.driver) steps hsteps session hplain

end Session

/-- A shelf with a library for each driver. -/
def Shelf.stocked : Shelf where
  libraries := [("libEGL.so.1", .shared eglSymbols), ("libGLESv2.so.2", .shared glesSymbols)]

/-- A session over a driver that has no context to give. -/
def Session.withoutContexts : Session :=
  .start { contexts := some ⟨none, none⟩ }

/-- Contexts of the older version come to be. -/
def Change.contextsAppear : Change where
  contexts := some ⟨none, some 8194⟩

/-- A context is asked for in vain, comes to be and is used, over libraries as over the script. -/
theorem Session.reports_stocked :
    let steps := [.query .ensure, .amend .contextsAppear, .snapshot 15 Topic.all]
    let drivers := ((Bindings.load ["libEGL.so.1"] ["libGLESv2.so.2"]).run (DriverState.serveNative .stocked)
      withoutContexts.driver).value
    Shelf.stocked.Serves eglSymbols ["libEGL.so.1"] ∧ Shelf.stocked.Serves glesSymbols ["libGLESv2.so.2"] ∧
      (∀ step ∈ steps, step.Offered) ∧ withoutContexts.driver.script.Plain ∧
      withoutContexts.reports (.native .stocked drivers) [] steps =
        withoutContexts.reports (.direct fun _ => none) [] steps :=
  have hegl : Shelf.stocked.Serves eglSymbols ["libEGL.so.1"] := ⟨"libEGL.so.1", by decide +kernel, by decide +kernel⟩
  have hgles : Shelf.stocked.Serves glesSymbols ["libGLESv2.so.2"] :=
    ⟨"libGLESv2.so.2", by decide +kernel, by decide +kernel⟩
  have happear : Change.contextsAppear.Plain :=
    { plain_default with contexts := fun version => by cases version <;> decide }
  have hsteps : ∀ step ∈ [.query .ensure, .amend .contextsAppear, .snapshot 15 Topic.all], Step.Offered step := by
    simp [Step.Offered, happear]
  have hplain : withoutContexts.driver.script.Plain :=
    { plain_default with contexts := fun version => by cases version <;> decide }
  ⟨hegl, hgles, hsteps, hplain, reports_native .stocked (fun _ => none) [] _ _ hegl hgles _ hsteps _ hplain⟩

end DriverSurvey
