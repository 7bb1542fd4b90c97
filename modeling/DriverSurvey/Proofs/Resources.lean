import DriverSurvey.Proofs.Managed
/-!
# Resources — surfaces, contexts and displays are all accounted for

What a runtime held and what its driver then handed out is what was released and what the runtime holds now: a
conservation law of every move, hence of every course (`Course.conserves`).  With what a move looks like around a
release it gives the accounts of a whole session (`accounted_of_steps`).
-/
namespace DriverSurvey

/-! ## What a call hands out or takes back -/

namespace Event

/-- The surface that the call created. -/
def madeSurface? : Event Calls → Option Surface
  | ⟨.createSurface _ _, reply⟩ => reply
  | _ => none

/-- The surface that the call gave back. -/
def releasedSurface? : Event Calls → Option Surface
  | ⟨.destroySurface _ surface, _⟩ => some surface
  | _ => none

/-- The context that the call created. -/
def madeContext? : Event Calls → Option Context
  | ⟨.createContext _ _ _, reply⟩ => reply
  | _ => none

/-- The display that the call initialized. -/
def openedDisplay? : Event Calls → Option Display
  | ⟨.openDisplay display, reply⟩ => reply.map fun _ => display
  | _ => none

theorem inert {e : Event Calls} (h : e.request.builds = false) :
    e.madeSurface? = none ∧ e.releasedSurface? = none ∧ e.madeContext? = none ∧ e.openedDisplay? = none := by
  obtain ⟨q, reply⟩ := e
  cases q <;> first | exact ⟨rfl, rfl, rfl, rfl⟩ | cases h

end Event

namespace Runtime

/-- The surface held. -/
def surfaces (runtime : Runtime) : List Surface :=
  runtime.bound?.toList.map (·.surface)

/-- The context held. -/
def contexts (runtime : Runtime) : List Context :=
  runtime.bound?.toList.map (·.context)

end Runtime

/-! ## Conservation -/

/-- **Every move keeps the balance**: what was held and what is made is what is released and what is held after it. -/
def Conserved {α : Type} (made released : Event Calls → Option α) (held : Runtime → List α) : Prop :=
  ∀ {r r' : Runtime} {es : List (Event Calls)}, Move r es r' →
    held r ++ es.filterMap made = es.filterMap released ++ held r'

/-- **What every move conserves, every course conserves.** -/
theorem Course.conserves {α : Type} {made released : Event Calls → Option α} {held : Runtime → List α}
    (hmove : Conserved made released held) {r r' : Runtime} {log : List (Event Calls)} (h : Course r log r') :
    held r ++ log.filterMap made = log.filterMap released ++ held r' := by
  induction h with
  | rest => simp
  | step _ m ih =>
    rw [List.filterMap_append, List.filterMap_append, ← List.append_assoc, ih, List.append_assoc, hmove m,
      List.append_assoc]

/-- What is never released adds up. -/
theorem Course.accumulates {α : Type} {made : Event Calls → Option α} {held : Runtime → List α}
    (hmove : Conserved made (fun _ => none) held) {r r' : Runtime} {log : List (Event Calls)} (h : Course r log r') :
    held r ++ log.filterMap made = held r' := by
  rw [h.conserves hmove, List.filterMap_eq_nil_iff.2 (fun _ _ => rfl), List.nil_append]

theorem balance_of_inert {α : Type} {made released : Event Calls → Option α} {e : Event Calls} (hmade : made e = none)
    (hreleased : released e = none) (held : List α) :
    held ++ [e].filterMap made = [e].filterMap released ++ held := by
  simp [hmade, hreleased]

theorem surfaces_conserved : Conserved Event.madeSurface? Event.releasedSurface? Runtime.surfaces := by
  intro r r' es m
  cases m with
  | asked _ _ e h => exact balance_of_inert (Event.inert h.not_builds).1 (Event.inert h.not_builds).2.1 _
  | loader _ e h => exact balance_of_inert (Event.inert h.not_builds).1 (Event.inert h.not_builds).2.1 _
  | _ => rfl

theorem contexts_conserved : Conserved Event.madeContext? (fun _ => none) Runtime.contexts := by
  intro r r' es m
  cases m with
  | asked _ _ e h => exact balance_of_inert (Event.inert h.not_builds).2.2.1 rfl _
  | loader _ e h => exact balance_of_inert (Event.inert h.not_builds).2.2.1 rfl _
  | _ => rfl

theorem displays_conserved : Conserved Event.openedDisplay? (fun _ => none) (fun r => r.display?.toList) := by
  intro r r' es m
  cases m with
  | asked _ _ e h => exact balance_of_inert (Event.inert h.not_builds).2.2.2 rfl _
  | loader _ e h => exact balance_of_inert (Event.inert h.not_builds).2.2.2 rfl _
  | _ => rfl

/-- **No display is opened twice and no context made twice.** -/
theorem Course.made_once {r r' : Runtime} {log : List (Event Calls)} (h : Course r log r') :
    (log.filterMap Event.openedDisplay?).length ≤ 1 ∧ (log.filterMap Event.madeContext?).length ≤ 1 := by
  have hdisplays : r.display?.toList ++ log.filterMap Event.openedDisplay? = r'.display?.toList :=
    h.accumulates displays_conserved
  have hcontexts : r.contexts ++ log.filterMap Event.madeContext? = r'.contexts := h.accumulates contexts_conserved
  have hdisplay : r'.display?.toList.length ≤ 1 := Option.length_toList_le
  have hcontext : r'.contexts.length ≤ 1 := by
    rw [Runtime.contexts, List.length_map]
    exact Option.length_toList_le
  rw [← hdisplays, List.length_append] at hdisplay
  rw [← hcontexts, List.length_append] at hcontext
  omega

/-! ## Releases -/

/-- Where a list has one entry of a kind, it is split at an entry of this kind in one way only. -/
theorem split_at_only {α : Type} (p : α → Bool) (first last : List α) {x y : α} {front back : List α}
    (h : first ++ x :: last = front ++ y :: back) (hy : p y = true)
    (hothers : (first ++ last).all (fun z => !p z) = true) : front = first ∧ y = x ∧ back = last := by
  have hne : ∀ z ∈ first ++ last, z ≠ y := by
    rintro z hz rfl
    have hnot := List.all_eq_true.1 hothers z hz
    rw [hy] at hnot
    cases hnot
  rcases List.append_eq_append_iff.1 h with ⟨tail, rfl, htail⟩ | ⟨tail, rfl, htail⟩
  · cases tail with
    | nil =>
      rw [List.nil_append, List.cons.injEq] at htail
      obtain ⟨rfl, rfl⟩ := htail
      exact ⟨List.append_nil _, rfl, rfl⟩
    | cons z tail =>
      rw [List.cons_append, List.cons.injEq] at htail
      exact absurd rfl (hne y (by simp [htail.2]))
  · cases tail with
    | nil =>
      rw [List.nil_append, List.cons.injEq] at htail
      obtain ⟨rfl, rfl⟩ := htail
      exact ⟨(List.append_nil _).symm, rfl, rfl⟩
    | cons z tail =>
      rw [List.cons_append, List.cons.injEq] at htail
      exact absurd rfl (hne y (by simp [htail.1]))

/-- The calls of an attempt on a surface that was left without a context, up to its release. -/
def contextRefused (api : Bool) (display : Display) (version : EsVersion) (config : Config) (surface : Surface) :
    List (Event Calls) :=
  surfaceMaking api display version config surface ++ [⟨.createContext display config version, none⟩]

/-- **A move that releases a surface is an attempt** that made this surface and then got no context. -/
theorem Move.release {r r' : Runtime} {calls front back : List (Event Calls)} {display : Display} {surface : Surface}
    (m : Move r calls r') (h : calls = front ++ ⟨.destroySurface display surface, ()⟩ :: back) :
    ∃ api version config, front = contextRefused api display version config surface := by
  have hmem : surface ∈ calls.filterMap Event.releasedSurface? := by
    rw [h]
    exact List.mem_filterMap.2 ⟨_, List.mem_append_right _ List.mem_cons_self, rfl⟩
  cases m with
  | noContext api d version config s =>
    obtain ⟨rfl, hlast, -⟩ := split_at_only (fun e => e.releasedSurface?.isSome)
      (contextRefused api d version config s) [] h rfl rfl
    cases hlast
    exact ⟨api, version, config, rfl⟩
  | asked _ _ e ha => simp [(Event.inert ha.not_builds).2.1] at hmem
  | loader _ e hl => simp [(Event.inert hl.not_builds).2.1] at hmem
  | _ => exact absurd hmem List.not_mem_nil

/-- **Under a context no surface is released.** -/
theorem Course.released_of_ready {d : Display} {b : Bound} {r : Runtime} {log : List (Event Calls)}
    (h : Course (.ready d b) log r) : log.filterMap Event.releasedSurface? = [] := by
  rw [List.filterMap_eq_nil_iff]
  intro e he
  exact (Event.inert (h.not_builds he)).2.1

/-! ## Accounts -/

/-- What a log and a runtime tell of each other, if nothing was leaked and nothing released twice. -/
structure Accounted (log : List (Event Calls)) (runtime : Runtime) : Prop where
  /-- Every surface made was released, but for the one held. -/
  surfaces : (log.filterMap Event.madeSurface?).length =
    (log.filterMap Event.releasedSurface?).length + if runtime.bound?.isSome then 1 else 0
  /-- No context was made but the one held. -/
  contexts : (log.filterMap Event.madeContext?).length = if runtime.bound?.isSome then 1 else 0
  /-- No display was initialized but the one held. -/
  displays : (log.filterMap Event.openedDisplay?).length = if runtime = .uninitialized then 0 else 1
  /-- A release gives back the surface of the attempt it ends, directly after that was refused a context. -/
  releases : ∀ before display surface after, log = before ++ ⟨.destroySurface display surface, ()⟩ :: after →
    ∃ earlier api version config, before = earlier ++ contextRefused api display version config surface
  /-- The attempt that made what is held is followed by no release. -/
  kept : ∀ display bound, runtime = .ready display bound →
    ∃ before api after, log = before ++ creation api display bound ++ after ∧
      after.filterMap Event.releasedSurface? = []

/-- **Every course from the start keeps account.** -/
theorem Course.accounted {runtime : Runtime} {log : List (Event Calls)} (h : Course .uninitialized log runtime) :
    Accounted log runtime where
  surfaces := by
    have hbalance : log.filterMap Event.madeSurface? = log.filterMap Event.releasedSurface? ++ runtime.surfaces :=
      h.conserves surfaces_conserved
    rw [hbalance, List.length_append]
    cases runtime <;> rfl
  contexts := by
    have hbalance : log.filterMap Event.madeContext? = runtime.contexts := h.accumulates contexts_conserved
    rw [hbalance]
    cases runtime <;> rfl
  displays := by
    have hbalance : log.filterMap Event.openedDisplay? = runtime.display?.toList := h.accumulates displays_conserved
    rw [hbalance]
    cases runtime <;> rfl
  releases := by
    intro before display surface after hlog
    obtain ⟨r₁, earlier, front, back, r₂, es₂, -, m, -, rfl, -⟩ := h.locate hlog
    obtain ⟨api, version, config, rfl⟩ := m.release rfl
    exact ⟨earlier, api, version, config, rfl⟩
  kept := by
    rintro display bound rfl
    obtain ⟨before, api, after, hlog, -, c⟩ := h.exists_creation nofun
    exact ⟨before, api, after, hlog, c.released_of_ready⟩

/-- **No surface, context or display is leaked or released twice**, whatever the steps and whatever the driver. -/
theorem accounted_of_steps (loaders : LoaderShelf) (names : List String) (steps : List Step) (driver : DriverState) :
    Accounted (Session.surveyCalls loaders names steps { driver })
      (Session.afterAll (.direct loaders) names steps { driver }).runtime :=
  (Session.course_of_steps loaders names steps { driver }).accounted

end DriverSurvey
