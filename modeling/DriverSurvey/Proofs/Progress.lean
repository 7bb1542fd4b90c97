import DriverSurvey.Proofs.Coherence
/-!
# Progress — the lifecycle goes forward and rebuilds nothing

Stages follow one another in one direction, and what a stage has gained is neither lost nor asked for again
(`Course.onward`).  An acquiring that fails keeps all that was gained before it failed (`Acquisition.kept`).
-/
namespace DriverSurvey

open Program

/-! ## Forward -/

/-- Whether the call looks for a display or initializes one. -/
def Request.opens : Request → Bool
  | .defaultDisplay | .openDisplay _ => true
  | _ => false

theorem opens_of_not_builds {q : Request} (h : q.builds = false) : q.opens = false := by
  cases q <;> first | rfl | cases h

theorem Move.rank_le {r r' : Runtime} {calls : List (Event Calls)} (m : Move r calls r') :
    r.stage.rank ≤ r'.stage.rank := by
  cases m <;> simp [Runtime.stage, Stage.rank]

theorem Course.rank_le {r r' : Runtime} {log : List (Event Calls)} (h : Course r log r') :
    r.stage.rank ≤ r'.stage.rank := by
  induction h with
  | rest => exact Nat.le_refl _
  | step _ m ih => exact Nat.le_trans ih m.rank_le

theorem Move.keeps_display {r r' : Runtime} {calls : List (Event Calls)} {d : Display} (m : Move r calls r')
    (hd : r.display? = some d) : r'.display? = some d ∧ ∀ e ∈ calls, e.request.opens = false := by
  cases m with
  | noDisplay => cases hd
  | notOpened => cases hd
  | opened => cases hd
  | asked _ _ e h =>
    refine ⟨hd, fun e' he => ?_⟩
    rw [List.mem_singleton.1 he]
    exact opens_of_not_builds h.not_builds
  | loader _ e h =>
    refine ⟨hd, fun e' he => ?_⟩
    rw [List.mem_singleton.1 he]
    exact opens_of_not_builds h.not_builds
  | _ => exact ⟨hd, by simp [creation, surfaceMaking, Request.opens]⟩

/-- **A display that is held stays, and no other is looked for.** -/
theorem Course.keeps_display {r r' : Runtime} {log : List (Event Calls)} {d : Display} (h : Course r log r')
    (hd : r.display? = some d) : r'.display? = some d ∧ ∀ e ∈ log, e.request.opens = false := by
  induction h with
  | rest => exact ⟨hd, fun e he => absurd he List.not_mem_nil⟩
  | step _ m ih =>
    obtain ⟨hlast, hlog⟩ := ih
    obtain ⟨hnext, hcalls⟩ := m.keeps_display hlast
    refine ⟨hnext, fun e he => ?_⟩
    rcases List.mem_append.1 he with he | he
    · exact hlog e he
    · exact hcalls e he

/-- What the lifecycle keeps from one runtime to a later one, and what is not called in between. -/
structure Onward (before : Runtime) (calls : List (Event Calls)) (after : Runtime) : Prop where
  /-- The stage does not go back. -/
  rank : before.stage.rank ≤ after.stage.rank
  /-- A display that is held stays, and is neither looked for nor initialized again. -/
  display : ∀ display, before.display? = some display →
    after.display? = some display ∧ ∀ e ∈ calls, e.request.opens = false
  /-- A context that is bound stays with all its handles, and nothing is built or given back any more. -/
  context : ∀ display bound, before = .ready display bound →
    after = .ready display bound ∧ ∀ e ∈ calls, e.request.builds = false

/-- **Every course goes forward.** -/
theorem Course.onward {r r' : Runtime} {log : List (Event Calls)} (h : Course r log r') : Onward r log r' where
  rank := h.rank_le
  display _ hd := h.keeps_display hd
  context := by
    rintro display bound rfl
    exact ⟨h.eq_ready rfl, fun e he => h.not_builds he⟩

/-! ## What a failure keeps -/

/-- There was no display, or it could not be initialized. -/
def DisplayRefused (calls : List (Event Calls)) : Prop :=
  ⟨.defaultDisplay, none⟩ ∈ calls ∨ ∃ display, ⟨.openDisplay display, none⟩ ∈ calls

/-- Every version was tried, and none got a context. -/
def VersionsRefused (calls : List (Event Calls)) : Prop :=
  calls.filterMap Event.triedVersion? = EsVersion.byPreference ∧ calls.filterMap Event.madeContext? = []

/-- A context was not made current. -/
def CurrentRefused (calls : List (Event Calls)) : Prop :=
  ∃ display surface context, ⟨.makeCurrent display surface context, false⟩ ∈ calls

/-- What is held after an acquiring that failed, by what failed. -/
structure Kept (before : Runtime) (calls : List (Event Calls)) (after : Runtime) : Prop where
  /-- Nothing else can fail. -/
  cause : DisplayRefused calls ∨ VersionsRefused calls ∨ CurrentRefused calls
  /-- Without a display all is as it was. -/
  display : DisplayRefused calls → after = before
  /-- Without a version there is the display that was held, or else the one just opened. -/
  versions : VersionsRefused calls → ∃ display, after = .displayBound display ∧
    before.display?.toList ++ calls.filterMap Event.openedDisplay? = [display]
  /-- A context that was held before is held on, as all else. -/
  current : CurrentRefused calls → before.bound?.isSome → after = before
  /-- A context that was created is held from now on. -/
  created : CurrentRefused calls → before.bound? = none → ∃ display bound,
    after = .ready display bound ∧ calls.filterMap Event.madeContext? = [bound.context]

theorem DisplayRefused.append {calls : List (Event Calls)} (before : List (Event Calls)) :
    DisplayRefused calls → DisplayRefused (before ++ calls)
  | .inl h => .inl (List.mem_append_right _ h)
  | .inr ⟨display, h⟩ => .inr ⟨display, List.mem_append_right _ h⟩

theorem CurrentRefused.append {calls : List (Event Calls)} (before : List (Event Calls)) :
    CurrentRefused calls → CurrentRefused (before ++ calls)
  | ⟨display, surface, context, h⟩ => ⟨display, surface, context, List.mem_append_right _ h⟩

theorem Negotiation.versionsRefused {display : Display} {last fault : Fault} {log : List (Event Calls)}
    (h : Negotiation display EsVersion.byPreference last log (.error fault)) : VersionsRefused log := by
  refine ⟨h.tried.2 fault rfl, ?_⟩
  exact h.course.madeContext_of_same

/-- **An acquiring that fails lacks a display, a version, or the context made current.** -/
theorem Acquisition.refused_of_error {r r' : Runtime} {log : List (Event Calls)} {fault : Fault}
    (h : Acquisition r log (.error fault) r') : DisplayRefused log ∨ VersionsRefused log ∨ CurrentRefused log := by
  generalize hresult : (Except.error fault : Except Fault Active) = result at h
  induction h with
  | noDisplay => exact .inl (.inl List.mem_cons_self)
  | notOpened display => exact .inl (.inr ⟨display, List.mem_cons_of_mem _ List.mem_cons_self⟩)
  | opened display version _ ih =>
    rcases ih hresult with hrefused | hrefused | hrefused
    · exact .inl (hrefused.append _)
    · exact .inr (.inl hrefused)
    · exact .inr (.inr (hrefused.append _))
  | refused hnegotiation => exact .inr (.inl hnegotiation.versionsRefused)
  | bound _ hready ih =>
    -- with a context nothing is left to go wrong but to make it current
    cases hready with
    | notActivated => exact .inr (.inr (CurrentRefused.append _ ⟨_, _, _, List.mem_cons_self⟩))
    | activated => cases hresult
  | notActivated display bound => exact .inr (.inr ⟨_, _, _, List.mem_cons_self⟩)
  | activated => cases hresult

theorem DisplayRefused.not_of_held {r r' : Runtime} {log : List (Event Calls)} {d : Display} (h : Course r log r')
    (hd : r.display? = some d) : ¬DisplayRefused log := by
  have hopens := (h.keeps_display hd).2
  rintro (he | ⟨display, he⟩)
  · exact absurd (hopens _ he) (by decide)
  · exact absurd (hopens _ he) (by simp [Request.opens])

/-- **Where there is no display, acquiring changes nothing.** -/
theorem Acquisition.eq_of_displayRefused {r r' : Runtime} {log : List (Event Calls)} {result : Except Fault Active}
    (h : Acquisition r log result r') (hrefused : DisplayRefused log) : r' = r := by
  cases h with
  | noDisplay => rfl
  | notOpened => rfl
  | @opened display version log _ _ hrest =>
    have hlog : DisplayRefused log := by simpa [DisplayRefused, opening] using hrefused
    exact absurd hlog (DisplayRefused.not_of_held hrest.course rfl)
  | refused hnegotiation => rfl
  | bound hnegotiation hrest =>
    exact absurd hrefused (DisplayRefused.not_of_held (hnegotiation.course.append hrest.course) rfl)
  | notActivated => rfl
  | activated => rfl

theorem Event.builds_of_tried {e : Event Calls} {version : EsVersion} (h : e.triedVersion? = some version) :
    e.request.builds = true ∧ e.request.opens = false := by
  obtain ⟨q, reply⟩ := e
  cases q <;> first | exact ⟨rfl, rfl⟩ | cases h

/-- **What is built beyond a display is built on one that is held**, and while there is no context. -/
theorem Move.of_builds {r r' : Runtime} {calls : List (Event Calls)} {e : Event Calls} (m : Move r calls r')
    (he : e ∈ calls) (hbuilds : e.request.builds = true) (hopens : e.request.opens = false) :
    ∃ display, r = .displayBound display := by
  have hnot : calls.all (fun e => e.request.opens || !e.request.builds) = false := by
    rw [List.all_eq_false]
    exact ⟨e, he, by simp [hbuilds, hopens]⟩
  cases m with
  | noDisplay => cases hnot
  | notOpened => cases hnot
  | opened => cases hnot
  | activated => cases hnot
  | asked _ _ _ h => simp [h.not_builds] at hnot
  | loader _ _ h => simp [h.not_builds] at hnot
  | _ => exact ⟨_, rfl⟩

/-- **Where every version was refused, the display is held that was held or was opened.** -/
theorem Course.displayBound_of_versionsRefused {r r' : Runtime} {log : List (Event Calls)} (h : Course r log r')
    (hrefused : VersionsRefused log) :
    ∃ display, r' = .displayBound display ∧ r.display?.toList ++ log.filterMap Event.openedDisplay? = [display] := by
  obtain ⟨htried, hmade⟩ := hrefused
  have hmem : EsVersion.es3 ∈ log.filterMap Event.triedVersion? := by
    rw [htried]
    exact EsVersion.mem_byPreference .es3
  obtain ⟨e, he, hversion⟩ := List.mem_filterMap.1 hmem
  obtain ⟨hbuilds, hopens⟩ := Event.builds_of_tried hversion
  obtain ⟨r₁, es₁, calls, r₂, es₂, c₁, m, hcall, c₂⟩ := h.mem he
  obtain ⟨display, rfl⟩ := m.of_builds hcall hbuilds hopens
  have hdisplay : r'.display? = some display := (c₂.keeps_display (m.keeps_display rfl).1).1
  have hdisplays : r.display?.toList ++ log.filterMap Event.openedDisplay? = r'.display?.toList :=
    h.accumulates displays_conserved
  have hcontexts : r.contexts ++ log.filterMap Event.madeContext? = r'.contexts := h.accumulates contexts_conserved
  have hnone : r.contexts = [] := by
    cases r with
    | ready d b => exact absurd (c₁.eq_ready rfl) nofun
    | _ => rfl
  rw [hnone, hmade] at hcontexts
  cases r' with
  | uninitialized => cases hdisplay
  | ready d b => cases hcontexts
  | displayBound d =>
    cases hdisplay
    exact ⟨_, rfl, hdisplays⟩

/-- **An acquiring that fails keeps what was gained before it failed.** -/
theorem Acquisition.kept {r r' : Runtime} {log : List (Event Calls)} {fault : Fault}
    (h : Acquisition r log (.error fault) r') : Kept r log r' where
  cause := h.refused_of_error
  display := h.eq_of_displayRefused
  versions := h.course.displayBound_of_versionsRefused
  current := by
    intro _ hbound
    cases r with
    | ready display bound => exact h.course.eq_ready rfl
    | _ => cases hbound
  created := by
    rintro ⟨display, surface, context, he⟩ hnone
    have hcontexts : r.contexts ++ log.filterMap Event.madeContext? = r'.contexts :=
      h.course.accumulates contexts_conserved
    have hempty : r.contexts = [] := by rw [Runtime.contexts, hnone]; rfl
    rcases h.course.of_mem he with hb | hl | ⟨d, b, rfl, -⟩
    · cases hb
    · cases hl
    · rw [hempty] at hcontexts
      exact ⟨d, b, rfl, hcontexts⟩

/-! ## Sessions -/

/-- **The lifecycle only goes forward and rebuilds nothing**, from any state on, whatever steps are played over any
driver and however it changes on the way.  To acquire ends with a context, or fails and keeps what was gained. -/
theorem onward_of_steps (loaders : LoaderShelf) (names : List String) (session : Session) (steps : List Step) :
    Onward session.runtime (session.surveyCalls loaders names steps)
        (session.afterAll (.direct loaders) names steps).runtime ∧
      let acquired := session.perform (.direct loaders) names (.query .active)
      (∀ active, acquired.answer = some active →
        ∃ display bound, acquired.after.runtime = .ready display bound ∧ active = bound.active display) ∧
      (acquired.answer = none → Kept session.runtime acquired.events acquired.after.runtime) := by
  refine ⟨(Session.course_of_steps loaders names steps session).onward, ?_⟩
  rw [Session.perform_active]
  have hacquisition := acquire_trace (trace_run (DriverState.serve loaders) session.runtime.acquire session.driver)
  generalize session.runtime.acquire.run (DriverState.serve loaders) session.driver = acquired at hacquisition
  obtain ⟨⟨result, after⟩, state, events⟩ := acquired
  cases result with
  | error fault => exact ⟨nofun, fun _ => hacquisition.kept⟩
  | ok active =>
    refine ⟨fun handed hanswer => ?_, nofun⟩
    cases hanswer
    exact Runtime.active?_eq_some hacquisition.active

end DriverSurvey
