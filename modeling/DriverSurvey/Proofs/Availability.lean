import DriverSurvey.Proofs.Progress
import DriverSurvey.Proofs.Routing
/-!
# Availability — a context is to be had exactly when the driver has one to give

Whether acquiring succeeds is decided by what is held and by the script of the moment, whatever came before
(`Script.active?_isSome_iff`).  On the way there the versions are tried in order, each of them once, and nothing is
asked for that the calls before have not made way for (`Acquisition.orderly`).  What the driver says of binding the API
and of giving a surface back is not listened to (`active_flagged`).
-/
namespace DriverSurvey

open Program

/-! ## What decides -/

/-- The driver has a configuration, a surface and a context for the version. -/
def Script.Offers (script : Script) (version : EsVersion) : Prop :=
  (script.configs.get version).config?.isSome ∧ (script.surfaces.get version).isSome ∧
    (script.contexts.get version).isSome

instance (script : Script) (version : EsVersion) : Decidable (script.Offers version) :=
  inferInstanceAs (Decidable (_ ∧ _ ∧ _))

namespace Script

variable (script : Script)

theorem opens?_isSome_iff : script.opens?.isSome ↔ script.display.isSome ∧ script.connection.isSome := by
  unfold opens?
  cases script.connection <;> simp

theorem binds?_isSome_iff (version : EsVersion) : (script.binds? version).isSome ↔ script.Offers version := by
  unfold binds? Offers
  cases (script.configs.get version).config? with
  | none => simp
  | some config =>
    cases script.surfaces.get version with
    | none => simp
    | some surface => cases script.contexts.get version <;> simp

theorem version_of_binds? {script : Script} {version : EsVersion} {bound : Bound}
    (h : script.binds? version = some bound) : bound.version = version := by
  unfold binds? at h
  cases hconfig : (script.configs.get version).config? with
  | none => simp [hconfig] at h
  | some config =>
    cases hsurface : script.surfaces.get version with
    | none => simp [hconfig, hsurface] at h
    | some surface =>
      cases hcontext : script.contexts.get version with
      | none => simp [hconfig, hsurface, hcontext] at h
      | some context =>
        simp only [hconfig, hsurface, hcontext, Option.bind_eq_bind, Option.bind_some] at h
        cases h
        rfl

theorem findSome?_binds?_isSome_iff :
    (EsVersion.byPreference.findSome? script.binds?).isSome ↔ ∃ version, script.Offers version := by
  rw [List.findSome?_isSome_iff]
  constructor
  · rintro ⟨version, -, h⟩
    exact ⟨version, (script.binds?_isSome_iff version).1 h⟩
  · rintro ⟨version, h⟩
    exact ⟨version, EsVersion.mem_byPreference version, (script.binds?_isSome_iff version).2 h⟩

theorem boundOn_active?_isSome_iff (display : Display) :
    (script.boundOn display).active?.isSome ↔ ∃ version, script.Offers version := by
  rw [← findSome?_binds?_isSome_iff, boundOn]
  cases EsVersion.byPreference.findSome? script.binds? <;> simp [Runtime.active?]

/-- **A context is to be had if a display is held or can be opened, if a context is held or a version is to be had,
and if it can be made current.** -/
theorem active?_isSome_iff (runtime : Runtime) : (script.active? runtime).isSome ↔
    (runtime.display?.isSome ∨ script.display.isSome ∧ script.connection.isSome) ∧
      (runtime.bound?.isSome ∨ ∃ version, script.Offers version) ∧ script.makesCurrent := by
  unfold active?
  cases script.makesCurrent with
  | false => simp
  | true =>
    cases runtime with
    | ready display bound => simp [Runtime.acquired, Runtime.active?, Runtime.display?, Runtime.bound?]
    | displayBound display =>
      simp [Runtime.acquired, Runtime.display?, Runtime.bound?, boundOn_active?_isSome_iff]
    | uninitialized =>
      rw [← opens?_isSome_iff]
      cases hopens : script.opens? with
      | none => simp [Runtime.acquired, Runtime.active?, Runtime.display?, hopens]
      | some display =>
        simp [Runtime.acquired, Runtime.display?, Runtime.bound?, hopens, boundOn_active?_isSome_iff]

/-- The version of the context that is to be had. -/
theorem version_of_boundOn {display : Display} {active : Active}
    (h : (script.boundOn display).active? = some active) :
    active.version = if script.Offers .es3 then .es3 else .es2 := by
  unfold boundOn at h
  simp only [EsVersion.byPreference, List.findSome?_cons, List.findSome?_nil] at h
  have hoffers := script.binds?_isSome_iff .es3
  cases hes3 : script.binds? .es3 with
  | some bound =>
    rw [hes3] at h hoffers
    rw [if_pos (hoffers.1 rfl)]
    cases h
    exact version_of_binds? hes3
  | none =>
    rw [hes3] at h hoffers
    rw [if_neg fun ho => Bool.false_ne_true (hoffers.2 ho)]
    cases hes2 : script.binds? .es2 with
    | some bound =>
      rw [hes2] at h
      cases h
      exact version_of_binds? hes2
    | none =>
      rw [hes2] at h
      cases h

theorem version_of_active? {runtime : Runtime} {active : Active} (h : script.active? runtime = some active) :
    active.version = match runtime.bound? with
      | some bound => bound.version
      | none => if script.Offers .es3 then .es3 else .es2 := by
  unfold active? at h
  split at h
  · cases runtime with
    | ready display bound =>
      cases h
      rfl
    | displayBound display => exact script.version_of_boundOn h
    | uninitialized =>
      simp only [Runtime.acquired] at h
      cases hopens : script.opens? with
      | none =>
        rw [hopens] at h
        cases h
      | some display =>
        rw [hopens] at h
        exact script.version_of_boundOn h
  · cases h

end Script

/-! ## In which order -/

namespace Request

def makesSurface : Request → Bool
  | .createSurface _ _ => true
  | _ => false

def makesContext : Request → Bool
  | .createContext _ _ _ => true
  | _ => false

def makesCurrent : Request → Bool
  | .makeCurrent _ _ _ => true
  | _ => false

theorem not_makesCurrent_of_builds {q : Request} (h : q.builds = true) : q.makesCurrent = false := by
  cases q <;> first | rfl | cases h

end Request

theorem filter_makesCurrent_of_builds {calls : List (Event Calls)} (h : ∀ e ∈ calls, e.request.builds = true) :
    calls.filter (fun e => e.request.makesCurrent) = [] := by
  rw [List.filter_eq_nil_iff]
  intro e he
  rw [Request.not_makesCurrent_of_builds (h e he)]
  exact Bool.false_ne_true

section Splits

variable {r r' : Runtime} {calls front back : List (Event Calls)} {d : Display} {c : Config}

theorem Move.of_surface {reply : Option Surface} (m : Move r calls r')
    (h : calls = front ++ ⟨.createSurface d c, reply⟩ :: back) :
    ∃ api version, front = [⟨.bindApi, api⟩, ⟨.chooseConfig d (.standard version), some c⟩] := by
  have hmem : (⟨.createSurface d c, reply⟩ : Event Calls) ∈ calls := by simp [h]
  cases m with
  | noSurface api _ version _ =>
    obtain ⟨rfl, heq, -⟩ := split_at_only (fun e => e.request.makesSurface) [_, _] [] h rfl rfl
    cases heq
    exact ⟨api, version, rfl⟩
  | noContext api _ version _ _ =>
    obtain ⟨rfl, heq, -⟩ := split_at_only (fun e => e.request.makesSurface) [_, _] [_, _] h rfl rfl
    cases heq
    exact ⟨api, version, rfl⟩
  | created api _ bound =>
    obtain ⟨rfl, heq, -⟩ := split_at_only (fun e => e.request.makesSurface) [_, _] [_] h rfl rfl
    cases heq
    exact ⟨api, bound.version, rfl⟩
  | asked _ _ _ ha =>
    cases List.mem_singleton.1 hmem
    cases ha
  | loader _ _ hl =>
    cases List.mem_singleton.1 hmem
    cases hl
  | _ => simp [opening] at hmem

theorem Move.of_context {version : EsVersion} {reply : Option Context} (m : Move r calls r')
    (h : calls = front ++ ⟨.createContext d c version, reply⟩ :: back) :
    ∃ api surface, front = surfaceMaking api d version c surface ∧
      (reply = none → back = [⟨.destroySurface d surface, ()⟩]) := by
  have hmem : (⟨.createContext d c version, reply⟩ : Event Calls) ∈ calls := by simp [h]
  cases m with
  | noContext api _ _ _ surface =>
    obtain ⟨rfl, heq, rfl⟩ := split_at_only (fun e => e.request.makesContext) [_, _, _] [_] h rfl rfl
    cases heq
    exact ⟨api, surface, rfl, fun _ => rfl⟩
  | created api _ bound =>
    obtain ⟨rfl, heq, rfl⟩ := split_at_only (fun e => e.request.makesContext) [_, _, _] [] h rfl rfl
    cases heq
    exact ⟨api, bound.surface, rfl, nofun⟩
  | asked _ _ _ ha =>
    cases List.mem_singleton.1 hmem
    cases ha
  | loader _ _ hl =>
    cases List.mem_singleton.1 hmem
    cases hl
  | _ => simp [opening] at hmem

end Splits

/-- What may be called when in acquiring, and how often. -/
structure Orderly (calls : List (Event Calls)) (after : Runtime) : Prop where
  /-- Versions are tried by preference, each at most once. -/
  tried : calls.filterMap Event.triedVersion? <+: EsVersion.byPreference
  /-- The second is tried only behind a refusal of the first. -/
  second : .es2 ∈ calls.filterMap Event.triedVersion? → ∃ earlier display refusal fault later,
    calls = earlier ++ refusal ++ later ∧ Refusal display .es3 refusal fault ∧
      .es2 ∉ earlier.filterMap Event.triedVersion?
  /-- A surface is asked for on the configuration just chosen. -/
  surface : ∀ earlier display config reply later, calls = earlier ++ ⟨.createSurface display config, reply⟩ :: later →
    ∃ first api version,
      earlier = first ++ [⟨.bindApi, api⟩, ⟨.chooseConfig display (.standard version), some config⟩]
  /-- A context is asked for with the surface just created; the surface of one that is refused is given back at once. -/
  context : ∀ earlier display config version reply later,
    calls = earlier ++ ⟨.createContext display config version, reply⟩ :: later →
      ∃ first api surface, earlier = first ++ surfaceMaking api display version config surface ∧
        (reply = none → ∃ rest, later = ⟨.destroySurface display surface, ()⟩ :: rest)
  /-- No surface is given back but the one just created, for which a context was just refused. -/
  release : ∀ earlier display surface later, calls = earlier ++ ⟨.destroySurface display surface, ()⟩ :: later →
    ∃ first api version config, earlier = first ++ contextRefused api display version config surface
  /-- At most once something is made current. -/
  once : (calls.filter fun e => e.request.makesCurrent).length ≤ 1
  /-- Nothing is made current but what is held in the end. -/
  current : ∀ display surface context reply, ⟨.makeCurrent display surface context, reply⟩ ∈ calls →
    ∃ bound, after = .ready display bound ∧ bound.surface = surface ∧ bound.context = context

theorem Negotiation.second {display : Display} {first : EsVersion} {rest : List EsVersion} {last : Fault}
    {log : List (Event Calls)} {result : Except Fault Bound} (h : Negotiation display (first :: rest) last log result) :
    log.filterMap Event.triedVersion? = [first] ∨
      ∃ refusal fault later, log = refusal ++ later ∧ Refusal display first refusal fault := by
  generalize hversions : first :: rest = versions at h
  cases h with
  | exhausted => cases hversions
  | settled api bound =>
    rw [(List.cons.inj hversions).1]
    exact .inl rfl
  | @refused _ _ _ fault calls later _ hrefusal =>
    rw [(List.cons.inj hversions).1]
    exact .inr ⟨calls, fault, later, rfl, hrefusal⟩

theorem Acquisition.tried_of_ready {d : Display} {b : Bound} {r : Runtime} {log : List (Event Calls)}
    {result : Except Fault Active} (h : Acquisition (.ready d b) log result r) :
    log.filterMap Event.triedVersion? = [] := by
  rw [h.log_of_ready]
  rfl

theorem Acquisition.tried {r r' : Runtime} {log : List (Event Calls)} {result : Except Fault Active}
    (h : Acquisition r log result r') : log.filterMap Event.triedVersion? <+: EsVersion.byPreference := by
  induction h with
  | opened _ _ _ ih => exact ih
  | refused hnegotiation => exact hnegotiation.tried.1
  | bound hnegotiation hready =>
    rw [List.filterMap_append, hready.tried_of_ready, List.append_nil]
    exact hnegotiation.tried.1
  | _ => exact List.nil_prefix

theorem Acquisition.second {r r' : Runtime} {log : List (Event Calls)} {result : Except Fault Active}
    (h : Acquisition r log result r') (htried : .es2 ∈ log.filterMap Event.triedVersion?) :
    ∃ earlier display refusal fault later, log = earlier ++ refusal ++ later ∧ Refusal display .es3 refusal fault ∧
      .es2 ∉ earlier.filterMap Event.triedVersion? := by
  induction h with
  | opened display version _ ih =>
    obtain ⟨earlier, d, refusal, fault, later, rfl, hrefusal, hearlier⟩ := ih htried
    refine ⟨opening display version ++ earlier, d, refusal, fault, later, ?_, hrefusal, hearlier⟩
    rw [List.append_assoc, List.append_assoc, List.append_assoc]
  | @refused display _ _ hnegotiation =>
    rcases hnegotiation.second with hone | ⟨refusal, fault, later, rfl, hrefusal⟩
    · rw [hone] at htried
      cases List.mem_singleton.1 htried
    · exact ⟨[], display, refusal, fault, later, rfl, hrefusal, List.not_mem_nil⟩
  | @bound display _ _ calls _ _ hnegotiation hready =>
    rcases hnegotiation.second with hone | ⟨refusal, fault, later, rfl, hrefusal⟩
    · rw [List.filterMap_append, hone, hready.tried_of_ready] at htried
      cases List.mem_singleton.1 htried
    · exact ⟨[], display, refusal, fault, later ++ calls, List.append_assoc _ _ _, hrefusal, List.not_mem_nil⟩
  | _ => exact absurd htried List.not_mem_nil

/-- **Acquiring is orderly**, whatever the driver replies. -/
theorem Acquisition.orderly {r r' : Runtime} {log : List (Event Calls)} {result : Except Fault Active}
    (h : Acquisition r log result r') : Orderly log r' where
  tried := h.tried
  second := h.second
  surface := by
    intro earlier display config reply later hlog
    obtain ⟨r₁, es₁, front, back, r₂, es₂, -, m, -, rfl, -⟩ := h.course.locate hlog
    obtain ⟨api, version, rfl⟩ := m.of_surface rfl
    exact ⟨es₁, api, version, rfl⟩
  context := by
    intro earlier display config version reply later hlog
    obtain ⟨r₁, es₁, front, back, r₂, es₂, -, m, -, rfl, rfl⟩ := h.course.locate hlog
    obtain ⟨api, surface, rfl, hback⟩ := m.of_context rfl
    refine ⟨es₁, api, surface, rfl, fun hnone => ⟨es₂, ?_⟩⟩
    rw [hback hnone]
    rfl
  release := by
    intro earlier display surface later hlog
    obtain ⟨r₁, es₁, front, back, r₂, es₂, -, m, -, rfl, -⟩ := h.course.locate hlog
    obtain ⟨api, version, config, rfl⟩ := m.release rfl
    exact ⟨es₁, api, version, config, rfl⟩
  once := by
    rcases h.ends with ⟨d, b, earlier, -, rfl, hearlier⟩ | ⟨-, hlog⟩
    · rw [List.filter_append, filter_makesCurrent_of_builds hearlier]
      exact Nat.le_refl 1
    · rw [filter_makesCurrent_of_builds hlog]
      exact Nat.zero_le 1
  current := by
    intro display surface context reply he
    rcases h.course.of_mem he with hb | hl | ⟨d, b, rfl, hq | ha⟩
    · cases hb
    · cases hl
    · cases hq
      exact ⟨b, rfl, rfl, rfl⟩
    · cases ha

/-! ## What is not listened to -/

/-- The driver with other answers as to whether the API is bound and whether a surface is given back. -/
def DriverState.flagged (d : DriverState) (api destroys : Bool) : DriverState :=
  { d with script := { d.script with bindsApi := api, destroys := destroys } }

def Request.isBindApi (q : Request) : Prop := q = .bindApi

theorem heedless_ask {q : Request} (h : q ≠ .bindApi) : (ask q).Heedless Request.isBindApi :=
  heedless_send h

theorem openDisplay_heedless : Runtime.openDisplay.Heedless Request.isBindApi := by
  refine (heedless_ask (by nofun)).bind fun display? => ?_
  cases display? with
  | none => exact heedless_pure _ _
  | some display => exact (heedless_ask (by nofun)).bind fun version? => by cases version? <;> exact heedless_pure _ _

theorem attempt_heedless (display : Display) (version : EsVersion) :
    (Runtime.attempt display version).Heedless Request.isBindApi := by
  refine heedless_send_then (I := Calls) Request.bindApi ?_
  refine (heedless_ask (by nofun)).bind fun config? => ?_
  cases config? with
  | none => exact heedless_pure _ _
  | some config =>
    refine (heedless_ask (by nofun)).bind fun surface? => ?_
    cases surface? with
    | none => exact heedless_pure _ _
    | some surface =>
      refine (heedless_ask (by nofun)).bind fun context? => ?_
      cases context? with
      | none => exact (heedless_ask (by nofun)).bind fun _ => heedless_pure _ _
      | some context => exact heedless_pure _ _

theorem attemptAll_heedless (display : Display) : ∀ (versions : List EsVersion) (last : Fault),
    (Runtime.attemptAll display last versions).Heedless Request.isBindApi
  | [], _ => heedless_pure _ _
  | version :: rest, _ => by
    refine (attempt_heedless display version).bind fun attempted => ?_
    cases attempted with
    | ok bound => exact heedless_pure _ _
    | error fault => exact attemptAll_heedless display rest fault

theorem activate_heedless (display : Display) (bound : Bound) :
    (Runtime.activate display bound).Heedless Request.isBindApi :=
  (heedless_ask (by nofun)).bind fun current => by cases current <;> exact heedless_pure _ _

theorem bindContext_heedless (display : Display) : (Runtime.bindContext display).Heedless Request.isBindApi := by
  refine (attemptAll_heedless display _ _).bind fun created => ?_
  cases created with
  | ok bound => exact activate_heedless display bound
  | error fault => exact heedless_pure _ _

/-- **Acquiring does not listen to whether the API was bound.** -/
theorem acquire_heedless : ∀ runtime : Runtime, runtime.acquire.Heedless Request.isBindApi
  | .ready display bound => activate_heedless display bound
  | .displayBound display => bindContext_heedless display
  | .uninitialized => by
    refine openDisplay_heedless.bind fun opened => ?_
    cases opened with
    | ok display => exact bindContext_heedless display
    | error fault => exact heedless_pure _ _

theorem active_heedless (runtime : Runtime) : (Query.survey .active runtime).Heedless Request.isBindApi := by
  refine (acquire_heedless runtime).bind fun acquired => ?_
  obtain ⟨result, after⟩ := acquired
  cases result with
  | ok active => exact heedless_pure _ _
  | error fault => exact heedless_pure _ _

variable (api destroys : Bool)

theorem DriverState.takeError_flagged (d : DriverState) :
    (d.flagged api destroys).takeError.2 = d.takeError.2.flagged api destroys ∧
      (d.flagged api destroys).takeError.1 = d.takeError.1 := by
  obtain ⟨script, errors, chosen⟩ := d
  cases errors <;> exact ⟨rfl, rfl⟩

theorem serve_flagged (loaders : LoaderShelf) (q : Request) (d : DriverState) :
    (DriverState.serve loaders q (d.flagged api destroys)).2 = (d.serve loaders q).2.flagged api destroys ∧
      (q ≠ .bindApi → (DriverState.serve loaders q (d.flagged api destroys)).1 = (d.serve loaders q).1) := by
  cases q with
  | bindApi => exact ⟨rfl, fun h => absurd rfl h⟩
  | error =>
    obtain ⟨hstate, hcode⟩ := d.takeError_flagged api destroys
    exact ⟨hstate, fun _ => hcode⟩
  | _ => exact ⟨rfl, fun _ => rfl⟩

theorem served_configDepth (shelf : Shelf) (driver : EglBinding) (gles : Option GlesBinding) (display : Display)
    (config : Config) (channel : Channel) (d : DriverState) :
    served (Bindings.mk (some driver) gles).route (DriverState.serveNative shelf)
      (.configDepth display config channel) d = (d.script.depth channel, d) := by
  simp only [served, Bindings.route, Bindings.callEgl, enter, call_bind, done_bind, run, DriverState.serveNative,
    DriverState.serveEntry, ofToken?_token, Option.bind_some]
  cases d.script.depth channel <;> rfl

theorem served_flagged (shelf : Shelf) (drivers : Bindings) (q : Request) (d : DriverState) :
    let serve := served drivers.route (DriverState.serveNative shelf)
    (serve q (d.flagged api destroys)).2 = (serve q d).2.flagged api destroys ∧
      (q ≠ .bindApi → (serve q (d.flagged api destroys)).1 = (serve q d).1) := by
  obtain ⟨egl, gles⟩ := drivers
  cases q with
  | bindApi => cases egl <;> exact ⟨rfl, fun h => absurd rfl h⟩
  | error =>
    obtain ⟨hstate, hcode⟩ := d.takeError_flagged api destroys
    cases gles with
    | none => exact ⟨rfl, fun _ => rfl⟩
    | some driver => exact ⟨hstate, fun _ => hcode⟩
  | openDisplay display =>
    obtain ⟨⟨_, connection⟩, errors, chosen⟩ := d
    cases egl <;> cases connection <;> exact ⟨rfl, fun _ => rfl⟩
  | configDepth display config channel =>
    cases egl with
    | none => exact ⟨rfl, fun _ => rfl⟩
    | some driver =>
      simp only [served_configDepth]
      exact ⟨trivial, fun _ => rfl⟩
  | integers token room => cases room <;> cases gles <;> exact ⟨rfl, fun _ => rfl⟩
  | entryPoint name =>
    simp only [served, Bindings.route]
    split
    · exact ⟨rfl, fun _ => rfl⟩
    · cases egl <;> exact ⟨rfl, fun _ => rfl⟩
  | openLoader | findVersionEntry | loaderVersion | closeLoader => exact ⟨rfl, fun _ => rfl⟩
  | text | clearColor | clear | finish => cases gles <;> exact ⟨rfl, fun _ => rfl⟩
  | _ => cases egl <;> exact ⟨rfl, fun _ => rfl⟩

theorem active_run_flagged {serve : Server Calls DriverState}
    (h : ∀ (q : Request) (d : DriverState), (serve q (d.flagged api destroys)).2 = (serve q d).2.flagged api destroys ∧
      (q ≠ .bindApi → (serve q (d.flagged api destroys)).1 = (serve q d).1)) (runtime : Runtime) (d : DriverState) :
    let played := (Query.survey .active runtime).run serve d
    let played' := (Query.survey .active runtime).run serve (d.flagged api destroys)
    played'.value = played.value ∧ played'.events.map (·.request) = played.events.map (·.request) := by
  have hserve (q : Request) (s t : DriverState) (hst : s = t.flagged api destroys) :
      (serve q s).2 = (serve q t).2.flagged api destroys ∧ (¬q.isBindApi → (serve q s).1 = (serve q t).1) := by
    rw [hst]
    exact h q t
  obtain ⟨hvalue, -, hcalls⟩ := Heedless.run_eq (R := fun s t : DriverState => s = t.flagged api destroys) hserve
    (active_heedless runtime) (rfl : d.flagged api destroys = _)
  exact ⟨hvalue, hcalls⟩

section Requests

variable {α : Type} (shelf : Shelf) (drivers : Bindings) (d d' : DriverState)

theorem requests_callEgl (absent : α) (entry : Entry) (read : entry.Reply → α) :
    ((drivers.callEgl absent entry read).run (DriverState.serveNative shelf) d).events.map (·.request) =
      ((drivers.callEgl absent entry read).run (DriverState.serveNative shelf) d').events.map (·.request) := by
  rw [Bindings.callEgl]
  cases drivers.egl <;> rfl

theorem requests_callGles (absent : α) (entry : Entry) (read : entry.Reply → α) :
    ((drivers.callGles absent entry read).run (DriverState.serveNative shelf) d).events.map (·.request) =
      ((drivers.callGles absent entry read).run (DriverState.serveNative shelf) d').events.map (·.request) := by
  rw [Bindings.callGles]
  cases drivers.gles <;> rfl

/-- **Which native calls a call becomes, the driver does not decide.** -/
theorem requests_route (q : Request) :
    ((drivers.route q).run (DriverState.serveNative shelf) d).events.map (·.request) =
      ((drivers.route q).run (DriverState.serveNative shelf) d').events.map (·.request) := by
  cases q with
  | integers token room =>
    cases room with
    | zero => rfl
    | succ room => exact requests_callGles shelf drivers d d' _ _ _
  | entryPoint name =>
    rw [Bindings.route]
    split
    · rfl
    · exact requests_callEgl shelf drivers d d' _ _ _
  | openLoader | findVersionEntry | loaderVersion | closeLoader => rfl
  | text | error | clearColor | clear | finish => exact requests_callGles shelf drivers d d' _ _ _
  | _ => exact requests_callEgl shelf drivers d d' _ _ _

end Requests

namespace Session

/-- The session over a driver that answers otherwise as to whether the API is bound and whether a surface is given
back. -/
def flagging (session : Session) (api destroys : Bool) : Session :=
  { session with driver := session.driver.flagged api destroys }

/-- Two ways of playing a step that cannot be told apart: the same answer, the same runtime, the same calls. -/
def Alike {rig : Rig} {α : Type} (played played' : Performed rig α) : Prop :=
  played.answer = played'.answer ∧ played.after.runtime = played'.after.runtime ∧
    played.events.map (·.request) = played'.events.map (·.request)

theorem active_flagged (loaders : LoaderShelf) (names : List String) (session : Session) :
    Alike ((session.flagging api destroys).perform (.direct loaders) names (.query .active))
      (session.perform (.direct loaders) names (.query .active)) := by
  obtain ⟨hvalue, hcalls⟩ := active_run_flagged api destroys (serve_flagged api destroys loaders) session.runtime
    session.driver
  rw [perform_direct, perform_direct]
  exact ⟨congrArg Prod.fst hvalue, congrArg Prod.snd hvalue, hcalls⟩

theorem active_flagged_native (shelf : Shelf) (drivers : Bindings) (names : List String) (session : Session) :
    Alike ((session.flagging api destroys).perform (.native shelf drivers) names (.query .active))
      (session.perform (.native shelf drivers) names (.query .active)) := by
  obtain ⟨hvalue, hcalls⟩ := active_run_flagged api destroys (served_flagged api destroys shelf drivers)
    session.runtime session.driver
  have hnative (d : DriverState) :=
    (run_via drivers.route (DriverState.serveNative shelf) (Query.survey .active session.runtime) d).1
  have hwires (d : DriverState) := requests_via (fun q s => requests_route shelf drivers s session.driver q)
    (Query.survey .active session.runtime) d
  have hplayed := (hnative _).trans (hvalue.trans (hnative session.driver).symm)
  have hmade := (hwires _).trans ((congrArg (List.flatMap _) hcalls).trans (hwires session.driver).symm)
  exact ⟨congrArg Prod.fst hplayed, congrArg Prod.snd hplayed, hmade⟩

/-- **Acquiring gets a context exactly when the driver has one to give now**, whatever came before: from any state, over
any script of the moment.  It goes about it in order, and does not listen to what the driver says of binding the API and
of giving a surface back, be it scripted directly or behind native libraries. -/
theorem available_iff (loaders : LoaderShelf) (names : List String) (session : Session) :
    let script := session.driver.script
    let acquired := session.perform (.direct loaders) names (.query .active)
    (acquired.answer.isSome ↔
        (session.runtime.display?.isSome ∨ script.display.isSome ∧ script.connection.isSome) ∧
          (session.runtime.bound?.isSome ∨ ∃ version, script.Offers version) ∧ script.makesCurrent) ∧
      (∀ active, acquired.answer = some active → active.version = match session.runtime.bound? with
        | some bound => bound.version
        | none => if script.Offers .es3 then .es3 else .es2) ∧
      Orderly acquired.events acquired.after.runtime ∧
      ∀ api destroys,
        Alike ((session.flagging api destroys).perform (.direct loaders) names (.query .active)) acquired ∧
        ∀ (shelf : Shelf) (drivers : Bindings),
          Alike ((session.flagging api destroys).perform (.native shelf drivers) names (.query .active))
            (session.perform (.native shelf drivers) names (.query .active)) := by
  intro script acquired
  have hanswer : acquired.answer = script.active? session.runtime := by
    obtain ⟨value, version, events, hrun, -, -, hactive⟩ := @acquire_ends loaders session.runtime session.driver
    rw [show acquired = _ from perform_active loaders names session, hrun]
    exact hactive
  refine ⟨?_, ?_, ?_, fun api destroys => ⟨active_flagged api destroys loaders names session, fun shelf drivers =>
    active_flagged_native api destroys shelf drivers names session⟩⟩
  · rw [hanswer]
    exact script.active?_isSome_iff session.runtime
  · intro active hactive
    rw [hanswer] at hactive
    exact script.version_of_active? hactive
  · rw [show acquired = _ from perform_active loaders names session]
    exact (acquire_trace (trace_run (DriverState.serve loaders) session.runtime.acquire session.driver)).orderly

end Session

end DriverSurvey
