import DriverSurvey.Proofs.Lifecycle
/-!
# Acquisition — every way in which acquiring can go

`Acquisition r es result r'` lists how acquiring from `r` can go, call by call and whatever the driver replies: which
refusals it meets, which versions it attempts in which order, what it ends with and what the runtime then holds.  Every
trace of acquiring is one of these (`acquire_trace`), so what holds of all of them holds over every driver.  First of
all, acquiring is a course of the runtime (`Acquisition.course`).
-/
namespace DriverSurvey

open Program

/-! ## Attempts -/

/-- The calls of an attempt at a version that gets no context, and the fault it ends with. -/
inductive Refusal (display : Display) (version : EsVersion) : List (Event Calls) → Fault → Prop where
  | noConfig (api : Bool) :
    Refusal display version [⟨.bindApi, api⟩, ⟨.chooseConfig display (.standard version), none⟩]
      (.noConfiguration version)
  | noSurface (api : Bool) (config : Config) :
    Refusal display version
      [⟨.bindApi, api⟩, ⟨.chooseConfig display (.standard version), some config⟩,
        ⟨.createSurface display config, none⟩]
      (.rejected "pbuffer surface creation" version)
  | noContext (api : Bool) (config : Config) (surface : Surface) :
    Refusal display version
      (surfaceMaking api display version config surface ++
        [⟨.createContext display config version, none⟩, ⟨.destroySurface display surface, ()⟩])
      (.rejected "context creation" version)

/-- Attempts at versions in order, up to the first that gets a context: their calls, and the context or the fault of
the last attempt.  Where there is no attempt the fault is the one given. -/
inductive Negotiation (display : Display) :
    List EsVersion → Fault → List (Event Calls) → Except Fault Bound → Prop where
  | exhausted (last : Fault) : Negotiation display [] last [] (.error last)
  | settled (api : Bool) (bound : Bound) (rest : List EsVersion) (last : Fault) :
    Negotiation display (bound.version :: rest) last (creation api display bound) (.ok bound)
  | refused {version : EsVersion} {rest : List EsVersion} {last fault : Fault} {calls log : List (Event Calls)}
      {result : Except Fault Bound} :
    Refusal display version calls fault → Negotiation display rest fault log result →
      Negotiation display (version :: rest) last (calls ++ log) result

/-- The version at which the call has an attempt look for a configuration. -/
def Event.triedVersion? : Event Calls → Option EsVersion
  | ⟨.chooseConfig _ wanted, _⟩ => some wanted.version
  | _ => none

theorem Refusal.tried {display : Display} {version : EsVersion} {calls : List (Event Calls)} {fault : Fault}
    (h : Refusal display version calls fault) : calls.filterMap Event.triedVersion? = [version] := by
  cases h <;> rfl

/-- **Versions are tried in order, each of them once**; all of them if none gets a context. -/
theorem Negotiation.tried {display : Display} {versions : List EsVersion} {last : Fault} {log : List (Event Calls)}
    {result : Except Fault Bound} (h : Negotiation display versions last log result) :
    log.filterMap Event.triedVersion? <+: versions ∧
      ∀ fault, result = .error fault → log.filterMap Event.triedVersion? = versions := by
  induction h with
  | exhausted => exact ⟨List.prefix_rfl, fun _ _ => rfl⟩
  | settled api bound rest last => exact ⟨List.prefix_append [bound.version] rest, nofun⟩
  | @refused version rest last fault calls log result hrefusal _ ih =>
    rw [List.filterMap_append, hrefusal.tried, List.singleton_append]
    refine ⟨List.cons_prefix_cons.2 ⟨rfl, ih.1⟩, fun fault' hresult => ?_⟩
    rw [ih.2 fault' hresult]

/-- **An attempt is refused or creates the context of its version.** -/
theorem attempt_trace {display : Display} {version : EsVersion} {es : List (Event Calls)}
    {result : Except Fault Bound} (h : (Runtime.attempt display version).Trace es result) :
    (∃ fault, result = .error fault ∧ Refusal display version es fault) ∨
      ∃ api bound, result = .ok bound ∧ bound.version = version ∧ es = creation api display bound := by
  obtain ⟨api, _, rfl, config?, _, rfl, h⟩ := h
  cases config? with
  | none =>
    obtain ⟨rfl, rfl⟩ := h
    exact .inl ⟨_, rfl, .noConfig api⟩
  | some config =>
    obtain ⟨surface?, _, rfl, h⟩ := h
    cases surface? with
    | none =>
      obtain ⟨rfl, rfl⟩ := h
      exact .inl ⟨_, rfl, .noSurface api config⟩
    | some surface =>
      obtain ⟨context?, _, rfl, h⟩ := h
      cases context? with
      | none =>
        obtain ⟨_, _, rfl, rfl, rfl⟩ := h
        exact .inl ⟨_, rfl, .noContext api config surface⟩
      | some context =>
        obtain ⟨rfl, rfl⟩ := h
        exact .inr ⟨api, ⟨surface, context, config, version⟩, rfl, rfl, rfl⟩

theorem attemptAll_trace {display : Display} : ∀ {versions : List EsVersion} {last : Fault} {es : List (Event Calls)}
    {result : Except Fault Bound}, (Runtime.attemptAll display last versions).Trace es result →
      Negotiation display versions last es result
  | [], last, _, _, h => by
    obtain ⟨rfl, rfl⟩ := h
    exact .exhausted last
  | version :: rest, last, _, _, h => by
    obtain ⟨es₁, attempted, es₂, h₁, h₂, rfl⟩ := (trace_bind _ _ _ _).1 h
    obtain ⟨fault, rfl, hrefusal⟩ | ⟨api, bound, rfl, rfl, rfl⟩ := attempt_trace h₁
    · exact .refused hrefusal (attemptAll_trace h₂)
    · obtain ⟨rfl, rfl⟩ := h₂
      rw [List.append_nil]
      exact .settled api bound rest last

/-! ## Acquiring -/

/-- How acquiring can go from a runtime: its calls, what it ends with, and the runtime after it. -/
inductive Acquisition : Runtime → List (Event Calls) → Except Fault Active → Runtime → Prop where
  | noDisplay :
    Acquisition .uninitialized [⟨.defaultDisplay, none⟩] (.error (.unavailable "no default display")) .uninitialized
  | notOpened (display : Display) :
    Acquisition .uninitialized [⟨.defaultDisplay, some display⟩, ⟨.openDisplay display, none⟩]
      (.error (.unavailable "display initialization failed")) .uninitialized
  | opened (display : Display) (version : Int32 × Int32) {log : List (Event Calls)} {result : Except Fault Active}
      {after : Runtime} :
    Acquisition (.displayBound display) log result after →
      Acquisition .uninitialized (opening display version ++ log) result after
  | refused {display : Display} {log : List (Event Calls)} {fault : Fault} :
    Negotiation display EsVersion.byPreference (.unavailable "no context versions to try") log (.error fault) →
      Acquisition (.displayBound display) log (.error fault) (.displayBound display)
  | bound {display : Display} {bound : Bound} {log calls : List (Event Calls)} {result : Except Fault Active}
      {after : Runtime} :
    Negotiation display EsVersion.byPreference (.unavailable "no context versions to try") log (.ok bound) →
      Acquisition (.ready display bound) calls result after →
        Acquisition (.displayBound display) (log ++ calls) result after
  | notActivated (display : Display) (bound : Bound) :
    Acquisition (.ready display bound) [⟨.makeCurrent display bound.surface bound.context, false⟩]
      (.error (.rejected "make-current" bound.version)) (.ready display bound)
  | activated (display : Display) (bound : Bound) :
    Acquisition (.ready display bound) [⟨.makeCurrent display bound.surface bound.context, true⟩]
      (.ok (bound.active display)) (.ready display bound)

theorem activate_trace {display : Display} {bound : Bound} {es : List (Event Calls)} {result : Except Fault Active}
    {after : Runtime} (h : (Runtime.activate display bound).Trace es (result, after)) :
    Acquisition (.ready display bound) es result after := by
  obtain ⟨current, _, rfl, h⟩ := h
  cases current <;> obtain ⟨rfl, h⟩ := h <;> cases h
  · exact .notActivated display bound
  · exact .activated display bound

theorem bindContext_trace {display : Display} {es : List (Event Calls)} {result : Except Fault Active}
    {after : Runtime} (h : (Runtime.bindContext display).Trace es (result, after)) :
    Acquisition (.displayBound display) es result after := by
  obtain ⟨es₁, created, es₂, h₁, h₂, rfl⟩ := (trace_bind _ _ _ _).1 h
  have hnegotiation := attemptAll_trace h₁
  cases created with
  | ok bound => exact .bound hnegotiation (activate_trace h₂)
  | error fault =>
    obtain ⟨rfl, h₂⟩ := h₂
    cases h₂
    rw [List.append_nil]
    exact .refused hnegotiation

/-- **Every trace of acquiring is one of the ways in which acquiring can go.** -/
theorem acquire_trace : ∀ {runtime : Runtime} {es : List (Event Calls)} {result : Except Fault Active}
    {after : Runtime}, runtime.acquire.Trace es (result, after) → Acquisition runtime es result after
  | .ready _ _, _, _, _, h => activate_trace h
  | .displayBound _, _, _, _, h => bindContext_trace h
  | .uninitialized, _, _, _, h => by
    obtain ⟨es₁, opened, es₂, ⟨display?, _, rfl, h₁⟩, h₂, rfl⟩ := (trace_bind _ _ _ _).1 h
    cases display? with
    | none =>
      obtain ⟨rfl, rfl⟩ := h₁
      obtain ⟨rfl, h₂⟩ := h₂
      cases h₂
      exact .noDisplay
    | some display =>
      obtain ⟨version?, _, rfl, h₁⟩ := h₁
      cases version? with
      | none =>
        obtain ⟨rfl, rfl⟩ := h₁
        obtain ⟨rfl, h₂⟩ := h₂
        cases h₂
        exact .notOpened display
      | some version =>
        obtain ⟨rfl, rfl⟩ := h₁
        exact .opened display version (bindContext_trace h₂)

/-! ## Acquiring is a course -/

theorem Refusal.move {display : Display} {version : EsVersion} {calls : List (Event Calls)} {fault : Fault} :
    Refusal display version calls fault → Move (.displayBound display) calls (.displayBound display)
  | .noConfig api => .noConfig api display version
  | .noSurface api config => .noSurface api display version config
  | .noContext api config surface => .noContext api display version config surface

/-- What is held on a display after attempts at a context. -/
def Runtime.negotiated (display : Display) : Except Fault Bound → Runtime
  | .ok bound => .ready display bound
  | .error _ => .displayBound display

theorem Negotiation.course {display : Display} {versions : List EsVersion} {last : Fault} {log : List (Event Calls)}
    {result : Except Fault Bound} (h : Negotiation display versions last log result) :
    Course (.displayBound display) log (.negotiated display result) := by
  induction h with
  | exhausted => exact .rest _
  | settled api bound => exact (Move.created api display bound).course
  | refused hrefusal _ ih => exact hrefusal.move.course.append ih

/-- **Acquiring is a course of the runtime.** -/
theorem Acquisition.course {runtime after : Runtime} {log : List (Event Calls)} {result : Except Fault Active}
    (h : Acquisition runtime log result after) : Course runtime log after := by
  induction h with
  | noDisplay => exact Move.noDisplay.course
  | notOpened display => exact (Move.notOpened display).course
  | opened display version _ ih => exact (Move.opened display version).course.append ih
  | refused hnegotiation => exact hnegotiation.course
  | bound hnegotiation _ ih => exact hnegotiation.course.append ih
  | notActivated display bound => exact (Move.activated display bound false).course
  | activated display bound => exact (Move.activated display bound true).course

/-- **What acquiring hands out is what the runtime then holds.** -/
theorem Acquisition.active {runtime after : Runtime} {log : List (Event Calls)} {active : Active}
    (h : Acquisition runtime log (.ok active) after) : after.active? = some active := by
  generalize hresult : (Except.ok active : Except Fault Active) = result at h
  induction h with
  | opened _ _ _ ih => exact ih hresult
  | bound _ _ ih => exact ih hresult
  | activated display bound =>
    cases hresult
    rfl
  | _ => cases hresult

/-! ## The last call -/

theorem builds_of_all {calls : List (Event Calls)} {e : Event Calls}
    (h : calls.all (fun e => e.request.builds) = true) (he : e ∈ calls) : e.request.builds = true :=
  List.all_eq_true.1 h e he

theorem Negotiation.builds {display : Display} {versions : List EsVersion} {last : Fault} {log : List (Event Calls)}
    {result : Except Fault Bound} (h : Negotiation display versions last log result) :
    ∀ e ∈ log, e.request.builds = true := by
  induction h with
  | exhausted => exact fun e he => absurd he List.not_mem_nil
  | settled => exact fun e he => builds_of_all rfl he
  | refused hrefusal _ ih =>
    intro e he
    rcases List.mem_append.1 he with he | he
    · cases hrefusal <;> exact builds_of_all rfl he
    · exact ih e he

/-- **Acquiring builds, and makes current once what it holds in the end**; where it holds no context in the end it makes
none current. -/
theorem Acquisition.ends {runtime after : Runtime} {log : List (Event Calls)} {result : Except Fault Active}
    (h : Acquisition runtime log result after) :
    (∃ display bound earlier, after = .ready display bound ∧
        log = earlier ++ [⟨.makeCurrent display bound.surface bound.context, result.isOk⟩] ∧
        ∀ e ∈ earlier, e.request.builds = true) ∨
      after.bound? = none ∧ ∀ e ∈ log, e.request.builds = true := by
  have hprefix {first : List (Event Calls)} (hfirst : ∀ e ∈ first, e.request.builds = true) {rest : List (Event Calls)}
      (hrest : ∀ e ∈ rest, e.request.builds = true) : ∀ e ∈ first ++ rest, e.request.builds = true := by
    intro e he
    rcases List.mem_append.1 he with he | he
    · exact hfirst e he
    · exact hrest e he
  induction h with
  | noDisplay => exact .inr ⟨rfl, fun e he => builds_of_all rfl he⟩
  | notOpened => exact .inr ⟨rfl, fun e he => builds_of_all rfl he⟩
  | opened display version _ ih =>
    have hopening : ∀ e ∈ opening display version, e.request.builds = true := fun e he => builds_of_all rfl he
    rcases ih with ⟨d, b, earlier, rfl, rfl, hearlier⟩ | ⟨hnone, hlog⟩
    · exact .inl ⟨d, b, opening display version ++ earlier, rfl, (List.append_assoc _ _ _).symm,
        hprefix hopening hearlier⟩
    · exact .inr ⟨hnone, hprefix hopening hlog⟩
  | refused hnegotiation => exact .inr ⟨rfl, hnegotiation.builds⟩
  | @bound _ _ log _ _ _ hnegotiation _ ih =>
    rcases ih with ⟨d, b, earlier, rfl, rfl, hearlier⟩ | ⟨hnone, hlog⟩
    · exact .inl ⟨d, b, log ++ earlier, rfl, (List.append_assoc _ _ _).symm, hprefix hnegotiation.builds hearlier⟩
    · exact .inr ⟨hnone, hprefix hnegotiation.builds hlog⟩
  | notActivated display bound => exact .inl ⟨display, bound, [], rfl, rfl, fun e he => absurd he List.not_mem_nil⟩
  | activated display bound => exact .inl ⟨display, bound, [], rfl, rfl, fun e he => absurd he List.not_mem_nil⟩

/-- With a context there is nothing to do but to make it current. -/
theorem Acquisition.log_of_ready {display : Display} {bound : Bound} {after : Runtime} {log : List (Event Calls)}
    {result : Except Fault Active} (h : Acquisition (.ready display bound) log result after) :
    log = [⟨.makeCurrent display bound.surface bound.context, result.isOk⟩] := by
  cases h <;> rfl

/-! ## How many calls -/

theorem Negotiation.length_le {display : Display} {versions : List EsVersion} {last : Fault} {log : List (Event Calls)}
    {result : Except Fault Bound} (h : Negotiation display versions last log result) :
    log.length ≤ 5 * versions.length := by
  induction h with
  | exhausted => exact Nat.le_refl 0
  | settled =>
    simp only [creation, surfaceMaking, List.length_append, List.length_cons, List.length_nil]
    omega
  | refused hrefusal _ ih =>
    rw [List.length_append, List.length_cons]
    cases hrefusal <;> simp only [surfaceMaking, List.length_append, List.length_cons, List.length_nil] <;> omega

/-- The most calls that acquiring can take from a runtime. -/
def Runtime.callsAhead : Runtime → Nat
  | .uninitialized => 13
  | .displayBound _ => 11
  | .ready _ _ => 1

theorem Runtime.callsAhead_le (runtime : Runtime) : runtime.callsAhead ≤ 13 := by
  cases runtime <;> simp [Runtime.callsAhead]

/-- **Acquiring comes to an end**, whatever the driver replies. -/
theorem Acquisition.length_le {runtime after : Runtime} {log : List (Event Calls)} {result : Except Fault Active}
    (h : Acquisition runtime log result after) : log.length ≤ runtime.callsAhead := by
  induction h with
  | opened _ _ _ ih =>
    simp only [opening, Runtime.callsAhead, List.length_append, List.length_cons, List.length_nil] at ih ⊢
    omega
  | refused hnegotiation =>
    have hlog : _ ≤ 10 := hnegotiation.length_le
    exact Nat.le_succ_of_le hlog
  | bound hnegotiation _ ih =>
    rw [List.length_append]
    exact Nat.add_le_add hnegotiation.length_le ih
  | _ => simp [Runtime.callsAhead]

end DriverSurvey
