import DriverSurvey.Proofs.Consistency
/-!
# Candidates — which Vulkan loaders are opened, and that each of them is closed again

A check for Vulkan tries names in order until one opens (`openFirst_opens`), asks what opened for its version, and
closes it.  The calls to loaders in a session are those of one check, over and over (`repeats_step`), so nothing is left
open however often it is made.
-/
namespace DriverSurvey

open Program

namespace Vulkan

/-! ## One check -/

/-- A loader is tried under a name. -/
def opening (opened : Bool) (library : String) : Event Calls :=
  ⟨.openLoader library, opened⟩

/-- What an opened loader is asked, with the reply of its entry point if there is one. -/
def asking (library : String) : Option VersionReply → List (Event Calls)
  | none => [⟨.findVersionEntry library, false⟩]
  | some reply => [⟨.findVersionEntry library, true⟩, ⟨.loaderVersion library, reply⟩]

/-- The opened loader is given back. -/
def closing (library : String) : Event Calls :=
  ⟨.closeLoader library, ()⟩

/-- A check that found a loader: the names tried in vain before it, its own name, the reply of its entry point if there
is one, the outcome and the calls. -/
structure Checked (loaders : LoaderShelf) (before : List String) (library : String) (entry : Option VersionReply)
    (support : Support) (calls : List (Event Calls)) : Prop where
  missed : ∀ name ∈ before, loaders name = none
  opened : loaders library = some entry
  calls_eq : calls = before.map (opening false) ++ (opening true library :: asking library entry ++ [closing library])
  library_eq : support.library = some library
  /-- The version is what the entry point stored, or zero, if it succeeded. -/
  apiVersion_iff (version : UInt32) : support.apiVersion = some version ↔
    ∃ reply, entry = some reply ∧ reply.result = success ∧ reply.stored.getD 0 = version
  /-- A loader without the entry point counts; one with it has to succeed, and to be as new as the lowest version. -/
  supported_iff : support.supported = true ↔
    entry = none ∨ ∃ reply, entry = some reply ∧ reply.result = success ∧ lowestVersion ≤ reply.stored.getD 0

variable {loaders : LoaderShelf}

theorem exists_opening (loaders : LoaderShelf) (candidates : List String) :
    (∀ name ∈ candidates, loaders name = none) ∨ ∃ before library after entry,
      candidates = before ++ library :: after ∧ (∀ name ∈ before, loaders name = none) ∧
        loaders library = some entry := by
  cases hfind : candidates.find? fun name => (loaders name).isSome with
  | none => exact .inl (by simpa using hfind)
  | some library =>
    obtain ⟨hopen, before, after, hsplit, hbefore⟩ := List.find?_eq_some_iff_append.1 hfind
    obtain ⟨entry, hentry⟩ := Option.isSome_iff_exists.1 hopen
    exact .inr ⟨before, library, after, entry, hsplit, by simpa using hbefore, hentry⟩

theorem openFirst_cons (d : DriverState) {name : String} (h : loaders name = none) (rest : List String) :
    (openFirst (name :: rest)).run (DriverState.serve loaders) d =
      let played := (openFirst rest).run (DriverState.serve loaders) d
      ⟨played.value, played.state, opening false name :: played.events⟩ := by
  simp only [openFirst, ask, call_bind, done_bind, run, DriverState.serve, h]
  rfl

theorem openFirst_missed (d : DriverState) : ∀ {candidates : List String},
    (∀ name ∈ candidates, loaders name = none) →
      (openFirst candidates).run (DriverState.serve loaders) d = ⟨none, d, candidates.map (opening false)⟩
  | [], _ => rfl
  | name :: rest, h => by
    obtain ⟨hname, hrest⟩ := List.forall_mem_cons.1 h
    rw [openFirst_cons d hname, openFirst_missed d hrest, List.map_cons]

/-- **The first name that opens is the last that is tried.** -/
theorem openFirst_opens (d : DriverState) {library : String} {entry : Option VersionReply}
    (h : loaders library = some entry) (after : List String) : ∀ {before : List String},
      (∀ name ∈ before, loaders name = none) →
        (openFirst (before ++ library :: after)).run (DriverState.serve loaders) d =
          ⟨some library, d, before.map (opening false) ++ [opening true library]⟩
  | [], _ => by
    simp only [List.nil_append, openFirst, ask, call_bind, done_bind, run, DriverState.serve, h]
    rfl
  | name :: before, hmissed => by
    obtain ⟨hname, hbefore⟩ := List.forall_mem_cons.1 hmissed
    rw [List.cons_append, openFirst_cons d hname, openFirst_opens d h after hbefore, List.map_cons, List.cons_append]

/-- The outcome of a check that found a loader. -/
def outcome (library : String) : Option VersionReply → Support
  | none => { supported := true, library := some library }
  | some reply => verdict library reply

theorem inspect_run (d : DriverState) {library : String} {entry : Option VersionReply}
    (h : loaders library = some entry) : (inspect library).run (DriverState.serve loaders) d =
      ⟨outcome library entry, d, asking library entry⟩ := by
  have hjoin : (loaders library).join = entry := congrArg Option.join h
  cases entry with
  | none => simp only [inspect, ask, call_bind, done_bind, run, DriverState.serve, hjoin]; rfl
  | some reply =>
    simp only [inspect, ask, call_bind, done_bind, run, DriverState.serve, hjoin, Option.isSome_some, if_true]; rfl

theorem check_missed (d : DriverState) {candidates : List String} (h : ∀ name ∈ candidates, loaders name = none) :
    (check candidates).run (DriverState.serve loaders) d = ⟨{}, d, candidates.map (opening false)⟩ := by
  rw [check, run_bind, openFirst_missed d h]
  exact congrArg (Played.mk _ _) (List.append_nil _)

theorem check_opens (d : DriverState) {before : List String} {library : String} {entry : Option VersionReply}
    (hbefore : ∀ name ∈ before, loaders name = none) (h : loaders library = some entry) (after : List String) :
    (check (before ++ library :: after)).run (DriverState.serve loaders) d =
      ⟨outcome library entry, d,
        before.map (opening false) ++ (opening true library :: asking library entry ++ [closing library])⟩ := by
  have hclosed : (inspect library >>= fun support => ask (.closeLoader library) >>= fun _ => pure support).run
      (DriverState.serve loaders) d = ⟨outcome library entry, d, asking library entry ++ [closing library]⟩ := by
    rw [run_bind, inspect_run d h]
    rfl
  rw [check, run_bind, openFirst_opens d h after hbefore]
  simp only [hclosed]
  rw [List.append_assoc]
  rfl

theorem checked_outcome {before : List String} {library : String} {entry : Option VersionReply}
    (hbefore : ∀ name ∈ before, loaders name = none) (h : loaders library = some entry) :
    Checked loaders before library entry (outcome library entry)
      (before.map (opening false) ++ (opening true library :: asking library entry ++ [closing library])) where
  missed := hbefore
  opened := h
  calls_eq := rfl
  library_eq := by cases entry <;> rfl
  apiVersion_iff version := by
    cases entry with
    | none => exact ⟨nofun, fun ⟨_, hreply, _⟩ => nomatch hreply⟩
    | some reply => simp [outcome, verdict]
  supported_iff := by
    cases entry with
    | none => exact ⟨fun _ => .inl rfl, fun _ => rfl⟩
    | some reply => simp [outcome, verdict]

/-! ## Giving back -/

/-- The loaders that opened, in order. -/
def opened (calls : List (Event Calls)) : List String :=
  calls.filterMap fun
    | ⟨.openLoader library, true⟩ => some library
    | _ => none

/-- The loaders that were closed, in order. -/
def closed (calls : List (Event Calls)) : List String :=
  calls.filterMap fun
    | ⟨.closeLoader library, _⟩ => some library
    | _ => none

/-- Calls that leave no loader open. -/
structure Settled (calls : List (Event Calls)) : Prop where
  /-- Along the way one loader at most is open, and none is closed that is not. -/
  along : ∀ front, front <+: calls →
    closed front <+: opened front ∧ (opened front).length ≤ (closed front).length + 1
  ends : opened calls = closed calls

theorem opened_append (front back : List (Event Calls)) : opened (front ++ back) = opened front ++ opened back :=
  List.filterMap_append

theorem closed_append (front back : List (Event Calls)) : closed (front ++ back) = closed front ++ closed back :=
  List.filterMap_append

theorem Settled.append {front back : List (Event Calls)} (h : Settled front) (h' : Settled back) :
    Settled (front ++ back) where
  along part hpart := by
    -- either it stops in the front part, or it goes on from where nothing is open
    rcases List.prefix_or_prefix_of_prefix hpart (List.prefix_append front back) with hfront | ⟨rest, rfl⟩
    · exact h.along part hfront
    · obtain ⟨hclosed, hlength⟩ := h'.along rest ((List.prefix_append_right_inj front).1 hpart)
      rw [opened_append, closed_append, h.ends, List.length_append, List.length_append, Nat.add_assoc]
      exact ⟨(List.prefix_append_right_inj _).2 hclosed, Nat.add_le_add_left hlength _⟩
  ends := by rw [opened_append, closed_append, h.ends, h'.ends]

/-- Calls that neither open nor close a loader. -/
def Idle (calls : List (Event Calls)) : Prop :=
  opened calls = [] ∧ closed calls = []

theorem Idle.of_prefix {front calls : List (Event Calls)} (h : Idle calls) (hfront : front <+: calls) : Idle front :=
  ⟨List.prefix_nil.1 (h.1 ▸ hfront.filterMap _), List.prefix_nil.1 (h.2 ▸ hfront.filterMap _)⟩

theorem Idle.settled {calls : List (Event Calls)} (h : Idle calls) : Settled calls where
  along front hfront := by
    obtain ⟨hopened, hclosed⟩ := h.of_prefix hfront
    rw [hopened, hclosed]
    exact ⟨List.prefix_rfl, Nat.zero_le _⟩
  ends := h.1.trans h.2.symm

/-- **What opens and is then given back leaves nothing open.** -/
theorem Idle.between {asked : List (Event Calls)} (h : Idle asked) (library : String) :
    Settled (opening true library :: asked ++ [closing library]) := by
  have hopened (rest : List (Event Calls)) : opened (opening true library :: rest) = library :: opened rest := rfl
  have hclosed (rest : List (Event Calls)) : closed (opening true library :: rest) = closed rest := rfl
  have hends : opened (opening true library :: asked ++ [closing library]) =
      closed (opening true library :: asked ++ [closing library]) := by
    rw [opened_append, closed_append, hopened, hclosed, h.1, h.2]
    rfl
  refine ⟨fun front hfront => ?_, hends⟩
  -- it is all of it, nothing, or stops while the loader is open
  rcases List.prefix_concat_iff.1 hfront with rfl | hshort
  · rw [hends]
    exact ⟨List.prefix_rfl, Nat.le_succ _⟩
  · rcases List.prefix_cons_iff.1 hshort with rfl | ⟨rest, rfl, hrest⟩
    · exact ⟨List.prefix_rfl, Nat.zero_le _⟩
    · obtain ⟨hnone, hnone'⟩ := h.of_prefix hrest
      rw [hopened, hclosed, hnone, hnone']
      exact ⟨List.nil_prefix, Nat.le_refl _⟩

theorem idle_missed (names : List String) : Idle (names.map (opening false)) := by
  simp [Idle, opened, closed, opening]

theorem idle_asking (library : String) (entry : Option VersionReply) : Idle (asking library entry) := by
  cases entry <;> exact ⟨rfl, rfl⟩

/-- **A check leaves no loader open.** -/
theorem settled_check (loaders : LoaderShelf) (candidates : List String) (d : DriverState) :
    Settled ((check candidates).run (DriverState.serve loaders) d).events := by
  rcases exists_opening loaders candidates with hmissed | ⟨before, library, after, entry, rfl, hbefore, hopen⟩
  · rw [check_missed d hmissed]
    exact (idle_missed candidates).settled
  · rw [check_opens d hbefore hopen]
    exact (idle_missed before).settled.append ((idle_asking library entry).between library)

theorem Settled.replicate {calls : List (Event Calls)} (h : Settled calls) : ∀ count : Nat,
    Settled (List.replicate count calls).flatten
  | 0 => Idle.settled ⟨rfl, rfl⟩
  | count + 1 => by
    rw [List.replicate_succ, List.flatten_cons]
    exact h.append (h.replicate count)

end Vulkan

/-! ## Any number of checks -/

/-- How many times the step looks for Vulkan. -/
def Step.checks : Step → Nat
  | .vulkan => 1
  | .snapshot _ order => order.count .vulkan
  | _ => 0

/-- How many times some steps look for Vulkan. -/
def checksAmong : List Step → Nat
  | [] => 0
  | step :: rest => step.checks + checksAmong rest

/-- The calls to Vulkan loaders. -/
def loaderCalls (calls : List (Event Calls)) : List (Event Calls) :=
  calls.filter fun e => e.request.isLoader

theorem Request.Acquires.not_loader {q : Request} (h : q.Acquires) : q.isLoader = false := by
  rcases h with hbuilds | ⟨display, surface, context, rfl⟩
  · cases q <;> first | rfl | cases hbuilds
  · rfl

theorem Request.Asks.not_loader {active : Active} {checked : Prop} {q : Request} (h : q.Asks active checked) :
    q.isLoader = false := by
  cases h <;> rfl

theorem Request.Loads.isLoader {q : Request} (h : q.Loads) : q.isLoader = true := by
  cases h <;> rfl

/-- **A query has nothing to do with Vulkan.** -/
theorem query_unloaded (query : Query) (runtime : Runtime) :
    (query.survey runtime).Only fun q : Request => q.isLoader = false := by
  refine ((acquire_acquires runtime).mono fun _ h => h.not_loader).bind fun acquired => ?_
  obtain ⟨result, after⟩ := acquired
  cases result with
  | ok active => exact ((body_asks query active).mono fun _ h => h.not_loader).bind fun _ => only_pure _ _
  | error fault => exact only_pure _ _

theorem ensureEach_unloaded : ∀ (callers : Nat) (runtime : Runtime),
    (ensureEach callers runtime).Only fun q : Request => q.isLoader = false
  | 0, _ => only_pure _ _
  | callers + 1, runtime => (query_unloaded .ensure runtime).bind fun played =>
    (ensureEach_unloaded callers played.2).bind fun _ => only_pure _ _

namespace Session

variable (loaders : LoaderShelf) (names : List String)

/-- The calls of one check; the driver has no part in it. -/
def checkCalls : List (Event Calls) :=
  ((Vulkan.check names).run (DriverState.serve loaders) {}).events

/-- **A check is the same in every session**, and leaves it as it is. -/
theorem perform_check (session : Session) : session.perform (.direct loaders) names .vulkan =
    ⟨((Vulkan.check names).run (DriverState.serve loaders) {}).value, session, checkCalls loaders names⟩ := by
  rw [perform_vulkan, checkCalls]
  rcases Vulkan.exists_opening loaders names with hmissed | ⟨before, library, after, entry, rfl, hbefore, hopen⟩
  · rw [Vulkan.check_missed _ hmissed, Vulkan.check_missed {} hmissed]
  · rw [Vulkan.check_opens _ hbefore hopen, Vulkan.check_opens {} hbefore hopen]

/-- To loaders, nothing but the calls of so many checks. -/
def Repeats (count : Nat) (calls : List (Event Calls)) : Prop :=
  loaderCalls calls = (List.replicate count (checkCalls loaders names)).flatten

variable {loaders names}

theorem repeats_zero {calls : List (Event Calls)} (h : ∀ e ∈ calls, e.request.isLoader = false) :
    Repeats loaders names 0 calls :=
  List.filter_eq_nil_iff.2 fun e he => by rw [h e he]; exact Bool.false_ne_true

theorem Repeats.append {count count' : Nat} {calls calls' : List (Event Calls)} (h : Repeats loaders names count calls)
    (h' : Repeats loaders names count' calls') : Repeats loaders names (count + count') (calls ++ calls') := by
  unfold Repeats at *
  rw [← List.replicate_append_replicate, List.flatten_append, ← h, ← h']
  exact List.filter_append ..

theorem repeats_of_each : ∀ {steps : List Step}, (∀ step ∈ steps, ∀ session : Session,
    Repeats loaders names step.checks (managedCalls ⟨step, session.perform (.direct loaders) names step⟩)) →
      ∀ session : Session, Repeats loaders names (checksAmong steps) (session.surveyCalls loaders names steps)
  | [], _, _ => rfl
  | step :: rest, h, session => by
    obtain ⟨hstep, hrest⟩ := List.forall_mem_cons.1 h
    rw [surveyCalls_cons, checksAmong]
    exact (hstep session).append (repeats_of_each hrest _)

theorem repeats_query (query : Query) (session : Session) :
    Repeats loaders names 0 (session.perform (.direct loaders) names (.query query)).events := by
  rw [perform_direct]
  exact repeats_zero ((query_unloaded query session.runtime).of_mem (trace_run _ _ _))

theorem repeats_vulkan (session : Session) :
    Repeats loaders names 1 (session.perform (.direct loaders) names .vulkan).events := by
  have hcalls : ∀ e ∈ checkCalls loaders names, e.request.Loads := (check_loads names).of_mem (trace_run _ _ _)
  rw [perform_check, Repeats, List.replicate_one, List.flatten_singleton]
  exact List.filter_eq_self.2 fun e he => (hcalls e he).isLoader

theorem checksAmong_topics : ∀ order : List Topic, checksAmong (order.map Topic.step) = order.count .vulkan
  | [] => rfl
  | topic :: rest => by
    rw [List.map_cons, checksAmong, checksAmong_topics rest, List.count_cons, Nat.add_comm]
    cases topic <;> rfl

theorem repeats_snapshot (maxExtensions : Nat) (order : List Topic) (session : Session) : Repeats loaders names
    (order.count .vulkan) (session.perform (.direct loaders) names (.snapshot maxExtensions order)).events := by
  rw [perform_snapshot, ← checksAmong_topics]
  refine repeats_of_each (fun step hstep session => ?_) session
  obtain ⟨topic, -, rfl⟩ := List.mem_map.1 hstep
  obtain rfl | ⟨query, hquery⟩ := topic.step_eq_query
  · exact repeats_vulkan session
  · rw [hquery]
    exact repeats_query query session

/-- **Every step makes the calls of its checks**, one check after the other, and no other call to a loader. -/
theorem repeats_step (session : Session) : ∀ step : Step,
    Repeats loaders names step.checks (managedCalls ⟨step, session.perform (.direct loaders) names step⟩)
  | .query query => repeats_query query session
  | .heldVersion => rfl
  | .vulkan => repeats_vulkan session
  | .snapshot maxExtensions order => repeats_snapshot maxExtensions order session
  | .together callers => by
    have hcalls := (ensureEach_unloaded callers session.runtime).of_mem
      (trace_run (DriverState.serve loaders) _ session.driver)
    rw [perform_direct]
    exact repeats_zero hcalls
  | .raw _ => rfl
  | .amend _ => rfl

/-- **Vulkan is looked for name by name until a loader opens, and what opens is given back.**  If none of the names
opens, each was tried once, in order, and nothing is found.  Otherwise the names up to the first that opens were tried;
that loader is asked for its entry point once, and for its version if it has one, and closed at last.  In a session each
check is this one whatever was done before, and the calls to loaders are those of the checks, one after the other: one
loader at most is open at a time, and none in the end. -/
theorem checked_of_candidates (loaders : LoaderShelf) (candidates : List String) (session : Session) :
    let checked := session.perform (.direct loaders) candidates .vulkan
    ((∀ name ∈ candidates, loaders name = none) ∧ checked.answer = {} ∧
        checked.events = candidates.map (Vulkan.opening false) ∨
      ∃ before library after entry, candidates = before ++ library :: after ∧
        Vulkan.Checked loaders before library entry checked.answer checked.events) ∧
    checked.after = session ∧
    ∀ other : Session,
      other.perform (.direct loaders) candidates .vulkan = ⟨checked.answer, other, checked.events⟩ ∧
      (∀ maxExtensions order, .vulkan ∈ order →
        (other.perform (.direct loaders) candidates (.snapshot maxExtensions order)).answer.vulkanSupported =
          checked.answer.supported) ∧
      ∀ steps : List Step,
        let calls := loaderCalls (other.surveyCalls loaders candidates steps)
        calls = (List.replicate (checksAmong steps) checked.events).flatten ∧ Vulkan.Settled calls := by
  intro checked
  have hchecked : checked = _ := perform_check loaders candidates session
  refine ⟨?_, by rw [hchecked], fun other => ⟨?_, fun maxExtensions order hvulkan => ?_, fun steps => ?_⟩⟩
  · rw [hchecked, checkCalls]
    rcases Vulkan.exists_opening loaders candidates with hmissed | ⟨before, library, after, entry, rfl, hbefore, hopen⟩
    · rw [Vulkan.check_missed {} hmissed]
      exact .inl ⟨hmissed, rfl, rfl⟩
    · rw [Vulkan.check_opens {} hbefore hopen]
      exact .inr ⟨before, library, after, entry, rfl, Vulkan.checked_outcome hbefore hopen⟩
  · rw [hchecked, perform_check]
  · rw [perform_snapshot]
    exact entered_vulkan loaders candidates session order other _ (.inl hvulkan)
  · have hcalls : loaderCalls (other.surveyCalls loaders candidates steps) =
        (List.replicate (checksAmong steps) (checkCalls loaders candidates)).flatten :=
      repeats_of_each (fun step _ session => repeats_step session step) other
    rw [hchecked, hcalls]
    exact ⟨rfl, (Vulkan.settled_check loaders candidates {}).replicate _⟩

/-- Loaders of which one alone opens, with an entry point that succeeds without storing a version. -/
def storesNothing : LoaderShelf := fun name =>
  if name = "libvulkan.so" then some (some ⟨Vulkan.success, none⟩) else none

theorem checked_of_repeats :
    let candidates := ["libvulkan.so.1", "libvulkan.so", "libvulkan.so"]
    let steps := [.vulkan, .snapshot 15 Topic.all, .query .active, .vulkan]
    let session : Session := {}
    let checked := session.perform (.direct storesNothing) candidates .vulkan
    checked.answer.library = some "libvulkan.so" ∧ checked.answer.apiVersion = some 0 ∧
      checked.answer.supported = false ∧ Vulkan.opened checked.events = ["libvulkan.so"] ∧
      Topic.vulkan ∈ Topic.all ∧
      (session.perform (.direct storesNothing) candidates (.snapshot 15 Topic.all)).answer.vulkanSupported = false ∧
      loaderCalls (session.surveyCalls storesNothing candidates steps) = (List.replicate 3 checked.events).flatten := by
  intro candidates steps session checked
  obtain ⟨-, -, hsame⟩ := checked_of_candidates storesNothing candidates session
  obtain ⟨-, hsnapshot, hsteps⟩ := hsame session
  have hunsupported : checked.answer.supported = false := by decide +kernel
  have hvulkan : Topic.vulkan ∈ Topic.all := by decide
  exact ⟨by decide +kernel, by decide +kernel, hunsupported, by decide +kernel, hvulkan,
    (hsnapshot 15 Topic.all hvulkan).trans hunsupported, (hsteps steps).1⟩

end Session

end DriverSurvey
