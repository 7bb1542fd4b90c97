import DriverSurvey.Proofs.Availability
/-!
# Interleaving — callers at once are callers in turn

Callers that ensure the context at the same time hold the runtime one at a time.  `Crowd.move` lets one of them do its
next bit, `Crowd.follow` lets them move in any order.  Whoever is through has left all as it is after so many callers in
turn (`Crowd.Serial`), and in turn all but the first find what the first has left (`Session.callsInTurn_ready`).
-/
namespace DriverSurvey

open Program

/-! ## In turn -/

namespace Session

variable (loaders : LoaderShelf)

/-- One caller ensures the context. -/
def ensures (session : Session) : Performed (.direct loaders) Bool :=
  session.play (.direct loaders) (Query.survey .ensure)

def ensureCalls (session : Session) : List (Event Calls) :=
  (session.ensures loaders).events

/-- So many callers do, one after the other. -/
def inTurn (callers : Nat) (session : Session) : Performed (.direct loaders) (List Bool) :=
  session.play (.direct loaders) (ensureEach callers)

def callsInTurn (callers : Nat) (session : Session) : List (Event Calls) :=
  (session.inTurn loaders callers).events

/-- **To ensure the context is to acquire it**, and to tell whether that went well. -/
theorem ensures_eq (session : Session) : session.ensures loaders =
    let acquired := session.runtime.acquire.run (DriverState.serve loaders) session.driver
    ⟨acquired.value.1.isOk, ⟨acquired.value.2, acquired.state⟩, acquired.events⟩ := by
  rw [ensures, play_direct, Survey.run_query]
  generalize session.runtime.acquire.run (DriverState.serve loaders) session.driver = acquired
  obtain ⟨⟨result, after⟩, state, events⟩ := acquired
  cases result with
  | error fault => rfl
  | ok active => exact congrArg (Performed.mk true ⟨after, state⟩) (List.append_nil events)

theorem inTurn_zero (session : Session) : session.inTurn loaders 0 = ⟨[], session, []⟩ :=
  play_pure (.direct loaders) [] session

theorem inTurn_cons (callers : Nat) (session : Session) : session.inTurn loaders (callers + 1) =
    ⟨(session.ensures loaders).answer :: ((session.ensures loaders).after.inTurn loaders callers).answer,
      ((session.ensures loaders).after.inTurn loaders callers).after,
      (session.ensures loaders).events ++ ((session.ensures loaders).after.inTurn loaders callers).events⟩ := by
  rw [inTurn, ensureEach, play_bind, play_bind, play_pure]
  simp only [List.append_nil]
  rfl

/-- **One caller more comes behind the others.** -/
theorem inTurn_succ (callers : Nat) : ∀ session : Session, session.inTurn loaders (callers + 1) =
    ⟨(session.inTurn loaders callers).answer ++ [((session.inTurn loaders callers).after.ensures loaders).answer],
      ((session.inTurn loaders callers).after.ensures loaders).after,
      (session.inTurn loaders callers).events ++
        ((session.inTurn loaders callers).after.ensures loaders).events⟩ := by
  induction callers with
  | zero =>
    intro session
    rw [inTurn_cons]
    simp only [inTurn_zero, List.append_nil, List.nil_append]
  | succ callers ih =>
    intro session
    rw [inTurn_cons, ih, inTurn_cons]
    simp only [List.append_assoc, List.cons_append]

theorem callsInTurn_succ (callers : Nat) (session : Session) : session.callsInTurn loaders (callers + 1) =
    session.callsInTurn loaders callers ++ (session.inTurn loaders callers).after.ensureCalls loaders := by
  rw [callsInTurn, inTurn_succ]
  rfl

theorem callsInTurn_one (session : Session) : session.callsInTurn loaders 1 = session.ensureCalls loaders := by
  rw [callsInTurn_succ, callsInTurn, inTurn_zero]
  rfl

/-- **What a caller finds, and leaves, the script decides.** -/
theorem ensures_ends (session : Session) :
    (session.ensures loaders).answer = (session.driver.script.active? session.runtime).isSome ∧
      (session.ensures loaders).after.runtime = session.runtime.acquired session.driver.script ∧
      (session.ensures loaders).after.driver.script = session.driver.script := by
  obtain ⟨⟨result, after⟩, version, events, hrun, -, hafter, hresult⟩ :=
    @acquire_ends loaders session.runtime session.driver
  rw [ensures_eq, hrun, ← hresult]
  refine ⟨?_, hafter, rfl⟩
  cases result <;> rfl

theorem inTurn_ends (callers : Nat) (session : Session) :
    (session.inTurn loaders callers).after.driver.script = session.driver.script ∧
      (session.inTurn loaders callers).after.runtime.acquired session.driver.script =
        session.runtime.acquired session.driver.script := by
  induction callers with
  | zero =>
    rw [inTurn_zero]
    exact ⟨rfl, rfl⟩
  | succ callers ih =>
    obtain ⟨hscript, hacquired⟩ := ih
    obtain ⟨-, hruntime, hscript'⟩ := ensures_ends loaders (session.inTurn loaders callers).after
    rw [hscript, hacquired] at hruntime
    rw [inTurn_succ]
    simp only
    rw [hruntime, hscript', hscript, Runtime.acquired_acquired]
    exact ⟨rfl, rfl⟩

/-- **Whoever comes behind others gets what the first of them would get**, and leaves what the first would leave. -/
theorem ensures_inTurn (callers : Nat) (session : Session) :
    ((session.inTurn loaders callers).after.ensures loaders).answer = (session.ensures loaders).answer ∧
      ((session.inTurn loaders callers).after.ensures loaders).after.runtime =
        (session.ensures loaders).after.runtime := by
  obtain ⟨hscript, hacquired⟩ := inTurn_ends loaders callers session
  obtain ⟨hanswer, hruntime, -⟩ := ensures_ends loaders (session.inTurn loaders callers).after
  obtain ⟨hfirst, hleft, -⟩ := ensures_ends loaders session
  rw [hanswer, hruntime, hfirst, hleft, hscript]
  exact ⟨by simp only [Script.active?, hacquired], hacquired⟩

theorem inTurn_answer (callers : Nat) (session : Session) :
    (session.inTurn loaders callers).answer = List.replicate callers (session.ensures loaders).answer := by
  induction callers with
  | zero => rw [inTurn_zero, List.replicate_zero]
  | succ callers ih => rw [inTurn_succ, List.replicate_succ', ih, (ensures_inTurn loaders callers session).1]

theorem inTurn_runtime (callers : Nat) (session : Session) :
    (session.inTurn loaders (callers + 1)).after.runtime = (session.ensures loaders).after.runtime := by
  rw [inTurn_succ]
  exact (ensures_inTurn loaders callers session).2

theorem inTurn_of_run {callers : Nat} {session : Session} {result : Except Fault Active} {after : Runtime}
    {state : DriverState} {calls : List (Event Calls)}
    (h : (session.inTurn loaders callers).after.runtime.acquire.run (DriverState.serve loaders)
      (session.inTurn loaders callers).after.driver = ⟨(result, after), state, calls⟩) :
    (session.inTurn loaders (callers + 1)).after = ⟨after, state⟩ ∧
      session.callsInTurn loaders (callers + 1) = session.callsInTurn loaders callers ++ calls ∧
      result.isOk = (session.ensures loaders).answer := by
  have hensures := ensures_eq loaders (session.inTurn loaders callers).after
  rw [h] at hensures
  rw [← (ensures_inTurn loaders callers session).1, callsInTurn_succ, ensureCalls, inTurn_succ, hensures]
  exact ⟨rfl, rfl, rfl⟩

theorem ensures_acquisition (session : Session) : ∃ result, result.isOk = (session.ensures loaders).answer ∧
    Acquisition session.runtime (session.ensureCalls loaders) result (session.ensures loaders).after.runtime := by
  have hacquisition := acquire_trace (trace_run (DriverState.serve loaders) session.runtime.acquire session.driver)
  rw [ensureCalls, ensures_eq]
  exact ⟨_, rfl, hacquisition⟩

theorem ensureCalls_length (session : Session) : (session.ensureCalls loaders).length ≤ 13 := by
  obtain ⟨result, -, hacquisition⟩ := session.ensures_acquisition loaders
  exact Nat.le_trans hacquisition.length_le session.runtime.callsAhead_le

theorem callsInTurn_length (callers : Nat) (session : Session) :
    (session.callsInTurn loaders callers).length ≤ 13 * callers := by
  induction callers with
  | zero =>
    rw [callsInTurn, inTurn_zero]
    exact Nat.le_refl 0
  | succ callers ih =>
    have hlast := (session.inTurn loaders callers).after.ensureCalls_length loaders
    rw [callsInTurn_succ, List.length_append]
    omega

/-- **Where there is a context in the end, the first builds what it takes**, and each of them makes it current. -/
theorem callsInTurn_ready {display : Display} {bound : Bound} {session : Session}
    (h : (session.ensures loaders).after.runtime = .ready display bound) :
    ∃ earlier : List (Event Calls), (∀ e ∈ earlier, e.request.builds = true) ∧
      ∀ callers, session.callsInTurn loaders (callers + 1) = earlier ++ List.replicate (callers + 1)
        ⟨.makeCurrent display bound.surface bound.context, (session.ensures loaders).answer⟩ := by
  obtain ⟨result, hanswer, hacquisition⟩ := session.ensures_acquisition loaders
  rcases hacquisition.ends with ⟨d, b, earlier, hafter, hcalls, hbuilds⟩ | ⟨hnone, -⟩
  · cases hafter.symm.trans h
    rw [hanswer] at hcalls
    refine ⟨earlier, hbuilds, fun callers => ?_⟩
    induction callers with
    | zero => exact (callsInTurn_one loaders session).trans hcalls
    | succ callers ih =>
      obtain ⟨last, hlast, hready⟩ := (session.inTurn loaders (callers + 1)).after.ensures_acquisition loaders
      rw [inTurn_runtime, h] at hready
      rw [(ensures_inTurn loaders (callers + 1) session).1] at hlast
      rw [callsInTurn_succ, ih, hready.log_of_ready, hlast, List.append_assoc, ← List.replicate_succ']
  · rw [h] at hnone
    cases hnone

end Session

/-! ## At once -/

/-- How far a caller has come. -/
inductive Caller where
  | waiting
  /-- It holds the runtime, with this left to do. -/
  | inside (rest : Program Calls (Except Fault Active × Runtime))
  /-- It has let go of the runtime, with what came of acquiring. -/
  | outside (result : Except Fault Active)
  | finished (ensured : Bool)

namespace Caller

def hasBegun : Caller → Bool
  | .waiting => false
  | _ => true

def isInside : Caller → Bool
  | .inside _ => true
  | _ => false

/-- Whether it has held the runtime and let go of it. -/
def isThrough : Caller → Bool
  | .outside _ | .finished _ => true
  | _ => false

def isFinished : Caller → Bool
  | .finished _ => true
  | _ => false

end Caller

/-- Callers that ensure the context of one session at the same time, and what they have called so far. -/
structure Crowd where
  callers : List Caller
  /-- Whether one of them holds the runtime. -/
  locked : Bool
  session : Session
  log : List (Event Calls)

namespace Crowd

/-- So many callers, none of whom has begun. -/
def gathered (callers : Nat) (session : Session) : Crowd :=
  ⟨List.replicate callers .waiting, false, session, []⟩

/-- One caller moves, if it is not done and nobody is in its way: it takes hold of the runtime, makes one call, lets go
of the runtime, or answers. -/
def move (loaders : LoaderShelf) (crowd : Crowd) (caller : Nat) : Option Crowd :=
  match crowd.callers[caller]? with
  | some .waiting =>
    if crowd.locked then none
    else some { crowd with
      callers := crowd.callers.set caller (.inside crowd.session.runtime.acquire)
      locked := true }
  | some (.inside (.call request next)) =>
    let answered := crowd.session.driver.serve loaders request
    some { crowd with
      callers := crowd.callers.set caller (.inside (next answered.1))
      session := { crowd.session with driver := answered.2 }
      log := crowd.log ++ [⟨request, answered.1⟩] }
  | some (.inside (.done (result, after))) =>
    some { crowd with
      callers := crowd.callers.set caller (.outside result)
      locked := false
      session := { crowd.session with runtime := after } }
  | some (.outside result) => some { crowd with callers := crowd.callers.set caller (.finished result.isOk) }
  | some (.finished _) | none => none

def follow (loaders : LoaderShelf) : List Nat → Crowd → Option Crowd
  | [], crowd => some crowd
  | caller :: rest, crowd => (crowd.move loaders caller).bind (follow loaders rest)

def Finished (crowd : Crowd) : Prop :=
  ∀ caller ∈ crowd.callers, caller.isFinished = true

/-- What a move can do, with the callers before and behind the one that moves. -/
inductive Moves (loaders : LoaderShelf) : Crowd → Crowd → Prop where
  | enter (front back : List Caller) (session : Session) (log : List (Event Calls)) :
    Moves loaders ⟨front ++ .waiting :: back, false, session, log⟩
      ⟨front ++ .inside session.runtime.acquire :: back, true, session, log⟩
  | call (front back : List Caller) (locked : Bool) (session : Session) (log : List (Event Calls)) (request : Request)
    (next : request.Reply → Program Calls (Except Fault Active × Runtime)) :
    Moves loaders ⟨front ++ .inside (.call request next) :: back, locked, session, log⟩
      ⟨front ++ .inside (next (session.driver.serve loaders request).1) :: back, locked,
        { session with driver := (session.driver.serve loaders request).2 },
        log ++ [⟨request, (session.driver.serve loaders request).1⟩]⟩
  | leave (front back : List Caller) (locked : Bool) (session : Session) (log : List (Event Calls))
    (result : Except Fault Active) (after : Runtime) :
    Moves loaders ⟨front ++ .inside (.done (result, after)) :: back, locked, session, log⟩
      ⟨front ++ .outside result :: back, false, { session with runtime := after }, log⟩
  | answer (front back : List Caller) (locked : Bool) (session : Session) (log : List (Event Calls))
    (result : Except Fault Active) :
    Moves loaders ⟨front ++ .outside result :: back, locked, session, log⟩
      ⟨front ++ .finished result.isOk :: back, locked, session, log⟩

variable {loaders : LoaderShelf}

theorem split_of_get? {callers : List Caller} {i : Nat} {caller : Caller} (h : callers[i]? = some caller)
    (caller' : Caller) :
    ∃ front back, callers = front ++ caller :: back ∧ callers.set i caller' = front ++ caller' :: back := by
  obtain ⟨hi, rfl⟩ := List.getElem?_eq_some_iff.1 h
  obtain ⟨front, back, hcallers, -, hset⟩ := List.exists_of_set hi
  exact ⟨front, back, hcallers, hset⟩

/-- **Every move is one of these.** -/
theorem moves_of_move {crowd next : Crowd} {caller : Nat} (h : crowd.move loaders caller = some next) :
    Moves loaders crowd next := by
  obtain ⟨callers, locked, session, log⟩ := crowd
  unfold move at h
  split at h
  · rename_i hcaller
    cases locked with
    | true => cases h
    | false =>
      obtain ⟨front, back, rfl, hset⟩ := split_of_get? hcaller (.inside session.runtime.acquire)
      simp only [Bool.false_eq_true, ↓reduceIte, Option.some.injEq] at h
      rw [← h, hset]
      exact .enter front back session log
  · rename_i request following hcaller
    obtain ⟨front, back, rfl, hset⟩ := split_of_get? hcaller
      (.inside (following (session.driver.serve loaders request).1))
    rw [← Option.some.inj h, hset]
    exact .call front back locked session log request following
  · rename_i result after hcaller
    obtain ⟨front, back, rfl, hset⟩ := split_of_get? hcaller (.outside result)
    rw [← Option.some.inj h, hset]
    exact .leave front back locked session log result after
  · rename_i result hcaller
    obtain ⟨front, back, rfl, hset⟩ := split_of_get? hcaller (.finished result.isOk)
    rw [← Option.some.inj h, hset]
    exact .answer front back locked session log result
  · cases h
  · cases h

end Crowd

/-! ## At once is in turn -/

/-- What is so of a caller of a crowd that began in the session `first`, when so many are `through`. -/
def Caller.Right (loaders : LoaderShelf) (first : Session) (through : Nat) (session : Session)
    (log : List (Event Calls)) : Caller → Prop
  | .waiting => True
  | .inside rest =>
    let found := (first.inTurn loaders through).after
    let left := rest.run (DriverState.serve loaders) session.driver
    session.runtime = found.runtime ∧ ∃ calls, log = first.callsInTurn loaders through ++ calls ∧
      found.runtime.acquire.run (DriverState.serve loaders) found.driver =
        ⟨left.value, left.state, calls ++ left.events⟩
  | .outside result => result.isOk = (first.ensures loaders).answer
  | .finished ensured => ensured = (first.ensures loaders).answer

namespace Crowd

/-- How many callers have held the runtime and let go of it. -/
def through (crowd : Crowd) : Nat :=
  crowd.callers.countP Caller.isThrough

/-- The crowd is where so many callers in turn would be, but for what the one that holds the runtime has called. -/
structure Serial (loaders : LoaderShelf) (first : Session) (crowd : Crowd) : Prop where
  /-- The runtime is held by one caller while it is locked, and by none while it is not. -/
  exclusive : crowd.callers.countP Caller.isInside = crowd.locked.toNat
  /-- While none holds it, all is as those that are through would have left it in turn. -/
  free : crowd.locked = false → crowd.session = (first.inTurn loaders crowd.through).after ∧
    crowd.log = first.callsInTurn loaders crowd.through
  right : ∀ caller ∈ crowd.callers, caller.Right loaders first crowd.through crowd.session crowd.log

variable {loaders : LoaderShelf} {first session session' : Session} {log log' : List (Event Calls)}
variable {front back : List Caller} {caller : Caller} {locked : Bool} {k k' : Nat}

theorem countP_middle (p : Caller → Bool) (front back : List Caller) (caller : Caller) :
    (front ++ caller :: back).countP p = (front ++ back).countP p + (p caller).toNat := by
  rw [List.countP_append, List.countP_append, List.countP_cons, Nat.add_assoc]
  cases p caller <;> rfl

/-- What a serial crowd is for one of its callers and for the others. -/
theorem serial_middle : Serial loaders first ⟨front ++ caller :: back, locked, session, log⟩ ↔
    let others := front ++ back
    let k := others.countP Caller.isThrough + caller.isThrough.toNat
    others.countP Caller.isInside + caller.isInside.toNat = locked.toNat ∧
      (locked = false → session = (first.inTurn loaders k).after ∧ log = first.callsInTurn loaders k) ∧
      (∀ other ∈ others, other.Right loaders first k session log) ∧ caller.Right loaders first k session log := by
  have hthrough : through ⟨front ++ caller :: back, locked, session, log⟩ = _ :=
    countP_middle Caller.isThrough front back caller
  constructor
  · rintro ⟨hexclusive, hfree, hright⟩
    rw [countP_middle] at hexclusive
    rw [hthrough] at hfree hright
    refine ⟨hexclusive, hfree, fun other hmem => hright other ?_, hright caller ?_⟩
    · rcases List.mem_append.1 hmem with hmem | hmem
      · exact List.mem_append_left _ hmem
      · exact List.mem_append_right _ (List.mem_cons_of_mem _ hmem)
    · exact List.mem_append_right _ List.mem_cons_self
  · rintro ⟨hexclusive, hfree, hothers, hself⟩
    refine ⟨by rw [countP_middle, hexclusive], by rwa [hthrough], fun other hmem => ?_⟩
    rw [hthrough]
    rcases List.mem_append.1 hmem with hmem | hmem
    · exact hothers other (List.mem_append_left _ hmem)
    · rcases List.mem_cons.1 hmem with rfl | hmem
      · exact hself
      · exact hothers other (List.mem_append_right _ hmem)

theorem right_of_not_inside (hinside : caller.isInside = false) (h : caller.Right loaders first k session log) :
    caller.Right loaders first k' session' log' := by
  cases caller with
  | inside rest => cases hinside
  | _ => exact h

theorem right_of_none_inside {others : List Caller} (hnone : others.countP Caller.isInside = 0)
    (h : ∀ other ∈ others, other.Right loaders first k session log) :
    ∀ other ∈ others, other.Right loaders first k' session' log' := by
  intro other hmem
  have hother := List.countP_eq_zero.1 hnone other hmem
  exact right_of_not_inside (Bool.eq_false_iff.2 hother) (h other hmem)

theorem none_inside {others : List Caller} (h : others.countP Caller.isInside + 1 = locked.toNat) :
    others.countP Caller.isInside = 0 := by
  have := locked.toNat_le
  omega

theorem gathered_serial (callers : Nat) (first : Session) : Serial loaders first (gathered callers first) := by
  have hcount (p : Caller → Bool) (hp : p .waiting = false) : (List.replicate callers Caller.waiting).countP p = 0 := by
    rw [List.countP_eq_zero]
    intro c hc
    rw [List.eq_of_mem_replicate hc, hp]
    exact Bool.false_ne_true
  refine ⟨hcount _ rfl, fun _ => ?_, fun c hc => ?_⟩
  · rw [through, gathered, hcount _ rfl, Session.callsInTurn, Session.inTurn_zero]
    exact ⟨rfl, rfl⟩
  · rw [List.eq_of_mem_replicate hc]
    trivial

/-- **A move keeps the crowd where callers in turn would be.** -/
theorem Moves.serial {crowd next : Crowd} (h : Moves loaders crowd next) (hserial : Serial loaders first crowd) :
    Serial loaders first next := by
  cases h with
  | enter front back session log =>
    rw [serial_middle] at hserial ⊢
    obtain ⟨hnone, hfree, hothers, -⟩ := hserial
    obtain ⟨hsession, hlog⟩ := hfree rfl
    -- nothing is called yet, and all of the acquiring of the next caller in turn is left
    refine ⟨congrArg (· + 1) hnone, nofun, right_of_none_inside hnone hothers, congrArg Session.runtime hsession, [],
      hlog.trans (List.append_nil _).symm, ?_⟩
    rw [hsession]
    rfl
  | call front back locked session log request next =>
    rw [serial_middle] at hserial ⊢
    obtain ⟨hexclusive, hfree, hothers, hruntime, calls, hlog, hrun⟩ := hserial
    -- the call goes from what is left of the acquiring to what was made of it
    refine ⟨hexclusive, ?_, right_of_none_inside (none_inside hexclusive) hothers, hruntime,
      calls ++ [⟨request, (session.driver.serve loaders request).1⟩], ?_, ?_⟩
    · rintro rfl
      cases hexclusive
    · rw [← List.append_assoc]
      exact congrArg (· ++ _) hlog
    · rw [List.append_assoc]
      exact hrun
  | leave front back locked session log result after =>
    rw [serial_middle] at hserial ⊢
    obtain ⟨hexclusive, -, hothers, -, calls, hlog, hrun⟩ := hserial
    obtain ⟨hafter, hcalls, hanswer⟩ := first.inTurn_of_run loaders hrun
    refine ⟨none_inside hexclusive, fun _ => ⟨hafter.symm, Eq.trans ?_ hcalls.symm⟩,
      right_of_none_inside (none_inside hexclusive) hothers, hanswer⟩
    exact hlog.trans (congrArg (_ ++ ·) (List.append_nil calls).symm)
  | answer front back locked session log result =>
    rw [serial_middle] at hserial ⊢
    exact hserial

/-! ## Every schedule comes to an end -/

/-- How many moves the callers have made: to take hold of the runtime, to let go of it, to answer, and to call. -/
def moved (crowd : Crowd) : Nat :=
  crowd.callers.countP Caller.hasBegun + crowd.callers.countP Caller.isThrough +
    crowd.callers.countP Caller.isFinished + crowd.log.length

theorem Moves.moved_succ {crowd next : Crowd} (h : Moves loaders crowd next) :
    next.moved = crowd.moved + 1 ∧ next.callers.length = crowd.callers.length := by
  cases h <;>
    simp only [moved, countP_middle, Caller.hasBegun, Caller.isThrough, Caller.isFinished, Bool.toNat_true,
      Bool.toNat_false, List.length_append, List.length_cons, List.length_nil, and_true] <;> omega

theorem Serial.exists_inside {crowd : Crowd} (h : Serial loaders first crowd) (hlocked : crowd.locked = true) :
    ∃ rest, .inside rest ∈ crowd.callers := by
  have hpos : 0 < crowd.callers.countP Caller.isInside := by
    rw [h.exclusive, hlocked]
    exact Nat.one_pos
  obtain ⟨caller, hmem, hinside⟩ := List.countP_pos_iff.1 hpos
  cases caller with
  | inside rest => exact ⟨rest, hmem⟩
  | _ => cases hinside

theorem Serial.log_length {crowd : Crowd} (h : Serial loaders first crowd) :
    crowd.log.length ≤ 13 * crowd.callers.length := by
  have hturn := first.callsInTurn_length loaders crowd.through
  cases hlocked : crowd.locked with
  | false =>
    have hthrough : crowd.through ≤ crowd.callers.length := List.countP_le_length
    rw [(h.free hlocked).2]
    omega
  | true =>
    -- the one that holds the runtime is not through yet, and its calls so far are some of those of one acquiring
    obtain ⟨rest, hmem⟩ := h.exists_inside hlocked
    obtain ⟨-, calls, hlog, hrun⟩ := h.right _ hmem
    have hthrough : crowd.through < crowd.callers.length := by
      refine Nat.lt_of_le_of_ne List.countP_le_length fun hall => ?_
      exact Bool.false_ne_true (List.countP_eq_length.1 hall _ hmem)
    have hcalls : (calls ++ (rest.run (DriverState.serve loaders) crowd.session.driver).events).length ≤ 13 := by
      have hacquiring := (first.inTurn loaders crowd.through).after.ensureCalls_length loaders
      rwa [Session.ensureCalls, Session.ensures_eq, hrun] at hacquiring
    rw [List.length_append] at hcalls
    rw [hlog, List.length_append]
    omega

/-- **Nobody can move without end.** -/
theorem Serial.moved_le {crowd : Crowd} (h : Serial loaders first crowd) : crowd.moved ≤ 16 * crowd.callers.length := by
  have hbegun : crowd.callers.countP Caller.hasBegun ≤ crowd.callers.length := List.countP_le_length
  have hthrough : crowd.callers.countP Caller.isThrough ≤ crowd.callers.length := List.countP_le_length
  have hfinished : crowd.callers.countP Caller.isFinished ≤ crowd.callers.length := List.countP_le_length
  have hlog := h.log_length
  rw [moved]
  omega

theorem exists_move {crowd : Crowd} {caller : Caller} (hmem : caller ∈ crowd.callers)
    (hfinished : caller.isFinished = false) (hfree : caller.isInside = false → crowd.locked = false) :
    ∃ i next, crowd.move loaders i = some next := by
  obtain ⟨i, hi⟩ := List.getElem?_of_mem hmem
  refine ⟨i, ?_⟩
  unfold move
  rw [hi]
  cases caller with
  | waiting =>
    rw [hfree rfl]
    exact ⟨_, rfl⟩
  | inside rest =>
    cases rest with
    | done value => exact ⟨_, rfl⟩
    | call request next => exact ⟨_, rfl⟩
  | outside result => exact ⟨_, rfl⟩
  | finished ensured => cases hfinished

/-- **Nobody is stuck**: while some caller has no answer, some caller can move. -/
theorem Serial.exists_move {crowd : Crowd} (h : Serial loaders first crowd) (hfinished : ¬crowd.Finished) :
    ∃ i next, crowd.move loaders i = some next := by
  cases hlocked : crowd.locked with
  | true =>
    obtain ⟨rest, hmem⟩ := h.exists_inside hlocked
    exact Crowd.exists_move hmem rfl nofun
  | false =>
    simp only [Finished, not_forall, Bool.not_eq_true] at hfinished
    obtain ⟨caller, hmem, hcaller⟩ := hfinished
    exact Crowd.exists_move hmem hcaller fun _ => hlocked

theorem follow_serial : ∀ {schedule : List Nat} {crowd last : Crowd}, crowd.follow loaders schedule = some last →
    Serial loaders first crowd → Serial loaders first last ∧ last.callers.length = crowd.callers.length
  | [], _, _, h, hserial => by
    cases h
    exact ⟨hserial, rfl⟩
  | caller :: rest, crowd, last, h, hserial => by
    obtain ⟨next, hmove, hrest⟩ := Option.bind_eq_some_iff.1 h
    have hmoves := moves_of_move hmove
    obtain ⟨hlast, hlength⟩ := follow_serial hrest (hmoves.serial hserial)
    exact ⟨hlast, hlength.trans hmoves.moved_succ.2⟩

/-- **Every crowd can go on until all have their answers.** -/
theorem Serial.completes {crowd : Crowd} (h : Serial loaders first crowd) :
    ∃ schedule last, crowd.follow loaders schedule = some last ∧ last.Finished := by
  by_cases hfinished : crowd.Finished
  · exact ⟨[], crowd, rfl, hfinished⟩
  · obtain ⟨i, next, hmove⟩ := h.exists_move hfinished
    have hnext := (moves_of_move hmove).serial h
    have hbound := hnext.moved_le
    obtain ⟨hmoved, hlength⟩ := (moves_of_move hmove).moved_succ
    obtain ⟨schedule, last, hfollow, hlast⟩ := hnext.completes
    refine ⟨i :: schedule, last, ?_, hlast⟩
    rw [follow, hmove]
    exact hfollow
termination_by 16 * crowd.callers.length - crowd.moved -- sixteen moves a caller, and each move is one of them

theorem Serial.of_finished {crowd : Crowd} (h : Serial loaders first crowd) (hfinished : crowd.Finished) :
    crowd.callers = List.replicate crowd.callers.length (.finished (first.ensures loaders).answer) ∧
      crowd.session = (first.inTurn loaders crowd.callers.length).after ∧
      crowd.log = first.callsInTurn loaders crowd.callers.length := by
  have hthrough : crowd.through = crowd.callers.length := by
    refine List.countP_eq_length.2 fun caller hmem => ?_
    have hcaller := hfinished caller hmem
    cases caller <;> first | rfl | cases hcaller
  have hlocked : crowd.locked = false := by
    cases hlocked : crowd.locked with
    | false => rfl
    | true =>
      obtain ⟨rest, hmem⟩ := h.exists_inside hlocked
      exact absurd (hfinished _ hmem) Bool.false_ne_true
  refine ⟨List.eq_replicate_iff.2 ⟨rfl, fun caller hmem => ?_⟩, hthrough ▸ h.free hlocked⟩
  have hcaller := hfinished caller hmem
  have hright := h.right caller hmem
  cases caller with
  | finished ensured => exact congrArg Caller.finished hright
  | _ => cases hcaller

end Crowd

/-! ## Sessions -/

theorem filter_current {earlier : List (Event Calls)} (hbuilds : ∀ e ∈ earlier, e.request.builds = true)
    (display : Display) (surface : Surface) (context : Context) (current : Bool) (n : Nat) :
    let calls := earlier ++ List.replicate n ⟨.makeCurrent display surface context, current⟩
    calls.filter (fun e => !e.request.makesCurrent) = earlier ∧
      calls.filter (fun e => e.request.makesCurrent) =
        List.replicate n ⟨.makeCurrent display surface context, current⟩ := by
  have hkept : earlier.filter (fun e => !e.request.makesCurrent) = earlier :=
    List.filter_eq_self.2 fun e he => by rw [Request.not_makesCurrent_of_builds (hbuilds e he)]; rfl
  simp only [List.filter_append, filter_makesCurrent_of_builds hbuilds, hkept, List.filter_replicate]
  exact ⟨List.append_nil earlier, rfl⟩

namespace Session

/-- **Callers that ensure the context at once do what one of them would do alone**, from any state and over any driver,
however they get in each other's way.  Every schedule goes on until all have their answers; then all have the same, the
runtime is as after one of them and was created once at most, and where there is a context each made it current once and
only one called more. -/
theorem ensured_at_once (loaders : LoaderShelf) (names : List String) (session : Session) (callers : Nat) :
    let single := session.perform (.direct loaders) names (.query .ensure)
    let gathered := Crowd.gathered (callers + 1) session
    (∀ schedule crowd, gathered.follow loaders schedule = some crowd →
      ∃ rest last, crowd.follow loaders rest = some last ∧ last.Finished) ∧
    ∀ schedule crowd, gathered.follow loaders schedule = some crowd → crowd.Finished →
      crowd.callers = List.replicate (callers + 1) (.finished single.answer) ∧
      crowd.session.runtime = single.after.runtime ∧
      (crowd.log.filterMap Event.openedDisplay?).length ≤ 1 ∧ (crowd.log.filterMap Event.madeContext?).length ≤ 1 ∧
      (∀ display bound, single.after.runtime = .ready display bound →
        crowd.log.filter (fun e => !e.request.makesCurrent) =
          single.events.filter (fun e : Event Calls => !e.request.makesCurrent) ∧
        crowd.log.filter (fun e => e.request.makesCurrent) =
          List.replicate (callers + 1)
            ⟨.makeCurrent display bound.surface bound.context, single.answer⟩) ∧
      session.perform (.direct loaders) names (.together (callers + 1)) =
        ⟨List.replicate (callers + 1) single.answer, crowd.session, crowd.log⟩ := by
  intro single gathered
  have hsingle : single = session.ensures loaders := perform_eq_play _ _ rfl session
  have htogether : session.perform (.direct loaders) names (.together (callers + 1)) =
      session.inTurn loaders (callers + 1) := perform_eq_play _ _ rfl session
  have hgathered : Crowd.Serial loaders session gathered := Crowd.gathered_serial (callers + 1) session
  refine ⟨fun schedule crowd hfollow => (Crowd.follow_serial hfollow hgathered).1.completes,
    fun schedule crowd hfollow hfinished => ?_⟩
  obtain ⟨hserial, hlength⟩ := Crowd.follow_serial hfollow hgathered
  obtain ⟨hcallers, hsession, hlog⟩ := hserial.of_finished hfinished
  rw [hlength.trans List.length_replicate] at hcallers hsession hlog
  have hcourse : Course session.runtime crowd.log crowd.session.runtime := by
    have hturn := managed_ensureEach (callers + 1) session.runtime _ _ _
      (trace_run (DriverState.serve loaders) (ensureEach (callers + 1) session.runtime) session.driver)
    rw [hlog, hsession, callsInTurn, inTurn, play_direct]
    exact hturn
  rw [hsingle]
  refine ⟨hcallers, ?_, hcourse.made_once.1, hcourse.made_once.2, ?_, ?_⟩
  · rw [hsession]
    exact inTurn_runtime loaders callers session
  · intro display bound hready
    obtain ⟨earlier, hbuilds, hcalls⟩ := callsInTurn_ready loaders hready
    have hcurrent := filter_current hbuilds display bound.surface bound.context (session.ensures loaders).answer
    obtain ⟨hothers, hall⟩ := hcurrent (callers + 1)
    have hfirst := (callsInTurn_one loaders session).symm.trans (hcalls 0)
    rw [hlog, hcalls, hothers, hall]
    exact ⟨((congrArg _ hfirst).trans (hcurrent 1).1).symm, rfl⟩
  · rw [htogether, hsession, hlog, ← inTurn_answer]
    rfl

end Session

end DriverSurvey
