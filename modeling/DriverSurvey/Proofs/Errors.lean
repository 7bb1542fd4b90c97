import DriverSurvey.Proofs.Outcome
/-!
# Errors — what queries leave pending, and what they hear of it

A call that is no look at errors is answered from the script alone, and leaves behind the errors it raises
(`run_steady`).  The one query that looks at errors throws the pending ones away first; where it can throw away all of
them (`Discardable`), it too answers from the script alone (`query_told`).
-/
namespace DriverSurvey

open Program

variable {loaders : LoaderShelf} {script : Script} {α β : Type}

/-! ## Calls that look at no errors -/

/-- The driver with some error codes behind those that are pending. -/
def DriverState.leave (d : DriverState) (codes : List UInt32) : DriverState :=
  { d with errors := d.errors ++ codes }

@[simp] theorem DriverState.leave_script (d : DriverState) (codes : List UInt32) :
    (d.leave codes).script = d.script := rfl

@[simp] theorem DriverState.leave_nil (d : DriverState) : d.leave [] = d := by
  rw [DriverState.leave, List.append_nil]

theorem DriverState.leave_leave (d : DriverState) (codes codes' : List UInt32) :
    (d.leave codes).leave codes' = d.leave (codes ++ codes') := by
  rw [DriverState.leave, DriverState.leave, DriverState.leave, List.append_assoc]

/-- The driver's answer to the call is in its script, and all that the call does is to raise its errors. -/
def Request.Steady (loaders : LoaderShelf) (q : Request) : Prop :=
  ∀ d : DriverState, d.serve loaders q = ((DriverState.serve loaders q { script := d.script }).1,
    d.leave (d.script.raisedBy q))

/-- **What is asked under a context is answered from the script**, unless it is for errors. -/
theorem Request.Asks.steady {active : Active} {checked : Prop} (hc : ¬checked) {q : Request}
    (h : q.Asks active checked) : q.Steady loaders := by
  intro d
  cases h with
  | error h => exact absurd h hc
  | integers token => rfl
  | _ => exact Prod.ext rfl d.leave_nil.symm

theorem Request.Loads.steady {q : Request} (h : q.Loads) : q.Steady loaders := by
  intro d
  cases h <;> exact Prod.ext rfl d.leave_nil.symm

/-- **A program of such calls does the same over every driver with the same script**, and leaves behind what it
raises. -/
theorem run_steady : ∀ {p : Program Calls α}, p.Only (Request.Steady loaders) → ∀ d : DriverState,
    let fresh := p.run (DriverState.serve loaders) { script := d.script }
    p.run (DriverState.serve loaders) d = ⟨fresh.value, d.leave (d.script.raised fresh.events), fresh.events⟩
  | .done value, _, d => by simp [run, Script.raised]
  | .call q next, h, d => by
    -- after one call both drivers still have the same script, so both go on as one that is fresh
    have hnext := run_steady (h.2 (DriverState.serve loaders q { script := d.script }).1)
    simp only [run]
    rw [h.1 d, h.1 { script := d.script }]
    simp only
    rw [hnext (d.leave _), hnext (DriverState.leave _ _)]
    simp [Script.raised, DriverState.leave_leave]

/-! ## Looking at errors -/

/-- Error codes that a checked read can throw away beforehand, all of them. -/
def Discardable (codes : List UInt32) : Prop :=
  (∀ code ∈ codes, code ≠ Gl.noError) ∧ codes.length ≤ discardLimit

instance (codes : List UInt32) : Decidable (Discardable codes) :=
  decidable_of_iff (codes.all (· != Gl.noError) = true ∧ codes.length ≤ discardLimit) (by simp [Discardable])

theorem Discardable.of_append {codes more : List UInt32} (h : Discardable (codes ++ more)) : Discardable codes := by
  refine ⟨fun code hc => h.1 code (List.mem_append_left _ hc), ?_⟩
  have hlen := h.2
  rw [List.length_append] at hlen
  omega

theorem Discardable.perm {codes codes' : List UInt32} (h : Discardable codes) (hp : codes.Perm codes') :
    Discardable codes' :=
  ⟨fun code hc => h.1 code (hp.mem_iff.2 hc), hp.length_eq ▸ h.2⟩

theorem DriverState.takeError_eq (d : DriverState) :
    d.takeError = (d.errors.headD d.script.stickyError, { d with errors := d.errors.tail }) := by
  obtain ⟨script, errors, chosen⟩ := d
  cases errors <;> rfl

theorem DriverState.takeError_script (d : DriverState) : d.takeError.2.script = d.script := by
  rw [takeError_eq]

/-- How often some calls look at errors. -/
def looks (events : List (Event Calls)) : Nat :=
  events.countP fun e => e.request == .error

theorem looks_append (first last : List (Event Calls)) : looks (first ++ last) = looks first + looks last :=
  List.countP_append

/-- How often errors are looked at that are thrown away up to a limit: once more than there are, so as to see that none
is left.  A driver that reports an error for good is looked at up to the limit. -/
def DriverState.discards (d : DriverState) (limit : Nat) : Nat :=
  if d.script.stickyError = Gl.noError then min (d.errors.length + 1) limit else limit

/-- **Throwing errors away takes them off the front of those pending**, so many at most. -/
theorem discardErrors_run : ∀ (limit : Nat) (d : DriverState), (∀ code ∈ d.errors, code ≠ Gl.noError) →
    ∃ events, (discardErrors limit).run (DriverState.serve loaders) d =
      ⟨(), { d with errors := d.errors.drop limit }, events⟩ ∧ looks events = d.discards limit
  | 0, d, _ => ⟨[], rfl, by simp [looks, DriverState.discards]⟩
  | limit + 1, ⟨script, [], chosen⟩, _ => by
    simp only [discardErrors, ask, call_bind, done_bind, run, DriverState.serve, DriverState.takeError]
    by_cases hsticky : script.stickyError = Gl.noError
    · simp only [hsticky, beq_self_eq_true, ↓reduceIte]
      exact ⟨_, rfl, by simp [looks, DriverState.discards, hsticky, pure, run]⟩
    · -- an error that the driver reports for good: there is nothing to throw away, but the loop goes on
      obtain ⟨events, hrun, hlooks⟩ := discardErrors_run limit ⟨script, [], chosen⟩
        fun _ hc => absurd hc List.not_mem_nil
      simp only [beq_iff_eq, hsticky, ↓reduceIte, hrun, List.drop_nil]
      refine ⟨_, rfl, ?_⟩
      simp only [DriverState.discards, if_neg hsticky] at hlooks ⊢
      rw [← hlooks]
      exact List.countP_cons_of_pos rfl
  | limit + 1, ⟨script, code :: rest, chosen⟩, h => by
    simp only [discardErrors, ask, call_bind, done_bind, run, DriverState.serve, DriverState.takeError]
    have hcode : ¬code = Gl.noError := h code List.mem_cons_self
    obtain ⟨events, hrun, hlooks⟩ := discardErrors_run limit ⟨script, rest, chosen⟩
      fun c hc => h c (List.mem_cons_of_mem _ hc)
    simp only [beq_iff_eq, hcode, ↓reduceIte, hrun, List.drop_succ_cons]
    refine ⟨_, rfl, ?_⟩
    have hmore : looks (⟨.error, code⟩ :: events) = looks events + 1 := List.countP_cons_of_pos rfl
    rw [hmore, hlooks]
    simp only [DriverState.discards, List.length_cons]
    split <;> omega

/-- The errors that are pending once so many were thrown away and a token was read. -/
def DriverState.raisedAfter (d : DriverState) (limit : Nat) (token : UInt32) : List UInt32 :=
  d.errors.drop limit ++ (d.script.raises.lookup token).getD []

/-- The integer that a script has for a token; zero where it has none. -/
def Script.integer (script : Script) (token : UInt32) : Int32 :=
  (script.values token).headD 0

theorem Script.stored_integer (script : Script) (token : UInt32) (buffer : List Int32) :
    (stored ((script.values token).take (buffer.length + 1)) (0 :: buffer)).headD 0 = script.integer token := by
  unfold integer
  cases script.values token <;> rfl

theorem readInteger_run (token : UInt32) (d : DriverState) :
    (readInteger token).run (DriverState.serve loaders) d =
      ⟨d.script.integer token, d.raise token, [⟨.integers token 1, (d.script.values token).take 1⟩]⟩ := by
  rw [← d.script.stored_integer token []]
  rfl

/-- **A checked read throws errors away, reads, and blames the read for the error that it then finds.** -/
theorem readGuarded_run (token : UInt32) (d : DriverState) (h : ∀ code ∈ d.errors, code ≠ Gl.noError) :
    let left := d.raisedAfter discardLimit token
    let code := left.headD d.script.stickyError
    ∃ discarding, (readGuarded token).run (DriverState.serve loaders) d =
        ⟨if code = Gl.noError then .ok (d.script.integer token) else .error (.flagged "glGetIntegerv" code),
          { d with errors := left.tail },
          discarding ++ [⟨.integers token 1, (d.script.values token).take 1⟩, ⟨.error, code⟩]⟩ ∧
      looks discarding = d.discards discardLimit := by
  intro left code
  obtain ⟨discarding, hrun, hlooks⟩ := @discardErrors_run loaders discardLimit d h
  refine ⟨discarding, ?_, hlooks⟩
  have htaken : (DriverState.raise { d with errors := d.errors.drop discardLimit } token).takeError =
      (code, { d with errors := left.tail }) :=
    DriverState.takeError_eq { d with errors := left }
  unfold readGuarded
  rw [run_bind, hrun]
  simp only [run_bind, readInteger_run, ask, call_bind, done_bind, run, DriverState.serve, htaken, beq_iff_eq]
  by_cases hcode : code = Gl.noError
  · simp only [hcode, ↓reduceIte]
    rfl
  · simp only [hcode, ↓reduceIte]
    rfl

/-- What a checked read of a token gets, if it raises no error. -/
def Script.reads? (script : Script) (token : UInt32) : Option Int32 :=
  if ((script.raises.lookup token).getD []).headD script.stickyError == Gl.noError then
    some ((stored ((script.values token).take 1) [0]).headD 0)
  else none

theorem Discardable.raisedAfter {d : DriverState} (h : Discardable d.errors) (token : UInt32) :
    d.raisedAfter discardLimit token = (d.script.raises.lookup token).getD [] := by
  rw [DriverState.raisedAfter, List.drop_eq_nil_of_le h.2, List.nil_append]

/-- **With the pending errors thrown away, a checked read is answered from the script.** -/
theorem readGuarded_discardable (token : UInt32) (d : DriverState) (h : Discardable d.errors) :
    let played := (readGuarded token).run (DriverState.serve loaders) d
    played.state.script = d.script ∧ played.value.toOption = d.script.reads? token := by
  obtain ⟨discarding, hrun, -⟩ := @readGuarded_run loaders token d h.1
  rw [h.raisedAfter] at hrun
  rw [hrun, Script.reads?, ← d.script.stored_integer token []]
  refine ⟨rfl, ?_⟩
  simp only [beq_iff_eq]
  split <;> rfl

/-! ## What a query is told -/

/-- Over every driver with the script the program ends in `answer`; where it is `checked`, over those whose pending
errors can be thrown away.  Where it is not, it leaves the errors it raises, `codes`, behind those pending. -/
def Program.Told (loaders : LoaderShelf) (script : Script) (checked : Prop) (p : Program Calls α) (answer : α)
    (codes : List UInt32) : Prop :=
  ∀ d : DriverState, d.script = script → (checked → Discardable d.errors) →
    ∃ state events, p.run (DriverState.serve loaders) d = ⟨answer, state, events⟩ ∧ state.script = script ∧
      (¬checked → state.errors = d.errors ++ codes ∧ script.raised events = codes)

theorem told_pure (a : α) (checked : Prop) : (pure a : Program Calls α).Told loaders script checked a [] := by
  rintro d rfl -
  exact ⟨d, [], rfl, rfl, fun _ => ⟨(List.append_nil _).symm, rfl⟩⟩

theorem Program.Told.map {checked : Prop} {p : Program Calls α} {answer : α} {codes : List UInt32}
    (h : p.Told loaders script checked answer codes) (f : α → β) :
    (p >>= fun a => pure (f a)).Told loaders script checked (f answer) codes := by
  intro d hscript hd
  obtain ⟨state, events, hrun, hstate, hcodes⟩ := h d hscript hd
  refine ⟨state, events, ?_, hstate, hcodes⟩
  rw [run_bind, hrun]
  exact congrArg (Played.mk _ _) (List.append_nil events)

/-- What raises nothing and takes no error may come before. -/
theorem Program.Ends.bind_told {checked : Prop} {p : Program Calls α} {f : α → Program Calls β} {mid : α → Prop} {b : β}
    {codes : List UInt32} (hp : ∀ d : DriverState, d.script = script → p.Ends loaders d mid)
    (hf : ∀ a, mid a → (f a).Told loaders script checked b codes) : (p >>= f).Told loaders script checked b codes := by
  rintro d rfl hd
  obtain ⟨a, version, events, hrun, hraised, ha⟩ := hp d rfl
  obtain ⟨state, events', hrun', hstate, hcodes⟩ := hf a ha { d with chosen := version } rfl hd
  refine ⟨state, events ++ events', ?_, hstate, fun hc => ⟨(hcodes hc).1, ?_⟩⟩
  · rw [run_bind, hrun, hrun']
  · rw [Script.raised_append, hraised, List.nil_append]
    exact (hcodes hc).2

theorem told_of_steady {p : Program Calls α} (h : p.Only (Request.Steady loaders)) (checked : Prop) :
    ∃ answer codes, p.Told loaders script checked answer codes := by
  let fresh := p.run (DriverState.serve loaders) { script }
  refine ⟨fresh.value, script.raised fresh.events, ?_⟩
  rintro d rfl -
  exact ⟨_, _, run_steady h d, rfl, fun _ => ⟨rfl, rfl⟩⟩

/-- **What a query is told under a context, the script alone decides.** -/
theorem body_told (query : Query) (active : Active) :
    ∃ answer codes, (query.body active).Told loaders script (query = .maxComputeInvocations) answer codes := by
  by_cases hq : query = .maxComputeInvocations
  · subst hq
    refine ⟨((script.reads? Gl.maxComputeInvocations).map nonNegative).getD 0, [], ?_⟩
    rintro d rfl h
    obtain ⟨hscript, hread⟩ := readGuarded_discardable Gl.maxComputeInvocations d (h rfl)
    rw [← hread]
    unfold Query.body
    rw [run_bind]
    generalize (readGuarded Gl.maxComputeInvocations).run (DriverState.serve loaders) d = read at hscript
    obtain ⟨result, state, events⟩ := read
    cases result <;> exact ⟨_, _, rfl, hscript, fun h => absurd rfl h⟩
  · exact told_of_steady ((body_asks query active).mono fun _ h => h.steady hq) _

/-- **What a query is told, the script alone decides**, and the context there is once it was acquired. -/
theorem query_told (query : Query) (home : Runtime) : ∃ answer codes, ∀ runtime : Runtime,
    runtime.acquired script = home →
      (query.survey runtime).Told loaders script (query = .maxComputeInvocations) (answer, home) codes := by
  have acquires (runtime : Runtime) (hhome : runtime.acquired script = home) (d : DriverState)
      (hd : d.script = script) : runtime.acquire.Ends loaders d fun acquired => acquired.2 = home ∧
        acquired.1.toOption = if script.makesCurrent then home.active? else none := by
    subst hd
    have h : runtime.acquire.Ends loaders d _ := acquire_ends runtime d
    rwa [Script.active?, hhome] at h
  -- the answer is that at `home`: every runtime on the way there is handed the same context, or none
  cases hactive : if script.makesCurrent then home.active? else none with
  | none =>
    refine ⟨query.sentinel, [], fun runtime hhome => Program.Ends.bind_told (acquires runtime hhome) ?_⟩
    rintro ⟨result, _⟩ ⟨rfl, hresult⟩
    cases result with
    | ok active => cases hresult.trans hactive
    | error fault => exact told_pure _ _
  | some active =>
    obtain ⟨answer, codes, hbody⟩ := body_told query active
    refine ⟨answer, codes, fun runtime hhome => Program.Ends.bind_told (acquires runtime hhome) ?_⟩
    rintro ⟨result, _⟩ ⟨rfl, hresult⟩
    cases result with
    | ok held =>
      cases hresult.trans hactive
      exact hbody.map _
    | error fault => cases hresult.trans hactive

end DriverSurvey
