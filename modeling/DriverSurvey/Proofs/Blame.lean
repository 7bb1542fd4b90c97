import DriverSurvey.Proofs.Errors
/-!
# Blame — a checked read answers for its own errors

The query for the compute limit is the one that looks at errors.  It throws away what is pending, reads, and gives zero
where it then finds an error.  What it answers, how often it looks and what it leaves pending are settled for any
errors pending, raised by the read, or reported for good (`invocations_of_errors`).
-/
namespace DriverSurvey

open Program

theorem looks_of_acquires {calls : List (Event Calls)} (h : ∀ e ∈ calls, e.request.Acquires) : looks calls = 0 := by
  refine List.countP_eq_zero.2 fun e he herror => ?_
  have hacquires := h e he
  rw [eq_of_beq herror] at hacquires
  rcases hacquires with hbuilds | ⟨display, surface, context, hcurrent⟩
  · cases hbuilds
  · cases hcurrent

/-- **No error is found exactly where all that were pending are thrown away, the read raises none, and the driver reports
none for good.** -/
theorem headD_raisedAfter_eq_noError {d : DriverState} (hpending : ∀ code ∈ d.errors, code ≠ Gl.noError) {token : UInt32}
    (hraised : ∀ code ∈ (d.script.raises.lookup token).getD [], code ≠ Gl.noError) (limit : Nat) :
    (d.raisedAfter limit token).headD d.script.stickyError = Gl.noError ↔
      d.script.stickyError = Gl.noError ∧ d.errors.length ≤ limit ∧ (d.script.raises.lookup token).getD [] = [] := by
  have hleft : ∀ code ∈ d.raisedAfter limit token, code ≠ Gl.noError := by
    intro code hcode
    rcases List.mem_append.1 hcode with hcode | hcode
    · exact hpending code (List.mem_of_mem_drop hcode)
    · exact hraised code hcode
  rw [← List.drop_eq_nil_iff, ← List.append_eq_nil_iff]
  show _ ↔ _ ∧ d.raisedAfter limit token = []
  cases hcodes : d.raisedAfter limit token with
  | nil => simp
  | cons code rest =>
    have hcode : code ≠ Gl.noError := hleft code (by simp [hcodes])
    simp [hcode]

/-- **The query for the compute limit does what a checked read does**, and gives zero where that blames the read. -/
theorem invocations_run (loaders : LoaderShelf) (active : Active) (d : DriverState)
    (h : ∀ code ∈ d.errors, code ≠ Gl.noError) :
    let left := d.raisedAfter discardLimit Gl.maxComputeInvocations
    ∃ events, (Query.maxComputeInvocations.body active).run (DriverState.serve loaders) d =
        ⟨if left.headD d.script.stickyError = Gl.noError then nonNegative (d.script.integer Gl.maxComputeInvocations)
          else 0, { d with errors := left.tail }, events⟩ ∧
      looks events = d.discards discardLimit + 1 := by
  intro left
  obtain ⟨discarding, hrun, hlooks⟩ := @readGuarded_run loaders Gl.maxComputeInvocations d h
  unfold Query.body
  rw [run_bind, hrun]
  have hlast (values : List Int32) (code : UInt32) : looks ((discarding ++
      [⟨.integers Gl.maxComputeInvocations 1, values⟩, ⟨.error, code⟩]) ++ []) = d.discards discardLimit + 1 := by
    rw [looks_append, looks_append, hlooks]
    rfl
  by_cases hcode : left.headD d.script.stickyError = Gl.noError
  · rw [if_pos hcode, if_pos hcode]
    exact ⟨_, rfl, hlast _ _⟩
  · rw [if_neg hcode, if_neg hcode]
    exact ⟨_, rfl, hlast _ _⟩

namespace Session

variable (loaders : LoaderShelf) (names : List String)

/-- **The compute limit is zero where its own read, or more errors than can be thrown away, leave one to be found**, and
what the driver stored otherwise.  Errors are looked at once for each that is thrown away, once to see that none is left
and once behind the read, nine times at most.  Behind a read that answers for itself alone, the errors that it raised are
pending but for the first. -/
theorem invocations_of_errors (session : Session)
    (hactive : (session.perform (.direct loaders) names (.query .active)).answer.isSome)
    (hpending : ∀ code ∈ session.driver.errors, code ≠ Gl.noError)
    (hraised : ∀ code ∈ (session.driver.script.raises.lookup Gl.maxComputeInvocations).getD [], code ≠ Gl.noError) :
    let sticky := session.driver.script.stickyError
    let pending := session.driver.errors
    let raised := (session.driver.script.raises.lookup Gl.maxComputeInvocations).getD []
    let value := (session.driver.script.values Gl.maxComputeInvocations).headD 0
    let asked := session.perform (.direct loaders) names (.query .maxComputeInvocations)
    (asked.answer.toNat : Int) =
        (if sticky = Gl.noError ∧ pending.length ≤ 8 ∧ raised = [] then max 0 value.toInt else 0) ∧
      looks asked.events = (if sticky = Gl.noError then min (pending.length + 1) 8 + 1 else 9) ∧
      (sticky = Gl.noError → pending.length ≤ 8 → asked.after.driver.errors = raised.tail) := by
  intro sticky pending raised value asked
  obtain ⟨active, version, acquiring, hacquires, hplayed⟩ := query_under_context names hactive
  obtain ⟨events, hrun, hlooks⟩ := invocations_run loaders active { session.driver with chosen := version } hpending
  have hasked : asked = _ := hplayed .maxComputeInvocations
  rw [hrun] at hasked
  have hclean : (session.driver.raisedAfter discardLimit Gl.maxComputeInvocations).headD sticky = Gl.noError ↔
      sticky = Gl.noError ∧ pending.length ≤ 8 ∧ raised = [] :=
    headD_raisedAfter_eq_noError hpending hraised discardLimit
  rw [hasked]
  refine ⟨?_, ?_, fun hsticky hlength => ?_⟩
  · by_cases h : sticky = Gl.noError ∧ pending.length ≤ 8 ∧ raised = []
    · rw [if_pos h, ← toInt_nonNegative]
      exact congrArg (fun n : UInt32 => (n.toNat : Int)) (if_pos (hclean.2 h))
    · rw [if_neg h]
      exact congrArg (fun n : UInt32 => (n.toNat : Int)) (if_neg fun hcode => h (hclean.1 hcode))
  · rw [looks_append, looks_of_acquires hacquires, hlooks, Nat.zero_add]
    show (if sticky = Gl.noError then min (pending.length + 1) 8 else 8) + 1 = _
    split <;> rfl
  · show (pending.drop 8 ++ raised).tail = raised.tail
    rw [List.drop_eq_nil_of_le hlength, List.nil_append]

/-- A driver with eight errors pending, as many as can be thrown away, whose read stores a limit and raises nothing. -/
def crowded : Session :=
  .start { integers := some [(Gl.maxComputeInvocations, [1024])], errors := List.replicate 8 0x502 }

/-- Nine looks clear the way for the limit that such a driver stores. -/
theorem invocations_of_crowded :
    ((crowded.perform (.direct fun _ => none) [] (.query .active)).answer.isSome = true ∧
      (∀ code ∈ crowded.driver.errors, code ≠ Gl.noError) ∧
      ∀ code ∈ (crowded.driver.script.raises.lookup Gl.maxComputeInvocations).getD [], code ≠ Gl.noError) ∧
    let asked := crowded.perform (.direct fun _ => none) [] (.query .maxComputeInvocations)
    (asked.answer.toNat : Int) = 1024 ∧ looks asked.events = 9 ∧ asked.after.driver.errors = [] := by
  have hactive : (crowded.perform (.direct fun _ => none) [] (.query .active)).answer.isSome = true := by decide +kernel
  have hpending : ∀ code ∈ crowded.driver.errors, code ≠ Gl.noError := by
    intro code hcode
    rw [List.eq_of_mem_replicate hcode]
    decide
  have hraised : ∀ code ∈ (crowded.driver.script.raises.lookup Gl.maxComputeInvocations).getD [],
      code ≠ Gl.noError := fun _ hcode => absurd hcode List.not_mem_nil
  obtain ⟨hanswer, hlooks, herrors⟩ := invocations_of_errors (fun _ => none) [] crowded hactive hpending hraised
  exact ⟨⟨hactive, hpending, hraised⟩, hanswer, hlooks, herrors rfl (by decide)⟩

end Session
end DriverSurvey
