import DriverSurvey.Proofs.Asking
import DriverSurvey.Session
/-!
# Lifecycle — every move of the shared context

`Move r es r'` lists what can happen to a runtime: an opening of the display, an attempt at a context, an activation,
or a call that leaves the runtime alone, each with the calls it makes.  A `Course` is a row of moves.  The laws of the
lifecycle are laws of courses: a context stays for good (`Course.eq_ready`), and where a course arrives it got by one
last move (`Course.arrival`).
-/
namespace DriverSurvey

open Program

/-! ## Moves -/

/-- The handles that a bound context has for queries. -/
def Bound.active (display : Display) (bound : Bound) : Active :=
  ⟨display, bound.config, bound.version⟩

/-- The handles that a runtime has for queries, once it holds a context. -/
def Runtime.active? : Runtime → Option Active
  | .ready display bound => some (bound.active display)
  | _ => none

theorem Runtime.active?_eq_some {active : Active} : ∀ {runtime : Runtime}, runtime.active? = some active →
    ∃ display bound, runtime = .ready display bound ∧ active = bound.active display
  | .ready display bound, h => ⟨display, bound, rfl, (Option.some.inj h).symm⟩

/-- The calls that open a display. -/
def opening (display : Display) (version : Int32 × Int32) : List (Event Calls) :=
  [⟨.defaultDisplay, some display⟩, ⟨.openDisplay display, some version⟩]

/-- The calls of an attempt up to its surface. -/
def surfaceMaking (api : Bool) (display : Display) (version : EsVersion) (config : Config) (surface : Surface) :
    List (Event Calls) :=
  [⟨.bindApi, api⟩, ⟨.chooseConfig display (.standard version), some config⟩,
    ⟨.createSurface display config, some surface⟩]

/-- The calls of an attempt that succeeds. -/
def creation (api : Bool) (display : Display) (bound : Bound) : List (Event Calls) :=
  surfaceMaking api display bound.version bound.config bound.surface ++
    [⟨.createContext display bound.config bound.version, some bound.context⟩]

/-- One move of a runtime, with the calls it makes. -/
inductive Move : Runtime → List (Event Calls) → Runtime → Prop where
  | noDisplay : Move .uninitialized [⟨.defaultDisplay, none⟩] .uninitialized
  | notOpened (display : Display) :
    Move .uninitialized [⟨.defaultDisplay, some display⟩, ⟨.openDisplay display, none⟩] .uninitialized
  | opened (display : Display) (version : Int32 × Int32) :
    Move .uninitialized (opening display version) (.displayBound display)
  | noConfig (api : Bool) (display : Display) (version : EsVersion) :
    Move (.displayBound display) [⟨.bindApi, api⟩, ⟨.chooseConfig display (.standard version), none⟩]
      (.displayBound display)
  | noSurface (api : Bool) (display : Display) (version : EsVersion) (config : Config) :
    Move (.displayBound display)
      [⟨.bindApi, api⟩, ⟨.chooseConfig display (.standard version), some config⟩,
        ⟨.createSurface display config, none⟩]
      (.displayBound display)
  | noContext (api : Bool) (display : Display) (version : EsVersion) (config : Config) (surface : Surface) :
    Move (.displayBound display)
      (surfaceMaking api display version config surface ++
        [⟨.createContext display config version, none⟩, ⟨.destroySurface display surface, ()⟩])
      (.displayBound display)
  | created (api : Bool) (display : Display) (bound : Bound) :
    Move (.displayBound display) (creation api display bound) (.ready display bound)
  | activated (display : Display) (bound : Bound) (current : Bool) :
    Move (.ready display bound) [⟨.makeCurrent display bound.surface bound.context, current⟩] (.ready display bound)
  | asked (display : Display) (bound : Bound) (event : Event Calls)
    (h : event.request.Asks (bound.active display) True) :
    Move (.ready display bound) [event] (.ready display bound)
  | loader (runtime : Runtime) (event : Event Calls) (h : event.request.Loads) : Move runtime [event] runtime

/-- A row of moves, with the calls of all of them. -/
inductive Course : Runtime → List (Event Calls) → Runtime → Prop where
  | rest (runtime : Runtime) : Course runtime [] runtime
  | step {first last next : Runtime} {log calls : List (Event Calls)} :
    Course first log last → Move last calls next → Course first (log ++ calls) next

theorem Move.course {r r' : Runtime} {es : List (Event Calls)} (h : Move r es r') : Course r es r' :=
  .step (.rest r) h

theorem Course.append {r₁ r₂ r₃ : Runtime} {es₁ es₂ : List (Event Calls)} (h₁ : Course r₁ es₁ r₂)
    (h₂ : Course r₂ es₂ r₃) : Course r₁ (es₁ ++ es₂) r₃ := by
  induction h₂ with
  | rest => rwa [List.append_nil]
  | step _ m ih =>
    rw [← List.append_assoc]
    exact .step ih m

theorem course_of_forall {r : Runtime} : ∀ {es : List (Event Calls)}, (∀ e ∈ es, Move r [e] r) → Course r es r
  | [], _ => .rest r
  | e :: _, h => (h e List.mem_cons_self).course.append (course_of_forall fun e he => h e (List.mem_cons_of_mem _ he))

/-! ## Laws of courses -/

theorem Move.eq_ready {d : Display} {b : Bound} {es : List (Event Calls)} {r : Runtime}
    (h : Move (.ready d b) es r) : r = .ready d b := by
  cases h <;> rfl

/-- **A context that is bound stays bound**, with the same handles. -/
theorem Course.eq_ready {d : Display} {b : Bound} {es : List (Event Calls)} {r r' : Runtime} (h : Course r es r')
    (hr : r = .ready d b) : r' = .ready d b := by
  induction h with
  | rest => exact hr
  | step _ m ih =>
    rw [ih] at m
    exact m.eq_ready

/-- **Every call of a course is part of a move**, with a course before it and a course after it. -/
theorem Course.locate {r r' : Runtime} {log : List (Event Calls)} (h : Course r log r') :
    ∀ {before after : List (Event Calls)} {e : Event Calls}, log = before ++ e :: after →
      ∃ r₁ es₁ front back r₂ es₂, Course r es₁ r₁ ∧ Move r₁ (front ++ e :: back) r₂ ∧ Course r₂ es₂ r' ∧
        before = es₁ ++ front ∧ after = back ++ es₂ := by
  induction h with
  | rest =>
    intro before after e hlog
    exact absurd hlog.symm (by simp)
  | @step last next log calls c m ih =>
    intro before after e hlog
    rcases List.append_eq_append_iff.1 hlog with ⟨front, rfl, rfl⟩ | ⟨tail, rfl, htail⟩
    · exact ⟨last, log, front, after, next, [], c, m, .rest next, rfl, (List.append_nil after).symm⟩
    · cases tail with
      | nil =>
        rw [List.nil_append] at htail
        subst htail
        rw [List.append_nil] at c
        exact ⟨last, before, [], after, next, [], c, m, .rest next, (List.append_nil before).symm,
          (List.append_nil after).symm⟩
      | cons x tail =>
        rw [List.cons_append, List.cons.injEq] at htail
        obtain ⟨rfl, rfl⟩ := htail
        obtain ⟨r₁, es₁, front, back, r₂, es₂, c₁, m₁, c₂, hb, rfl⟩ := ih rfl
        exact ⟨r₁, es₁, front, back, r₂, es₂ ++ calls, c₁, m₁, .step c₂ m, hb, List.append_assoc _ _ _⟩

theorem Course.mem {r r' : Runtime} {log : List (Event Calls)} (h : Course r log r') {e : Event Calls}
    (he : e ∈ log) : ∃ r₁ es₁ calls r₂ es₂, Course r es₁ r₁ ∧ Move r₁ calls r₂ ∧ e ∈ calls ∧ Course r₂ es₂ r' := by
  obtain ⟨before, after, hlog⟩ := List.append_of_mem he
  obtain ⟨r₁, es₁, front, back, r₂, es₂, c₁, m, c₂, -, -⟩ := h.locate hlog
  exact ⟨r₁, es₁, _, r₂, es₂, c₁, m, by simp, c₂⟩

/-- **Under a context none is built.** -/
theorem Course.not_builds {d : Display} {b : Bound} {r : Runtime} {log : List (Event Calls)}
    (h : Course (.ready d b) log r) {e : Event Calls} (he : e ∈ log) : e.request.builds = false := by
  obtain ⟨r₁, es₁, calls, r₂, es₂, c, m, hmem, -⟩ := h.mem he
  rw [c.eq_ready rfl] at m
  cases m with
  | activated _ _ current =>
    cases List.mem_singleton.1 hmem
    rfl
  | asked _ _ e' ha =>
    cases List.mem_singleton.1 hmem
    exact ha.not_builds
  | loader _ e' hl =>
    cases List.mem_singleton.1 hmem
    exact hl.not_builds

/-- **A course that ends elsewhere arrived by one last move**, and stayed. -/
theorem Course.arrival {r r' : Runtime} {log : List (Event Calls)} (h : Course r log r') (hne : r ≠ r') :
    ∃ r₁ before calls after, Course r before r₁ ∧ Move r₁ calls r' ∧ r₁ ≠ r' ∧ Course r' after r' ∧
      log = before ++ calls ++ after := by
  induction h with
  | rest => exact absurd rfl hne
  | @step last next log calls c m ih =>
    by_cases hlast : last = next
    · subst hlast
      obtain ⟨r₁, before, calls₁, after, c₁, m₁, hne₁, c₂, rfl⟩ := ih hne
      exact ⟨r₁, before, calls₁, after ++ calls, c₁, m₁, hne₁, .step c₂ m, by rw [List.append_assoc]⟩
    · exact ⟨last, log, calls, [], c, m, hlast, .rest next, (List.append_nil _).symm⟩

/-- **Where there is a context now and was none before, one attempt made it.** -/
theorem Course.exists_creation {r : Runtime} {d : Display} {b : Bound} {log : List (Event Calls)}
    (h : Course r log (.ready d b)) (hr : r ≠ .ready d b) :
    ∃ before api after, log = before ++ creation api d b ++ after ∧ Course r before (.displayBound d) ∧
      Course (.ready d b) after (.ready d b) := by
  obtain ⟨r₁, before, calls, after, c₁, m, hne, c₂, rfl⟩ := h.arrival hr
  cases m with
  | created api => exact ⟨before, api, after, rfl, c₁, c₂⟩
  | _ => exact absurd rfl hne

/-- **Where a display is bound now and none was before, it was opened.** -/
theorem Course.exists_opening {r : Runtime} {d : Display} {log : List (Event Calls)}
    (h : Course r log (.displayBound d)) (hr : r ≠ .displayBound d) :
    ∃ before version after, log = before ++ opening d version ++ after ∧ Course r before .uninitialized ∧
      Course (.displayBound d) after (.displayBound d) := by
  obtain ⟨r₁, before, calls, after, c₁, m, hne, c₂, rfl⟩ := h.arrival hr
  cases m with
  | opened _ version => exact ⟨before, version, after, rfl, c₁, c₂⟩
  | _ => exact absurd rfl hne

end DriverSurvey
