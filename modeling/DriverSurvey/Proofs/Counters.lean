import DriverSurvey.Proofs.Errors
/-!
# Counters — the memory a driver tells of

Which counters of memory are read, and what becomes of them, is decided by the names a driver advertises.  They are
searched one behind the other, a space after each; since no marker has a space in it, that is to search them one by
one (`occursIn_spaced`).  The report is settled for any names and any counters (`memory_of_counters`).
-/
namespace DriverSurvey

open Program

/-! ## Searching names -/

/-- What does not hold a separator stands in front of it or not at the front. -/
theorem prefix_append_cons_iff {α : Type} {marker front back : List α} {mark : α} (h : mark ∉ marker) :
    marker <+: front ++ mark :: back ↔ marker <+: front := by
  refine ⟨fun hmarker => ?_, fun hmarker => hmarker.trans (List.prefix_append front (mark :: back))⟩
  have hmark : front ++ [mark] <+: front ++ mark :: back := ⟨back, by rw [List.append_assoc, List.singleton_append]⟩
  rcases List.prefix_or_prefix_of_prefix hmarker hmark with hshort | hlong
  · rcases List.prefix_concat_iff.1 hshort with rfl | hfront
    · exact absurd (List.mem_append_right front List.mem_cons_self) h
    · exact hfront
  · exact absurd (hlong.subset (List.mem_append_right front List.mem_cons_self)) h

/-- **What does not hold a separator occurs on one side of it.** -/
theorem infix_append_cons_iff {α : Type} {marker back : List α} {mark : α} (h : mark ∉ marker) :
    ∀ front : List α, marker <:+: front ++ mark :: back ↔ marker <:+: front ∨ marker <:+: back
  | [] => by
    rw [List.nil_append, List.infix_cons_iff, List.infix_nil, ← List.prefix_nil]
    exact or_congr_left (@prefix_append_cons_iff α marker [] back mark h)
  | c :: front => by
    have hfront : marker <+: c :: (front ++ mark :: back) ↔ marker <+: c :: front :=
      @prefix_append_cons_iff α marker (c :: front) back mark h
    rw [List.cons_append, List.infix_cons_iff, hfront, infix_append_cons_iff h front, List.infix_cons_iff, or_assoc]

/-- Some name has the marker in it. -/
def Advertises (names : List String) (marker : String) : Prop :=
  ∃ name ∈ names, marker.toList <:+: name.toList

instance (names : List String) (marker : String) : Decidable (Advertises names marker) :=
  inferInstanceAs (Decidable (∃ name ∈ names, marker.toList <:+: name.toList))

/-- **To search names one behind the other is to search them one by one**, for what has no space in it. -/
theorem occursIn_spaced {marker : String} (hspace : ' ' ∉ marker.toList) (hsome : marker.toList ≠ []) :
    ∀ names : List String, marker.toList <:+: (spaced names).toList ↔ Advertises names marker
  | [] => by simp [spaced, Advertises, hsome]
  | name :: rest => by
    rw [toList_spaced_cons, infix_append_cons_iff hspace, occursIn_spaced hspace hsome rest]
    simp [Advertises]

theorem infix_spaced_iff {marker : String} (h : marker = nvxExtension ∨ marker = atiExtension) (names : List String) :
    marker.toList <:+: (spaced names).toList ↔ Advertises names marker := by
  rcases h with rfl | rfl <;> exact occursIn_spaced (by decide) (by decide) names

theorem mentions_iff {marker : String} (h : marker = nvxExtension ∨ marker = atiExtension) (names : List String) :
    mentions names marker = true ↔ Advertises names marker := by
  rw [mentions, occursIn_iff, infix_spaced_iff h]

/-! ## Reports -/

namespace VideoMemory

/-- The memory in all, in use and free, as integers. -/
def reading (memory : VideoMemory) : Int × Int × Int :=
  (memory.total.toNat, memory.used.toNat, memory.free.toNat)

/-- What is in use is what is not free; nothing is beyond a counter; a total of zero says that nothing is known. -/
structure Coherent (memory : VideoMemory) : Prop where
  used : memory.used.toNat = memory.total.toNat - memory.free.toNat
  total_lt : memory.total.toNat < Nat.pow 2 31
  used_lt : memory.used.toNat < Nat.pow 2 31
  free_lt : memory.free.toNat < Nat.pow 2 31
  total_eq_zero : memory.total = 0 ↔ memory = .unknown

theorem coherent_unknown : unknown.Coherent :=
  ⟨rfl, by decide, by decide, by decide, ⟨fun _ => rfl, fun _ => rfl⟩⟩

theorem coherent_of_ne_zero {memory : VideoMemory}
    (hused : memory.used.toNat = memory.total.toNat - memory.free.toNat) (htotal : memory.total.toNat < Nat.pow 2 31)
    (hfree : memory.free.toNat < Nat.pow 2 31) (h : memory.total ≠ 0) : memory.Coherent where
  used := hused
  total_lt := htotal
  used_lt := by omega
  free_lt := hfree
  total_eq_zero := by
    refine ⟨fun hzero => absurd hzero h, fun hunknown => ?_⟩
    rw [hunknown]
    rfl

end VideoMemory

theorem toNat_nonNegative_lt (value : Int32) : (nonNegative value).toNat < Nat.pow 2 31 := by
  have hvalue : value.toInt < 2 ^ 31 := value.toInt_lt
  have hnonNegative := toInt_nonNegative value
  show (nonNegative value).toNat < 2 ^ 31
  omega

theorem nonNegative_ne_zero {value : Int32} (h : 0 < value) : nonNegative value ≠ 0 := by
  intro hzero
  have hpositive : 0 < value.toInt := Int32.lt_iff_toInt_lt.1 h
  have hnonNegative := toInt_nonNegative value
  rw [hzero, UInt32.toNat_zero] at hnonNegative
  omega

theorem reading_nvxMemory {total : Int32} (h : 0 < total) (current : Int32) : (nvxMemory total current).reading =
    (total.toInt, max 0 (total.toInt - max 0 current.toInt), max 0 current.toInt) := by
  have htotal : 0 < total.toInt := Int32.lt_iff_toInt_lt.1 h
  have hnonNegative := toInt_nonNegative total
  have hfree := toInt_nonNegative current
  have hused := toNat_lessOrZero (nonNegative total) (nonNegative current)
  simp only [VideoMemory.reading, nvxMemory, Prod.mk.injEq]
  omega

theorem coherent_nvxMemory {total : Int32} (h : 0 < total) (current : Int32) : (nvxMemory total current).Coherent :=
  VideoMemory.coherent_of_ne_zero (toNat_lessOrZero _ _) (toNat_nonNegative_lt total) (toNat_nonNegative_lt current)
    (nonNegative_ne_zero h)

theorem reading_atiMemory {free : Int32} (h : 0 < free) :
    (atiMemory free).reading = (free.toInt, 0, free.toInt) := by
  have hpositive : 0 < free.toInt := Int32.lt_iff_toInt_lt.1 h
  have hfree := toInt_nonNegative free
  simp only [VideoMemory.reading, atiMemory, Prod.mk.injEq, UInt32.toNat_zero]
  omega

theorem coherent_atiMemory {free : Int32} (h : 0 < free) : (atiMemory free).Coherent :=
  VideoMemory.coherent_of_ne_zero (Nat.sub_self _).symm (toNat_nonNegative_lt free) (toNat_nonNegative_lt free)
    (nonNegative_ne_zero h)

/-- The memory that counters tell of, where the extensions of NVX and of ATI are there to read them. -/
def countedMemory (nvx ati : Prop) [Decidable nvx] [Decidable ati] (total current free : Int32) : VideoMemory :=
  if nvx ∧ 0 < total then nvxMemory total current
  else if ati ∧ 0 < free then atiMemory free
  else .unknown

section
variable {nvx ati : Prop} [Decidable nvx] [Decidable ati]

theorem reading_countedMemory (total current free : Int32) : (countedMemory nvx ati total current free).reading =
    if nvx ∧ 0 < total then (total.toInt, max 0 (total.toInt - max 0 current.toInt), max 0 current.toInt)
    else if ati ∧ 0 < free then (free.toInt, 0, free.toInt)
    else (0, 0, 0) := by
  unfold countedMemory
  by_cases hnvx : nvx ∧ 0 < total
  · rw [if_pos hnvx, if_pos hnvx, reading_nvxMemory hnvx.2]
  · rw [if_neg hnvx, if_neg hnvx]
    by_cases hati : ati ∧ 0 < free
    · rw [if_pos hati, if_pos hati, reading_atiMemory hati.2]
    · rw [if_neg hati, if_neg hati]
      rfl

theorem coherent_countedMemory (total current free : Int32) : (countedMemory nvx ati total current free).Coherent := by
  unfold countedMemory
  by_cases hnvx : nvx ∧ 0 < total
  · rw [if_pos hnvx]
    exact coherent_nvxMemory hnvx.2 current
  · rw [if_neg hnvx]
    by_cases hati : ati ∧ 0 < free
    · rw [if_pos hati]
      exact coherent_atiMemory hati.2
    · rw [if_neg hati]
      exact VideoMemory.coherent_unknown

end

/-! ## Reading counters -/

/-- The counter of memory that a call reads. -/
def Request.counter? : Request → Option UInt32
  | .integers token _ => [Gl.totalMemory, Gl.availableMemory, Gl.freeMemory].find? (· == token)
  | _ => none

def Request.Uncounted (q : Request) : Prop :=
  q.counter? = none

/-- The counters of memory that some calls read, in order. -/
def counters (events : List (Event Calls)) : List UInt32 :=
  events.filterMap fun e => e.request.counter?

theorem counters_append (first last : List (Event Calls)) : counters (first ++ last) = counters first ++ counters last :=
  List.filterMap_append

theorem counters_of_none {events : List (Event Calls)} (h : ∀ e ∈ events, e.request.Uncounted) :
    counters events = [] :=
  List.filterMap_eq_nil_iff.2 h

theorem Request.Acquires.uncounted {q : Request} (h : q.Acquires) : q.Uncounted := by
  rcases h with hbuilds | ⟨display, surface, context, rfl⟩
  · cases q <;> first | rfl | cases hbuilds
  · rfl

theorem readIndexed_counters : ∀ count index : Nat, (readIndexed index count).Only Request.Uncounted
  | 0, _ => trivial
  | count + 1, index => by
    refine (only_ask (by rfl)).bind fun name? => ?_
    cases name? with
    | none => exact readIndexed_counters count (index + 1)
    | some name => exact (readIndexed_counters count (index + 1)).bind fun _ => only_pure _ _

theorem readIndexedExtensions_counters : readIndexedExtensions.Only Request.Uncounted := by
  have hcount : (readInteger Gl.extensionCount).Only Request.Uncounted :=
    ((only_ask (by rfl)).bind fun _ => only_pure _ _).bind fun _ => only_pure _ _
  refine hcount.bind fun _ => (only_ask (by rfl)).bind fun found => ?_
  cases found with
  | false => exact only_pure _ _
  | true => exact readIndexed_counters _ _

theorem readExtensions_counters : readExtensions.Only Request.Uncounted := by
  refine (only_ask (by rfl)).bind fun raw? => ?_
  cases raw? with
  | none => exact readIndexedExtensions_counters
  | some raw =>
    dsimp only
    split
    · exact readIndexedExtensions_counters
    · exact only_pure _ _

variable {loaders : LoaderShelf}

theorem readExtensions_run (active : Active) (d : DriverState) :
    ∃ names codes events, readExtensions.run (DriverState.serve loaders) d = ⟨names, d.leave codes, events⟩ ∧
      counters events = [] := by
  have hsteady : readExtensions.Only (Request.Steady loaders) :=
    (@readExtensions_reads active False).mono fun _ hq => hq.1.steady id
  refine ⟨_, _, _, run_steady hsteady d, ?_⟩
  exact counters_of_none (readExtensions_counters.of_mem (trace_run _ _ _))

theorem readAtiMemory_run (names : List String) (d : DriverState) :
    let free := d.script.integer Gl.freeMemory
    ∃ state events, (readAtiMemory names).run (DriverState.serve loaders) d =
        ⟨if mentions names atiExtension ∧ 0 < free then atiMemory free else .unknown, state, events⟩ ∧
      counters events = if mentions names atiExtension then [Gl.freeMemory] else [] := by
  intro free
  unfold readAtiMemory
  by_cases hati : mentions names atiExtension = true
  · have hfree : (stored ((d.script.values Gl.freeMemory).take 4) [0, 0, 0, 0]).headD 0 = free :=
      d.script.stored_integer Gl.freeMemory [0, 0, 0]
    have hread : (readIntegers Gl.freeMemory [0, 0, 0, 0]).run (DriverState.serve loaders) d =
        ⟨stored ((d.script.values Gl.freeMemory).take 4) [0, 0, 0, 0], d.raise Gl.freeMemory,
          [⟨.integers Gl.freeMemory 4, (d.script.values Gl.freeMemory).take 4⟩]⟩ := rfl
    simp only [hati, ↓reduceIte, true_and, run_bind, hread, hfree]
    by_cases hpositive : 0 < free
    · rw [if_pos hpositive, if_pos hpositive]
      exact ⟨_, _, rfl, rfl⟩
    · rw [if_neg hpositive, if_neg hpositive]
      exact ⟨_, _, rfl, rfl⟩
  · simp only [hati, false_and, Bool.false_eq_true, ↓reduceIte]
    exact ⟨_, _, rfl, rfl⟩

/-- **Counters of NVX are read where the names mention them**, and that of ATI where they do not tell of memory. -/
theorem readMemory_run (names : List String) (d : DriverState) :
    let total := d.script.integer Gl.totalMemory
    let current := d.script.integer Gl.availableMemory
    let free := d.script.integer Gl.freeMemory
    ∃ state events, (readMemory names).run (DriverState.serve loaders) d =
        ⟨countedMemory (mentions names nvxExtension) (mentions names atiExtension) total current free, state,
          events⟩ ∧
      counters events = (if mentions names nvxExtension then [Gl.totalMemory, Gl.availableMemory] else []) ++
        if mentions names atiExtension ∧ ¬(mentions names nvxExtension ∧ 0 < total) then [Gl.freeMemory] else [] := by
  intro total current free
  unfold readMemory countedMemory
  by_cases hnvx : mentions names nvxExtension = true
  · by_cases hpositive : 0 < total
    · have hgt : d.script.integer Gl.totalMemory > 0 := hpositive
      have hboth : mentions names nvxExtension = true ∧ 0 < total := ⟨hnvx, hpositive⟩
      rw [if_pos hboth]
      simp only [hnvx, ↓reduceIte, run_bind, readInteger_run, DriverState.raise, hgt, hpositive, and_self,
        not_true_eq_false, and_false]
      exact ⟨_, _, rfl, rfl⟩
    · have hgt : ¬d.script.integer Gl.totalMemory > 0 := hpositive
      -- the counters of NVX are read, but the report is that of ATI
      obtain ⟨state, events, hrun, hcounters⟩ :=
        @readAtiMemory_run loaders names ((d.raise Gl.totalMemory).raise Gl.availableMemory)
      have hneither : ¬(mentions names nvxExtension = true ∧ 0 < total) := fun h => hpositive h.2
      rw [if_neg hneither]
      simp only [hnvx, ↓reduceIte, run_bind, readInteger_run, hgt, hpositive, and_false, not_false_eq_true, and_true,
        hrun]
      refine ⟨_, _, rfl, ?_⟩
      rw [counters_append, counters_append, hcounters]
      rfl
  · have hneither : ¬(mentions names nvxExtension = true ∧ 0 < total) := fun h => hnvx h.1
    rw [if_neg hneither]
    simp only [hnvx, false_and, Bool.false_eq_true, ↓reduceIte, not_false_eq_true, and_true, List.nil_append]
    exact readAtiMemory_run names d

namespace Session

variable (loaders : LoaderShelf) (libraries : List String)

theorem memory_under_context {session : Session}
    (h : (session.perform (.direct loaders) libraries (.query .active)).answer.isSome) :
    let names := (session.perform (.direct loaders) libraries (.query .extensions)).answer
    let total := session.driver.script.integer Gl.totalMemory
    let current := session.driver.script.integer Gl.availableMemory
    let free := session.driver.script.integer Gl.freeMemory
    let asked := session.perform (.direct loaders) libraries (.query .memory)
    asked.answer = countedMemory (Advertises names nvxExtension) (Advertises names atiExtension) total current free ∧
      counters asked.events = (if Advertises names nvxExtension then [Gl.totalMemory, Gl.availableMemory] else []) ++
        if Advertises names atiExtension ∧ ¬(Advertises names nvxExtension ∧ 0 < total) then [Gl.freeMemory] else [] := by
  obtain ⟨active, version, acquiring, hacquires, hplayed⟩ := query_under_context libraries h
  obtain ⟨names, codes, listing, hnames, hlisting⟩ :=
    @readExtensions_run loaders active { session.driver with chosen := version }
  obtain ⟨state, reading, hmemory, hreading⟩ :=
    @readMemory_run loaders names (DriverState.leave { session.driver with chosen := version } codes)
  rw [hplayed .extensions, hplayed .memory]
  simp only [Query.body, run_bind, hnames, hmemory, counters_append, hlisting, List.nil_append, hreading,
    counters_of_none fun e he => (hacquires e he).uncounted, mentions_iff (.inl rfl), mentions_iff (.inr rfl),
    DriverState.leave_script, and_self]

/-- **The report of memory is that of the counters whose extension some single name advertises**, NVX before ATI, and
unknown where none of them tells of memory.  The counters of NVX are read where NVX is advertised; that of ATI where ATI
is and NVX did not report.  The names are searched one behind the other, which neither makes nor hides a marker.  Every
report, also without a context, is coherent. -/
theorem memory_of_counters (session : Session) :
    let names := (session.perform (.direct loaders) libraries (.query .extensions)).answer
    let total := (session.driver.script.values Gl.totalMemory).headD 0
    let current := (session.driver.script.values Gl.availableMemory).headD 0
    let free := (session.driver.script.values Gl.freeMemory).headD 0
    let asked := session.perform (.direct loaders) libraries (.query .memory)
    ((session.perform (.direct loaders) libraries (.query .active)).answer.isSome →
      asked.answer.reading =
          (if Advertises names nvxExtension ∧ 0 < total then
            (total.toInt, max 0 (total.toInt - max 0 current.toInt), max 0 current.toInt)
          else if Advertises names atiExtension ∧ 0 < free then (free.toInt, 0, free.toInt)
          else (0, 0, 0)) ∧
        counters asked.events = (if Advertises names nvxExtension then [Gl.totalMemory, Gl.availableMemory] else []) ++
          if Advertises names atiExtension ∧ ¬(Advertises names nvxExtension ∧ 0 < total) then [Gl.freeMemory]
          else []) ∧
      (∀ marker, marker = nvxExtension ∨ marker = atiExtension → ∀ names : List String,
        marker.toList <:+: (spaced names).toList ↔ Advertises names marker) ∧
      asked.answer.Coherent := by
  intro names total current free asked
  refine ⟨fun hactive => ?_, fun marker hmarker => infix_spaced_iff hmarker, ?_⟩
  · obtain ⟨hanswer, hcounters⟩ := memory_under_context loaders libraries hactive
    refine ⟨?_, hcounters⟩
    rw [show asked.answer = _ from hanswer]
    exact reading_countedMemory total current free
  · by_cases hactive : (session.perform (.direct loaders) libraries (.query .active)).answer.isSome = true
    · obtain ⟨hanswer, -⟩ := memory_under_context loaders libraries hactive
      rw [show asked.answer = _ from hanswer]
      exact coherent_countedMemory total current free
    · have hnone := Option.not_isSome_iff_eq_none.1 hactive
      rw [show asked.answer = _ from query_without_context libraries hnone .memory]
      exact VideoMemory.coherent_unknown

/-- A driver that advertises both extensions in one name with spaces in it, and whose counters of NVX say nothing. -/
def mute : Session :=
  .start { indexed := some [some "GL_NVX_gpu_memory_info of no use GL_ATI_meminfo".toUTF8.toList],
           integers := some [(Gl.totalMemory, [-1]), (Gl.freeMemory, [512, 256])] }

/-- Such a driver is asked for all three counters, and its report is that of ATI. -/
theorem memory_of_mute :
    (mute.perform (.direct fun _ => none) [] (.query .active)).answer.isSome = true ∧
    let asked := mute.perform (.direct fun _ => none) [] (.query .memory)
    asked.answer.reading = (512, 0, 512) ∧
      counters asked.events = [Gl.totalMemory, Gl.availableMemory, Gl.freeMemory] := by
  have hactive : (mute.perform (.direct fun _ => none) [] (.query .active)).answer.isSome = true := by decide +kernel
  have hnames : (mute.perform (.direct fun _ => none) [] (.query .extensions)).answer =
      ["GL_NVX_gpu_memory_info of no use GL_ATI_meminfo"] := by decide +kernel
  have hnvx : Advertises ["GL_NVX_gpu_memory_info of no use GL_ATI_meminfo"] nvxExtension := by decide +kernel
  have hati : Advertises ["GL_NVX_gpu_memory_info of no use GL_ATI_meminfo"] atiExtension := by decide +kernel
  obtain ⟨hreport, -⟩ := memory_of_counters (fun _ => none) [] mute
  obtain ⟨hreading, hcounters⟩ := hreport hactive
  simp only [hnames, hnvx, hati] at hreading hcounters
  exact ⟨hactive, hreading, hcounters⟩

end Session
end DriverSurvey
