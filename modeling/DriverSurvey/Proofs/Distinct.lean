import Mathlib.Data.List.Induction
import DriverSurvey.Proofs.Guard
import DriverSurvey.Proofs.Routing
/-!
# Distinct — the first of every name, and how many of them are kept

Names are gone through once: one that is blank or has come before is dropped (`distinctNames_concat`).  All else follows
by induction from the end of the list.  In a snapshot the limit only cuts off what was found (`takeSnapshot_trim`), and
what was found does not depend on the order of the topics (`extensions_of_order`).
-/
namespace DriverSurvey

open Program

/-! ## One name more -/

/-- **A name is kept unless it is blank or has come before.** -/
theorem distinctNames_concat (names : List String) (name : String) : distinctNames (names ++ [name]) =
    distinctNames names ++ if isBlankText name = true ∨ name ∈ names then [] else [name] := by
  unfold distinctNames
  rw [List.filter_append, List.eraseDups_append]
  by_cases hblank : isBlankText name = true
  · simp [hblank]
  · by_cases hmem : name ∈ names <;> simp [hblank, hmem, List.removeAll, List.eraseDups_cons]

theorem mem_distinctNames {names : List String} {name : String} :
    name ∈ distinctNames names ↔ name ∈ names ∧ isBlankText name = false := by
  rw [distinctNames, List.mem_eraseDups, List.mem_filter, Bool.not_eq_true']

/-- What is left of names when blank ones and repeats are dropped. -/
structure FirstOccurrences (names kept : List String) : Prop where
  nodup : kept.Nodup
  /-- A name is kept if there is a character in it that is not white space. -/
  mem_iff (name : String) : name ∈ kept ↔ name ∈ names ∧ ∃ c ∈ name.toList, isBlank c = false
  sublist : kept.Sublist names
  /-- The names that are kept follow one another as they first came. -/
  ordered : kept.Pairwise fun name other => names.idxOf name < names.idxOf other

theorem nodup_distinctNames (names : List String) : (distinctNames names).Nodup := by
  induction names using List.reverseRecOn with
  | nil => exact List.nodup_nil
  | append_singleton names name ih =>
    rw [distinctNames_concat]
    split
    · rwa [List.append_nil]
    · rename_i hnew
      refine List.nodup_append.2 ⟨ih, List.pairwise_singleton _ _, fun kept hkept last hlast heq => hnew (.inr ?_)⟩
      rw [← List.mem_singleton.1 hlast, ← heq]
      exact (mem_distinctNames.1 hkept).1

theorem sublist_distinctNames (names : List String) : (distinctNames names).Sublist names := by
  induction names using List.reverseRecOn with
  | nil => exact .slnil
  | append_singleton names name ih =>
    rw [distinctNames_concat]
    refine ih.append ?_
    split
    · exact List.nil_sublist _
    · exact .refl _

/-- **Names that are kept come in the order in which they came first.** -/
theorem pairwise_distinctNames (names : List String) :
    (distinctNames names).Pairwise fun name other => names.idxOf name < names.idxOf other := by
  induction names using List.reverseRecOn with
  | nil => exact .nil
  | append_singleton names last ih =>
    have hplace {name : String} (h : name ∈ names) : (names ++ [last]).idxOf name = names.idxOf name := by
      rw [List.idxOf_append, if_pos h]
    have hkept : (distinctNames names).Pairwise
        fun name other => (names ++ [last]).idxOf name < (names ++ [last]).idxOf other := by
      refine ih.imp_of_mem fun hname hother h => ?_
      rwa [hplace (mem_distinctNames.1 hname).1, hplace (mem_distinctNames.1 hother).1]
    rw [distinctNames_concat]
    split
    · rwa [List.append_nil]
    · rename_i hnew
      refine List.pairwise_append.2 ⟨hkept, List.pairwise_singleton _ _, fun name hname other hother => ?_⟩
      obtain ⟨hmem, -⟩ := mem_distinctNames.1 hname
      rw [List.mem_singleton.1 hother, hplace hmem, List.idxOf_append, if_neg fun h => hnew (.inr h)]
      exact Nat.lt_of_lt_of_le (List.idxOf_lt_length_of_mem hmem) (Nat.le_add_left _ _)

theorem firstOccurrences_distinctNames (names : List String) : FirstOccurrences names (distinctNames names) where
  nodup := nodup_distinctNames names
  mem_iff name := by
    rw [mem_distinctNames, ← Bool.not_eq_true, isBlankText_iff]
    simp
  sublist := sublist_distinctNames names
  ordered := pairwise_distinctNames names

/-- **Of names in two parts, the second adds what is not in the first.** -/
theorem distinctNames_append (front back : List String) : distinctNames (front ++ back) =
    distinctNames front ++ (distinctNames back).filter (· ∉ front) := by
  induction back using List.reverseRecOn with
  | nil => rw [List.append_nil]; exact (List.append_nil _).symm
  | append_singleton back name ih =>
    rw [← List.append_assoc, distinctNames_concat, distinctNames_concat, ih, List.filter_append, List.append_assoc]
    by_cases hblank : isBlankText name = true
    · simp [hblank]
    · by_cases hfront : name ∈ front <;> by_cases hback : name ∈ back <;> simp [hblank, hfront, hback]

/-- **What is kept is kept again.** -/
theorem distinctNames_distinctNames (names : List String) :
    distinctNames (distinctNames names) = distinctNames names := by
  induction names using List.reverseRecOn with
  | nil => rfl
  | append_singleton names name ih =>
    rw [distinctNames_concat]
    split
    · rwa [List.append_nil]
    · rename_i hnew
      have hfresh : ¬(isBlankText name = true ∨ name ∈ distinctNames names) :=
        fun h => hnew (h.imp_right fun hkept => (mem_distinctNames.1 hkept).1)
      rw [distinctNames_concat, ih, if_neg hfresh]

/-! ## The limit of a snapshot -/

/-- The snapshot with so many extensions at most. -/
def Snapshot.trim (limit : Nat) (snapshot : Snapshot Timing) : Snapshot Timing :=
  { snapshot with extensions := snapshot.extensions.take limit }

/-- The snapshot lists so many of some names at most, and counts all of them. -/
def Snapshot.Lists (limit : Nat) (kept : List String) (snapshot : Snapshot Timing) : Prop :=
  snapshot.extensions = kept.take limit ∧ snapshot.extensionCount = kept.length

theorem Snapshot.Lists.within {limit limit' : Nat} {kept : List String} {taken taken' : Snapshot Timing}
    (h : taken.Lists limit kept) (h' : taken'.Lists limit' kept) :
    taken.extensionCount = taken'.extensionCount ∧ (limit ≤ limit' → taken.extensions <+: taken'.extensions) := by
  rw [h.1, h.2, h'.1, h'.2]
  exact ⟨rfl, List.take_prefix_take_left⟩

section
variable {limit limit' : Nat} (h : limit ≤ limit') (loaders : List String)
include h

theorem Topic.enter_trim (snapshot : Snapshot Timing) (topic : Topic) (found : topic.step.Answer) :
    topic.enter limit (snapshot.trim limit) found = (topic.enter limit' snapshot found).trim limit := by
  cases topic with
  | extensions =>
    have htake : ((distinctNames found).take limit').take limit = (distinctNames found).take limit := by
      rw [List.take_take, Nat.min_eq_left h]
    simp only [Topic.enter, Snapshot.trim, htake]
  | _ => rfl

theorem probeAll_trim : ∀ (order : List Topic) (snapshot : Snapshot Timing),
    probeAll loaders limit (snapshot.trim limit) order = Snapshot.trim limit <$> probeAll loaders limit' snapshot order
  | [], _ => (map_pure _ _).symm
  | topic :: rest, snapshot => by
    have hrest (found : topic.step.Answer) :
        probeAll loaders limit (topic.enter limit (snapshot.trim limit) found) rest =
          Snapshot.trim limit <$> probeAll loaders limit' (topic.enter limit' snapshot found) rest := by
      rw [Topic.enter_trim h, probeAll_trim rest]
    rw [probeAll, probeAll, Topic.probe_eq, Topic.probe_eq]
    simp only [bind_assoc, pure_bind, map_bind, hrest]

/-- **A lower limit cuts off what a snapshot would hold**, and changes nothing else: nor what is called. -/
theorem takeSnapshot_trim (order : List Topic) :
    takeSnapshot loaders limit order = Snapshot.trim limit <$> takeSnapshot loaders limit' order := by
  have hblank : Snapshot.trim limit (.blank .notRun) = .blank .notRun := by
    simp [Snapshot.trim, Snapshot.blank]
  have hprobed := probeAll_trim h loaders order (.blank .notRun)
  rw [hblank] at hprobed
  simp only [takeSnapshot, hprobed, map_bind, map_pure, bind_map_left]
  rfl

end

namespace Session

/-- **A lower limit makes no difference but to the extensions that a snapshot keeps**, on any machine. -/
theorem perform_trim {limit limit' : Nat} (h : limit ≤ limit') (rig : Rig) (loaders : List String) (order : List Topic)
    (session : Session) : session.perform rig loaders (.snapshot limit order) =
      let performed := session.perform rig loaders (.snapshot limit' order)
      ⟨Snapshot.trim limit performed.answer, performed.after, performed.events⟩ := by
  have hplayed : session.play rig (Snapshot.trim limit <$> takeSnapshot loaders limit' order) = _ :=
    play_bind rig (takeSnapshot loaders limit' order) (fun taken => pure (Snapshot.trim limit taken)) session
  rw [perform_eq_play _ _ rfl, perform_eq_play _ _ rfl, Step.survey, Step.survey, takeSnapshot_trim h, hplayed,
    play_pure]
  exact congrArg (Performed.mk _ _) (List.append_nil _)

theorem extensionCount_of_limit (limit limit' : Nat) (rig : Rig) (loaders : List String) (order : List Topic)
    (session : Session) : (session.perform rig loaders (.snapshot limit order)).answer.extensionCount =
      (session.perform rig loaders (.snapshot limit' order)).answer.extensionCount := by
  rcases Nat.le_total limit limit' with h | h
  · rw [perform_trim h]
    rfl
  · rw [perform_trim h rig loaders order session]
    rfl

theorem extensions_of_limit {limit limit' : Nat} (h : limit ≤ limit') (rig : Rig) (loaders : List String)
    (order : List Topic) (session : Session) :
    (session.perform rig loaders (.snapshot limit order)).answer.extensions <+:
      (session.perform rig loaders (.snapshot limit' order)).answer.extensions := by
  rw [perform_trim h]
  exact List.take_prefix _ _

/-! ## The order of the topics -/

variable (shelf : LoaderShelf) (loaders : List String)

/-- Over the same script, with the same context to be had. -/
def Kindred (session other : Session) : Prop :=
  session.driver.script = other.driver.script ∧
    session.runtime.acquired session.driver.script = other.runtime.acquired other.driver.script

theorem Kindred.trans {first second third : Session} (h : first.Kindred second) (h' : second.Kindred third) :
    first.Kindred third :=
  ⟨h.1.trans h'.1, h.2.trans h'.2⟩

/-- **To probe a topic changes neither the script nor the context to be had.** -/
theorem kindred_step (session : Session) (topic : Topic) :
    (session.perform (.direct shelf) loaders topic.step).after.Kindred session := by
  obtain rfl | ⟨query, hquery⟩ := topic.step_eq_query
  · rw [(perform_passive shelf loaders rfl session).1]
    exact ⟨rfl, rfl⟩
  · generalize topic.step = step at hquery
    subst hquery
    have hscript : (session.perform (.direct shelf) loaders (.query query)).after.driver.script =
        session.driver.script := by
      rw [perform_eq_play _ _ rfl, play_direct]
      exact run_script _ _
    refine ⟨hscript, ?_⟩
    obtain ⟨⟨result, after⟩, version, events, hrun, -, rfl, -⟩ :=
      @acquire_ends shelf session.runtime session.driver
    rw [hscript, perform_query, hrun]
    cases result <;> exact Runtime.acquired_acquired _ _

/-- **The extensions are the same wherever the same context is to be had**, whatever errors are pending. -/
theorem Kindred.extensions {session other : Session} (h : session.Kindred other) :
    (session.perform (.direct shelf) loaders (.query .extensions)).answer =
      (other.perform (.direct shelf) loaders (.query .extensions)).answer := by
  obtain ⟨answer, codes, htold⟩ :=
    @query_told shelf other.driver.script .extensions (other.runtime.acquired other.driver.script)
  have hanswer {asked : Session} (hasked : asked.Kindred other) :
      (asked.perform (.direct shelf) loaders (.query .extensions)).answer = answer := by
    obtain ⟨hscript, hhome⟩ := hasked
    rw [hscript] at hhome
    obtain ⟨state, events, hrun, -⟩ := htold asked.runtime hhome asked.driver hscript nofun
    rw [perform_direct]
    exact congrArg (fun played : Played Calls DriverState (List String × Runtime) => played.value.1) hrun
  rw [hanswer h, hanswer ⟨rfl, rfl⟩]

theorem entered_extensions (other : Session) (limit : Nat) : ∀ (order : List Topic) (session : Session)
    (snapshot : Snapshot Timing), session.Kindred other →
    let kept := distinctNames (other.perform (.direct shelf) loaders (.query .extensions)).answer
    (.extensions ∈ order ∨ snapshot.Lists limit kept) →
      (session.entered shelf loaders limit order snapshot).Lists limit kept
  | [], _, _, _, h => h.resolve_left List.not_mem_nil
  | topic :: rest, session, snapshot, hkindred, h => by
    unfold entered
    refine entered_extensions other limit rest _ _ ((kindred_step shelf loaders session topic).trans hkindred) ?_
    -- from its topic on the names are listed; no other topic enters any
    by_cases htopic : topic = .extensions
    · subst htopic
      have hfound := hkindred.extensions shelf loaders
      exact .inr ⟨congrArg (fun found => (distinctNames found).take limit) hfound,
        congrArg (fun found => (distinctNames found).length) hfound⟩
    · rcases h with hmem | hlists
      · exact .inl (List.mem_of_ne_of_mem (Ne.symm htopic) hmem)
      · cases topic with
        | extensions => exact absurd rfl htopic
        | _ => exact .inr hlists

/-- **A snapshot lists what is kept of the extensions that are found alone**, wherever among the topics they come. -/
theorem extensions_of_order (session : Session) (limit : Nat) {order : List Topic} (h : .extensions ∈ order) :
    (session.perform (.direct shelf) loaders (.snapshot limit order)).answer.Lists limit
      (distinctNames (session.perform (.direct shelf) loaders (.query .extensions)).answer) := by
  rw [perform_snapshot]
  exact entered_extensions shelf loaders session limit order session _ ⟨rfl, rfl⟩ (.inl h)

theorem extensions_mem_selected (settings : SnapshotSettings) : .extensions ∈ Topic.selected settings := by
  rw [Topic.selected, List.mem_filter]
  exact ⟨by decide, by simp⟩

end Session

/-- **Of names, those that are kept are the first occurrences of the ones that are not blank.**  What is kept is kept
again, and of names in two parts the second adds what is not in the first.  So the limit of a snapshot has no part in
how many extensions it counts, and with a lower one it keeps the first of those that it keeps with a higher one: on any
machine with the topics in one order, and over any script whatever the orders. -/
theorem distinct_within_limits (front back : List String) :
    FirstOccurrences front (distinctNames front) ∧
      distinctNames (distinctNames front) = distinctNames front ∧
      distinctNames (front ++ back) = distinctNames front ++ (distinctNames back).filter (· ∉ front) ∧
      (∀ (rig : Rig) (loaders : List String) (session : Session) (order : List Topic) (limit limit' : Nat),
        let taken (limit : Nat) := (session.perform rig loaders (.snapshot limit order)).answer
        (taken limit).extensionCount = (taken limit').extensionCount ∧
          (limit ≤ limit' → (taken limit).extensions <+: (taken limit').extensions)) ∧
      ∀ (shelf : LoaderShelf) (loaders : List String) (session : Session) (settings settings' : SnapshotSettings)
        (order order' : List Topic), order.Perm (Topic.selected settings) → order'.Perm (Topic.selected settings') →
        let taken := (session.perform (.direct shelf) loaders (.snapshot settings.maxExtensions order)).answer
        let taken' := (session.perform (.direct shelf) loaders (.snapshot settings'.maxExtensions order')).answer
        taken.extensionCount = taken'.extensionCount ∧
          (settings.maxExtensions ≤ settings'.maxExtensions → taken.extensions <+: taken'.extensions) := by
  refine ⟨firstOccurrences_distinctNames front, distinctNames_distinctNames front, distinctNames_append front back,
    fun rig loaders session order limit limit' => ?_,
    fun shelf loaders session settings settings' order order' horder horder' => ?_⟩
  · exact ⟨session.extensionCount_of_limit limit limit' rig loaders order,
      fun hlimit => session.extensions_of_limit hlimit rig loaders order⟩
  · have hmem := horder.mem_iff.2 (Session.extensions_mem_selected settings)
    have hmem' := horder'.mem_iff.2 (Session.extensions_mem_selected settings')
    exact (session.extensions_of_order shelf loaders settings.maxExtensions hmem).within
      (session.extensions_of_order shelf loaders settings'.maxExtensions hmem')

/-- Nothing done yet, over a driver with names by index: a repeat, a blank, and one apart from another by a space. -/
def repeating : Session :=
  .start { indexed := some (["GL_B", " ", "GL_A", "GL_B", " GL_A"].map fun name => some name.toUTF8.toList) }

theorem distinct_within_one :
    let settings : SnapshotSettings := { maxExtensions := 1 }
    let order := (Topic.selected settings).reverse
    let taken := (repeating.perform (.direct fun _ => none) [] (.snapshot 1 order)).answer
    let taken' := (repeating.perform (.direct fun _ => none) [] (.snapshot 15 (Topic.selected {}))).answer
    distinctNames ["GL_B", " ", "GL_A", "GL_B", " GL_A"] = ["GL_B", "GL_A", " GL_A"] ∧
      order.Perm (Topic.selected settings) ∧ taken.extensionCount = 3 ∧ taken'.extensionCount = 3 ∧
      taken.extensions = ["GL_B"] ∧ taken.extensions <+: taken'.extensions := by
  intro settings order taken taken'
  have hkept : distinctNames (["GL_B", " "] ++ ["GL_A", "GL_B", " GL_A"]) =
      distinctNames ["GL_B", " "] ++ (distinctNames ["GL_A", "GL_B", " GL_A"]).filter (· ∉ ["GL_B", " "]) :=
    (distinct_within_limits ["GL_B", " "] ["GL_A", "GL_B", " GL_A"]).2.2.1
  have horder : order.Perm (Topic.selected settings) := List.reverse_perm _
  obtain ⟨-, -, -, -, hlimits⟩ := distinct_within_limits [] []
  obtain ⟨hcount, hprefix⟩ :=
    hlimits (fun _ => none) [] repeating settings {} order (Topic.selected {}) horder (.refl _)
  have hcounted : taken'.extensionCount = 3 := by decide +kernel
  exact ⟨hkept.trans (by decide +kernel), horder, hcount.trans hcounted, hcounted, by decide +kernel,
    hprefix (by decide)⟩

end DriverSurvey
