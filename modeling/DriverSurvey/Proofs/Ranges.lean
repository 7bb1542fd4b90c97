import DriverSurvey.Toml.Document
/-!
# Ranges — every integer of a document fits sixty-four bits

A number is refused where it does not fit, and nothing that is done to a table makes a number of its own.  So whatever
a document holds, at any depth, is `Sized` (`parse_sized`).
-/
namespace DriverSurvey
namespace Toml

/-- Every integer in the value fits sixty-four bits with a sign. -/
inductive Value.Sized : Value → Prop where
  | text (text : String) : Sized (.text text)
  | integer {n : Int} (low : -(Nat.pow 2 63 : Int) ≤ n) (high : n < (Nat.pow 2 63 : Int)) : Sized (.integer n)
  | float : Sized .float
  | boolean (b : Bool) : Sized (.boolean b)
  | instant : Sized .instant
  | array {items : List Value} (h : ∀ item ∈ items, item.Sized) : Sized (.array items)
  | table {origin : Origin} {members : Members} (h : ∀ member ∈ members, member.2.Sized) :
    Sized (.table origin members)
  | tables {items : List Members} (h : ∀ members ∈ items, ∀ member ∈ members, member.2.Sized) : Sized (.tables items)

/-- Every value of the table is sized. -/
def AllSized (members : Members) : Prop :=
  ∀ member ∈ members, member.2.Sized

theorem Value.Sized.members {origin : Origin} {members : Members} (h : (Value.table origin members).Sized) :
    AllSized members := by
  cases h with
  | table h => exact h

theorem Value.Sized.items {items : List Members} (h : (Value.tables items).Sized) :
    ∀ members ∈ items, AllSized members := by
  cases h with
  | tables h => exact h

theorem sized_concat {items : List Members} {last : Members} (h : ∀ members ∈ items, AllSized members)
    (hlast : AllSized last) : (Value.tables (items ++ [last])).Sized := by
  refine .tables fun members hmembers => ?_
  rcases List.mem_append.1 hmembers with hmembers | hmembers
  · exact h members hmembers
  · rw [List.mem_singleton.1 hmembers]
    exact hlast

/-! ## Tables -/

theorem allSized_nil : AllSized [] :=
  fun _ h => absurd h List.not_mem_nil

theorem AllSized.append {members : Members} (h : AllSized members) {key : String} {value : Value}
    (hvalue : value.Sized) : AllSized (members ++ [(key, value)]) := by
  intro member hmember
  rcases List.mem_append.1 hmember with hmember | hmember
  · exact h member hmember
  · rw [List.mem_singleton.1 hmember]
    exact hvalue

theorem AllSized.lookup {members : Members} (h : AllSized members) {key : String} {value : Value}
    (hlookup : members.lookup key = some value) : value.Sized := by
  obtain ⟨before, after, rfl, -⟩ := List.lookup_eq_some_iff.1 hlookup
  exact h (key, value) (by simp)

theorem AllSized.replace {key : String} {value : Value} (hvalue : value.Sized) : ∀ {members : Members},
    AllSized members → AllSized (replaceMember key value members)
  | [], h => h
  | first :: rest, h => by
    have hrest : AllSized rest := fun member hmember => h member (List.mem_cons_of_mem _ hmember)
    rw [replaceMember]
    split
    · rintro member (_ | ⟨_, hmember⟩)
      · exact hvalue
      · exact hrest member hmember
    · rintro member (_ | ⟨_, hmember⟩)
      · exact h first List.mem_cons_self
      · exact hrest.replace hvalue member hmember

theorem AllSized.erase {members : Members} (h : AllSized members) (key : String) : AllSized (eraseMember key members) :=
  fun member hmember => h member (List.mem_filter.1 hmember).1

theorem AllSized.insert {members after : Members} (h : AllSized members) {key : String} {value : Value}
    (hvalue : value.Sized) (hinsert : insertMember key value members = some after) : AllSized after := by
  unfold insertMember at hinsert
  split at hinsert
  · cases hinsert
    exact h.append hvalue
  · cases hinsert

/-- The change turns sized tables into sized ones, with a result that satisfies `post`. -/
def Sizes {α : Type} (post : α → Prop) (change : Origin → Members → Option (α × Members)) : Prop :=
  ∀ origin members result after, AllSized members → change origin members = some (result, after) →
    post result ∧ AllSized after

/-- **A change along a path keeps what a change of one table keeps.** -/
theorem alter_sized {α : Type} {post : α → Prop} {fresh : Origin}
    {change : Origin → Members → Option (α × Members)} (hchange : Sizes post change) :
    ∀ path : List String, Sizes post (alter fresh change path)
  | [], origin, members, result, after, hmembers, halter => hchange origin members result after hmembers halter
  | key :: rest, origin, members, result, after, hmembers, halter => by
    have hrest := @alter_sized α post fresh change hchange rest
    rw [alter] at halter
    split at halter
    next =>
      obtain ⟨⟨_, inner⟩, hinner, h⟩ := Option.map_eq_some_iff.1 halter
      cases h
      obtain ⟨hresult, hsized⟩ := hrest _ _ _ _ allSized_nil hinner
      exact ⟨hresult, hmembers.append (.table hsized)⟩
    next own inner hlookup =>
      split at halter
      · cases halter
      · obtain ⟨⟨_, inner'⟩, hinner, h⟩ := Option.map_eq_some_iff.1 halter
        cases h
        obtain ⟨hresult, hsized⟩ := hrest _ _ _ _ (hmembers.lookup hlookup).members hinner
        exact ⟨hresult, hmembers.replace (.table hsized)⟩
    next items hlookup =>
      split at halter
      next => cases halter
      next last hlast =>
        obtain ⟨⟨_, inner'⟩, hinner, h⟩ := Option.map_eq_some_iff.1 halter
        cases h
        have hitems := (hmembers.lookup hlookup).items
        obtain ⟨hresult, hsized⟩ := hrest _ _ _ _ (hitems last (List.mem_of_getLast? hlast)) hinner
        have hfront : ∀ table ∈ items.dropLast, AllSized table := fun table htable =>
          hitems table (List.dropLast_subset items htable)
        exact ⟨hresult, hmembers.replace (sized_concat hfront hsized)⟩
    next => cases halter

theorem AllSized.assign {members after : Members} (h : AllSized members) {fresh here : Origin} {path : List String}
    {key : String} {value : Value} (hvalue : value.Sized)
    (hassign : assign fresh here path key value members = some after) : AllSized after := by
  obtain ⟨⟨_, _⟩, halter, hafter⟩ := Option.map_eq_some_iff.1 hassign
  cases hafter
  refine (@alter_sized Unit (fun _ => True) fresh _ ?_ path here members _ _ h halter).2
  intro origin inner result inner' hinner hchange
  dsimp only at hchange
  split at hchange
  · cases hchange
  · obtain ⟨_, hinsert, h⟩ := Option.map_eq_some_iff.1 hchange
    cases h
    exact ⟨trivial, hinner.insert hvalue hinsert⟩

/-! ## Values -/

theorem markedInteger_sized {base : Nat} {text rest : List Char} {n : Int}
    (h : (markedInteger base text).map (fun (n, rest) => (some n, rest)) = some (some n, rest)) :
    (Value.integer n).Sized := by
  obtain ⟨⟨m, behind⟩, hmarked, h⟩ := Option.map_eq_some_iff.1 h
  cases h
  obtain ⟨⟨digits, behind⟩, -, hdigits⟩ := Option.bind_eq_some_iff.1 hmarked
  obtain ⟨hsmall, h⟩ := Option.ite_none_right_eq_some.1 hdigits
  cases h
  exact .integer (by omega) (Int.ofNat_lt.2 hsmall)

theorem signedInteger?_sized {negative : Bool} {digits : List Char} {n : Int}
    (h : signedInteger? negative digits = some n) : (Value.integer n).Sized := by
  obtain ⟨hbounds, hn⟩ := Option.ite_none_right_eq_some.1 h
  rw [Option.some.inj hn, Bool.and_eq_true, decide_eq_true_eq, decide_eq_true_eq] at hbounds
  exact .integer hbounds.1 hbounds.2

theorem number_sized {text rest : List Char} {n : Int} (h : number text = some (some n, rest)) :
    (Value.integer n).Sized := by
  unfold number at h
  split at h
  · exact markedInteger_sized h
  · exact markedInteger_sized h
  · exact markedInteger_sized h
  · generalize sign text = signed at h
    obtain ⟨negative, unsigned⟩ := signed
    dsimp only at h
    split at h
    · cases h
    · cases h
    · obtain ⟨⟨whole, behind⟩, -, h⟩ := Option.bind_eq_some_iff.1 h
      obtain ⟨⟨⟨isFloat, fraction, exponent⟩, behind⟩, -, h⟩ := Option.bind_eq_some_iff.1 h
      dsimp only at h
      split at h
      · split at h <;> cases h
      · obtain ⟨m, hm, h⟩ := Option.map_eq_some_iff.1 h
        cases h
        exact signedInteger?_sized hm

/-- What is read in so many steps is sized; the members of a table in braces are where those read before are. -/
structure ReadsSized (steps : Nat) : Prop where
  value : ∀ {depth text read rest}, value steps depth text = some (read, rest) → read.Sized
  items : ∀ {depth text read rest}, items steps depth text = some (read, rest) → ∀ item ∈ read, item.Sized
  members : ∀ {depth text before after rest}, AllSized before → members steps depth text before = some (after, rest) →
    AllSized after

theorem ReadsSized.value_succ {steps : Nat} (ih : ReadsSized steps) {depth : Nat} {text rest : List Char} {read : Value}
    (h : Toml.value (steps + 1) depth text = some (read, rest)) : read.Sized := by
  unfold Toml.value at h
  split at h
  next => cases h
  next c behind =>
    split at h
    · obtain ⟨⟨s, _⟩, -, h⟩ := Option.map_eq_some_iff.1 h
      cases h
      exact .text s
    split at h
    · split at h
      · cases h
      · obtain ⟨⟨read, _⟩, hitems, h⟩ := Option.map_eq_some_iff.1 h
        cases h
        exact .array (ih.items hitems)
    split at h
    · split at h
      · cases h
      · split at h
        · cases h
          exact .table allSized_nil
        · obtain ⟨⟨read, _⟩, hmembers, h⟩ := Option.map_eq_some_iff.1 h
          cases h
          exact .table (ih.members allSized_nil hmembers)
    split at h
    · split at h
      · cases h
        exact .instant
      · cases h
      · obtain ⟨⟨n?, _⟩, hnumber, h⟩ := Option.map_eq_some_iff.1 h
        cases h
        cases n? with
        | none => exact .float
        | some n => exact number_sized hnumber
    split at h
    · cases h
      exact .boolean true
    · cases h
      exact .boolean false
    · cases h
      exact .float
    · cases h
      exact .float
    · cases h

theorem ReadsSized.items_succ {steps : Nat} (ih : ReadsSized steps) {depth : Nat} {text rest : List Char}
    {read : List Value} (h : Toml.items (steps + 1) depth text = some (read, rest)) : ∀ item ∈ read, item.Sized := by
  unfold Toml.items at h
  split at h
  · cases h
  · cases h
    exact fun _ hitem => absurd hitem List.not_mem_nil
  · obtain ⟨⟨item, behind⟩, hitem, h⟩ := Option.bind_eq_some_iff.1 h
    obtain ⟨behind, -, h⟩ := Option.bind_eq_some_iff.1 h
    dsimp only at h
    split at h
    · obtain ⟨⟨more, _⟩, hmore, h⟩ := Option.map_eq_some_iff.1 h
      cases h
      exact List.forall_mem_cons.2 ⟨ih.value hitem, ih.items hmore⟩
    · cases h
      exact List.forall_mem_singleton.2 (ih.value hitem)
    · cases h

theorem ReadsSized.members_succ {steps : Nat} (ih : ReadsSized steps) {depth : Nat} {text rest : List Char}
    {before after : Members} (hbefore : AllSized before)
    (h : Toml.members (steps + 1) depth text before = some (after, rest)) : AllSized after := by
  unfold Toml.members at h
  obtain ⟨⟨⟨path, last⟩, behind⟩, -, h⟩ := Option.bind_eq_some_iff.1 h
  dsimp only at h
  split at h
  · obtain ⟨⟨item, behind⟩, hitem, h⟩ := Option.bind_eq_some_iff.1 h
    obtain ⟨table, hassign, h⟩ := Option.bind_eq_some_iff.1 h
    have htable : AllSized table := hbefore.assign (ih.value hitem) hassign
    dsimp only at h
    split at h
    · exact ih.members htable h
    · cases h
      exact htable
    · cases h
  · cases h

/-- **Reading by recursive descent makes sized values.** -/
theorem readsSized : ∀ steps : Nat, ReadsSized steps
  | 0 => by
    constructor
    · intro depth text read rest h
      rw [value] at h
      cases h
    · intro depth text read rest h
      rw [items] at h
      cases h
    · intro depth text before after rest _ h
      rw [members] at h
      cases h
  | steps + 1 => ⟨(readsSized steps).value_succ, (readsSized steps).items_succ, (readsSized steps).members_succ⟩

/-! ## Lines -/

namespace Draft

/-- What is finished of a draft, and the table at hand, are sized. -/
structure Sized (draft : Draft) : Prop where
  root : AllSized draft.root
  current : AllSized draft.current

theorem Sized.settle {draft : Draft} (h : draft.Sized) {settled : Members} (hsettle : draft.settle = some settled) :
    AllSized settled := by
  unfold Draft.settle at hsettle
  split at hsettle
  next =>
    cases hsettle
    exact h.current
  next path last _ =>
    obtain ⟨⟨_, _⟩, halter, hsettled⟩ := Option.map_eq_some_iff.1 hsettle
    cases hsettled
    refine (@alter_sized Unit (fun _ => True) .parent _ ?_ path .header draft.root _ _ h.root halter).2
    intro origin inner result after hinner hplace
    refine ⟨trivial, ?_⟩
    dsimp only at hplace
    split at hplace
    next =>
      cases hplace
      refine hinner.append ?_
      split
      · exact .tables (List.forall_mem_singleton.2 h.current)
      · exact .table h.current
    next items hlookup =>
      obtain ⟨-, hafter⟩ := Option.ite_none_right_eq_some.1 hplace
      cases hafter
      exact hinner.replace (sized_concat (hinner.lookup hlookup).items h.current)
    next =>
      obtain ⟨-, hafter⟩ := Option.ite_none_right_eq_some.1 hplace
      cases hafter
      exact hinner.replace (.table h.current)
    next => cases hplace

theorem Sized.beginTable {draft next : Draft} (h : draft.Sized) {path : List String} {last : String}
    (hbegin : draft.beginTable path last = some next) : next.Sized := by
  obtain ⟨root, hsettle, hbegin⟩ := Option.bind_eq_some_iff.1 hbegin
  obtain ⟨⟨own, rest⟩, halter, hnext⟩ := Option.bind_eq_some_iff.1 hbegin
  cases hnext
  refine And.elim (fun hown hrest => ⟨hrest, hown⟩)
    (@alter_sized Members AllSized .parent _ ?_ path .header root own rest (h.settle hsettle) halter)
  intro origin inner result after hinner htake
  dsimp only at htake
  split at htake
  next =>
    cases htake
    exact ⟨allSized_nil, hinner⟩
  next own hlookup =>
    cases htake
    exact ⟨(hinner.lookup hlookup).members, hinner.erase last⟩
  next => cases htake

theorem Sized.beginItem {draft next : Draft} (h : draft.Sized) {path : List String} {last : String}
    (hbegin : draft.beginItem path last = some next) : next.Sized := by
  obtain ⟨root, hsettle, hbegin⟩ := Option.bind_eq_some_iff.1 hbegin
  obtain ⟨⟨_, rest⟩, halter, hnext⟩ := Option.bind_eq_some_iff.1 hbegin
  cases hnext
  refine ⟨(@alter_sized Unit (fun _ => True) .parent _ ?_ path .header root _ rest (h.settle hsettle) halter).2,
    allSized_nil⟩
  intro origin inner result after hinner hlook
  refine ⟨trivial, ?_⟩
  dsimp only at hlook
  split at hlook
  next =>
    cases hlook
    exact hinner.append (.tables fun _ hmembers => absurd hmembers List.not_mem_nil)
  next =>
    cases hlook
    exact hinner
  next => cases hlook

theorem Sized.enterKey {draft next : Draft} (h : draft.Sized) {path : List String} {last : String} {item : Value}
    (hitem : item.Sized) (henter : draft.enterKey path last item = some next) : next.Sized := by
  obtain ⟨current, hassign, hnext⟩ := Option.map_eq_some_iff.1 henter
  cases hnext
  exact ⟨h.root, h.current.assign hitem hassign⟩

theorem Sized.line {draft next : Draft} (h : draft.Sized) {text rest : List Char}
    (hline : draft.line text = some (next, rest)) : next.Sized := by
  unfold Draft.line at hline
  split at hline
  · obtain ⟨⟨⟨path, last⟩, behind⟩, -, hline⟩ := Option.bind_eq_some_iff.1 hline
    dsimp only at hline
    split at hline
    · obtain ⟨_, hbegin, hline⟩ := Option.bind_eq_some_iff.1 hline
      obtain ⟨_, -, hline⟩ := Option.bind_eq_some_iff.1 hline
      cases hline
      exact h.beginItem hbegin
    · cases hline
  · obtain ⟨⟨⟨path, last⟩, behind⟩, -, hline⟩ := Option.bind_eq_some_iff.1 hline
    dsimp only at hline
    split at hline
    · obtain ⟨_, hbegin, hline⟩ := Option.bind_eq_some_iff.1 hline
      obtain ⟨_, -, hline⟩ := Option.bind_eq_some_iff.1 hline
      cases hline
      exact h.beginTable hbegin
    · cases hline
  · obtain ⟨⟨⟨path, last⟩, behind⟩, -, hline⟩ := Option.bind_eq_some_iff.1 hline
    dsimp only at hline
    split at hline
    · obtain ⟨⟨item, behind⟩, hitem, hline⟩ := Option.bind_eq_some_iff.1 hline
      obtain ⟨_, henter, hline⟩ := Option.bind_eq_some_iff.1 hline
      obtain ⟨_, -, hline⟩ := Option.bind_eq_some_iff.1 hline
      cases hline
      exact h.enterKey ((readsSized _).value hitem) henter
    · cases hline

theorem Sized.lines : ∀ {limit : Nat} {draft last : Draft} {text : List Char}, draft.Sized →
    Draft.lines limit draft text = some last → last.Sized
  | 0, _, _, _, _, hlines => by cases hlines
  | limit + 1, draft, last, text, h, hlines => by
    rw [Draft.lines] at hlines
    split at hlines
    · cases hlines
      exact h
    · obtain ⟨behind, -, hlines⟩ := Option.bind_eq_some_iff.1 hlines
      exact h.lines hlines
    · exact h.lines hlines
    · obtain ⟨behind, -, hlines⟩ := Option.bind_eq_some_iff.1 hlines
      exact h.lines hlines
    · obtain ⟨⟨next, behind⟩, hline, hlines⟩ := Option.bind_eq_some_iff.1 hlines
      exact (h.line hline).lines hlines

end Draft

/-- **Whatever a document holds is sized.** -/
theorem parse_sized {document : String} {members : Members} (h : parse document = some members) :
    AllSized members := by
  obtain ⟨draft, hlines, hsettle⟩ := Option.bind_eq_some_iff.1 h
  have hempty : ({} : Draft).Sized := ⟨allSized_nil, allSized_nil⟩
  exact (hempty.lines hlines).settle hsettle

end Toml
end DriverSurvey
