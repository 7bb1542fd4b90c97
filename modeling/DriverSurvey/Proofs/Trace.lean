import DriverSurvey.Program
/-!
# Trace — what a program can do, whatever answers it

`p.Trace events value` says that some replies lead `p` through the calls `events` to `value`.  There is no server in
it, so what holds of every trace holds over every driver, also over one that changes in between (`trace_run`).
`p.Only P` says that `p` makes no call but those that satisfy `P`, and `p.Keeps P post` also how it ends.
-/
namespace DriverSurvey
namespace Program

variable {I J : Interface} {σ α β : Type}

/-- The calls `events`, with the replies in them, take the program to `value`. -/
def Trace : Program I α → List (Event I) → α → Prop
  | .done result, events, value => events = [] ∧ value = result
  | .call request next, events, value =>
    ∃ reply rest, events = ⟨request, reply⟩ :: rest ∧ (next reply).Trace rest value

/-- Every call that the program can make satisfies `P`. -/
def Only (P : I.Request → Prop) : Program I α → Prop
  | .done _ => True
  | .call request next => P request ∧ ∀ reply, (next reply).Only P

/-! ## Traces -/

@[simp] theorem trace_call (q : I.Request) (next : I.Reply q → Program I α) (es : List (Event I)) (b : α) :
    (Program.call q next).Trace es b ↔ ∃ r rest, es = ⟨q, r⟩ :: rest ∧ (next r).Trace rest b := Iff.rfl

/-- **The traces of a sequence are the traces of its parts**, one behind the other. -/
theorem trace_bind (f : α → Program I β) : ∀ (p : Program I α) (es : List (Event I)) (b : β),
    (p >>= f).Trace es b ↔ ∃ es₁ a es₂, p.Trace es₁ a ∧ (f a).Trace es₂ b ∧ es = es₁ ++ es₂
  | .done v, es, b => by
    rw [done_bind]
    constructor
    · intro h
      exact ⟨[], v, es, ⟨rfl, rfl⟩, h, rfl⟩
    · rintro ⟨_, _, es₂, ⟨rfl, rfl⟩, h, rfl⟩
      exact h
  | .call q next, es, b => by
    rw [call_bind, trace_call]
    constructor
    · rintro ⟨r, rest, rfl, h⟩
      obtain ⟨es₁, a, es₂, h₁, h₂, rfl⟩ := (trace_bind f (next r) rest b).1 h
      exact ⟨⟨q, r⟩ :: es₁, a, es₂, ⟨r, es₁, rfl, h₁⟩, h₂, rfl⟩
    · rintro ⟨_, a, es₂, ⟨r, es₁, rfl, h₁⟩, h₂, rfl⟩
      exact ⟨r, es₁ ++ es₂, rfl, (trace_bind f (next r) (es₁ ++ es₂) b).2 ⟨es₁, a, es₂, h₁, h₂, rfl⟩⟩

/-- **Every run is a trace**, whatever the server. -/
theorem trace_run (serve : Server I σ) : ∀ (p : Program I α) (s : σ),
    p.Trace (p.run serve s).events (p.run serve s).value
  | .done _, _ => ⟨rfl, rfl⟩
  | .call q next, s => ⟨(serve q s).1, _, rfl, trace_run serve (next (serve q s).1) (serve q s).2⟩

/-! ## Calls that can be made -/

@[simp] theorem only_pure (P : I.Request → Prop) (a : α) : (pure a : Program I α).Only P := trivial

theorem Only.bind {P : I.Request → Prop} {f : α → Program I β} : ∀ {p : Program I α},
    p.Only P → (∀ a, (f a).Only P) → (p >>= f).Only P
  | .done v, _, hf => hf v
  | .call _ _, hp, hf => ⟨hp.1, fun r => Only.bind (hp.2 r) hf⟩

theorem Only.mono {P Q : I.Request → Prop} (h : ∀ q, P q → Q q) : ∀ {p : Program I α}, p.Only P → p.Only Q
  | .done _, _ => trivial
  | .call q _, hp => ⟨h q hp.1, fun r => Only.mono h (hp.2 r)⟩

theorem Only.of_mem {P : I.Request → Prop} : ∀ {p : Program I α} {es : List (Event I)} {a : α},
    p.Only P → p.Trace es a → ∀ e ∈ es, P e.request
  | .done _, _, _, _, ⟨rfl, _⟩, e, he => absurd he List.not_mem_nil
  | .call _ _, _, _, hp, ⟨r, rest, rfl, ht⟩, e, he => by
    rcases List.mem_cons.1 he with rfl | he
    · exact hp.1
    · exact Only.of_mem (hp.2 r) ht e he

theorem Only.via {P : I.Request → Prop} {Q : J.Request → Prop} {route : Route I J} (h : ∀ q, P q → (route q).Only Q) :
    ∀ {p : Program I α}, p.Only P → (p.via route).Only Q
  | .done _, _ => trivial
  | .call q _, hp => (h q hp.1).bind fun r => Only.via h (hp.2 r)

/-- Every call that the program can make satisfies `P`, and every value that it can end in satisfies `post`. -/
def Keeps (P : I.Request → Prop) (post : α → Prop) : Program I α → Prop
  | .done value => post value
  | .call request next => P request ∧ ∀ reply, (next reply).Keeps P post

theorem Only.keeps {P : I.Request → Prop} : ∀ {p : Program I α}, p.Only P → p.Keeps P fun _ => True
  | .done _, _ => trivial
  | .call _ _, hp => ⟨hp.1, fun r => (hp.2 r).keeps⟩

theorem Keeps.bind {P : I.Request → Prop} {mid : α → Prop} {post : β → Prop} {f : α → Program I β} :
    ∀ {p : Program I α}, p.Keeps P mid → (∀ a, mid a → (f a).Keeps P post) → (p >>= f).Keeps P post
  | .done v, hp, hf => hf v hp
  | .call _ _, hp, hf => ⟨hp.1, fun r => Keeps.bind (hp.2 r) hf⟩

theorem Keeps.via {P : I.Request → Prop} {Q : J.Request → Prop} {post : α → Prop} {route : Route I J}
    (h : ∀ q, P q → (route q).Only Q) : ∀ {p : Program I α}, p.Keeps P post → (p.via route).Keeps Q post
  | .done _, hp => hp
  | .call q _, hp => (h q hp.1).keeps.bind fun r _ => Keeps.via h (hp.2 r)

theorem Keeps.run {P : I.Request → Prop} {post : α → Prop} (serve : Server I σ) : ∀ {p : Program I α},
    p.Keeps P post → ∀ s, post (p.run serve s).value ∧ ∀ e ∈ (p.run serve s).events, P e.request
  | .done _, hp, _ => ⟨hp, fun _ he => absurd he List.not_mem_nil⟩
  | .call q next, hp, s => by
    obtain ⟨hpost, hrest⟩ := Keeps.run serve (hp.2 (serve q s).1) (serve q s).2
    exact ⟨hpost, List.forall_mem_cons.2 ⟨hp.1, hrest⟩⟩

/-- **What no call of a program undoes, its run does not undo.** -/
theorem run_kept {serve : Server I σ} {R : σ → σ → Prop} (hrefl : ∀ s, R s s)
    (htrans : ∀ {s t u}, R s t → R t u → R s u) : ∀ {p : Program I α}, (p.Only fun q => ∀ s, R s (serve q s).2) →
      ∀ s, R s (p.run serve s).state
  | .done _, _, s => hrefl s
  | .call q _, h, s => htrans (h.1 s) (run_kept hrefl htrans (h.2 (serve q s).1) (serve q s).2)

theorem run_still {serve : Server I σ} {p : Program I α} (h : p.Only fun q => ∀ s, (serve q s).2 = s) (s : σ) :
    (p.run serve s).state = s :=
  run_kept (R := fun s t => t = s) (fun _ => rfl) (fun hst htu => htu.trans hst) h s

theorem run_regardless {serve : Server I σ} : ∀ {p : Program I α},
    (p.Only fun q => ∀ s t, (serve q s).1 = (serve q t).1) → ∀ s t,
      (p.run serve s).value = (p.run serve t).value ∧ (p.run serve s).events = (p.run serve t).events
  | .done _, _, _, _ => ⟨rfl, rfl⟩
  | .call q next, h, s, t => by
    obtain ⟨hvalue, hevents⟩ := run_regardless (h.2 (serve q t).1) (serve q s).2 (serve q t).2
    simp only [run]
    rw [h.1 s t, hvalue, hevents]
    exact ⟨rfl, rfl⟩

/-- **Two servers that reply alike to all that a program calls are not told apart by it.** -/
theorem Only.run_eq {τ : Type} {P : I.Request → Prop} {R : σ → τ → Prop} {serve : Server I σ} {serve' : Server I τ}
    (h : ∀ q, P q → ∀ s t, R s t → (serve q s).1 = (serve' q t).1 ∧ R (serve q s).2 (serve' q t).2) :
    ∀ {p : Program I α}, p.Only P → ∀ {s : σ} {t : τ}, R s t →
      (p.run serve s).value = (p.run serve' t).value ∧ R (p.run serve s).state (p.run serve' t).state
  | .done _, _, _, _, hst => ⟨rfl, hst⟩
  | .call q next, hp, s, t, hst => by
    obtain ⟨hreply, hstate⟩ := h q hp.1 s t hst
    have hrest := Only.run_eq h (hp.2 (serve q s).1) hstate
    simp only [run]
    rw [← hreply]
    exact hrest

/-! ## Replies that do not matter -/

/-- What the program does after a call that satisfies `P` does not depend on the reply. -/
def Heedless (P : I.Request → Prop) : Program I α → Prop
  | .done _ => True
  | .call request next => (P request → ∀ reply reply', next reply = next reply') ∧ ∀ reply, (next reply).Heedless P

theorem heedless_pure (P : I.Request → Prop) (a : α) : (pure a : Program I α).Heedless P := trivial

theorem heedless_send {P : I.Request → Prop} {q : I.Request} (h : ¬P q) : (send q).Heedless P :=
  ⟨fun hq => absurd hq h, fun _ => trivial⟩

/-- A reply that is not looked at does not matter. -/
theorem heedless_send_then {P : I.Request → Prop} {p : Program I α} (q : I.Request) (hp : p.Heedless P) :
    (send q >>= fun _ => p).Heedless P :=
  ⟨fun _ _ _ => rfl, fun _ => hp⟩

theorem Heedless.bind {P : I.Request → Prop} {f : α → Program I β} : ∀ {p : Program I α},
    p.Heedless P → (∀ a, (f a).Heedless P) → (p >>= f).Heedless P
  | .done v, _, hf => hf v
  | .call _ next, hp, hf => by
    refine ⟨fun hq r r' => ?_, fun r => Heedless.bind (hp.2 r) hf⟩
    show next r >>= f = next r' >>= f
    rw [hp.1 hq r r']

/-- **Two servers that differ in such replies only are told apart by nothing that comes of the program**: it makes
the same calls and ends in the same value. -/
theorem Heedless.run_eq {τ : Type} {P : I.Request → Prop} {R : σ → τ → Prop} {serve : Server I σ}
    {serve' : Server I τ} (h : ∀ q s t, R s t →
      R (serve q s).2 (serve' q t).2 ∧ (¬P q → (serve q s).1 = (serve' q t).1)) :
    ∀ {p : Program I α}, p.Heedless P → ∀ {s : σ} {t : τ}, R s t →
      (p.run serve s).value = (p.run serve' t).value ∧ R (p.run serve s).state (p.run serve' t).state ∧
        (p.run serve s).events.map (·.request) = (p.run serve' t).events.map (·.request)
  | .done _, _, _, _, hst => ⟨rfl, hst, rfl⟩
  | .call q next, hp, s, t, hst => by
    obtain ⟨hstate, hreply⟩ := h q s t hst
    have hnext : next (serve q s).1 = next (serve' q t).1 := by
      by_cases hq : P q
      · exact hp.1 hq _ _
      · rw [hreply hq]
    obtain ⟨hvalue, hend, hcalls⟩ := Heedless.run_eq h (hp.2 (serve q s).1) hstate
    simp only [run, List.map_cons]
    rw [← hnext, hcalls]
    exact ⟨hvalue, hend, rfl⟩

/-! ## Runs through a route -/

theorem via_bind (route : Route I J) (f : α → Program I β) : ∀ p : Program I α,
    (p >>= f).via route = p.via route >>= fun a => (f a).via route
  | .done _ => rfl
  | .call q next => by
    have hnext : (fun reply => (next reply >>= f).via route) =
        fun reply => (next reply).via route >>= fun a => (f a).via route :=
      funext fun reply => via_bind route f (next reply)
    rw [call_bind, via, hnext, via]
    exact (bind_bind _ _ _).symm

/-- The server that answers a call by playing what it is routed to. -/
def served (route : Route I J) (serve : Server J σ) : Server I σ := fun request state =>
  let played := (route request).run serve state
  (played.value, played.state)

/-- **A program through a route ends as the program over what serves through the route.** -/
theorem run_via (route : Route I J) (serve : Server J σ) : ∀ (p : Program I α) (s : σ),
    ((p.via route).run serve s).value = (p.run (served route serve) s).value ∧
      ((p.via route).run serve s).state = (p.run (served route serve) s).state
  | .done _, _ => ⟨rfl, rfl⟩
  | .call q next, s => by
    have hplayed : ((Program.call q next).via route).run serve s = _ :=
      run_bind serve (fun reply => (next reply).via route) (route q) s
    rw [hplayed]
    exact run_via route serve (next ((route q).run serve s).value) ((route q).run serve s).state

/-- **A trace through a route is a trace of the program**, each call in it replaced by a trace of what it is routed
to. -/
theorem trace_via (route : Route I J) : ∀ (p : Program I α) (es : List (Event J)) (a : α),
    (p.via route).Trace es a → ∃ log : List (Event I × List (Event J)), p.Trace (log.map Prod.fst) a ∧
      es = log.flatMap Prod.snd ∧ ∀ played ∈ log, (route played.1.request).Trace played.2 played.1.reply
  | .done _, es, _, h => ⟨[], ⟨rfl, h.2⟩, h.1, fun _ hmem => absurd hmem List.not_mem_nil⟩
  | .call q next, es, a, h => by
    obtain ⟨es₁, reply, es₂, h₁, h₂, rfl⟩ := (trace_bind (fun reply => (next reply).via route) (route q) es a).1 h
    obtain ⟨log, hlog, rfl, hroute⟩ := trace_via route (next reply) es₂ a h₂
    refine ⟨(⟨q, reply⟩, es₁) :: log, ⟨reply, _, rfl, hlog⟩, rfl, fun played hmem => ?_⟩
    rcases List.mem_cons.1 hmem with rfl | hmem
    · exact h₁
    · exact hroute played hmem

/-- Where a call is always made out of the same calls, they follow one another as the calls they are made for. -/
theorem requests_via {route : Route I J} {serve : Server J σ} {wires : I.Request → List J.Request}
    (h : ∀ q s, ((route q).run serve s).events.map (·.request) = wires q) : ∀ (p : Program I α) (s : σ),
      ((p.via route).run serve s).events.map (·.request) =
        ((p.run (served route serve) s).events.map (·.request)).flatMap wires
  | .done _, _ => rfl
  | .call q next, s => by
    have hplayed : ((Program.call q next).via route).run serve s = _ :=
      run_bind serve (fun reply => (next reply).via route) (route q) s
    rw [hplayed, List.map_append, h, requests_via h, run, List.map_cons, List.flatMap_cons]
    rfl

end Program
end DriverSurvey
