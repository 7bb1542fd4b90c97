/-!
# Program — computations that call out

What a survey asks of a driver is data: a `Program` is either done or one call with a continuation for every reply.
The same program is then read in several ways.  `run` plays it against a server and keeps the log of calls with their
replies; `via` replaces each call by a program over another interface, which is how a layer of calls is implemented by
the layer below it.
-/
namespace DriverSurvey

/-- The calls that can be made, and the replies each of them admits. -/
structure Interface where
  Request : Type
  Reply : Request → Type

/-- A computation that ends in an `α` after finitely many calls of `I`. -/
inductive Program (I : Interface) (α : Type) : Type where
  | done (value : α)
  | call (request : I.Request) (next : I.Reply request → Program I α)

/-- One call that was made, with the reply it got. -/
structure Event (I : Interface) where
  request : I.Request
  reply : I.Reply request

/-- What answers the calls of `I`, from a state `σ` of its own. -/
abbrev Server (I : Interface) (σ : Type) : Type :=
  (request : I.Request) → σ → I.Reply request × σ

/-- How each call of `I` is made out of calls of `J`. -/
abbrev Route (I J : Interface) : Type :=
  (request : I.Request) → Program J (I.Reply request)

/-- The outcome of playing a program against a server: its value, the server's state after it, and the calls in the
order in which they were made. -/
structure Played (I : Interface) (σ α : Type) where
  value : α
  state : σ
  events : List (Event I)

namespace Program

variable {I J : Interface} {σ α β : Type}

/-- Go on with `f` where the program is done. -/
def bind : Program I α → (α → Program I β) → Program I β
  | .done value, f => f value
  | .call request next, f => .call request (fun reply => (next reply).bind f)

instance : Monad (Program I) where
  pure := .done
  bind := Program.bind

/-- The program that makes one call and returns its reply. -/
def send (request : I.Request) : Program I (I.Reply request) :=
  .call request .done

/-- Play a program against a server. -/
def run (serve : Server I σ) : Program I α → σ → Played I σ α
  | .done value, state => ⟨value, state, []⟩
  | .call request next, state =>
    let answered := serve request state
    let rest := (next answered.1).run serve answered.2
    ⟨rest.value, rest.state, ⟨request, answered.1⟩ :: rest.events⟩

/-- The same program with every call made through `route`. -/
def via (route : Route I J) : Program I α → Program J α
  | .done value => .done value
  | .call request next => (route request).bind (fun reply => (next reply).via route)

/-! ## Laws -/

@[simp] theorem done_bind (a : α) (f : α → Program I β) : (Program.done a : Program I α) >>= f = f a := rfl

@[simp] theorem call_bind (q : I.Request) (next : I.Reply q → Program I α) (f : α → Program I β) :
    Program.call q next >>= f = .call q (fun r => next r >>= f) := rfl

theorem bind_done : ∀ p : Program I α, p.bind .done = p
  | .done _ => rfl
  | .call q next => congrArg (Program.call q) (funext fun r => bind_done (next r))

theorem bind_bind {γ : Type} (f : α → Program I β) (g : β → Program I γ) :
    ∀ p : Program I α, (p.bind f).bind g = p.bind (fun a => (f a).bind g)
  | .done _ => rfl
  | .call q next => congrArg (Program.call q) (funext fun r => bind_bind f g (next r))

instance : LawfulMonad (Program I) :=
  LawfulMonad.mk' _ bind_done (fun _ _ => rfl) (fun p f g => bind_bind f g p)

/-- **A run of a sequence is the run of its parts**, the second from the state that the first leaves. -/
theorem run_bind (serve : Server I σ) (f : α → Program I β) :
    ∀ (p : Program I α) (s : σ), (p >>= f).run serve s =
      ⟨((f (p.run serve s).value).run serve (p.run serve s).state).value,
        ((f (p.run serve s).value).run serve (p.run serve s).state).state,
        (p.run serve s).events ++ ((f (p.run serve s).value).run serve (p.run serve s).state).events⟩
  | .done _, _ => rfl
  | .call q next, s => by
    rw [call_bind, run, run_bind serve f (next (serve q s).1)]
    rfl

end Program
end DriverSurvey
