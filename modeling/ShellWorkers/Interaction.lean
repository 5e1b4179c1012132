/-!
# Programs that ask

An `Interaction` is a program that asks requests of an environment and goes on with the answers:
a finite-depth tree that branches over the answers.  It does nothing by itself; what it does
depends on who answers.  So one program can be run against a model of a machine, and a statement
about it can speak of every way of answering.

* `Interaction.runState`   the run against an environment with a state;
* `Interaction.events`     the requests of that run, with their answers;
* `runState_bind`          a program after another runs where the first one left the state.
-/

namespace ShellWorkers

/-- a program that asks requests, `Answer r` being the answers to the request `r` -/
inductive Interaction {Request : Type} (Answer : Request → Type) (α : Type) where
  | done (a : α)
  | ask (r : Request) (next : Answer r → Interaction Answer α)

namespace Interaction

variable {Request : Type} {Answer : Request → Type} {α β γ σ : Type}

/-! ## one program after another -/

def bind : Interaction Answer α → (α → Interaction Answer β) → Interaction Answer β
  | .done a, f => f a
  | .ask r next, f => .ask r fun answer => (next answer).bind f

instance : Monad (Interaction Answer) where
  pure := .done
  bind := bind

/-- the program that asks one request and answers what it is answered -/
def request (r : Request) : Interaction Answer (Answer r) := .ask r .done

theorem done_bind (a : α) (f : α → Interaction Answer β) : (done a).bind f = f a := rfl

theorem ask_bind (r : Request) (next : Answer r → Interaction Answer α)
    (f : α → Interaction Answer β) :
    (ask r next).bind f = .ask r fun answer => (next answer).bind f := rfl

theorem bind_done (x : Interaction Answer α) : x.bind .done = x := by
  induction x with
  | done a => rfl
  | ask r next ih => rw [ask_bind]; congr; funext answer; exact ih answer

theorem bind_assoc (x : Interaction Answer α) (f : α → Interaction Answer β)
    (g : β → Interaction Answer γ) : (x.bind f).bind g = x.bind fun a => (f a).bind g := by
  induction x with
  | done a => rfl
  | ask r next ih => simp only [ask_bind]; congr; funext answer; exact ih answer

instance : LawfulMonad (Interaction Answer) :=
  LawfulMonad.mk' _ (fun x => bind_done x) (fun _ _ => rfl) bind_assoc

/-! ## runs -/

/-- an environment with states `σ`: the answer to a request, and the state after it -/
abbrev Environment (Answer : Request → Type) (σ : Type) : Type :=
  (r : Request) → σ → Answer r × σ

/-- the result of a run and the state it ends in -/
def runState (env : Environment Answer σ) : Interaction Answer α → σ → α × σ
  | .done a, s => (a, s)
  | .ask r next, s => let (answer, s) := env r s; runState env (next answer) s

/-- a request and how it was answered -/
abbrev Event (Answer : Request → Type) : Type := (r : Request) × Answer r

/-- the requests of a run with their answers -/
def events (env : Environment Answer σ) : Interaction Answer α → σ → List (Event Answer)
  | .done _, _ => []
  | .ask r next, s => let (answer, s) := env r s; ⟨r, answer⟩ :: events env (next answer) s

theorem runState_bind (env : Environment Answer σ) (x : Interaction Answer α)
    (f : α → Interaction Answer β) (s : σ) :
    runState env (x.bind f) s = runState env (f (runState env x s).1) (runState env x s).2 := by
  induction x generalizing s with
  | done a => rfl
  | ask r next ih => exact ih _ _

theorem events_bind (env : Environment Answer σ) (x : Interaction Answer α)
    (f : α → Interaction Answer β) (s : σ) :
    events env (x.bind f) s =
      events env x s ++ events env (f (runState env x s).1) (runState env x s).2 := by
  induction x generalizing s with
  | done a => rfl
  | ask r next ih => exact congrArg (List.cons _) (ih _ _)

end Interaction

end ShellWorkers
