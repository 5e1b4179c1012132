import ShellWorkers.Host

/-!
# Outcomes of actions

What an action comes to in an environment, and the state that it leaves: `Action.outcome`.  An
action is a program of requests, so its outcome is found request by request; the first failure
ends it.

* `outcome_bind_ok`, `outcome_bind_error`   one action after another;
* `outcome_request_bind`                    a request, and what is done with its answer;
* `Interaction.Asks`, `Action.Asks`         the requests that a program may ask at all, whatever
                                            it is answered;
* `Asks.runState`                           what these requests preserve, the whole run preserves.
-/

namespace ShellWorkers

/-! ## what a program may ask -/

namespace Interaction

variable {Request : Type} {Answer : Request → Type} {α β σ : Type} {P Q : Request → Prop}

/-- every request that the program may ask satisfies `P` -/
def Asks (P : Request → Prop) : Interaction Answer α → Prop
  | .done _ => True
  | .ask r next => P r ∧ ∀ answer, (next answer).Asks P

theorem Asks.done (a : α) : (done a : Interaction Answer α).Asks P := trivial

theorem Asks.request {r : Request} (h : P r) : (request r : Interaction Answer _).Asks P :=
  ⟨h, fun _ => trivial⟩

theorem Asks.bind {x : Interaction Answer α} {f : α → Interaction Answer β} (hx : x.Asks P)
    (hf : ∀ a, (f a).Asks P) : (x.bind f).Asks P := by
  induction x with
  | done a => exact hf a
  | ask r next ih => exact ⟨hx.1, fun answer => ih answer (hx.2 answer)⟩

theorem Asks.mono {x : Interaction Answer α} (hx : x.Asks P) (h : ∀ r, P r → Q r) : x.Asks Q := by
  induction x with
  | done a => trivial
  | ask r next ih => exact ⟨h r hx.1, fun answer => ih answer (hx.2 answer)⟩

/-- what every request that is asked preserves holds at the end of the run -/
theorem Asks.runState {env : Environment Answer σ} {x : Interaction Answer α} (hx : x.Asks P)
    {Inv : σ → Prop} (step : ∀ r s, P r → Inv s → Inv (env r s).2) {s : σ} (hs : Inv s) :
    Inv (x.runState env s).2 := by
  induction x generalizing s with
  | done a => exact hs
  | ask r next ih => exact ih _ (hx.2 _) (step r s hx.1 hs)

end Interaction

/-! ## outcomes -/

namespace Action

open Interaction (Environment)

variable {σ α β : Type} {env : Environment Host.Answer σ}

/-- what an action comes to in an environment, and the state it ends in -/
def outcome (env : Environment Host.Answer σ) (x : Action α) (s : σ) : Except Failure α × σ :=
  Interaction.runState env x.run s

theorem outcome_lift (x : Host.Program α) (s : σ) :
    outcome env (ExceptT.lift x) s = (.ok (x.runState env s).1, (x.runState env s).2) := by
  show Interaction.runState env (Interaction.bind x (Interaction.done ∘ Except.ok)) s = _
  rw [Interaction.runState_bind]
  rfl

theorem outcome_ofExcept (x : Except Failure α) (s : σ) :
    outcome env (ofExcept x) s = (x, s) := by
  cases x <;> rfl

theorem outcome_bind (x : Action α) (f : α → Action β) (s : σ) :
    outcome env (x >>= f) s =
      match outcome env x s with
      | (.ok a, t) => outcome env (f a) t
      | (.error e, t) => (.error e, t) := by
  show Interaction.runState env (Interaction.bind x.run (ExceptT.bindCont f)) s = _
  rw [Interaction.runState_bind]
  unfold outcome
  rcases Interaction.runState env x.run s with ⟨e | a, t⟩ <;> rfl

theorem outcome_bind_ok {x : Action α} {f : α → Action β} {s t : σ} {a : α}
    (h : outcome env x s = (.ok a, t)) : outcome env (x >>= f) s = outcome env (f a) t := by
  rw [outcome_bind, h]

theorem outcome_bind_error {x : Action α} {f : α → Action β} {s t : σ} {e : Failure}
    (h : outcome env x s = (.error e, t)) : outcome env (x >>= f) s = (.error e, t) := by
  rw [outcome_bind, h]

theorem outcome_request_bind (r : Host.Request) (f : Host.Answer r → Action β) (s : σ) :
    outcome env (request r >>= f) s = outcome env (f (env r s).1) (env r s).2 :=
  outcome_bind_ok rfl

/-- what is done after a failure has no say when there is none -/
theorem outcome_tryCatch_ok {x : Action α} {f : Failure → Action α} {s t : σ} {a : α}
    (h : outcome env x s = (.ok a, t)) : outcome env (tryCatch x f) s = (.ok a, t) := by
  show Interaction.runState env (Interaction.bind x.run _) s = _
  rw [Interaction.runState_bind]
  have h' : Interaction.runState env x.run s = (.ok a, t) := h
  rw [h']
  rfl

/-! ## what an action may ask -/

variable {P : Host.Request → Prop}

/-- every request that the action may ask satisfies `P` -/
abbrev Asks (P : Host.Request → Prop) (x : Action α) : Prop := Interaction.Asks P x.run

theorem asks_pure (a : α) : Asks P (pure a : Action α) := trivial

theorem asks_throw (e : Failure) : Asks P (throw e : Action α) := trivial

theorem asks_fail (e : BuildError) : Asks P (fail e : Action α) := trivial

theorem asks_ofExcept (x : Except Failure α) : Asks P (ofExcept x : Action α) := by
  cases x <;> trivial

theorem asks_lift {x : Host.Program α} (h : x.Asks P) : Asks P (ExceptT.lift x : Action α) :=
  Interaction.Asks.bind h fun _ => trivial

theorem asks_request {r : Host.Request} (h : P r) : Asks P (request r) :=
  asks_lift (Interaction.Asks.request h)

theorem asks_bind {x : Action α} {f : α → Action β} (hx : Asks P x) (hf : ∀ a, Asks P (f a)) :
    Asks P (x >>= f) := by
  refine Interaction.Asks.bind hx fun result => ?_
  cases result with
  | error e => trivial
  | ok a => exact hf a

end Action

end ShellWorkers
