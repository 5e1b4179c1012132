import ShellWorkers.Proofs.Outcome

/-!
# Traces

What a program asks and is answered, without an environment: `Runs` relates a program to every
list of requests with answers that it can bring about, and to the result it then has.  So what
holds of all traces holds whatever the world outside does.

A trace is read as a list of larger steps: the events that `spells` allows for a step, one step
after the other, each in a place where it is licensed by the steps before it (`Course`).

* `runs_events`      the events of a run in an environment are a trace;
* `runs_bind`        the trace of one action after another;
* `Goes`             every trace of an action is a course of steps, from steps that are past;
* `goes_bind`        one action after another;
* `EndsIn`           the failures an action can end in.
-/

namespace ShellWorkers

/-! ## traces of programs -/

namespace Interaction

variable {Request : Type} {Answer : Request → Type} {α β σ : Type}

/-- the program asks these requests when it is answered so, and has this result -/
inductive Runs : Interaction Answer α → List (Event Answer) → α → Prop where
  | done (a : α) : Runs (.done a) [] a
  | ask (r : Request) (next : Answer r → Interaction Answer α) (answer : Answer r)
      {events : List (Event Answer)} {a : α} (rest : Runs (next answer) events a) :
      Runs (.ask r next) (⟨r, answer⟩ :: events) a

theorem runState_ask (env : Environment Answer σ) (r : Request)
    (next : Answer r → Interaction Answer α) (s : σ) :
    (ask r next).runState env s = (next (env r s).1).runState env (env r s).2 := rfl

theorem events_ask (env : Environment Answer σ) (r : Request)
    (next : Answer r → Interaction Answer α) (s : σ) :
    (ask r next).events env s = ⟨r, (env r s).1⟩ :: (next (env r s).1).events env (env r s).2 := rfl

/-- what happens in an environment is a trace -/
theorem runs_events (env : Environment Answer σ) (x : Interaction Answer α) (s : σ) :
    Runs x (x.events env s) (x.runState env s).1 := by
  induction x generalizing s with
  | done a => exact .done a
  | ask r next ih => exact .ask r next (env r s).1 (ih (env r s).1 (env r s).2)

/-- every event of a run is answered by the environment, in some state -/
theorem exists_state_of_mem_events (env : Environment Answer σ) (x : Interaction Answer α) (s : σ) :
    ∀ e ∈ x.events env s, ∃ t, e.2 = (env e.1 t).1 := by
  induction x generalizing s with
  | done a => exact fun e he => absurd he List.not_mem_nil
  | ask r next ih =>
    rw [events_ask]
    exact List.forall_mem_cons.mpr ⟨⟨s, rfl⟩, ih _ _⟩

/-- one request, and the program goes on with its answer -/
theorem runs_ask_bind {r : Request} {f : Answer r → Interaction Answer α}
    {events : List (Event Answer)} {a : α} (h : Runs ((request r).bind f) events a) :
    ∃ answer rest, events = ⟨r, answer⟩ :: rest ∧ Runs (f answer) rest a := by
  cases h with
  | ask _ _ answer rest => exact ⟨answer, _, rfl, rest⟩

theorem runs_done {a b : α} {events : List (Event Answer)}
    (h : Runs (.done a : Interaction Answer α) events b) : events = [] ∧ b = a := by
  cases h
  exact ⟨rfl, rfl⟩

/-- a trace of one program after another is cut where the first one ends -/
theorem Runs.of_bind {x : Interaction Answer α} {f : α → Interaction Answer β}
    {events : List (Event Answer)} {b : β} (h : Runs (x.bind f) events b) :
    ∃ a first second, events = first ++ second ∧ Runs x first a ∧ Runs (f a) second b := by
  induction x generalizing events with
  | done a => exact ⟨a, [], events, rfl, .done a, h⟩
  | ask r next ih =>
    cases h with
    | ask _ _ answer rest =>
      obtain ⟨a, first, second, rfl, hx, hf⟩ := ih answer rest
      exact ⟨a, ⟨r, answer⟩ :: first, second, rfl, .ask r next answer hx, hf⟩

/-- only what a program may ask is in its traces -/
theorem Asks.of_runs {P : Request → Prop} {x : Interaction Answer α} (hx : x.Asks P)
    {events : List (Event Answer)} {a : α} (h : Runs x events a) : ∀ e ∈ events, P e.1 := by
  induction h with
  | done a => exact fun _ he => absurd he List.not_mem_nil
  | ask r next answer rest ih => exact List.forall_mem_cons.mpr ⟨hx.1, ih (hx.2 answer)⟩

end Interaction

/-! ## traces of actions -/

/-- a request to the host and its answer -/
abbrev HostEvent := Interaction.Event Host.Answer

namespace Action

variable {α β σ : Type} {events : List HostEvent} {result : Except Failure α}

/-- the action asks these requests when it is answered so, and comes to this result -/
abbrev Runs (x : Action α) (events : List HostEvent) (result : Except Failure α) : Prop :=
  Interaction.Runs x.run events result

/-- what an action asks in an environment -/
abbrev trace (env : Interaction.Environment Host.Answer σ) (x : Action α) (s : σ) :
    List HostEvent :=
  Interaction.events env x.run s

theorem runs_trace (env : Interaction.Environment Host.Answer σ) (x : Action α) (s : σ) :
    Runs x (trace env x s) (outcome env x s).1 :=
  Interaction.runs_events env x.run s

theorem runs_pure {a : α} (h : Runs (pure a) events result) : events = [] ∧ result = .ok a :=
  Interaction.runs_done h

theorem runs_throw {e : Failure} (h : Runs (throw e : Action α) events result) :
    events = [] ∧ result = .error e :=
  Interaction.runs_done h

theorem runs_fail {e : BuildError} (h : Runs (fail e : Action α) events result) :
    events = [] ∧ result = .error (.error e) :=
  Interaction.runs_done h

theorem runs_ofExcept {x : Except Failure α} (h : Runs (ofExcept x) events result) :
    events = [] ∧ result = x := by
  cases x with
  | error e => exact runs_throw h
  | ok a => exact runs_pure h

theorem runs_lift {x : Host.Program α} (h : Runs (ExceptT.lift x) events result) :
    ∃ a, result = .ok a ∧ Interaction.Runs x events a := by
  obtain ⟨a, first, second, rfl, hx, hdone⟩ := Interaction.Runs.of_bind h
  obtain ⟨rfl, rfl⟩ := Interaction.runs_done hdone
  rw [List.append_nil]
  exact ⟨a, rfl, hx⟩

/-- a request is one event -/
theorem runs_request {r : Host.Request} {result : Except Failure (Host.Answer r)}
    (h : Runs (request r) events result) :
    ∃ answer, events = [⟨r, answer⟩] ∧ result = .ok answer := by
  obtain ⟨answer, rfl, hask⟩ := runs_lift h
  cases hask with
  | ask _ _ answer rest =>
    obtain ⟨rfl, rfl⟩ := Interaction.runs_done rest
    exact ⟨answer, rfl, rfl⟩

/-- the first action fails, or the second one goes on with what it comes to -/
theorem runs_bind {x : Action α} {f : α → Action β} {result : Except Failure β}
    (h : Runs (x >>= f) events result) :
    (∃ e, result = .error e ∧ Runs x events (.error e)) ∨
      ∃ a first second, events = first ++ second ∧ Runs x first (.ok a) ∧
        Runs (f a) second result := by
  obtain ⟨a, first, second, rfl, hx, hf⟩ := Interaction.Runs.of_bind h
  cases a with
  | error e =>
    obtain ⟨rfl, rfl⟩ := Interaction.runs_done hf
    rw [List.append_nil]
    exact Or.inl ⟨e, rfl, hx⟩
  | ok a => exact Or.inr ⟨a, first, second, rfl, hx, hf⟩

theorem runs_request_bind {r : Host.Request} {f : Host.Answer r → Action β}
    {result : Except Failure β} (h : Runs (request r >>= f) events result) :
    ∃ answer rest, events = ⟨r, answer⟩ :: rest ∧ Runs (f answer) rest result := by
  rcases runs_bind h with ⟨e, _, hr⟩ | ⟨answer, first, rest, rfl, hr, hf⟩
  · obtain ⟨answer, _, he⟩ := runs_request hr
    exact nomatch he
  · obtain ⟨answer', rfl, he⟩ := runs_request hr
    obtain rfl := Except.ok.inj he
    exact ⟨answer, rest, rfl, hf⟩

/-- a failure is handled behind the trace that led to it -/
theorem runs_tryCatch {x : Action α} {f : Failure → Action α}
    (h : Runs (tryCatch x f) events result) :
    (∃ a, result = .ok a ∧ Runs x events (.ok a)) ∨
      ∃ e first second, events = first ++ second ∧ Runs x first (.error e) ∧
        Runs (f e) second result := by
  obtain ⟨a, first, second, rfl, hx, hf⟩ := Interaction.Runs.of_bind h
  cases a with
  | ok a =>
    obtain ⟨rfl, rfl⟩ := Interaction.runs_done hf
    rw [List.append_nil]
    exact Or.inl ⟨a, rfl, hx⟩
  | error e => exact Or.inr ⟨e, first, second, rfl, hx, hf⟩

/-- an action that comes to an answer goes on from where its first part has come to one -/
theorem exists_of_bind_ok {env : Interaction.Environment Host.Answer σ} {x : Action α}
    {f : α → Action β} {s s' : σ} {b : β} (h : outcome env (x >>= f) s = (.ok b, s')) :
    ∃ a t, outcome env x s = (.ok a, t) ∧ outcome env (f a) t = (.ok b, s') ∧
      trace env (x >>= f) s = trace env x s ++ trace env (f a) t := by
  rw [outcome_bind] at h
  cases hx : outcome env x s with
  | mk result t =>
    rw [hx] at h
    cases result with
    | error e => exact nomatch (Prod.mk.inj h).1
    | ok a =>
      refine ⟨a, t, rfl, h, ?_⟩
      show Interaction.events env (Interaction.bind x.run (ExceptT.bindCont f)) s = _
      have hrun : Interaction.runState env x.run s = (.ok a, t) := hx
      rw [Interaction.events_bind, hrun]
      rfl

/-! ## failures -/

/-- every failure that the action can end in satisfies `P` -/
def EndsIn (P : Failure → Prop) (x : Action α) : Prop :=
  ∀ events e, Runs x events (.error e) → P e

variable {P : Failure → Prop}

theorem endsIn_pure (a : α) : EndsIn P (pure a : Action α) :=
  fun _ _ h => nomatch (runs_pure h).2

theorem endsIn_throw {e : Failure} (h : P e) : EndsIn P (throw e : Action α) :=
  fun _ _ hr => Except.error.inj (runs_throw hr).2 ▸ h

theorem endsIn_fail {e : BuildError} (h : P (.error e)) : EndsIn P (fail e : Action α) :=
  endsIn_throw h

theorem endsIn_lift (x : Host.Program α) : EndsIn P (ExceptT.lift x : Action α) := by
  intro _ _ h
  obtain ⟨a, ha, _⟩ := runs_lift h
  exact nomatch ha

theorem endsIn_request (r : Host.Request) : EndsIn P (request r) := endsIn_lift _

theorem endsIn_bind {x : Action α} {f : α → Action β} (hx : EndsIn P x)
    (hf : ∀ a, EndsIn P (f a)) : EndsIn P (x >>= f) := by
  intro events e h
  rcases runs_bind h with ⟨e', he, hr⟩ | ⟨a, first, second, _, _, hr⟩
  · exact Except.error.inj he ▸ hx events e' hr
  · exact hf a second e hr

theorem endsIn_ofExcept {x : Except Failure α} (h : ∀ e, x = .error e → P e) :
    EndsIn P (ofExcept x) :=
  fun _ e hr => h e (runs_ofExcept hr).2.symm

theorem endsIn_mono {Q : Failure → Prop} {x : Action α} (hx : EndsIn P x) (h : ∀ e, P e → Q e) :
    EndsIn Q x :=
  fun events e hr => h e (hx events e hr)

end Action

/-! ## traces as courses of steps -/

/-- what larger steps there are, and where they may stand -/
structure Rules (Step : Type) where
  /-- the events that make up a step -/
  Spells : Step → List HostEvent → Prop
  /-- whether a step may stand behind the steps that are past -/
  Licensed : List Step → Step → Prop

namespace Rules

variable {Step : Type} {rules : Rules Step} {α β : Type}

/-- the events are those of the steps, in order, and each step may stand where it stands -/
inductive Course (rules : Rules Step) : List Step → List Step → List HostEvent → Prop where
  | nil (past : List Step) : Course rules past [] []
  | cons {past steps : List Step} {step : Step} {first second : List HostEvent}
      (licensed : rules.Licensed past step) (spells : rules.Spells step first)
      (rest : Course rules (past ++ [step]) steps second) :
      Course rules past (step :: steps) (first ++ second)

theorem course_step {past : List Step} {step : Step} {events : List HostEvent}
    (hl : rules.Licensed past step) (hs : rules.Spells step events) :
    rules.Course past [step] events := by
  have h := Course.cons hl hs (.nil _)
  rw [List.append_nil] at h
  exact h

theorem Course.append {past steps more : List Step} {first second : List HostEvent}
    (h : rules.Course past steps first) (h' : rules.Course (past ++ steps) more second) :
    rules.Course past (steps ++ more) (first ++ second) := by
  induction h with
  | nil past =>
    rw [List.append_nil] at h'
    exact h'
  | cons hl hs _ ih =>
    rw [List.append_cons] at h'
    rw [List.append_assoc]
    exact .cons hl hs (ih h')

/-- **Every step of a course is licensed by all the steps before it.** -/
theorem Course.licensed {past steps : List Step} {events : List HostEvent}
    (h : rules.Course past steps events) {before behind : List Step} {step : Step}
    (hs : steps = before ++ step :: behind) : rules.Licensed (past ++ before) step := by
  induction h generalizing before with
  | nil past => simp at hs
  | cons hl _ _ ih =>
    cases before with
    | nil =>
      rw [List.nil_append, List.cons.injEq] at hs
      rw [List.append_nil, ← hs.1]
      exact hl
    | cons first before =>
      rw [List.cons_append, List.cons.injEq] at hs
      rw [List.append_cons, ← hs.1]
      exact ih hs.2

/-- the events of every step of a course stand in its trace -/
theorem Course.spelled {past steps : List Step} {events : List HostEvent}
    (h : rules.Course past steps events) {step : Step} (hs : step ∈ steps) :
    ∃ part, rules.Spells step part ∧ part <:+: events := by
  induction h with
  | nil past => exact absurd hs List.not_mem_nil
  | @cons _ _ _ first second _ spells _ ih =>
    rcases List.mem_cons.mp hs with rfl | hs
    · exact ⟨first, spells, (List.prefix_append first second).isInfix⟩
    · obtain ⟨part, hpart, hinfix⟩ := ih hs
      exact ⟨part, hpart, hinfix.trans (List.suffix_append first second).isInfix⟩

/-- Behind steps that satisfy `P`, every trace of the action is a course of further steps, and
these and the result satisfy `Q`. -/
def Goes (rules : Rules Step) (P : List Step → Prop) (x : Action α)
    (Q : Except Failure α → List Step → Prop) : Prop :=
  ∀ past events result, P past → Action.Runs x events result →
    ∃ steps, rules.Course past steps events ∧ Q result (past ++ steps)

variable {P : List Step → Prop} {Q : Except Failure α → List Step → Prop}
  {R : Except Failure β → List Step → Prop}

/-- an action without requests is no step -/
theorem goes_ofExcept {x : Except Failure α} (h : ∀ past, P past → Q x past) :
    rules.Goes P (ofExcept x : Action α) Q := by
  intro past events result hp hr
  obtain ⟨rfl, rfl⟩ := Action.runs_ofExcept hr
  refine ⟨[], .nil past, ?_⟩
  rw [List.append_nil]
  exact h past hp

theorem goes_pure {a : α} (h : ∀ past, P past → Q (.ok a) past) :
    rules.Goes P (pure a : Action α) Q :=
  goes_ofExcept (x := .ok a) h

theorem goes_throw {e : Failure} (h : ∀ past, P past → Q (.error e) past) :
    rules.Goes P (throw e : Action α) Q :=
  goes_ofExcept (x := .error e) h

theorem goes_bind {x : Action α} {f : α → Action β} (hx : rules.Goes P x Q)
    (hf : ∀ a, rules.Goes (Q (.ok a)) (f a) R)
    (he : ∀ e steps, Q (.error e) steps → R (.error e) steps) : rules.Goes P (x >>= f) R := by
  intro past events result hp hr
  rcases Action.runs_bind hr with ⟨e, rfl, hrx⟩ | ⟨a, first, second, rfl, hrx, hrf⟩
  · obtain ⟨steps, hcourse, hq⟩ := hx past events (.error e) hp hrx
    exact ⟨steps, hcourse, he e _ hq⟩
  · obtain ⟨steps, hcourse, hq⟩ := hx past first (.ok a) hp hrx
    obtain ⟨more, hcourse', hr'⟩ := hf a (past ++ steps) second result hq hrf
    refine ⟨steps ++ more, hcourse.append hcourse', ?_⟩
    rw [← List.append_assoc]
    exact hr'

/-- a request that is a course of steps whatever it is answered -/
theorem goes_request {r : Host.Request} {Q : Except Failure (Host.Answer r) → List Step → Prop}
    (h : ∀ past answer, P past →
      ∃ steps, rules.Course past steps [⟨r, answer⟩] ∧ Q (.ok answer) (past ++ steps)) :
    rules.Goes P (Action.request r) Q := by
  intro past events result hp hr
  obtain ⟨answer, rfl, rfl⟩ := Action.runs_request hr
  exact h past answer hp

/-- a failure is handled from where it has happened -/
theorem goes_tryCatch {x : Action α} {f : Failure → Action α}
    {R : Except Failure α → List Step → Prop} (hx : rules.Goes P x Q)
    (hf : ∀ e, rules.Goes (Q (.error e)) (f e) R)
    (ha : ∀ a steps, Q (.ok a) steps → R (.ok a) steps) : rules.Goes P (tryCatch x f) R := by
  intro past events result hp hr
  rcases Action.runs_tryCatch hr with ⟨a, rfl, hrx⟩ | ⟨e, first, second, rfl, hrx, hrf⟩
  · obtain ⟨steps, hcourse, hq⟩ := hx past events (.ok a) hp hrx
    exact ⟨steps, hcourse, ha a _ hq⟩
  · obtain ⟨steps, hcourse, hq⟩ := hx past first (.error e) hp hrx
    obtain ⟨more, hcourse', hr'⟩ := hf e (past ++ steps) second result hq hrf
    refine ⟨steps ++ more, hcourse.append hcourse', ?_⟩
    rw [← List.append_assoc]
    exact hr'

/-- an action whose failure is part of its answer -/
theorem goes_lift_run {x : Action α} (hx : rules.Goes P x Q) :
    rules.Goes P (ExceptT.lift x.run) fun result steps => ∃ r, result = .ok r ∧ Q r steps := by
  intro past events result hp hr
  obtain ⟨r, rfl, hrx⟩ := Action.runs_lift hr
  obtain ⟨steps, hcourse, hq⟩ := hx past events r hp hrx
  exact ⟨steps, hcourse, r, rfl, hq⟩

/-- what more steps do not undo, holds behind an action if it holds before -/
theorem goes_keep {M : List Step → Prop} {x : Action α} (hx : rules.Goes P x Q)
    (hM : ∀ past steps, M past → M (past ++ steps)) :
    rules.Goes (fun past => P past ∧ M past) x fun result steps => Q result steps ∧ M steps := by
  intro past events result hp hr
  obtain ⟨steps, hcourse, hq⟩ := hx past events result hp.1 hr
  exact ⟨steps, hcourse, hq, hM past steps hp.2⟩

theorem goes_mono {P' : List Step → Prop} {Q' : Except Failure α → List Step → Prop}
    {x : Action α} (h : rules.Goes P x Q) (hp : ∀ past, P' past → P past)
    (hq : ∀ result steps, Q result steps → Q' result steps) : rules.Goes P' x Q' := by
  intro past events result hp' hr
  obtain ⟨steps, hcourse, hres⟩ := h past events result (hp past hp') hr
  exact ⟨steps, hcourse, hq result _ hres⟩

end Rules

end ShellWorkers
