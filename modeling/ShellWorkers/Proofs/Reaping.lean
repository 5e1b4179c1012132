import ShellWorkers.Proofs.BuildSteps
import ShellWorkers.Proofs.Custody

/-!
# Shells are reaped

The parts of a session and of the compile stage, as to what they do with shells.  `Keeps` says
what holds behind an action, if what is killed can be reaped; on the way no process is asked
about or killed that is not there.  A session that is started adds a shell to those that are there,
and every way to its end takes it away again: a wait, a question, or a kill.

* `keeps_terminate`, `keeps_abandon`   a shell that is killed is reaped;
* `keeps_await`, `keeps_finish`        a session that is finished leaves no shell;
* `keeps_start`                        one that is started adds its shell, and one that is not adds
                                       none;
* `keeps_compileObjects`               the compile stage leaves no shells, whatever fails.
-/

namespace ShellWorkers

open ShellWorkers.Action

/-! ## what holds behind an action -/

/-- it holds if what was killed so far could be reaped -/
abbrev Trusted (A : List HostEvent → Prop) (past : List HostEvent) : Prop :=
  ReapsKilled past → A past

/-- Behind what satisfies `A`, the action asks nothing that is not allowed, and comes to what
satisfies `B`. -/
def Keeps (timeout : Option Duration) {α : Type} (A : List HostEvent → Prop) (x : Action α)
    (B : Except Failure α → List HostEvent → Prop) : Prop :=
  (custodyRules timeout).Goes (Trusted A) x fun result => Trusted (B result)

section

variable {timeout : Option Duration} {α β : Type} {A A' : List HostEvent → Prop}
  {B B' : Except Failure α → List HostEvent → Prop} {C : Except Failure β → List HostEvent → Prop}

theorem keeps_request {r : Host.Request}
    {B : Except Failure (Host.Answer r) → List HostEvent → Prop}
    (hr : ∀ past, A past → Allowed timeout past r)
    (h : ∀ past answer, A past → ReapsKilled (past ++ [⟨r, answer⟩]) →
      B (.ok answer) (past ++ [⟨r, answer⟩])) : Keeps timeout A (request r) B := by
  refine Rules.goes_request fun past answer hp => ⟨[⟨r, answer⟩], ?_, ?_⟩
  · exact Rules.course_step (fun htrust => hr past (hp htrust)) rfl
  · exact fun htrust => h past answer (hp htrust.of_append) htrust

theorem keeps_ofExcept {x : Except Failure α} (h : ∀ past, A past → B x past) :
    Keeps timeout A (ofExcept x) B :=
  Rules.goes_ofExcept fun past hp htrust => h past (hp htrust)

theorem keeps_pure {a : α} (h : ∀ past, A past → B (.ok a) past) : Keeps timeout A (pure a) B :=
  keeps_ofExcept (x := .ok a) h

theorem keeps_throw {e : Failure} (h : ∀ past, A past → B (.error e) past) :
    Keeps timeout A (throw e) B :=
  keeps_ofExcept (x := .error e) h

theorem keeps_fail {e : BuildError} (h : ∀ past, A past → B (.error (.error e)) past) :
    Keeps timeout A (fail e) B :=
  keeps_throw h

theorem keeps_bind {x : Action α} {f : α → Action β} (hx : Keeps timeout A x B)
    (hf : ∀ a, Keeps timeout (B (.ok a)) (f a) C)
    (he : ∀ e past, B (.error e) past → C (.error e) past) : Keeps timeout A (x >>= f) C :=
  Rules.goes_bind hx hf fun e past hp htrust => he e past (hp htrust)

theorem keeps_tryCatch {x : Action α} {f : Failure → Action α} (hx : Keeps timeout A x B)
    (hf : ∀ e, Keeps timeout (B (.error e)) (f e) B')
    (ha : ∀ a past, B (.ok a) past → B' (.ok a) past) : Keeps timeout A (tryCatch x f) B' :=
  Rules.goes_tryCatch hx hf fun a past hp htrust => ha a past (hp htrust)

theorem keeps_mono {x : Action α} (h : Keeps timeout A x B) (ha : ∀ past, A' past → A past)
    (hb : ∀ result past, B result past → B' result past) : Keeps timeout A' x B' :=
  Rules.goes_mono h (fun past hp htrust => ha past (hp htrust))
    fun result past hp htrust => hb result past (hp htrust)

/-- the action comes to an answer, and `D` holds of it and what is past -/
abbrev Answers (D : α → List HostEvent → Prop) (result : Except Failure α)
    (past : List HostEvent) : Prop :=
  ∃ a, result = .ok a ∧ D a past

variable {D : α → List HostEvent → Prop}

/-- behind an action that always comes to an answer -/
theorem keeps_bind_ok {x : Action α} {f : α → Action β} (hx : Keeps timeout A x (Answers D))
    (hf : ∀ a, Keeps timeout (D a) (f a) C) : Keeps timeout A (x >>= f) C :=
  keeps_bind hx
    (fun a => keeps_mono (hf a) (fun _ ⟨_, he, hp⟩ => Except.ok.inj he ▸ hp) fun _ _ hp => hp)
    fun _ _ ⟨_, he, _⟩ => nomatch he

theorem keeps_request_bind {r : Host.Request} {f : Host.Answer r → Action β}
    {D : Host.Answer r → List HostEvent → Prop} (hr : ∀ past, A past → Allowed timeout past r)
    (h : ∀ past answer, A past → ReapsKilled (past ++ [⟨r, answer⟩]) →
      D answer (past ++ [⟨r, answer⟩]))
    (hf : ∀ answer, Keeps timeout (D answer) (f answer) C) :
    Keeps timeout A (request r >>= f) C :=
  keeps_bind_ok
    (keeps_request hr fun past answer hp htrust => ⟨answer, rfl, h past answer hp htrust⟩) hf

/-- an action whose failure is part of its answer -/
theorem keeps_lift_run {x : Action α} (h : Keeps timeout A x B) :
    Keeps timeout A (ExceptT.lift x.run) (Answers B) :=
  Rules.goes_mono (Rules.goes_lift_run h) (fun _ hp => hp)
    fun _ _ hp htrust => hp.imp fun _ hr => ⟨hr.1, hr.2 htrust⟩

/-- a fact that follows from what is past may be assumed -/
theorem keeps_of_fact {x : Action α} {fact : Prop} (ha : ∀ past, A past → fact)
    (h : fact → Keeps timeout A x B) : Keeps timeout A x B := by
  by_cases hfact : fact
  · exact h hfact
  intro past events result hp hr
  have hnever : ¬ ReapsKilled past := fun htrust => hfact (ha past (hp htrust))
  refine ⟨events, ?_, fun htrust => absurd htrust.of_append hnever⟩
  clear hp hr
  induction events generalizing past with
  | nil => exact .nil past
  | cons e events ih =>
    have hrest := ih (past ++ [e]) fun htrust => hnever htrust.of_append
    have hspells : (custodyRules timeout).Spells e [e] := rfl
    exact .cons (fun htrust => absurd htrust hnever) hspells hrest

/-- a request and what follows, lifted -/
theorem lift_ask_bind (r : Host.Request) (f : Host.Answer r → Host.Program α) :
    (ExceptT.lift (Host.ask r >>= f) : Action α) =
      request r >>= fun answer => ExceptT.lift (f answer) :=
  rfl

/-- requests by which no process comes or goes -/
theorem keeps_harmless {sessions : List Session} {x : Action α} (hx : Asks IsHarmless x) :
    Keeps timeout (Open timeout sessions) x fun result past =>
      Open timeout sessions past ∧ ∃ events, Runs x events result := by
  intro past events result hp hr
  have hasks := Interaction.Asks.of_runs hx hr
  have hcourse : ∀ {events : List HostEvent} (past : List HostEvent),
      (∀ e ∈ events, IsHarmless e.1) → Trusted (Open timeout sessions) past →
      (custodyRules timeout).Course past events events ∧
        Trusted (Open timeout sessions) (past ++ events) := by
    intro events
    induction events with
    | nil =>
      intro past _ hp
      rw [List.append_nil]
      exact ⟨.nil past, hp⟩
    | cons e events ih =>
      intro past hall hp
      obtain ⟨he, hevents⟩ := List.forall_mem_cons.mp hall
      have hnext : Trusted (Open timeout sessions) (past ++ [e]) :=
        fun htrust => (hp htrust.of_append).concat_harmless he
      obtain ⟨hrest, hopen⟩ := ih (past ++ [e]) hevents hnext
      rw [List.append_cons]
      refine ⟨.cons (fun _ => ?_) rfl hrest, hopen⟩
      obtain ⟨r, answer⟩ := e
      cases r <;> trivial
  obtain ⟨hsteps, hopen⟩ := hcourse past hasks hp
  exact ⟨events, hsteps, fun htrust => ⟨hopen htrust, events, hr⟩⟩

theorem keeps_harmless' {sessions : List Session} {x : Action α} (hx : Asks IsHarmless x) :
    Keeps timeout (Open timeout sessions) x fun _ => Open timeout sessions :=
  keeps_mono (keeps_harmless hx) (fun _ hp => hp) fun _ _ hp => hp.1

end

/-! ## the end of a session -/

section

variable {timeout : Option Duration} {s : Session} {rest : List Session}

/-- a shell that is killed for a reason is reaped -/
theorem keeps_terminate :
    Keeps timeout (fun past => Open timeout (s :: rest) past ∧ KillReason timeout s.process past)
      s.terminate (Answers fun _ => Open timeout rest) := by
  refine keeps_request_bind (D := fun _ => Dying timeout s rest) (fun past hp => ?_)
    (fun past _ hp _ => hp.1.concat_killGroup) fun _ => ?_
  · exact ⟨hp.1.unreaped, hp.1.calm.unsignalled _, hp.2⟩
  refine keeps_request_bind
    (D := fun _ past => Dying timeout s rest past ∧ Killed s.process past)
    (fun past hp => hp.unreaped) (fun past answer hp _ => ⟨hp.concat_kill, ?_⟩) fun _ => ?_
  · exact askedSince_self _ _ past answer
  refine keeps_request_bind (D := fun _ => Open timeout rest) (fun past hp => hp.1.unreaped) ?_
    fun _ => keeps_pure fun _ hp => ⟨(), rfl, hp⟩
  intro past answer hp htrust
  cases answer with
  | error cause => exact absurd hp.2 (htrust past s.process cause [] rfl hp.1.unreaped)
  | ok status => exact hp.1.concat_wait

/-- a session that is dropped leaves no shell -/
theorem keeps_abandon :
    Keeps timeout (Open timeout (s :: rest)) s.abandon (Answers fun _ => Open timeout rest) := by
  refine keeps_request_bind (fun _ _ => trivial) (fun past answer hp _ => ?_)
    fun _ => keeps_terminate
  exact ⟨hp.concat_harmless trivial, .inr (.inr ⟨past, rfl⟩)⟩

theorem keeps_abandonAll {sessions : List Session} :
    Keeps timeout (Open timeout sessions) (Session.abandonAll sessions)
      (Answers fun _ => Open timeout []) := by
  induction sessions with
  | nil => exact keeps_pure fun _ hp => ⟨(), rfl, hp⟩
  | cons s sessions ih => exact keeps_bind_ok keeps_abandon fun _ => ih

/-! ## waiting -/

/-- what holds when a wait is over: the shell is gone, or there is a reason to kill it -/
def Waited (timeout : Option Duration) (s : Session) (rest : List Session) :
    Session.WaitResult → List HostEvent → Prop
  | .ended _, past => Open timeout rest past
  | _, past => Open timeout (s :: rest) past ∧ KillReason timeout s.process past

/-- a wait without a deadline -/
theorem keeps_awaitExit :
    Keeps timeout (Open timeout (s :: rest)) (ExceptT.lift (Session.awaitExit s.process))
      (Answers (Waited timeout s rest)) := by
  rw [Session.awaitExit, lift_ask_bind]
  refine keeps_request_bind (D := fun answer => Waited timeout s rest
    (match answer with | .ok status => .ended status | .error cause => .failed cause))
    (fun past hp => hp.unreaped) ?_ ?_
  · intro past answer hp _
    cases answer with
    | ok status => exact hp.concat_reap rfl rfl fun p h => nomatch h
    | error cause =>
      exact ⟨hp.concat rfl rfl (fun p h => nomatch h), .inr (.inl ⟨past, cause, .inl rfl⟩)⟩
  · intro answer
    cases answer with
    | ok status => exact keeps_pure fun past hp => ⟨_, rfl, hp⟩
    | error cause => exact keeps_pure fun past hp => ⟨_, rfl, hp⟩

/-- while a shell runs that is waited for with a deadline -/
theorem keeps_awaitUntil {limit : Duration} (hlimit : timeout = some limit) (questions : Nat) :
    Keeps timeout (Open timeout (s :: rest))
      (ExceptT.lift (Session.awaitUntil s.process (s.started + limit.nanos) questions))
      (Answers fun waited past => match waited with
        | some found => Waited timeout s rest found past
        | none => Open timeout (s :: rest) past) := by
  induction questions with
  | zero => exact keeps_pure fun past hp => ⟨none, rfl, hp⟩
  | succ questions ih =>
    rw [Session.awaitUntil, lift_ask_bind]
    refine keeps_request_bind (D := fun answer past => match answer with
        | .ok (some status) => Waited timeout s rest (.ended status) past
        | .ok none => Open timeout (s :: rest) past ∧
            ∃ before, past = before ++ [⟨.poll s.process, .ok none⟩]
        | .error cause => Waited timeout s rest (.failed cause) past)
      (fun past hp => hp.unreaped) ?_ ?_
    · intro past answer hp _
      rcases answer with cause | _ | status
      · exact ⟨hp.concat rfl rfl (fun p h => nomatch h), .inr (.inl ⟨past, cause, .inr rfl⟩)⟩
      · exact ⟨hp.concat rfl rfl (fun p h => nomatch h), past, rfl⟩
      · exact hp.concat_reap rfl rfl fun p h => nomatch h
    · intro answer
      rcases answer with cause | _ | status
      · exact keeps_pure fun past hp => ⟨_, rfl, hp⟩
      · rw [lift_ask_bind]
        refine keeps_request_bind (D := fun now past => Open timeout (s :: rest) past ∧
          (s.started + limit.nanos ≤ now → TimedOut timeout s.process past))
          (fun _ _ => trivial) ?_ ?_
        · rintro past now ⟨hp, before, rfl⟩ -
          refine ⟨hp.concat_harmless trivial, fun hnow => ?_⟩
          refine ⟨limit, s.started, now, before, hlimit, ?_, hnow, by simp⟩
          exact ((hp.timed s List.mem_cons_self).2).append _
        · intro now
          by_cases hnow : s.started + limit.nanos ≤ now
          · rw [if_pos hnow]
            exact keeps_pure fun past hp => ⟨_, rfl, hp.1, .inl (hp.2 hnow)⟩
          · rw [if_neg hnow, lift_ask_bind]
            exact keeps_request_bind (fun _ _ => trivial)
              (fun past _ hp _ => hp.1.concat_harmless trivial) fun _ => ih
      · exact keeps_pure fun past hp => ⟨_, rfl, hp⟩

theorem deadline?_eq_some {started deadline : Host.Instant} {limit : Duration}
    (h : Session.deadline? started limit = some deadline) : deadline = started + limit.nanos := by
  simp only [Session.deadline?] at h
  split at h
  · exact (Option.some.inj h).symm
  · exact nomatch h

/-- a wait that is cut off leaves no shell -/
theorem keeps_await (htimeout : s.timeout = timeout) :
    Keeps timeout (Open timeout (s :: rest)) s.await fun result past => match result with
      | .ok found => Waited timeout s rest found past
      | .error _ => Open timeout rest past := by
  unfold Session.await
  split
  · exact keeps_mono keeps_awaitExit (fun _ hp => hp) fun _ _ ⟨_, he, hp⟩ => he ▸ hp
  · next limit hlimit =>
    split
    · exact keeps_bind_ok keeps_abandon fun _ => keeps_throw fun _ hp => hp
    · next deadline hdeadline =>
      obtain rfl := deadline?_eq_some hdeadline
      refine keeps_bind_ok (keeps_awaitUntil (htimeout.symm.trans hlimit) _) fun waited => ?_
      cases waited with
      | some found => exact keeps_pure fun _ hp => hp
      | none => exact keeps_bind_ok keeps_abandon fun _ => keeps_throw fun _ hp => hp

/-! ## finishing -/

theorem harmless_outputText (s : Session) : Asks IsHarmless s.outputText :=
  asks_bind (asks_request trivial) fun _ => asks_pure _

theorem keeps_conclude (found : Session.WaitResult) :
    Keeps timeout (Waited timeout s rest found) (s.conclude found) fun _ => Open timeout rest := by
  cases found with
  | failed cause => exact keeps_bind_ok keeps_terminate fun _ => keeps_fail fun _ hp => hp
  | expired =>
    refine keeps_bind_ok keeps_terminate fun _ => keeps_harmless' ?_
    exact asks_bind (harmless_outputText s) fun _ => asks_fail _
  | ended status =>
    refine keeps_harmless' (asks_bind (harmless_outputText s) fun output => ?_)
    refine asks_bind (asks_request trivial) fun read => ?_
    split
    · exact asks_fail _
    · exact asks_pure _

/-- a session that is finished leaves no shell, however it ends -/
theorem keeps_finish (htimeout : s.timeout = timeout) :
    Keeps timeout (Open timeout (s :: rest)) s.finish fun _ => Open timeout rest := by
  rw [Session.finish_eq]
  refine keeps_request_bind (fun _ _ => trivial) (fun _ _ hp _ => hp.concat_harmless trivial)
    fun _ => ?_
  exact keeps_bind (keeps_await htimeout) (fun found => keeps_conclude found) fun _ _ hp => hp

end

/-! ## starting -/

section

variable {timeout : Option Duration} {sessions : List Session}

theorem harmless_setUp (s : Session) (initCommand : String) :
    Asks IsHarmless (s.setUp initCommand) :=
  Session.setUp_asks fun _ _ => trivial

/-- the shell of a session that has just been spawned -/
theorem Calm.concat_spawn {past : List HostEvent} {program dir : String} {args : List String}
    {process : Host.Process} (h : Open timeout sessions past) :
    Calm (process :: sessions.map Session.process)
      (past ++ [⟨.spawn program args dir, .ok process⟩]) := by
  refine ⟨fun p => ?_, fun p hs => ?_⟩
  · rw [spawned_concat_spawn rfl, reaped_concat rfl, h.calm.counted, List.count_singleton,
      List.count_cons, Nat.add_assoc]
  · rcases askedSince_concat hs with he | ⟨hs, -⟩
    · exact nomatch he
    · exact h.calm.unsignalled p hs

/-- a session that is started adds its shell; one that cannot be started leaves none -/
def Started (timeout : Option Duration) (sessions : List Session) :
    Except Failure Session → List HostEvent → Prop
  | .ok s, past => Open timeout (s :: sessions) past
  | .error _, past => Open timeout sessions past

/-- a shell that has just been spawned belongs to no session yet -/
def Spawned (timeout : Option Duration) (sessions : List Session) (spec : SessionSpec) :
    Except SystemFault Host.Process → List HostEvent → Prop
  | .error _, past => Open timeout sessions past
  | .ok process, past => Calm (process :: sessions.map Session.process) past ∧
      Timed timeout sessions past ∧ ∃ before,
        past = before ++ [⟨.spawn spec.shell.program spec.shell.args spec.dir, .ok process⟩]

theorem keeps_startShell (worker : Nat) {spec : SessionSpec} (htimeout : spec.timeout = timeout) :
    Keeps timeout (Open timeout sessions) (Session.startShell worker spec)
      (Started timeout sessions) := by
  refine keeps_request_bind (D := Spawned timeout sessions spec) (fun _ _ => trivial) ?_ ?_
  · intro past answer hp _
    cases answer with
    | error cause => exact hp.concat rfl rfl fun p h => by cases h
    | ok process => exact ⟨Calm.concat_spawn hp, hp.timed.append _, past, rfl⟩
  intro answer
  cases answer with
  | error cause => exact keeps_fail fun _ hp => hp
  | ok process =>
    refine keeps_request_bind (D := fun started =>
        Open timeout (Session.fresh worker spec process started :: sessions))
      (fun _ _ => trivial) ?_ fun started => ?_
    · rintro past started ⟨hcalm, htimed, before, rfl⟩ -
      have hnew := hcalm.concat (e := ⟨.now, started⟩) rfl rfl fun p h => by cases h
      refine ⟨hnew, List.forall_mem_cons.mpr ⟨⟨htimeout, ?_⟩, ?_⟩⟩
      · exact ⟨before, spec.shell.program, spec.shell.args, spec.dir, [], by simp [Session.fresh]⟩
      · exact htimed.append _
    refine keeps_request_bind
      (D := fun _ => Open timeout (Session.fresh worker spec process started :: sessions))
      (fun _ _ => trivial) (fun _ _ hp _ => hp.concat_harmless trivial) fun attached => ?_
    cases attached with
    | error cause => exact keeps_bind_ok keeps_abandon fun _ => keeps_fail fun _ hp => hp
    | ok _ =>
      refine keeps_bind (keeps_harmless (harmless_setUp _ _)) (fun _ => ?_) ?_
      · exact keeps_pure fun _ hp => hp.1
      · rintro e past ⟨-, events, hr⟩
        cases (Session.runs_setUp hr).2

theorem keeps_start (worker : Nat) {spec : SessionSpec} (htimeout : spec.timeout = timeout) :
    Keeps timeout (Open timeout sessions) (Session.start worker spec)
      (Started timeout sessions) := by
  rw [Session.start_eq]
  have hremove : Asks IsHarmless (removeIfExists (statusFile spec.dir worker)) := by
    refine asks_bind (asks_request trivial) fun answer => ?_
    cases answer with
    | ok _ => exact asks_pure _
    | error cause =>
      show Asks IsHarmless (if cause = .notFound then pure () else fail (.io cause))
      split
      · exact asks_pure _
      · exact asks_fail _
  exact keeps_bind (keeps_harmless' hremove) (fun _ => keeps_startShell worker htimeout)
    fun _ _ hp => hp

/-- commands that are submitted change nothing about a shell -/
theorem keeps_submitAll {s : Session} {commands : List String} :
    Keeps timeout (Open timeout (s :: sessions)) (s.submitAll commands)
      (Answers fun s' past => s'.process = s.process ∧ Open timeout (s' :: sessions) past) := by
  have hsends : ∀ (commands : List String) (s : Session),
      Asks IsHarmless (s.submitAll commands) := by
    intro commands
    induction commands with
    | nil => exact fun s => asks_pure _
    | cons command commands ih =>
      exact fun s => asks_bind (asks_bind (asks_request trivial) fun _ => asks_pure _) fun _ => ih _
  refine keeps_mono (keeps_harmless (hsends commands s)) (fun _ hp => hp) ?_
  rintro result past ⟨hp, events, hr⟩
  obtain ⟨-, rfl⟩ := Session.runs_submitAll hr
  obtain ⟨htimed, hothers⟩ := List.forall_mem_cons.mp hp.timed
  exact ⟨_, rfl, rfl, hp.calm, List.forall_mem_cons.mpr ⟨htimed, hothers⟩⟩

/-! ## the stages -/

/-- what holds when sessions have been started for all tasks, or for some and not for all -/
def AllStarted (timeout : Option Duration) :
    Except Failure (List Session) → List HostEvent → Prop
  | .ok sessions, past => Open timeout sessions past
  | .error _, past => Open timeout [] past

/-- when a session cannot be started, the shells of those before are reaped -/
theorem keeps_startWorkers {spec : SessionSpec} (htimeout : spec.timeout = timeout)
    (tasks : List Task) :
    Keeps timeout (Open timeout sessions) (startWorkers spec sessions tasks)
      (AllStarted timeout) := by
  induction tasks generalizing sessions with
  | nil => exact keeps_pure fun _ hp => hp
  | cons task tasks ih =>
    have hstart : Keeps timeout (Open timeout sessions)
        (tryCatch (Session.start task.worker spec) fun failure => do
          Session.abandonAll sessions
          throw failure)
        fun result past => match result with
          | .ok s => Open timeout (s :: sessions) past
          | .error _ => Open timeout [] past :=
      keeps_tryCatch (keeps_start task.worker htimeout)
        (fun _ => keeps_bind_ok keeps_abandonAll fun _ => keeps_throw fun _ hp => hp)
        fun _ _ hp => hp
    refine keeps_bind hstart (fun s => ?_) fun _ _ hp => hp
    refine keeps_bind_ok keeps_submitAll fun s' => ?_
    exact keeps_mono ih (fun _ hp => hp.2.perm (List.perm_append_singleton s' sessions).symm)
      fun _ _ hp => hp

/-- finished sessions leave no shells, also when the wait for one is cut off -/
theorem keeps_finishWorkers (sessions : List Session) :
    Keeps timeout (Open timeout sessions) (finishWorkers sessions)
      fun _ => Open timeout [] := by
  induction sessions with
  | nil => exact keeps_pure fun _ hp => hp
  | cons s sessions ih =>
    have htimed : ∀ past, Open timeout (s :: sessions) past → s.timeout = timeout :=
      fun past hp => (hp.timed s List.mem_cons_self).1
    refine keeps_of_fact htimed fun htimeout => ?_
    refine keeps_bind_ok (keeps_lift_run (keeps_finish htimeout)) fun result => ?_
    have hrest : ∀ result : Except BuildError SessionReport, Keeps timeout (Open timeout sessions)
        (finishWorkers sessions >>= fun results => pure (result :: results))
        fun _ => Open timeout [] :=
      fun _ => keeps_bind ih (fun _ => keeps_pure fun _ hp => hp) fun _ _ hp => hp
    split
    · exact hrest _
    · exact hrest _
    · exact keeps_bind_ok keeps_abandonAll fun _ => keeps_throw fun _ hp => hp

/-- the compile stage leaves no shells, whatever fails -/
theorem keeps_compileObjects (r : Recipe) (dir : String) (workers : Nat) (c : Config) :
    Keeps c.timeout (Open c.timeout []) (compileObjects r dir workers c)
      fun _ => Open c.timeout [] := by
  refine keeps_bind (B := fun _ => Open c.timeout []) (keeps_ofExcept fun _ hp => hp)
    (fun tasks => ?_) fun _ _ hp => hp
  have htimeout : (SessionSpec.ofRecipe r dir c).timeout = c.timeout := rfl
  refine keeps_bind (keeps_startWorkers htimeout tasks) (fun sessions => ?_) fun _ _ hp => hp
  refine keeps_bind (keeps_finishWorkers sessions) (fun results => ?_) fun _ _ hp => hp
  have hcheck : Asks IsHarmless (checkWorkers dir .compile 0 results) :=
    checkWorkers_asks (fun _ _ => trivial) .compile 0 results
  refine keeps_bind (keeps_harmless' hcheck) (fun _ => ?_) fun _ _ hp => hp
  exact keeps_ofExcept fun _ hp => hp

end

end ShellWorkers
