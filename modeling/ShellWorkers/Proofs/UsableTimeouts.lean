import ShellWorkers.Proofs.ApartFromTime
import ShellWorkers.Proofs.PlannedWork

/-!
# Timeouts that can be used

The deadline of a session is the sum of its start and its timeout, and the clock has a last instant.
A timeout is usable where the sum is not behind that instant; then a build that comes to its end
before its timeout comes to the same end as without one.  Where the sum overflows, the failure is
noticed at the end of the session, behind all its commands.

* `deadline?_isSome_iff`      which timeouts have a deadline;
* `Session.tallies_finish`    a session with its deadline far away, beside one without;
* `tallies_build`             a build with such a timeout, beside one without;
* `ShowsClock.keepsTime`      the runs on a host with a clock that goes on;
* `build_within_timeout`      the same end as without a timeout, or an overflow.
-/

namespace ShellWorkers

open ShellWorkers.Action

/-! ## the deadlines of the clock -/

/-- a start has a deadline if and only if start and timeout together are before the end of the
clock -/
theorem deadline?_isSome_iff (started : Host.Instant) (limit : Duration) :
    (Session.deadline? started limit).isSome ↔
      started + limit.nanos < Nat.pow 2 63 * 1000000000 := by
  rw [← Nat.div_lt_iff_lt_mul (by decide)]
  simp only [Session.deadline?]
  split <;> simp_all

/-! ## sessions with and without a timeout -/

section

variable {P : Host.Request → Prop}

theorem removeIfExists_asks {path : String} (h : P (.removeFile path)) :
    Asks P (removeIfExists path) := by
  refine asks_bind (asks_request h) fun answer => ?_
  cases answer with
  | ok _ => exact asks_pure _
  | error cause =>
    show Asks P (if cause = .notFound then pure () else fail (.io cause))
    split
    · exact asks_pure _
    · exact asks_fail _

end

namespace Session

variable {limit : Duration} {m : Span limit} {s s' : Session}

/-- the second session has no timeout, and is otherwise the first one, whatever its start -/
structure Twins (m : Span limit) (s s' : Session) : Prop where
  timeout : s.timeout = some limit
  started : s.started ∈ m.instants
  same : ∃ t, s' = { s with timeout := none, started := t }

theorem tallies_startShell (worker : Nat) (spec : SessionSpec)
    (hlimit : spec.timeout = some limit) :
    m.Tallies (Twins m) (startShell worker spec)
      (startShell worker { spec with timeout := none }) := by
  refine Span.tallies_unseeing_bind (asks_request trivial) fun spawned => ?_
  cases spawned with
  | error cause => exact Span.tallies_fail _
  | ok process =>
    refine Span.tallies_bind Span.tallies_now fun started other hstarted => ?_
    refine Span.tallies_unseeing_bind (asks_request trivial) fun attached => ?_
    cases attached with
    | error cause =>
      exact Span.tallies_unseeing_bind (abandon_unseeing _) fun _ => Span.tallies_fail _
    | ok _ =>
      exact Span.tallies_unseeing_bind (setUp_asks fun _ _ => trivial) fun _ =>
        Span.tallies_pure ⟨hlimit, hstarted, other, rfl⟩

theorem tallies_start (worker : Nat) (spec : SessionSpec) (hlimit : spec.timeout = some limit) :
    m.Tallies (Twins m) (start worker spec) (start worker { spec with timeout := none }) := by
  rw [start_eq, start_eq]
  exact Span.tallies_unseeing_bind (removeIfExists_asks trivial) fun _ =>
    tallies_startShell worker spec hlimit

theorem tallies_submit (h : Twins m s s') (command : String) :
    m.Tallies (Twins m) (s.submit command) (s'.submit command) := by
  obtain ⟨t, rfl⟩ := h.same
  exact Span.tallies_unseeing_bind (asks_request trivial) fun _ =>
    Span.tallies_pure ⟨h.timeout, h.started, t, rfl⟩

theorem tallies_submitAll (h : Twins m s s') (commands : List String) :
    m.Tallies (Twins m) (s.submitAll commands) (s'.submitAll commands) := by
  induction commands generalizing s s' with
  | nil => exact Span.tallies_pure h
  | cons command commands ih => exact Span.tallies_bind (tallies_submit h command) fun _ _ => ih

theorem abandonAll_unseeing (sessions : List Session) :
    Asks IsUnseeing (abandonAll sessions) := by
  induction sessions with
  | nil => exact asks_pure _
  | cons s sessions ih => exact asks_bind s.abandon_unseeing fun _ => ih

theorem abandonAll_twins {sessions sessions' : List Session}
    (h : List.Forall₂ (Twins m) sessions sessions') :
    abandonAll sessions' = abandonAll sessions := by
  induction h with
  | nil => rfl
  | cons hs _ ih =>
    obtain ⟨t, rfl⟩ := hs.same
    rw [abandonAll, abandonAll, ih]
    rfl

/-- a failure behind which the open sessions are abandoned -/
theorem tallies_abandonAll_throw {α β : Type} {R : α → β → Prop} {sessions sessions' : List Session}
    (h : List.Forall₂ (Twins m) sessions sessions') (failure : Failure) :
    m.Tallies R (abandonAll sessions >>= fun _ => throw failure)
      (abandonAll sessions' >>= fun _ => throw failure) := by
  rw [abandonAll_twins h]
  exact Span.tallies_unseeing_bind (abandonAll_unseeing sessions) fun _ =>
    Span.tallies_throw failure

/-! ## the wait for a shell -/

theorem runs_awaitExit {process : Host.Process} {events : List HostEvent} {found : WaitResult}
    (h : Interaction.Runs (awaitExit process) events found) :
    (∃ status, events = [⟨.wait process, .ok status⟩] ∧ found = .ended status) ∨
      ∃ cause, events = [⟨.wait process, .error cause⟩] ∧ found = .failed cause := by
  obtain ⟨answer, rest, rfl, hrest⟩ := Interaction.runs_ask_bind h
  cases answer with
  | ok status =>
    obtain ⟨rfl, rfl⟩ := Interaction.runs_done hrest
    exact .inl ⟨status, rfl, rfl⟩
  | error cause =>
    obtain ⟨rfl, rfl⟩ := Interaction.runs_done hrest
    exact .inr ⟨cause, rfl, rfl⟩

/-- a session whose deadline overflows is not waited for -/
theorem runs_await_overflow {events : List HostEvent} {result : Except Failure WaitResult}
    (hlimit : s.timeout = some limit) (hdeadline : deadline? s.started limit = none)
    (h : Runs s.await events result) : result = .error .deadlineOverflow := by
  simp only [await, hlimit, hdeadline] at h
  rcases runs_bind h with ⟨e, _, habandon⟩ | ⟨_, first, second, _, _, hthrow⟩
  · exact (s.abandon_endsIn (P := fun _ => False) _ _ habandon).elim
  · exact (runs_throw hthrow).2

theorem untimed_waited (process : Host.Process) (instants : List Host.Instant) :
    untimed (waited process instants) = [] := by
  refine List.filterMap_eq_nil_iff.mpr fun e he => ?_
  obtain ⟨now, _, he⟩ := List.mem_flatMap.mp he
  simp only [foundRunning, List.cons_append, List.nil_append, List.mem_cons, List.not_mem_nil,
    or_false] at he
  rcases he with rfl | rfl | rfl <;> rfl

/-- In a span no shell is found at its deadline, so a shell that is polled ends as it does for one
who waits for it. -/
theorem tallies_await (h : Twins m s s') :
    m.Tallies (fun found found' => found = found' ∧ found ≠ .expired) s.await s'.await := by
  intro events plain result result' hr hr' halike hcovers
  obtain ⟨t, rfl⟩ := h.same
  cases hdeadline : deadline? s.started limit with
  | none => exact .inr ⟨runs_await_overflow h.timeout hdeadline hr, _, h.started, hdeadline⟩
  | some deadline =>
    obtain ⟨found', rfl, hwait⟩ := runs_lift hr'
    obtain ⟨instants, hbefore, ⟨found, last, hlast, rfl, rfl⟩ | ⟨tail, hlength, rfl, -, -⟩⟩ :=
      runs_await_deadline h.timeout hdeadline hr
    · rw [untimed_append, untimed_waited, List.nil_append] at halike ⊢
      cases hlast with
      | ended status =>
        rcases runs_awaitExit hwait with ⟨status', rfl, rfl⟩ | ⟨cause', rfl, rfl⟩
        · obtain rfl := Except.ok.inj halike.head
          exact .inl ⟨.ok ⟨rfl, nofun⟩, rfl⟩
        · exact nomatch halike.head
      | failed cause =>
        rcases runs_awaitExit hwait with ⟨status', rfl, rfl⟩ | ⟨cause', rfl, rfl⟩
        · exact nomatch halike.head
        · obtain rfl := Except.error.inj halike.head
          exact .inl ⟨.ok ⟨rfl, nofun⟩, rfl⟩
      | expired now late =>
        have hnow : now ∈ m.instants := hcovers.back.instants List.mem_cons_self
        have hearly := m.brief _ h.started _ hnow
        rw [deadline?_eq_some hdeadline] at late
        exact absurd hearly (Nat.not_lt_of_le late)
    · exact absurd hlength (length_ne_pollLimit_of_keepsTime hdeadline hbefore
        hcovers.front.keepsTime)

theorem tallies_finish (h : Twins m s s') : m.Tallies Eq s.finish s'.finish := by
  rw [finish_eq, finish_eq]
  obtain ⟨t, rfl⟩ := h.same
  refine Span.tallies_unseeing_bind (asks_request trivial) fun _ =>
    Span.tallies_bind (tallies_await h) ?_
  rintro found _ ⟨rfl, hfound⟩
  -- only the report of a timeout tells it
  cases found with
  | expired => exact absurd rfl hfound
  | ended status => exact Span.tallies_unseeing (s.conclude_unseeing (.ended status))
  | failed cause => exact Span.tallies_unseeing (s.conclude_unseeing (.failed cause))

end Session

/-! ## builds with and without a timeout -/

section

variable {limit : Duration} {m : Span limit}

open Session (Twins)

theorem tallies_startWorkers (spec : SessionSpec) (hlimit : spec.timeout = some limit)
    (tasks : List Task) {started started' : List Session}
    (h : List.Forall₂ (Twins m) started started') :
    m.Tallies (List.Forall₂ (Twins m)) (startWorkers spec started tasks)
      (startWorkers { spec with timeout := none } started' tasks) := by
  induction tasks generalizing started started' with
  | nil => exact Span.tallies_pure h
  | cons task tasks ih =>
    have hstart := Span.tallies_tryCatch (Session.tallies_start (m := m) task.worker spec hlimit)
      (Session.tallies_abandonAll_throw h) fun _ _ hr => (runs_abandonAll_throw hr).1
    refine Span.tallies_bind hstart fun s s' hs => ?_
    exact Span.tallies_bind (Session.tallies_submitAll hs task.commands) fun s s' hs =>
      ih (List.rel_append h (.cons hs .nil))

theorem tallies_finishWorkers {sessions sessions' : List Session}
    (h : List.Forall₂ (Twins m) sessions sessions') :
    m.Tallies Eq (finishWorkers sessions) (finishWorkers sessions') := by
  induction h with
  | nil => exact Span.tallies_pure rfl
  | @cons _ _ sessions sessions' hs hrest ih =>
    have hmore : ∀ kept : Except BuildError SessionReport, m.Tallies Eq
        (finishWorkers sessions >>= fun more => pure (kept :: more))
        (finishWorkers sessions' >>= fun more => pure (kept :: more)) := fun kept =>
      Span.tallies_bind ih fun _ _ hsame => Span.tallies_pure (congrArg _ hsame)
    refine Span.tallies_lift_run_bind (Session.tallies_finish hs) (fun result result' hsame => ?_)
      fun events result hr => (runs_abandonAll_throw hr).1
    obtain rfl := hsame.eq
    rcases result with failure | report
    · cases failure with
      | error e => exact hmore (.error e)
      | _ => exact Session.tallies_abandonAll_throw hrest _
    · exact hmore (.ok report)

theorem tallies_compileObjects (r : Recipe) (dir : String) (workers : Nat) (c : Config) :
    m.Tallies Eq (compileObjects r dir workers (c.withTimeout limit))
      (compileObjects r dir workers { c with timeout := none }) := by
  refine Span.tallies_unseeing_bind (asks_ofExcept _) fun tasks => ?_
  refine Span.tallies_bind (tallies_startWorkers (.ofRecipe r dir (c.withTimeout limit)) rfl tasks
    .nil) fun sessions sessions' hsessions => ?_
  refine Span.tallies_bind (tallies_finishWorkers hsessions) fun results _ hsame => hsame ▸ ?_
  exact Span.tallies_unseeing (asks_bind (checkWorkers_asks (fun _ _ => trivial) _ _ _) fun _ =>
    asks_ofExcept _)

theorem tallies_linkLibrary (r : Recipe) (dir : String) (objects : List String) (c : Config) :
    m.Tallies Eq (linkLibrary r dir objects (c.withTimeout limit))
      (linkLibrary r dir objects { c with timeout := none }) := by
  refine Span.tallies_bind (Session.tallies_start linkWorker
    (.ofRecipe r dir (c.withTimeout limit)) rfl) fun s s' hs => ?_
  refine Span.tallies_bind (Session.tallies_submit hs _) fun s s' hs => ?_
  refine Span.tallies_bind (tallies_finishWorkers (.cons hs .nil)) fun results _ hsame =>
    hsame ▸ ?_
  exact Span.tallies_unseeing (checkWorkers_asks (fun _ _ => trivial) _ _ _)

theorem removeStatusFiles_asks {P : Host.Request → Prop} {dir : String}
    (h : ∀ worker, P (.removeFile (statusFile dir worker))) (workers : Nat) :
    Asks P (removeStatusFiles dir workers) := by
  rw [removeStatusFiles]
  induction List.range workers with
  | nil => exact asks_pure _
  | cons worker more ih => exact asks_bind (removeIfExists_asks (h worker)) fun _ => ih

theorem isUnseeing_of_isLook (r : Host.Request) (h : IsLook r) : IsUnseeing r := by
  cases r <;> trivial

theorem absolute_unseeing (path : String) : Asks IsUnseeing (absolute path) :=
  (absolute_asks path).mono isUnseeing_of_isLook

/-- the cleanup and the verification behind both stages -/
theorem cleanUp_unseeing (p : BuildPlan) (library : String) :
    Asks IsUnseeing (p.cleanUp library) := by
  refine asks_bind (removeStatusFiles_asks (fun _ => trivial) _) fun _ => ?_
  split
  · refine asks_bind (asks_bind (asks_request trivial) fun loaded => ?_) fun _ => asks_pure _
    split
    · exact asks_pure _
    · exact asks_fail _
  · exact asks_pure _

theorem tallies_build (r : Recipe) (dir : String) (c : Config) :
    m.Tallies Eq (build r dir (c.withTimeout limit)) (build r dir { c with timeout := none }) := by
  refine Span.tallies_unseeing_bind ((checkInputs_asks r dir).mono isUnseeing_of_isLook) fun _ =>
    Span.tallies_unseeing_bind (absolute_unseeing dir) fun dir =>
      Span.tallies_unseeing_bind (asks_request trivial) fun cores => ?_
  refine Span.tallies_bind (tallies_compileObjects r dir _ c) fun objects _ hsame => hsame ▸ ?_
  refine Span.tallies_unseeing_bind
    (asks_bind (absolute_unseeing dir) fun _ => asks_pure _) fun library => ?_
  refine Span.tallies_bind (tallies_linkLibrary r dir objects c) fun _ _ _ => ?_
  exact Span.tallies_unseeing (cleanUp_unseeing ⟨r, dir, workerCount c.threads cores, c⟩ library)

end

/-! ## a build that succeeds -/

section

variable {limit : Duration} {events : List HostEvent}

/-- an action that comes to an answer goes on from what its first part has come to -/
theorem runs_bind_ok {α β : Type} {x : Action α} {f : α → Action β} {b : β}
    (h : Runs (x >>= f) events (.ok b)) :
    ∃ a first second, events = first ++ second ∧ Runs x first (.ok a) ∧
      Runs (f a) second (.ok b) := by
  rcases runs_bind h with ⟨_, he, _⟩ | hok
  · exact nomatch he
  · exact hok

theorem Session.runs_finish_overflow {s : Session} {result : Except Failure SessionReport}
    (hlimit : s.timeout = some limit) (hdeadline : Session.deadline? s.started limit = none)
    (h : Runs s.finish events result) : result = .error .deadlineOverflow := by
  rw [finish_eq] at h
  obtain ⟨_, rest, rfl, hrest⟩ := runs_request_bind h
  rcases runs_bind hrest with ⟨e, rfl, hawait⟩ | ⟨found, first, second, _, hawait, _⟩
  · rw [Except.error.inj (runs_await_overflow hlimit hdeadline hawait)]
  · exact nomatch runs_await_overflow hlimit hdeadline hawait

/-- the session that packs the objects has come to its end, so it has had a deadline -/
theorem exists_deadline_of_runs_linkLibrary {r : Recipe} {dir : String} {objects : List String}
    {c : Config} (h : Runs (linkLibrary r dir objects (c.withTimeout limit)) events (.ok ())) :
    ∃ t ∈ readings events, (Session.deadline? t limit).isSome := by
  rcases runs_linkLibrary h with ⟨_, he, _⟩ | ⟨s, first, second, rfl, hopens, hend⟩
  · exact nomatch he
  obtain ⟨removal, process, started, -, rfl, rfl⟩ := hopens
  obtain ⟨results, _, _, rfl, hresults, -⟩ := runs_bind_ok hend
  rcases runs_finishWorkers hresults with ⟨kept, _, _, rfl, hfinish, -⟩ | ⟨_, _, _, _, he, _⟩
  · refine ⟨started, mem_readings.mpr (by simp [Session.startEvents]), ?_⟩
    rw [Option.isSome_iff_ne_none]
    intro hdeadline
    have hkept := Session.runs_finish_overflow rfl hdeadline hfinish
    cases kept <;> exact nomatch hkept
  · exact nomatch he

/-- no build succeeds in which no start has a deadline -/
theorem exists_deadline_of_runs_build {r : Recipe} {dir library : String} {c : Config}
    (h : Runs (build r dir (c.withTimeout limit)) events (.ok library)) :
    ∃ t ∈ readings events, (Session.deadline? t limit).isSome := by
  -- the link stage stands behind five others: inputs, directory, cores, objects, library
  obtain ⟨_, _, _, rfl, -, h⟩ := runs_bind_ok h
  obtain ⟨_, _, _, rfl, -, h⟩ := runs_bind_ok h
  obtain ⟨_, _, _, rfl, -, h⟩ := runs_bind_ok h
  obtain ⟨_, _, _, rfl, -, h⟩ := runs_bind_ok h
  obtain ⟨_, _, _, rfl, -, h⟩ := runs_bind_ok h
  obtain ⟨_, _, _, rfl, hlink, -⟩ := runs_bind_ok h
  obtain ⟨t, ht, hdeadline⟩ := exists_deadline_of_runs_linkLibrary hlink
  refine ⟨t, ?_, hdeadline⟩
  simp only [readings_append, List.mem_append, ht, or_true, true_or]

end

/-! ## hosts with a clock -/

/-- a host that shows a clock, which never goes back and goes on in a pause -/
structure ShowsClock {σ : Type} (env : Interaction.Environment Host.Answer σ)
    (clock : σ → Host.Instant) : Prop where
  shown : ∀ w, (env .now w).1 = clock w
  goesOn : ∀ r w, clock w + paused [⟨r, (env r w).1⟩] ≤ clock (env r w).2

section

variable {σ α : Type} {env : Interaction.Environment Host.Answer σ} {clock : σ → Host.Instant}
  {events : List HostEvent}

theorem paused_append (first second : List HostEvent) :
    paused (first ++ second) = paused first + paused second := by
  rw [paused, List.map_append, List.sum_append]
  rfl

/-- what is read behind some pauses is as late as they last -/
theorem ShowsClock.le_of_events (h : ShowsClock env clock) (x : Interaction Host.Answer α) (w : σ)
    {between behind : List HostEvent} {t : Host.Instant}
    (hevents : x.events env w = between ++ ⟨.now, t⟩ :: behind) : clock w + paused between ≤ t := by
  induction x generalizing w between with
  | done a => simp [Interaction.events] at hevents
  | ask r next ih =>
    rw [Interaction.events_ask] at hevents
    cases between with
    | nil =>
      obtain ⟨hhead, -⟩ := List.cons.inj hevents
      obtain ⟨rfl, hanswer⟩ := Sigma.mk.inj hhead
      rw [← eq_of_heq hanswer, h.shown]
      exact Nat.le_refl _
    | cons e between =>
      obtain ⟨rfl, hrest⟩ := List.cons.inj hevents
      have hstep := h.goesOn r w
      have hlater := ih _ _ hrest
      calc clock w + paused (⟨r, (env r w).1⟩ :: between)
          = clock w + paused [⟨r, (env r w).1⟩] + paused between := by
            rw [← List.singleton_append, paused_append, ← Nat.add_assoc]
        _ ≤ clock (env r w).2 + paused between := Nat.add_le_add_right hstep _
        _ ≤ t := hlater

/-- the runs on such a host keep time -/
theorem ShowsClock.keepsTime (h : ShowsClock env clock) (x : Interaction Host.Answer α) (w : σ) :
    KeepsTime (x.events env w) := by
  intro before t between t' behind hevents
  induction x generalizing w before with
  | done a => simp [Interaction.events] at hevents
  | ask r next ih =>
    rw [Interaction.events_ask] at hevents
    cases before with
    | nil =>
      obtain ⟨hhead, hrest⟩ := List.cons.inj hevents
      obtain ⟨rfl, hanswer⟩ := Sigma.mk.inj hhead
      rw [← eq_of_heq hanswer, h.shown]
      calc clock w + paused between
          ≤ clock (env .now w).2 + paused between :=
            Nat.add_le_add_right (Nat.le_trans (Nat.le_add_right _ _) (h.goesOn .now w)) _
        _ ≤ t' := h.le_of_events _ _ hrest
    | cons e before =>
      obtain ⟨-, hrest⟩ := List.cons.inj hevents
      exact ih _ _ before hrest

/-- what is always answered the same is answered alike -/
theorem answeredAlike_of_eq (answer : (r : Host.Request) → Host.Answer r)
    {first second : List HostEvent} (hfirst : ∀ e ∈ first, e.2 = answer e.1)
    (hsecond : ∀ e ∈ second, e.2 = answer e.1) : AnsweredAlike first second := by
  rintro past ⟨r, a⟩ ⟨r', a'⟩ behind behind' rfl rfl ⟨⟩
  have ha : a = answer r := hfirst _ (List.mem_append_right _ List.mem_cons_self)
  have ha' : a' = answer r := hsecond _ (List.mem_append_right _ List.mem_cons_self)
  rw [ha, ha']

end

/-! ## builds with any timeout -/

/-- **A timeout is as good as none until it is due, if its deadline is on the clock.**  A start has
a deadline if and only if start and timeout together are before the last instant.  A build that is
over before its timeout comes to the same result, and asks the same apart from time, as one without
a timeout on a host that answers alike; or else a session was started so late that it has no
deadline, and the sum overflows.  A build in which no start has a deadline does not succeed. -/
theorem build_within_timeout (r : Recipe) (dir : String) (c : Config) (limit : Duration) :
    (∀ started, (Session.deadline? started limit).isSome ↔
      started + limit.nanos < Nat.pow 2 63 * 1000000000) ∧
    (∀ events plain result result', Runs (build r dir (c.withTimeout limit)) events result →
      Runs (build r dir { c with timeout := none }) plain result' →
      AnsweredAlike (untimed events) (untimed plain) → KeepsTime events → Outlasts limit events →
      (result = result' ∧ untimed events = untimed plain) ∨
        (result = .error .deadlineOverflow ∧
          ∃ t ∈ readings events, Session.deadline? t limit = none)) ∧
    ∀ events library, Runs (build r dir (c.withTimeout limit)) events (.ok library) →
      ∃ t ∈ readings events, (Session.deadline? t limit).isSome := by
  refine ⟨fun started => deadline?_isSome_iff started limit, ?_,
    fun _ _ => exists_deadline_of_runs_build⟩
  intro events plain result result' hr hr' halike htime houtlasts
  have hcovers : (Span.mk (readings events) houtlasts).Covers events := ⟨htime, fun _ => id⟩
  rcases tallies_build r dir c _ _ _ _ hr hr' halike hcovers with ⟨hsame, huntimed⟩ | hoverflows
  · exact .inl ⟨hsame.eq, huntimed⟩
  · exact .inr hoverflows

/-! ## shells that take their time -/

/-- the answers of a host on which every command succeeds -/
def steadyAnswer (r : Host.Request) : Host.Answer r := (scriptedHost (fun _ => [0]) r ()).1

/-- A host on which every command succeeds, and every shell runs until 25 ms past the beginning;
waiting and pausing move its clock. -/
def slowHost : Interaction.Environment Host.Answer Host.Instant
  | .poll _, now => (.ok (if now < 25000000 then none else some (.exited 0)), now)
  | .wait _, now => (.ok (.exited 0), max now 25000000)
  | .now, now => (now, now)
  | .pause amount, now => ((), now + amount.nanos)
  | r, now => (steadyAnswer r, now)

theorem showsClock_slowHost : ShowsClock slowHost id := by
  refine ⟨fun _ => rfl, fun r now => ?_⟩
  cases r with
  | wait p => exact Nat.le_max_left now 25000000
  | _ => exact Nat.le_refl _

/-- apart from time the host answers everything in one way -/
theorem slowHost_untimed {α : Type} (x : Host.Program α) (now : Host.Instant) :
    ∀ e ∈ untimed (x.events slowHost now), e.2 = steadyAnswer e.1 := by
  intro e he
  obtain ⟨⟨r, answer⟩, hmem, hkept⟩ := List.mem_filterMap.mp he
  obtain ⟨t, ht⟩ := Interaction.exists_state_of_mem_events slowHost x now _ hmem
  obtain rfl : answer = (slowHost r t).1 := ht
  cases r with
  | poll p =>
    by_cases hearly : t < 25000000
    · simp [slowHost, hearly, untimed?] at hkept
    · obtain rfl : ⟨.wait p, .ok (.exited 0)⟩ = e := by
        simpa [slowHost, hearly, untimed?] using hkept
      rfl
  | now => exact nomatch hkept
  | pause amount => exact nomatch hkept
  | _ =>
    obtain rfl := Option.some.inj hkept
    rfl

def twoSources : Recipe := { threeSources with sources := ["a.c", "b.c"] }

def hourConfig : Config := sampleConfig.withTimeout (.ofSeconds 3600)

/-- a build with an hour for its shells -/
def hourBuild : Action String :=
  build twoSources "/build" (sampleConfig.withTimeout (.ofSeconds 3600))

def plainBuild : Action String := build twoSources "/build" { sampleConfig with timeout := none }

/-- With an hour for its shells, each of which is polled, the build comes to the same library and
asks the same apart from time. -/
theorem build_within_timeout_slow :
    (outcome slowHost hourBuild 0).1 = .ok "/build/sample.so" ∧
      (outcome slowHost plainBuild 0).1 = .ok "/build/sample.so" ∧
      untimed (trace slowHost hourBuild 0) = untimed (trace slowHost plainBuild 0) ∧
      ∃ t ∈ readings (trace slowHost hourBuild 0),
        (Session.deadline? t (.ofSeconds 3600)).isSome := by
  have hresult : (outcome slowHost hourBuild 0).1 = .ok "/build/sample.so" := by decide +kernel
  have hruns := runs_trace slowHost hourBuild 0
  rw [hresult] at hruns
  obtain ⟨-, hplain, hdeadline⟩ :=
    build_within_timeout twoSources "/build" sampleConfig (.ofSeconds 3600)
  have halike : AnsweredAlike (untimed (trace slowHost hourBuild 0))
      (untimed (trace slowHost plainBuild 0)) :=
    answeredAlike_of_eq steadyAnswer (slowHost_untimed hourBuild.run 0)
      (slowHost_untimed plainBuild.run 0)
  have houtlasts : Outlasts (.ofSeconds 3600) (trace slowHost hourBuild 0) := by
    unfold Outlasts
    decide +kernel
  rcases hplain _ _ _ _ hruns (runs_trace slowHost plainBuild 0) halike
    (showsClock_slowHost.keepsTime hourBuild.run 0) houtlasts with ⟨hsame, huntimed⟩ | ⟨he, -⟩
  · exact ⟨hresult, hsame.symm, huntimed, hdeadline _ _ hruns⟩
  · exact nomatch he

/-! ## a timeout that cannot be used -/

namespace CommandLine

/-- the smallest timeout whose deadline is never on the clock -/
def endlessArguments : List String := ["build", "pair.json", "--timeout", "9223372036854775808"]

/-- The command line accepts 2 ^ 63 seconds, from which every deadline is behind the last instant:
a build whose commands all succeed ends in a panic, and without the timeout it succeeds. -/
theorem build_endless_timeout_panics :
    Command.ofArguments endlessArguments =
        .ok (.build "pair.json" none none (some (Nat.pow 2 63)) false false) ∧
      (∀ started, Session.deadline? started (.ofSeconds (Nat.pow 2 63)) = none) ∧
      ((execute pairSurroundings endlessArguments).runState pairHost ()).1.code =
        Outcome.abortCode ∧
      ((execute pairSurroundings ["build", "pair.json"]).runState pairHost ()).1.code = 0 := by
  refine ⟨by decide +kernel, fun started => ?_, by decide +kernel, by decide +kernel⟩
  rw [← Option.not_isSome_iff_eq_none, deadline?_isSome_iff]
  exact Nat.not_lt_of_le (Nat.le_add_left _ started)

end CommandLine

end ShellWorkers
