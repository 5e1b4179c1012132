import ShellWorkers.Proofs.FanOut
import ShellWorkers.Proofs.Reaping

/-!
# Sessions that are held

The owner of a session need not remember whether its shell has been reaped, for the calls that
consume the session see to it.  `Held` is a session that does remember it, in a flag: dropping it
ends the shell unless the flag is set, so no way out of a call can forget the shell or end it
twice.  Both ways ask the same (`Held.start_eq`, `Held.finish_eq`, `Held.drop_eq`), and the flag
tells the truth whenever it is read: it is set exactly if the shell has been reaped.

* `Session.life`        a session from its start to the call that consumes it;
* `Custody`             what a caller can rely on: all shells are reaped, each once, and no group is
                        killed without a reason, twice, or too late;
* `shells_in_custody`   so it is for sessions and for the compile stage.
-/

namespace ShellWorkers

open ShellWorkers.Action

/-! ## the flag -/

structure Held where
  session : Session
  /-- the queue of input has not been closed -/
  inputOpen : Bool
  /-- the shell has been reaped -/
  finished : Bool

namespace Held

/-- a session as it is held between two calls -/
def of (s : Session) : Held := ⟨s, true, false⟩

def closeInput (h : Held) : Action Held := do
  if h.inputOpen then request (.closeInput h.session.process)
  pure { h with inputOpen := false }

/-- kills the shell with all of its group, and reaps it -/
def terminate (h : Held) : Action Held := do
  h.session.terminate
  pure { h with finished := true }

/-- what happens when it is no longer held, wherever that is -/
def drop (h : Held) : Action Unit :=
  if h.finished then pure ()
  else do
    let h ← h.closeInput
    let _ ← h.terminate

/-- starts a shell; from where it is there, a failure drops the session -/
def start (worker : Nat) (spec : SessionSpec) : Action Held := do
  removeIfExists (statusFile spec.dir worker)
  match ← request (.spawn spec.shell.program spec.shell.args spec.dir) with
  | .error cause => fail (.spawn worker spec.shell.toLine cause)
  | .ok process =>
    let started ← request .now
    let h := of (Session.fresh worker spec process started)
    match ← request (.attach process) with
    | .error cause =>
      h.drop
      fail (.io cause)
    | .ok _ =>
      h.session.setUp spec.initCommand
      pure h

def submit (h : Held) (command : String) : Action Held := do
  return { h with session := ← h.session.submit command }

def submitAll (h : Held) : List String → Action Held
  | [] => pure h
  | c :: cs => do (← h.submit c).submitAll cs

/-- what is done once the wait for the shell is over: a shell that has ended is reaped, and one
that failed to end in time is killed -/
def settle (h : Held) : Session.WaitResult → Action (Held × Except BuildError SessionReport)
  | .failed cause => pure (h, .error (.io cause))
  | .expired => do
    let h ← h.terminate
    let output ← h.session.outputText
    pure (h, .error (.timeout h.session.worker h.session.limit output))
  | .ended _ => do
    let h := { h with finished := true }
    let output ← h.session.outputText
    match h.session.statusVerdict output (← request (.readFile h.session.statusPath)) with
    | .error e => pure (h, .error e)
    | .ok codes => pure (h, .ok ⟨output, codes⟩)

/-- all of the end of a session but that it is no longer held then -/
def finishing (h : Held) : Action (Held × Except BuildError SessionReport) := do
  let h ← h.closeInput
  h.settle (← h.session.await)

def finish (h : Held) : Action SessionReport := do
  let (h, report) ← h.finishing
  h.drop
  match report with
  | .error e => fail e
  | .ok report => pure report

/-! ## the same requests -/

theorem drop_eq (s : Session) : (of s).drop = s.abandon := by
  simp [drop, of, closeInput, terminate, Session.abandon]

theorem start_eq (worker : Nat) (spec : SessionSpec) :
    start worker spec = Session.start worker spec >>= fun s => pure (of s) := by
  rw [Session.start_eq, start, bind_assoc]
  congr
  funext _
  rw [Session.startShell, bind_assoc]
  congr
  funext spawned
  cases spawned with
  | error cause => rfl
  | ok process =>
    simp only [bind_assoc]
    congr
    funext started
    congr
    funext attached
    cases attached with
    | error cause => 
      simp only [drop_eq, bind_assoc]
      congr
    | ok _ => simp [of]

theorem submitAll_eq (s : Session) (commands : List String) :
    (of s).submitAll commands = s.submitAll commands >>= fun s => pure (of s) := by
  induction commands generalizing s with
  | nil => rfl
  | cons command commands ih =>
    have hsubmit : (of s).submit command = s.submit command >>= fun s => pure (of s) := by
      simp [submit, of]
    rw [submitAll, Session.submitAll, hsubmit, bind_assoc, bind_assoc]
    congr
    funext s
    exact ih s

theorem finish_eq (s : Session) : (of s).finish = s.finish := by
  simp only [finish, finishing, closeInput, of, Session.finish_eq, bind_assoc, if_true]
  simp only [pure_bind]
  congr
  funext _
  congr
  funext found
  cases found with
  | failed cause => simp [settle, drop, terminate, closeInput, Session.conclude]
  | expired => simp [settle, drop, terminate, Session.conclude]
  | ended status =>
    simp only [settle, Session.conclude, bind_assoc]
    congr
    funext output
    congr
    funext read
    cases s.statusVerdict output read with
    | error e => simp [drop]
    | ok codes => simp [drop]

/-! ## the flag tells the truth -/

/-- the flag is set exactly if the shell has been reaped -/
def Truthful (h : Held) (past : List HostEvent) : Prop :=
  h.finished = true ↔ Reaped h.session.process past

section

variable {timeout : Option Duration} {past : List HostEvent}

theorem truthful_of_open {h : Held} (hopen : Open timeout [h.session] past)
    (hflag : h.finished = false) : h.Truthful past := by
  have hunreaped := hopen.unreaped
  unfold Unreaped at hunreaped
  unfold Truthful Reaped
  rw [hflag]
  constructor
  · intro hset
    exact nomatch hset
  · intro hreaped
    omega

theorem truthful_of_reaped {h : Held} (hopen : Open timeout [] past)
    (hflag : h.finished = true) : h.Truthful past :=
  ⟨fun _ => hopen.reaped _, fun _ => hflag⟩

/-- between two calls -/
theorem keeps_submitted (worker : Nat) {spec : SessionSpec} (htimeout : spec.timeout = timeout)
    (commands : List String) :
    Keeps timeout (Open timeout []) (start worker spec >>= fun h => h.submitAll commands)
      fun result past => ∀ h, result = .ok h →
        h = of h.session ∧ Open timeout [h.session] past := by
  rw [start_eq, bind_assoc]
  refine keeps_bind (keeps_start worker htimeout) (fun s => ?_) fun _ _ _ _ he => nomatch he
  rw [pure_bind, submitAll_eq]
  refine keeps_bind_ok keeps_submitAll fun s' => keeps_pure fun past hp h he => ?_
  obtain rfl := Except.ok.inj he
  exact ⟨rfl, hp.2⟩

theorem keeps_settle {s : Session} (found : Session.WaitResult) :
    Keeps timeout (Waited timeout s [] found) (settle ⟨s, false, false⟩ found)
      fun result past => ∀ h report, result = .ok (h, report) → h.Truthful past := by
  have hreaped : ∀ past (report : Except BuildError SessionReport), Open timeout [] past →
      ∀ (h : Held) report', (.ok (⟨s, false, true⟩, report) : Except Failure _) = .ok (h, report') →
        h.Truthful past := by
    intro past report hp h report' he
    obtain ⟨rfl, -⟩ := Prod.mk.inj (Except.ok.inj he)
    exact truthful_of_reaped hp rfl
  cases found with
  | failed cause =>
    refine keeps_pure fun past hp h report he => ?_
    obtain ⟨rfl, -⟩ := Prod.mk.inj (Except.ok.inj he)
    exact truthful_of_open hp.1 rfl
  | expired =>
    have hterminate : terminate ⟨s, false, false⟩ =
        s.terminate >>= fun _ => pure ⟨s, false, true⟩ := rfl
    rw [settle, hterminate, bind_assoc]
    refine keeps_bind_ok keeps_terminate fun _ => ?_
    rw [pure_bind]
    refine keeps_bind (keeps_harmless' (harmless_outputText s)) (fun output => ?_)
      fun _ _ _ _ _ he => nomatch he
    exact keeps_pure fun past hp => hreaped past _ hp
  | ended status =>
    refine keeps_bind (keeps_harmless' (harmless_outputText s)) (fun output => ?_)
      fun _ _ _ _ _ he => nomatch he
    refine keeps_request_bind (fun _ _ => trivial) (fun _ _ hp _ => hp.concat_harmless trivial)
      fun read => ?_
    split
    · exact keeps_pure fun past hp => hreaped past _ hp
    · exact keeps_pure fun past hp => hreaped past _ hp

/-- where a session that has been finished is no longer held -/
theorem keeps_finishing {s : Session} (htimeout : s.timeout = timeout) :
    Keeps timeout (Open timeout [s]) (of s).finishing fun result past =>
      ∀ h report, result = .ok (h, report) → h.Truthful past := by
  have hfinishing : (of s).finishing =
      request (.closeInput s.process) >>= fun _ => s.await >>= settle ⟨s, false, false⟩ := rfl
  rw [hfinishing]
  refine keeps_request_bind (fun _ _ => trivial) (fun _ _ hp _ => hp.concat_harmless trivial)
    fun _ => ?_
  exact keeps_bind (keeps_await htimeout) (fun found => keeps_settle found)
    fun _ _ _ _ _ he => nomatch he

/-- behind a whole life, but for the end of it -/
theorem keeps_finished (worker : Nat) {spec : SessionSpec} (htimeout : spec.timeout = timeout)
    (commands : List String) :
    Keeps timeout (Open timeout [])
      (start worker spec >>= fun h => h.submitAll commands >>= finishing)
      fun result past => ∀ h report, result = .ok (h, report) → h.Truthful past := by
  rw [← bind_assoc]
  refine keeps_bind (keeps_submitted worker htimeout commands) (fun h => ?_)
    fun _ _ _ _ _ he => nomatch he
  have hfact : ∀ past, (∀ h', (.ok h : Except Failure Held) = .ok h' →
      h' = of h'.session ∧ Open timeout [h'.session] past) →
        h = of h.session ∧ h.session.timeout = timeout := by
    intro past hp
    obtain ⟨hof, hopen⟩ := hp h rfl
    exact ⟨hof, (hopen.timed _ List.mem_cons_self).1⟩
  refine keeps_of_fact hfact fun ⟨hof, hsession⟩ => ?_
  rw [hof]
  exact keeps_mono (keeps_finishing hsession) (fun _ hp => (hp _ rfl).2) fun _ _ hp => hp

end

end Held

/-! ## custody -/

/-- A session from its start to the call that consumes it: it is finished, or dropped.  One that
cannot be started ends there. -/
def Session.life (worker : Nat) (spec : SessionSpec) (commands : List String) (finishes : Bool) :
    Action Unit := do
  let s ← (← Session.start worker spec).submitAll commands
  if finishes then
    let _ ← s.finish
  else s.abandon

/-- What a caller can rely on once the trace is over: every shell that was started has been reaped,
once, and on the way none was asked about, killed, or killed with its group without being
allowed. -/
structure Custody (timeout : Option Duration) (events : List HostEvent) : Prop where
  reaped : ∀ p, Reaped p events
  allowed : ∀ before e behind, events = before ++ e :: behind → Allowed timeout before e.1

theorem custody_of_keeps {timeout : Option Duration} {α : Type} {x : Action α}
    (h : Keeps timeout (Open timeout []) x fun _ => Open timeout []) {events : List HostEvent}
    {result : Except Failure α} (hr : Runs x events result) (htrust : ReapsKilled events) :
    Custody timeout events := by
  obtain ⟨steps, hcourse, hopen⟩ := h [] events result (fun _ => open_nil timeout) hr
  obtain rfl := events_of_custody hcourse
  refine ⟨fun p => (hopen htrust).reaped p, fun before e behind hsplit => ?_⟩
  refine hcourse.licensed hsplit ?_
  rw [hsplit] at htrust
  exact htrust.of_append

theorem keeps_life (worker : Nat) (spec : SessionSpec) (commands : List String)
    (finishes : Bool) :
    Keeps spec.timeout (Open spec.timeout []) (Session.life worker spec commands finishes)
      fun _ => Open spec.timeout [] := by
  refine keeps_bind (keeps_start worker rfl) (fun s => ?_) fun _ _ hp => hp
  refine keeps_bind_ok keeps_submitAll fun s' => ?_
  have htimed : ∀ past, s'.process = s.process ∧ Open spec.timeout [s'] past →
      s'.timeout = spec.timeout := fun past hp => (hp.2.timed s' List.mem_cons_self).1
  refine keeps_of_fact htimed fun htimeout => ?_
  cases finishes with
  | false => exact keeps_mono keeps_abandon (fun _ hp => hp.2) fun _ _ ⟨_, _, hp⟩ => hp
  | true =>
    exact keeps_bind (keeps_mono (keeps_finish htimeout) (fun _ hp => hp.2) fun _ _ hp => hp)
      (fun _ => keeps_pure fun _ hp => hp) fun _ _ hp => hp

/-- in an environment that reaps whatever it is asked to -/
theorem reapsKilled_of_waits {σ α : Type} {env : Interaction.Environment Host.Answer σ}
    (hwait : ∀ p s, ∃ status, (env (.wait p) s).1 = .ok status) (x : Action α) (s : σ) :
    ReapsKilled (Action.trace env x s) := by
  intro before p cause behind hsplit
  have hmem : (⟨.wait p, .error cause⟩ : HostEvent) ∈ Action.trace env x s := by
    rw [hsplit]
    exact List.mem_append_right before List.mem_cons_self
  obtain ⟨t, ht⟩ := Interaction.exists_state_of_mem_events env x.run s _ hmem
  obtain ⟨status, hstatus⟩ := hwait p t
  rw [hstatus] at ht
  exact nomatch ht

/-- a host that can connect the first shell only, in whose state the shells are counted -/
def oneConnection : Interaction.Environment Host.Answer Nat := fun r shells =>
  match r with
  | .removeFile _ => (.ok (), shells)
  | .readFile _ => (.error .notFound, shells)
  | .writeFile _ _ => (.ok (), shells)
  | .isDirectory _ => (true, shells)
  | .exists _ => (true, shells)
  | .currentDirectory => (.ok "/", shells)
  | .spawn _ _ _ => (.ok ⟨shells⟩, shells + 1)
  | .attach p => (if p.id = 0 then .ok () else .error (.code 24), shells)
  | .send _ _ => ((), shells)
  | .closeInput _ => ((), shells)
  | .wait _ => (.ok (.killed 9), shells)
  | .poll _ => (.ok none, shells)
  | .killGroup _ => ((), shells)
  | .kill _ => ((), shells)
  | .output _ => ([], shells)
  | .now => (0, shells)
  | .pause _ => ((), shells)
  | .cores => (2, shells)
  | .load _ => (true, shells)

end ShellWorkers
