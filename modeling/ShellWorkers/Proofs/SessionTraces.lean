import ShellWorkers.Proofs.Traces
import ShellWorkers.Session

/-!
# Traces of sessions

What the parts of a session ask, and how they can end, whatever they are answered.

* `runs_start`        a session that is started has been given its setup;
* `runs_submitAll`    submitted commands are texts in the queue of its shell;
* `finish_asks`       to its end a session concerns its own shell and its own status file;
* `finish_endsIn`     it ends with a report, an error, or a deadline that cannot be kept.
-/

namespace ShellWorkers

open ShellWorkers.Action

/-- the causes that are found before anything is started -/
def BuildError.IsRefusal : BuildError → Prop
  | .invalidRecipe _ => True
  | .missingDirectory _ => True
  | _ => False

/-- the failures of what has been started -/
def Failure.IsReported : Failure → Prop
  | .error e => ¬ e.IsRefusal
  | _ => False

/-- the answers that leave no file behind -/
def IsRemoval (answer : Except SystemFault Unit) : Prop :=
  answer = .ok () ∨ answer = .error .notFound

/-- the removal of a file that may be missing is one request -/
theorem runs_removeIfExists {path : String} {events : List HostEvent}
    {result : Except Failure Unit} (h : Runs (removeIfExists path) events result) :
    ∃ answer, events = [⟨.removeFile path, answer⟩] ∧
      ((IsRemoval answer ∧ result = .ok ()) ∨ ∃ cause, result = .error (.error (.io cause))) := by
  obtain ⟨answer, rest, rfl, hrest⟩ := runs_request_bind h
  rcases answer with cause | _
  · replace hrest : Runs (if cause = .notFound then pure () else fail (.io cause)) rest result :=
      hrest
    split at hrest
    · next hcause =>
      obtain ⟨rfl, rfl⟩ := runs_pure hrest
      exact ⟨_, rfl, Or.inl ⟨Or.inr (congrArg _ hcause), rfl⟩⟩
    · obtain ⟨rfl, rfl⟩ := runs_fail hrest
      exact ⟨_, rfl, Or.inr ⟨cause, rfl⟩⟩
  · obtain ⟨rfl, rfl⟩ := runs_pure hrest
    exact ⟨_, rfl, Or.inl ⟨Or.inl rfl, rfl⟩⟩

theorem removeIfExists_endsIn (path : String) :
    EndsIn Failure.IsReported (removeIfExists path) := by
  intro events e h
  obtain ⟨_, _, ⟨_, he⟩ | ⟨cause, he⟩⟩ := runs_removeIfExists h
  · exact nomatch he
  · exact Except.error.inj he ▸ id

namespace Session

/-! ## start and submit -/

/-- a text in the queue of a process -/
def sent (process : Host.Process) (text : String) : HostEvent := ⟨.send process text, ()⟩

theorem runs_send {s : Session} {text : String} {events : List HostEvent}
    {result : Except Failure Unit} (h : Runs (s.send text) events result) :
    events = [sent s.process text] ∧ result = .ok () := by
  obtain ⟨answer, rfl, rfl⟩ := runs_request h
  exact ⟨rfl, rfl⟩

theorem runs_submit {s : Session} {command : String} {events : List HostEvent}
    {result : Except Failure Session} (h : Runs (s.submit command) events result) :
    events = [sent s.process (commandText s.flavor s.statusPath command)] ∧
      result = .ok { s with submitted := s.submitted + 1 } := by
  rcases runs_bind h with ⟨e, _, hsend⟩ | ⟨_, first, rest, rfl, hsend, hrest⟩
  · exact nomatch (runs_send hsend).2
  · obtain ⟨rfl, _⟩ := runs_send hsend
    obtain ⟨rfl, rfl⟩ := runs_pure hrest
    exact ⟨rfl, rfl⟩

/-- submitted commands are queued in order, each with the record of its status -/
theorem runs_submitAll {s : Session} {commands : List String} {events : List HostEvent}
    {result : Except Failure Session} (h : Runs (s.submitAll commands) events result) :
    events = commands.map (fun command =>
        sent s.process (commandText s.flavor s.statusPath command)) ∧
      result = .ok { s with submitted := s.submitted + commands.length } := by
  induction commands generalizing s events with
  | nil => exact runs_pure h
  | cons command commands ih =>
    rcases runs_bind h with ⟨e, _, hsubmit⟩ | ⟨next, first, rest, rfl, hsubmit, hrest⟩
    · exact nomatch (runs_submit hsubmit).2
    · obtain ⟨rfl, hnext⟩ := runs_submit hsubmit
      obtain rfl := Except.ok.inj hnext
      obtain ⟨rfl, rfl⟩ := ih hrest
      refine ⟨rfl, ?_⟩
      rw [List.length_cons, Nat.add_assoc, Nat.add_comm 1]

/-- the texts that set a shell up -/
def setupTexts (flavor : Flavor) (statusPath initCommand : String) : List String :=
  (setupText initCommand).toList ++ [createText flavor statusPath]

theorem runs_setUp {s : Session} {initCommand : String} {events : List HostEvent}
    {result : Except Failure Unit} (h : Runs (s.setUp initCommand) events result) :
    events = (setupTexts s.flavor s.statusPath initCommand).map (sent s.process) ∧
      result = .ok () := by
  rw [setUp] at h
  rw [setupTexts]
  cases hsetup : setupText initCommand with
  | none =>
    rw [hsetup] at h
    exact runs_send h
  | some text =>
    rw [hsetup] at h
    rcases runs_bind h with ⟨e, _, hsend⟩ | ⟨_, first, rest, rfl, hsend, hcreate⟩
    · exact nomatch (runs_send hsend).2
    · obtain ⟨rfl, _⟩ := runs_send hsend
      obtain ⟨rfl, rfl⟩ := runs_send hcreate
      exact ⟨rfl, rfl⟩

/-- the session of a worker behind its start -/
def fresh (worker : Nat) (spec : SessionSpec) (process : Host.Process) (started : Host.Instant) :
    Session :=
  ⟨worker, process, statusFile spec.dir worker, spec.flavor, spec.timeout, started, 0⟩

/-- what a start asks that succeeds -/
def startEvents (worker : Nat) (spec : SessionSpec) (removal : Except SystemFault Unit)
    (process : Host.Process) (started : Host.Instant) : List HostEvent :=
  [⟨.removeFile (statusFile spec.dir worker), removal⟩,
    ⟨.spawn spec.shell.program spec.shell.args spec.dir, .ok process⟩, ⟨.now, started⟩,
    ⟨.attach process, .ok ()⟩] ++
    (setupTexts spec.flavor (statusFile spec.dir worker) spec.initCommand).map (sent process)

/-- A session that is started: the file of an earlier run is gone, the shell is there and has been
given its setup and the creation of its status file. -/
theorem runs_start {worker : Nat} {spec : SessionSpec} {events : List HostEvent} {s : Session}
    (h : Runs (start worker spec) events (.ok s)) :
    ∃ removal process started, IsRemoval removal ∧ s = fresh worker spec process started ∧
      events = startEvents worker spec removal process started := by
  rcases runs_bind h with ⟨e, he, _⟩ | ⟨_, first, rest, rfl, hremove, hspawn⟩
  · exact nomatch he
  obtain ⟨removal, rfl, ⟨hgone, _⟩ | ⟨_, he⟩⟩ := runs_removeIfExists hremove
  case inr => exact nomatch he
  obtain ⟨spawned, rest, rfl, hspawned⟩ := runs_request_bind hspawn
  rcases spawned with cause | process
  · exact nomatch (runs_fail hspawned).2
  obtain ⟨started, rest, rfl, hattach⟩ := runs_request_bind hspawned
  obtain ⟨attached, rest, rfl, hattached⟩ := runs_request_bind hattach
  rcases attached with cause | _
  · rcases runs_bind hattached with ⟨e, he, _⟩ | ⟨_, first, rest, rfl, _, hfail⟩
    · exact nomatch he
    · exact nomatch (runs_fail hfail).2
  rcases runs_bind hattached with ⟨e, he, _⟩ | ⟨_, first, rest, rfl, hsetup, hdone⟩
  · exact nomatch he
  obtain ⟨rfl, _⟩ := runs_setUp hsetup
  obtain ⟨rfl, hs⟩ := runs_pure hdone
  refine ⟨removal, process, started, hgone, Except.ok.inj hs, ?_⟩
  rw [List.append_nil]
  rfl

/-! ## what the end of a session asks -/

/-- the requests by which a session is ended -/
def IsEnding (s : Session) : Host.Request → Prop
  | .closeInput process => process = s.process
  | .wait process => process = s.process
  | .poll process => process = s.process
  | .killGroup process => process = s.process
  | .kill process => process = s.process
  | .output process => process = s.process
  | .readFile path => path = s.statusPath
  | .now => True
  | .pause _ => True
  | _ => False

/-- what is done once the wait for the shell is over -/
def conclude (s : Session) : WaitResult → Action SessionReport
  | .failed cause => do
    s.terminate
    fail (.io cause)
  | .expired => do
    s.terminate
    let output ← s.outputText
    fail (.timeout s.worker s.limit output)
  | .ended _ => do
    let output ← s.outputText
    match s.statusVerdict output (← request (.readFile s.statusPath)) with
    | .error e => fail e
    | .ok codes => pure ⟨output, codes⟩

theorem finish_eq (s : Session) :
    s.finish = (request (.closeInput s.process) >>= fun _ => s.await >>= s.conclude) := rfl

theorem terminate_asks (s : Session) : Asks s.IsEnding s.terminate :=
  asks_bind (asks_request rfl) fun _ => asks_bind (asks_request rfl) fun _ =>
    asks_bind (asks_request rfl) fun _ => asks_pure _

theorem abandon_asks (s : Session) : Asks s.IsEnding s.abandon :=
  asks_bind (asks_request rfl) fun _ => s.terminate_asks

theorem outputText_asks (s : Session) : Asks s.IsEnding s.outputText :=
  asks_bind (asks_request rfl) fun _ => asks_pure _

theorem awaitUntil_asks (s : Session) (deadline : Host.Instant) (limit : Nat) :
    (awaitUntil s.process deadline limit).Asks s.IsEnding := by
  induction limit with
  | zero => trivial
  | succ limit ih =>
    refine ⟨rfl, fun answer => ?_⟩
    rcases answer with cause | _ | status
    · trivial
    · refine ⟨trivial, fun now => ?_⟩
      show (if deadline ≤ now then pure (some WaitResult.expired) else _ :
        Host.Program (Option WaitResult)).Asks s.IsEnding
      split
      · trivial
      · exact ⟨trivial, fun _ => ih⟩
    · trivial

theorem awaitExit_asks (s : Session) : (awaitExit s.process).Asks s.IsEnding := by
  refine ⟨rfl, fun answer => ?_⟩
  cases answer <;> trivial

theorem await_asks (s : Session) : Asks s.IsEnding s.await := by
  unfold await
  split
  · exact asks_lift s.awaitExit_asks
  · split
    · exact asks_bind s.abandon_asks fun _ => asks_throw _
    · refine asks_bind (asks_lift (s.awaitUntil_asks _ _)) fun result => ?_
      split
      · exact asks_pure _
      · exact asks_bind s.abandon_asks fun _ => asks_throw _

theorem conclude_asks (s : Session) (result : WaitResult) :
    Asks s.IsEnding (s.conclude result) := by
  cases result with
  | failed cause => exact asks_bind s.terminate_asks fun _ => asks_fail _
  | expired =>
    exact asks_bind s.terminate_asks fun _ => asks_bind s.outputText_asks fun _ => asks_fail _
  | ended status =>
    refine asks_bind s.outputText_asks fun output => asks_bind (asks_request rfl) fun read => ?_
    split
    · exact asks_fail _
    · exact asks_pure _

/-- to its end a session concerns its own shell and its own status file -/
theorem finish_asks (s : Session) : Asks s.IsEnding s.finish := by
  rw [finish_eq]
  exact asks_bind (asks_request rfl) fun _ => asks_bind s.await_asks s.conclude_asks

theorem setUp_asks {P : Host.Request → Prop} {s : Session} {initCommand : String}
    (h : ∀ text ∈ setupTexts s.flavor s.statusPath initCommand, P (.send s.process text)) :
    Asks P (s.setUp initCommand) := by
  have hcreate : Asks P (s.send (createText s.flavor s.statusPath)) :=
    asks_request (h _ (List.mem_append_right _ List.mem_cons_self))
  rw [setUp]
  cases htext : setupText initCommand with
  | none => exact hcreate
  | some text =>
    refine asks_bind (asks_request (h text (List.mem_append_left _ ?_))) fun _ => hcreate
    rw [htext]
    exact List.mem_cons_self

/-- what a start does once no file of an earlier run is left -/
def startShell (worker : Nat) (spec : SessionSpec) : Action Session := do
  match ← request (.spawn spec.shell.program spec.shell.args spec.dir) with
  | .error cause => fail (.spawn worker spec.shell.toLine cause)
  | .ok process =>
    let started ← request .now
    let s := fresh worker spec process started
    match ← request (.attach process) with
    | .error cause =>
      s.abandon
      fail (.io cause)
    | .ok _ =>
      s.setUp spec.initCommand
      pure s

theorem start_eq (worker : Nat) (spec : SessionSpec) :
    start worker spec =
      removeIfExists (statusFile spec.dir worker) >>= fun _ => startShell worker spec := rfl

theorem startShell_asks {P : Host.Request → Prop} {worker : Nat} {spec : SessionSpec}
    (hspawn : P (.spawn spec.shell.program spec.shell.args spec.dir)) (hnow : P .now)
    (hattach : ∀ process, P (.attach process))
    (hsetup : ∀ process, ∀ text ∈
      setupTexts spec.flavor (statusFile spec.dir worker) spec.initCommand, P (.send process text))
    (hend : ∀ process started r, (fresh worker spec process started).IsEnding r → P r) :
    Asks P (startShell worker spec) := by
  refine asks_bind (asks_request hspawn) fun spawned => ?_
  cases spawned with
  | error cause => exact asks_fail _
  | ok process =>
    refine asks_bind (asks_request hnow) fun started =>
      asks_bind (asks_request (hattach process)) fun attached => ?_
    cases attached with
    | error cause =>
      exact asks_bind ((abandon_asks _).mono (hend process started)) fun _ => asks_fail _
    | ok _ => exact asks_bind (setUp_asks (hsetup process)) fun _ => asks_pure _

theorem abandonAll_asks {P : Host.Request → Prop} {sessions : List Session}
    (h : ∀ s ∈ sessions, ∀ r, s.IsEnding r → P r) : Asks P (abandonAll sessions) := by
  induction sessions with
  | nil => exact asks_pure _
  | cons s sessions ih =>
    obtain ⟨hs, hrest⟩ := List.forall_mem_cons.mp h
    exact asks_bind (s.abandon_asks.mono hs) fun _ => ih hrest

/-! ## how a session can end -/

theorem terminate_endsIn {P : Failure → Prop} (s : Session) : EndsIn P s.terminate :=
  endsIn_bind (endsIn_request _) fun _ => endsIn_bind (endsIn_request _) fun _ =>
    endsIn_bind (endsIn_request _) fun _ => endsIn_pure _

theorem abandon_endsIn {P : Failure → Prop} (s : Session) : EndsIn P s.abandon :=
  endsIn_bind (endsIn_request _) fun _ => s.terminate_endsIn

theorem outputText_endsIn {P : Failure → Prop} (s : Session) : EndsIn P s.outputText :=
  endsIn_bind (endsIn_request _) fun _ => endsIn_pure _

/-- a failure to start a session is reported -/
theorem start_endsIn (worker : Nat) (spec : SessionSpec) :
    EndsIn Failure.IsReported (start worker spec) := by
  refine endsIn_bind (removeIfExists_endsIn _) fun _ =>
    endsIn_bind (endsIn_request _) fun spawned => ?_
  rcases spawned with cause | process
  · exact endsIn_fail id
  · refine endsIn_bind (endsIn_request _) fun started =>
      endsIn_bind (endsIn_request _) fun attached => ?_
    rcases attached with cause | _
    · exact endsIn_bind (abandon_endsIn _) fun _ => endsIn_fail id
    · exact endsIn_bind (fun _ _ h => nomatch (runs_setUp h).2) fun _ => endsIn_pure _

theorem not_isRefusal_of_statusVerdict {s : Session} {output : String}
    {read : Except SystemFault (List UInt8)} {e : BuildError}
    (h : s.statusVerdict output read = .error e) : ¬ e.IsRefusal := by
  have hverdict : ∀ codes, s.verdict output codes = .error e → ¬ e.IsRefusal := by
    intro codes h
    unfold verdict at h
    split at h
    · exact Except.error.inj h ▸ id
    · exact nomatch h
  unfold statusVerdict at h
  split at h
  · split at h <;> exact Except.error.inj h ▸ id
  · split at h
    · exact Except.error.inj h ▸ id
    · exact hverdict _ h

theorem conclude_endsIn (s : Session) (result : WaitResult) :
    EndsIn Failure.IsReported (s.conclude result) := by
  cases result with
  | failed cause => exact endsIn_bind s.terminate_endsIn fun _ => endsIn_fail id
  | expired =>
    exact endsIn_bind s.terminate_endsIn fun _ => endsIn_bind s.outputText_endsIn fun _ =>
      endsIn_fail id
  | ended status =>
    refine endsIn_bind s.outputText_endsIn fun output =>
      endsIn_bind (endsIn_request _) fun read => ?_
    cases hverdict : s.statusVerdict output read with
    | error e => exact endsIn_fail (not_isRefusal_of_statusVerdict hverdict)
    | ok codes => exact endsIn_pure _

/-- a wait that is cut off: the deadline of the session cannot be kept -/
def CutOff (s : Session) : Failure → Prop
  | .deadlineOverflow =>
    ∃ timeout, s.timeout = some timeout ∧ deadline? s.started timeout = none
  | .clockStopped => s.timeout.isSome
  | _ => False

theorem await_endsIn (s : Session) : EndsIn s.CutOff s.await := by
  unfold await
  split
  · exact endsIn_lift _
  · next timeout htimeout =>
    split
    · next hdeadline =>
      exact endsIn_bind s.abandon_endsIn fun _ => endsIn_throw ⟨timeout, htimeout, hdeadline⟩
    · refine endsIn_bind (endsIn_lift _) fun result => ?_
      split
      · exact endsIn_pure _
      · refine endsIn_bind s.abandon_endsIn fun _ => endsIn_throw ?_
        show s.timeout.isSome = true
        rw [htimeout]
        rfl

/-- a session ends with a report, or with a failure that is reported, or its wait is cut off -/
theorem finish_endsIn (s : Session) :
    EndsIn (fun e => e.IsReported ∨ s.CutOff e) s.finish := by
  rw [finish_eq]
  refine endsIn_bind (endsIn_request _) fun _ => endsIn_bind ?_ fun result => ?_
  · exact fun events e h => Or.inr (s.await_endsIn events e h)
  · exact fun events e h => Or.inl (s.conclude_endsIn result events e h)

end Session

end ShellWorkers
