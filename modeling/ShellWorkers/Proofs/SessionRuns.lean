import ShellWorkers.Proofs.SessionTraces
import ShellWorkers.Proofs.Workshop

/-!
# Sessions in a workshop

What the three parts of a session come to in a workshop, whatever its shells do meanwhile.

* `Tracks`              what a family of invariants must satisfy to follow a session;
* `outcome_start`       the shell has been given the setup and the creation of its status file;
* `outcome_submitAll`   and then the commands with their records;
* `outcome_finish`      the status file as it is at the end decides, unless time ran out.
-/

namespace ShellWorkers

open ShellWorkers.Action

variable {φ : Type} {c : Conduct φ}

/-! ## start and submit -/

/-- Invariants that follow the session of shell `k`, with its status file at `path`, from its
start: `Before` holds before, `Idle` once the file of an earlier run is gone, and `Inv steps` once
the shell has been given `steps`. -/
structure Tracks (c : Conduct φ) (dir path : String) (k : Nat) (Before Idle : Workshop φ → Prop)
    (Inv : List ShellStep → Workshop φ → Prop) : Prop where
  remove : ∀ w, Before w → Idle (Workshop.environment c (.removeFile path) w).2
  spawn : ∀ w program args, Idle w →
    (Workshop.environment c (.spawn program args dir) w).1 = .ok ⟨k⟩ ∧
      Inv [] (Workshop.environment c (.spawn program args dir) w).2
  now : ∀ steps w, Inv steps w → Inv steps (Workshop.environment c .now w).2
  attach : ∀ steps w process, Inv steps w →
    Inv steps (Workshop.environment c (.attach process) w).2
  send : ∀ steps w text, Inv steps w →
    Inv (steps ++ c.read text) (Workshop.environment c (.send ⟨k⟩ text) w).2

/-- a file that may be missing can always be removed -/
theorem outcome_removeIfExists (path : String) (w : Workshop φ) :
    outcome (Workshop.environment c) (removeIfExists path) w =
      (.ok (), (Workshop.environment c (.removeFile path) w).2) := by
  have hanswer : (Workshop.environment c (.removeFile path) w).1 = .ok () ∨
      (Workshop.environment c (.removeFile path) w).1 = .error .notFound := by
    show (if ((w.advance c).files (place c.cwd path)).isSome then _ else _) = _ ∨
      (if ((w.advance c).files (place c.cwd path)).isSome then _ else _) = _
    split
    · exact Or.inl rfl
    · exact Or.inr rfl
  rw [removeIfExists, outcome_request_bind]
  rcases hanswer with h | h
  · rw [h]
    rfl
  · rw [h]
    rfl

section

variable {dir path : String} {k : Nat} {Before Idle : Workshop φ → Prop}
  {Inv : List ShellStep → Workshop φ → Prop}

theorem outcome_setUp (t : Tracks c dir path k Before Idle Inv) (s : Session)
    (hk : s.process = ⟨k⟩) (hr : Reads c.read s.flavor s.statusPath) (initCommand : String)
    {w : Workshop φ} (hw : Inv [] w) :
    ∃ w', outcome (Workshop.environment c) (s.setUp initCommand) w = (.ok (), w') ∧
      Inv (setupSteps c.read initCommand ++ [.create s.statusPath]) w' := by
  have hcreate : ∀ steps v, Inv steps v → Inv (steps ++ [.create s.statusPath])
      (Workshop.environment c (.send s.process (Session.createText s.flavor s.statusPath)) v).2 := by
    intro steps v hv
    rw [← hr.create, hk]
    exact t.send steps v _ hv
  rw [Session.setUp, setupSteps]
  cases Session.setupText initCommand with
  | none => exact ⟨_, rfl, hcreate [] w hw⟩
  | some text =>
    refine ⟨_, rfl, hcreate (c.read text) _ ?_⟩
    rw [hk]
    exact t.send [] w text hw

/-- a started session has given its shell the setup and the creation of the status file -/
theorem outcome_start {spec : SessionSpec} {worker : Nat}
    (t : Tracks c spec.dir (statusFile spec.dir worker) k Before Idle Inv)
    (hr : Reads c.read spec.flavor (statusFile spec.dir worker)) {w : Workshop φ} (hw : Before w) :
    ∃ started w', outcome (Workshop.environment c) (Session.start worker spec) w =
        (.ok ⟨worker, ⟨k⟩, statusFile spec.dir worker, spec.flavor, spec.timeout, started, 0⟩, w') ∧
      Inv (setupSteps c.read spec.initCommand ++ [.create (statusFile spec.dir worker)]) w' := by
  have hidle := t.remove w hw
  obtain ⟨hspawn, hnew⟩ := t.spawn _ spec.shell.program spec.shell.args hidle
  have hattach := t.attach _ _ ⟨k⟩ (t.now _ _ hnew)
  let started : Host.Instant := (Workshop.environment c .now (Workshop.environment c
    (.spawn spec.shell.program spec.shell.args spec.dir) (Workshop.environment c
      (.removeFile (statusFile spec.dir worker)) w).2).2).1
  obtain ⟨w', hset, hinv⟩ := outcome_setUp t ⟨worker, ⟨k⟩, statusFile spec.dir worker, spec.flavor,
    spec.timeout, started, 0⟩ rfl hr spec.initCommand hattach
  refine ⟨started, w', ?_, hinv⟩
  rw [Session.start, outcome_bind_ok (outcome_removeIfExists _ w), outcome_request_bind, hspawn]
  show outcome (Workshop.environment c) (request .now >>= _) _ = _
  rw [outcome_request_bind, outcome_request_bind]
  show outcome (Workshop.environment c) (Session.setUp _ _ >>= _) _ = _
  rw [outcome_bind_ok hset]
  rfl

theorem commandSteps_cons (path command : String) (commands : List String) :
    commandSteps path (command :: commands) =
      [.command (Text.trimEnd command) path, .record path] ++ commandSteps path commands := rfl

/-- submitted commands are given to the shell in order, each with its record -/
theorem outcome_submitAll (t : Tracks c dir path k Before Idle Inv) (s : Session)
    (hk : s.process = ⟨k⟩) (hr : Reads c.read s.flavor s.statusPath) (commands : List String)
    {steps : List ShellStep} {w : Workshop φ} (hw : Inv steps w) :
    ∃ w', outcome (Workshop.environment c) (s.submitAll commands) w =
        (.ok { s with submitted := s.submitted + commands.length }, w') ∧
      Inv (steps ++ commandSteps s.statusPath commands) w' := by
  induction commands generalizing s steps w with
  | nil =>
    refine ⟨w, rfl, ?_⟩
    rw [commandSteps, List.flatMap_nil, List.append_nil]
    exact hw
  | cons command commands ih =>
    have hsend : Inv (steps ++ [.command (Text.trimEnd command) s.statusPath, .record s.statusPath])
        (Workshop.environment c
          (.send s.process (Session.commandText s.flavor s.statusPath command)) w).2 := by
      rw [← hr.command, hk]
      exact t.send steps w _ hw
    obtain ⟨w', hrest, hinv⟩ := ih { s with submitted := s.submitted + 1 } hk hr hsend
    refine ⟨w', ?_, ?_⟩
    · rw [Session.submitAll, Session.submit, Session.send, bind_assoc, outcome_request_bind,
        pure_bind, hrest, List.length_cons, Nat.add_assoc, Nat.add_comm 1]
    · rw [commandSteps_cons, ← List.append_assoc]
      exact hinv

end

/-! ## finish -/

/-- a failure that says that time ran out -/
def Failure.IsLate : Failure → Prop
  | .error (.timeout _ _ _) => True
  | .deadlineOverflow => True
  | .clockStopped => True
  | _ => False

namespace Session

/-- what a session reports on an output and on what reading the status file gave -/
def report (s : Session) (output : String) (read : Except SystemFault (List UInt8)) :
    Except Failure SessionReport :=
  match s.statusVerdict output read with
  | .error e => .error (.error e)
  | .ok codes => .ok ⟨output, codes⟩

/-- the report of a session on the files of a workshop -/
def reportIn (c : Conduct φ) (s : Session) (w : Workshop φ) : Except Failure SessionReport :=
  s.report (Text.decodeLossy (c.output s.process.id))
    ((w.files (place c.cwd s.statusPath)).elim (.error .notFound) .ok)

/-- the requests that end a session bring nothing into a workshop -/
theorem isQuiet_of_isEnding {s : Session} (r : Host.Request) (h : s.IsEnding r) : IsQuiet r := by
  cases r with
  | removeFile path => exact h
  | writeFile path text => exact h
  | spawn program args dir => exact h
  | send process text => exact h
  | _ => trivial

theorem finish_quiet (s : Session) : Asks IsQuiet s.finish :=
  s.finish_asks.mono isQuiet_of_isEnding

/-- where a workshop is once the output and the status file of a session are read -/
def concluded (c : Conduct φ) (s : Session) (w : Workshop φ) : Workshop φ :=
  (Workshop.environment c (.readFile s.statusPath)
    (Workshop.environment c (.output s.process) w).2).2

/-- a shell that has ended leaves the decision to its status file -/
theorem outcome_conclude {σ : Type} {env : Interaction.Environment Host.Answer σ} (s : Session)
    (status : Host.ExitStatus) (w : σ) :
    outcome env (s.conclude (.ended status)) w =
      (s.report (Text.decodeLossy (env (.output s.process) w).1)
          (env (.readFile s.statusPath) (env (.output s.process) w).2).1,
        (env (.readFile s.statusPath) (env (.output s.process) w).2).2) := by
  have houtput : outcome env s.outputText w =
      (.ok (Text.decodeLossy (env (.output s.process) w).1), (env (.output s.process) w).2) := rfl
  rw [conclude, outcome_bind_ok houtput, outcome_request_bind, report]
  generalize s.statusVerdict _ _ = verdict
  cases verdict with
  | error e => rfl
  | ok codes => rfl

/-- in a workshop this is the file in the state that the requests leave -/
theorem outcome_conclude_ended (s : Session) (status : Host.ExitStatus) (w : Workshop φ) :
    outcome (Workshop.environment c) (s.conclude (.ended status)) w =
      (s.reportIn c (s.concluded c w), s.concluded c w) :=
  outcome_conclude s status w

/-- shells can always be asked whether they have ended -/
theorem awaitUntil_ne_failed (process : Host.Process) (deadline : Host.Instant) (limit : Nat)
    (cause : SystemFault) (w : Workshop φ) :
    ((awaitUntil process deadline limit).runState (Workshop.environment c) w).1 ≠
      some (.failed cause) := by
  induction limit generalizing w with
  | zero => exact fun h => nomatch h
  | succ limit ih =>
    rw [awaitUntil]
    show (Interaction.runState _ (Interaction.bind (Host.ask (.poll process)) _) w).1 ≠ _
    rw [Interaction.runState_bind]
    have hpoll : (Interaction.runState (Workshop.environment c) (Host.ask (.poll process)) w).1 =
        .ok (if (w.advance c).hasEnded process.id then some (.exited 0) else none) := rfl
    rw [hpoll]
    cases (w.advance c).hasEnded process.id with
    | true => exact fun h => nomatch h
    | false =>
      show (Interaction.runState _ (Interaction.bind (Host.ask .now) _) _).1 ≠ _
      rw [Interaction.runState_bind]
      show (Interaction.runState _ (if deadline ≤ _ then pure (some WaitResult.expired) else
        Interaction.bind (Host.ask (.pause pollInterval)) _) _).1 ≠ _
      split
      · exact fun h => nomatch h
      · rw [Interaction.runState_bind]
        exact ih _

/-- without a timeout the wait ends when the shell has ended -/
theorem outcome_await_none {s : Session} (h : s.timeout = none) (w : Workshop φ) :
    outcome (Workshop.environment c) s.await w =
      (.ok (.ended (.exited 0)), (Workshop.environment c (.wait s.process) w).2) := by
  rw [await, h]
  rfl

/-- with one, time can run out -/
theorem outcome_await (s : Session) (w : Workshop φ) :
    (∃ f w', f.IsLate ∧ outcome (Workshop.environment c) s.await w = (.error f, w')) ∨
      ∃ result w', outcome (Workshop.environment c) s.await w = (.ok result, w') ∧
        ∀ cause, result ≠ .failed cause := by
  cases h : s.timeout with
  | none => exact Or.inr ⟨_, _, outcome_await_none h w, fun _ h => nomatch h⟩
  | some timeout =>
    cases hd : deadline? s.started timeout with
    | none =>
      simp only [await, h, hd]
      exact Or.inl ⟨.deadlineOverflow, _, trivial, rfl⟩
    | some deadline =>
      simp only [await, h, hd]
      rw [outcome_bind_ok (outcome_lift _ w)]
      have hne := awaitUntil_ne_failed (c := c) s.process deadline pollLimit
      cases hresult : ((awaitUntil s.process deadline pollLimit).runState
        (Workshop.environment c) w).1 with
      | none => exact Or.inl ⟨.clockStopped, _, trivial, rfl⟩
      | some result =>
        refine Or.inr ⟨result, _, rfl, fun cause h => hne cause w ?_⟩
        rw [hresult, h]

/-- **The status file as it is at the end decides, unless time ran out.** -/
theorem outcome_finish (s : Session) (w : Workshop φ) :
    (∃ f w', f.IsLate ∧ outcome (Workshop.environment c) s.finish w = (.error f, w')) ∨
      ∃ w', outcome (Workshop.environment c) s.finish w = (s.reportIn c w', w') := by
  rw [finish_eq, outcome_request_bind]
  rcases outcome_await (c := c) s _ with ⟨f, w', hf, h⟩ | ⟨result, w', h, hne⟩
  · exact Or.inl ⟨f, w', hf, outcome_bind_error h⟩
  · rw [outcome_bind_ok h]
    cases result with
    | failed cause => exact absurd rfl (hne cause)
    | expired => exact Or.inl ⟨.error (.timeout s.worker s.limit _), _, trivial, rfl⟩
    | ended status => exact Or.inr ⟨_, outcome_conclude_ended s status w'⟩

/-- where a workshop is after a session without a timeout -/
def finished (c : Conduct φ) (s : Session) (w : Workshop φ) : Workshop φ :=
  s.concluded c (Workshop.environment c (.wait s.process)
    (Workshop.environment c (.closeInput s.process) w).2).2

/-- without a timeout it decides in any case, after the shell has run to its end -/
theorem outcome_finish_none {s : Session} (h : s.timeout = none) (w : Workshop φ) :
    outcome (Workshop.environment c) s.finish w = (s.reportIn c (s.finished c w), s.finished c w) := by
  rw [finish_eq, outcome_request_bind, outcome_bind_ok (outcome_await_none h _)]
  exact outcome_conclude_ended s (.exited 0) _

end Session

end ShellWorkers
