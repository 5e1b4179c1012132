import ShellWorkers.Bookkeeping
import ShellWorkers.Config
import ShellWorkers.Host
import ShellWorkers.Recipe.Basic
import ShellWorkers.StatusText
import ShellWorkers.Text.Utf8

/-!
# Sessions of a worker's shell

A session is one shell that reads its commands from a queue.  After each command the shell
appends the command's exit code to the worker's status file; this file is the only witness of
which command failed, so a session reports success only if the file holds one code for every
command that was submitted.

* `Session.start`    removes what an earlier run left, starts the shell, queues its setup;
* `Session.submit`   queues a command and the record of its status;
* `Session.finish`   closes the queue, waits for the shell, and reads the status file back;
* `Session.abandon`  kills the shell of a session that is not to be finished.
-/

namespace ShellWorkers

/-- what all sessions of a stage have in common -/
structure SessionSpec where
  dir : String
  shell : Shell
  initCommand : String
  flavor : Flavor
  timeout : Option Duration

def SessionSpec.ofRecipe (r : Recipe) (dir : String) (c : Config) : SessionSpec :=
  ⟨dir, r.shell, r.initCommand, c.flavor, c.timeout⟩

/-- what a finished session reports: both streams in one text, and a code per command -/
structure SessionReport where
  output : String
  codes : List Int
  deriving DecidableEq, Repr

/-- the first code that is not zero, and its index; the list starts at `index` -/
def firstNonzero (index : Nat) : List Int → Option (Nat × Int)
  | [] => none
  | c :: cs => if c = 0 then firstNonzero (index + 1) cs else some (index, c)

namespace SessionReport

def succeeded (r : SessionReport) : Bool := r.codes.all (· == 0)

/-- the index and the code of the first command that failed -/
def firstFailure? (r : SessionReport) : Option (Nat × Int) := firstNonzero 0 r.codes

theorem firstNonzero_eq_none_iff (index : Nat) (codes : List Int) :
    firstNonzero index codes = none ↔ codes.all (· == 0) = true := by
  induction codes generalizing index with
  | nil => simp [firstNonzero]
  | cons c cs ih => by_cases h : c = 0 <;> simp [firstNonzero, h, ih]

theorem firstFailure?_eq_none_iff (r : SessionReport) :
    r.firstFailure? = none ↔ r.succeeded = true := firstNonzero_eq_none_iff 0 r.codes

end SessionReport

/-- a shell that is running -/
structure Session where
  worker : Nat
  process : Host.Process
  statusPath : String
  flavor : Flavor
  timeout : Option Duration
  /-- the instant of its start, from which the timeout counts -/
  started : Host.Instant
  /-- how many commands have been submitted -/
  submitted : Nat
  deriving Repr

namespace Session

open ShellWorkers.Action

/-! ## the queue -/

def send (s : Session) (text : String) : Action Unit := request (.send s.process text)

/-- the text that is queued for the setup command, unless it is blank -/
def setupText (initCommand : String) : Option String :=
  if Text.isBlankText initCommand then none else some (Text.trimEnd initCommand ++ "\n")

/-- the text that is queued to make the status file empty -/
def createText (flavor : Flavor) (statusPath : String) : String :=
  flavor.createCommand statusPath ++ "\n"

/-- the text that is queued for a command: the command and the record of its status -/
def commandText (flavor : Flavor) (statusPath command : String) : String :=
  Text.trimEnd command ++ "\n" ++ flavor.recordCommand statusPath ++ "\n"

/-- queues a command -/
def submit (s : Session) (command : String) : Action Session := do
  s.send (commandText s.flavor s.statusPath command)
  pure { s with submitted := s.submitted + 1 }

/-- queues commands in order -/
def submitAll (s : Session) : List String → Action Session
  | [] => pure s
  | c :: cs => do (← s.submit c).submitAll cs

/-! ## start -/

/-- kills the shell with all of its group, and reaps it -/
def terminate (s : Session) : Action Unit := do
  request (.killGroup s.process)
  request (.kill s.process)
  let _ ← request (.wait s.process)

/-- ends a session that is not to be finished -/
def abandon (s : Session) : Action Unit := do
  request (.closeInput s.process)
  s.terminate

/-- ends sessions in order -/
def abandonAll : List Session → Action Unit
  | [] => pure ()
  | s :: ss => do s.abandon; abandonAll ss

/-- queues the setup command and the creation of the status file -/
def setUp (s : Session) (initCommand : String) : Action Unit := do
  match setupText initCommand with
  | some text => s.send text
  | none => pure ()
  s.send (createText s.flavor s.statusPath)

/-- starts a shell; what it does with its queue, it does on its own -/
def start (worker : Nat) (spec : SessionSpec) : Action Session := do
  let statusPath := statusFile spec.dir worker
  removeIfExists statusPath
  match ← request (.spawn spec.shell.program spec.shell.args spec.dir) with
  | .error cause => fail (.spawn worker spec.shell.toLine cause)
  | .ok process =>
    let started ← request .now
    let s : Session := ⟨worker, process, statusPath, spec.flavor, spec.timeout, started, 0⟩
    match ← request (.attach process) with
    | .error cause =>
      s.abandon
      fail (.io cause)
    | .ok _ =>
      s.setUp spec.initCommand
      pure s

/-! ## the end -/

def violation (s : Session) (recorded : Nat) (output : String) : BuildError :=
  .protocolViolation s.worker s.submitted recorded output

/-- the verdict on the codes that the status file holds -/
def verdict (s : Session) (output : String) (read : StatusText.Codes) :
    Except BuildError (List Int) :=
  if read.stopped || read.codes.length ≠ s.submitted then
    .error (s.violation read.codes.length output)
  else .ok read.codes

/-- the verdict on what reading the status file gave -/
def statusVerdict (s : Session) (output : String) (read : Except SystemFault (List UInt8)) :
    Except BuildError (List Int) :=
  match read with
  | .error cause => .error (if cause = .notFound then s.violation 0 output else .io cause)
  | .ok octets =>
    match Text.decode? octets with
    | none => .error (.io .notText)
    | some text => s.verdict output (StatusText.readCodes text)

/-- what both streams carried, as text -/
def outputText (s : Session) : Action String := do
  return Text.decodeLossy (← request (.output s.process))

/-- a time between two questions whether a shell has ended -/
def pollInterval : Duration := .ofMillis 10

/-- The last instant is before second `2 ^ 63`; nothing for a deadline behind it. -/
def deadline? (started : Host.Instant) (timeout : Duration) : Option Host.Instant :=
  let d := started + timeout.nanos
  if d / 1000000000 < Nat.pow 2 63 then some d else none

/-- how the wait for a shell ends -/
inductive WaitResult where
  | ended (status : Host.ExitStatus)
  | expired
  | failed (cause : SystemFault)
  deriving DecidableEq, Repr

/-- Asks at most `limit` times whether the shell has ended; while it runs, and the clock is
before the deadline, an interval passes between two questions.  Nothing when the limit is
reached. -/
def awaitUntil (process : Host.Process) (deadline : Host.Instant) :
    (limit : Nat) → Host.Program (Option WaitResult)
  | 0 => pure none
  | limit + 1 => do
    match ← Host.ask (.poll process) with
    | .error cause => pure (some (.failed cause))
    | .ok (some status) => pure (some (.ended status))
    | .ok none =>
      let now ← Host.ask .now
      if deadline ≤ now then pure (some .expired)
      else
        Host.ask (.pause pollInterval)
        awaitUntil process deadline limit

/-- more questions than fit between two instants of the clock -/
def pollLimit : Nat := Nat.pow 2 72

/-- waits for the shell of a session without a deadline -/
def awaitExit (process : Host.Process) : Host.Program WaitResult := do
  match ← Host.ask (.wait process) with
  | .error cause => pure (.failed cause)
  | .ok status => pure (.ended status)

/-- waits for the shell, until its deadline if it has one -/
def await (s : Session) : Action WaitResult :=
  match s.timeout with
  | none => ExceptT.lift (awaitExit s.process)
  | some timeout =>
    match deadline? s.started timeout with
    | none => do
      s.abandon
      throw .deadlineOverflow
    | some deadline => do
      match ← ExceptT.lift (awaitUntil s.process deadline pollLimit) with
      | some result => pure result
      | none =>
        s.abandon
        throw .clockStopped

/-- the timeout of a session that has one -/
def limit (s : Session) : Duration := s.timeout.getD ⟨0⟩

/-- closes the queue, waits for the shell, and reads the status file back -/
def finish (s : Session) : Action SessionReport := do
  request (.closeInput s.process)
  match ← s.await with
  | .failed cause =>
    s.terminate
    fail (.io cause)
  | .expired =>
    s.terminate
    let output ← s.outputText
    fail (.timeout s.worker s.limit output)
  | .ended _ =>
    let output ← s.outputText
    match s.statusVerdict output (← request (.readFile s.statusPath)) with
    | .error e => fail e
    | .ok codes => pure ⟨output, codes⟩

end Session

end ShellWorkers
