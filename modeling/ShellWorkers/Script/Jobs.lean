import ShellWorkers.Script.State

/-!
# The children of a shell

A shell starts processes in jobs: those of a pipeline are one job.  A process that has ended is
known to have ended when the shell has asked, and it asks for whichever child has ended while it
waits for a job.

* `openJob`, `addProcess`, `freeJob`   the list of jobs;
* `waitFor`                            waiting for a job.
-/

namespace ShellWorkers.Script

open Machine
open Text (OctetText)

/-! ## the list of jobs -/

/-- whether nobody needs a job any more -/
def Job.isSpent (j : Job) : Bool := j.isDone && j.waited

/-- the least number that no job needs -/
def freeNumber (jobs : List Job) : Nat :=
  (((List.range jobs.length).map (· + 1)).find? fun n =>
    !jobs.any fun j => j.number == n && !j.isSpent).getD (jobs.length + 1)

/-- a new job without processes, which is the current one -/
def openJob : Sh Nat := do
  let c ← get
  let number := freeNumber c.jobs
  set { c with jobs := ⟨number, [], false, ""⟩ :: c.jobs.filter (·.number ≠ number) }
  pure number

def modifyJob (number : Nat) (f : Job → Job) : Sh Unit := modify fun c =>
  { c with jobs := c.jobs.map fun j => if j.number == number then f j else j }

/-- a process belongs to a job -/
def addProcess (number : Nat) (pid : Pid) : Sh Unit :=
  modifyJob number fun j => { j with processes := j.processes ++ [(pid, none)] }

def freeJob (number : Nat) : Sh Unit := modify fun c =>
  { c with jobs := c.jobs.filter (·.number ≠ number) }

def job? (number : Nat) : Sh (Option Job) := do
  return (← get).jobs.find? (·.number == number)

/-! ## processes that have ended -/

/-- how a process ended is noted at the job it belongs to -/
def noteEnd (pid : Pid) (status : Host.ExitStatus) : Sh Unit := modify fun c =>
  { c with jobs := c.jobs.map fun j =>
      { j with processes := j.processes.map fun p =>
          if p.1 == pid && p.2.isNone then (pid, some status) else p } }

/-- Says that a process was killed, except by what is of no interest.  In the extended language the
commands of its job are shown too, unless it was asked to end. -/
def reportSignal (foreground : Bool) (pid : Pid) (text : OctetText) : Host.ExitStatus → Sh Unit
  | .exited _ => pure ()
  | .killed signal => do
    let title := Signal.description signal
    if signal = Signal.interrupt || signal = Signal.pipe || (← get).extras.isQuiet then pure ()
    else if !(← get).extended then writeTo 2 (title ++ "\n")
    else if signal ≠ Signal.terminate then
      complainPlainly (toString pid ++ " " ++ title
        ++ String.ofList (List.replicate (24 - title.length) ' ') ++ text)
    else if foreground then writeTo 2 (title ++ "\n")

/-- notes the statuses of processes that no job holds any more -/
def keepStatus (j : Job) : Sh Unit := modify fun c =>
  let past := j.processes.map fun p => (p.1, (p.2.map Job.statusOfExit).getD 0)
  { c with extras := { c.extras with past := past ++ c.extras.past } }

/-- jobs of the background that were killed are forgotten, but not their statuses; extended -/
def settleKilled (foreground : Option Nat) : List Job → Sh Unit
  | [] => pure ()
  | j :: js => do
    match if j.isDone && !j.waited && some j.number ≠ foreground then j.processes.getLast? else none with
    | some (pid, some (.killed signal)) => do
      reportSignal false pid j.text (.killed signal)
      keepStatus j
      freeJob j.number
    | _ => pure ()
    settleKilled foreground js

/-- the signals that have come in the meantime are dealt with later -/
def collectSignals : Sh Unit := do
  let signals ← sys .takeSignals
  modify fun c => { c with arrived := c.arrived ++ signals }

/-- more waits than there are children -/
def waitFuel : Nat := 1000000000

/-- asks for all children that have ended -/
def reap : (fuel : Nat) → Sh Unit
  | 0 => pure ()
  | fuel + 1 => do
    match ← sys (.wait none false) with
    | .ok (some (pid, status)) => do
      noteEnd pid status
      reap fuel
    | _ => pure ()

/-- Waits until a job is done, or until any child has ended when none is named.  A signal ends a
wait that is `interruptible`.  Whether the wait was not ended by one. -/
def waitFrom (number? : Option Nat) (interruptible : Bool) : (fuel : Nat) → Sh Bool
  | 0 => pure true
  | fuel + 1 => do
    if interruptible && !(← get).arrived.isEmpty then pure false
    else
      match ← sys (.wait none true) with
      | .ok (some (pid, status)) => do
        noteEnd pid status
        match number? with
        | none => finish
        | some number =>
          match ← job? number with
          | none => finish
          | some j => do
            if (← get).extended then
              match if j.isDone then j.processes.getLast? else none with
              | some (last, some status) => reportSignal (!interruptible) last j.text status
              | _ => pure ()
            else if j.processes.any (·.1 == pid) then
              reportSignal (!interruptible) pid j.text status
            if j.isDone then finish else waitFrom number? interruptible fuel
      | .ok none => pure true
      | .error .interrupted => do
        collectSignals
        waitFrom number? interruptible fuel
      | .error _ => pure true
where
  finish : Sh Bool := do
    reap waitFuel
    let c ← get
    if c.extended && !interruptible then settleKilled number? c.jobs
    pure true

/-- the statuses of all processes of a job -/
def Job.statuses (j : Job) : List Nat :=
  j.processes.map fun p => (p.2.map Job.statusOfExit).getD 0

/-- waits for a job of the foreground, which is gone then: the statuses of its processes -/
def waitForAll (number : Nat) : Sh (List Nat) := do
  let _ ← waitFrom (some number) false waitFuel
  let statuses := ((← job? number).map Job.statuses).getD []
  freeJob number
  pure statuses

/-- waits for a job of the foreground: the status of its last process -/
def waitFor (number : Nat) : Sh Nat := do return ((← waitForAll number).getLast?).getD 0

/-- runs commands that do not report killed children in the extended language -/
def quietly (isQuiet : Bool) (run : Sh α) : Sh α := do
  let c ← get
  modify fun c => { c with extras := { c.extras with isQuiet := isQuiet || c.extras.isQuiet } }
  let result ← run
  modify fun d => { d with extras := { d.extras with isQuiet := c.extras.isQuiet } }
  pure result

end ShellWorkers.Script
