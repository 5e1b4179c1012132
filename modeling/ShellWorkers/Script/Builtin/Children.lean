import ShellWorkers.Script.Builtin.Settings
import ShellWorkers.Script.Jobs

/-!
# Commands on children

`wait`, `jobs`, `kill`, and those that would move a job to the foreground or to the background,
which needs a control of jobs that a shell without a terminal has not.
-/

namespace ShellWorkers.Script.Builtin

open Machine
open Text (OctetText)

/-! ## which job -/

/-- the job that a text names -/
def findJob (jobs : List Job) (name : OctetText) : Except OctetText Job :=
  let unknown := "No such job: " ++ name
  match name.toList with
  | ['%'] => current
  | ['%', '+'] => current
  | ['%', '%'] => current
  | ['%', '-'] =>
    match jobs with
    | _ :: j :: _ => .ok j
    | _ => .error "No previous job"
  | ['%', '?'] =>
    match jobs with
    | [] => .error unknown
    | [j] => .ok j
    | _ => .error (name ++ ": ambiguous")
  | '%' :: ds =>
    if ds.all Char.isDigit then
      match jobs.find? (·.number == digitsNat ds) with
      | some j => .ok j
      | none => .error unknown
    else .error unknown
  | _ => .error unknown
where
  current : Except OctetText Job :=
    match jobs with
    | j :: _ => .ok j
    | [] => .error "No current job"

def jobOrFail (name : OctetText) : Sh Job := do
  match findJob (← get).jobs name with
  | .ok j => pure j
  | .error message => abort message

/-- there are no jobs to be moved -/
def moveJob : Builtin := fun args => do
  let o ← readOptions "" "" args
  let jobs := (← get).jobs
  match findJob jobs (o.args.head?.getD "%") with
  | .error message => abort message
  | .ok _ =>
    abort ("job " ++ (o.args.head?.getD "(null)") ++ " not created under job control")

/-! ## waiting -/

/-- the status of a command that a signal has ended -/
def interruptedStatus : Sh Nat := do return 128 + ((← get).arrived.getLast?).getD 0

/-- waits until all jobs are done -/
def waitAll : (fuel : Nat) → Sh Nat
  | 0 => pure 0
  | fuel + 1 => do
    let jobs := (← get).jobs
    let done := jobs.takeWhile Job.isDone
    modify fun c => { c with jobs :=
      (jobs.take done.length).map ({ · with waited := true }) ++ jobs.drop done.length }
    if done.length = jobs.length then pure 0
    else if ← waitFrom none true waitFuel then waitAll fuel
    else interruptedStatus

/-- waits for jobs or processes; the status is that of the last one that is known -/
def waitEach : List OctetText → (status : Nat) → Sh Nat
  | [], status => pure status
  | name :: names, status => do
    let j ← if name.startsWith "%" then some <$> jobOrFail name
      else do
        let pid ← numberOrFail name
        let jobs := (← get).jobs
        pure (jobs.find? fun j => (j.processes.getLast?.map Prod.fst) == some pid)
    match j with
    | none => waitEach names status
    | some j => do
      let isDone ← if j.isDone then do
          reap waitFuel
          pure true
        else waitFrom (some j.number) true waitFuel
      if isDone then do
        modifyJob j.number ({ · with waited := true })
        waitEach names (((← job? j.number).map Job.status).getD 0)
      else interruptedStatus

def wait : Builtin := fun args => do
  match (← readOptions "" "" args).args with
  | [] => waitAll waitFuel
  | names => waitEach names 127

/-! ## lists of jobs -/

/-- how a process stands -/
def stateText : Option Host.ExitStatus → OctetText
  | none => "Running"
  | some (.exited 0) => "Done"
  | some (.exited code) => "Done(" ++ toString code ++ ")"
  | some (.killed signal) => Signal.description signal

/-- the column at which commands would stand -/
def jobColumn : Nat := 33

def blanks (count : Nat) : OctetText := String.ofList (List.replicate count ' ')

/-- the lines of the processes behind the first, with their numbers -/
def processLines (indent : Nat) : List (Pid × Option Host.ExitStatus) → OctetText
  | [] => "\n"
  | p :: ps =>
    let start := " |\n" ++ blanks indent ++ toString p.1 ++ " "
    start ++ blanks (max1 (jobColumn + 3 - start.length)) ++ processLines indent ps
where
  max1 (n : Nat) : Nat := if n = 0 then 1 else n

/-- a job as it is listed -/
def jobText (jobs : List Job) (pids : Bool) (j : Job) : OctetText :=
  let mark := if (jobs.head?.map Job.number) == some j.number then "+"
    else if ((jobs[1]?).map Job.number) == some j.number then "-"
    else " "
  let start := "[" ++ toString j.number ++ "] " ++ mark ++ " "
  let pid := if pids then (((j.processes.head?).map fun p => toString p.1 ++ " ").getD "") else ""
  let state := if j.isDone then stateText ((j.processes.getLast?).bind Prod.snd) else "Running"
  let whole := start ++ pid ++ state
  let fill := if whole.length < jobColumn then jobColumn - whole.length else 1
  whole ++ blanks fill ++
    (if pids then processLines start.length (j.processes.drop 1)
    else String.join ((j.processes.drop 1).map fun _ => " | ") ++ "\n")

/-- lists a job; one that is done is gone then -/
def showJob (o : Options) (j : Job) : Sh Unit := do
  if (o.given.getLast?.map Prod.fst) == some 'p' then
    say (((j.processes.head?).map fun p => toString p.1 ++ "\n").getD "")
  else do
    say (jobText (← get).jobs (o.has 'l') j)
    if j.isDone then freeJob j.number

def showNamedJobs (o : Options) : List OctetText → Sh Unit
  | [] => pure ()
  | name :: names => do
    showJob o (← jobOrFail name)
    showNamedJobs o names

def showJobs (o : Options) : List Job → Sh Unit
  | [] => pure ()
  | j :: js => do
    showJob o j
    showJobs o js

def jobs : Builtin := fun args => do
  let o ← readOptions "lp" "" args
  if o.args.isEmpty then do
    reap waitFuel
    showJobs o (← get).jobs
  else showNamedJobs o o.args
  pure 0

/-! ## signals -/

def killUsage : OctetText :=
  "Usage: kill [-s sigspec | -signum | -sigspec] [pid | job]... or\nkill -l [exitstatus]"

/-- what a signal is sent to: a job, a process, or a group of processes -/
def killTarget (name : OctetText) : Sh Int := do
  match name.toList with
  | '%' :: _ => do
    let j ← jobOrFail name
    return -(((j.processes.head?.map Prod.fst).getD 0 : Nat) : Int)
  | '-' :: ds => return -((← numberOrFail (String.ofList ds) : Nat) : Int)
  | _ => return ((← numberOrFail name : Nat) : Int)

def killEach (signal : Nat) : List OctetText → (status : Nat) → Sh Nat
  | [], status => pure status
  | name :: names, status => do
    match ← sys (.kill (← killTarget name) signal) with
    | .ok _ => killEach signal names status
    | .error e => do
      complain (faultText e ++ "\n")
      killEach signal names 1

/-- lists the names of the signals, or that of the one that a number or a status stands for -/
def listSignals : List OctetText → Sh Nat
  | [] => do
    say "0\n"
    for n in (List.range Signal.count).drop 1 do
      say (Signal.name n ++ "\n")
    pure 0
  | text :: _ => do
    let n ← numberOrFail text
    let n := if 128 < n then n - 128 else n
    if n = 0 || Signal.count ≤ n then
      abort ("invalid signal number or exit status: " ++ text)
    else do
      say (Signal.name n ++ "\n")
      pure 0

def signalOrFail (name : OctetText) : Sh Nat :=
  match Signal.ofText? 1 name with
  | some n => pure n
  | none => abort ("invalid signal number or name: " ++ name)

def kill : Builtin
  | [] => abort killUsage
  | first :: args => do
    let named? := match first.toList with
      | '-' :: name => Signal.ofText? 1 (String.ofList name)
      | _ => none
    match named?, first.startsWith "-" with
    | some n, _ => send n args
    | none, false => send Signal.terminate (first :: args)
    | none, true => do
      let o ← readOptions "l" "s" (first :: args)
      let names := (o.given.filter (·.1 == 's')).map Prod.snd
      let signals ← names.mapM signalOrFail
      match o.has 'l', signals.getLast? with
      | false, some n => send n o.args
      | false, none => send Signal.terminate o.args
      | true, none => listSignals o.args
      | true, some _ => if o.args.isEmpty then listSignals [] else abort killUsage
where
  send (signal : Nat) (args : List OctetText) : Sh Nat :=
    if args.isEmpty then abort killUsage else killEach signal args 0

end ShellWorkers.Script.Builtin
