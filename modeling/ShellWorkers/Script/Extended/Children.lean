import ShellWorkers.Script.Builtin.Children
import ShellWorkers.Script.Builtin.Settings
import ShellWorkers.Script.Execution
import ShellWorkers.Script.Extended.Assigning

/-!
# Children of the extended language

Commands on children, and leaving functions, loops and the shell itself.
-/

/-!
## Commands of the extended language on children and signals

Commands can also be set for four events that are no signals: the end of the shell, each command,
each failure, and the end of each function.
-/

namespace ShellWorkers.Script.Extended

open Machine
open ShellWorkers.Script.Builtin (Options)
open Text (OctetText)

/-! ### names of signals -/

/-- the events that are no signals, by numbers beyond them -/
def commandEvent : Nat := Signal.count
def failureEvent : Nat := Signal.count + 1
def returnEvent : Nat := Signal.count + 2

/-- the names of the events -/
def eventNames : List (Nat × OctetText) :=
  [(0, "EXIT"), (commandEvent, "DEBUG"), (failureEvent, "ERR"), (returnEvent, "RETURN")]

/-- the name of a signal without its beginning -/
def bareSignalName (signal : Nat) : OctetText :=
  if signal = 16 then "STKFLT" else Signal.name signal

/-- the name of a signal or an event -/
def signalName (signal : Nat) : OctetText :=
  (eventNames.lookup signal).getD ("SIG" ++ bareSignalName signal)

/-- the signals that have names -/
def namedSignals : List Nat :=
  ((List.range Signal.count).drop 1).filter fun n => n ≠ 32 && n ≠ 33

/-- the signal that a name or a number stands for; events count where commands are set for them -/
def signalOf? (events : Bool) (text : OctetText) : Option Nat :=
  if !text.isEmpty && text.toList.all Char.isDigit then
    let n := digitsNat text.toList
    if n < Signal.count then some n else none
  else
    let upper := text.map Char.toUpper
    let bare := if upper.startsWith "SIG" then String.ofList (upper.toList.drop 3) else upper
    match namedSignals.find? fun n => bareSignalName n == bare with
    | some n => some n
    | none => if events then (eventNames.find? fun e => e.2 == upper).map Prod.fst else none

/-- all signals in columns -/
def listSignals : Sh Unit := do
  let rows := namedSignals.zipIdx.map fun (n, i) =>
    let number := toString n
    (if number.length < 2 then " " else "") ++ number ++ ") " ++ signalName n
      ++ (if i % 5 = 4 then "\n" else "\t")
  say (String.join rows ++ (if namedSignals.length % 5 = 0 then "" else "\n"))

/-! ### commands for signals -/

/-- the commands for a signal as a shell would read them back -/
def trapLine (signal : Nat) (text : OctetText) : OctetText :=
  "trap -- " ++ singleQuotes text ++ " " ++ signalName signal ++ "\n"

/-- the signals and events in the order of lists -/
def trapOrder : List Nat := List.range (Signal.count + 3)

/-- sets or clears the commands for signals -/
def setTraps (text : Option OctetText) : List OctetText → (status : Nat) → Sh Nat
  | [], status => pure status
  | name :: names, status => do
    match signalOf? true name with
    | none => do
      complain (name ++ ": invalid signal specification")
      setTraps text names 1
    | some signal => do
      modify fun c =>
        let others := c.traps.filter (·.1 ≠ signal)
        { c with traps := match text with
            | some text => (signal, text) :: others
            | none => others }
      if signal ≠ 0 && signal < Signal.count then followTrap signal
      setTraps text names status

/-- lists the commands for signals -/
def listTraps (names : List OctetText) : Sh Nat := do
  let traps := (← get).traps
  let mut status := 0
  let mut signals := trapOrder
  if !names.isEmpty then
    signals := names.filterMap (signalOf? true)
    for name in names do
      if (signalOf? true name).isNone then
        complain (name ++ ": invalid signal specification")
        status := 1
  for signal in signals do
    match traps.lookup signal with
    | some text => say (trapLine signal text)
    | none => pure ()
  pure status

def trap : Builtin := fun args => do
  if args.head? == some "-" then setTraps none (args.drop 1) 0
  else
    let o ← readChoices "lp" "" args
    if o.has 'l' then do
      listSignals
      pure 0
    else if o.has 'p' then listTraps o.args
    else
      match o.args with
      | [] => listTraps []
      | [name] => if (signalOf? true name).isSome then setTraps none [name] 0 else showUsage
      | "-" :: names => setTraps none names 0
      | text :: names => setTraps (some text) names 0

/-! ### jobs -/

/-- the job that a text names -/
def jobOf? (jobs : List Job) (name : OctetText) : Option Job :=
  match name.toList with
  | '%' :: cs =>
    if cs.isEmpty || cs = ['+'] || cs = ['%'] then jobs.head?
    else if cs = ['-'] then jobs[1]?
    else if cs.all Char.isDigit then jobs.find? (·.number == digitsNat cs)
    else
      match cs with
      | '?' :: part =>
        jobs.find? fun j => (j.text.splitOn (String.ofList part)).length ≠ 1
      | cs => jobs.find? fun j => j.text.startsWith (String.ofList cs)
  | _ => none

/-- how a job stands -/
def jobState (j : Job) : OctetText :=
  if !j.isDone then "Running"
  else
    match (j.processes.getLast?).bind Prod.snd with
    | some (.exited 0) => "Done"
    | some (.exited code) => "Exit " ++ toString code
    | some (.killed signal) => Signal.description signal
    | none => "Running"

/-- a job as it is listed -/
def jobLine (jobs : List Job) (pids : Bool) (j : Job) : OctetText :=
  let mark := if (jobs.head?.map Job.number) == some j.number then "+"
    else if ((jobs[1]?).map Job.number) == some j.number then "-"
    else " "
  let state := jobState j
  let fill := String.ofList (List.replicate (24 - state.length) ' ')
  let pid := ((j.processes.head?).map fun p => toString p.1).getD ""
  "[" ++ toString j.number ++ "]" ++ mark ++ " "
    ++ (if pids then String.ofList (List.replicate (5 - pid.length) ' ') ++ pid else "") ++ " "
    ++ state ++ fill ++ j.text ++ (if j.isDone then "" else " &") ++ "\n"

/-- shows a job; one that is done is gone then -/
def showJob (o : Options) (j : Job) : Sh Unit := do
  if o.has 'p' then say (((j.processes.head?).map fun p => toString p.1 ++ "\n").getD "")
  else do
    say (jobLine (← get).jobs (o.has 'l') j)
    if j.isDone then
      keepStatus j
      freeJob j.number

def jobs : Builtin := fun args => do
  let o ← readChoices "lnprsx" "" args
  reap waitFuel
  let known := ((← get).jobs.filter fun j => !j.waited).mergeSort fun a b =>
    decide (a.number ≤ b.number)
  if o.args.isEmpty then do
    for j in known do
      if !(o.has 'r' && j.isDone) && !o.has 's' then showJob o j
    pure 0
  else do
    let mut status := 0
    for name in o.args do
      match jobOf? (← get).jobs name with
      | some j => showJob o j
      | none => do
        complain (name ++ ": no such job")
        status := 1
    pure status

/-- there is no control of jobs -/
def moveJob : Builtin := fun args => do
  let _ ← readChoices "" "" args
  abort "no job control"

def disown : Builtin := fun args => do
  let o ← readChoices "har" "" args
  if o.has 'a' then do
    modify ({ · with jobs := [] })
    pure 0
  else do
    let mut status := 0
    for name in if o.args.isEmpty then ["current"] else o.args do
      match jobOf? (← get).jobs (if name = "current" then "%" else name) with
      | some j => freeJob j.number
      | none => do
        complain (name ++ ": no such job")
        status := 1
    pure status

/-! ### waiting -/

/-- waits for a job: its status, or that of a wait that a signal has ended -/
def waitForJob (j : Job) : Sh Nat := do
  let isDone ← if j.isDone then do
      reap waitFuel
      pure true
    else waitFrom (some j.number) true waitFuel
  if isDone then do
    modifyJob j.number ({ · with waited := true })
    return ((← job? j.number).map Job.status).getD 0
  else Builtin.interruptedStatus

/-- waits for jobs or processes; the status is that of the last one -/
def waitEach : List OctetText → (status : Nat) → Sh Nat
  | [], status => pure status
  | name :: names, _ => do
    let jobs := (← get).jobs
    if name.startsWith "%" then
      match jobOf? jobs name with
      | some j => do waitEach names (← waitForJob j)
      | none => do
        complain (name ++ ": no such job")
        waitEach names 127
    else
      match number? name with
      | none => do
        complain ("\x60" ++ name ++ "': not a pid or valid job spec")
        waitEach names 1
      | some pid =>
        match jobs.find? fun j => j.processes.any (·.1 == pid) with
        | some j => do waitEach names (← waitForJob j)
        | none =>
          match (← get).extras.past.lookup pid with
          | some status => waitEach names status
          | none => do
            complain ("pid " ++ name ++ " is not a child of this shell")
            waitEach names 127

/-- waits until one more job is done -/
def waitNext : (fuel : Nat) → Sh Nat
  | 0 => pure 127
  | fuel + 1 => do
    let jobs := (← get).jobs.filter fun j => !j.waited
    match (jobs.filter Job.isDone).getLast? with
    | some j => waitForJob j
    | none =>
      if jobs.isEmpty then pure 127
      else if ← waitFrom none true waitFuel then waitNext fuel
      else Builtin.interruptedStatus

def wait : Builtin := fun args => do
  let o ← readChoices "fn" "p" args
  let status ← if o.has 'n' then waitNext waitFuel
    else if o.args.isEmpty then do
      let status ← Builtin.waitAll waitFuel
      modify fun c => { c with extras := { c.extras with past := [] } }
      pure status
    else waitEach o.args 127
  match valueOf? o 'p' with
  | some name => Assigned.assignText name none false (((← get).background.map toString).getD "")
  | none => pure ()
  pure status

/-! ### sending signals -/

/-- the process or the group that a text names -/
def killTarget? (name : OctetText) : Sh (Option Int) := do
  match name.toList with
  | '%' :: _ => do
    match jobOf? (← get).jobs name with
    | some j => pure ((j.processes.head?).map fun p => (p.1 : Int))
    | none => abort (name ++ ": no such job")
  | '-' :: ds =>
    pure (if !ds.isEmpty && ds.all Char.isDigit then some (-(digitsNat ds : Int)) else none)
  | ds =>
    pure (if !ds.isEmpty && ds.all Char.isDigit then some (digitsNat ds : Int) else none)

def killEach (signal : Nat) : List OctetText → (status : Nat) → Sh Nat
  | [], status => pure status
  | name :: names, status => do
    match ← killTarget? name with
    | none => do
      complain (name ++ ": arguments must be process or job IDs")
      killEach signal names 1
    | some target =>
      match ← sys (.kill target signal) with
      | .ok _ => killEach signal names status
      | .error e => do
        complain ("(" ++ toString target ++ ") - " ++ faultText e)
        killEach signal names 1

/-- shows the numbers of names, and the names of numbers -/
def translateSignals : List OctetText → (status : Nat) → Sh Nat
  | [], status => pure status
  | text :: texts, status => do
    let n? := if !text.isEmpty && text.toList.all Char.isDigit then
        let n := digitsNat text.toList
        let n := if 128 < n then n - 128 else n
        if n < Signal.count then some n else none
      else none
    match n? with
    | some n => do
      say ((if n = 0 then "EXIT" else bareSignalName n) ++ "\n")
      translateSignals texts status
    | none =>
      match signalOf? true text with
      | some n => do
        say (toString n ++ "\n")
        translateSignals texts status
      | none => do
        complain (text ++ ": invalid signal specification")
        translateSignals texts 1

def kill : Builtin
  | [] => showUsage
  | first :: args => do
    let send (signal : OctetText) (targets : List OctetText) : Sh Nat :=
      match signalOf? false signal with
      | none => abort (signal ++ ": invalid signal specification")
      | some n => if targets.isEmpty then showUsage else killEach n targets 0
    match first, args with
    | "-l", [] => do
      listSignals
      pure 0
    | "-L", [] => do
      listSignals
      pure 0
    | "-l", texts => translateSignals texts 0
    | "-s", signal :: targets => send signal targets
    | "-n", signal :: targets => send signal targets
    | "-s", [] => abort "-s: option requires an argument"
    | "-n", [] => abort "-n: option requires an argument"
    | "--", targets => send "TERM" targets
    | first, args =>
      match first.toList with
      | '-' :: cs => send (String.ofList cs) args
      | _ => send "TERM" (first :: args)

/-! ### permissions, limits and times -/

/-- the permissions that a mask leaves, in letters -/
def leftPermissions (mask : Nat) : OctetText :=
  let mode := 0o777 ^^^ mask
  "u=" ++ Mode.permissionLetters (mode / 64 % 8) ++ ",g=" ++ Mode.permissionLetters (mode / 8 % 8)
    ++ ",o=" ++ Mode.permissionLetters (mode % 8)

def umask : Builtin := fun args => do
  let o ← readChoices "pS" "" args
  let display : Sh Unit := do
    let mask ← sys (.setMask none)
    say ((if o.has 'p' then "umask " ++ (if o.has 'S' then "-S " else "") else "")
      ++ (if o.has 'S' then leftPermissions mask else Builtin.maskText mask) ++ "\n")
  match o.args with
  | [] => do
    display
    pure 0
  | text :: _ => do
    let mask ← sys (.setMask none)
    if (text.toList.head?.map Char.isDigit) == some true then
      if text.toList.all isOctal then
        let _ ← sys (.setMask (some (octalValue text.toList &&& 0o777)))
      else abort (text ++ ": octal number out of range")
    else
      match Mode.applyClauses false 0 (text.splitOn ",") (0o777 ^^^ mask) with
      | some mode => let _ ← sys (.setMask (some (0o777 ^^^ (mode &&& 0o777))))
      | none =>
        let known := ['u', 'g', 'o', 'a', '+', '-', '=', 'r', 'w', 'x', 'X', 's', 't', ',']
        let strange := (text.toList.find? fun c => !known.contains c).getD ' '
        abort ("\x60" ++ String.ofList [strange] ++ "': invalid symbolic mode character")
    if o.has 'S' then display
    pure 0

/-- a limit that the shell shows, and sets if it is one of a resource -/
structure DescribedLimit where
  letter : Char
  description : OctetText
  unitName : OctetText
  unit : Nat
  resource : Option Resource

def limits : List DescribedLimit :=
  [⟨'R', "real-time non-blocking time", "microseconds", 1, some .realTimeSpan⟩,
    ⟨'c', "core file size", "blocks", 1024, some .imageSize⟩,
    ⟨'d', "data seg size", "kbytes", 1024, some .dataSize⟩,
    ⟨'e', "scheduling priority", "", 1, some .urgency⟩,
    ⟨'f', "file size", "blocks", 1024, some .fileSize⟩,
    ⟨'i', "pending signals", "", 1, some .signals⟩,
    ⟨'l', "max locked memory", "kbytes", 1024, some .lockedSize⟩,
    ⟨'m', "max memory size", "kbytes", 1024, some .residentSize⟩,
    ⟨'n', "open files", "", 1, some .openFiles⟩,
    ⟨'p', "pipe size", "512 bytes", 512, none⟩,
    ⟨'q', "POSIX message queues", "bytes", 1, some .messages⟩,
    ⟨'r', "real-time priority", "", 1, some .realTimeUrgency⟩,
    ⟨'s', "stack size", "kbytes", 1024, some .stackSize⟩,
    ⟨'t', "cpu time", "seconds", 1, some .processorTime⟩,
    ⟨'u', "max user processes", "", 1, some .processes⟩,
    ⟨'v', "virtual memory", "kbytes", 1024, some .addressSpace⟩,
    ⟨'x', "file locks", "", 1, some .fileLocks⟩]

/-- Options that name limits, each with the value that may follow it: in its own argument, or as
the next one unless that looks like an option. -/
def limitChoices : (fuel : Nat) → List OctetText → Sh (List (Char × Option OctetText) × List OctetText)
  | 0, args => pure ([], args)
  | _ + 1, [] => pure ([], [])
  | fuel + 1, arg :: args =>
    match arg.toList with
    | ['-', '-'] => pure ([], args)
    | '-' :: c :: cs => do
      if arg = "--help" then do
        say ("ulimit: " ++ usageOf "ulimit" ++ "\n")
        fail 2
      letters fuel args (c :: cs)
    | _ => pure ([], arg :: args)
where
  letters (fuel : Nat) (args : List OctetText) :
      List Char → Sh (List (Char × Option OctetText) × List OctetText)
    | [] => limitChoices fuel args
    | c :: cs => do
      if c == 'a' || c == 'S' || c == 'H' then
        let (given, rest) ← letters fuel args cs
        pure ((c, none) :: given, rest)
      else if (limits.find? (·.letter == c)).isNone then misuse ("-" ++ String.ofList [c] ++ ": invalid option")
      else
        let (value, args) := match cs, args with
          | [], next :: more =>
            if next.startsWith "-" && next != "-" then (none, args) else (some next, more)
          | [], [] => (none, args)
          | cs, args => (some (String.ofList cs), args)
        let (given, rest) ← limitChoices fuel args
        pure ((c, value) :: given, rest)

/-- the amount that a word names -/
def limitAmount (unit : Nat) (limit : Limit) (text : OctetText) : Sh (Option Nat) := do
  if text = "hard" then pure limit.ceiling
  else if text = "soft" then pure limit.amount
  else if text = "unlimited" then pure none
  else if text.toList.all Char.isDigit then
    let n := digitsNat text.toList % 18446744073709551616
    if 18446744073709551616 ≤ n * unit then abort (text ++ ": limit out of range")
    else pure (Builtin.amountOf? (n * unit))
  else abort (text ++ ": invalid number")

/-- shows or sets a limit; `whole` says whether it is shown with its name -/
def treatLimit (unit : DescribedLimit → Nat) (soft hard whole : Bool) (letter : Char)
    (value : Option OctetText) : Sh Unit := do
  match limits.find? (·.letter == letter) with
  | none => pure ()
  | some l => do
    let limit ← match l.resource with
      | some resource => sys (.limit resource)
      | none => pure ⟨some 4096, some 4096⟩
    match value with
    | none => do
      if whole then say (label l)
      say (Builtin.amountText (unit l) (if soft || !hard then limit.amount else limit.ceiling) ++ "\n")
    | some text => do
      let amount ← limitAmount (unit l) limit text
      let limit := if soft || !hard then { limit with amount := amount } else limit
      let limit := if hard || !soft then { limit with ceiling := amount } else limit
      let result ← match l.resource with
        | some resource => sys (.setLimit resource limit)
        | none => pure (.error .invalidArgument)
      match result with
      | .ok _ => pure ()
      | .error e => abort (l.description ++ ": cannot modify limit: " ++ faultText e)
where
  label (l : DescribedLimit) : OctetText :=
    let unitText := "(" ++ (if l.unitName.isEmpty then "" else l.unitName ++ ", ") ++ "-"
      ++ String.ofList [l.letter] ++ ") "
    l.description ++ blanks (20 - l.description.length) ++ " " ++ blanks (20 - unitText.length)
      ++ unitText
  blanks (n : Nat) : OctetText := String.ofList (List.replicate n ' ')

def ulimit : Builtin := fun args => do
  let (given, rest) ← limitChoices (args.length + 1) args
  let has (c : Char) : Bool := given.any (·.1 == c)
  let standard ← isOn .standardLanguage
  let unit (l : DescribedLimit) : Nat :=
    if standard && (l.letter == 'c' || l.letter == 'f') then 512 else l.unit
  let (soft, hard) := (has 'S', has 'H')
  if has 'a' then
    for l in limits do treatLimit unit soft hard true l.letter none
  else
    let wanted := given.filter fun g => g.1 != 'S' && g.1 != 'H'
    let wanted := if wanted.isEmpty then [('f', rest.head?)] else wanted
    for (letter, value) in wanted do
      treatLimit unit soft hard (1 < wanted.length) letter value
  pure 0

def times : Builtin := fun _ => do
  say "0m0.000s 0m0.000s\n0m0.000s 0m0.000s\n"
  pure 0

end ShellWorkers.Script.Extended

/-!
## Leaving functions, loops and the shell in the extended language
-/

namespace ShellWorkers.Script.Extended

open Text (OctetText)

/-- the status that the first argument names -/
def statusOf (args : List OctetText) : Sh (Option Nat) := do
  let args := match args with
    | "--" :: rest => rest
    | args => args
  match args with
  | [] => pure none
  | arg :: rest =>
    match integer? arg with
    | none => do
      complain (arg ++ ": numeric argument required")
      pure (some 2)
    | some n => do
      refuseMore rest
      pure (some (n % 256).toNat)

/-- ends the shell; while the commands for a signal are run, with the status before them -/
def exit : Builtin := fun args => do
  let code ← statusOf args
  let c ← get
  leave (.exit (code.getD (c.interrupted.getD c.status)))

/-- whether a function or a file is run -/
def isInside (c : Context) : Bool := c.depth ≠ 0 || c.extras.calls.any (·.name == "source")

def returnFrom : Builtin := fun args => do
  let code? ← statusOf args
  if !isInside (← get) then do
    complain "can only \x60return' from a function or sourced script"
    pure 2
  else
    match code? with
    | some code => leave (.returned code true)
    | none => leave (.returned (← get).status false)

/-- leaves as many loops as the argument says -/
def leaveLoops (how : Nat → Leave) : Builtin := fun args => do
  let loops := (← get).loops
  if loops = 0 then do
    complain "only meaningful in a \x60for', \x60while', or \x60until' loop"
    pure 0
  else
    let args := match args with
      | "--" :: rest => rest
      | args => args
    match args with
    | [] => leave (how 1)
    | arg :: rest =>
      match integer? arg with
      | none => do
        complain (arg ++ ": numeric argument required")
        leave (.exit 128)
      | some n => do
        refuseMore rest
        if n ≤ 0 then do
          complain (arg ++ ": loop count out of range")
          leave (.breakLoop loops 1)
        else leave (how (if (loops : Int) < n then loops else n.toNat))

/-! ### texts and files -/

/-- runs an action as a text inside of another one -/
def deeper {α : Type} (action : Sh α) : Sh α := do
  let level := (← get).extras.level
  modify fun c => { c with extras := { c.extras with level := level + 1 } }
  restoring action (modify fun c => { c with extras := { c.extras with level := level } })

/-- runs its arguments as one text -/
def eval (evaluate : Evaluate) (mode : Mode) : Builtin := fun args => do
  let args := (← readChoices "" "" args).args
  if args.isEmpty then pure 0
  else do
    modify ({ · with command := none })
    deeper (evaluateText evaluate "eval" false mode.inner (" ".intercalate args))

/-- runs an action as what is run for a call -/
def inCall {α : Type} (site : CallSite) (action : Sh α) : Sh α := do
  let calls := (← get).extras.calls
  modify fun c => { c with extras := { c.extras with calls := site :: calls } }
  restoring action (modify fun c => { c with extras := { c.extras with calls := calls } })

/-- the file that a name stands for in the search path -/
def searchFile (name : OctetText) : List OctetText → Sh (Option OctetText)
  | [] => pure none
  | place :: places => do
    let path := if place.isEmpty then "./" ++ name else place ++ "/" ++ name
    match ← sys (.status path true) with
    | .ok s => if s.kind == .file then pure (some path) else searchFile name places
    | .error _ => searchFile name places

/-- runs the commands of a file in this shell -/
def source (evaluate : Evaluate) : Builtin := fun args => do
  match (← readChoices "" "" args).args with
  | [] => misuse "filename argument required"
  | name :: rest => do
    let c ← get
    let places := match c.value? "PATH" with
      | some path => path.splitOn ":"
      | none => []
    let found ← if name.contains '/' then pure none else searchFile name places
    let path := found.getD name
    match ← sys (.status path true) with
    | .ok s => if s.kind == .directory then abort (name ++ ": is a directory")
    | .error e => do
      complainPlainly (name ++ ": " ++ faultText e)
      fail 1
    match ← sys (.openFile path .read Machine.openPermissions) with
    | .error e => do
      complainPlainly (name ++ ": " ++ faultText e)
      fail 1
    | .ok fd => do
      let text ← readAll fd waitFuel []
      let _ ← sys (.close fd)
      let line := c.line
      modify fun c => { c with
        command := none
        positional := if rest.isEmpty then c.positional else .ofList rest }
      let text := String.ofList (text.toList.filter (· != '\x00'))
      let run : Sh Nat := tryCatch (evaluateText evaluate "" true .plain text) fun l =>
          match l with
          | .returned code _ => pure code
          | l => leave l
      restoring (inCall ⟨"source", path, line⟩ (deeper run)) (modify fun d => { d with
        line := line
        positional := if rest.isEmpty then d.positional else c.positional })

end ShellWorkers.Script.Extended
