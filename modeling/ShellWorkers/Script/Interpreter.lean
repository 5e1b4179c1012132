import ShellWorkers.Machine.Kernel
import ShellWorkers.Script.Extended.Compound

/-!
# The shell

Commands are run by their shape, and the shell as a program runs them all.
-/

/-!
## Running commands

`step` runs a command, given what runs its parts; `evaluate` ties the knot with fuel.  A command
answers its status.  Where the shell is to end at failures, a simple command, a pipeline or a
process of its own that fails ends it, unless its status is tested.
-/

namespace ShellWorkers.Script

open Machine
open Text (OctetText)

/-! ### pipelines -/

/-- the input of a command of a pipeline is what the one before it writes -/
def connectInput (source : Option Nat) : Sh Unit :=
  match source with
  | some fd => if fd = 0 then pure () else moveDescriptor fd 0
  | none => pure ()

/-- closes a descriptor if there is one -/
def closeSome (fd : Option Nat) : Sh Unit :=
  match fd with
  | some fd => do let _ ← sys (.close fd)
  | none => pure ()

/-- what a process of its own runs: no loop around it is left from inside of a compound command of the
extended language -/
def alone (action : Sh Nat) : Sh Nat := do
  modify fun c => if c.extended then { c with loops := 0 } else c
  action

/-- a command of a pipeline -/
def piped (evaluate : Evaluate) (mode : Mode) (body : Command) : Sh Nat :=
  match body with
  | .simple _ _ _ _ => evaluate mode body
  | body => alone (evaluate mode body)

/-- the pipe between two commands; a shell that gets none ends -/
def openPipe : Sh (Nat × Nat) := do
  match ← makePipe? "pipe error" with
  | some ends => pure ends
  | none => leave (.exit 129)

/-- starts the commands of a pipeline; `source` is where the first one reads -/
def startPipeline (evaluate : Evaluate) (mode : Mode) (job : Nat) (background : Bool) :
    (source : Option Nat) → List Command → Sh Unit
  | _, [] => pure ()
  | source, [body] => do
    lookAhead body
    forked evaluate job background do
      connectInput source
      piped evaluate mode body
    closeSome source
  | source, body :: rest => do
    lookAhead body
    let (reading, writing) ← openPipe
    forked evaluate job background do
      let _ ← sys (.close reading)
      connectInput source
      if 1 < writing then moveDescriptor writing 1
      piped evaluate mode body
    closeSome source
    let _ ← sys (.close writing)
    startPipeline evaluate mode job background (some reading) rest

/-- runs a pipeline; the status is that of the last command -/
def runPipeline (evaluate : Evaluate) (mode : Mode) (background : Bool)
    (commands : List Command) : Sh Nat := do
  let job ← openJob
  startPipeline evaluate mode.last job background none commands
  let c ← get
  if background then do
    if c.extended then
      modifyJob job ({ · with text := commandSource .inLine (.pipeline commands false) })
    pure 0
  else do
    let statuses ← waitForAll job
    modify fun c => { c with extras := { c.extras with statuses := statuses } }
    let last := statuses.getLastD 0
    if c.isOn .pipelineFailures then pure ((statuses.filter (· ≠ 0)).getLastD 0) else pure last

/-! ### processes of their own -/

/-- redirections of a process that does nothing else; a failure ends it -/
def redirectForGood (runner : Runner) (rs : List Resolved) : Sh Unit := do
  match ← redirectAll runner [] rs with
  | some kept => forget kept
  | none => do
    setStatus (if (← get).extended then 1 else 2)
    leave .failed

/-- runs a command in a process of its own, unless the shell has nothing else left to do -/
def runSubshell (evaluate : Evaluate) (mode : Mode) (line : Nat) (background : Bool)
    (body : Command) (rs : List Redirection) : Sh Nat := do
  modify ({ · with line := line })
  let runner := runnerOf evaluate
  let resolved ← resolveAll runner rs
  let run (mode : Mode) : Sh Nat := do
    redirectForGood runner resolved
    if background then piped evaluate mode.last body else alone (evaluate mode.last body)
  if background then do
    let job ← openJob
    if (← get).extended then modifyJob job ({ · with text := commandSource .inLine body })
    forked evaluate job true (run { mode with tested := false })
    pure 0
  else
    let c ← get
    if mode.final && !hasTraps c then do
      becomeChild false false
      run mode
    else do
      let job ← openJob
      forked evaluate job false (run mode)
      waitFor job

/-! ### all commands -/

/-- the commands of a sequence in order -/
def sequenceParts : Command → List Command → List Command
  | .sequence first second, rest => sequenceParts first (second :: rest)
  | c, rest => c :: rest

/-- runs commands one behind the other -/
def runSequence (evaluate : Evaluate) (mode : Mode) : List Command → Sh Nat
  | [] => pure 0
  | [c] => evaluate mode c
  | c :: cs => do
    let _ ← evaluate mode.inner c
    runSequence evaluate mode cs

/-- runs a function's definition -/
def define (name : OctetText) (body : Command) : Sh Nat := do
  if (← get).extras.sealed.contains name then do
    complainPlainly (name ++ ": readonly function")
    return 1
  modify fun c =>
    let source := ((c.extras.calls.head?).map CallSite.source).getD c.extras.source
    { c with
      functions := (name, body) :: c.functions.filter (·.1 ≠ name)
      extras := { c.extras with
        origins := (name, source) :: c.extras.origins.filter (·.1 ≠ name) } }
  pure 0

/-- runs a command, given what runs its parts -/
def step (evaluate : Evaluate) (mode : Mode) (command : Command) : Sh Nat := do
  let extended := (← get).extended
  match command with
  | .nothing => return (← get).status
  | .simple line assignments words rs =>
    if extended then Extended.runSimple evaluate mode line assignments words rs
    else runSimple evaluate mode line assignments words rs
  | .pipeline commands background => runPipeline evaluate mode background commands
  | .negation body => do
    let status ← if isNothing body then pure 0 else evaluate .test body
    pure (if status = 0 then 1 else 0)
  | .conjunction first second => do
    let status ← evaluate .test first
    if status = 0 then evaluate mode second else pure status
  | .disjunction first second => do
    let status ← evaluate .test first
    if status = 0 then pure status else evaluate mode second
  | .sequence first second => runSequence evaluate mode (sequenceParts (.sequence first second) [])
  | .background line body rs => runSubshell evaluate mode line true body rs
  | .subshell line body rs => runSubshell evaluate mode line false body rs
  | .redirected line body rs => do
    if extended then
      Extended.withRedirections (runnerOf evaluate) false rs (evaluate mode.inner body)
    else do
      modify ({ · with line := line })
      redirecting (runnerOf evaluate) rs (evaluate mode.inner body)
  | .conditional test yes no => do
    let status ← evaluate .test test
    if status = 0 then evaluate mode yes
    else if isNothing no then pure 0
    else evaluate mode no
  | .whileLoop wanted test body => asLoop (turns evaluate mode.inner wanted test body turnFuel 0)
  | .forLoop line name words body => do
    modify ({ · with line := line })
    if extended then Extended.runFor evaluate mode line name words body
    else do
      let values ← expandAll (runnerOf evaluate) words
      asLoop (turnsOver evaluate mode.inner name body values 0)
  | .selection line word arms => do
    modify ({ · with line := line })
    if extended then Extended.announceSelection evaluate line word
    select evaluate mode (← expandText (runnerOf evaluate) word) arms false 0
  | .definition _ name body => define name body
  | .test line t => Extended.runTest evaluate line t
  | .computation line expression => Extended.runComputation evaluate line expression
  | .countedLoop line start test next body =>
    Extended.runCounted evaluate mode line start test next body
  | .menu line name words body => Extended.runMenu evaluate mode line name words body
  | .timed standard body => Extended.runTimed evaluate mode standard body

/-- whether a shell that is to end at failures ends when the command fails -/
def isChecked : Command → Bool
  | .simple _ _ _ _ => true
  | .pipeline _ _ => true
  | .background _ _ _ => true
  | .subshell _ _ _ => true
  | .test _ _ => true
  | .computation _ _ => true
  | _ => false

/-- notes the status of a command that is no pipeline, and runs the commands for failures -/
def noteStatus (evaluate : Evaluate) (mode : Mode) (command : Command) (status : Nat) :
    Sh Unit := do
  if (← get).extended && isChecked command then do
    match command with
    | .pipeline _ _ => pure ()
    | _ => modify fun c => { c with extras := { c.extras with statuses := [status] } }
    if status ≠ 0 && !mode.tested then Extended.runEvent evaluate Extended.failureEvent

/-- runs a command in its surroundings: signals are dealt with, the status is set, and the shell
may end -/
def runChecked (evaluate : Evaluate) (mode : Mode) (command : Command) : Sh Nat := do
  let c ← get
  if c.isOn .noRun then pure c.status
  else
    runTraps evaluate
    let checks := isChecked command && !mode.tested && (← isOn .exitOnError)
    let status ← tryCatch (step evaluate mode command) fun l =>
      match l with
      | .returned code named =>
        if checks && code ≠ 0 then leave (.exit code) else leave (.returned code named)
      | l => leave l
    setStatus status
    noteStatus evaluate mode command status
    runTraps evaluate
    if (checks && status ≠ 0) || mode.final then leave (.exit (← get).status) else pure status

/-- runs commands; the fuel bounds their depth in one another -/
def evaluate : (fuel : Nat) → Evaluate
  | 0 => fun _ _ => return (← get).status
  | fuel + 1 => fun mode command => runChecked (evaluate fuel) mode command

end ShellWorkers.Script

/-!
## The shell as a program

A shell takes its script from an argument, from a file or from its input.  It reads the script in
pieces and runs each line of complete commands before it reads the next piece, so a command can
take what follows it on the input, and what follows a command that leaves the shell is never run.
-/

namespace ShellWorkers.Script

open Machine
open Text (OctetText)

/-- the depth of commands in one another that a shell bears -/
def depthLimit : Nat := 1000000

def run : Evaluate := evaluate depthLimit

/-! ### variables -/

/-- the variables that a shell keeps in their places -/
def ownVariables : List (OctetText × Option OctetText) :=
  [("IFS", some (String.ofList Context.usualSeparators)), ("MAIL", none), ("MAILPATH", none),
    ("PATH", some "/usr/local/sbin:/usr/local/bin:/usr/sbin:/usr/bin:/sbin:/bin"),
    ("PS1", some "# "), ("PS2", some "> "), ("PS4", some "+ "), ("OPTIND", some "1")]

/-- a variable that a shell finds when it begins -/
def findVariable (c : Context) (v : OctetText × OctetText) : Context :=
  if isName v.1.toList then
    let fixed := ((c.var? v.1).map Variable.fixed).getD false
    c.putVariable (.ofText v.1 (some v.2) true false fixed)
  else c

/-- a value that a shell gives to one of its variables when it begins -/
def resetVariable (name value : OctetText) (c : Context) : Context :=
  match c.var? name with
  | some v => c.putVariable { v with value? := some value }
  | none => c.putVariable (.ofText name (some value) false false false)

/-- what only the extended language keeps, before anything has been run -/
def initialExtras (self : Pid) : Extras := {
  self := self
  features := Extended.usualFeatures
  statuses := [0]
  calls := []
  origins := []
  shared := []
  sealed := []
  stack := []
  lastWord := ""
  source := "main"
  nesting := 0
  random := (self, 0)
  wideRandom := self
  began := 0
  secondsFrom := 0
  ordinary := []
  current := .nothing
  level := 0
  busy := []
  past := []
  isQuiet := false
  processes := [] }

/-- a shell that has just begun, with variables that keep their places -/
def initialContext (extended : Bool) (name : OctetText) (pid : Pid) (own : List Variable) :
    Context := {
    extended := extended
    extras := initialExtras pid
    name := name
    positional := .ofList []
    vars := own
    functions := []
    aliases := []
    settings := []
    status := 0
    captured := 0
    interrupted := none
    pid := pid
    isChild := false
    background := none
    jobs := []
    traps := []
    signalModes := []
    arrived := []
    line := 0
    parseLine := 1
    command := none
    input := .ofText [] 1 false []
    source := none
    loops := 0
    depth := 0
    frames := []
    output := []
    outputFault := none
    showing := false
    found := []
    directory := "" }

/-- a shell of the standard language that has just begun -/
def standardContext (name : OctetText) (pid parent : Pid) (vars : Variables) : Context :=
  let c := initialContext false name pid (ownVariables.map fun v => .ofText v.1 v.2 false false true)
  let c := vars.foldl findVariable c
  resetVariable "PPID" (toString parent) (resetVariable "OPTIND" "1"
    (resetVariable "IFS" (String.ofList Context.usualSeparators) c))

/-- whether a path is one of the working directory -/
def isHere (path : OctetText) : Sh Bool := do
  if !path.startsWith "/" then pure false
  else
    match ← sys (.status path true), ← sys (.status "." true) with
    | .ok there, .ok here => pure (there.id == here.id)
    | _, _ => pure false

/-- calls the working directory as the variables do, if they are right -/
def findDirectory : Sh Unit := do
  let known := ((← get).value? "PWD").getD ""
  let path ← if ← isHere known then pure known else Builtin.machineDirectory
  Builtin.enterDirectory path false

/-! ### arguments -/

/-- reads the options of a shell in at most `fuel` arguments: whether the script is an argument,
and the arguments behind them -/
def readInvocation : (fuel : Nat) → (inArgument : Bool) → List OctetText →
    Sh (Bool × List OctetText)
  | 0, inArgument, args => pure (inArgument, args)
  | _ + 1, inArgument, [] => pure (inArgument, [])
  | fuel + 1, inArgument, arg :: args =>
    let letterGroup (value : Bool) (letters : List Char) : Sh (Bool × List OctetText) := do
      let rest ← Builtin.setLetters value (letters.filter fun c => c != 'c' && c != 'l') args
      flush
      readInvocation fuel (inArgument || letters.contains 'c') rest
    match arg.toList with
    | ['-'] => pure (inArgument, args)
    | ['-', '-'] => pure (inArgument, args)
    | '-' :: letters => letterGroup true letters
    | '+' :: letters => letterGroup false letters
    | _ => pure (inArgument, arg :: args)

/-- opens a script under a descriptor that commands do not use -/
def openScript (path : OctetText) : Sh Unit := do
  let fd ← openOrFail path .read false
  match ← sys (.duplicateFrom fd keptFrom) with
  | .error e => do
    if !(← get).extended then abort (toString fd ++ ": " ++ faultText e)
    modify ({ · with source := some fd })
  | .ok kept => do
    let _ ← sys (.close fd)
    modify ({ · with source := some kept })

def setArguments (args : List OctetText) : Sh Unit :=
  modify ({ · with positional := .ofList args })

/-- the first of the arguments is the name of the script -/
def setName : List OctetText → Sh Unit
  | [] => pure ()
  | name :: args => do
    modify ({ · with name := name })
    setArguments args

/-- runs the script on the input -/
def runOnInput : Sh Nat := do
  modify ({ · with source := some 0 })
  runInput run scriptFuel 0

/-- runs the script that the arguments name -/
def runScript (inArgument : Bool) (args : List OctetText) : Sh Nat := do
  let onInput ← isOn .onInput
  if inArgument then
    match args with
    | [] => abort "-c requires an argument"
    | text :: args => do
      setName args
      let status ← evaluateText run "-c" true ⟨false, !onInput⟩ text
      if onInput then runOnInput else pure status
  else if onInput then do
    setArguments args
    runOnInput
  else
    match args with
    | [] => do
      modify fun c => { c with settings := Setting.turn c.settings .onInput true }
      runOnInput
    | path :: args => do
      openScript path
      setName (path :: args)
      runInput run scriptFuel 0

/-! ### the program -/

/-- runs a shell to its end: the code is that of its script, unless the commands that are set for
the end name another one -/
def runToEnd (c : Context) (main : Sh Nat) : Calls Nat := do
  let whole : Sh Nat := do
    let result : Except Leave Nat ← tryCatch (.ok <$> main) fun l => pure (.error l)
    runExitTrap run (codeOf (← get) result)
  let (result, c) ← (whole.run).run c
  pure (codeOf c result)

/-- a shell: its arguments, the first being its name, and its variables -/
def shell : Program := fun args vars => do
  let pid ← call .self
  let parent ← call .parent
  runToEnd (standardContext (args.head?.getD "sh") pid parent vars) do
    findDirectory
    let (inArgument, rest) ← readInvocation (args.length + 1) false (args.drop 1)
    runScript inArgument rest

end ShellWorkers.Script
