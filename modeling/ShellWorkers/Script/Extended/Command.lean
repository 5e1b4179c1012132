import ShellWorkers.Script.Extended.Children
import ShellWorkers.Script.Extended.Directories
import ShellWorkers.Script.Extended.Names
import ShellWorkers.Script.Extended.Streams
import ShellWorkers.Script.SimpleCommand

/-!
# Simple commands of the extended language

All words are expanded before anything else is done.  Then the first one says what is run: a
function, a command of the shell, or a program.  No command of the shell is special: assignments
before it last as long as it runs, and a failure of it is only a status.
-/

namespace ShellWorkers.Script.Extended

open Machine
open Text (OctetText)

/-! ## traces -/

/-- what begins a trace: the first character of the prompt stands as often as texts are run inside
of each other -/
def traceStart (runner : Runner) : Sh OctetText := do
  let c ← get
  modify ({ · with showing := true })
  let start ← restoring (promptText runner ((c.value? "PS4").getD ""))
    (modify ({ · with showing := false }))
  match start.toList with
  | [] => pure ""
  | first :: _ => pure (String.ofList (List.replicate c.extras.level first) ++ start)

/-- shows a line before what it says is done -/
def traceLine (runner : Runner) (text : OctetText) : Sh Unit := do
  let c ← get
  if c.isOn .trace && !c.showing then writeTo 2 ((← traceStart runner) ++ text ++ "\n")

/-! ## events -/

/-- runs the commands that are set for an event; the status stays -/
def runEvent (evaluate : Evaluate) (event : Nat) : Sh Unit := do
  let c ← get
  match c.traps.lookup event with
  | some text =>
    if text.isEmpty || c.extras.busy.contains event then pure ()
    else do
      modify fun c => { c with extras := { c.extras with busy := event :: c.extras.busy } }
      let line := c.line
      restoring (runTrap evaluate event text []) (modify fun d => { d with
        line := line, extras := { d.extras with busy := c.extras.busy } })
  | none => pure ()

/-- notes the command that is run, and runs the commands that are set for each command -/
def beginCommand (evaluate : Evaluate) (command : Command) : Sh Unit := do
  if (← get).interrupted.isNone then
    modify fun c => { c with extras := { c.extras with current := command } }
    runEvent evaluate commandEvent

/-! ## words -/

/-- the commands that declare -/
def declares (name : OctetText) : Bool :=
  ["declare", "export", "local", "readonly", "typeset"].contains name

/-- whether words begin with a command that declares, maybe behind the words that pass over
functions -/
def beginsDeclaration : List Word → Bool
  | [] => false
  | w :: ws =>
    match bareText? w with
    | some name => declares name || (["builtin", "command"].contains name && beginsDeclaration ws)
    | none => false

/-- whether a word holds the elements of an array -/
def holdsElements (w : Word) : Bool :=
  w.any fun
    | .elements _ => true
    | _ => false

/-- an argument that assigns -/
def assigningArgument (runner : Runner) (a : Assignment) : Sh Argument := do
  match ← Assigned.ofAssignment runner a with
  | .text name subscript append value =>
    let target := match subscript with
      | some s => name ++ "[" ++ s ++ "]"
      | none => name
    pure (.ofText (target ++ (if append then "+=" else "=") ++ value))
  | assigned => pure ⟨assigned.shown, some assigned⟩

/-- the arguments that words stand for -/
def expandArguments (runner : Runner) (assigning : Bool) : List Word → Sh (List Argument)
  | [] => pure []
  | w :: ws => do
    let plain : Sh (List Argument) := do
      if holdsElements w then pure [.ofText (wordSource w)]
      else return (← expandFields runner w).map .ofText
    let first ← if assigning then
        match extendedAssignment? w with
        | some a => do pure [← assigningArgument runner a]
        | none => plain
      else plain
    return first ++ (← expandArguments runner assigning ws)

/-! ## programs -/

/-- the interpreter that the first line of a file names -/
def namedInterpreter? (path : OctetText) : Sh (Option OctetText) := do
  match ← sys (.openFile path .read openPermissions) with
  | .error _ => pure none
  | .ok fd => do
    let start ← readOn fd 80 waitFuel
    let _ ← sys (.close fd)
    match start.toList with
    | '#' :: '!' :: cs =>
      let name := (cs.dropWhile (· == ' ')).takeWhile fun c => c != ' ' && c != '\n'
      pure (some (String.ofList name))
    | _ => pure none

/-- the shell that runs scripts without an interpreter -/
def extendedShell : OctetText := "/bin/bash"

/-- says why a file could not be executed, and ends the shell -/
def failExecution {α : Type} (title path : OctetText) (e : SystemFault) : Sh α := do
  if e = .notFound then
    match ← namedInterpreter? path with
    | some name => do
      complainPlainly (title ++ path ++ ": " ++ name ++ ": bad interpreter: " ++ faultText e)
      leave (.exit 126)
    | none => do
      complainPlainly (title ++ path ++ ": " ++ faultText e)
      leave (.exit 127)
  else do
    match ← sys (.status path true) with
    | .ok s =>
      if s.kind == .directory then complainPlainly (title ++ path ++ ": Is a directory")
      else complainPlainly (title ++ path ++ ": " ++ faultText e)
    | .error _ => complainPlainly (title ++ path ++ ": " ++ faultText e)
    leave (.exit 126)

/-- the functions that are handed on to programs, as variables -/
def sharedFunctions (c : Context) : List (OctetText × OctetText) :=
  (spreadIn 512 Prod.fst c.functions.reverse).filterMap fun (name, body) =>
    if c.extras.shared.contains name then some ("BASH_FUNC_" ++ name ++ "%%", exportSource body)
    else none

/-- executes a file in place of the shell -/
def executeFile {α : Type} (title path : OctetText) (args : List OctetText) : Sh α := do
  let c ← get
  let vars := (c.exported.filter (·.1 ≠ "_")) ++ sharedFunctions c ++ [("_", path)]
  let e ← sys (.execute path args vars)
  if e = .noExec then
    if ← isText path then do
      let e ← sys (.execute extendedShell (extendedShell :: path :: args.drop 1) vars)
      failExecution title path e
    else do
      complainPlainly (title ++ path ++ ": cannot execute binary file: " ++ faultText e)
      leave (.exit 126)
  else failExecution title path e

/-- the path of a program; the first file of its name if none can be executed -/
def programPath? (places : Option OctetText) (name : OctetText) : Sh (Option OctetText) := do
  let c ← get
  let dirs := searchPlacesOf c places
  match ← findProgram places name with
  | .ok place => do
    modify fun c => { c with found := c.found.map fun f =>
      if f.name == name then { f with runs := f.runs + 1 } else f }
    let dir := (dirs[place]?).getD ""
    pure (some (if dir.isEmpty then "./" ++ name else pathIn dir name))
  | .error e => if e = .accessDenied then fileIn name dirs else pure none
where
  fileIn (name : OctetText) : List OctetText → Sh (Option OctetText)
    | [] => pure none
    | place :: places => do
      match ← sys (.status (pathIn place name) true) with
      | .ok s => if s.kind == .file then pure (some (pathIn place name)) else fileIn name places
      | .error _ => fileIn name places

/-- runs a program, in a process of its own unless nothing is left to do after it -/
def runProgram (evaluate : Evaluate) (mode : Mode) (places : Option OctetText)
    (args : List OctetText) : Sh Nat := do
  let name := args.headD ""
  let path? ← if name.contains '/' then pure (some name) else programPath? places name
  match path? with
  | none => do
    complainPlainly (name ++ ": command not found")
    pure 127
  | some path => do
    let c ← get
    if mode.final && !(c.traps.any fun t => !t.2.isEmpty) then executeFile "" path args
    else do
      let job ← openJob
      modifyJob job ({ · with text := " ".intercalate args })
      forked evaluate job false (executeFile "" path args)
      waitFor job

/-- executes a program in place of the shell, if one is named -/
def execute (args : List OctetText) : Sh Nat := do
  let o ← readChoices "cl" "a" args
  match o.args with
  | [] => pure 0
  | name :: rest => do
    let path? ← if name.contains '/' then pure (some name) else programPath? none name
    match path? with
    | none => do
      complain (name ++ ": not found")
      if ← hasFeature "execfail" then pure 127 else leave (.exit 127)
    | some path => do
      let shown := (valueOf? o 'a').getD name
      let shown := if o.has 'l' then "-" ++ shown else shown
      if o.has 'c' then modify fun c => { c with vars := c.vars.map ({ · with exported := false }) }
      match ← sys (.status path true) with
      | .ok s =>
        if s.kind == .directory then do
          complainPlainly (path ++ ": Is a directory")
          complain (path ++ ": cannot execute: Is a directory")
          leave (.exit 126)
      | .error _ => pure ()
      executeFile "" path (shown :: rest)

/-! ## functions -/

/-- the events for which functions have no commands unless a setting says so -/
def hiddenEvents (c : Context) : List Nat :=
  (if c.isOn .traceFunctions then [] else [commandEvent, returnEvent])
    ++ (if c.isOn .traceFailures then [] else [failureEvent])

/-- runs a function -/
def callFunction (evaluate : Evaluate) (mode : Mode) (name : OctetText) (body : Command)
    (args : List OctetText) : Sh Nat := do
  let before ← get
  let hidden := hiddenEvents before
  let site : CallSite := ⟨name, (before.extras.origins.lookup name).getD "", before.line⟩
  modify fun _ => { before with
    positional := { before.positional with values := args }
    loops := 0, depth := before.depth + 1
    traps := before.traps.filter fun t => !hidden.contains t.1 }
  let run : Sh Nat := do
    let status ← tryCatch (evaluate mode.inner body) fun l =>
      match l with
      | .returned code _ => pure code
      | l => leave l
    setStatus status
    runEvent evaluate returnEvent
    pure status
  restoring (inFrame (inCall site run)) (modify fun c => { c with
    positional := { c.positional with values := before.positional.values }
    loops := before.loops, depth := before.depth, line := before.line
    traps := c.traps ++ (before.traps.filter fun t =>
      hidden.contains t.1 && !c.traps.any (·.1 == t.1)) })

/-! ## commands of the shell -/

/-- runs a command of the shell; a failure of it is only a status -/
def runBuiltin (name : OctetText) (action : Sh Nat) : Sh Nat := do
  let before := (← get).command
  modify ({ · with command := some name })
  let finish : Sh Unit := do
    flush
    modify ({ · with command := before, outputFault := none })
  let ending : Sh Nat := do
    let status ← action
    flush
    match (← get).outputFault with
    | some e => do
      complain ("write error: " ++ faultText e)
      pure 1
    | none => pure status
  let status ← tryCatch ending fun l => do
    finish
    match l with
    | .failed => return (← get).status
    | l => leave l
  finish
  pure status

/-- what a command of the shell does with its arguments, but those that run others by name -/
def findBuiltin? (evaluate : Evaluate) (mode : Mode) (name : OctetText) :
    Option (List Argument → Sh Nat) :=
  let texts (f : Builtin) : Option (List Argument → Sh Nat) :=
    some fun args => f (args.map Argument.text)
  match name with
  | ":" => texts fun _ => pure 0
  | "true" => texts fun _ => pure 0
  | "false" => texts fun _ => pure 1
  | "." => texts (source evaluate)
  | "source" => texts (source evaluate)
  | "[" => texts bracket
  | "test" => texts check
  | "alias" => texts defineAliases
  | "unalias" => texts unalias
  | "bg" => texts moveJob
  | "fg" => texts moveJob
  | "break" => texts (leaveLoops fun levels => .breakLoop levels 0)
  | "continue" => texts (leaveLoops fun levels => .continueLoop levels 0)
  | "caller" => texts caller
  | "cd" => texts changeDirectory
  | "pwd" => texts workingDirectory
  | "pushd" => texts pushDirectory
  | "popd" => texts popDirectory
  | "dirs" => texts listStack
  | "declare" => some declareVariables
  | "typeset" => some declareVariables
  | "local" => some declareLocal
  | "export" => some exportEach
  | "readonly" => some protectEach
  | "unset" => texts unset
  | "disown" => texts disown
  | "echo" => texts echo
  | "printf" => texts printf
  | "read" => texts read
  | "mapfile" => texts mapfile
  | "readarray" => texts mapfile
  | "enable" => texts enable
  | "eval" => texts (eval evaluate mode)
  | "exit" => texts exit
  | "logout" => texts fun _ => abort "not login shell: use \x60exit'"
  | "return" => texts returnFrom
  | "getopts" => texts getOptions
  | "hash" => texts hash
  | "jobs" => texts jobs
  | "kill" => texts kill
  | "let" => texts letEach
  | "set" => texts set
  | "shopt" => texts shopt
  | "shift" => texts shift
  | "suspend" => texts fun _ => abort "cannot suspend: no job control"
  | "times" => texts times
  | "trap" => texts trap
  | "type" => texts types
  | "ulimit" => texts ulimit
  | "umask" => texts umask
  | "wait" => texts wait
  | name => if builtinNames.contains name then texts fun _ => pure 0 else none

/-! ## running words -/

/-- what comes before the name behind `command` -/
structure Passed where
  /-- what the name stands for is told instead -/
  describes : Option Description
  usual : Bool
  args : List Argument

/-- passes over the options of `command` -/
def passOptions : (fuel : Nat) → Passed → Sh Passed
  | 0, p => pure p
  | fuel + 1, p =>
    match p.args with
    | [] => pure p
    | arg :: rest =>
      match arg.text.toList with
      | ['-', '-'] => pure { p with args := rest }
      | '-' :: c :: cs => do
        let letters := c :: cs
        match letters.find? fun c => !(['p', 'v', 'V'].contains c) with
        | some c => misuse ("-" ++ String.ofList [c] ++ ": invalid option")
        | none =>
          let describes := if letters.contains 'V' then some Description.words
            else if letters.contains 'v' then some Description.reusable
            else p.describes
          passOptions fuel ⟨describes, p.usual || letters.contains 'p', rest⟩
      | _ => pure p

/-- runs what the first argument stands for -/
def runWords (evaluate : Evaluate) (mode : Mode) : (fuel : Nat) → (functions : Bool) →
    (places : Option OctetText) → List Argument → Sh Nat
  | 0, _, _, _ => pure 0
  | _ + 1, _, _, [] => pure 0
  | fuel + 1, functions, places, first :: args => do
    let name := first.text
    let c ← get
    match if functions then c.functions.lookup name else none with
    | some body => callFunction evaluate mode name body (args.map Argument.text)
    | none =>
      if name = "exec" then runBuiltin name (execute (args.map Argument.text))
      else if name = "command" then do
        let before := c.command
        modify ({ · with command := some name })
        let passed ← tryCatch (some <$> passOptions (args.length + 1) ⟨none, false, args⟩) fun l => do
          modify ({ · with command := before })
          match l with
          | .failed => pure none
          | l => leave l
        modify ({ · with command := before })
        match passed with
        | none => return (← get).status
        | some p =>
          let places := if p.usual then some usualPlaces else places
          match p.describes with
          | some d =>
            runBuiltin name (describeEach d false true false
              (if p.usual then some usualPlaces else none) (p.args.map Argument.text) 0)
          | none => runWords evaluate mode fuel false places p.args
      else if name = "builtin" then
        match args with
        | [] => pure 0
        | inner :: _ =>
          if builtinNames.contains inner.text then runWords evaluate mode fuel false places args
          else runBuiltin name (abort (inner.text ++ ": not a shell builtin"))
      else
        match findBuiltin? evaluate mode name with
        | some action => runBuiltin name (action args)
        | none => runProgram evaluate mode places (name :: args.map Argument.text)

/-! ## the whole -/

/-- assigns the variables before a command, for as long as it runs -/
def assignForCommand (runner : Runner) : List Word → Sh Unit
  | [] => pure ()
  | w :: ws => do
    match extendedAssignment? w with
    | none => pure ()
    | some a => do
      let assigned ← Assigned.ofAssignment runner a
      traceLine runner assigned.shown
      let c ← get
      let v? := c.var? assigned.name
      if (v?.map Variable.readOnly) == some true then
        complainPlainly (assigned.name ++ ": readonly variable")
      else do
        let value := match assigned with
          | .text _ _ append value =>
            if append then (v?.bind Variable.value?).getD "" ++ value else value
          | .elements _ _ _ source => source
        keepInFrame (match v? with
          | some v => .variable v
          | none => .absent assigned.name)
        modify (·.putVariable (.ofText assigned.name (some value) true false false))
        if assigned.name = "PATH" then modify ({ · with found := [] })
    assignForCommand runner ws

/-- assigns the variables of a command that has no words -/
def assignForGood (runner : Runner) : List Word → Sh Unit
  | [] => pure ()
  | w :: ws => do
    match extendedAssignment? w with
    | none => pure ()
    | some a => do
      let assigned ← Assigned.ofAssignment runner a
      traceLine runner assigned.shown
      assigned.perform
    assignForGood runner ws

/-- whether the redirections of a command stay -/
def keepsRedirections : List Argument → Bool
  | [] => false
  | a :: args => a.text = "exec" || (["builtin", "command"].contains a.text && keepsRedirections args)

/-- runs an action with redirections, whose failure is only a status -/
def withRedirections (runner : Runner) (keeps : Bool) (rs : List Redirection) (action : Sh Nat) :
    Sh Nat := do
  if rs.isEmpty then action
  else
    let resolved ← tryCatch (some <$> resolveAll runner rs) fun l =>
      match l with
      | .failed => pure none
      | l => leave l
    match resolved with
    | none => pure 1
    | some resolved =>
      match ← redirectAll runner [] resolved with
      | none => pure 1
      | some kept =>
        if keeps then do
          let status ← action
          forget kept
          pure status
        else restoring action (putBack kept)

/-- runs a simple command -/
def runSimple (evaluate : Evaluate) (mode : Mode) (line : Nat) (assignments words : List Word)
    (rs : List Redirection) : Sh Nat := do
  modify fun c => { c with line := line, captured := 0 }
  beginCommand evaluate (.simple line assignments words rs)
  modify fun c => { c with line := line }
  let runner := runnerOf evaluate
  let processes := (← get).extras.processes
  let args ← expandArguments runner (beginsDeclaration words) words
  let run : Sh Nat := do
    match args.getLast? with
    | none => do
      assignForGood runner assignments
      modify fun c => { c with extras := { c.extras with lastWord := "" } }
      let captured := (← get).captured
      withRedirections runner false rs (pure captured)
    | some last => do
      let isFunction := ((← get).functions.lookup (args.headD last).text).isSome
      let keeps := keepsRedirections args && !isFunction
      let inner : Sh Nat := do
        assignForCommand runner assignments
        traceLine runner (" ".intercalate (args.map fun a =>
          if a.array.isSome then a.text else shownWord a.text))
        withRedirections runner keeps rs
          (runWords evaluate mode (args.length + 1) true none args)
      let status ← if assignments.isEmpty then inner else inFrame inner
      modify fun c => { c with extras := { c.extras with lastWord := last.text } }
      pure status
  restoring run (closeProcesses processes)

end ShellWorkers.Script.Extended
