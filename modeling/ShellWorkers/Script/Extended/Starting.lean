import ShellWorkers.Script.Interpreter

/-!
# A shell of the extended language as a program

A shell takes over the variables and the functions that it is handed, reads its options, and runs
its script.
-/

namespace ShellWorkers.Script.Extended

open Machine
open Text (OctetText)

/-! ## variables -/

/-- the variables that are found and get no value of the shell's own -/
def foundVariables (vars : Variables) : List Variable :=
  vars.filterMap fun (name, value) =>
    if isName name.toList && !(["IFS", "OPTIND", "OPTERR", "PS1", "PS2", "_"].contains name) then
      some (.ofText name (some value) true false false)
    else none

/-- gives a variable a value if it has none -/
def provide (name value : OctetText) (c : Context) : Context :=
  match c.var? name with
  | some _ => c
  | none => c.putVariable (.ofText name (some value) false false false)

/-- how many shells surround this one, which counts itself -/
def nextLevel (text : Option OctetText) : Int :=
  let level := ((text.bind integer?).getD 0) + 1
  if level < 0 then 0 else if 1000 ≤ level then 1 else level

/-- a variable that holds a number -/
def numberVariable (name value : OctetText) (readOnly : Bool) : Variable :=
  let v := Variable.ofText name (some value) false readOnly false
  { v with traits := { v.traits with integer := true } }

/-- a shell that has just begun -/
def startingContext (name : OctetText) (pid parent : Pid) (vars : Variables) : Context :=
  let c := initialContext true name pid (foundVariables vars)
  let level := toString (nextLevel (c.value? "SHLVL"))
  let c := c.putVariable (.ofText "SHLVL" (some level) true false false)
  let c := (ownVariables.filter fun v => v.1 = "PATH" || v.1 = "PS4").foldl
    (fun c v => provide v.1 (v.2.getD "") c) c
  let c := provide "TERM" "dumb" (provide "SHELL" "/bin/bash" c)
  let c := c.putVariable (.ofText "IFS" (some (String.ofList Context.usualSeparators)) false false
    false)
  let c := c.putVariable (numberVariable "OPTIND" "1" false)
  let c := c.putVariable (.ofText "OPTERR" (some "1") false false false)
  let c := c.putVariable (numberVariable "PPID" (toString parent) true)
  { c with
    settings := [.braces, .rememberPrograms, .interactiveComments]
    extras := { c.extras with lastWord := name } }

/-- what a variable that holds a function is called: the name of the function -/
def functionName? (name : OctetText) : Option OctetText :=
  let start := "BASH_FUNC_"
  let inner := name.toList.drop start.length
  if name.startsWith start && name.endsWith "%%" then
    some (String.ofList (inner.take (inner.length - 2)))
  else none

/-- takes over the functions among the variables -/
def findFunctions : Variables → Sh Unit
  | [] => pure ()
  | (name, value) :: vars => do
    match functionName? name with
    | some function =>
      if value.startsWith "() \x7b" then
        let _ ← evaluateText run function true .plain (function ++ " " ++ value)
        modify fun c => { c with extras := { c.extras with
          shared := function :: c.extras.shared
          origins := (function, "environment") :: c.extras.origins } }
    | none => pure ()
    findFunctions vars

/-- takes over the directory that the shell was in before, if there is one -/
def findOldDirectory : Sh Unit := do
  let value? ← match (← get).value? "OLDPWD" with
    | some path =>
      match ← sys (.status path true) with
      | .ok s => pure (if s.kind == .directory then some path else none)
      | .error _ => pure none
    | none => pure none
  modify (·.putVariable (.ofText "OLDPWD" value? true false false))

/-! ## arguments -/

def usage : OctetText :=
  "Usage:\tbash [GNU long option] [option] ...\n\tbash [GNU long option] [option] script-file ...\n"
    ++ "GNU long options:\n\t--debug\n\t--debugger\n\t--dump-po-strings\n\t--dump-strings\n\t--help\n"
    ++ "\t--init-file\n\t--login\n\t--noediting\n\t--noprofile\n\t--norc\n\t--posix\n"
    ++ "\t--pretty-print\n\t--rcfile\n\t--restricted\n\t--verbose\n\t--version\n"
    ++ "Shell options:\n\t-ilrsD or -c command or -O shopt_option\t\t(invocation only)\n"
    ++ "\t-abefhkmnptuvxBCEHPT or -o option\n"

/-- what tells the version -/
def versionLine : OctetText := "GNU bash, version 5.2.15(1)-release (x86_64-pc-linux-gnu)\n"

/-- a fault of the arguments, which ends the shell -/
def refuse {α : Type} (message : OctetText) (showsUsage : Bool) : Sh α := do
  writeTo 2 ((← get).name ++ ": " ++ message ++ "\n" ++ (if showsUsage then usage else ""))
  leave (.exit 2)

/-- reads the options with long names at the beginning of at most `fuel` arguments -/
def readNames : (fuel : Nat) → List OctetText → Sh (List OctetText)
  | 0, args => pure args
  | _ + 1, [] => pure []
  | fuel + 1, arg :: args =>
    let name := match arg.toList with
      | '-' :: '-' :: cs => String.ofList cs
      | '-' :: cs => String.ofList cs
      | _ => ""
    if ["debug", "debugger", "login", "noediting", "noprofile", "norc", "pretty-print",
        "restricted"].contains name then readNames fuel args
    else if name = "posix" then do
      turnSetting .standardLanguage true
      readNames fuel args
    else if name = "verbose" then do
      turnSetting .verbose true
      readNames fuel args
    else if name = "init-file" || name = "rcfile" then
      match args with
      | [] => refuse (name ++ ": option requires an argument") false
      | _ :: args => readNames fuel args
    else if name = "version" then do
      let _ ← readNames fuel args
      writeTo 1 versionLine
      leave (.exit 0)
    else if arg.startsWith "--" && arg ≠ "--" then refuse (arg ++ ": invalid option") true
    else pure (arg :: args)

/-- applies the letters of one argument: whether the script is an argument, and what is left of
the arguments behind it -/
def startLetters (value : Bool) : List Char → (inArgument : Bool) → List OctetText →
    Sh (Bool × List OctetText)
  | [], inArgument, args => pure (inArgument, args)
  | 'c' :: cs, _, args => do
    turnSetting .inArgument true
    startLetters value cs true args
  | 'l' :: cs, inArgument, args => startLetters value cs inArgument args
  | 's' :: cs, inArgument, args => do
    turnSetting .onInput true
    startLetters value cs inArgument args
  | 'o' :: cs, inArgument, args =>
    match args with
    | [] => do
      listSettings value
      flush
      leave (.exit 0)
    | name :: args =>
      match settingOfName? name with
      | some s => do
        turnSetting s value
        startLetters value cs inArgument args
      | none => do
        let shell := (← get).name
        refuse ("line 0: " ++ shell ++ ": " ++ name ++ ": invalid option name") false
  | 'O' :: cs, inArgument, args =>
    match args with
    | [] => do
      let c ← get
      for name in features do
        say (featureLine (!value) false name (c.extras.features.contains name))
      flush
      leave (.exit 0)
    | name :: args =>
      if features.contains name then do
        turnFeature name value
        startLetters value cs inArgument args
      else refuse ("line 0: " ++ name ++ ": invalid shell option name") false
  | c :: cs, inArgument, args =>
    match settingOfLetter? c with
    | some s => do
      turnSetting s value
      startLetters value cs inArgument args
    | none => refuse (String.ofList [if value then '-' else '+', c] ++ ": invalid option") true

/-- reads the options with letters of at most `fuel` arguments -/
def readStart : (fuel : Nat) → (inArgument : Bool) → List OctetText → Sh (Bool × List OctetText)
  | 0, inArgument, args => pure (inArgument, args)
  | _ + 1, inArgument, [] => pure (inArgument, [])
  | fuel + 1, inArgument, arg :: args =>
    match arg.toList with
    | ['-'] => pure (inArgument, args)
    | ['-', '-'] => pure (inArgument, args)
    | '-' :: letters => do
      let (inArgument, rest) ← startLetters true letters inArgument args
      readStart fuel inArgument rest
    | '+' :: letters => do
      let (inArgument, rest) ← startLetters false letters inArgument args
      readStart fuel inArgument rest
    | _ => pure (inArgument, arg :: args)

/-! ## scripts -/

/-- ends the shell because a script cannot be run -/
def refuseScript {α : Type} (path message : OctetText) (status : Nat) : Sh α := do
  writeTo 2 ((← get).name ++ ": " ++ path ++ ": " ++ message ++ "\n")
  leave (.exit status)

/-- the path of a script: a file of its name, else one in the search path -/
def scriptPath (path : OctetText) : Sh OctetText := do
  match ← sys (.status path true) with
  | .ok _ => pure path
  | .error _ =>
    if path.contains '/' then pure path
    else
      let places := (((← get).value? "PATH").getD "").splitOn ":"
      return (← searchFile path places).getD path

/-- runs the script of a file -/
def runFile (path : OctetText) (args : List OctetText) : Sh Nat := do
  let found ← scriptPath path
  match ← sys (.status found true) with
  | .error e => refuseScript path (faultText e) (if e = .notFound then 127 else 126)
  | .ok s =>
    if s.kind == .directory then do
      modify ({ · with name := path })
      refuseScript path "Is a directory" 126
    else
      match ← sys (.openFile found .read openPermissions) with
      | .error e => refuseScript path (faultText e) 126
      | .ok fd => do
        let _ ← sys (.close fd)
        if !(← isText found) then refuseScript path "cannot execute binary file" 126
        openScript found
        setName (path :: args)
        modify fun c => { c with extras := { c.extras with
          source := path, calls := [⟨"main", path, 0⟩] } }
        runInput run scriptFuel 0

/-- runs the script that the arguments name -/
def runArguments (inArgument : Bool) (args : List OctetText) : Sh Nat := do
  if inArgument then
    match args with
    | [] => refuse "-c: option requires an argument" false
    | text :: args => do
      modify fun c => { c with
        extras := { c.extras with source := "environment" } }
      modify (·.putVariable (.ofText "BASH_EXECUTION_STRING" (some text) false false false))
      setName args
      evaluateText run "-c" true ⟨false, true⟩ text
  else
    match args with
    | path :: args =>
      if ← isOn .onInput then do
        setArguments (path :: args)
        runOnInput
      else runFile path args
    | [] => do
      turnSetting .onInput true
      runOnInput

/-- a shell of the extended language: its arguments, the first being its name, and its variables -/
def shell : Program := fun args vars => do
  let pid ← call .self
  let parent ← call .parent
  let seconds := Int.fdiv (← call .now) Clock.nanosPerSecond
  let c := startingContext (args.head?.getD "bash") pid parent vars
  let c := { c with extras := { c.extras with began := seconds, secondsFrom := seconds } }
  runToEnd c do
    findDirectory
    findOldDirectory
    findFunctions vars
    let rest ← readNames (args.length + 1) (args.drop 1)
    let (inArgument, rest) ← readStart (args.length + 1) false rest
    runArguments inArgument rest

end ShellWorkers.Script.Extended
