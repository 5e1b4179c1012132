import ShellWorkers.Decimal
import ShellWorkers.Text.CharKind
import ShellWorkers.Utility.Amounts

/-!
# Running other programs

Programs that run others, and children that are waited for.
-/

/-!
## Running other programs

Utilities that go on with another program for a limited time (`timeout`), below another root
(`chroot`), or with other small changes (`nice`, `nohup`, `setsid`, `stdbuf`); and those that look
for programs or wait (`which`, `sleep`).
-/

namespace ShellWorkers.Utility

open Machine
open Text (OctetText)
open ShellWorkers.Decimal

/-! ### other programs -/

/-- tries to execute the places of a search; a file that is no program is read by a shell.  The
fault if none can be executed: what cannot be executed is remembered. -/
def executeFirst (args : List OctetText) (vars : Variables) (remembered : SystemFault) :
    List OctetText → Work SystemFault
  | [] => pure remembered
  | path :: paths => do
    let e ← ask (.execute path args vars)
    let remembered := if e = .notFound || e = .notDirectory then remembered else e
    if e = .noExec then ask (.execute "/bin/sh" ("/bin/sh" :: path :: args.drop 1) vars)
    else executeFirst args vars remembered paths

/-- goes on with a program, and answers why that is not possible -/
def executeCommand (args : List OctetText) (vars : Variables) : Work SystemFault := do
  let name := args.headD ""
  if name.isEmpty then pure .notFound
  else
    let places := if name.contains '/' then [name]
      else State.placesOf ((vars.lookup "PATH").getD "/bin:/usr/bin") name
    flush
    executeFirst args vars .notFound places

/-- the code when a program cannot be executed -/
def failureCode (e : SystemFault) : Nat := if e = .notFound then 127 else 126

/-- a variable gets a value, at its place or behind the others -/
def setVariable (name value : OctetText) (vars : Variables) : Variables :=
  if vars.any (·.1 == name) then vars.map fun v => if v.1 == name then (name, value) else v
  else vars ++ [(name, value)]

/-- the assignments before the name of a program, added to variables, and the rest -/
def addAssignments (vars : Variables) : List OctetText → Variables × List OctetText
  | [] => (vars, [])
  | arg :: args =>
    let name := String.ofList (arg.toList.takeWhile (· != '='))
    if name.length = arg.length then (vars, arg :: args)
    else addAssignments
      (setVariable name (String.ofList (arg.toList.drop (name.length + 1))) vars) args

/-! ### signals as operands -/

/-- the names by which operands call signals, where a shell has others -/
def signalWords : List (OctetText × Nat) :=
  [("STKFLT", 16), ("POLL", 29), ("IOT", 6), ("CLD", 17), ("IO", 29)]

/-- the name of a signal -/
def signalWord (signal : Nat) : OctetText :=
  match signalWords.find? (·.2 == signal) with
  | some w => if signal = 16 || signal = 29 then w.1 else Signal.name signal
  | none => Signal.name signal

/-- the signal of a name, as `RTMIN` or `RTMAX` with an amount -/
def signalNamed? (name : OctetText) : Option Nat :=
  let amount? (text : OctetText) : Option Nat := if text.isEmpty then some 0 else decimal? text
  if name.startsWith "RTMIN+" || name == "RTMIN" then
    (amount? (String.ofList (name.toList.drop 6))).bind fun n =>
      if n ≤ Signal.lastFree - Signal.firstFree then some (Signal.firstFree + n) else none
  else if name.startsWith "RTMAX-" || name == "RTMAX" then
    (amount? (String.ofList (name.toList.drop 6))).bind fun n =>
      if n ≤ Signal.lastFree - Signal.firstFree then some (Signal.lastFree - n) else none
  else if name.toList.all Char.isDigit then none
  else signalWords.lookup name <|> Signal.ofName? 0 name

/-- the signal of an operand: a number, also as a code that tells of a signal, or a name with or
without its beginning -/
def signalOperand? (text : OctetText) : Option Nat :=
  let signal? := match text.toList with
    | c :: _ =>
      if c.isDigit then
        (decimal? text).bind fun n =>
          if 2147483647 < n then none else some (if 255 ≤ n then n % 256 else n % 128)
      else
        let name := String.ofList (text.toList.map Char.toUpper)
        signalNamed? name <|>
          (if name.startsWith "SIG" then signalNamed? (String.ofList (name.toList.drop 3)) else none)
    | [] => none
  signal?.filter fun n => n < Signal.count && n ≠ 32 && n ≠ 33

/-! ### nice, nohup, setsid and stdbuf -/

/-- goes on with a command that was named behind options, or ends the utility -/
def goOn (what : OctetText) (command : List OctetText) : Work Unit := do
  let e ← executeCommand command (← get).vars
  failWith (failureCode e) (what ++ quoted (command.headD "") ++ ": " ++ faultText e)

def niceOptions : OptionTable where
  letters := "n:0123456789"
  names := [("adjustment", .value, "n")]
  strict := true

/-- whether an argument is a number behind a sign, perhaps with another sign before it -/
def isAdjustment (arg : OctetText) : Bool :=
  match arg.toList with
  | '-' :: '-' :: c :: _ => c.isDigit
  | '-' :: '+' :: c :: _ => c.isDigit
  | '-' :: c :: _ => c.isDigit
  | _ => false

/-- arguments with the options for which numbers with a sign stand -/
def withAdjustments : List OctetText → List OctetText
  | [] => []
  | arg :: args =>
    if isAdjustment arg then "-n" :: (arg.drop 1).toString :: withAdjustments args
    else if arg = "-n" || (3 ≤ arg.length && "--adjustment".startsWith arg) then
      match args with
      | value :: args => arg :: value :: withAdjustments args
      | [] => [arg]
    else if arg.startsWith "-n" || arg.startsWith "--a" then arg :: withAdjustments args
    else arg :: args

/-- a whole number with an optional sign, blanks before it -/
def adjustment? (text : OctetText) : Option Int :=
  let digits? (ds : List Char) : Option Int :=
    if ds.isEmpty || !ds.all Char.isDigit then none
    else some ((Floating.digitsIn 10 ds : Nat) : Int)
  match text.toList.dropWhile Text.isSpace with
  | '-' :: ds => (digits? ds).map (- ·)
  | '+' :: ds => digits? ds
  | ds => digits? ds

def nice (args : List OctetText) : Work Unit := do
  let a ← readArguments niceOptions 125 (withAdjustments args)
  let amount ← match a.value? "n" with
    | none => pure 10
    | some text =>
      match adjustment? text with
      | some n => pure n
      | none => failWith 125 ("invalid adjustment " ++ quoted text)
  let niceness ← ask .niceness
  if a.operands.isEmpty then
    if a.has "n" then misused 125 "a command must be given with an adjustment"
    else putLine (toString niceness)
  else do
    match ← ask (.setNiceness (niceness + amount)) with
    | .ok _ => pure ()
    | .error e => note ("cannot set niceness: " ++ faultText e)
    goOn "" a.operands

def commandOptions : OptionTable := ⟨"", [], true⟩

def nohup (args : List OctetText) : Work Unit := do
  let a ← readArguments commandOptions 125 args
  if a.operands.isEmpty then misused 125 "missing operand"
  ask (.setDisposition Signal.hangUp .ignored)
  goOn "failed to run command " a.operands

def setsidOptions : OptionTable where
  letters := "cfw"
  names := [("ctty", .nothing, "c"), ("fork", .nothing, "f"), ("wait", .nothing, "w")]
  strict := true

def setsid (args : List OctetText) : Work Unit := do
  let a ← readArguments setsidOptions 1 args
  if a.operands.isEmpty then misused 1 "no command specified"
  let e ← executeCommand a.operands (← get).vars
  failWith (failureCode e) ("failed to execute " ++ a.operands.headD "" ++ ": " ++ faultText e)

def stdbufOptions : OptionTable where
  letters := "i:o:e:"
  names := [("input", .value, "i"), ("output", .value, "o"), ("error", .value, "e")]
  strict := true

def stdbuf (args : List OctetText) : Work Unit := do
  let a ← readArguments stdbufOptions 125 args
  for (option, value?) in a.options do
    let mode := value?.getD ""
    if option = "i" && mode = "L" then misused 125 "line buffering stdin is meaningless"
    if mode ≠ "L" then
      match amount? "EGkKMPTYZ" mode with
      | .ok _ => pure ()
      | .error .invalid => failWith 125 ("invalid mode " ++ quoted mode)
      | .error .tooLarge =>
        failWith 125 ("invalid mode " ++ quoted mode
          ++ ": Value too large for defined data type")
  if a.operands.isEmpty then misused 125 "missing operand"
  if a.options.isEmpty then misused 125 "you must specify a buffering mode option"
  goOn "failed to run command " a.operands

/-! ### chroot -/

def chrootOptions : OptionTable where
  letters := ""
  names := [("groups", .value, "groups"), ("userspec", .value, "userspec"),
    ("skip-chdir", .nothing, "skip-chdir")]
  strict := true

/-- tries to run a command below another root, which nobody may do here: a directory that can be
entered is refused for that reason, and every other path for its own -/
def chroot (args : List OctetText) : Work Unit := do
  let a ← readArguments chrootOptions 125 args
  match a.operands with
  | [] => misused 125 "missing operand"
  | root :: _ => do
    let entered ← ask (.changeDirectory root)
    let isRoot := match entered, ← ask .workingDirectory with
      | .ok _, .ok path => path == "/"
      | _, _ => false
    if a.has "skip-chdir" && !isRoot then
      misused 125 ("option --skip-chdir only permitted if NEWROOT is old " ++ shellQuoted "/")
    let e := match entered with
      | .error e => e
      | .ok _ => .notPermitted
    failWith 125 ("cannot change root directory to " ++ shellQuoted root ++ ": " ++ faultText e)

/-! ### amounts of time -/

/-- a number of seconds with a unit behind it; what has no end is very long -/
def interval? (text : OctetText) : Option Duration := do
  let r ← Floating.read? text.toList
  let unit ← match r.rest with
    | [] => some 1
    | ['s'] => some 1
    | ['m'] => some 60
    | ['h'] => some 3600
    | ['d'] => some 86400
    | _ => none
  match r.ratio with
  | some (n, d) =>
    if r.negative && n ≠ 0 then none else some ⟨(n * unit * 1000000000 + d - 1) / d⟩
  | none =>
    if r.other == .infinite && !r.negative then some ⟨Nat.pow 10 30⟩ else none

/-! ### timeout -/

def timeoutOptions : OptionTable where
  letters := "k:s:v"
  names := [("foreground", .nothing, "foreground"), ("preserve-status", .nothing, "preserve"),
    ("kill-after", .value, "k"), ("signal", .value, "s"), ("verbose", .nothing, "v")]
  strict := true

/-- an amount of time, or the end of the utility -/
def intervalOrFail (text : OctetText) : Work Duration := do
  match interval? text with
  | some d => pure d
  | none => misused 125 ("invalid time interval " ++ quoted text)

/-- a process that does nothing but sleep -/
def startClock (amount : Duration) : Work (Option Pid) := do
  if amount.nanos = 0 then pure none
  else
    match ← ask .fork with
    | some pid => pure (some pid)
    | none => do
      ask (.sleep amount)
      stop 0

/-- waits for a child, until it ends or the time is over; nothing when the time is over -/
def waitWithin (child : Pid) (clock : Option Pid) : (fuel : Nat) →
    Work (Option Host.ExitStatus)
  | 0 => pure none
  | fuel + 1 => do
    match ← ask (.wait none true) with
    | .ok (some (pid, status)) =>
      if pid = child then do
        match clock with
        | some clock =>
          let _ ← ask (.kill clock Signal.kill)
        | none => pure ()
        pure (some status)
      else if clock == some pid then pure none
      else waitWithin child clock fuel
    | _ => waitWithin child clock fuel

/-- says that a signal is sent, and sends it -/
def sendTo (a : Arguments) (name : OctetText) (child : Pid) (signal : Nat) : Work Unit := do
  if a.has "v" then
    note ("sending signal " ++ signalWord signal ++ " to command " ++ quoted name)
  let _ ← ask (.kill child signal)

/-- ends as a child did: by the same code, or by the same signal -/
def endLike (status : Host.ExitStatus) : Work Unit := do
  match status with
  | .exited code => stop code
  | .killed signal => do
    ask (.setDisposition signal .default)
    let _ ← ask (.kill (← ask .self) signal)
    stop (128 + signal)

def timeout (args : List OctetText) : Work Unit := do
  let a ← readArguments timeoutOptions 125 args
  let signal ← match a.value? "s" with
    | none => pure Signal.terminate
    | some text =>
      match signalOperand? text with
      | some signal => pure signal
      | none => misused 125 (quoted text ++ ": invalid signal")
  let grace ← match a.value? "k" with
    | none => pure none
    | some text => some <$> intervalOrFail text
  match a.operands with
  | text :: command@(name :: _) => do
    let limit ← intervalOrFail text
    match ← ask .fork with
    | none => do
      let e ← executeCommand command (← get).vars
      failWith (failureCode e)
        ("failed to run command " ++ quoted name ++ ": " ++ faultText e)
    | some child => do
      match ← waitWithin child (← startClock limit) streamFuel with
      | some status => endLike status
      | none => do
        sendTo a name child signal
        let status ← match ← waitWithin child (← startClock (grace.getD ⟨0⟩)) streamFuel with
          | some status => pure status
          | none => do
            sendTo a name child Signal.kill
            pure ((← waitWithin child none streamFuel).getD (.killed Signal.kill))
        match status with
        | .killed 9 => endLike status
        | .killed n => stop (if a.has "preserve" then 128 + n else 124)
        | .exited code => stop (if a.has "preserve" then code else 124)
  | _ => do
    putMessage ("Try '" ++ (← get).name ++ " --help' for more information.\n")
    stop 125

/-! ### runcon -/

/-- runs nothing: the kernel knows no security contexts -/
def runcon (args : List OctetText) : Work Unit := do
  let a ← readArguments ⟨"r:t:u:l:c", [("role", .value, "r"), ("type", .value, "t"),
    ("user", .value, "u"), ("range", .value, "l"), ("compute", .nothing, "c")], true⟩ 1 args
  for (option, plural) in [("r", "roles"), ("t", "types"), ("u", "users"), ("l", "levels")] do
    if 1 < (a.values option).length then fail ("multiple " ++ plural)
  match a.operands with
  | [] => fail ("failed to get current context: " ++ SystemFault.codeText 22)
  | [_] =>
    if a.options.isEmpty then misused 1 "no command specified"
    else fail "runcon may be used only on a SELinux kernel"
  | _ => fail "runcon may be used only on a SELinux kernel"

/-! ### sleep -/

def sleep (args : List OctetText) : Work Unit := do
  let a ← readArguments ⟨"", [], false⟩ 1 args
  if a.operands.isEmpty then misused 1 "missing operand"
  let invalid := a.operands.filter fun text => (interval? text).isNone
  match invalid.getLast? with
  | some last => do
    for text in invalid.dropLast do
      note ("invalid time interval " ++ quoted text)
    misused 1 ("invalid time interval " ++ quoted last)
  | none =>
    ask (.sleep ((a.operands.filterMap interval?).foldl
      (fun total d => ⟨total.nanos + d.nanos⟩) ⟨0⟩))

/-! ### which -/

/-- the places of a program that can be executed -/
def placesOfProgram (name : OctetText) : Work (List OctetText) := do
  let path := ((← get).vars.lookup "PATH").getD ""
  let candidates := if name.contains '/' then [name] else State.placesOf path name
  candidates.filterM fun place => do
    match ← ask (.status place true) with
    | .ok s => pure (s.kind = .file && s.isExecutable)
    | .error _ => pure false

/-- options that are not understood -/
def misusedWhich (letter : OctetText) : Work Unit := do
  putMessage ("Illegal option -" ++ letter ++ "\nUsage: /usr/bin/which [-as] args\n")
  stop 2

def which (args : List OctetText) : Work Unit := do
  match Arguments.read ⟨"as", [], true⟩ args with
  | .error message =>
    misusedWhich (if message.startsWith "unrecognized" then "-"
      else String.ofList ((message.toList.drop (message.length - 2)).take 1))
  | .ok a => do
    if a.has OptionTable.version then misusedWhich "-"
    if a.operands.isEmpty then setCode 1
    for name in a.operands do
      let places ← placesOfProgram name
      if places.isEmpty then setCode 1
      if !a.has "s" then
        for place in (if a.has "a" then places else places.take 1) do
          putLine place

end ShellWorkers.Utility

/-!
## Children of a utility

A utility that runs other programs forks children which execute them: with its own streams, with
its output read (`outputOf`), or with a text as their input.
-/

namespace ShellWorkers.Utility

open Machine
open Text (OctetText)

/-- goes on with a program in a child; `complain` says what is wrong if it cannot be executed -/
def becomeCommand {α : Type} (args : List OctetText) (vars : Variables)
    (complain : SystemFault → Work Unit) : Work α := do
  let e ← executeCommand args vars
  complain e
  stop (failureCode e)

/-- a child that does some work and ends; what the utility holds back is none of its business -/
def startChild (work : Work Unit) : Work Pid := do
  match ← ask .fork with
  | some pid => pure pid
  | none => do
    modify ({ · with output := [], size := 0 })
    work
    flush
    stop 0

/-- waits for the end of a child -/
def awaitChild (child : Pid) : Work Host.ExitStatus := do
  match ← ask (.wait (some child) true) with
  | .ok (some (_, status)) => pure status
  | _ => pure (.exited 127)

/-- goes on with a shell of some name that runs a command -/
def becomeShell {α : Type} (name command : OctetText) : Work α := do
  flush
  let _ ← ask (.execute "/bin/sh" [name, "-c", command] (← get).vars)
  stop 127

/-- runs a command by a shell, with the streams of the utility -/
def runShell (name command : OctetText) : Work Host.ExitStatus := do
  flush
  awaitChild (← startChild (becomeShell name command))

/-- a new pipe; without one the utility ends -/
def openPipe : Work (Nat × Nat) := do
  match ← ask .pipe with
  | .ok ends => pure ends
  | .error e => failWith 1 ("cannot create pipe: " ++ faultText e)

/-- a child that runs a command by a shell, and the descriptor from which its output is read -/
def startReader (name command : OctetText) : Work (Pid × Nat) := do
  let (reading, writing) ← openPipe
  let child ← startChild do
    let _ ← ask (.close reading)
    let _ ← ask (.duplicate writing 1)
    let _ ← ask (.close writing)
    becomeShell name command
  let _ ← ask (.close writing)
  return (child, reading)

/-- a child that runs a command by a shell, and the descriptor to which its input is written -/
def startWriter (name command : OctetText) : Work (Pid × Nat) := do
  let (reading, writing) ← openPipe
  let child ← startChild do
    let _ ← ask (.close writing)
    let _ ← ask (.duplicate reading 0)
    let _ ← ask (.close reading)
    becomeShell name command
  let _ ← ask (.close reading)
  return (child, writing)

/-- the output of a command that a shell runs -/
def outputOf (command : OctetText) : Work OctetText := do
  let (child, reading) ← startReader "sh" command
  let text ← readAll reading
  let _ ← ask (.close reading)
  let _ ← awaitChild child
  return text.toOption.getD ""

end ShellWorkers.Utility
