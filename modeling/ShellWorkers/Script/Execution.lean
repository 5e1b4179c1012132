import ShellWorkers.Script.Builtin.Settings
import ShellWorkers.Script.Jobs
import ShellWorkers.Script.Redirection

/-!
# Running scripts

How commands are run one after another, and how loops and selections run them.
-/

/-!
## Running scripts

What runs commands is an `Evaluate`, which gets a command and the `Mode` in which its surroundings
want it to be run.  Given one, a text is run line by line (`evaluateText`), a script as it comes in
(`runInput`), and the commands for signals when these have arrived (`runTraps`).

A new process of a shell (`forked`) goes on as a shell of its own, which forgets the commands for
signals and the children.
-/

namespace ShellWorkers.Script

open Machine
open Text (OctetText)

/-- how a command is run -/
structure Mode where
  /-- its status is tested, so that a failure does not end the shell -/
  tested : Bool
  /-- nothing is left to do after it, so that a program can take the place of the shell -/
  final : Bool

namespace Mode

def plain : Mode := ⟨false, false⟩

/-- a part whose status is tested -/
def test : Mode := ⟨true, false⟩

/-- a part behind which there are others -/
def inner (m : Mode) : Mode := { m with final := false }

/-- the only part of a process of its own -/
def last (m : Mode) : Mode := { m with final := true }

end Mode

/-- what runs commands -/
abbrev Evaluate := Mode → Command → Sh Nat

/-! ### texts -/

/-- whether a scanner has come to the end of its text -/
def isFinished (s : Scanner) : Bool :=
  match s.pushed with
  | some .endOfText => true
  | _ => false

def isNothing : Command → Bool
  | .nothing => true
  | _ => false

/-- the status of a script that is at fault in the extended language -/
def faultStatus : Nat := 2

/-- Says what is wrong with a line of a script; `part` names the part of the script that is not
read from a file.  In the standard language the shell ends. -/
def reportFault (part : OctetText) (line : Nat) (messages : List OctetText) : Sh Unit := do
  let c ← get
  if c.extended then do
    for message in messages do
      writeTo 2 (c.messageName ++ ": " ++ (if part.isEmpty then "" else part ++ ": ") ++ "line "
        ++ toString line ++ ": " ++ message ++ "\n")
    setStatus faultStatus
  else do
    modify ({ · with parseLine := line })
    abortScript (messages.headD "")

/-- the aliases that are known where the script is read -/
def readableAliases (c : Context) : List (OctetText × OctetText) :=
  if !c.extended || c.extras.features.contains "expand_aliases" then c.aliases else []

/-- parses the next line of a script in the language of the shell -/
def parseNext (c : Context) (s : Scanner) : Parsed (Option Command) :=
  parseLine (readableAliases c)
    (s.inLanguage c.extended (c.extended && c.extras.features.contains "extglob"))

/-- says what the reading of a script has brought up -/
def sayWarnings (s : Scanner) : Sh Unit :=
  s.warnings.forM fun w => do
    writeTo 2 ((← get).messageName ++ ": line " ++ toString w.1 ++ ": warning: " ++ w.2 ++ "\n")

/-- runs the commands of a line, after which a failure in the extended language is only a status; a
process of its own ends there if the line is a part of a text -/
def survivingFailure (inText : Bool) (action : Sh Nat) : Sh Nat :=
  tryCatch action fun l => do
    let c ← get
    let survive : Sh Nat := if inText && c.isChild then leave (.exit c.status) else pure c.status
    match l with
    | .failed => if c.extended then survive else leave l
    | .abandoned => if inText then leave l else pure c.status
    | l => leave l

/-- shows a part of the script as it has been read -/
def showScript (before after : Scanner) : Sh Unit := do
  if ← isOn .verbose then
    writeTo 2 (String.ofList (before.chars.take (before.chars.length - after.chars.length)))

/-- runs the commands of a text, which is all there; the status is that of the last one -/
def evaluateLines (evaluate : Evaluate) (part : OctetText) (mode : Mode) : (fuel : Nat) →
    Scanner → (status : Nat) → Sh Nat
  | 0, _, status => pure status
  | fuel + 1, s, status => do
    let c ← get
    let show_ (rest : Scanner) : Sh Unit := if c.extended then showScript s rest else pure ()
    match parseNext c s with
    | .done none rest => do
      show_ rest
      pure status
    | .done (some command) rest => do
      show_ rest
      sayWarnings rest
      modify ({ · with parseLine := rest.line })
      let next ← survivingFailure true
        (evaluate { mode with final := mode.final && isFinished rest } command)
      evaluateLines evaluate part mode fuel { rest with warnings := [] }
        (if isNothing command then status else next)
    | .more => pure status
    | .failed line messages => do
      show_ { s with chars := [] }
      reportFault part line messages
      pure faultStatus

/-- Runs the commands of a text with lines of its own.  In the extended language they are counted
from the line that is run, unless they are `fresh`. -/
def evaluateText (evaluate : Evaluate) (part : OctetText) (fresh : Bool) (mode : Mode)
    (text : OctetText) : Sh Nat := do
  let c ← get
  let cs := text.toList
  let (line, cs) :=
    if !c.extended then (1, cs)
    else (if fresh then 1 else c.line, if cs.getLast? == some '\n' then cs else cs ++ ['\n'])
  let run := evaluateLines evaluate part mode (cs.length + 2) (.ofText cs line true []) 0
  restoring run (modify ({ · with parseLine := c.parseLine }))

/-! ### scripts -/

/-- how much of a script is read at once -/
def pieceSize : Nat := 8192

/-- reads from a descriptor, however often a signal comes in between -/
def readOn (fd count : Nat) : (fuel : Nat) → Sh OctetText
  | 0 => pure ""
  | fuel + 1 => do
    match ← sys (.read fd count) with
    | .ok text => pure text
    | .error .interrupted => do
      collectSignals
      readOn fd count fuel
    | .error _ => pure ""

/-- more characters than any line has -/
def lineFuel : Nat := 1000000000

/-- reads a line character by character, so that nothing behind it is taken -/
def readLineOn (fd : Nat) : (fuel : Nat) → List OctetText → Sh OctetText
  | 0, texts => pure (String.join texts.reverse)
  | fuel + 1, texts => do
    let text ← readOn fd 1 waitFuel
    if text.isEmpty then pure (String.join texts.reverse)
    else if text = "\n" then pure (String.join (text :: texts).reverse)
    else readLineOn fd fuel (text :: texts)

/-- reads a piece of the script behind what has been read; in the extended language it is a line -/
def readPiece : Sh Unit := do
  let c ← get
  let text ← match c.source with
    | none => pure ""
    | some fd => if c.extended then readLineOn fd lineFuel [] else readOn fd pieceSize waitFuel
  modify fun c =>
    let chars := c.input.chars ++ text.toList.filter (· != '\x00')
    { c with input := { c.input with chars := chars, lineChars := chars, atEnd := text.isEmpty } }

/-- more lines than any script has -/
def scriptFuel : Nat := 1000000000000

/-- runs the script up to its end -/
def runInput (evaluate : Evaluate) : (fuel : Nat) → (status : Nat) → Sh Nat
  | 0, status => pure status
  | fuel + 1, status => do
    let c ← get
    match parseNext c c.input with
    | .more => do
      readPiece
      runInput evaluate fuel status
    | .done none rest => do
      showScript c.input rest
      pure status
    | .done (some command) rest => do
      showScript c.input rest
      sayWarnings rest
      modify ({ · with input := { rest with warnings := [] }, parseLine := rest.line })
      let next ← survivingFailure false (evaluate .plain command)
      runInput evaluate fuel (if isNothing command then status else next)
    | .failed line messages => do
      showScript c.input { c.input with chars := [] }
      reportFault "" line messages
      pure faultStatus

/-- runs the script that a descriptor gives in place of the one that is run -/
def runSource (evaluate : Evaluate) (fd : Nat) : Sh Nat := do
  let before ← get
  set { before with input := .ofText [] 1 false [], source := some fd, parseLine := 1 }
  restoring (runInput evaluate scriptFuel 0) do
    let _ ← sys (.close fd)
    modify ({ · with
      input := before.input, source := before.source, parseLine := before.parseLine })

/-! ### signals -/

/-- runs the commands for one signal; the status is what it was, unless they name one -/
def runTrap (evaluate : Evaluate) (signal : Nat) (text : OctetText) (others : List Nat) :
    Sh Unit := do
  let before ← get
  let status := before.interrupted.getD before.status
  set { before with interrupted := some status }
  let leaving (l : Leave) : Sh Nat := do
    modify fun c => { c with interrupted := before.interrupted, arrived := c.arrived ++ others }
    match l with
    | .returned _ false => leave (.returned status false)
    | .breakLoop levels _ => leave (.breakLoop levels status)
    | .continueLoop levels _ => leave (.continueLoop levels status)
    | l => leave l
  let named := signal < Signal.count
  let run := evaluateText evaluate "trap" named .plain text
  let _ ← tryCatch run leaving
  modify ({ · with interrupted := before.interrupted, status := status })

/-- runs the commands for signals in order -/
def runTrapsFor (evaluate : Evaluate) : List Nat → Sh Unit
  | [] => pure ()
  | signal :: signals => do
    match (← get).traps.lookup signal with
    | some text => runTrap evaluate signal text signals
    | none => pure ()
    runTrapsFor evaluate signals

/-- whether commands are set for any signal -/
def hasTraps (c : Context) : Bool := c.traps.any fun t => !t.2.isEmpty

/-- runs the commands for the signals that have arrived -/
def runTraps (evaluate : Evaluate) : Sh Unit := do
  if hasTraps (← get) then
    collectSignals
    let arrived := (← get).arrived
    if !arrived.isEmpty then
      modify ({ · with arrived := [] })
      runTrapsFor evaluate ((List.range Signal.count).filter arrived.contains)

/-- the code with which an action ends its process -/
def codeOf (c : Context) : Except Leave Nat → Nat
  | .ok status => status
  | .error (.exit code) => code
  | .error .failed => c.status
  | .error .abandoned => c.status
  | .error (.returned code _) => code
  | .error (.breakLoop _ status) => status
  | .error (.continueLoop _ status) => status

/-- runs the commands for the end of the shell, which can change its code -/
def runExitTrap (evaluate : Evaluate) (code : Nat) : Sh Nat := do
  match (← get).traps.lookup 0 with
  | none => pure code
  | some text => do
    modify fun c => { c with
      traps := c.traps.filter (·.1 ≠ 0), status := code, interrupted := some code, loops := 0 }
    let ending (l : Leave) : Sh Nat := do
      match l with
      | .exit other => pure other
      | .failed => return (← get).status
      | .abandoned => return (← get).status
      | _ => pure code
    modify fun c => if c.extended then { c with line := 1 } else c
    tryCatch (do
      let _ ← evaluateText evaluate "exit trap" true .plain text
      pure code) ending

/-! ### processes -/

/-- a signal is ignored from now on, whatever commands ask for -/
def sealSignal (signal : Nat) : Sh Unit := do
  sys (.setDisposition signal .ignored)
  modify fun c => { c with
    signalModes := (signal, .sealed) :: c.signalModes.filter (·.1 ≠ signal) }

/-- what a new process of a shell changes about itself; one in the background, which is the
`first` of its job, reads nothing -/
def becomeChild (background first : Bool) : Sh Unit := do
  clearTraps
  let self ← if (← get).extended then sys .self else pure 0
  modify fun c => { c with
    isChild := true, jobs := [], arrived := [], interrupted := none
    extras := { c.extras with nesting := c.extras.nesting + 1, self := self } }
  if background then
    sealSignal Signal.interrupt
    sealSignal Signal.quit
    if first then
      let _ ← sys (.close 0)
      let _ ← sys (.openFile "/dev/null" .read openPermissions)

/-- runs an action in a new process, which belongs to a job -/
def forked (evaluate : Evaluate) (job : Nat) (background : Bool) (action : Sh Nat) :
    Sh Unit := do
  let first := ((← job? job).map (·.processes.isEmpty)).getD true
  match ← sys .fork with
  | some pid => do
    addProcess job pid
    if background then modify ({ · with background := some pid })
  | none => do
    becomeChild background first
    let result : Except Leave Nat ← tryCatch (.ok <$> action) fun l => pure (.error l)
    let code ← runExitTrap evaluate (codeOf (← get) result)
    leave (.exit code)

/-! ### output of commands -/

/-- what can be read from a descriptor up to the end -/
def readAll (fd : Nat) : (fuel : Nat) → List OctetText → Sh OctetText
  | 0, texts => pure (String.join texts.reverse)
  | fuel + 1, texts => do
    let text ← readOn fd 4096 waitFuel
    if text.isEmpty then pure (String.join texts.reverse) else readAll fd fuel (text :: texts)

/-- an output without the line ends at its end, and without zeros -/
def trimmedOutput (text : OctetText) : OctetText :=
  String.ofList ((text.toList.filter (· != '\x00')).reverse.dropWhile (· == '\n')).reverse

/-- the settings of a process for the output of commands: in the extended language failures do not
end it, and killed children are not reported -/
def looseSettings : Sh Unit := modify fun c =>
  let c := { c with extras := { c.extras with level := c.extras.level + 1, isQuiet := c.extended } }
  if c.extended && !c.extras.features.contains "inherit_errexit" then
    { c with settings := Setting.turn c.settings .exitOnError false }
  else c

/-- the file whose text a command is, if it only redirects its input -/
def fileOnly? (extended : Bool) : Command → Option Word
  | .simple _ [] [] [.open 0 .input target] => if extended then some target else none
  | _ => none

/-- what commands write, run in a process of their own -/
def captureOutput (evaluate : Evaluate) (body : Command) : Sh OctetText := do
  if isNothing body then do
    modify ({ · with captured := 0 })
    pure ""
  else
    match ← makePipe? "cannot make pipe for command substitution" with
    | none => do
      modify ({ · with captured := 0 })
      pure ""
    | some (reading, writing) => do
      let job ← openJob
      forked evaluate job false do
        let _ ← sys (.close reading)
        moveDescriptor writing 1
        looseSettings
        match fileOnly? (← get).extended body with
        | some _ => evaluate ⟨false, true⟩ (withCopier body)
        | none => evaluate ⟨false, true⟩ body
      let _ ← sys (.close writing)
      let text ← readAll reading waitFuel []
      let _ ← sys (.close reading)
      let status ← quietly (← get).extended (waitFor job)
      modify ({ · with captured := status })
      pure (trimmedOutput text)
where
  /-- a redirection of the input with what writes it -/
  withCopier : Command → Command
    | .simple line _ _ rs => .simple line [] [[.text "cat" false]] rs
    | c => c

/-- the least descriptor that stands behind the path of a process, counted from above -/
def pathDescriptor (used : List Nat) : Nat :=
  (((List.range 54).map (63 - ·)).find? fun fd => !used.contains fd).getD 10

/-- A path under which the output of a command can be read, or its input written.  The descriptor
behind it is closed when the command that uses it has ended. -/
def connectProcess (evaluate : Evaluate) (isRead : Bool) (body : Command) : Sh OctetText := do
  match ← makePipe? "cannot make pipe for process substitution" with
  | none => pure ""
  | some (reading, writing) => do
    let (own, other) := if isRead then (reading, writing) else (writing, reading)
    let job ← openJob
    forked evaluate job false do
      let _ ← sys (.close own)
      moveDescriptor other (if isRead then 1 else 0)
      quietly true (evaluate ⟨false, true⟩ body)
    let _ ← sys (.close other)
    let fd := pathDescriptor (← get).extras.processes
    moveDescriptor own fd
    modify fun c => { c with extras := { c.extras with processes := fd :: c.extras.processes } }
    pure ("/dev/fd/" ++ toString fd)

/-- closes the descriptors behind the paths of processes but those that there were before -/
def closeProcesses (before : List Nat) : Sh Unit := do
  for fd in (← get).extras.processes do
    if !before.contains fd then
      let _ ← sys (.close fd)
  modify fun c => { c with extras := { c.extras with processes := before } }

/-- what runs the commands inside words -/
def runnerOf (evaluate : Evaluate) : Runner :=
  ⟨captureOutput evaluate, connectProcess evaluate⟩

end ShellWorkers.Script

/-!
## Loops and selections

The parts of a loop can end it, or go on with its next turn (`inLoop`).  A selection runs the arms
whose patterns describe its word, as far as their ends say (`select`).
-/

namespace ShellWorkers.Script

open Text (OctetText)

/-! ### loops -/

/-- more turns than any loop takes -/
def turnFuel : Nat := 1000000000000000

/-- how a part of a loop has ended -/
inductive Turn where
  /-- with a status -/
  | ended (status : Nat)
  /-- the loop goes on with its next turn -/
  | next (status : Nat)
  /-- the loop ends -/
  | stop (status : Nat)

/-- runs a part of a loop, of which one level of leaving is taken off -/
def inLoop (action : Sh Nat) : Sh Turn :=
  tryCatch (.ended <$> action) fun l =>
    match l with
    | .breakLoop (levels + 2) status => leave (.breakLoop (levels + 1) status)
    | .breakLoop _ status => pure (.stop status)
    | .continueLoop (levels + 2) status => leave (.continueLoop (levels + 1) status)
    | .continueLoop _ status => pure (.next status)
    | l => leave l

/-- runs a loop, inside of which there is one more -/
def asLoop (action : Sh Nat) : Sh Nat := do
  let loops := (← get).loops
  modify ({ · with loops := loops + 1 })
  restoring action (modify ({ · with loops := loops }))

/-- lets other processes run, and deals with signals -/
def pause (evaluate : Evaluate) : Sh Unit := do
  let _ ← sys .self
  runTraps evaluate

/-- the turns of a loop with a test; the status is that of the last body -/
def turns (evaluate : Evaluate) (mode : Mode) (wanted : Bool) (test body : Command) :
    (fuel : Nat) → (status : Nat) → Sh Nat
  | 0, status => pure status
  | fuel + 1, status => do
    pause evaluate
    let tested := tryCatch (evaluate .test test) fun l =>
      match l with
      | .returned _ false => leave (.returned status false)
      | l => leave l
    match ← inLoop tested with
    | .stop _ => pure status
    | .next _ => turns evaluate mode wanted test body fuel status
    | .ended result =>
      if decide (result = 0) == wanted then
        match ← inLoop (evaluate mode body) with
        | .stop status => pure status
        | .next status => turns evaluate mode wanted test body fuel status
        | .ended status => turns evaluate mode wanted test body fuel status
      else pure status

/-- the turns of a loop over values -/
def turnsOver (evaluate : Evaluate) (mode : Mode) (name : OctetText) (body : Command) :
    List OctetText → (status : Nat) → Sh Nat
  | [], status => pure status
  | value :: values, _ => do
    assign name value
    pause evaluate
    match ← inLoop (evaluate mode body) with
    | .stop status => pure status
    | .next status => turnsOver evaluate mode name body values status
    | .ended status => turnsOver evaluate mode name body values status

/-! ### selections -/

/-- whether a text is described by one of some patterns -/
def isDescribed (runner : Runner) (text : OctetText) : List Word → Sh Bool
  | [] => pure false
  | w :: ws => do
    let c ← get
    let holds ← if c.extended then do
        let folds := c.extras.features.contains "nocasematch"
        let groups := c.extras.features.contains "extglob"
        let pattern ← expandGroupPattern runner groups w
        pure (GroupPattern.matchesText folds pattern text.toList)
      else do
        let pattern ← expandPattern runner w
        pure (Pattern.matchesText pattern text.toList)
    if holds then pure true else isDescribed runner text ws

/-- runs the arms whose patterns describe a text; `forced` says that the first one is run whatever
its patterns are, and `status` is that of the arm before -/
def select (evaluate : Evaluate) (mode : Mode) (text : OctetText) :
    List (List Word × Command × ArmEnd) → (forced : Bool) → (status : Nat) → Sh Nat
  | [], _, status => pure status
  | (patterns, body, ending) :: arms, forced, status => do
    let chosen ← if forced then pure true else isDescribed (runnerOf evaluate) text patterns
    if !chosen then select evaluate mode text arms false status
    else
      match ending with
      | .leave => if isNothing body then pure 0 else evaluate mode body
      | ending => do
        let status ← if isNothing body then pure 0 else evaluate mode.inner body
        select evaluate mode text arms (ending = .fallThrough) status

end ShellWorkers.Script
