import ShellWorkers.Text.CharKind
import ShellWorkers.Utility.Running

/-!
# Gathering arguments

`xargs` reads arguments from its input and runs a command with as many of them as it takes, again
and again.
-/

namespace ShellWorkers.Utility

open Machine
open Text (OctetText)

namespace Gathering

/-- how arguments stand in the input -/
inductive Layout where
  /-- between blanks, with quotes -/
  | words
  /-- every line is one, with quotes -/
  | lines
  /-- a character stands behind each -/
  | ended (delimiter : Char)

structure Plan where
  command : List OctetText
  layout : Layout
  /-- what an argument takes the place of -/
  mark : Option OctetText
  /-- how many arguments, lines and octets a command takes -/
  maxArguments : Option Nat
  maxLines : Option Nat
  maxSize : Nat
  /-- a size that does not suffice is a failure -/
  exact : Bool
  /-- an argument at which the input ends -/
  ending : Option OctetText
  runsEmpty : Bool
  shows : Bool
  asks : Bool
  processes : Nat
  keepsInput : Bool

/-- how the work stands -/
structure State where
  /-- the arguments of the next command, last first, and how many octets they take -/
  args : List OctetText
  size : Nat
  lines : Nat
  /-- the children that run -/
  children : List Pid
  ran : Bool
  failed : Bool

abbrev Gather := StateT State Work

/-- how much is read at once -/
def readSize : Nat := 4096

/-! ## running -/

/-- what the end of a child means -/
def settle (p : Plan) (status : Host.ExitStatus) : Gather Unit := do
  let name := p.command.headD ""
  match status with
  | .exited 0 => pure ()
  | .exited 255 => failWith 124 (name ++ ": exited with status 255; aborting")
  | .exited _ => modify ({ · with failed := true })
  | .killed signal => failWith 125 (name ++ ": terminated by signal " ++ toString signal)

/-- waits until at most so many children run -/
def awaitUntil (p : Plan) (most : Nat) : (fuel : Nat) → Gather Unit
  | 0 => pure ()
  | fuel + 1 => do
    let running := (← get).children
    if running.length ≤ most then pure ()
    else
      match ← ask (.wait none true) with
      | .ok (some (pid, status)) => do
        modify ({ · with children := running.filter (· != pid) })
        settle p status
        awaitUntil p most fuel
      | _ => modify ({ · with children := [] })

/-- whether a command can be executed; it is tried in a child that ends at once if not -/
def startCommand (p : Plan) (args : List OctetText) : Gather Unit := do
  flush
  let vars := (← (MonadState.get : Work Progress)).vars
  let (reading, writing) ← openPipe
  let child ← startChild do
    let _ ← ask (.close reading)
    let closing ← ask (.duplicateFrom writing 10)
    let _ ← ask (.close writing)
    if !p.keepsInput then
      match ← ask (.openFile "/dev/null" .read openPermissions) with
      | .ok fd => do
        let _ ← ask (.duplicate fd 0)
        let _ ← ask (.close fd)
      | .error _ => pure ()
    let e ← executeCommand args vars
    note (args.headD "" ++ ": " ++ faultText e)
    match closing with
    | .ok fd =>
      let _ ← ask (.write fd "x")
    | .error _ => pure ()
    stop (failureCode e)
  let _ ← ask (.close writing)
  let answer ← ask (.read reading 1)
  let _ ← ask (.close reading)
  modify fun s => { s with children := child :: s.children, ran := true }
  match answer with
  | .ok "x" => do
    let status ← awaitChild child
    match status with
    | .exited code => stop code
    | .killed _ => stop 126
  | _ => pure ()

/-- a word of a command as it is shown -/
def shownWord (word : OctetText) : OctetText := named word

/-- runs a command -/
def run (p : Plan) (args : List OctetText) : Gather Unit := do
  awaitUntil p (p.processes - 1) streamFuel
  let line := " ".intercalate (args.map shownWord)
  let wanted ← if p.asks then do
      putMessage line
      match ← ask (.openFile "/dev/tty" .read openPermissions) with
      | .ok fd => do
        putMessage "?..."
        let answer ← ask (.read fd readSize)
        let _ ← ask (.close fd)
        pure ((answer.toOption.getD "").startsWith "y")
      | .error e => failWith 1 ("failed to open /dev/tty for reading: " ++ faultText e)
    else do
      if p.shows then putMessage (line ++ "\n")
      pure true
  if wanted then startCommand p args
  if p.processes = 1 then awaitUntil p 0 streamFuel

/-- how many octets the words of a command take -/
def sizeOf (args : List OctetText) : Nat := args.foldl (fun n a => n + a.utf8ByteSize + 1) 0

/-- runs the command with the arguments that have been gathered -/
def runGathered (p : Plan) : Gather Unit := do
  let args := (← get).args.reverse
  modify ({ · with args := [], size := 0, lines := 0 })
  run p (p.command ++ args)

/-- takes one argument -/
def takeArgument (p : Plan) (arg : OctetText) : Gather Unit := do
  match p.mark with
  | some mark => do
    let command := p.command.headD "" :: (p.command.drop 1).map fun a => a.replace mark arg
    run p command
  | none => do
    let size := arg.utf8ByteSize + 1
    let s ← get
    if p.maxSize < sizeOf p.command + s.size + size then
      if s.args.isEmpty || (p.exact && (p.maxArguments.isSome || p.maxLines.isSome)) then
        fail "argument line too long"
      else runGathered p
    modify fun s => { s with args := arg :: s.args, size := s.size + size }
    if p.maxArguments.any (· ≤ (← get).args.length) then runGathered p

/-- a line has ended -/
def takeLine (p : Plan) : Gather Unit := do
  modify fun s => { s with lines := s.lines + 1 }
  if p.maxLines.any (· ≤ (← get).lines) then runGathered p

/-! ## reading -/

/-- what the reading of an argument waits for -/
inductive Mode where
  /-- an argument has not begun -/
  | before
  | inside
  | quoted (mark : Char)
  | escaped
  deriving DecidableEq

/-- how the reading stands: the argument so far, last character first, whether something belongs
to it, and the character before -/
structure Reader where
  mode : Mode
  word : List Char
  begun : Bool
  last : Char
  /-- an argument has been read on the line -/
  onLine : Bool

def Reader.start : Reader := ⟨.before, [], false, '\n', false⟩

def isBlank (c : Char) : Bool := c == ' ' || c == '\t'

/-- ends an argument; the answer is whether the input goes on -/
def endArgument (p : Plan) (word : List Char) : Gather Bool := do
  let arg := String.ofList word.reverse
  if p.ending == some arg then pure false
  else do
    takeArgument p arg
    pure true

def unmatched {α : Type} (p : Plan) (mark : Char) : Gather α := do
  note ("unmatched " ++ (if mark = '"' then "double" else "single")
    ++ " quote; by default quotes are special to xargs unless you use the -0 option")
  if !(← get).args.isEmpty && p.mark.isNone then runGathered p
  stop 1

/-- reads one character; nothing if the input ends with it -/
def readChar (p : Plan) (isLines : Bool) (r : Reader) (c : Char) : Gather (Option Reader) := do
  let inWord (r : Reader) : Gather (Option Reader) := do
    if c == '\n' then
      let counts := !isBlank r.last
      if !r.begun then do
        pure (some { r with mode := .before, last := c })
      else if ← endArgument p r.word then do
        if counts then takeLine p
        pure (some { Reader.start with last := c })
      else pure none
    else if !isLines && isBlank c then
      if ← endArgument p r.word then
        pure (some { Reader.start with last := c, onLine := true })
      else pure none
    else if c == '\\' then pure (some { r with mode := .escaped, begun := true, last := c })
    else if c == '\'' || c == '"' then
      pure (some { r with mode := .quoted c, begun := true, last := c })
    else pure (some { r with mode := .inside, word := c :: r.word, begun := true, last := c })
  match r.mode with
  | .before =>
    if c == '\n' && r.onLine && !isLines then do
      if !isBlank r.last then takeLine p
      pure (some { Reader.start with last := c })
    else if Text.isSpace c then pure (some { r with last := c })
    else inWord { r with mode := .inside }
  | .inside => inWord r
  | .quoted mark =>
    if c == '\n' then unmatched p mark
    else if c == mark then pure (some { r with mode := .inside, last := c })
    else pure (some { r with word := c :: r.word, last := c })
  | .escaped => pure (some { r with mode := .inside, word := c :: r.word, last := c })

/-- reads characters; nothing if the input ends with one of them -/
def readChars (p : Plan) (isLines : Bool) : Reader → List Char → Gather (Option Reader)
  | r, [] => pure (some r)
  | r, c :: cs => do
    match ← readChar p isLines r c with
    | none => pure none
    | some r => readChars p isLines r cs

/-- the end of the input -/
def finishWord (p : Plan) (r : Reader) : Gather Unit := do
  match r.mode with
  | .quoted mark => unmatched p mark
  | _ =>
    if r.begun then
      let _ ← endArgument p r.word

/-- reads arguments between blanks or lines -/
def readWords (p : Plan) (isLines : Bool) (fd : Nat) : (fuel : Nat) → Reader → Gather Unit
  | 0, _ => pure ()
  | fuel + 1, r => do
    match ← ask (.read fd readSize) with
    | .error _ => finishWord p r
    | .ok text =>
      if text.isEmpty then finishWord p r
      else
        match ← readChars p isLines r text.toList with
        | none => pure ()
        | some r => readWords p isLines fd fuel r

/-- takes arguments one after the other -/
def takeAll (p : Plan) : List OctetText → Gather Unit
  | [] => pure ()
  | arg :: args => do
    takeArgument p arg
    if p.maxLines.isSome then takeLine p
    takeAll p args

/-- reads arguments with a character behind each -/
def readEnded (p : Plan) (delimiter : Char) (fd : Nat) : (fuel : Nat) → (rest : OctetText) →
    Gather Unit
  | 0, _ => pure ()
  | fuel + 1, rest => do
    match ← ask (.read fd readSize) with
    | .error _ => if rest.isEmpty then pure () else takeAll p [rest]
    | .ok text =>
      if text.isEmpty then if rest.isEmpty then pure () else takeAll p [rest]
      else
        let parts := (rest ++ text).splitOn (String.ofList [delimiter])
        takeAll p parts.dropLast
        readEnded p delimiter fd fuel (parts.getLastD "")

/-- all the work -/
def gather (p : Plan) (fd : Nat) : Gather Unit := do
  match p.layout with
  | .words => readWords p false fd streamFuel .start
  | .lines => readWords p true fd streamFuel .start
  | .ended c => readEnded p c fd streamFuel ""
  let s ← get
  if p.mark.isNone && (!s.args.isEmpty || (p.runsEmpty && !s.ran)) then runGathered p
  awaitUntil p 0 streamFuel

/-! ## arguments -/

def options : OptionTable where
  letters := "0a:E:e::i::I:l::L:n:prs:txP:d:o"
  names := [("null", .nothing, "0"), ("arg-file", .value, "a"), ("delimiter", .value, "d"),
    ("eof", .maybe, "e"), ("replace", .maybe, "i"), ("max-lines", .maybe, "l"),
    ("max-args", .value, "n"), ("open-tty", .nothing, "o"), ("interactive", .nothing, "p"),
    ("no-run-if-empty", .nothing, "r"), ("max-chars", .value, "s"), ("verbose", .nothing, "t"),
    ("show-limits", .nothing, "S"), ("exit", .nothing, "x"), ("max-procs", .value, "P"),
    ("process-slot-var", .value, "slot"), ("version", .nothing, "version"),
    ("help", .nothing, "help")]
  strict := true

/-- the number of an option, which has a least value -/
def numberOf (option : OctetText) (least : Int) (text : OctetText) : Work Nat := do
  let invalid {α : Type} : Work α := do
    misused 1 ("invalid number \"" ++ text ++ "\" for -" ++ option ++ " option")
  let digits (cs : List Char) : Option Nat :=
    if !cs.isEmpty && cs.all Char.isDigit then some (digitsValue cs) else none
  let n : Int ← match text.toList with
    | '-' :: cs =>
      match digits cs with
      | some n => pure (-(n : Int))
      | none => invalid
    | cs =>
      match digits cs with
      | some n => pure (n : Int)
      | none => invalid
  if n < least then
    misused 1
      ("value " ++ text ++ " for -" ++ option ++ " option should be >= " ++ toString least)
  else pure n.toNat

/-- the last of the limits that exclude each other: how many arguments or lines a command takes,
or what arguments take the place of -/
structure Limits where
  arguments : Option Nat
  lines : Option Nat
  mark : Option OctetText

/-- says that a limit takes the place of another one -/
def sayExclusive (option former : OctetText) : Work Unit :=
  note ("warning: options " ++ former ++ " and " ++ option
    ++ " are mutually exclusive, ignoring previous " ++ former ++ " value")

/-- the limits with one more option -/
def addLimit (l : Limits) (option : OctetText × Option OctetText) : Work Limits := do
  let without (name former : OctetText) (is : Bool) : Work Unit :=
    if is then sayExclusive name former else pure ()
  let value := option.2.getD ""
  let setMark (text : OctetText) : Work Limits := do
    without "--replace/-I/-i" "--max-args" l.arguments.isSome
    without "--replace/-I/-i" "--max-lines" l.lines.isSome
    pure ⟨none, none, some text⟩
  let setLines (name : OctetText) (n : Nat) : Work Limits := do
    without name "--max-args" l.arguments.isSome
    without name "--replace" l.mark.isSome
    pure ⟨none, some n, none⟩
  match option.1 with
  | "I" => setMark value
  | "i" => setMark (if value = "" then "\x7b\x7d" else value)
  | "L" => do
    let n ← numberOf "L" 1 value
    setLines "-L" n
  | "l" => do
    let n ← if value = "" then pure 1 else numberOf "l" 1 value
    setLines "--max-lines/-l" n
  | "n" => do
    let n ← numberOf "n" 1 value
    if n = 1 && l.mark.isSome then pure l
    else do
      without "--max-args/-n" "--max-lines" l.lines.isSome
      without "--max-args/-n" "--replace" l.mark.isSome
      pure ⟨some n, none, none⟩
  | _ => pure l

/-- the character that a text spells -/
def delimiterOf (text : OctetText) : Work Char := do
  match text.toList with
  | [c] => pure c
  | ['\\', 'n'] => pure '\n'
  | ['\\', 't'] => pure '\t'
  | ['\\', '0'] => pure '\x00'
  | ['\\', 'a'] => pure '\x07'
  | ['\\', 'b'] => pure '\x08'
  | ['\\', 'f'] => pure '\x0c'
  | ['\\', 'r'] => pure '\r'
  | ['\\', 'v'] => pure '\x0b'
  | ['\\', '\\'] => pure '\\'
  | '\\' :: 'x' :: _ => fail ("Invalid escape sequence " ++ text ++ " in input delimiter specification.")
  | '\\' :: _ => fail ("Invalid escape sequence " ++ text ++ " in input delimiter specification.")
  | _ =>
    fail ("Invalid input delimiter specification " ++ text
      ++ ": the delimiter must be either a single character or an escape sequence starting with \\.")

end Gathering

def xargs (args : List OctetText) : Work Unit := do
  let a ← readArguments Gathering.options 1 args
  if a.has "version" then do
    putLine "xargs (GNU findutils) 4.9.0"
    stop 0
  let number (option : OctetText) (least : Int) : Work (Option Nat) :=
    (a.value? option).mapM (Gathering.numberOf option least)
  let limits ← a.options.foldlM Gathering.addLimit ⟨none, none, none⟩
  let maxSize ← number "s" 1
  let processes ← number "P" 0
  let delimiter ← match a.last? ["0", "d"] with
    | some "0" => pure (some '\x00')
    | some _ => some <$> Gathering.delimiterOf ((a.value? "d").getD "")
    | none => pure none
  let plan : Gathering.Plan := {
    command := if a.operands.isEmpty then ["echo"] else a.operands
    layout := match delimiter with
      | some c => .ended c
      | none => if limits.mark.isSome then .lines else .words
    mark := limits.mark
    maxArguments := limits.arguments
    maxLines := limits.lines
    maxSize := maxSize.getD 131072
    exact := a.has "x" || limits.lines.isSome
    ending := match a.last? ["E", "e"] with
      | some option =>
        if (a.value? option).getD "" = "" || delimiter.isSome then none else a.value? option
      | none => none
    runsEmpty := !a.has "r" && limits.mark.isNone
    shows := a.has "t"
    asks := a.has "p"
    processes := match processes with
      | some 0 => 1000
      | some n => n
      | none => 1
    keepsInput := (a.value? "a").isSome }
  let fd ← match a.value? "a" with
    | none => pure 0
    | some path =>
      match ← openOperand path with
      | .ok fd => pure fd
      | .error e => fail ("Cannot open input file " ++ quoted path ++ ": " ++ faultText e)
  let (_, s) ← (Gathering.gather plan fd).run ⟨[], 0, 0, [], false, false⟩
  if s.failed then setCode 123
  if (a.value? "a").isNone then endInput "error closing file" ["-"]

end ShellWorkers.Utility
