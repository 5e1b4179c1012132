import ShellWorkers.Utility.Running

/-!
# Environments

`env` shows the variables that programs get, or runs a program with others, in another directory,
or with other answers to signals.  A text can stand for several arguments, as in a line that says
how a script is run; `printenv` shows single variables.

* `CommandText.words?`   the arguments that a text stands for;
* `EnvRequest.record`    what an option asks for.
-/

namespace ShellWorkers.Utility

open Machine
open Text (OctetText)

/-! ## texts of arguments -/

/-- the quote that is open -/
inductive OpenQuote where
  | none
  | single
  | double
  deriving DecidableEq

/-- what has been read of a text of arguments -/
structure CommandText where
  vars : Variables
  quote : OpenQuote := .none
  /-- the next character starts an argument -/
  isApart : Bool := true
  /-- the arguments, last first, each with its last character first -/
  words : List (List Char) := []
  /-- what is said about variables, last first -/
  notes : List OctetText := []

namespace CommandText

/-- an argument starts here unless one is being read -/
def starting (t : CommandText) : CommandText :=
  if t.isApart then { t with isApart := false, words := [] :: t.words } else t

/-- characters belong to the argument that is being read -/
def adding (cs : List Char) (t : CommandText) : CommandText :=
  let t := t.starting
  match t.words with
  | [] => t
  | word :: words => { t with words := (cs.reverse ++ word) :: words }

def saying (t : CommandText) (text : OctetText) : CommandText := { t with notes := text :: t.notes }

/-- the name of a variable in braces that begins a text -/
def variableName? : List Char → Option OctetText
  | '{' :: c :: cs =>
    let inner := (c :: cs).takeWhile fun d => d.isAlphanum || d == '_'
    if (c.isAlpha || c == '_') && (c :: cs)[inner.length]? == some '}' then
      some (String.ofList inner)
    else none
  | _ => none

/-- a variable's value is put in, or nothing if there is no such variable -/
def expand (name : OctetText) (t : CommandText) : CommandText :=
  let spelled := "$\x7b" ++ name ++ "\x7d"
  match t.vars.lookup name with
  | some value => (t.adding value.toList).saying ("expanding " ++ spelled ++ " into " ++ quoted value)
  | none => t.saying ("replacing " ++ spelled ++ " with null string")

/-- the character that a letter behind a backslash stands for -/
def escaped? (c : Char) : Option Char :=
  if ['"', '#', '$', '\'', '\\'].contains c then some c
  else [('f', '\x0c'), ('n', '\n'), ('r', '\r'), ('t', '\t'), ('v', '\x0b')].lookup c

/-- reads a text whose length is less than the fuel -/
def read : (fuel : Nat) → CommandText → List Char → Except OctetText CommandText
  | 0, t, _ => .ok t
  | _ + 1, t, [] =>
    if t.quote = .none then .ok t else .error "no terminating quote in -S string"
  | fuel + 1, t, c :: cs =>
    if c = '\'' && t.quote ≠ .double then
      read fuel { t.starting with quote := if t.quote = .single then .none else .single } cs
    else if c = '"' && t.quote ≠ .single then
      read fuel { t.starting with quote := if t.quote = .double then .none else .double } cs
    else if Text.isSpace c && t.quote = .none then read fuel { t with isApart := true } cs
    else if c = '#' && t.isApart then .ok t
    else if c = '\\' && (t.quote ≠ .single || cs.head? == some '\\' || cs.head? == some '\'') then
      match cs with
      | [] => .error "invalid backslash at end of string in -S"
      | '_' :: cs =>
        if t.quote = .double then read fuel (t.adding [' ']) cs
        else read fuel { t with isApart := true } cs
      | 'c' :: _ =>
        if t.quote = .double then .error "'\\c' must not appear in double-quoted -S string"
        else .ok t
      | d :: cs =>
        match escaped? d with
        | some e => read fuel (t.adding [e]) cs
        | none => .error ("invalid sequence '\\" ++ String.ofList [d] ++ "' in -S")
    else if c = '$' && t.quote ≠ .single then
      match variableName? cs with
      | some name => read fuel (t.expand name) (cs.drop (name.length + 2))
      | none => .error ("only $\x7bVARNAME\x7d expansion is supported, error at: "
          ++ String.ofList (c :: cs))
    else read fuel (t.adding [c]) cs

/-- the arguments that a text stands for, and what is said about its variables -/
def words? (vars : Variables) (text : OctetText) :
    Except OctetText (List OctetText × List OctetText) :=
  (read (text.length + 1) { vars := vars } text.toList).map fun t =>
    ((t.words.map fun w => String.ofList w.reverse).reverse, t.notes.reverse)

end CommandText

/-! ## env -/

/-- how a signal is to be answered; `maybe` says that it does not matter if that is not allowed -/
structure SignalChange where
  signal : Nat
  isIgnored : Bool
  isMaybe : Bool

/-- what options of `env` ask for -/
structure EnvRequest where
  isEmpty : Bool := false
  endsZero : Bool := false
  explains : Bool := false
  lists : Bool := false
  removed : List OctetText := []
  directory : Option OctetText := none
  changes : List SignalChange := []
  /-- signals that are held back, or are no longer, in the order of the wishes -/
  holds : List (Nat × Bool) := []

def envOptions : OptionTable where
  letters := "iu:0C:S:v"
  names := [("ignore-environment", .nothing, "i"), ("null", .nothing, "0"), ("unset", .value, "u"),
    ("chdir", .value, "C"), ("default-signal", .maybe, "default"),
    ("ignore-signal", .maybe, "ignore"), ("block-signal", .maybe, "block"),
    ("list-signal-handling", .nothing, "list"), ("split-string", .value, "S"),
    ("debug", .nothing, "v")]
  strict := true

namespace EnvRequest

/-- a note for those who want to know what happens -/
def explain (r : EnvRequest) (text : OctetText) : Work Unit :=
  if r.explains then putMessage (text ++ "\n") else pure ()

/-- the signals that have names -/
def allSignals : List Nat :=
  (List.range Signal.count).filter fun n => n ≠ 0 && n ≠ 32 && n ≠ 33

/-- the signals that a list of names stands for -/
def signalsOf (text : OctetText) : Work (List Nat) :=
  ((text.splitOn ",").filter (· ≠ "")).mapM fun name =>
    match signalOperand? name with
    | some signal =>
      if signal = 0 then misused 125 (quoted name ++ ": invalid signal") else pure signal
    | none => misused 125 (quoted name ++ ": invalid signal")

/-- signals are answered as usual, or ignored -/
def withChanges (r : EnvRequest) (isIgnored : Bool) (value? : Option OctetText) :
    Work EnvRequest := do
  let signals ← match value? with
    | none => pure allSignals
    | some text => signalsOf text
  let kept := r.changes.filter fun c => !signals.contains c.signal
  pure { r with changes := kept ++ signals.map fun n => ⟨n, isIgnored, value?.isNone⟩ }

/-- signals are held back, or are no longer -/
def withHolds (r : EnvRequest) (isHeld : Bool) (value? : Option OctetText) : Work EnvRequest := do
  let signals ← match value? with
    | none => pure (List.range Signal.count)
    | some text => signalsOf text
  let kept := r.holds.filter fun h => !signals.contains h.1
  pure { r with holds := kept ++ signals.map fun n => (n, isHeld) }

/-- what one option more asks for -/
def record (r : EnvRequest) (option : OctetText × Option OctetText) : Work EnvRequest :=
  match option with
  | ("i", _) => pure { r with isEmpty := true }
  | ("0", _) => pure { r with endsZero := true }
  | ("v", _) => pure { r with explains := true }
  | ("list", _) => pure { r with lists := true }
  | ("u", name?) => pure { r with removed := r.removed ++ [name?.getD ""] }
  | ("C", path?) => pure { r with directory := path? }
  | ("default", value?) => do withHolds (← withChanges r false value?) false value?
  | ("ignore", value?) => withChanges r true value?
  | ("block", value?) => withHolds r true value?
  | _ => pure r

/-- reads options, with the arguments for which texts of arguments stand; what is left are the
operands -/
def read : (fuel : Nat) → EnvRequest → List OctetText → Work (EnvRequest × List OctetText)
  | 0, r, args => pure (r, args)
  | _ + 1, r, [] => pure (r, [])
  | fuel + 1, r, arg :: args => do
    let next (args : List OctetText) : Except OctetText Arguments := .ok ⟨[], args⟩
    if arg = "--" then return (r, args)
    let found ← match arg.toList with
      | '-' :: '-' :: name => some <$> understood (Arguments.readNamed envOptions next name args)
      | '-' :: c :: cs => some <$> understood (Arguments.readLetters envOptions next (c :: cs) args)
      | _ => pure none
    match found with
    | none => pure (r, arg :: args)
    | some a => do
      if a.has OptionTable.version then tellVersion
      let r ← a.options.foldlM record r
      match a.value? "S" with
      | none => read fuel r a.operands
      | some text => do
        let (words, notes) ← match CommandText.words? (← get).vars text with
          | .ok result => pure result
          | .error message => failWith 125 message
        notes.forM r.explain
        if !words.isEmpty then
          r.explain ("split -S:  " ++ quoted text)
          words.zipIdx.forM fun (word, n) =>
            r.explain ((if n = 0 then " into:    " else "     &    ") ++ quoted word)
        read fuel r (words ++ a.operands)
where
  understood : Except OctetText Arguments → Work Arguments
    | .ok a => pure a
    | .error message => do
      let isBlank := match message.toList.reverse with
        | '\'' :: c :: _ => Text.isSpace c
        | _ => false
      if message.startsWith "invalid option" && isBlank then do
        note message
        misused 125 "use -[v]S to pass options in shebang lines"
      else misused 125 message

/-- answers signals as is asked for -/
def changeSignals (r : EnvRequest) : Work Unit := do
  let changes := allSignals.filterMap fun n => r.changes.find? (·.signal == n)
  for change in changes do
    let isRefused := Signal.isFinal change.signal
    if isRefused && !change.isMaybe then
      failWith 125 ("failed to set signal action for signal " ++ toString change.signal
        ++ ": Invalid argument")
    if !isRefused then
      ask (.setDisposition change.signal (if change.isIgnored then .ignored else .default))
    r.explain ("Reset signal " ++ signalWord change.signal ++ " (" ++ toString change.signal
      ++ ") to " ++ (if change.isIgnored then "IGNORE" else "DEFAULT")
      ++ (if isRefused then " (failure ignored)" else ""))

/-- the signals that are held back -/
def held (r : EnvRequest) : List Nat :=
  allSignals.filter fun n => r.holds.contains (n, true) && !Signal.isFinal n

/-- tells which signals are held back or no longer are; to a program those that are held back do
not matter -/
def holdSignals (r : EnvRequest) : Work Unit := do
  for signal in allSignals do
    match r.holds.lookup signal with
    | none => pure ()
    | some isHeld =>
      r.explain ("signal " ++ signalWord signal ++ " (" ++ toString signal ++ ") mask set to "
        ++ (if isHeld then "BLOCK" else "UNBLOCK"))

/-- tells which signals are ignored or held back -/
def listSignals (r : EnvRequest) : Work Unit := do
  for signal in allSignals do
    let isIgnored := (← ask (.disposition signal)) == .ignored
    let isHeld := r.held.contains signal
    if isIgnored || isHeld then
      let name := signalWord signal
      let number := toString signal
      putMessage (name ++ spaces (10 - name.length) ++ " (" ++ spaces (2 - number.length) ++ number
        ++ "): " ++ (if isHeld then "BLOCK" else "") ++ (if isHeld && isIgnored then "," else "")
        ++ (if isIgnored then "IGNORE" else "") ++ "\n")
where
  spaces (n : Nat) : OctetText := String.ofList (List.replicate n ' ')

/-- variables without those that are to be removed -/
def removing (r : EnvRequest) (vars : Variables) : Work Variables := do
  for name in r.removed do
    r.explain ("unset:    " ++ name)
    if name.isEmpty || name.contains '=' then
      failWith 125 ("cannot unset " ++ quoted name ++ ": Invalid argument")
  pure (vars.filter fun v => !r.removed.contains v.1)

/-- goes on with a program, or tells why that is not possible -/
def run (r : EnvRequest) (command : List OctetText) (vars : Variables) : Work Unit := do
  let name := command.headD ""
  r.changeSignals
  r.holdSignals
  if r.lists then r.listSignals
  r.held.forM fun signal => ask (.setDisposition signal .ignored)
  match r.directory with
  | none => pure ()
  | some path =>
    r.explain ("chdir:    " ++ shellQuoted path)
    match ← ask (.changeDirectory path) with
    | .ok _ => pure ()
    | .error e =>
      failWith 125 ("cannot change directory to " ++ shellQuoted path ++ ": " ++ faultText e)
  r.explain ("executing: " ++ name)
  for (arg, n) in command.zipIdx do
    r.explain ("   arg[" ++ toString n ++ "]= " ++ quoted arg)
  let e ← executeCommand command vars
  note (quoted name ++ ": " ++ faultText e)
  if e = .notFound && name.toList.any Text.isSpace then
    note "use -[v]S to pass options in shebang lines"
  stop (failureCode e)

end EnvRequest

/-- variables one behind the other -/
def showVariables (ending : OctetText) (vars : Variables) : Work Unit :=
  vars.forM fun v => put (v.1 ++ "=" ++ v.2 ++ ending)

def env (args : List OctetText) : Work Unit := do
  let (r, operands) ← EnvRequest.read streamFuel {} args
  let isBare := operands.head? == some "-"
  let start ←
    if r.isEmpty || isBare then do
      r.explain "cleaning environ"
      pure []
    else r.removing (← get).vars
  let assigned := if isBare then operands.drop 1 else operands
  let (vars, command) := addAssignments start assigned
  for text in assigned.take (assigned.length - command.length) do
    r.explain ("setenv:   " ++ text)
  if r.endsZero && !command.isEmpty then
    misused 125 "cannot specify --null (-0) with command"
  if command.isEmpty && r.directory.isSome then
    misused 125 "must specify command with --chdir (-C)"
  if command.isEmpty then showVariables (if r.endsZero then "\x00" else "\n") vars
  else r.run command vars

/-! ## printenv -/

def printenvOptions : OptionTable where
  letters := "0"
  names := [("null", .nothing, "0")]
  strict := true

def printenv (args : List OctetText) : Work Unit := do
  let a ← readArguments printenvOptions 2 args
  let vars := (← get).vars
  let ending := if a.has "0" then "\x00" else "\n"
  if a.operands.isEmpty then showVariables ending vars
  else
    for name in a.operands do
      match if name.contains '=' then none else vars.lookup name with
      | some value => put (value ++ ending)
      | none => setCode 1

end ShellWorkers.Utility
