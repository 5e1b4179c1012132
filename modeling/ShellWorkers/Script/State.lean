import ShellWorkers.Machine.Call
import ShellWorkers.Script.Parser
import ShellWorkers.Text.Utf8

/-!
# The state of a shell

The variables of a shell, and all else that it keeps.
-/

/-!
## Variables of a shell

A variable has a text as its value, or none.  In the extended language it can also be an array,
whose elements have numbers or texts as their subscripts; its value is then that of the element
with the subscript `0`.  The elements of a table have an order of their own, which does not depend
on when they were made (`Items.entries`).
-/

namespace ShellWorkers.Script

open Text (OctetText)

/-! ### order -/

/-- a number for a text, by which texts are spread -/
def spreadNumber (text : OctetText) : Nat :=
  text.toList.foldl (fun n c => (n * 16777619 % 4294967296) ^^^ c.toNat) 2166136261

/-- named things in the order of their places, of which there are `size`; of those at one place,
the ones that come later in the list come first -/
def spreadIn {α : Type} (size : Nat) (name : α → OctetText) (xs : List α) : List α :=
  let placed := xs.reverse.map fun x => (spreadNumber (name x) % size, x)
  (placed.mergeSort fun a b => decide (a.1 ≤ b.1)).map Prod.snd

/-- the same with as many places as variables have -/
def spread {α : Type} (name : α → OctetText) (xs : List α) : List α := spreadIn 1024 name xs

/-! ### arrays -/

/-- the elements of a variable -/
inductive Items where
  /-- it is no array -/
  | none
  /-- by number, in their order -/
  | list (elements : List (Nat × OctetText))
  /-- by text, in the order in which they were made -/
  | table (elements : List (OctetText × OctetText))
  deriving Repr

namespace Items

/-- whether they are those of an array -/
def isArray : Items → Bool
  | .none => false
  | _ => true

def isTable : Items → Bool
  | .table _ => true
  | _ => false

/-- the elements with their subscripts, as they are listed -/
def entries : Items → List (OctetText × OctetText)
  | .none => []
  | .list elements => elements.map fun e => (toString e.1, e.2)
  | .table elements => spread Prod.fst elements

/-- elements by number with one more, or with another value -/
def insertAt (n : Nat) (value : OctetText) : List (Nat × OctetText) → List (Nat × OctetText)
  | [] => [(n, value)]
  | (m, old) :: rest =>
    if n < m then (n, value) :: (m, old) :: rest
    else if n = m then (n, value) :: rest
    else (m, old) :: insertAt n value rest

/-- elements by text with one more, or with another value -/
def insertKey (key value : OctetText) (elements : List (OctetText × OctetText)) :
    List (OctetText × OctetText) :=
  if elements.any (·.1 == key) then
    elements.map fun e => if e.1 == key then (key, value) else e
  else elements ++ [(key, value)]

/-- the number behind the last one -/
def nextNumber (elements : List (Nat × OctetText)) : Nat :=
  match elements.getLast? with
  | some (n, _) => n + 1
  | Option.none => 0

end Items

/-! ### variables -/

/-- what is done with the texts that a variable gets; extended -/
structure Traits where
  integer : Bool
  lower : Bool
  upper : Bool
  /-- its value names the variable that is meant -/
  isName : Bool
  /-- it has been declared and has been given nothing -/
  bare : Bool
  deriving Repr, DecidableEq

namespace Traits

def none : Traits := ⟨false, false, false, false, false⟩

/-- a text in the case that is asked for -/
def inCase (t : Traits) (text : OctetText) : OctetText :=
  if t.lower then text.map Char.toLower else if t.upper then text.map Char.toUpper else text

end Traits

structure Variable where
  name : OctetText
  value? : Option OctetText
  exported : Bool
  readOnly : Bool
  /-- it keeps its place when it is unset -/
  fixed : Bool
  items : Items
  traits : Traits

namespace Variable

/-- a variable with a text or none -/
def ofText (name : OctetText) (value? : Option OctetText) (exported readOnly fixed : Bool) :
    Variable :=
  ⟨name, value?, exported, readOnly, fixed, .none, .none⟩

/-- the same variable with other elements -/
def withItems (v : Variable) (items : Items) : Variable :=
  let first := match items with
    | .none => v.value?
    | .list elements => elements.lookup 0
    | .table elements => elements.lookup "0"
  { v with items := items, value? := first, traits := { v.traits with bare := false } }

/-- the same variable with another text, which is that of an element if it is an array -/
def withText (v : Variable) (value? : Option OctetText) : Variable :=
  match value?, v.items with
  | some value, .list elements => v.withItems (.list (Items.insertAt 0 value elements))
  | some value, .table elements => v.withItems (.table (Items.insertKey "0" value elements))
  | value?, _ => { v with value? := value?, items := .none }

/-- the elements; a variable that is no array has one -/
def entries (v : Variable) : List (OctetText × OctetText) :=
  if v.items.isArray then v.items.entries
  else
    match v.value? with
    | some value => [("0", value)]
    | none => []

/-- the value of the element with a subscript -/
def element? (v : Variable) (key : OctetText) : Option OctetText :=
  match v.items with
  | .none => if key = "0" then v.value? else none
  | .list elements => (elements.find? fun e => toString e.1 == key).map Prod.snd
  | .table elements => elements.lookup key

/-- whether there is anything in it -/
def isSet (v : Variable) : Bool := v.value?.isSome || !v.entries.isEmpty

end Variable

end ShellWorkers.Script

/-!
## The state of a shell

A shell is a program of calls with a state of its own: its parameters, functions and settings, the
children it has started, and the script it is reading.  `Sh` is the type of its actions, which can
also leave what surrounds them: a loop, a function, a command that failed, or the shell.
-/

namespace ShellWorkers.Script

open Machine
open Text (OctetText)

/-! ### settings -/

/-- what can be turned on and off -/
inductive Setting where
  /-- leave at the first command that fails -/
  | exitOnError
  /-- no file names for patterns -/
  | noPatterns
  | ignoreEnd
  | interactive
  | monitor
  /-- read commands without running them -/
  | noRun
  /-- the script is the input -/
  | onInput
  /-- show commands before they are run -/
  | trace
  /-- show the script as it is read -/
  | verbose
  | viMode
  | emacsMode
  /-- redirections do not overwrite files -/
  | noOverwrite
  /-- export every variable that is assigned -/
  | exportAll
  | notify
  /-- an unset parameter is an error -/
  | noUnset
  | privileged
  | noLog
  | debug
  /-- words with braces stand for several; extended, as all that follow -/
  | braces
  | rememberPrograms
  | expandHistory
  | keepHistory
  | keywordArguments
  | oneCommand
  | physicalPaths
  /-- functions run the commands for failures -/
  | traceFailures
  | traceFunctions
  /-- the status of a pipeline is that of the last of its commands that failed -/
  | pipelineFailures
  | standardLanguage
  | interactiveComments
  /-- the script is an argument -/
  | inArgument
  deriving DecidableEq, Repr

namespace Setting

/-- the settings in the order of listings, with their names and letters -/
def all : List (Setting × OctetText × Option Char) :=
  [(.exitOnError, "errexit", some 'e'), (.noPatterns, "noglob", some 'f'),
    (.ignoreEnd, "ignoreeof", some 'I'), (.interactive, "interactive", some 'i'),
    (.monitor, "monitor", some 'm'), (.noRun, "noexec", some 'n'), (.onInput, "stdin", some 's'),
    (.trace, "xtrace", some 'x'), (.verbose, "verbose", some 'v'), (.viMode, "vi", some 'V'),
    (.emacsMode, "emacs", some 'E'), (.noOverwrite, "noclobber", some 'C'),
    (.exportAll, "allexport", some 'a'), (.notify, "notify", some 'b'),
    (.noUnset, "nounset", some 'u'), (.privileged, "privileged", some 'p'),
    (.noLog, "nolog", none), (.debug, "debug", none)]

/-- the same for the extended language -/
def allExtended : List (Setting × OctetText × Option Char) :=
  [(.exportAll, "allexport", some 'a'), (.braces, "braceexpand", some 'B'),
    (.emacsMode, "emacs", none), (.exitOnError, "errexit", some 'e'),
    (.traceFailures, "errtrace", some 'E'), (.traceFunctions, "functrace", some 'T'),
    (.rememberPrograms, "hashall", some 'h'), (.expandHistory, "histexpand", some 'H'),
    (.keepHistory, "history", none), (.ignoreEnd, "ignoreeof", none),
    (.interactiveComments, "interactive-comments", none),
    (.keywordArguments, "keyword", some 'k'), (.monitor, "monitor", some 'm'),
    (.noOverwrite, "noclobber", some 'C'), (.noRun, "noexec", some 'n'),
    (.noPatterns, "noglob", some 'f'), (.noLog, "nolog", none), (.notify, "notify", some 'b'),
    (.noUnset, "nounset", some 'u'), (.oneCommand, "onecmd", some 't'),
    (.physicalPaths, "physical", some 'P'), (.pipelineFailures, "pipefail", none),
    (.standardLanguage, "posix", none), (.privileged, "privileged", some 'p'),
    (.verbose, "verbose", some 'v'), (.viMode, "vi", none), (.trace, "xtrace", some 'x')]

/-- the order of the letters of the extended language -/
def letterOrder : List Char :=
  ['a', 'b', 'e', 'f', 'h', 'k', 'm', 'n', 'p', 't', 'u', 'v', 'x', 'B', 'C', 'E', 'H', 'P', 'T']

/-- the letters of settings in the extended language -/
def extendedLetters (on : List Setting) : OctetText :=
  let letters := (allExtended.filter fun s => on.contains s.1).filterMap (·.2.2)
  String.ofList (letterOrder.filter letters.contains ++ (if on.contains .inArgument then ['c'] else [])
    ++ (if on.contains .onInput then ['s'] else []))

def ofLetter? (letter : Char) : Option Setting :=
  (all.find? fun s => s.2.2 == some letter).map Prod.fst

def ofName? (name : OctetText) : Option Setting :=
  (all.find? fun s => s.2.1 == name).map Prod.fst

/-- settings with one more turned on or off; the two ways to edit lines exclude each other -/
def turn (on : List Setting) (s : Setting) (value : Bool) : List Setting :=
  let others := on.filter (· ≠ s)
  if !value then others
  else s :: others.filter fun t =>
    !((s == .viMode && t == .emacsMode) || (s == .emacsMode && t == .viMode))

/-- the letters of settings, the last of the order first -/
def letters (on : List Setting) : OctetText :=
  String.ofList ((all.filter fun s => on.contains s.1).filterMap (·.2.2)).reverse

end Setting

/-! ### parameters -/

/-- the positional parameters, and where `getopts` has come to in them: the number of the next
one, and how much of the one before has been read, if it is being read -/
structure Positional where
  values : List OctetText
  next : Nat
  offset : Option Nat

namespace Positional

def ofList (values : List OctetText) : Positional := ⟨values, 1, none⟩

end Positional

/-- what a function call, or the assignments before a command, have changed -/
inductive Saved where
  /-- a variable that was there -/
  | variable (v : Variable)
  /-- a name that was not -/
  | absent (name : OctetText)
  | settings (on : List Setting)

/-! ### children -/

/-- processes that were started together, the first first, with how they ended -/
structure Job where
  number : Nat
  processes : List (Pid × Option Host.ExitStatus)
  /-- somebody has waited for it -/
  waited : Bool
  /-- its commands as they are listed; extended -/
  text : OctetText

namespace Job

def isDone (j : Job) : Bool := j.processes.all (·.2.isSome)

/-- the status of a process that has ended -/
def statusOfExit : Host.ExitStatus → Nat
  | .exited code => code
  | .killed signal => 128 + signal

/-- the status of the last process -/
def status (j : Job) : Nat :=
  match j.processes.getLast? with
  | some (_, some e) => statusOfExit e
  | _ => 0

end Job

/-! ### leaving -/

/-- how an action leaves what surrounds it -/
inductive Leave where
  /-- the shell ends -/
  | exit (code : Nat)
  /-- a command failed, its status being that of the shell -/
  | failed
  /-- the same, where neither the command of the shell that is run nor the texts that surround it
  survive; extended -/
  | abandoned
  /-- the function or the file ends; `named` says whether the code was named -/
  | returned (code : Nat) (named : Bool)
  /-- loops end, or go on with their next turn; the status is that of the turn -/
  | breakLoop (levels status : Nat)
  | continueLoop (levels status : Nat)

/-! ### the state -/

/-- what a shell knows about its way with a signal -/
inductive SignalMode where
  /-- it was ignored when the shell began, and stays so -/
  | sealed
  | default
  | ignored
  | caught
  deriving DecidableEq, Repr

/-- a program that was found in the search path: the number of its directory there, whether the
working directory has changed since, and how often it was run -/
structure Found where
  name : OctetText
  place : Nat
  stale : Bool
  runs : Nat

/-- a function or a file that is run -/
structure CallSite where
  /-- the name of the function, or the word for files -/
  name : OctetText
  /-- where its commands come from -/
  source : OctetText
  /-- the line from which it was called -/
  line : Nat

/-- what only the extended language keeps -/
structure Extras where
  /-- this process, which may be a child of the shell that began -/
  self : Pid
  /-- the features that are on -/
  features : List OctetText
  /-- the statuses of the commands of the last pipeline -/
  statuses : List Nat
  /-- what is run, the innermost first -/
  calls : List CallSite
  /-- where functions come from -/
  origins : List (OctetText × OctetText)
  /-- the functions that are handed on to other shells -/
  shared : List OctetText
  /-- the functions that must not be changed -/
  sealed : List OctetText
  /-- the directories behind the working directory -/
  stack : List OctetText
  /-- the last word of the last command -/
  lastWord : OctetText
  /-- where the script comes from, for functions that it defines -/
  source : OctetText
  /-- how many processes this one is inside of -/
  nesting : Nat
  /-- the state of the random numbers, and the last of them -/
  random : Nat × Nat
  /-- the state of the random numbers that have 32 bits -/
  wideRandom : Nat
  /-- when the shell began, in seconds, and when its count of seconds was at zero -/
  began : Int
  secondsFrom : Int
  /-- names whose values were computed, and are no more -/
  ordinary : List OctetText
  /-- the command that is run -/
  current : Command
  /-- how many texts are run inside of each other -/
  level : Nat
  /-- the events whose commands are run -/
  busy : List Nat
  /-- the statuses of children that have ended and are in no job any more -/
  past : List (Pid × Nat)
  /-- descriptors behind the paths of processes -/
  processes : List Nat
  /-- what is written is part of a word, so that killed children are not reported -/
  isQuiet : Bool

structure Context where
  /-- the language is the extended one -/
  extended : Bool
  extras : Extras
  /-- the name of the shell or of its script -/
  name : OctetText
  positional : Positional
  /-- in the order in which they came -/
  vars : List Variable
  functions : List (OctetText × Command)
  aliases : List (OctetText × OctetText)
  /-- the settings that are on -/
  settings : List Setting
  /-- the status of the last command -/
  status : Nat
  /-- the status of the last command inside a word of the command that is run -/
  captured : Nat
  /-- the status before the commands for a signal, while they are run -/
  interrupted : Option Nat
  pid : Pid
  /-- whether this is a child of the shell that began -/
  isChild : Bool
  /-- the last process in the background -/
  background : Option Pid
  /-- the current job first -/
  jobs : List Job
  /-- the commands to run on signals; `0` is the end of the shell -/
  traps : List (Nat × OctetText)
  signalModes : List (Nat × SignalMode)
  /-- signals that have arrived and have not been dealt with -/
  arrived : List Nat
  /-- the line of the command that is run -/
  line : Nat
  /-- the line up to which the script has been read -/
  parseLine : Nat
  /-- the command of the shell that is run -/
  command : Option OctetText
  /-- the part of the script that has been read and not run -/
  input : Scanner
  /-- the descriptor from which more of the script is read -/
  source : Option Nat
  /-- how many loops surround the command that is run -/
  loops : Nat
  /-- how many functions do -/
  depth : Nat
  /-- what is to be put back, for each call that surrounds the command -/
  frames : List (List Saved)
  /-- output of a command of the shell, last first -/
  output : List OctetText
  /-- why some of it could not be written -/
  outputFault : Option SystemFault
  /-- a command is shown: what it needs is not shown itself -/
  showing : Bool
  /-- programs that were found -/
  found : List Found
  /-- the working directory as the shell calls it -/
  directory : OctetText

abbrev Sh := ExceptT Leave (StateT Context Calls)

/-! ### calls and texts -/

def sys (c : Call) : Sh (Call.Answer c) := ExceptT.lift (StateT.lift (call c))

def leave {α : Type} (l : Leave) : Sh α := throw l

def setStatus (status : Nat) : Sh Unit := modify ({ · with status := status })

/-- output of a command of the shell, which is written when the command ends -/
def say (text : OctetText) : Sh Unit :=
  if text.isEmpty then pure () else modify fun c => { c with output := text :: c.output }

/-- writes a text to a descriptor at once -/
def writeTo (fd : Nat) (text : OctetText) : Sh Unit :=
  if text.isEmpty then pure () else do let _ ← sys (.write fd text)

/-- writes the output that is held back -/
def flush : Sh Unit := do
  let text := String.join (← get).output.reverse
  if text.isEmpty then pure ()
  else do
    modify ({ · with output := [] })
    match ← sys (.write 1 text) with
    | .ok _ => pure ()
    | .error e => modify ({ · with outputFault := some e })

/-- writes the whole lines of the output that is held back -/
def flushLines : Sh Unit := do
  let cs := (String.join (← get).output.reverse).toList
  let part := (cs.reverse.takeWhile (· != '\n')).reverse
  let lines := cs.take (cs.length - part.length)
  if !lines.isEmpty then
    modify ({ · with output := [String.ofList part] })
    match ← sys (.write 1 (String.ofList lines)) with
    | .ok _ => pure ()
    | .error e => modify ({ · with outputFault := some e })

/-- the name before messages: that of the file or of the shell that is run -/
def Context.messageName (c : Context) : OctetText :=
  match c.extras.calls with
  | site :: _ => if site.source.isEmpty then c.name else site.source
  | [] => c.name

/-- a message, with the name of the shell and the line -/
def complainPlainly (message : OctetText) : Sh Unit := do
  let c ← get
  if c.extended then flushLines
  writeTo 2 (c.messageName ++ ": " ++ (if c.extended then "line " else "") ++ toString c.line ++ ": "
    ++ message ++ "\n")

/-- the same, with the name of the command of the shell that is run -/
def complain (message : OctetText) : Sh Unit := do
  match (← get).command with
  | some command => complainPlainly (command ++ ": " ++ message)
  | none => complainPlainly message

/-- a message about the machine, without the line in the extended language -/
def complainOfMachine (message : OctetText) : Sh Unit := do
  let c ← get
  if c.extended then
    flushLines
    writeTo 2 (c.messageName ++ ": " ++ message ++ "\n")
  else complain message

/-- a command fails; a shell that reads a script in the standard language does not survive that,
unless the command is one of its own that does not change it.  In the extended language the rest
of the line is not run. -/
def abort {α : Type} (message : OctetText) : Sh α := do
  complain message
  setStatus (if (← get).extended then 1 else 2)
  leave .failed

/-- the script is at fault -/
def abortScript {α : Type} (message : OctetText) : Sh α := do
  modify fun c => { c with line := c.parseLine }
  abort message

/-- the words of a fault, without its number -/
def faultText (e : SystemFault) : OctetText :=
  match e with
  | .code n => SystemFault.codeText n
  | e => e.message

/-- a new pipe; there may be none -/
def makePipe? (what : OctetText) : Sh (Option (Nat × Nat)) := do
  match ← sys .pipe with
  | .ok ends => pure (some ends)
  | .error e => do
    if (← get).extended then complainOfMachine (what ++ ": " ++ faultText e)
    else abort "Pipe call failed"
    pure none

/-- runs an action and puts back what it has changed, whether it leaves or not -/
def restoring {α : Type} (action : Sh α) (restore : Sh Unit) : Sh α := do
  let a ← tryCatch action fun l => do
    restore
    throw l
  restore
  pure a

/-- runs a part of a command whose failure nothing but the shell itself survives -/
def abandoning {α : Type} (action : Sh α) : Sh α :=
  tryCatch action fun l =>
    match l with
    | .failed => leave .abandoned
    | l => leave l

/-- the same for what is not said in the name of the command -/
def abandoningPlainly {α : Type} (action : Sh α) : Sh α := do
  let before := (← get).command
  modify ({ · with command := none })
  restoring (abandoning action) (modify ({ · with command := before }))

/-! ### numbers -/

/-- the number of digits -/
def digitsNat (ds : List Char) : Nat := ds.foldl (fun n c => n * 10 + (c.toNat - 48)) 0

/-- the greatest number that the commands of a shell take -/
def numberLimit : Nat := 2147483647

/-- a character that a number may have around it -/
def isNumberBlank (c : Char) : Bool := [' ', '\t', '\n', '\x0b', '\x0c', '\r'].contains c

/-- a number that a command of the shell takes, which is none below zero -/
def number? (text : OctetText) : Option Nat :=
  let cs := (text.toList.reverse.dropWhile isNumberBlank).reverse.dropWhile isNumberBlank
  let ds := match cs with
    | '+' :: ds => ds
    | '-' :: ds => if ds.all (· == '0') then ds else []
    | ds => ds
  if ds.isEmpty || !ds.all Char.isDigit then none
  else
    let n := digitsNat ds
    if numberLimit < n then none else some n

/-- a number, or a failure -/
def numberOrFail (text : OctetText) : Sh Nat :=
  match number? text with
  | some n => pure n
  | none => abort ("Illegal number: " ++ text)

/-! ### reading the state -/

def isOn (s : Setting) : Sh Bool := do return (← get).settings.contains s

namespace Context

def isOn (c : Context) (s : Setting) : Bool := c.settings.contains s

def var? (c : Context) (name : OctetText) : Option Variable := c.vars.find? (·.name == name)

def value? (c : Context) (name : OctetText) : Option OctetText :=
  (c.var? name).bind Variable.value?

/-- the characters that fields are separated by, unless others are named -/
def usualSeparators : List Char := [' ', '\t', '\n']

/-- the characters that fields are separated by -/
def separators (c : Context) : List Char :=
  match c.value? "IFS" with
  | some value => value.toList
  | none => usualSeparators

/-- the value of a parameter that is a text of its own -/
def parameter? (c : Context) (name : OctetText) : Option OctetText :=
  match name with
  | "#" => some (toString c.positional.values.length)
  | "?" => some (toString c.status)
  | "$" => some (toString c.pid)
  | "!" => c.background.map toString
  | "-" =>
    some (if c.extended then Setting.extendedLetters c.settings else Setting.letters c.settings)
  | name =>
    if name.toList.all Char.isDigit then
      match digitsNat name.toList with
      | 0 => some c.name
      | n + 1 => c.positional.values[n]?
    else c.value? name

/-- the place of a name among those that are handed on together -/
def bucket (name : OctetText) : Nat :=
  let cs := name.toList
  let first := (cs.head?.map Char.toNat).getD 0
  (cs.foldl (fun n c => n + c.toNat) (first * 16)) % 39

/-- named things in the order in which they are handed on: by their buckets -/
def inBuckets {α : Type} (name : α → OctetText) (xs : List α) : List α :=
  (List.range 39).flatMap fun n => xs.filter fun x => bucket (name x) == n

/-- the variables that are handed on to programs -/
def exported (c : Context) : Variables :=
  (if c.extended then spread Variable.name c.vars else inBuckets Variable.name c.vars).filterMap
    fun v => if v.exported && !v.items.isArray then v.value?.map (v.name, ·) else none

/-- puts a variable in place of the one of its name, or behind the others -/
def putVariable (c : Context) (v : Variable) : Context :=
  if c.vars.any (·.name == v.name) then
    { c with vars := c.vars.map fun w => if w.name == v.name then v else w }
  else { c with vars := c.vars ++ [v] }

def dropVariable (c : Context) (name : OctetText) : Context :=
  { c with vars := c.vars.filter (·.name ≠ name) }

end Context

/-! ### assigning -/

/-- marks that a variable gets besides those it has -/
structure Marks where
  exported : Bool
  readOnly : Bool
  fixed : Bool

namespace Marks

def none : Marks := ⟨false, false, false⟩
def ofExport : Marks := ⟨true, false, false⟩
def ofReadOnly : Marks := ⟨false, true, false⟩

end Marks

/-- a variable must not be changed -/
def refuseChange {α : Type} (name : OctetText) : Sh α := do
  if (← get).extended then do
    complainPlainly (name ++ ": readonly variable")
    setStatus 1
    leave .failed
  else abort (name ++ ": is read only")

/-- a variable gets a value, or loses the one it has -/
def assignRaw (name : OctetText) (value? : Option OctetText) (marks : Marks) : Sh Unit := do
  let c ← get
  let exports := marks.exported || c.isOn .exportAll
  match c.var? name with
  | some v =>
    if v.readOnly then refuseChange name
    if name = "OPTIND" then
      match value? with
      | some value => do
        let n ← if c.extended then pure ((number? value).getD 0) else numberOrFail value
        modify fun c => { c with positional :=
          { c.positional with next := if n = 0 then 1 else n, offset := none } }
      | none => pure ()
    if name = "PATH" then modify ({ · with found := [] })
    let keeps := exports || marks.readOnly || marks.fixed || v.fixed
    if value?.isNone && !keeps then modify (·.dropVariable name)
    else modify (·.putVariable { v.withText (value?.map v.traits.inCase) with
      exported := v.exported || exports, readOnly := marks.readOnly
      fixed := v.fixed || marks.fixed })
  | none =>
    if value?.isNone && !(exports || marks.readOnly || marks.fixed) then pure ()
    else modify (·.putVariable (.ofText name value? exports marks.readOnly marks.fixed))

/-- the same for a text that may be no name; it is read up to an equals sign -/
def assignMarked (text : OctetText) (value? : Option OctetText) (marks : Marks) : Sh Unit :=
  let name := String.ofList (text.toList.takeWhile (· != '='))
  if isName name.toList then assignRaw name value? marks
  else abort (name ++ ": bad variable name")

/-- assigns a value to a variable -/
def assign (name value : OctetText) : Sh Unit := assignMarked name (some value) .none

/-- a name and the value given to it, if any -/
def splitAssignment (arg : OctetText) : OctetText × Option OctetText :=
  let name := arg.toList.takeWhile (· != '=')
  match arg.toList.drop name.length with
  | [] => (arg, none)
  | _ :: value => (String.ofList name, some (String.ofList value))

/-! ### frames -/

/-- keeps what is to be put back when the call that surrounds the command ends -/
def keepInFrame (s : Saved) : Sh Unit := modify fun c =>
  match c.frames with
  | frame :: frames => { c with frames := (s :: frame) :: frames }
  | [] => c

/-- makes a variable one of the call that surrounds the command, with a value if one is given -/
def makeLocal (name : OctetText) (value? : Option OctetText) (marks : Marks) : Sh Unit := do
  match (← get).var? name with
  | none => do
    match value? with
    | some value => assignRaw name (some value) { marks with fixed := true }
    | none => assignMarked name none { marks with fixed := true }
    keepInFrame (.absent name)
  | some v => do
    modify (·.putVariable { v with fixed := true })
    match value? with
    | some value => assignRaw name (some value) marks
    | none => pure ()
    keepInFrame (.variable v)

/-- puts back one thing -/
def putBackSaved (c : Context) : Saved → Context
  | .variable v => { c.putVariable v with found := if v.name = "PATH" then [] else c.found }
  | .absent name => c.dropVariable name
  | .settings on => { c with settings := on }

/-- undoes the changes of the calls that surround the command until `depth` of them are left -/
def leaveFrames (depth : Nat) : (frames : List (List Saved)) → Context → Context
  | [], c => { c with frames := [] }
  | frame :: frames, c =>
    if frames.length < depth then { c with frames := frame :: frames }
    else leaveFrames depth frames (frame.foldl putBackSaved c)

/-- Runs an action whose local changes are undone when it ends.  They stay when the shell ends:
what is run then still sees them. -/
def inFrame {α : Type} (action : Sh α) : Sh α := do
  let depth := (← get).frames.length
  modify fun c => { c with frames := [] :: c.frames }
  let undo : Sh Unit := modify fun c => leaveFrames depth c.frames c
  let a ← tryCatch action fun l => do
    match l with
    | .exit _ => pure ()
    | .failed => if (← get).extended then undo
    | _ => undo
    throw l
  undo
  pure a

/-! ### quoting -/

/-- single quotes around the texts between quotes, double quotes around these -/
def quotedPieces : (fuel : Nat) → List Char → List Char
  | 0, _ => []
  | fuel + 1, cs =>
    let plain := cs.takeWhile (· != '\'')
    let rest := cs.drop plain.length
    let quotes := rest.takeWhile (· == '\'')
    let first := '\'' :: plain ++ ['\'']
    if quotes.isEmpty then first
    else
      let rest := rest.drop quotes.length
      first ++ '"' :: quotes ++ ['"'] ++ (if rest.isEmpty then [] else quotedPieces fuel rest)

/-- a text as a word that a shell reads back -/
def quotedValue (text : OctetText) : OctetText :=
  String.ofList (quotedPieces (text.length + 1) text.toList)

end ShellWorkers.Script
