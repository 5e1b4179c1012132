import ShellWorkers.Utility.Records.Value
import ShellWorkers.Utility.Removal
import ShellWorkers.Utility.Running

/-!
# What programs for records work on

Their variables, fields and streams.
-/

/-!
## What a program for records works on

The record and its fields, variables and arrays, and the streams.  The record is cut into fields
when they are asked for, by the separator that there was when the record came; it is put together
again when a field has been changed.

* `loadName`, `storeName`, `loadField`, `storeField`   variables and fields;
* `openArray`, `modifyArray`                           arrays.
-/

namespace ShellWorkers.Utility.Records

open Machine
open Text (OctetText)

/-- what a name stands for -/
inductive Binding where
  | value (value : Value)
  | array (id : Nat)
  /-- nothing yet: an array, once it is used as one -/
  | undecided (id : Nat)

/-- what ends a record -/
inductive RecordEnd where
  | char (c : Char)
  /-- empty lines -/
  | paragraph
  | pattern (regex : Regex)

/-- a stream from which records are read -/
structure Input where
  name : OctetText
  fd : Nat
  child : Option Pid
  /-- what has been read and is in no record yet -/
  ahead : List Char
  isDone : Bool
  /-- no record has been read -/
  isFresh : Bool

/-- a stream to which is written -/
structure Output where
  name : OctetText
  fd : Nat
  child : Option Pid
  /-- what has not been written, last first -/
  held : List OctetText
  size : Nat

/-- the records of the operands -/
structure Operands where
  /-- the number of the next operand -/
  next : Nat
  current : Option Input
  /-- a file has been opened -/
  isOpened : Bool

structure Memory where
  program : Program
  globals : Std.HashMap OctetText Binding
  /-- the parameters of the function that is run -/
  locals : List (OctetText × Binding)
  arrays : Std.HashMap Nat (Table Value)
  /-- how many arrays there have been -/
  arrayCount : Nat
  record : Value
  recordIsCurrent : Bool
  fields : Array Value
  fieldsAreCurrent : Bool
  /-- what cuts the record -/
  separator : Separator
  /-- what will cut the next record -/
  nextSeparator : Separator
  recordEnd : RecordEnd
  operands : Operands
  inputs : List Input
  /-- the one that was used last first -/
  outputs : List Output
  /-- the rules with two conditions between which the record stands -/
  ranges : List Nat
  /-- the numbers that the next random ones come from, last first -/
  randoms : List Nat
  seed : Value
  /-- the code with which the program ends -/
  code : Nat

/-- why a statement is left -/
inductive Leave where
  | next
  | nextFile
  | exit
  | return (value : Value)
  /-- something is wrong -/
  | failed

abbrev Run := ExceptT Leave (StateT Memory Work)

/-- work that is done for a program -/
def work {α : Type} (w : Work α) : Run α := ExceptT.lift (StateT.lift w)

/-! ### names -/

def binding? (name : OctetText) : Run (Option Binding) := do
  let m ← get
  return match m.locals.lookup name with
    | some b => some b
    | none => m.globals[name]?

def bind (name : OctetText) (b : Binding) : Run Unit := modify fun m =>
  if (m.locals.lookup name).isSome then
    { m with locals := m.locals.map fun p => if p.1 == name then (name, b) else p }
  else { m with globals := m.globals.insert name b }

/-- the value of a variable without more ado -/
def valueOf (name : OctetText) : Run Value := do
  return match ← binding? name with
    | some (.value v) => v
    | _ => .unset

/-- the value of a variable that no function has for itself -/
def globalValue (m : Memory) (name : OctetText) : Value :=
  match m.globals[name]? with
  | some (.value v) => v
  | _ => .unset

/-- how numbers become texts -/
def conversion : Run OctetText := do
  return match globalValue (← get) "CONVFMT" with
    | .text t => t
    | v => v.toText "%.6g"

def textOf (v : Value) : Run OctetText := do
  match v with
  | .number _ => return v.toText (← conversion)
  | v => pure (v.toText "")

/-- the text of a variable that no function has for itself -/
def globalText (name : OctetText) : Run OctetText := do textOf (globalValue (← get) name)

/-! ### faults -/

/-- a message about what is wrong, which ends the program -/
def failed {α : Type} (message : OctetText) : Run α := do
  work (noteAhead message)
  throw .failed

/-- a message about what is wrong when a program is run -/
def failedAt {α : Type} (message : OctetText) : Run α := do
  let file ← globalText "FILENAME"
  let fileLine ← globalText "FNR"
  let line ← globalText "NR"
  let place (t : OctetText) : OctetText := if t.isEmpty then "0" else t
  failed (message ++ "\n\tFILENAME=\"" ++ file ++ "\" FNR=" ++ place fileLine
    ++ " NR=" ++ place line)

def failedRunning {α : Type} (message : OctetText) : Run α :=
  failedAt ("run time error: " ++ message)

/-- the regular expression of a pattern -/
def compiled (pattern : OctetText) : Run Regex := do
  match compile pattern with
  | .ok r => pure r
  | .error reason => failedRunning (compileFault pattern reason)

/-! ### the record -/

/-- cuts the record into its fields -/
def cutRecord : Run Unit := do
  let m ← get
  if !m.fieldsAreCurrent then
    let text ← textOf m.record
    set { m with
      fields := ((m.separator.cut text).map Value.input).toArray, fieldsAreCurrent := true }

/-- puts the record together -/
def joinRecord : Run Unit := do
  let m ← get
  if !m.recordIsCurrent then
    let texts ← m.fields.toList.mapM textOf
    let between ← globalText "OFS"
    modify fun m => { m with
      record := .input (between.intercalate texts), recordIsCurrent := true }

/-- a new record -/
def setRecord (v : Value) : Run Unit := modify fun m =>
  { m with
    record := v, recordIsCurrent := true, fieldsAreCurrent := false
    separator := m.nextSeparator }

/-- how many fields there are -/
def fieldCount : Run Nat := do
  cutRecord
  return (← get).fields.size

/-- fields with empty ones behind them, or without those that are too many -/
def resized (fields : Array Value) (count : Nat) : Array Value :=
  fields.take count ++ Array.replicate (count - fields.size) (.text "")

/-- no record has more fields -/
def fieldLimit : Nat := 33554431

def boundFields (count : Nat) : Run Unit := do
  if fieldLimit < count then
    failedAt ("program limit exceeded: maximum number of fields size=" ++ toString fieldLimit)

/-- gives the record another number of fields -/
def setFieldCount (count : Nat) : Run Unit := do
  boundFields count
  cutRecord
  modify fun m => { m with fields := resized m.fields count, recordIsCurrent := false }

/-- the number of a field -/
def fieldNumber (x : Float) : Run Nat := do
  let n := wholeOf x
  if n < 0 then failedRunning ("negative field index $" ++ toString n)
  else pure n.toNat

def loadField (number : Nat) : Run Value := do
  if number = 0 then
    joinRecord
    return (← get).record
  else
    cutRecord
    return (← get).fields.getD (number - 1) (.text "")

def storeField (number : Nat) (v : Value) : Run Unit := do
  if number = 0 then setRecord v
  else
    boundFields number
    cutRecord
    modify fun m =>
      let fields := if m.fields.size < number then resized m.fields number else m.fields
      { m with fields := fields.setIfInBounds (number - 1) v, recordIsCurrent := false }

/-! ### variables -/

def loadName (name : OctetText) : Run Value := do
  if name == "NF" then return .ofNat (← fieldCount) else valueOf name

/-- the separator that a value is -/
def separatorOf (v : Value) : Run Separator := do
  let text ← textOf v
  match Separator.ofText text with
  | .ok s => pure s
  | .error reason => failedRunning (compileFault text reason)

/-- what ends a record, by its variable -/
def recordEndOf (v : Value) : Run RecordEnd := do
  let text ← textOf v
  match text.toList with
  | [] => pure .paragraph
  | [c] => pure (.char c)
  | _ => return .pattern (← compiled text)

/-- sets a variable; some of them say how records are read -/
def storeName (name : OctetText) (v : Value) : Run Unit := do
  match name with
  | "NF" =>
    let n := wholeOf v.toNumber
    if n < 0 then failedRunning "negative value assigned to NF"
    else setFieldCount n.toNat
  | "FS" => do
    bind name (.value v)
    let separator ← separatorOf v
    modify ({ · with nextSeparator := separator })
  | "RS" => do
    bind name (.value v)
    let recordEnd ← recordEndOf v
    modify ({ · with recordEnd := recordEnd })
  | _ => bind name (.value v)

/-! ### arrays -/

/-- a new array that nothing is in -/
def newArray : Run Nat := do
  let m ← get
  set { m with arrayCount := m.arrayCount + 1 }
  pure m.arrayCount

/-- the array that a name stands for from now on -/
def openArray (name : OctetText) : Run Nat := do
  match ← binding? name with
  | some (.array id) => pure id
  | some (.undecided id) => do
    bind name (.array id)
    pure id
  | _ => do
    let id ← newArray
    bind name (.array id)
    pure id

/-- what an array holds, which must be put back with `putArray` -/
def takeArray (id : Nat) : Run (Table Value) := modifyGet fun m =>
  (m.arrays.getD id .empty, { m with arrays := m.arrays.erase id })

def putArray (id : Nat) (t : Table Value) : Run Unit :=
  modify fun m => { m with arrays := m.arrays.insert id t }

/-- changes what an array holds -/
def modifyArray (id : Nat) (f : Table Value → Table Value) : Run Unit := do
  let t ← takeArray id
  putArray id (f t)

/-- what is at a key, if anything is -/
def element? (id : Nat) (key : Key) : Run (Option Value) := do
  let t ← takeArray id
  let (v, t) := t.find key
  putArray id t
  pure v

/-- what is at a key, which is there from now on -/
def element (id : Nat) (key : Key) : Run Value := do
  match ← element? id key with
  | some v => pure v
  | none => do
    modifyArray id (·.insert key .unset)
    pure .unset

end ShellWorkers.Utility.Records

/-!
## The streams of programs for records

Records are read from the operands, from files and from the output of commands; what ends a record
is told by a variable.  Output is held back until a command is run, the stream is closed or the
program ends; streams are looked for by their names, and the one that was used last is closed first.

* `nextRecord?`              the next record of the operands;
* `recordOf`                 the next record of a file or a command;
* `write`                    output;
* `closeStream`, `closeAll`  closing.
-/

namespace ShellWorkers.Utility.Records

open Machine
open Text (OctetText)

/-! ### output -/

def Output.standard : Output := ⟨"/dev/stdout", 1, none, [], 0⟩

def Output.messages : Output := ⟨"/dev/stderr", 2, none, [], 0⟩

/-- how much output of a stream is held back -/
def heldLimit : Nat := 4096

/-- writes what is held back -/
def flushed (o : Output) : Run Output := do
  if o.fd = 1 then do
    work flush
    pure o
  else if o.held.isEmpty then pure o
  else do
    let _ ← work (ask (.write o.fd (String.join o.held.reverse)))
    pure { o with held := [], size := 0 }

/-- writes all that is held back -/
def flushAll : Run Unit := do
  let outputs ← (← get).outputs.mapM flushed
  modify ({ · with outputs := outputs })

/-- the shell that runs a command whose stream is connected to the program -/
def shellName : OctetText := "/bin/sh"

/-- opens a stream for output -/
def openOutput (direction : Direction) (name : OctetText) : Run Output := do
  match direction with
  | .command => do
    flushAll
    let (child, fd) ← work (startWriter shellName name)
    pure ⟨name, fd, some child, [], 0⟩
  | direction => do
    let mode : OpenMode := if direction = .over then .write else .append
    match ← work (ask (.openFile name mode openPermissions)) with
    | .ok fd => pure ⟨name, fd, none, [], 0⟩
    | .error e =>
      failed ("cannot open \"" ++ name ++ "\" for output (" ++ faultText e ++ ")")

/-- the stream for output with a name, which comes first from now on -/
def outputNamed (direction : Direction) (name : OctetText) : Run Output := do
  let isIt (o : Output) : Bool := o.name == name && o.child.isSome == (direction == .command)
  let o ← match (← get).outputs.find? isIt with
    | some o => pure o
    | none => openOutput direction name
  modify fun m => { m with outputs := o :: m.outputs.filter fun o => !isIt o }
  pure o

/-- writes a text to a stream -/
def writeTo (o : Output) (text : OctetText) : Run Unit := do
  if o.fd = 1 then work (put text)
  else
    let o := { o with held := text :: o.held, size := o.size + text.utf8ByteSize }
    let o ← if o.fd = 2 || heldLimit < o.size then flushed o else pure o
    modify fun m => { m with outputs := m.outputs.map fun p => if p.fd = o.fd then o else p }

/-- writes a text to where a statement says -/
def write (place : Option (Direction × OctetText)) (text : OctetText) : Run Unit := do
  match place with
  | none => work (put text)
  | some (direction, name) => do
    let o ← outputNamed direction name
    writeTo o text

/-! ### closing -/

/-- the number for how a command ended -/
def endNumber : Host.ExitStatus → Nat
  | .exited code => code
  | .killed signal => 256 + signal

/-- waits for the command of a stream, if there is one -/
def awaitCommand (child : Option Pid) : Run Nat := do
  match child with
  | none => pure 0
  | some pid => return endNumber (← work (awaitChild pid))

def closeOutput (o : Output) : Run Nat := do
  let o ← flushed o
  if 2 < o.fd then
    let _ ← work (ask (.close o.fd))
  awaitCommand o.child

def closeInput (i : Input) : Run Nat := do
  if i.fd ≠ 0 then
    let _ ← work (ask (.close i.fd))
  awaitCommand i.child

/-- closes all streams with a name: how the last of them ended, if there was one -/
def closeStream (name : OctetText) : Run (Option Nat) := do
  let m ← get
  let outputs := m.outputs.filter (·.name == name)
  let inputs := m.inputs.filter (·.name == name)
  let ended ← outputs.mapM closeOutput
  let ended' ← inputs.mapM closeInput
  modify fun m => { m with
    outputs := m.outputs.filter (·.name != name), inputs := m.inputs.filter (·.name != name) }
  return (ended ++ ended').getLast?

/-- closes all streams for output -/
def closeAll : Run Unit := do
  for o in (← get).outputs do
    let _ ← closeOutput o
  modify ({ · with outputs := [] })

/-! ### records -/

/-- how much is read at once -/
def readSize : Nat := 4096

/-- a record that ends in what has been read, and what is left; `isDone` says that nothing more can
come -/
def RecordEnd.cut? (e : RecordEnd) (isDone : Bool) (cs : List Char) :
    Option (List Char × List Char) :=
  match e with
  | .char c =>
    let record := cs.takeWhile (· != c)
    if record.length < cs.length then some (record, cs.drop (record.length + 1))
    else if isDone && !cs.isEmpty then some (cs, [])
    else none
  | .paragraph =>
    let record := paragraph cs
    let behind := (cs.drop record.length).dropWhile (· == '\n')
    if record.length < cs.length && (isDone || !behind.isEmpty) then
      some (record, behind)
    else if isDone && !cs.isEmpty then some (record, behind)
    else none
  | .pattern r =>
    match r.findAccepted? (fun start stop => start.offset < stop.offset) [] cs with
    | some m =>
      if isDone || !m.stop.rest.isEmpty then some (cs.take m.start.offset, m.stop.rest)
      else none
    | none => if isDone && !cs.isEmpty then some (cs, []) else none
where
  /-- up to an empty line, or without the end of the last line -/
  paragraph : List Char → List Char
    | '\n' :: '\n' :: _ => []
    | ['\n'] => []
    | c :: cs => c :: paragraph cs
    | [] => []

/-- the next record of a stream, if there is one -/
def recordFrom (e : RecordEnd) : (fuel : Nat) → Input → Run (Option OctetText × Input)
  | 0, i => pure (none, i)
  | fuel + 1, i => do
    let i := match e with
      | .paragraph =>
        if i.isFresh then { i with ahead := i.ahead.dropWhile (· == '\n') } else i
      | _ => i
    match e.cut? i.isDone i.ahead with
    | some (record, rest) =>
      pure (some (String.ofList record), { i with ahead := rest, isFresh := false })
    | none =>
      if i.isDone then pure (none, i)
      else
        match ← work (ask (.read i.fd readSize)) with
        | .error fault => failed ("read error (" ++ faultText fault ++ ")")
        | .ok text =>
          if text.isEmpty then recordFrom e fuel { i with isDone := true }
          else recordFrom e fuel { i with ahead := i.ahead ++ text.toList }

/-- opens a file for input -/
def openInput? (name : OctetText) : Run (Except SystemFault Input) := do
  if name == "-" || name == "/dev/stdin" then pure (.ok ⟨name, 0, none, [], false, true⟩)
  else
    return (← work (ask (.openFile name .read openPermissions))).map fun fd =>
      ⟨name, fd, none, [], false, true⟩

/-- the next record of a file or of the output of a command; nothing in front if there is no such
file -/
def recordOf (isCommand : Bool) (name : OctetText) : Run (Option (Option OctetText)) := do
  let isIt (i : Input) : Bool := i.name == name && i.child.isSome == isCommand
  let found : Option Input ← match (← get).inputs.find? isIt with
    | some i => pure (some i)
    | none =>
      if isCommand then do
        flushAll
        let (child, fd) ← work (startReader shellName name)
        pure (some ⟨name, fd, some child, [], false, true⟩)
      else Except.toOption <$> openInput? name
  match found with
  | none => pure none
  | some i => do
    let (record, i) ← recordFrom (← get).recordEnd streamFuel i
    modify fun m => { m with inputs := i :: m.inputs.filter fun i => !isIt i }
    pure (some record)

/-! ### operands -/

/-- the name and the text of an operand that sets a variable, if it does -/
def operandAssignment? (operand : OctetText) : Option (OctetText × OctetText) :=
  let cs := operand.toList
  let name := cs.takeWhile Scanner.isNameChar
  let isName := (cs.head?.map Scanner.isNameStart).getD false
  match cs.drop name.length with
  | '=' :: text =>
    if isName then some (String.ofList name, Scanner.unescaped (String.ofList text)) else none
  | _ => none

/-- opens the next operand that is a file, and sets variables as the ones before it say; the input
if there has been none -/
def openOperandFile? : (fuel : Nat) → Run (Option Input)
  | 0 => pure none
  | fuel + 1 => do
    let m ← get
    let number := m.operands.next
    let count := wholeOf (globalValue m "ARGC").toNumber
    if count ≤ number then
      if m.operands.isOpened then pure none
      else do
        modify fun m => { m with operands := { m.operands with isOpened := true } }
        pure (some ⟨"", 0, none, [], false, true⟩)
    else
      set { m with operands := { m.operands with next := number + 1 } }
      let id ← openArray "ARGV"
      let v ← element? id (.number number)
      let name ← textOf (v.getD .unset)
      if name.isEmpty then openOperandFile? fuel
      else
        match operandAssignment? name with
        | some (target, text) => do
          storeName target (.input text)
          openOperandFile? fuel
        | none =>
          match ← openInput? name with
          | .error e => failed ("cannot open \"" ++ name ++ "\" (" ++ faultText e ++ ")")
          | .ok i => do
            modify fun m => { m with operands := { m.operands with isOpened := true } }
            bind "FILENAME" (.value (.input name))
            bind "FNR" (.value (.number 0))
            pure (some i)

/-- goes on to the next operand -/
def leaveOperand : Run Unit := do
  match (← get).operands.current with
  | some i => do
    let _ ← closeInput i
    modify fun m => { m with operands := { m.operands with current := none } }
  | none => pure ()

/-- adds one to a variable -/
def countUp (name : OctetText) : Run Unit := do
  bind name (.value (.number ((globalValue (← get) name).toNumber + 1)))

/-- the next record of the operands, which is counted -/
def nextRecord? : (fuel : Nat) → Run (Option OctetText)
  | 0 => pure none
  | fuel + 1 => do
    let current ← match (← get).operands.current with
      | some i => pure (some i)
      | none => openOperandFile? streamFuel
    match current with
    | none => pure none
    | some i => do
      let (record, i) ← recordFrom (← get).recordEnd streamFuel i
      modify fun m => { m with operands := { m.operands with current := some i } }
      match record with
      | some record => do
        countUp "NR"
        countUp "FNR"
        pure (some record)
      | none => do
        leaveOperand
        nextRecord? fuel

end ShellWorkers.Utility.Records
