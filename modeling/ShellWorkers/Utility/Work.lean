import ShellWorkers.Machine.Kernel
import ShellWorkers.Text.Utf8

/-!
# The work of a utility

What a utility does to its streams and files, and how it quotes texts in messages.
-/

/-!
## Texts in messages

A text in a message stands between quotes that show where it ends.  `quoted` protects what is not
printable by backslashes; `shellQuoted` writes a text as a word that a shell reads back, `shellWord` quotes it
only if it needs that, and `named` is for names that stand before a colon.
-/

namespace ShellWorkers.Utility

open Text (OctetText)

/-- a character of one column -/
def isPrintable (c : Char) : Bool := 32 ≤ c.toNat && c.toNat ≤ 126

/-- the letter behind a backslash that stands for a character -/
def escapeLetter? (c : Char) : Option Char :=
  match c with
  | '\x07' => some 'a'
  | '\x08' => some 'b'
  | '\x0c' => some 'f'
  | '\n' => some 'n'
  | '\r' => some 'r'
  | '\t' => some 't'
  | '\x0b' => some 'v'
  | _ => none

/-- a digit of a base of at most 10 -/
def digitChar (n : Nat) : Char := Char.ofNat (48 + n)

/-- a character that is not printable, behind a backslash -/
def escapedChar (c : Char) : List Char :=
  match escapeLetter? c with
  | some letter => ['\\', letter]
  | none => ['\\', digitChar (c.toNat / 64), digitChar (c.toNat / 8 % 8), digitChar (c.toNat % 8)]

/-- a text between single quotes, with backslashes -/
def quoted (text : OctetText) : OctetText :=
  let inner := text.toList.flatMap fun c =>
    if c = '\'' || c = '\\' then ['\\', c]
    else if isPrintable c then [c]
    else escapedChar c
  String.ofList ('\'' :: inner ++ ['\''])

/-! ### words of a shell -/

/-- characters that mean something to a shell, wherever they stand -/
def isShellSpecial (c : Char) : Bool :=
  [' ', '!', '"', '$', '&', '\'', '(', ')', '*', ';', '<', '=', '>', '?', '[', '\\', '^', '`',
    '|'].contains c

/-- whether a text is no word that a shell reads as it is -/
def needsQuotes (text : OctetText) : Bool :=
  match text.toList with
  | [] => true
  | c :: cs =>
    c == '#' || c == '~' || (cs.isEmpty && (c == '{' || c == '}'))
      || (c :: cs).any fun c => isShellSpecial c || !isPrintable c

/-- characters that double quotes leave as they are -/
def isPlainInDouble (first : Bool) (c : Char) : Bool :=
  c.isAlphanum || [' ', '\'', '%', '+', ',', '-', '.', '/', ':', ']', '_'].contains c
    || (first && (c == '#' || c == '~'))

/-- a text between single quotes; `escaping` says that the quotes of escapes are open -/
def singleQuotedChars : (escaping : Bool) → List Char → List Char
  | _, [] => ['\'']
  | escaping, c :: cs =>
    if isPrintable c then
      let before := if escaping then ['\'', '\''] else []
      before ++ (if c = '\'' then ['\'', '\\', '\'', '\''] else [c]) ++ singleQuotedChars false cs
    else
      (if escaping then [] else ['\'', '$', '\'']) ++ escapedChar c ++ singleQuotedChars true cs

/-- a text as a quoted word of a shell -/
def shellQuoted (text : OctetText) : OctetText :=
  let cs := text.toList
  let plain := match cs with
    | [] => true
    | c :: rest => isPlainInDouble true c && rest.all (isPlainInDouble false)
  if cs.contains '\'' && plain then "\"" ++ text ++ "\""
  else String.ofList ('\'' :: singleQuotedChars false cs)

/-- a text as a word of a shell, quoted if need be -/
def shellWord (text : OctetText) : OctetText := if needsQuotes text then shellQuoted text else text

/-- a name before a colon in a message, quoted if need be -/
def named (text : OctetText) : OctetText :=
  if needsQuotes text || text.toList.contains ':' then shellQuoted text else text

end ShellWorkers.Utility

/-!
## The work of a utility

A utility is a program that is no shell: it reads its arguments, does its work with calls, writes
to its output and its messages, and ends with a code.  `Work` is the type of its actions.  Output
is held back until there is enough of it, a message is to be written, or the utility ends; output
that could not be written makes it fail in the end.

* `put`, `flush`            output;
* `warn`, `fail`            messages;
* `Work.program`            the program that does some work.
-/

namespace ShellWorkers.Utility

open Machine
open Text (OctetText)

/-- how a utility stands -/
structure Progress where
  /-- the name by which it was called -/
  name : OctetText
  vars : Variables
  /-- output that has not been written, last first -/
  output : List OctetText
  size : Nat
  code : Nat
  /-- why output could not be written -/
  lost : Option SystemFault
  /-- input that has been read ahead -/
  ahead : OctetText

/-- actions of a utility; one that ends it throws the code -/
abbrev Work := ExceptT Nat (StateT Progress Calls)

/-- more pieces than any stream has -/
def streamFuel : Nat := 1000000000000

/-! ### calls and output -/

def ask (c : Call) : Work (Call.Answer c) := ExceptT.lift (StateT.lift (call c))

/-- writes the output that is held back -/
def flush : Work Unit := do
  let s ← get
  if !s.output.isEmpty then
    modify ({ · with output := [], size := 0 })
    match ← ask (.write 1 (String.join s.output.reverse)) with
    | .ok _ => pure ()
    | .error e => modify fun s => { s with lost := s.lost <|> some e }

/-- how much output is held back -/
def outputLimit : Nat := 65536

/-- writes a text to the output -/
def put (text : OctetText) : Work Unit := do
  if !text.isEmpty then
    modify fun s => { s with output := text :: s.output, size := s.size + text.utf8ByteSize }
    if outputLimit < (← get).size then flush

def putLine (text : OctetText) : Work Unit := put (text ++ "\n")

/-! ### messages -/

/-- the words of a fault, without its number -/
def faultText (e : SystemFault) : OctetText :=
  match e with
  | .code n => SystemFault.codeText n
  | e => e.message

/-- the utility ends with this code at least -/
def setCode (code : Nat) : Work Unit :=
  modify fun s => { s with code := if s.code < code then code else s.code }

/-- writes to the messages, behind the output that is held back -/
def putMessage (text : OctetText) : Work Unit := do
  flush
  let _ ← ask (.write 2 text)

/-- a message, which starts with the name of the utility -/
def note (message : OctetText) : Work Unit := do
  putMessage ((← get).name ++ ": " ++ message ++ "\n")

/-- a message about a failure; the work goes on -/
def warnWith (code : Nat) (message : OctetText) : Work Unit := do
  note message
  setCode code

def warn (message : OctetText) : Work Unit := warnWith 1 message

/-- ends the utility -/
def stop {α : Type} (code : Nat) : Work α := throw code

/-- a message about a failure that ends the utility -/
def failWith {α : Type} (code : Nat) (message : OctetText) : Work α := do
  note message
  stop code

def fail {α : Type} (message : OctetText) : Work α := failWith 1 message

/-- a message that does not wait for the output that is held back -/
def noteAhead (message : OctetText) : Work Unit := do
  let _ ← ask (.write 2 ((← get).name ++ ": " ++ message ++ "\n"))

/-- a message about arguments that are not understood, with a word on where to find help -/
def misused {α : Type} (code : Nat) (message : OctetText) : Work α := do
  note message
  putMessage ("Try '" ++ (← get).name ++ " --help' for more information.\n")
  stop code

/-- as before, where both lines of the message start with the name -/
def misusedTwice {α : Type} (code : Nat) (message : OctetText) : Work α := do
  let name ← Progress.name <$> get
  note message
  note ("Try '" ++ name ++ " --help' for more information.")
  stop code

/-! ### programs -/

/-- the end of a utility: what is held back is written, and the code is `failure` at least when
output was lost -/
def finish (failure : Nat) : Work Unit := do
  flush
  match (← get).lost with
  | none => pure ()
  | some e => do
    note ("write error: " ++ faultText e)
    setCode failure

/-- the program that does some work with its arguments -/
def Work.program (failure : Nat) (work : List OctetText → Work Unit) : Program := fun args vars => do
  let start : Progress := ⟨args.head?.getD "", vars, [], 0, 0, none, ""⟩
  let (result, s) ← (work (args.drop 1)).run.run start
  let s := match result with
    | .ok _ => s
    | .error code => { s with code := code }
  let (_, s) ← (finish failure).run.run s
  pure s.code

/-! ### streams -/

/-- how much of a stream is read at once -/
def pieceSize : Nat := 131072

/-- opens an operand of a utility that reads streams; a hyphen stands for the input -/
def openOperand (path : OctetText) : Work (Except SystemFault Nat) :=
  if path = "-" then pure (.ok 0) else ask (.openFile path .read openPermissions)

def closeFile (fd : Nat) : Work Unit := do
  let _ ← ask (.close fd)

/-- closes what `openOperand` has opened -/
def closeOperand (path : OctetText) (fd : Nat) : Work Unit := do
  if path ≠ "-" then closeFile fd

/-- complains in the end, under a label, when the input is an operand and was closed all along -/
def endInput (label : OctetText) (paths : List OctetText) : Work Unit := do
  if paths.contains "-" then
    match ← ask (.statusOpen 0) with
    | .ok _ => pure ()
    | .error e => do
      note (label ++ ": " ++ faultText e)
      setCode 1

/-- what is left of a stream, last first -/
def readPieces (fd : Nat) : (fuel : Nat) → List OctetText → Work (Except SystemFault (List OctetText))
  | 0, pieces => pure (.ok pieces)
  | fuel + 1, pieces => do
    match ← ask (.read fd pieceSize) with
    | .error e => pure (.error e)
    | .ok text =>
      if text.isEmpty then pure (.ok pieces) else readPieces fd fuel (text :: pieces)

/-- what is left of a stream -/
def readAll (fd : Nat) : Work (Except SystemFault OctetText) := do
  return (← readPieces fd streamFuel []).map fun pieces => String.join pieces.reverse

/-- the text of an operand -/
def readOperand (path : OctetText) : Work (Except SystemFault OctetText) := do
  match ← openOperand path with
  | .error e => pure (.error e)
  | .ok fd => do
    let text ← readAll fd
    closeOperand path fd
    pure text

/-- does something with each line of a stream in order, the last of which may have no delimiter at
its end.  The lines that have been read are done before more is read. -/
def foldLines {σ : Type} (delimiter : Char) (fd : Nat) (step : σ → OctetText → Work σ) :
    (fuel : Nat) → (begun : OctetText) → σ → Work (σ × Option SystemFault)
  | 0, _, s => pure (s, none)
  | fuel + 1, begun, s => do
    match ← ask (.read fd pieceSize) with
    | .error e => return (← last begun s, some e)
    | .ok text =>
      if text.isEmpty || (← get).lost.isSome then return (← last begun s, none)
      else
        let parts := text.splitOn (String.ofList [delimiter])
        match parts with
        | first :: second :: rest => do
          let ended := (begun ++ first) :: (second :: rest).dropLast
          let s ← ended.foldlM (fun s line => step s (line.push delimiter)) s
          foldLines delimiter fd step fuel ((second :: rest).getLast?.getD "") s
        | _ => foldLines delimiter fd step fuel (begun ++ text) s
where
  last (begun : OctetText) (s : σ) : Work σ := if begun.isEmpty then pure s else step s begun

/-- the same for an operand, where a fault is told -/
def foldOperand {σ : Type} (delimiter : Char) (step : σ → OctetText → Work σ) (s : σ)
    (path : OctetText) : Work σ := do
  match ← openOperand path with
  | .error e => do
    warn (named path ++ ": " ++ faultText e)
    pure s
  | .ok fd => do
    let (s, fault) ← foldLines delimiter fd step streamFuel "" s
    match fault with
    | some e => warn (named path ++ ": " ++ faultText e)
    | none => pure ()
    closeOperand path fd
    pure s

/-- the next line of the input without its end; more is read than the line -/
def nextAnswer? : (fuel : Nat) → Work (Option OctetText)
  | 0 => pure none
  | fuel + 1 => do
    let ahead := (← get).ahead.toList
    let line := ahead.takeWhile (· != '\n')
    if line.length < ahead.length then do
      modify ({ · with ahead := String.ofList (ahead.drop (line.length + 1)) })
      pure (some (String.ofList line))
    else
      match ← ask (.read 0 pieceSize) with
      | .error _ => pure none
      | .ok text =>
        if text.isEmpty then do
          modify ({ · with ahead := "" })
          pure (if line.isEmpty then none else some (String.ofList line))
        else do
          modify fun s => { s with ahead := s.ahead ++ text }
          nextAnswer? fuel

/-- asks a question and reads whether the answer is yes -/
def agrees (question : OctetText) : Work Bool := do
  putMessage ((← get).name ++ ": " ++ question ++ "? ")
  return match ← nextAnswer? streamFuel with
    | some answer => answer.startsWith "y" || answer.startsWith "Y"
    | none => false

/-- the operands of a utility that reads its input when it has none -/
def inputOperands (operands : List OctetText) : List OctetText :=
  if operands.isEmpty then ["-"] else operands

/-! ### lines -/

/-- the characters of a line without its end, and whether it has one -/
def splitEnd (delimiter : Char) (line : OctetText) : List Char × Bool :=
  let cs := line.toList
  if cs.getLast? == some delimiter then (cs.dropLast, true) else (cs, false)

/-- a text cut behind the ends of its lines; the last line may have none -/
def linesOf (text : OctetText) : List OctetText :=
  let parts := text.splitOn "\n"
  let ended := parts.dropLast.map (· ++ "\n")
  match parts.getLast? with
  | some last => if last.isEmpty then ended else ended ++ [last]
  | none => ended

/-- the lines of a text without their ends -/
def bareLines (text : OctetText) : List OctetText :=
  let parts := text.splitOn "\n"
  if text.endsWith "\n" || text.isEmpty then parts.dropLast else parts

end ShellWorkers.Utility
