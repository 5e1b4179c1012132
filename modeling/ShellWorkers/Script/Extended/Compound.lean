import ShellWorkers.Script.Execution
import ShellWorkers.Script.Extended.Command

/-!
# Compound commands of the extended language

Tests, expressions, and the loops over words, over counted expressions and over what a reader
chooses.
-/

namespace ShellWorkers.Script.Extended

open Text (OctetText)

/-! ## tests and expressions -/

/-- runs an action under the name of a command; a failure of it is only a status -/
def named (name : OctetText) (action : Sh Nat) : Sh Nat := do
  let before := (← get).command
  modify ({ · with command := some name })
  let back : Sh Unit := modify ({ · with command := before })
  let status ← tryCatch action fun l => do
    back
    match l with
    | .failed => return (← get).status
    | l => leave l
  back
  pure status

/-- runs a test -/
def runTest (evaluate : Evaluate) (line : Nat) (t : Test) : Sh Nat := do
  modify ({ · with line := line })
  beginCommand evaluate (.test line t)
  let runner := runnerOf evaluate
  let processes := (← get).extras.processes
  restoring (named "[[" do
    let display (text : OctetText) : Sh Unit := traceLine runner ("[[ " ++ text ++ " ]]")
    return if ← holdsTest runner display t then 0 else 1) (closeProcesses processes)

/-- the value of an expression, which is shown before -/
def computeShown (evaluate : Evaluate) (expression : Word) : Sh Int := do
  let runner := runnerOf evaluate
  let text := segmentsText (← wordSegments runner .text false expression)
  traceLine runner ("(( " ++ text ++ " ))")
  compute text

/-- runs an expression, which holds if its value is not zero -/
def runComputation (evaluate : Evaluate) (line : Nat) (expression : Word) : Sh Nat := do
  modify ({ · with line := line })
  beginCommand evaluate (.computation line expression)
  named "((" do return if (← computeShown evaluate expression) = 0 then 1 else 0

/-! ## loops -/

/-- a text of a script as a word -/
def plainWord (text : OctetText) : Word := [.text text false]

/-- what begins a loop over words, as a command -/
def loopHead (line : Nat) (keyword name : OctetText) (words : List Word) : Command :=
  .simple line [] (plainWord keyword :: plainWord name :: plainWord "in" :: words) []

/-- the turns of a loop over values -/
def turnsOverWords (evaluate : Evaluate) (mode : Mode) (head : Command) (name : OctetText)
    (body : Command) : List OctetText → (status : Nat) → Sh Nat
  | [], status => pure status
  | value :: values, _ => do
    beginCommand evaluate head
    traceLine (runnerOf evaluate) (commandSource .inLine head)
    let isAssigned ← tryCatch (do
        Assigned.assignText name none false value
        pure true) fun l =>
      match l with
      | .failed => pure false
      | l => leave l
    if !isAssigned then pure 1
    else
      pause evaluate
      match ← inLoop (evaluate mode body) with
      | .stop status => pure status
      | .next status => turnsOverWords evaluate mode head name body values status
      | .ended status => turnsOverWords evaluate mode head name body values status

/-- a name of a loop that is none is a failure -/
def withLoopName (name : OctetText) (action : Sh Nat) : Sh Nat :=
  if isName name.toList then action
  else do
    complainPlainly (notIdentifier name)
    pure 1

/-- runs a loop over words -/
def runFor (evaluate : Evaluate) (mode : Mode) (line : Nat) (name : OctetText)
    (words : List Word) (body : Command) : Sh Nat :=
  withLoopName name do
    let values ← expandAll (runnerOf evaluate) words
    let head := loopHead line "for" name words
    asLoop (turnsOverWords evaluate mode.inner head name body values 0)

/-- the turns of a loop with an expression before and one behind each of them -/
def countedTurns (evaluate : Evaluate) (mode : Mode) (test next : Sh Int) (body : Command) :
    (fuel : Nat) → (status : Nat) → Sh Nat
  | 0, status => pure status
  | fuel + 1, status => do
    if (← test) = 0 then pure status
    else
      pause evaluate
      let goOn (status : Nat) : Sh Nat := do
        let _ ← next
        countedTurns evaluate mode test next body fuel status
      match ← inLoop (evaluate mode body) with
      | .stop status => pure status
      | .next status => goOn status
      | .ended status => goOn status

/-- runs a loop with three expressions; one that is empty holds -/
def runCounted (evaluate : Evaluate) (mode : Mode) (line : Nat) (start test next : Word)
    (body : Command) : Sh Nat := do
  modify ({ · with line := line })
  let value (w : Word) : Sh Int := do
    let isEmpty := match w with
      | [] => true
      | [.text text _] => (text.toList.dropWhile isNumberBlank).isEmpty
      | _ => false
    if isEmpty then pure 1
    else
      let before := (← get).command
      modify ({ · with line := line, command := some "((" })
      beginCommand evaluate (.computation line w)
      restoring (computeShown evaluate w) (modify ({ · with command := before }))
  let whole : Sh Nat := do
    let _ ← value start
    asLoop (countedTurns evaluate mode.inner (value test) (value next) body turnFuel 0)
  tryCatch whole fun l => do
    match l with
    | .failed => return (← get).status
    | l => leave l

/-! ## menus -/

/-- the width of the lines in which a menu is laid out -/
def menuWidth : Nat := 80

/-- blanks and tabs from a column up to another one -/
def indent : (fuel : Nat) → (start stop : Nat) → OctetText
  | 0, _, _ => ""
  | fuel + 1, start, stop =>
    if stop ≤ start then ""
    else if start / 8 < stop / 8 then "\t" ++ indent fuel ((start / 8 + 1) * 8) stop
    else " " ++ indent fuel (start + 1) stop

/-- the lines of a menu: its items with numbers, in columns -/
def menuText (items : List OctetText) : OctetText :=
  let digits := (toString items.length).length
  let longest := (items.map String.length).foldl (fun a b => if a < b then b else a) 0
  let width := longest + digits + 2 + 2
  let columns := if width ≤ menuWidth then menuWidth / width else 1
  let rows := if items.isEmpty then 1 else (items.length + columns - 1) / columns
  let columns := if items.isEmpty then 1 else (items.length + rows - 1) / rows
  let (rows, columns) := if rows = 1 then (columns, 1) else (rows, columns)
  let item (n : Nat) : OctetText :=
    let number := toString (n + 1)
    String.ofList (List.replicate (digits - number.length) ' ') ++ number ++ ") "
      ++ (items[n]?).getD ""
  String.join ((List.range rows).map fun row =>
    let numbers := ((List.range columns).map fun column => row + column * rows).filter
      (· < items.length)
    String.join (numbers.zipIdx.map fun (n, column) =>
      let text := item n
      if column + 1 < numbers.length then
        text ++ indent (width + 1) (column * width + text.length) ((column + 1) * width)
      else text) ++ "\n")

/-- the turns of a menu: a line is read, and the item that it names becomes the value -/
def menuTurns (evaluate : Evaluate) (mode : Mode) (name : OctetText) (items : List OctetText)
    (body : Command) : (fuel : Nat) → (shows : Bool) → (status : Nat) → Sh Nat
  | 0, _, status => pure status
  | fuel + 1, shows, status => do
    if shows then writeTo 2 (menuText items)
    writeTo 2 (((← get).value? "PS3").getD "#? ")
    let result ← read []
    let reply := ((← get).value? "REPLY").getD ""
    if result ≠ 0 && reply.isEmpty then do
      writeTo 1 "\n"
      pure 1
    else if reply.isEmpty then menuTurns evaluate mode name items body fuel true status
    else do
      let chosen := match integer? reply with
        | some n => if 1 ≤ n then (items[n.toNat - 1]?).getD "" else ""
        | none => ""
      Assigned.assignText name none false chosen
      let goOn (status : Nat) : Sh Nat := do
        let isEmpty := (((← get).value? "REPLY").getD "").isEmpty
        menuTurns evaluate mode name items body fuel isEmpty status
      match ← inLoop (evaluate mode body) with
      | .stop status => pure status
      | .next status => goOn status
      | .ended status => goOn status

/-- runs a loop over what a reader chooses -/
def runMenu (evaluate : Evaluate) (mode : Mode) (line : Nat) (name : OctetText)
    (words : List Word) (body : Command) : Sh Nat := do
  modify ({ · with line := line })
  withLoopName name do
    let items ← expandAll (runnerOf evaluate) words
    beginCommand evaluate (loopHead line "select" name words)
    if items.isEmpty then pure 0
    else asLoop (menuTurns evaluate mode.inner name items body turnFuel true 0)

/-! ## selections and times -/

/-- what precedes a selection -/
def announceSelection (evaluate : Evaluate) (line : Nat) (word : Word) : Sh Unit := do
  let head : Command := .simple line [] [plainWord "case", word, plainWord "in"] []
  beginCommand evaluate head
  traceLine (runnerOf evaluate) (commandSource .inLine head)

/-- a number with zeros before it -/
def zeroFilled (width n : Nat) : OctetText :=
  let digits := toString n
  String.ofList (List.replicate (width - digits.length) '0') ++ digits

/-- runs a command and writes how long it took -/
def runTimed (evaluate : Evaluate) (mode : Mode) (standard : Bool) (body : Command) : Sh Nat := do
  let start ← sys .now
  let status ← if isNothing body then pure 0 else evaluate mode.inner body
  let millis := (((← sys .now) - start) / 1000000).toNat
  if standard then
    writeTo 2 ("real " ++ toString (millis / 1000) ++ "." ++ zeroFilled 2 (millis / 10 % 100)
      ++ "\nuser 0.00\nsys 0.00\n")
  else
    writeTo 2 ("\nreal\t" ++ toString (millis / 60000) ++ "m" ++ toString (millis / 1000 % 60) ++ "."
      ++ zeroFilled 3 (millis % 1000) ++ "s\nuser\t0m0.000s\nsys\t0m0.000s\n")
  pure status

end ShellWorkers.Script.Extended
