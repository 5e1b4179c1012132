import ShellWorkers.Script.Builtin.Settings
import ShellWorkers.Script.Condition
import ShellWorkers.Script.Formatting
import ShellWorkers.Script.References

/-!
# Commands that write, read and test
-/

namespace ShellWorkers.Script.Builtin

open Machine
open Text (OctetText)

/-! ## output -/

def echo : Builtin := fun args => do
  say (echoText args)
  pure 0

def printf : Builtin := fun args => do
  match (← readOptions "" "" args).args with
  | [] => abort "usage: printf format [arg ...]"
  | format :: args => do
    let printed := printText format args
    say printed.output
    for (_, warning) in printed.warnings do
      complain warning
    match printed.fault with
    | some fault => abort fault
    | none => pure (if printed.warnings.isEmpty then 0 else 1)

/-! ## input -/

/-- a line as it is read: what has been closed, last first, and the characters at its end that can
still be cut, last first -/
structure LineReading where
  closed : List Segment
  chars : List Char

namespace LineReading

def close (l : LineReading) : LineReading :=
  { closed := ⟨.value, symbolsOf false (String.ofList l.chars.reverse)⟩ :: l.closed, chars := [] }

/-- a character that a backslash protects -/
def protect (l : LineReading) (c : Char) : LineReading :=
  { closed := ⟨.whole, [.char c true]⟩ :: l.close.closed, chars := [] }

def segments (l : LineReading) : List Segment := l.close.closed.reverse

end LineReading

/-- reads a line from the input octet by octet, and whether it was ended -/
def readLine (raw : Bool) : (fuel : Nat) → (escaped : Bool) → LineReading →
    Sh (List Segment × Bool)
  | 0, _, l => pure (l.segments, false)
  | fuel + 1, escaped, l => do
    match ← sys (.read 0 1) with
    | .error e => do
      let c ← get
      let signals ← sys .takeSignals
      modify fun _ => { c with arrived := c.arrived ++ signals }
      if e = .interrupted && signals.isEmpty then readLine raw fuel escaped l
      else pure (l.segments, false)
    | .ok text =>
      match text.toList with
      | [] => pure (l.segments, false)
      | c :: _ =>
        if c = '\x00' then readLine raw fuel escaped l
        else if escaped then
          readLine raw fuel false (if c = '\n' then l.close else l.protect c)
        else if c = '\\' && !raw then readLine raw fuel true l
        else if c = '\n' then pure (l.segments, true)
        else readLine raw fuel false { l with chars := c :: l.chars }

/-- longer than any line -/
def lineFuel : Nat := 1000000000

/-- gives texts to variables; those that are left over get empty ones -/
def assignParts : List OctetText → List OctetText → Sh Unit
  | [], _ => pure ()
  | name :: names, [] => do
    assign name ""
    assignParts names []
  | name :: names, part :: parts => do
    assign name part
    assignParts names parts

def read : Builtin := fun args => do
  let o ← readOptions "r" "p" args
  if o.args.isEmpty then abort "arg count"
  else do
    let (line, ended) ← readLine (o.has 'r') lineFuel false ⟨[], []⟩
    assignParts o.args (partsOf (← get).separators o.args.length line)
    pure (if ended then 0 else 1)

/-! ## conditions -/

/-- the status of a condition -/
def check : Builtin := fun args => do
  match ← ExceptT.lift (StateT.lift (Condition.holds args).run) with
  | .ok b => pure (if b then 0 else 1)
  | .error message => abort message

def bracket : Builtin := fun args =>
  match Condition.bracketed? args with
  | some args => check args
  | none => abort "missing ]"

end ShellWorkers.Script.Builtin
