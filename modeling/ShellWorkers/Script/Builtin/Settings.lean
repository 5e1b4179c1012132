import ShellWorkers.Machine.Permissions
import ShellWorkers.Script.Formatting
import ShellWorkers.Script.State

/-!
# Commands on what a shell keeps

Options, aliases, directories, traps and limits: what a shell keeps about itself, and the commands
that change it.
-/

/-!
## Options of the commands of a shell

A command of the shell gets its arguments without its name and answers its status.  Its options are
letters behind a hyphen, before all other arguments; some take a value, which is the rest of the
argument or the next one.
-/

namespace ShellWorkers.Script

open Text (OctetText)

/-- a command of the shell -/
abbrev Builtin := List OctetText → Sh Nat

namespace Builtin

/-- options in their order with their values, and the arguments behind them -/
structure Options where
  given : List (Char × OctetText)
  args : List OctetText

namespace Options

def has (o : Options) (letter : Char) : Bool := o.given.any (·.1 == letter)

end Options

/-- the letters of one argument, and what is left of the arguments behind it -/
def readLetters (plain valued : List Char) : List Char → List OctetText →
    Sh (List (Char × OctetText) × List OctetText)
  | [], args => pure ([], args)
  | c :: cs, args =>
    if plain.contains c then do
      let (given, args) ← readLetters plain valued cs args
      pure ((c, "") :: given, args)
    else if valued.contains c then
      match cs, args with
      | [], value :: args => pure ([(c, value)], args)
      | [], [] => abort ("No arg for -" ++ String.ofList [c] ++ " option")
      | cs, args => pure ([(c, String.ofList cs)], args)
    else abort ("Illegal option -" ++ String.ofList [c])

/-- reads the options of at most `fuel` arguments -/
def readOptionsFrom (plain valued : List Char) : (fuel : Nat) → List OctetText → Sh Options
  | 0, args => pure ⟨[], args⟩
  | _ + 1, [] => pure ⟨[], []⟩
  | fuel + 1, arg :: args =>
    match arg.toList with
    | ['-', '-'] => pure ⟨[], args⟩
    | '-' :: c :: cs => do
      let (given, args) ← readLetters plain valued (c :: cs) args
      let o ← readOptionsFrom plain valued fuel args
      pure ⟨given ++ o.given, o.args⟩
    | _ => pure ⟨[], arg :: args⟩

def readOptions (plain valued : String) (args : List OctetText) : Sh Options :=
  readOptionsFrom plain.toList valued.toList (args.length + 1) args

end Builtin

end ShellWorkers.Script

/-!
## Aliases
-/

namespace ShellWorkers.Script.Builtin

open Text (OctetText)

/-- an alias as a shell would read it back -/
def aliasLine (name value : OctetText) : OctetText := name ++ "=" ++ quotedValue value ++ "\n"

/-- an argument with a sign behind its first character is a definition -/
def definition? (arg : OctetText) : Option (OctetText × OctetText) :=
  match arg.toList with
  | [] => none
  | c :: cs =>
    let name := cs.takeWhile (· != '=')
    match cs.drop name.length with
    | [] => none
    | _ :: value => some (String.ofList (c :: name), String.ofList value)

/-- an alias gets a text; a new one comes behind the others -/
def putAlias (name value : OctetText) (aliases : List (OctetText × OctetText)) :
    List (OctetText × OctetText) :=
  if aliases.any (·.1 == name) then aliases.map fun a => if a.1 == name then (name, value) else a
  else aliases ++ [(name, value)]

/-- defines or shows aliases -/
def aliasAll : Builtin
  | [] => pure 0
  | arg :: args => do
    let status ← match definition? arg with
      | some (name, value) => do
        modify fun c => { c with aliases := putAlias name value c.aliases }
        pure 0
      | none =>
        match (← get).aliases.lookup arg with
        | some value => do
          say (aliasLine arg value)
          pure 0
        | none => do
          writeTo 2 ("alias: " ++ arg ++ " not found\n")
          pure 1
    let rest ← aliasAll args
    pure (if status = 0 then rest else status)

/-- defines or shows aliases; without arguments, shows all of them -/
def defineAliases : Builtin
  | [] => do
    for (name, value) in Context.inBuckets Prod.fst (← get).aliases do
      say (aliasLine name value)
    pure 0
  | args => aliasAll args

def unaliasAll : Builtin
  | [] => pure 0
  | name :: names => do
    let aliases := (← get).aliases
    let status ← if aliases.any (·.1 == name) then do
        modify ({ · with aliases := aliases.filter (·.1 ≠ name) })
        pure 0
      else do
        writeTo 2 ("unalias: " ++ name ++ " not found\n")
        pure 1
    let rest ← unaliasAll names
    pure (if status = 0 then rest else status)

def unalias : Builtin := fun args => do
  let o ← readOptions "a" "" args
  if o.has 'a' then do
    modify ({ · with aliases := [] })
    pure 0
  else unaliasAll o.args

end ShellWorkers.Script.Builtin

/-!
## The working directory of a shell

A shell knows its working directory by the way it came there: a path is followed component by
component in its text, so that the parent of a directory that was reached through a link is the
one the link stands in.  With `-P` the directory has the path the machine has for it.
-/

namespace ShellWorkers.Script.Builtin

open Machine
open Text (OctetText)

/-- components behind others, last first, without those that stand for themselves or go back -/
def followComponents : List OctetText → List OctetText → List OctetText
  | passed, [] => passed
  | passed, name :: names =>
    if name.isEmpty || name = "." then followComponents passed names
    else if name = ".." then followComponents (passed.drop 1) names
    else followComponents (name :: passed) names

/-- the path of a directory seen from another, in its text; two separators at its beginning
stay -/
def followPath (directory path : OctetText) : OctetText :=
  let start := if path.startsWith "/" then "" else directory
  let whole := start ++ "/" ++ path
  let before := if path.startsWith "//" && !path.startsWith "///" then "//"
    else if !path.startsWith "/" && start.startsWith "//" then "//"
    else "/"
  before ++ "/".intercalate (followComponents [] (whole.splitOn "/")).reverse

/-- the path that the machine has for the working directory -/
def machineDirectory : Sh OctetText := do
  match ← sys .workingDirectory with
  | .ok path => pure path
  | .error _ => pure ""

/-- the shell calls its working directory by a path -/
def enterDirectory (path : OctetText) (keepOld : Bool) : Sh Unit := do
  if keepOld then assignMarked "OLDPWD" (some (← get).directory) .ofExport
  modify ({ · with directory := path })
  assignMarked "PWD" (some path) .ofExport

/-- whether the paths of a machine are asked for -/
def isPhysical (o : Options) : Bool := o.given.getLast?.map Prod.fst == some 'P'

/-- changes to a directory; whether that was possible -/
def tryDirectory (physical : Bool) (path : OctetText) : Sh Bool := do
  let known := (← get).directory
  let target := if physical || (known.isEmpty && !path.startsWith "/") then path
    else followPath known path
  match ← sys (.changeDirectory target) with
  | .error _ => pure false
  | .ok _ => do
    let name ← if physical || known.isEmpty then machineDirectory else pure target
    enterDirectory name true
    modify fun c => { c with found := c.found.map ({ · with stale := true }) }
    pure true

/-- whether the places of a search path count for a directory -/
def isSearched (path : OctetText) : Bool :=
  match path.toList with
  | '/' :: _ => false
  | ['.'] => false
  | '.' :: '/' :: _ => false
  | ['.', '.'] => false
  | '.' :: '.' :: '/' :: _ => false
  | _ => true

/-- the first place of a search path that holds a directory: its path, and whether the place has a
name -/
def searchDirectory (path : OctetText) : List OctetText → Sh (Option (OctetText × Bool))
  | [] => pure none
  | place :: places => do
    let candidate := if place.isEmpty then path else place ++ "/" ++ path
    match ← sys (.status candidate true) with
    | .ok s =>
      if s.kind == .directory then pure (some (candidate, !place.isEmpty))
      else searchDirectory path places
    | .error _ => searchDirectory path places

def changeDirectory : Builtin := fun args => do
  let o ← readOptions "LP" "" args
  let c ← get
  let (path, shown) := match o.args with
    | [] => ((c.value? "HOME").getD "", false)
    | "-" :: _ => ((c.value? "OLDPWD").getD "", true)
    | path :: _ => (path, false)
  let isEmpty := path.isEmpty
  let path := if isEmpty then "." else path
  let places := match c.value? "CDPATH" with
    | some places => if isEmpty || isSearched path then places.splitOn ":" else []
    | none => []
  let (target, named) ← match ← searchDirectory path places with
    | some found => pure found
    | none => pure (path, false)
  if ← tryDirectory (isPhysical o) target then do
    if shown || named then say ((← get).directory ++ "\n")
    pure 0
  else abort ("can't cd to " ++ path)

def workingDirectory : Builtin := fun args => do
  let o ← readOptions "LP" "" args
  let path ← if isPhysical o then machineDirectory else do pure (← get).directory
  say (path ++ "\n")
  pure 0

end ShellWorkers.Script.Builtin

/-!
## What a shell does about signals

A shell runs commands of a script when a signal arrives or when it ends.  A signal that was ignored
when the shell began stays ignored.
-/

namespace ShellWorkers.Script

open Machine
open Text (OctetText)

/-- the way of a shell with a signal, for which commands may be set -/
def modeFor (signal : Nat) (text : Option OctetText) : SignalMode :=
  if signal = childEnded then .caught
  else
    match text with
    | none => .default
    | some text => if text.isEmpty then .ignored else .caught
where
  childEnded : Nat := 17

def dispositionOf : SignalMode → Disposition
  | .sealed => .ignored
  | .ignored => .ignored
  | .default => .default
  | .caught => .caught

/-- the way of the shell with a signal follows from the commands that are set for it -/
def followTrap (signal : Nat) : Sh Unit := do
  let c ← get
  let known ← match c.signalModes.lookup signal with
    | some mode => pure (some mode)
    | none => do
      if (← sys (.disposition signal)) = .ignored then pure (some .sealed) else pure none
  let mode := modeFor signal (c.traps.lookup signal)
  let noted (mode : SignalMode) : Sh Unit := modify fun c =>
    { c with signalModes := (signal, mode) :: c.signalModes.filter (·.1 ≠ signal) }
  if known = some .sealed then noted .sealed
  else if known = some mode then pure ()
  else do
    noted mode
    sys (.setDisposition signal (dispositionOf mode))

/-- no commands are set for the signals that are not ignored -/
def clearTraps : Sh Unit := do
  let set := (← get).traps.filter fun t => !t.2.isEmpty
  modify fun c => { c with traps := c.traps.filter fun t => t.2.isEmpty }
  for t in set do
    if t.1 != 0 then followTrap t.1

namespace Builtin

/-- the commands for a signal, as a shell would read them back -/
def trapLine (signal : Nat) (text : OctetText) : OctetText :=
  "trap -- " ++ quotedValue text ++ " " ++ Signal.name signal ++ "\n"

/-- sets or clears the commands for signals -/
def setTraps (text : Option OctetText) : List OctetText → Sh Nat
  | [] => pure 0
  | name :: names => do
    match Signal.ofText? 0 name with
    | none => do
      writeTo 2 ("trap: " ++ name ++ ": bad trap\n")
      pure 1
    | some signal => do
      modify fun c =>
        let others := c.traps.filter (·.1 ≠ signal)
        { c with traps := match text with
            | some text => (signal, text) :: others
            | none => others }
      if signal != 0 then followTrap signal
      setTraps text names

def listTraps : Sh Nat := do
  let traps := (← get).traps
  for signal in List.range Signal.count do
    match traps.lookup signal with
    | some text => say (trapLine signal text)
    | none => pure ()
  pure 0

def isSignalNumber (text : OctetText) : Bool :=
  text.toList.all Char.isDigit && (Signal.ofText? 0 text).isSome

def trap : Builtin := fun args => do
  match (← readOptions "" "" args).args with
  | [] => listTraps
  | [name] => setTraps none [name]
  | text :: names =>
    if isSignalNumber text then setTraps none (text :: names)
    else setTraps (if text = "-" then none else some text) names

end Builtin

end ShellWorkers.Script

/-!
## Permissions, limits and times of a shell
-/

namespace ShellWorkers.Script.Builtin

open Machine
open Text (OctetText)

/-! ### the mask of new files -/

/-- the octal digits of a mask -/
def maskText (mask : Nat) : OctetText :=
  String.ofList ({ Text.Directive.plain 'o' with precision := some 4 }.natural mask)

def umask : Builtin := fun args => do
  let o ← readOptions "S" "" args
  let mask ← sys (.setMask none)
  match o.args with
  | [] => do
    let mode := 0o777 ^^^ mask
    say (if o.has 'S' then
        "u=" ++ Mode.permissionLetters (mode / 64 % 8) ++ ",g=" ++ Mode.permissionLetters (mode / 8 % 8)
          ++ ",o=" ++ Mode.permissionLetters (mode % 8) ++ "\n"
      else maskText mask ++ "\n")
    pure 0
  | text :: _ => do
    if (text.toList.head?.map Char.isDigit).getD false then
      if text.toList.all isOctal then
        let _ ← sys (.setMask (some (octalValue text.toList &&& 0o777)))
      else abort ("Illegal number: " ++ text)
    else
      match Mode.applyClauses false 0 (text.splitOn ",") (0o777 ^^^ mask) with
      | some mode => let _ ← sys (.setMask (some (0o777 ^^^ (mode &&& 0o777))))
      | none => abort ("Illegal mode: " ++ text)
    pure 0

/-! ### limits -/

/-- a limit that the shell shows and sets -/
structure NamedLimit where
  letter : Char
  name : OctetText
  resource : Resource
  /-- what amounts are counted in -/
  unit : Nat

def limits : List NamedLimit :=
  [⟨'t', "time(seconds)", .processorTime, 1⟩, ⟨'f', "file(blocks)", .fileSize, 512⟩,
    ⟨'d', "data(kbytes)", .dataSize, 1024⟩, ⟨'s', "stack(kbytes)", .stackSize, 1024⟩,
    ⟨'c', "coredump(blocks)", .imageSize, 512⟩, ⟨'m', "memory(kbytes)", .residentSize, 1024⟩,
    ⟨'l', "locked memory(kbytes)", .lockedSize, 1024⟩, ⟨'p', "process", .processes, 1⟩,
    ⟨'n', "nofiles", .openFiles, 1⟩, ⟨'v', "vmemory(kbytes)", .addressSpace, 1024⟩,
    ⟨'w', "locks", .fileLocks, 1⟩, ⟨'r', "rtprio", .realTimeUrgency, 1⟩]

/-- an amount in a unit -/
def amountText (unit : Nat) : Option Nat → OctetText
  | none => "unlimited"
  | some n => toString (n / unit)

/-- amounts are words of 64 bits, the greatest of which stands for no limit -/
def amountOf? (n : Nat) : Option Nat :=
  let word := n % 18446744073709551616
  if word = 18446744073709551615 then none else some word

/-- the amount that an argument names: digits up to the first other character, which is refused -/
def readAmount (unit : Nat) (text : OctetText) : Sh (Option Nat) := do
  if text = "unlimited" then pure none
  else if text.toList.all Char.isDigit then
    pure (amountOf? (digitsNat text.toList % 18446744073709551616 * unit))
  else abort "bad number"

def ulimit : Builtin := fun args => do
  let o ← readOptions "HSatfdscmlpnvwr" "" args
  let letters := o.given.map Prod.fst
  let which := (letters.filter fun c => c == 'H' || c == 'S').getLast?
  let shown (l : NamedLimit) : Sh Unit := do
    let limit ← sys (.limit l.resource)
    say (amountText l.unit (if which == some 'H' then limit.ceiling else limit.amount) ++ "\n")
  let letter := (letters.filter fun c => c != 'H' && c != 'S' && c != 'a').getLast?.getD 'f'
  let named := (limits.find? (·.letter == letter)).getD ⟨'f', "", .fileSize, 512⟩
  match o.args with
  | [] =>
    if o.has 'a' then
      for l in limits do
        say (l.name ++ String.ofList (List.replicate (20 - l.name.length) ' ') ++ " ")
        shown l
    else shown named
    pure 0
  | text :: more => do
    if o.has 'a' || !more.isEmpty then abort "too many arguments"
    let amount ← readAmount named.unit text
    let limit ← sys (.limit named.resource)
    let limit := if which == some 'S' then limit else { limit with ceiling := amount }
    let limit := if which == some 'H' then limit else { limit with amount := amount }
    match ← sys (.setLimit named.resource limit) with
    | .ok _ => pure 0
    | .error e => abort ("error setting limit (" ++ faultText e ++ ")")

def times : Builtin := fun _ => do
  say "0m0.000000s 0m0.000000s\n0m0.000000s 0m0.000000s\n"
  pure 0

end ShellWorkers.Script.Builtin
