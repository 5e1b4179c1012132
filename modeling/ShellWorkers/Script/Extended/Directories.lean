import ShellWorkers.Script.Builtin.Settings
import ShellWorkers.Script.Extended.Assigning

/-!
# Directories of a shell of the extended language

Besides its working directory a shell keeps a stack of directories behind it, to which it can go
back.
-/

namespace ShellWorkers.Script.Extended

open Machine
open ShellWorkers.Script.Builtin (Options enterDirectory followPath isPhysical machineDirectory
  isSearched)
open Text (OctetText)

/-! ## the working directory -/

/-- changes to a directory, or answers why that is not possible -/
def changeTo (physical : Bool) (path : OctetText) : Sh (Option SystemFault) := do
  let known := (← get).directory
  let followed := if physical || (known.isEmpty && !path.startsWith "/") then path
    else followPath known path
  let (result, isFollowed) ← match ← sys (.changeDirectory followed) with
    | .ok _ => pure (none, true)
    | .error _ =>
      match ← sys (.changeDirectory path) with
      | .ok _ => pure (none, false)
      | .error e => pure (some e, false)
  match result with
  | some e => pure (some e)
  | none => do
    let name ← if physical || known.isEmpty || !isFollowed then machineDirectory else pure followed
    enterDirectory name true
    modify ({ · with found := [] })
    pure none

/-- the first place of a search path under which a directory can be entered: whether it has a
name -/
def enterSearched (physical : Bool) (path : OctetText) : List OctetText → Sh (Option Bool)
  | [] => pure none
  | place :: places => do
    let candidate := if place.isEmpty then "./" ++ path
      else if place.endsWith "/" then place ++ path else place ++ "/" ++ path
    match ← changeTo physical candidate with
    | none => pure (some !place.isEmpty)
    | some _ => enterSearched physical path places

/-- changes to a directory that a command names, or fails -/
def enterOrFail (physical : Bool) (path : OctetText) : Sh Unit := do
  match ← changeTo physical path with
  | none => pure ()
  | some e => abort (path ++ ": " ++ faultText e)

def changeDirectory : Builtin := fun args => do
  let o ← readChoices "LPe@" "" args
  let physical := isPhysical ⟨o.given.filter fun g => g.1 = 'L' || g.1 = 'P', []⟩
  let c ← get
  let goTo (path : OctetText) (shown : Bool) : Sh Nat := do
    let places := match c.value? "CDPATH" with
      | some places => if isSearched path && path != ".." && !path.isEmpty then places.splitOn ":"
        else []
      | none => []
    match ← enterSearched physical path places with
    | some named => do
      if named || shown then say ((← get).directory ++ "\n")
      pure 0
    | none => do
      if !path.isEmpty then enterOrFail physical path
      if shown then say ((← get).directory ++ "\n")
      pure 0
  match o.args with
  | [] =>
    match c.value? "HOME" with
    | some path => goTo path false
    | none => abort "HOME not set"
  | ["-"] =>
    match c.value? "OLDPWD" with
    | some path => goTo path true
    | none => abort "OLDPWD not set"
  | [path] => goTo path false
  | _ => abort "too many arguments"

def workingDirectory : Builtin := fun args => do
  let o ← readChoices "LP" "" args
  let c ← get
  let path ← if isPhysical o then machineDirectory else pure c.directory
  say (path ++ "\n")
  pure 0

/-! ## the stack -/

/-- a path below the home directory with a tilde in its place -/
def withTilde (c : Context) (path : OctetText) : OctetText :=
  match c.value? "HOME" with
  | none => path
  | some home =>
    if home.isEmpty || home = "/" then path
    else if path = home then "~"
    else if path.startsWith (home ++ "/") then "~" ++ String.ofList (path.toList.drop home.length)
    else path

/-- all directories, the working directory first -/
def directories (c : Context) : List OctetText := c.directory :: c.extras.stack

def setStack (stack : List OctetText) : Sh Unit :=
  modify fun c => { c with extras := { c.extras with stack := stack } }

/-- the place that an argument names, counted from the left or from the right -/
def placeOf? (length : Nat) (arg : OctetText) : Option (Option Nat) :=
  match arg.toList with
  | '+' :: ds => number ds fun n => n
  | '-' :: ds => number ds fun n => (length : Int) - 1 - n
  | _ => none
where
  number (ds : List Char) (place : Int → Int) : Option (Option Nat) :=
    if ds.isEmpty || !ds.all Char.isDigit then none
    else
      let n := place (digitsNat ds : Nat)
      some (if 0 ≤ n && n < length then some n.toNat else none)

/-- lists the directories in a line -/
def listDirectories : Sh Unit := do
  let c ← get
  say (" ".intercalate ((directories c).map (withTilde c)) ++ "\n")

/-- the options of a command on the stack: whether the letter `n` is among them, and the rest -/
def stackOptions : List OctetText → Bool × List OctetText
  | "-n" :: args => (true, (stackOptions args).2)
  | "--" :: args => (false, args)
  | args => (false, args)

/-- an argument names no place of the stack -/
def outOfRange {α : Type} (arg : OctetText) : Sh α := do
  if (← get).extras.stack.isEmpty then abort "directory stack empty"
  else abort (arg ++ ": directory stack index out of range")

def pushDirectory : Builtin := fun args => do
  let (quiet, args) := stackOptions args
  let c ← get
  let all := directories c
  match args with
  | [] =>
    match c.extras.stack with
    | [] => abort "no other directory"
    | next :: rest => do
      if quiet then pure 0
      else
        enterOrFail false next
        setStack (c.directory :: rest)
        listDirectories
        pure 0
  | arg :: _ =>
    match placeOf? all.length arg with
    | some none => outOfRange arg
    | some (some n) => do
      let turned := all.drop n ++ all.take n
      if !quiet then enterOrFail false (turned.headD "")
      setStack (turned.drop 1)
      listDirectories
      pure 0
    | none => do
      if arg.startsWith "-" && arg != "-" then misuse (arg ++ ": invalid number")
      else if quiet then setStack (arg :: c.extras.stack)
      else
        enterOrFail false arg
        setStack all
      listDirectories
      pure 0

def popDirectory : Builtin := fun args => do
  let (quiet, args) := stackOptions args
  let c ← get
  let all := directories c
  let place ← match args with
    | [] => pure 0
    | arg :: _ =>
      match placeOf? all.length arg with
      | some (some n) => pure n
      | some none => outOfRange arg
      | none =>
        if arg.startsWith "-" then misuse (arg ++ ": invalid number")
        else misuse (arg ++ ": invalid argument")
  match c.extras.stack with
  | [] => abort "directory stack empty"
  | next :: rest => do
    if place = 0 && !quiet then do
      enterOrFail false next
      setStack rest
    else setStack (c.extras.stack.eraseIdx (if place = 0 then 0 else place - 1))
    listDirectories
    pure 0

/-- the letters and the place that `dirs` is called with -/
def listingOptions (length : Nat) : List OctetText → Sh (List Char × Option Nat)
  | [] => pure ([], none)
  | arg :: args => do
    match placeOf? length arg with
    | some (some n) => do
      let (letters, _) ← listingOptions length args
      pure (letters, some n)
    | some none => outOfRange arg
    | none =>
      match arg.toList with
      | '-' :: c :: cs =>
        if (c :: cs).all fun c => ['c', 'l', 'p', 'v'].contains c then do
          let (letters, place) ← listingOptions length args
          pure (c :: cs ++ letters, place)
        else misuse (arg ++ ": invalid number")
      | _ => misuse (arg ++ ": invalid option")

def listStack : Builtin := fun args => do
  let c ← get
  let all := directories c
  let (letters, place) ← listingOptions all.length args
  if letters.contains 'c' then setStack []
  else
    let form (path : OctetText) : OctetText := if letters.contains 'l' then path else withTilde c path
    let numbered : List (Nat × OctetText) := all.zipIdx.map fun (path, n) => (n, form path)
    let chosen := match place with
      | some n => numbered.filter fun d : Nat × OctetText => d.1 == n
      | none => numbered
    if letters.contains 'v' then
      for (n, path) in chosen do
        let number := toString n
        say (String.ofList (List.replicate (2 - number.length) ' ') ++ number ++ "  " ++ path ++ "\n")
    else if letters.contains 'p' then
      for (_, path) in chosen do say (path ++ "\n")
    else say (" ".intercalate (chosen.map Prod.snd) ++ "\n")
  pure 0

end ShellWorkers.Script.Extended
