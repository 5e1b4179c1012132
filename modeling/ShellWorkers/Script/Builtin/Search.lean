import ShellWorkers.Script.Builtin.Settings

/-!
# What names of commands stand for

A name stands for a function, a command of the shell, or a program.  A program without a separator
in its name is searched for in the places of the search path; where it was found is remembered by
the number of the place.  When the working directory has changed, places that are no absolute
paths are looked at again.
-/

namespace ShellWorkers.Script

open Machine
open Text (OctetText)

/-! ## commands of the shell -/

/-- the commands of the shell that are not special -/
def regularNames : List OctetText :=
  ["[", "alias", "bg", "cd", "chdir", "command", "echo", "false", "fg", "getopts", "hash", "jobs",
    "kill", "printf", "pwd", "read", "test", "true", "type", "ulimit", "umask", "unalias", "wait"]

def isBuiltinName (name : OctetText) : Bool := isSpecialName name || regularNames.contains name

/-- the commands whose arguments are assignments where they look like ones -/
def takesAssignments (name : OctetText) : Bool :=
  ["alias", "export", "readonly", "local"].contains name

/-! ## programs -/

/-- the places where programs are searched for, unless others are named -/
def usualPlaces : OctetText := "/usr/sbin:/usr/bin:/sbin:/bin"

def placesOf (path : Option OctetText) : List OctetText :=
  match path with
  | some path => path.splitOn ":"
  | none => []

/-- the path of a name in a place -/
def pathIn (place name : OctetText) : OctetText :=
  if place.isEmpty then name else place ++ "/" ++ name

/-- the number of the first place, the first here being `number`, where a name is a file that can
be executed.  `known` is the number of a place where it has been found: it counts as it is, and
so do those before it, unless they depend on the working directory. -/
def searchPlaces (name : OctetText) (known : Option Nat) (fault : SystemFault) :
    (number : Nat) → List OctetText → Sh (Except SystemFault Nat)
  | _, [] => pure (.error fault)
  | number, place :: places => do
    let isKnown := place.startsWith "/" && (known.map fun k => decide (number ≤ k)) == some true
    if isKnown then
      if known == some number then pure (.ok number)
      else searchPlaces name known fault (number + 1) places
    else
      match ← sys (.status (pathIn place name) true) with
      | .ok s =>
        if s.kind == .file && s.isExecutable then pure (.ok number)
        else searchPlaces name known .accessDenied (number + 1) places
      | .error e =>
        let fault := if e = .notFound || e = .notDirectory then fault else e
        searchPlaces name known fault (number + 1) places

/-- remembers where a program was found -/
def remember (name : OctetText) (place : Nat) : Sh Unit := modify fun c =>
  let entry : Found := ⟨name, place, false, 0⟩
  if c.found.any (·.name == name) then
    { c with found := c.found.map fun f => if f.name == name then entry else f }
  else { c with found := c.found ++ [entry] }

/-- the number of the place of a program; `others` are places in place of the search path -/
def findProgram (others : Option OctetText) (name : OctetText) : Sh (Except SystemFault Nat) := do
  match others with
  | some path => searchPlaces name none .notFound 0 (placesOf path)
  | none => do
    let c ← get
    let known := c.found.find? (·.name == name)
    match known with
    | some f => if !f.stale then return .ok f.place
    | none => pure ()
    match ← searchPlaces name (known.map Found.place) .notFound 0 (placesOf (c.value? "PATH")) with
    | .ok place => do
      remember name place
      pure (.ok place)
    | .error e => do
      modify fun c => { c with found := c.found.filter (·.name ≠ name) }
      pure (.error e)

/-- why a program cannot be executed, in the words of a shell -/
def executionFault (e : SystemFault) : OctetText :=
  if e = .notFound || e = .notDirectory then "not found" else faultText e

/-! ## names -/

/-- what a name stands for -/
inductive Meaning where
  | function (body : Command)
  | builtin (name : OctetText)
  /-- a program, by the number of its place unless the name is a path -/
  | program (place : Option Nat)
  | unknown (fault : SystemFault)

/-- what a name stands for, if no program is searched for -/
def innerMeaning? (functions : Bool) (name : OctetText) : Sh (Option Meaning) := do
  if name.contains '/' then pure (some (.program none))
  else do
    let known := (← get).functions
    match if functions then known.lookup name else none with
    | some body => pure (some (.function body))
    | none => pure (if isBuiltinName name then some (.builtin name) else none)

/-- what a name stands for -/
def meaning (functions : Bool) (others : Option OctetText) (name : OctetText) : Sh Meaning := do
  match ← innerMeaning? functions name with
  | some m => pure m
  | none =>
    match ← findProgram others name with
    | .ok place => pure (.program (some place))
    | .error e => pure (.unknown e)

namespace Builtin

/-! ## what names stand for, in words -/

/-- describes what a name stands for, in words or by itself -/
def describeMeaning (verbose tracked : Bool) (name : OctetText) (path : OctetText) :
    Meaning → Sh Nat
  | .function _ => done (if verbose then " is a shell function" else name)
  | .builtin b =>
    done (if verbose then
        " is a " ++ (if isSpecialName b then "special " else "") ++ "shell builtin"
      else name)
  | .program none => do
    match ← sys (.status name true) with
    | .ok _ => done (if verbose then " is " ++ name else name)
    | .error _ => missing
  | .program (some _) =>
    done (if verbose then " is" ++ (if tracked then " a tracked alias for " else " ") ++ path
      else path)
  | .unknown _ => missing
where
  done (text : OctetText) : Sh Nat := do
    say (text ++ "\n")
    pure 0
  missing : Sh Nat := do
    if verbose then say ": not found\n"
    pure 127

/-- describes a name; `others` are places in place of the search path -/
def describe (others : Option OctetText) (verbose : Bool) (name : OctetText) : Sh Nat := do
  if verbose then say name
  let c ← get
  if isReserved name then done (if verbose then " is a shell keyword" else name)
  else
    match c.aliases.lookup name with
    | some value =>
      if verbose then done (" is an alias for " ++ value)
      else do
        say ("alias " ++ aliasLine name value)
        pure 0
    | none => do
      let tracked := others.isNone && c.found.any (·.name == name)
      let m ← meaning true others name
      let path := match m with
        | .program (some place) =>
          let places := placesOf (if others.isSome then others else c.value? "PATH")
          pathIn ((places[place]?).getD "") name
        | _ => name
      describeMeaning verbose tracked name path m
where
  done (text : OctetText) : Sh Nat := do
    say (text ++ "\n")
    pure 0

/-- describes names; the status tells whether all stand for something -/
def types : Builtin
  | [] => pure 0
  | name :: names => do
    let known ← describe none true name
    let rest ← types names
    pure (if known = 0 then rest else known)

/-- describes the one name that options ask for -/
def describeCommand : Builtin := fun args => do
  let o ← readOptions "pvV" "" args
  let others := if o.has 'p' then some usualPlaces else none
  match o.args with
  | [] => pure 0
  | name :: _ =>
    if o.has 'V' then describe others true name
    else if o.has 'v' then describe others false name
    else pure 0

/-! ## remembered programs -/

/-- the place of a name in the list of remembered programs -/
def programBucket (name : OctetText) : Nat :=
  let first := (name.toList.head?.map Char.toNat).getD 0
  (name.toList.foldl (fun n c => n + c.toNat) (first * 16)) % 32768 % 31

/-- looks names up anew -/
def rememberAll : Builtin
  | [] => pure 0
  | name :: names => do
    modify fun c => { c with found := c.found.filter (·.name ≠ name) }
    let status ← match ← meaning true none name with
      | .unknown e => do
        complain (name ++ ": " ++ executionFault e)
        pure 1
      | _ => pure 0
    let rest ← rememberAll names
    pure (if status = 0 then rest else status)

def hash : Builtin := fun args => do
  let o ← readOptions "r" "" args
  if o.has 'r' then do
    modify ({ · with found := [] })
    pure 0
  else if o.args.isEmpty then do
    let c ← get
    let places := placesOf (c.value? "PATH")
    for bucket in List.range 31 do
      for f in c.found.filter fun f => programBucket f.name == bucket do
        say (pathIn ((places[f.place]?).getD "") f.name ++ (if f.stale then "*" else "") ++ "\n")
    pure 0
  else rememberAll o.args

end Builtin

end ShellWorkers.Script
