import ShellWorkers.Utility.Finding.Reader
import ShellWorkers.Utility.Removal
import ShellWorkers.Utility.Running

/-!
# Finding files

Files are visited in order, and an expression is asked about each.
-/

/-!
## Visiting files

The files below the starting points are visited one after the other, and the expression is asked
about each.  Its actions can leave out what is below a directory, or end the tour.
-/

namespace ShellWorkers.Utility.Finding

open Machine
open Text (OctetText)

/-- a file that is visited -/
structure Visit where
  path : OctetText
  /-- the starting point -/
  start : OctetText
  depth : Nat
  status : FileStatus
  /-- what its path names if a last link is not followed -/
  own : FileStatus

/-- how a tour stands -/
structure TourState where
  /-- what is below the directory is left out -/
  pruned : Bool
  over_ : Bool
  failed : Bool
  /-- the files that actions for many files have taken, last first -/
  collected : List (Nat × OctetText)

abbrev Walk := StateT TourState Work

/-! ### properties -/

/-- the letter of a kind of files -/
def kindLetterOf (kind : FileKind) : Char :=
  match kind with
  | .file => 'f'
  | .directory => 'd'
  | .link => 'l'
  | .device => 'c'
  | .queue => 'p'

/-- the path behind the starting point -/
def pathBelow (v : Visit) : OctetText :=
  let rest := v.path.toList.drop v.start.length
  String.ofList (match rest with
    | '/' :: cs => cs
    | cs => cs)

/-- the path before the last component -/
def leading (path : OctetText) : OctetText :=
  let cs := path.toList
  let cs := if cs.length > 1 then (cs.reverse.dropWhile (· == '/')).reverse else cs
  if !cs.contains '/' then "."
  else
    match (cs.reverse.dropWhile (· != '/')).dropWhile (· == '/') with
    | [] => ""
    | rest => String.ofList rest.reverse

/-- the last component of a path with the slashes behind it -/
def lastComponent (path : OctetText) : OctetText :=
  let reversed := path.toList.reverse
  let slashes := reversed.takeWhile (· == '/')
  let rest := reversed.drop slashes.length
  if rest.isEmpty then (if path.isEmpty then "" else "/")
  else String.ofList (rest.takeWhile (· != '/')).reverse

/-- seconds with ten places -/
def longSeconds (instant : Int) : OctetText :=
  FileDescription.secondsText (some 9) instant ++ "0"

/-- a property of time -/
def timeProperty (z : Clock.Zone) (instant : Int) (letter : Char) : OctetText :=
  match letter with
  | '@' => longSeconds instant
  | 'S' => formatTime z instant "%S.%N" ++ "0"
  | 'T' => formatTime z instant "%H:%M:%S.%N" ++ "0"
  | '+' => formatTime z instant "%Y-%m-%d+%H:%M:%S.%N" ++ "0"
  | 'X' => formatTime z instant "%H:%M:%S.%N" ++ "0"
  | c => Clock.write .plain z instant (String.ofList ['%', c])

/-- a property of a file -/
def property (v : Visit) (letter more : Char) : Walk OctetText := do
  let s := v.status
  let z ← localZone
  let usualTime := formatTime z s.modified "%a %b %e %H:%M:%S.%N" ++ "0"
    ++ formatTime z s.modified " %Y"
  match letter with
  | 'p' => pure v.path
  | 'f' => pure (lastComponent v.path)
  | 'h' => pure (leading v.path)
  | 'P' => pure (pathBelow v)
  | 'H' => pure v.start
  | 'd' => pure (toString v.depth)
  | 's' => pure (toString s.size)
  | 'k' => pure (toString ((FileDescription.blocks s + 1) / 2))
  | 'b' => pure (toString (FileDescription.blocks s))
  | 'm' => pure (FileDescription.octalText s.mode)
  | 'M' => pure (FileDescription.kindLetter s.kind ++ Mode.letters s.mode)
  | 'u' => pure "root"
  | 'g' => pure "root"
  | 'U' => pure "0"
  | 'G' => pure "0"
  | 'i' => pure (toString (s.id + 1))
  | 'n' => pure (toString s.nameCount)
  | 'D' => pure "64768"
  | 'F' => pure "overlay"
  | 'S' => pure "1"
  | 'y' => pure (String.ofList [kindLetterOf s.kind])
  | 'Y' =>
    match ← ask (.status v.path true) with
    | .ok t => pure (String.ofList [kindLetterOf t.kind])
    | .error _ => pure "N"
  | 'l' =>
    match ← ask (.readLink v.path) with
    | .ok target => pure target
    | .error _ => pure ""
  | 't' => pure usualTime
  | 'a' => pure usualTime
  | 'c' => pure usualTime
  | 'T' => pure (timeProperty z s.modified more)
  | 'A' => pure (timeProperty z s.modified more)
  | 'C' => pure (timeProperty z s.modified more)
  | _ => pure ""

/-- a text of a width at least -/
def aligned (flags : List Char) (width : Nat) (text : OctetText) : OctetText :=
  let fill := String.ofList (List.replicate (width - text.length)
    (if flags.contains '0' && !flags.contains '-' then '0' else ' '))
  if flags.contains '-' then text ++ fill else fill ++ text

/-! ### output -/

/-- writes what an action shows -/
def putOn (output : Nat) (text : OctetText) : Walk Unit := do
  if output = 1 then put text
  else
    let _ ← ask (.write output text)

def putFormat (v : Visit) (output : Nat) : List FormatPart → Walk Unit
  | [] => pure ()
  | .stop :: _ => flush
  | .text t :: rest => do
    putOn output t
    putFormat v output rest
  | .property flags width letter more :: rest => do
    let text ← property v letter more
    putOn output (aligned flags width text)
    putFormat v output rest

/-- the line of `ls` for a file -/
def listLine (z : Clock.Zone) (v : Visit) (now : Int) (target : Option OctetText) : OctetText :=
  let s := v.status
  let right (n : Nat) (t : OctetText) : OctetText := aligned [] n t
  let left (n : Nat) (t : OctetText) : OctetText := aligned ['-'] n t
  let halfYear : Int := 31556952 / 2 * Clock.nanosPerSecond
  let time := formatTime z s.modified
    (if now - halfYear < s.modified && s.modified ≤ now then "%b %e %H:%M" else "%b %e  %Y")
  right 9 (toString (s.id + 1)) ++ " " ++ right 6 (toString ((FileDescription.blocks s + 1) / 2))
    ++ " " ++ FileDescription.kindLetter s.kind ++ Mode.letters s.mode ++ " "
    ++ right 3 (toString s.nameCount) ++ " " ++ left 8 "root" ++ " " ++ left 8 "root" ++ " "
    ++ right 8 (toString s.size) ++ " " ++ time ++ " " ++ v.path
    ++ (match target with
      | some t => " -> " ++ t
      | none => "")
    ++ "\n"

/-- a message about a failure -/
def complain (message : OctetText) : Walk Unit := do
  note message
  modify ({ · with failed := true })

/-! ### commands -/

/-- the directory in which a command for a file runs -/
def directoryFor (inDirectory : Bool) (path : OctetText) : Option OctetText :=
  if !inDirectory then none
  else
    let cs := (path.toList.reverse.dropWhile (· == '/'))
    if cs.contains '/' then
      some (match (cs.dropWhile (· != '/')).dropWhile (· == '/') with
        | [] => "/"
        | rest => String.ofList rest.reverse)
    else some "."

/-- the name by which a command gets a file -/
def nameFor (inDirectory : Bool) (path : OctetText) : OctetText :=
  if inDirectory then
    let base := lastComponent path
    if base.startsWith "/" then base else "./" ++ base
  else path

/-- runs a command; the answer is whether it succeeds -/
def runCommand (directory : Option OctetText) (args : List OctetText) : Walk Bool := do
  flush
  let vars := (← (MonadState.get : Work Progress)).vars
  let child ← startChild do
    match directory with
    | some d =>
      let _ ← ask (.changeDirectory d)
    | none => pure ()
    becomeCommand args vars fun e => note (quoted (args.headD "") ++ ": " ++ faultText e)
  match ← awaitChild child with
  | .exited code => pure (code == 0)
  | .killed signal => do
    complain (quoted (args.headD "") ++ " terminated by signal " ++ toString signal)
    pure false

/-- runs a command for the files that have been taken -/
def runCollected (c : Collector) : Walk Unit := do
  let paths := ((← get).collected.filter (·.1 == c.number)).reverse.map Prod.snd
  modify fun s => { s with collected := s.collected.filter (·.1 != c.number) }
  if !paths.isEmpty then
    let directory := directoryFor c.inDirectory (paths.headD "")
    let args := c.args ++ paths.map (nameFor c.inDirectory)
    if !(← runCommand directory args) then modify ({ · with failed := true })

/-- a question on whether a command is to run -/
def allows (args : List OctetText) (path : OctetText) : Walk Bool := do
  putMessage ("< " ++ args.headD "" ++ " ... " ++ path ++ " > ? ")
  return match ← nextAnswer? streamFuel with
    | some answer => answer.startsWith "y" || answer.startsWith "Y"
    | none => false

/-! ### the expression -/

def matchesPattern (p : Script.Pattern) (folds : Bool) (text : OctetText) : Bool :=
  p.matchesText (if folds then text.toList.map Char.toLower else text.toList)

/-- whether a file or directory is empty -/
def isEmpty (v : Visit) : Walk Bool := do
  match v.status.kind with
  | .file => return v.status.size == 0
  | .directory =>
    match ← ask (.names v.path) with
    | .ok names => pure names.isEmpty
    | .error _ => pure false
  | _ => pure false

/-- removes a file -/
def delete (v : Visit) : Walk Bool := do
  if v.path = "." then pure true
  else
    let answer ← if v.own.kind = .directory then ask (.removeDirectory v.path)
      else ask (.remove v.path)
    match answer with
    | .ok _ => pure true
    | .error e => do
      complain ("cannot delete " ++ quoted v.path ++ ": " ++ faultText e)
      pure false

/-- whether a test or an action holds of a file -/
def holds (v : Visit) : Primary → Walk Bool
  | .name p folds => pure (matchesPattern p folds (lastComponent v.path))
  | .path p folds => pure (matchesPattern p folds v.path)
  | .linkTarget p folds => do
    match ← ask (.readLink v.path) with
    | .ok target => pure (v.status.kind = .link && matchesPattern p folds target)
    | .error _ => pure false
  | .described r =>
    pure ((Regex.longest? r (fun _ stop => stop.rest.isEmpty)
      ⟨[], v.path.toList, 0, []⟩).isSome)
  | .kind letters => pure (letters.contains (kindLetterOf v.status.kind))
  | .targetKind letters => do
    match ← ask (.status v.path true) with
    | .ok s => pure (letters.contains (kindLetterOf s.kind))
    | .error _ => pure (letters.contains 'l')
  | .size c unit => pure (c.holds ((v.status.size + unit - 1) / unit))
  | .empty => isEmpty v
  | .newer instant => pure (decide (instant < v.status.modified))
  | .age c unit start =>
    let passed := start - v.status.modified
    pure (match c with
      | .exactly n => Int.fdiv passed unit == n
      | .below n => decide (Int.fdiv passed unit < n)
      | .above n => decide ((n : Int) < Int.fdiv passed unit))
  | .permissions test bits =>
    let mode := v.status.mode
    pure (match test with
      | .exactly => mode == bits
      | .allOf => mode &&& bits == bits
      | .anyOf => bits == 0 || mode &&& bits != 0)
  | .owner c => pure (c.holds 0)
  | .links c => pure (c.holds v.status.nameCount)
  | .inode c => pure (c.holds (v.status.id + 1))
  | .sameAs id => pure (v.status.id == id)
  | .permitted bits => pure (v.status.permits bits)
  | .always b => pure b
  | .prune => do
    modify ({ · with pruned := true })
    pure true
  | .quit => do
    modify ({ · with over_ := true })
    pure true
  | .delete => delete v
  | .print output ending => do
    putOn output (v.path ++ ending)
    pure true
  | .format output parts => do
    putFormat v output parts
    pure true
  | .list output => do
    let now ← ask .now
    let target ← ask (.readLink v.path)
    putOn output (listLine (← localZone) v now (if v.status.kind = .link then target.toOption else none))
    pure true
  | .execute args inDirectory asks => do
    let name := nameFor inDirectory v.path
    let args := args.map fun a => a.replace "\x7b\x7d" name
    let allowed ← if asks then allows args v.path else pure true
    if allowed then runCommand (directoryFor inDirectory v.path) args else pure false
  | .collect number _ _ => do
    modify fun s => { s with collected := (number, v.path) :: s.collected }
    pure true

/-- whether an expression holds of a file; what comes behind the end of the tour is left out -/
def evaluate (v : Visit) : Expression → Walk Bool
  | .primary p => holds v p
  | .not e => do
    let b ← evaluate v e
    pure !b
  | .and a b => do
    let first ← evaluate v a
    if !first || (← get).over_ then pure false else evaluate v b
  | .or a b => do
    let first ← evaluate v a
    if first || (← get).over_ then pure true else evaluate v b
  | .both a b => do
    let _ ← evaluate v a
    if (← get).over_ then pure false else evaluate v b

/-! ### the tour -/

/-- more levels than directories have -/
def depthLimit : Nat := 4000

/-- visits a file and what is below it -/
def visit (tour : Tour) (e : Expression) (collectors : List Collector) (start : OctetText) :
    (fuel : Nat) → (depth : Nat) → (path : OctetText) → Walk Unit
  | 0, _, _ => pure ()
  | fuel + 1, depth, path => do
    if (← get).over_ then pure ()
    else
      let follows := tour.followsAll || (tour.followsFirst && depth = 0)
      let own ← match ← ask (.status path false) with
        | .ok s => pure (some s)
        | .error fault =>
          if fault = .accessDenied && 0 < depth then
            pure (some ⟨0, Machine.FileKind.file, 0, 0, 0, 0⟩)
          else do
            complain (quoted path ++ ": " ++ faultText fault)
            pure none
      match own with
      | none => pure ()
      | some own => do
        let status ← if follows then do
            match ← ask (.status path true) with
            | .ok s => pure s
            | .error _ => pure own
          else pure own
        let v : Visit := ⟨path, start, depth, status, own⟩
        let isWanted := tour.minDepth ≤ depth
        if isWanted && !tour.depthFirst then do
          modify ({ · with pruned := false })
          let _ ← evaluate v e
        let pruned := (← get).pruned && isWanted && !tour.depthFirst
        modify ({ · with pruned := false })
        let descends := status.kind = .directory && !pruned
          && (match tour.maxDepth with
            | some n => decide (depth < n)
            | none => true)
        if descends && !(← get).over_ then
          match ← ask (.names path) with
          | .ok _ => pure ()
          | .error fault => complain (quoted path ++ ": " ++ faultText fault)
          let names ← namesByAge path
          names.forM fun name => visit tour e collectors start fuel (depth + 1) (joinPath path name)
          collectors.forM fun c => if c.inDirectory then runCollected c else pure ()
        if isWanted && tour.depthFirst && !(← get).over_ then
          let _ ← evaluate v e

end ShellWorkers.Utility.Finding

/-!
## Finding files

`find` visits the files below its starting points and asks an expression about each.
-/

namespace ShellWorkers.Utility

open Machine
open Text (OctetText)

namespace Finding

/-- the options before the starting points -/
def leadingOptions : (fuel : Nat) → Tour → List OctetText → Tour × List OctetText
  | 0, tour, args => (tour, args)
  | fuel + 1, tour, arg :: args =>
    match arg with
    | "-P" => leadingOptions fuel { tour with followsAll := false, followsFirst := false } args
    | "-L" => leadingOptions fuel { tour with followsAll := true } args
    | "-H" => leadingOptions fuel { tour with followsAll := false, followsFirst := true } args
    | "--" => (tour, args)
    | "-D" => leadingOptions fuel tour (args.drop 1)
    | _ =>
      if arg.startsWith "-O" && arg.length = 3 then leadingOptions fuel tour args
      else (tour, arg :: args)
  | _ + 1, tour, [] => (tour, [])

end Finding

def find (args : List OctetText) : Work Unit := do
  if args.head? == some "--version" || args.head? == some "-version" then do
    putLine "find (GNU findutils) 4.9.0"
    stop 0
  let start : Finding.Tour := ⟨0, none, false, false, false⟩
  let (tour, args) := Finding.leadingOptions (args.length + 1) start args
  let paths := args.takeWhile fun a => !Finding.beginsExpression true a
  let plan ← Finding.readExpression tour (args.drop paths.length)
  let paths := if paths.isEmpty then ["."] else paths
  let walk : Finding.Walk Unit := do
    paths.forM fun path =>
      Finding.visit plan.tour plan.expression plan.collectors path Finding.depthLimit 0 path
    plan.collectors.forM Finding.runCollected
  let (_, s) ← walk.run ⟨false, false, false, []⟩
  if s.failed then setCode 1

end ShellWorkers.Utility
