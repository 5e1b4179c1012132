import ShellWorkers.Machine.Permissions
import ShellWorkers.Utility.Options

/-!
# Paths

Paths as arguments, and the directories and files that are made and removed at them.
-/

/-!
## Paths

The parts of a path, as text alone: `baseOf` and `directoryOf`.  The place that a path stands for,
with all links followed: `placeOf`.  The utilities `basename`, `dirname`, `readlink`, `realpath`,
`pwd` and `pathchk` show them.
-/

namespace ShellWorkers.Utility

open Machine
open Text (OctetText)

/-! ### the parts of a path -/

/-- the last component of a path; a path of separators alone is one of them -/
def baseOf (path : OctetText) : OctetText :=
  match path.toList.reverse.dropWhile (· == '/') with
  | [] => if path.isEmpty then "" else "/"
  | cs => String.ofList (cs.takeWhile (· != '/')).reverse

/-- what stands before the last component of a path -/
def directoryOf (path : OctetText) : OctetText :=
  let isSlash (c : Char) : Bool := c == '/'
  let before := (path.toList.reverse.dropWhile isSlash).dropWhile (· != '/')
  match before.dropWhile isSlash with
  | [] => if path.startsWith "/" then "/" else "."
  | cs => String.ofList cs.reverse

/-- the path of a name in a directory -/
def joinPath (directory name : OctetText) : OctetText :=
  if directory.endsWith "/" then directory ++ name else directory ++ "/" ++ name

/-- a name without an ending, unless the ending is all of it -/
def withoutEnding (ending name : OctetText) : OctetText :=
  if name.endsWith ending && name.length ≠ ending.length && !name.startsWith "/" then
    String.ofList (name.toList.take (name.length - ending.length))
  else name

/-! ### the place that a path stands for -/

/-- which components have to exist -/
inductive Existing where
  | all
  | allButLast
  | none
  deriving DecidableEq

/-- the path of components, last first -/
def rootedPath (done : List OctetText) : OctetText := "/" ++ "/".intercalate done.reverse

/-- follows components from a place on; the fuel bounds their number -/
def followPlace (existing : Existing) : (fuel links : Nat) → (done rest : List OctetText) →
    Work (Except SystemFault (List OctetText))
  | 0, _, _, _ => pure (.error .tooManyLinks)
  | _ + 1, _, done, [] => pure (.ok done)
  | fuel + 1, links, done, name :: rest =>
    if name = "." then followPlace existing fuel links done rest
    else if name = ".." then followPlace existing fuel links (done.drop 1) rest
    else do
      let isLast := rest.all (· == ".")
      let further := followPlace existing fuel links (name :: done) rest
      match ← ask (.status (rootedPath (name :: done)) false) with
      | .error e =>
        if existing = .none || (existing = .allButLast && isLast && e = .notFound) then further
        else pure (.error e)
      | .ok s =>
        if s.kind = .link then
          match links, ← ask (.readLink (rootedPath (name :: done))) with
          | links + 1, .ok target =>
            followPlace existing fuel links (if target.startsWith "/" then [] else done)
              (FileTree.pathComponents target ++ rest)
          | _, _ => if existing = .none then further else pure (.error .tooManyLinks)
        else if s.kind ≠ .directory && !rest.isEmpty && existing ≠ .none then
          pure (.error .notDirectory)
        else further

/-- the components of the working directory, last first, unless a path starts at the root -/
def startingPlace (path : OctetText) : Work (Except SystemFault (List OctetText)) := do
  if path.startsWith "/" then pure (.ok [])
  else return (← ask .workingDirectory).map fun dir => (FileTree.pathComponents dir).reverse

/-- the place that a path stands for, with all links followed -/
def placeOf (existing : Existing) (path : OctetText) : Work (Except SystemFault OctetText) := do
  if path.isEmpty then pure (.error .notFound)
  else
    match ← startingPlace path with
    | .error e => pure (.error e)
    | .ok done => do
      let fuel := FileTree.pathLimit * (FileTree.linkLimit + 1)
      return (← followPlace existing fuel FileTree.linkLimit done
        (FileTree.pathComponents path)).map rootedPath

/-- the place that a path stands for by its text alone -/
def plainPlace (done : List OctetText) (path : OctetText) : OctetText :=
  rootedPath ((FileTree.pathComponents path).foldl (fun done name =>
    if name = "." then done else if name = ".." then done.drop 1 else name :: done) done)

/-- how a place is reached from another one, both seen from the root -/
def relativePath (source target : OctetText) : OctetText :=
  let rec shared : List OctetText → List OctetText → Nat
    | a :: as, b :: bs => if a = b then shared as bs + 1 else 0
    | _, _ => 0
  let from_ := FileTree.pathComponents source
  let onto := FileTree.pathComponents target
  let n := shared from_ onto
  let parts := List.replicate (from_.length - n) ".." ++ onto.drop n
  if parts.isEmpty then "." else "/".intercalate parts

/-- whether a place lies below another one -/
def isWithin (ancestor place : OctetText) : Bool :=
  ancestor == "/" || place == ancestor || place.startsWith (ancestor ++ "/")

/-! ### basename and dirname -/

/-- what ends an item of a list -/
def endOf (a : Arguments) : OctetText := if a.has "z" then "\x00" else "\n"

def basenameOptions : OptionTable where
  letters := "as:z"
  names := [("multiple", .nothing, "a"), ("suffix", .value, "s"), ("zero", .nothing, "z")]
  strict := true

def basename (args : List OctetText) : Work Unit := do
  let a ← readArguments basenameOptions 1 args
  let write (ending path : OctetText) : Work Unit :=
    put (withoutEnding ending (baseOf path) ++ endOf a)
  match a.operands with
  | [] => missingOperand
  | paths =>
    if a.has "a" || a.has "s" then paths.forM (write ((a.value? "s").getD ""))
    else
      match paths with
      | _ :: _ :: extra :: _ => extraOperand extra
      | [path, ending] => write ending path
      | paths => paths.forM (write "")

def dirnameOptions : OptionTable where
  letters := "z"
  names := [("zero", .nothing, "z")]
  strict := false

def dirname (args : List OctetText) : Work Unit := do
  let a ← readArguments dirnameOptions 1 args
  if a.operands.isEmpty then missingOperand
  a.operands.forM fun path => put (directoryOf path ++ endOf a)

/-! ### readlink and realpath -/

def readlinkOptions : OptionTable where
  letters := "efmnqsvz"
  names := [("canonicalize", .nothing, "f"), ("canonicalize-existing", .nothing, "e"),
    ("canonicalize-missing", .nothing, "m"), ("no-newline", .nothing, "n"),
    ("quiet", .nothing, "q"), ("silent", .nothing, "q"), ("verbose", .nothing, "v"),
    ("zero", .nothing, "z")]
  strict := false

/-- which components have to exist by an option -/
def existingOf (option : OctetText) : Existing :=
  match option with
  | "e" => .all
  | "m" => .none
  | _ => .allButLast

def readlink (args : List OctetText) : Work Unit := do
  let a ← readArguments readlinkOptions 1 args
  if a.operands.isEmpty then missingOperand
  let isBare := a.has "n" && a.operands.length = 1
  if a.has "n" && !isBare then note "ignoring --no-newline with multiple arguments"
  let speaks := a.last? ["q", "s", "v"] == some "v"
  for path in a.operands do
    let found ← match a.last? ["e", "f", "m"] with
      | some option => placeOf (existingOf option) path
      | none => ask (.readLink path)
    match found with
    | .ok text => put (if isBare then text else text ++ endOf a)
    | .error e => if speaks then warn (named path ++ ": " ++ faultText e) else setCode 1

def realpathOptions : OptionTable where
  letters := "eLmPqsz"
  names := [("canonicalize-existing", .nothing, "e"), ("canonicalize-missing", .nothing, "m"),
    ("relative-to", .value, "to"), ("relative-base", .value, "base"), ("quiet", .nothing, "q"),
    ("strip", .nothing, "s"), ("no-symlinks", .nothing, "s"), ("zero", .nothing, "z"),
    ("logical", .nothing, "L"), ("physical", .nothing, "P")]
  strict := false

/-- the place of a path whose links stay as they are -/
def plainPlaceOf (existing : Existing) (path : OctetText) :
    Work (Except SystemFault OctetText) := do
  if path.isEmpty then pure (.error .notFound)
  else
    match ← startingPlace path with
    | .error e => pure (.error e)
    | .ok done => do
      let place := plainPlace done path
      match existing, ← ask (.status place true) with
      | .none, _ => pure (.ok place)
      | _, .ok _ => pure (.ok place)
      | .allButLast, .error .notFound => pure (.ok place)
      | _, .error e => pure (.error e)

def realpath (args : List OctetText) : Work Unit := do
  let a ← readArguments realpathOptions 1 args
  if a.operands.isEmpty then missingOperand
  let existing := existingOf ((a.last? ["e", "m"]).getD "f")
  let locate (path : OctetText) : Work (Except SystemFault OctetText) :=
    if a.has "s" then plainPlaceOf existing path else placeOf existing path
  let reference (option : OctetText) : Work (Option OctetText) := do
    match a.value? option with
    | none => pure none
    | some path =>
      match ← locate path with
      | .ok place => pure (some place)
      | .error e => fail (named path ++ ": " ++ faultText e)
  let base ← reference "base"
  let onto ← reference "to"
  let onto := match onto, base with
    | some onto, some base => if isWithin base onto then some onto else none
    | some onto, none => some onto
    | none, base => base
  for path in a.operands do
    match ← locate path with
    | .error e => if a.has "q" then setCode 1 else warn (named path ++ ": " ++ faultText e)
    | .ok place =>
      let isNear := (base.map fun base => isWithin base place).getD true
      put ((match onto with
        | some onto => if isNear then relativePath onto place else place
        | none => place) ++ endOf a)

/-! ### pwd and pathchk -/

def pwdOptions : OptionTable where
  letters := "LP"
  names := [("logical", .nothing, "L"), ("physical", .nothing, "P")]
  strict := false

/-- whether a path names the working directory without dots -/
def isLogical (path : OctetText) : Work Bool := do
  let isPlain := path.startsWith "/" && (path.splitOn "/").all fun c => c != "." && c != ".."
  match ← ask (.status path true), ← ask (.status "." true) with
  | .ok s, .ok here => return isPlain && s.id == here.id
  | _, _ => return false

def pwd (args : List OctetText) : Work Unit := do
  let a ← readArguments pwdOptions 1 args
  if !a.operands.isEmpty then note "ignoring non-option arguments"
  let told := ((← get).vars.lookup "PWD").getD ""
  let isTold ← if a.last? ["L", "P"] == some "L" then isLogical told else pure false
  if isTold then putLine told
  else
    match ← ask .workingDirectory with
    | .ok dir => putLine dir
    | .error e => fail ("couldn't find directory entry in '..' with matching i-node: " ++ faultText e)

def pathchkOptions : OptionTable where
  letters := "pP"
  names := [("portability", .nothing, "p")]
  strict := false

/-- whether a character may stand in a name everywhere -/
def isPortable (c : Char) : Bool := c.isAlphanum || ['.', '_', '-', '/'].contains c

def pathchk (args : List OctetText) : Work Unit := do
  let a ← readArguments pathchkOptions 1 args
  if a.operands.isEmpty then missingOperand
  for path in a.operands do
    let names := FileTree.pathComponents path
    if a.has "P" && names.any fun name => name.startsWith "-" then
      warn ("leading '-' in a component of file name " ++ quoted path)
    else if (a.has "p" || a.has "P") && path.isEmpty then warn "empty file name"
    else
      match path.toList.find? fun c => a.has "p" && !isPortable c with
      | some c =>
        warn ("non-portable character " ++ quoted (String.ofList [c]) ++ " in file name "
          ++ quoted path)
      | none =>
        let limit := if a.has "p" then 14 else FileTree.nameLimit
        match names.find? fun name => limit < name.length with
        | some name =>
          warn ("limit " ++ toString limit ++ " exceeded by length " ++ toString name.length
            ++ " of file name component " ++ quoted name)
        | none =>
          if !a.has "p" then
            match ← ask (.status path false) with
            | .ok _ => pure ()
            | .error e => if e ≠ .notFound || path.isEmpty then warn (named path ++ ": " ++ faultText e)

end ShellWorkers.Utility

/-!
## Making and removing directories, and removing files

`mkdir` makes directories, with those above them if asked to; `rmdir` removes empty ones; `rm`
removes files, and directories with all they hold, and may ask before it does.  `unlink` removes
one name.
-/

namespace ShellWorkers.Utility

open Machine
open Text (OctetText)

/-! ### mkdir -/

/-- the beginnings of a path that end with its components -/
def beginningsOf (path : OctetText) : List OctetText :=
  let parts := path.splitOn "/"
  let whole := (List.range parts.length).map fun n => "/".intercalate (parts.take (n + 1))
  (whole.zip parts).filterMap fun (before, part) => if part.isEmpty then none else some before

/-- how directories are made -/
structure DirectoryStyle where
  /-- the permissions they get in spite of the mask -/
  mode : Option Nat
  parents : Bool
  verbose : Bool

/-- makes one directory; its permissions are those that are asked for if it is the last one -/
def makeOne (k : DirectoryStyle) (isLast : Bool) (path : OctetText) :
    Work (Except SystemFault Unit) := do
  match ← ask (.makeDirectory path 0o777) with
  | .error e => pure (.error e)
  | .ok _ => do
    if k.verbose then put ((← get).name ++ ": created directory " ++ shellQuoted path ++ "\n")
    match isLast, k.mode with
    | true, some mode =>
      let _ ← ask (.setMode path mode)
    | _, _ => pure ()
    pure (.ok ())

def cannotMake (path : OctetText) (e : SystemFault) : Work Unit :=
  warn ("cannot create directory " ++ shellQuoted path ++ ": " ++ faultText e)

/-- makes a directory with those above it; those that exist are left alone -/
def makeWithParents (k : DirectoryStyle) : List OctetText → Work Unit
  | [] => pure ()
  | path :: paths => do
    match ← ask (.status path true) with
    | .ok s =>
      if s.kind = .directory then makeWithParents k paths
      else cannotMake path (if paths.isEmpty then .fileExists else .notDirectory)
    | .error _ =>
      match ← makeOne k paths.isEmpty path with
      | .ok _ => makeWithParents k paths
      | .error e => cannotMake path e

def mkdirOptions : OptionTable where
  letters := "m:pvZ"
  names := [("mode", .value, "m"), ("parents", .nothing, "p"), ("verbose", .nothing, "v")]
  strict := false

/-- the permissions that an argument describes, or the end of the utility -/
def modeOrFail (isDirectory : Bool) (mode : Nat) (text : OctetText) : Work Nat := do
  let mask ← ask (.setMask none)
  match Mode.change? isDirectory mask text mode with
  | some mode => pure mode
  | none => fail ("invalid mode " ++ quoted text)

def mkdir (args : List OctetText) : Work Unit := do
  let a ← readArguments mkdirOptions 1 args
  if a.operands.isEmpty then missingOperand
  let mode ← match a.value? "m" with
    | some text => some <$> modeOrFail true 0o777 text
    | none => pure none
  let k : DirectoryStyle := ⟨mode, a.has "p", a.has "v"⟩
  for path in a.operands do
    if k.parents && !path.isEmpty then makeWithParents k (beginningsOf path)
    else
      match ← makeOne k true path with
      | .ok _ => pure ()
      | .error e => cannotMake path e

/-! ### rmdir -/

def rmdirOptions : OptionTable where
  letters := "pv"
  names := [("parents", .nothing, "p"), ("verbose", .nothing, "v"),
    ("ignore-fail-on-non-empty", .nothing, "i")]
  strict := false

/-- removes a directory; whether it is gone -/
def removeOne (a : Arguments) (what path : OctetText) : Work Bool := do
  if a.has "v" then
    put ((← get).name ++ ": removing directory, " ++ shellQuoted path ++ "\n")
  match ← ask (.removeDirectory path) with
  | .ok _ => pure true
  | .error e => do
    if !(a.has "i" && e = .notEmpty) then
      warn ("failed to remove " ++ what ++ shellQuoted path ++ ": " ++ faultText e)
    pure false

/-- removes the directories above a path, up to one that cannot be removed -/
def removeAbove (a : Arguments) : (fuel : Nat) → OctetText → Work Unit
  | 0, _ => pure ()
  | fuel + 1, path => do
    let above := directoryOf path
    if above ≠ "." && above ≠ "/" then
      if ← removeOne a "directory " above then removeAbove a fuel above

def rmdir (args : List OctetText) : Work Unit := do
  let a ← readArguments rmdirOptions 1 args
  if a.operands.isEmpty then missingOperand
  for path in a.operands do
    if ← removeOne a "" path then
      if a.has "p" then removeAbove a path.length (FileTree.withoutSlashes path)

/-! ### rm -/

/-- how files are removed -/
structure RemovalStyle where
  recursive : Bool
  /-- empty directories are removed too -/
  directories : Bool
  /-- what does not exist is no fault -/
  force : Bool
  asks : Bool
  verbose : Bool

/-- the kind of a file in words -/
def kindText (s : FileStatus) : OctetText :=
  match s.kind with
  | .file => if s.size = 0 then "regular empty file" else "regular file"
  | .directory => "directory"
  | .link => "symbolic link"
  | .device => "character special file"
  | .queue => "fifo"

/-- the names in a directory in the order in which the files were made -/
def namesByAge (path : OctetText) : Work (List OctetText) := do
  match ← ask (.names path) with
  | .error _ => pure []
  | .ok names => do
    let found ← names.mapM fun name => do
      match ← ask (.status (joinPath path name) false) with
      | .ok s => pure (s.id, name)
      | .error _ => pure (0, name)
    pure ((found.mergeSort fun a b => a.1 ≤ b.1).map Prod.snd)

def cannotRemove (path : OctetText) (e : SystemFault) : Work Bool := do
  warn ("cannot remove " ++ shellQuoted path ++ ": " ++ faultText e)
  pure false

/-- removes a name, if that is agreed to; whether it is gone.  A directory that could not be read is
not said to be full -/
def removeName (k : RemovalStyle) (path : OctetText) (s : FileStatus)
    (unread : Option SystemFault) : Work Bool := do
  let isDirectory := s.kind = .directory
  let agreed ← if k.asks then
      agrees ("remove " ++ kindText s ++ " " ++ shellQuoted path)
    else pure true
  if !agreed then pure false
  else
    match ← (if isDirectory then ask (.removeDirectory path) else ask (.remove path)) with
    | .error e => cannotRemove path (if e = .notEmpty then unread.getD e else e)
    | .ok _ => do
      if k.verbose then
        putLine ((if isDirectory then "removed directory " else "removed ") ++ shellQuoted path)
      pure true

/-- removes a file, or a directory with all it holds; whether it is gone -/
def removeTree (k : RemovalStyle) : (fuel : Nat) → (path : OctetText) → Work Bool
  | 0, _ => pure false
  | fuel + 1, path => do
    match ← ask (.status path false) with
    | .error e =>
      if k.force && (e = .notFound || e = .notDirectory) then pure true else cannotRemove path e
    | .ok s =>
      if s.kind ≠ .directory then removeName k path s none
      else if !k.recursive then
        if !k.directories then cannotRemove path .isDirectory
        else
          match ← ask (.names path) with
          | .ok [] => removeName k path s none
          | _ => cannotRemove path .notEmpty
      else do
        let unread := match ← ask (.names path) with
          | .ok _ => none
          | .error e => some e
        let names ← namesByAge path
        let agreed ← if k.asks && !names.isEmpty then
            agrees ("descend into directory " ++ shellQuoted path)
          else pure true
        if !agreed then pure false
        else do
          let gone ← names.mapM fun name => removeTree k fuel (joinPath path name)
          if gone.all id then removeName k path s unread else pure false

/-- removes an operand, unless it would take the ground from under the feet -/
def removeOperand (k : RemovalStyle) (path : OctetText) : Work Unit := do
  let isDots := [".", ".."].contains (FileTree.lastName path)
  if k.recursive && FileTree.withoutSlashes path = "/" then do
    warn "it is dangerous to operate recursively on '/'"
    note "use --no-preserve-root to override this failsafe"
  else
    let exists_ := (← ask (.status path false)).isOk
    if k.recursive && isDots && exists_ then
      warn ("refusing to remove '.' or '..' directory: skipping " ++ shellQuoted path)
    else
      let _ ← removeTree k FileTree.pathLimit path

def rmOptions : OptionTable where
  letters := "dfirvIR"
  names := [("force", .nothing, "f"), ("interactive", .maybe, "interactive"),
    ("recursive", .nothing, "r"), ("dir", .nothing, "d"), ("verbose", .nothing, "v"),
    ("one-file-system", .nothing, "one"), ("no-preserve-root", .nothing, "root"),
    ("preserve-root", .maybe, "root")]
  strict := false

/-- a value that is none of those that an option takes -/
def invalidValue {α : Type} (name value : OctetText) (valid : List (List OctetText)) : Work α := do
  note ("invalid argument " ++ quoted value ++ " for " ++ quoted ("--" ++ name))
  putMessage "Valid arguments are:\n"
  valid.forM fun names => putMessage ("  - " ++ ", ".intercalate (names.map quoted) ++ "\n")
  putMessage ("Try '" ++ (← get).name ++ " --help' for more information.\n")
  stop 1

/-- when questions are asked: `i` for each file, `I` once, `f` never -/
def questionsOf (a : Arguments) : Work OctetText := do
  let given ← a.options.filterMapM fun (option, value?) => do
    match option, value? with
    | "interactive", none => pure (some "i")
    | "interactive", some value =>
      if ["always", "yes"].contains value then pure (some "i")
      else if value == "once" then pure (some "I")
      else if ["never", "no", "none"].contains value then pure (some "never")
      else invalidValue "interactive" value [["never", "no", "none"], ["once"], ["always", "yes"]]
    | option, _ => pure (if ["i", "I", "f"].contains option then some option else none)
  pure (given.getLast?.getD "never")

/-- says how a file is removed whose name looks like an option -/
def hintAtNames : List OctetText → Work Unit
  | [] => pure ()
  | arg :: args => do
    let exists_ := (← ask (.status arg false)).isOk
    if arg.startsWith "-" && exists_ then
      let name := (← get).name
      putMessage ("Try '" ++ name ++ " " ++ named ("./" ++ arg) ++ "' to remove the file "
        ++ shellQuoted arg ++ ".\n")
    else hintAtNames args

def rm (args : List OctetText) : Work Unit := do
  let a ← match Arguments.read rmOptions args with
    | .ok a => if a.has OptionTable.version then tellVersion else pure a
    | .error message => do
      note message
      hintAtNames args
      putMessage ("Try '" ++ (← get).name ++ " --help' for more information.\n")
      stop 1
  let questions ← questionsOf a
  let recursive := a.has "r" || a.has "R"
  let force := questions == "f"
  let count := a.operands.length
  if count = 0 then
    if !force then missingOperand
  else do
    let agreed ← if questions == "I" && (recursive || 3 < count) then
        agrees ("remove " ++ toString count ++ (if count = 1 then " argument" else " arguments")
          ++ (if recursive then " recursively" else ""))
      else pure true
    if agreed then
      a.operands.forM
        (removeOperand ⟨recursive, a.has "d", force, questions == "i", a.has "v"⟩)

/-! ### unlink -/

def plainOptions : OptionTable := ⟨"", [], false⟩

def unlink (args : List OctetText) : Work Unit := do
  let a ← readArguments plainOptions 1 args
  match a.operands with
  | [] => missingOperand
  | [path] =>
    match ← ask (.remove path) with
    | .ok _ => pure ()
    | .error e => fail ("cannot unlink " ++ shellQuoted path ++ ": " ++ faultText e)
  | _ :: extra :: _ => extraOperand extra

end ShellWorkers.Utility
