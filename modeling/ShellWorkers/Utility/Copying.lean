import ShellWorkers.Utility.Owners

/-!
# Copying, moving and linking

`cp` copies files, and directories with all they hold; `mv` gives them another name; `ln` gives
them a second one, or makes links; `install` copies files with permissions of their own.  All of
them take several operands and a directory, or two operands, and may keep what was there before
under a backup name.
-/

namespace ShellWorkers.Utility

open Machine
open Text (OctetText)

/-! ## targets -/

/-- where operands go -/
inductive Target where
  /-- under their own names into a directory -/
  | into (directory : OctetText)
  /-- one operand under this name -/
  | as (path : OctetText)

def missingFile {α : Type} : Work α := misused 1 "missing file operand"

def missingDestination {α : Type} (operand : OctetText) : Work α :=
  misused 1 ("missing destination file operand after " ++ shellQuoted operand)

/-- whether a path names a directory, links followed -/
def directoryAt (path : OctetText) : Work (Except SystemFault Unit) := do
  match ← ask (.status path true) with
  | .error e => pure (.error e)
  | .ok s => pure (if s.kind = .directory then .ok () else .error .notDirectory)

/-- the sources and the target among the operands: `t` names a directory, and `T` says that the
last operand is none -/
def readTarget (a : Arguments) : Work (List OctetText × Target) := do
  match a.operands with
  | [] => missingFile
  | operands =>
    match a.value? "t" with
    | some directory => do
      if a.has "T" then
        misused 1 "cannot combine --target-directory (-t) and --no-target-directory (-T)"
      match ← directoryAt directory with
      | .error e => fail ("target directory " ++ shellQuoted directory ++ ": " ++ faultText e)
      | .ok _ => pure (operands, .into directory)
    | none =>
      match operands with
      | [operand] => missingDestination operand
      | operands => do
        let last := operands.getLastD ""
        if a.has "T" then
          match operands.drop 2 with
          | extra :: _ => misused 1 ("extra operand " ++ shellQuoted extra)
          | [] => pure (operands.dropLast, .as last)
        else
          match ← directoryAt last with
          | .ok _ => pure (operands.dropLast, .into last)
          | .error e =>
            if 2 < operands.length then
              fail ("target " ++ shellQuoted last ++ ": " ++ faultText e)
            else pure (operands.dropLast, .as last)

/-- the path that a source gets in a target -/
def Target.pathOf (t : Target) (source : OctetText) : OctetText :=
  match t with
  | .as path => path
  | .into directory =>
    let name := ((FileTree.withoutSlashes source).splitOn "/").getLastD ""
    joinPath directory (if name == ".." then "" else if source == "/" then "" else name)

/-! ## backups -/

/-- how a file that stands in the way is kept -/
inductive Backup where
  | none
  | simple
  | numbered
  /-- with a number if there are such backups of it already -/
  | existing
  deriving DecidableEq

/-- the kind of backup that a word names -/
def backupOf (word : OctetText) : Work Backup :=
  if ["none", "off"].contains word then pure .none
  else if ["simple", "never"].contains word then pure .simple
  else if ["numbered", "t"].contains word then pure .numbered
  else if ["existing", "nil"].contains word then pure .existing
  else do
    note ("invalid argument " ++ quoted word ++ " for " ++ quoted "backup type")
    putMessage "Valid arguments are:\n"
    for names in [["none", "off"], ["simple", "never"], ["existing", "nil"], ["numbered", "t"]] do
      putMessage ("  - " ++ ", ".intercalate (names.map quoted) ++ "\n")
    putMessage ("Try '" ++ (← get).name ++ " --help' for more information.\n")
    stop 1

/-- the kind of backup that the options ask for -/
def readBackup (a : Arguments) : Work Backup := do
  match a.options.reverse.find? fun o => o.1 == "b" || o.1 == "backup" with
  | some (_, some word) => backupOf word
  | some (_, none) => pure .existing
  | none => pure (if a.has "S" then .existing else .none)

/-- the greatest number of a backup of a file -/
def backupNumber (path : OctetText) : Work Nat := do
  let start := baseOf path ++ ".~"
  let names := ((← ask (.names (directoryOf path))).toOption).getD []
  pure (names.foldl (fun n name =>
    if name.startsWith start && name.endsWith "~" then
      match decimal? (String.ofList ((name.toList.drop start.length).dropLast)) with
      | some m => if n < m then m else n
      | none => n
    else n) 0)
where
  decimal? (text : OctetText) : Option Nat :=
    if !text.isEmpty && text.toList.all Char.isDigit then text.toNat? else none

/-- the name under which a file is kept -/
def backupName (kind : Backup) (ending path : OctetText) : Work OctetText := do
  let n ← backupNumber path
  if kind = .numbered || (kind = .existing && n ≠ 0) then
    pure (path ++ ".~" ++ toString (n + 1) ++ "~")
  else pure (path ++ ending)

/-- keeps what is at a path under another name, and answers the name -/
def keepBackup (a : Arguments) (path : OctetText) : Work (Option OctetText) := do
  match ← readBackup a with
  | .none => pure none
  | kind => do
    let name ← backupName kind ((a.value? "S").getD "~") path
    match ← ask (.rename path name) with
    | .ok _ => pure (some name)
    | .error _ => pure none

/-- what is said of a backup -/
def backupText (backup : Option OctetText) : OctetText :=
  match backup with
  | some name => " (backup: " ++ shellQuoted name ++ ")"
  | none => ""

/-! ## what is overwritten -/

/-- what is done about a file that stands in the way -/
inductive Overwriting where
  | always
  | never
  | asked
  deriving DecidableEq

/-- what the last of some options says about files that are there -/
def overwritingOf (a : Arguments) (options : List OctetText) : Overwriting :=
  match a.last? options with
  | some "n" => .never
  | some "i" => .asked
  | _ => .always

/-- whether a file may be replaced by a source -/
def mayReplace (a : Arguments) (way : Overwriting) (source target : FileStatus) (path : OctetText) : Work Bool := do
  let isNewer := target.modified < source.modified
  if a.has "u" && source.kind ≠ .directory && !isNewer then pure false
  else
    match way with
    | .never => pure false
    | .asked =>
      if source.kind = .directory then pure true else agrees ("overwrite " ++ shellQuoted path)
    | .always => pure true

/-- whether a file of one kind cannot take the place of another; a message says why -/
def clashes (source : FileStatus) (target : FileStatus) (from_ onto : OctetText) : Work Bool := do
  if source.kind = .directory && target.kind ≠ .directory then
    warn ("cannot overwrite non-directory " ++ shellQuoted onto ++ " with directory "
      ++ shellQuoted from_)
    pure true
  else if source.kind ≠ .directory && target.kind = .directory then
    warn ("cannot overwrite directory " ++ shellQuoted onto ++ " with non-directory")
    pure true
  else pure false

def sameFile (source target : OctetText) : Work Unit :=
  warn (shellQuoted source ++ " and " ++ shellQuoted target ++ " are the same file")

/-! ## cp -/

/-- which links are followed -/
inductive Following where
  | never
  | operands
  | always
  deriving DecidableEq

structure CopyStyle where
  arguments : Arguments
  recursive : Bool
  following : Following
  keepsMode : Bool
  keepsTimes : Bool
  keepsNames : Bool

namespace CopyStyle

def ofArguments (a : Arguments) : CopyStyle :=
  let recursive := a.has "r" || a.has "R" || a.has "a"
  let kept := (a.values "preserve").flatMap fun words =>
    if words.isEmpty then ["mode", "timestamps"] else words.splitOn ","
  let keeps (word : OctetText) : Bool := kept.contains word || kept.contains "all"
  { arguments := a
    recursive := recursive
    following := match a.last? ["P", "d", "a", "L", "H"] with
      | some "L" => .always
      | some "H" => .operands
      | some _ => .never
      | none => if recursive then .never else .always
    keepsMode := a.has "p" || a.has "a" || keeps "mode"
    keepsTimes := a.has "p" || a.has "a" || keeps "timestamps"
    keepsNames := a.has "d" || a.has "a" || keeps "links" }

end CopyStyle

/-- what has been copied: the sources with their names and the files that were made of them -/
structure Copied where
  sources : List (OctetText × NodeId)
  /-- sources with the paths of their copies -/
  made : List (NodeId × OctetText)
  /-- files that were made -/
  targets : List NodeId

/-- writes an open file to another -/
def pour (from_ onto : Nat) : (fuel : Nat) → Work (Except SystemFault Unit)
  | 0 => pure (.ok ())
  | fuel + 1 => do
    match ← ask (.read from_ pieceSize) with
    | .error e => pure (.error e)
    | .ok text =>
      if text.isEmpty then pure (.ok ())
      else
        match ← ask (.write onto text) with
        | .error e => pure (.error e)
        | .ok _ => pour from_ onto fuel

/-- opens the file that a copy is written to -/
def openCopy (a : Arguments) (exists_ : Bool) (mode : Nat) (target : OctetText) :
    Work (Except SystemFault Nat) := do
  let permissions := mode &&& 0o777
  if exists_ then
    match ← ask (.openFile target ⟨false, true, false, false, true, false⟩ permissions) with
    | .ok fd => pure (.ok fd)
    | .error e =>
      if a.has "f" then
        let _ ← ask (.remove target)
        ask (.openFile target .createNew permissions)
      else pure (.error e)
  else ask (.openFile target .createNew permissions)

/-- says that a file is copied -/
def announce (source target : OctetText) (backup : Option OctetText) : Work Unit :=
  putLine (shellQuoted source ++ " -> " ++ shellQuoted target ++ backupText backup)

def cannotCreate (what target : OctetText) (e : SystemFault) : Work Unit :=
  warn ("cannot create " ++ what ++ " " ++ shellQuoted target ++ ": " ++ faultText e)

/-- copies the content of a file; whether that was done -/
def copyContent (k : CopyStyle) (s : FileStatus) (exists_ : Bool) (source target : OctetText) :
    Work Bool := do
  match ← ask (.openFile source .read 0) with
  | .error e => do
    warn ("cannot open " ++ shellQuoted source ++ " for reading: " ++ faultText e)
    pure false
  | .ok from_ => do
    let isDangling := !exists_ && (← ask (.status target false)).isOk
    if isDangling then do
      warn ("not writing through dangling symlink " ++ shellQuoted target)
      closeFile from_
      pure false
    else
      let opened := if !exists_ && target.endsWith "/" then pure (.error .notDirectory)
        else openCopy k.arguments exists_ s.mode target
      match ← opened with
      | .error e => do
        cannotCreate "regular file" target e
        closeFile from_
        pure false
      | .ok onto => do
        let result ← pour from_ onto streamFuel
        closeFile from_
        closeFile onto
        match result with
        | .ok _ => pure true
        | .error e => do
          warn ((if e = .fileTooLarge then
              "error copying " ++ shellQuoted source ++ " to " ++ shellQuoted target
            else "error writing " ++ shellQuoted target) ++ ": " ++ faultText e)
          pure false

/-- gives a copy the permissions and times that are kept -/
def keepAttributes (k : CopyStyle) (s : FileStatus) (target : OctetText) : Work Unit := do
  if k.keepsTimes then
    let _ ← ask (.setModified target (s.kind ≠ .link) s.modified)
  if k.keepsMode && s.kind ≠ .link then
    let _ ← ask (.setMode target s.mode)

/-- makes a link in place of a copy; whether that was done -/
def linkInstead (k : CopyStyle) (source target : OctetText) : Work Bool := do
  if k.arguments.has "s" then
    if !source.startsWith "/" && target.contains '/' && directoryOf target ≠ "." then do
      warn (named target ++ ": can make relative symbolic links only in current directory")
      pure false
    else
      match ← ask (.makeLink source target) with
      | .ok _ => pure true
      | .error e => do
        warn ("cannot create symbolic link " ++ shellQuoted target ++ " to "
          ++ shellQuoted source ++ ": " ++ faultText e)
        pure false
  else
    match ← ask (.addName source target) with
    | .ok _ => pure true
    | .error e => do
      warn ("cannot create hard link " ++ shellQuoted target ++ " to " ++ shellQuoted source
        ++ ": " ++ faultText e)
      pure false

/-- what has been made at a path is remembered -/
def remember (source : FileStatus) (target : OctetText) (c : Copied) : Work Copied := do
  match ← ask (.status target false) with
  | .ok t => pure { c with made := (source.id, target) :: c.made, targets := t.id :: c.targets }
  | .error _ => pure c

/-- copies a directory: `below` copies what a name in it stands for, and `isThere` says that the
copy exists -/
def copyDirectory (k : CopyStyle) (below : OctetText → Copied → Work Copied) (isThere : Bool)
    (source target : OctetText) (s : FileStatus) (c : Copied) : Work Copied := do
  let result ← if isThere then pure (.ok ()) else ask (.makeDirectory target (s.mode ||| 0o700))
  match result with
  | .error e => do
    cannotCreate "directory" target e
    pure c
  | .ok _ => do
    if !isThere && k.arguments.has "v" then announce source target none
    let c ← if isThere then pure c else remember s target c
    let mask ← ask (.setMask none)
    let isNarrow := !isThere && !(Mode.permits s.mode 7 && Mode.permits (Mode.without 0o700 mask) 7)
    if isNarrow then
      let _ ← ask (.setMode target 0o700)
    let c ← (← namesByAge source).foldlM (fun c name => below name c) c
    if isNarrow then
      let _ ← ask (.setMode target (Mode.without s.mode mask))
    if !isThere || k.keepsMode then keepAttributes k s target
    pure c

/-- makes a link to what another one links to; whether that was done -/
def copyLink (k : CopyStyle) (source target : OctetText) (s : FileStatus) : Work Bool := do
  let text := ((← ask (.readLink source)).toOption).getD ""
  match ← ask (.makeLink text target) with
  | .ok _ => do
    keepAttributes k s target
    pure true
  | .error e => do
    cannotCreate "symbolic link" target e
    pure false

/-- copies what is no directory; whether that was done -/
def copyFile (k : CopyStyle) (isThere : Bool) (source target : OctetText) (s : FileStatus)
    (c : Copied) : Work Bool := do
  let a := k.arguments
  match if k.keepsNames && 1 < s.nameCount then c.made.lookup s.id else none with
  | some path => do
    if isThere then
      let _ ← ask (.remove target)
    linkInstead { k with arguments := ⟨[], []⟩ } path target
  | none =>
    if a.has "s" || a.has "l" then linkInstead k source target
    else if s.kind = .link then copyLink k source target s
    else if s.kind = .queue && k.recursive && !a.has "contents" then do
      match ← ask (.makeQueue target (s.mode &&& 0o777)) with
      | .ok _ => pure true
      | .error e => do
        cannotCreate "fifo" target e
        pure false
    else do
      let done ← copyContent k s isThere source target
      if done then keepAttributes k s target
      pure done

/-- Makes way for a copy where something is already: nothing if the copy is not to be made, else
whether what was there is still there, and its backup. -/
def makeWay (k : CopyStyle) (source target : OctetText) (s t : FileStatus) (c : Copied) :
    Work (Option (Bool × Option OctetText)) := do
  let a := k.arguments
  let isDirectory := s.kind = .directory
  let same := s.id == t.id && !isDirectory
  let way := overwritingOf a ["i", "n"]
  if c.targets.contains t.id && !isDirectory && s.kind ≠ .link then do
    warn ("will not overwrite just-created " ++ shellQuoted target ++ " with "
      ++ shellQuoted source)
    pure none
  else if way = .never then pure none
  else if same && !((a.has "f" || a.has "b") && t.kind = .link) then do
    if !a.has "l" then sameFile source target
    pure none
  else if !(← mayReplace a way s t target) then pure none
  else if ← clashes s t source target then pure none
  else do
    let backup ← if isDirectory then pure none else keepBackup a target
    let isReplaced := backup.isNone && !isDirectory
      && (a.has "remove" || s.kind = .link || (a.has "f" && (a.has "s" || a.has "l")))
    if isReplaced then
      let _ ← ask (.remove target)
      if a.has "v" && (a.has "remove" || s.kind = .link) then
        putLine ("removed " ++ shellQuoted target)
    pure (some (backup.isNone && !isReplaced, backup))

/-- whether links to what may be at the place of a copy are not followed -/
def seesLinks (a : Arguments) (s : FileStatus) : Bool :=
  s.kind ≠ .file || ["s", "l", "remove", "b", "backup", "S"].any a.has

/-- Copies a file, or a directory with all it holds.  `above` are the directories that are being
copied, and `top` the operand and its copy. -/
def copyTree (k : CopyStyle) (top : OctetText × OctetText) : (fuel : Nat) →
    (above : List NodeId) → (source target : OctetText) → Copied → Work Copied
  | 0, _, _, _, c => pure c
  | fuel + 1, above, source, target, c => do
    let follows := k.following = .always || (k.following = .operands && above.isEmpty)
    match ← ask (.status source follows) with
    | .error e => do
      warn ("cannot stat " ++ shellQuoted source ++ ": " ++ faultText e)
      pure c
    | .ok s =>
      let isDirectory := s.kind = .directory
      if isDirectory && !k.recursive then do
        warn ("-r not specified; omitting directory " ++ shellQuoted source)
        pure c
      else if above.isEmpty && c.sources.contains (source, s.id) then do
        note ("warning: source " ++ (if isDirectory then "directory " else "file ")
          ++ shellQuoted source ++ " specified more than once")
        pure c
      else if isDirectory && above.contains s.id then do
        warn ("cannot copy cyclic symbolic link " ++ shellQuoted source)
        pure c
      else if isDirectory && c.targets.contains s.id then do
        warn ("cannot copy a directory, " ++ shellQuoted top.1 ++ ", into itself, "
          ++ shellQuoted top.2)
        pure c
      else
        let c := if above.isEmpty then { c with sources := (source, s.id) :: c.sources } else c
        let way ← match ← ask (.status target (!seesLinks k.arguments s)) with
          | .ok t => makeWay k source target s t c
          | .error e =>
            if e = .notFound || (target.endsWith "/" && e = .notDirectory) then
              pure (some (false, none))
            else do
              warn ("cannot stat " ++ shellQuoted target ++ ": " ++ faultText e)
              pure none
        match way with
        | none => pure c
        | some (isThere, backup) =>
          if isDirectory then
            copyDirectory k (fun name c =>
              copyTree k top fuel (s.id :: above) (joinPath source name) (joinPath target name) c)
              isThere source target s c
          else do
            if k.arguments.has "v" then announce source target backup
            if ← copyFile k isThere source target s c then remember s target c else pure c

def cpOptions : OptionTable where
  letters := "abdfHilLnprst:uvxPRS:TZ"
  names := [("archive", .nothing, "a"), ("attributes-only", .nothing, "attributes"),
    ("backup", .maybe, "backup"), ("copy-contents", .nothing, "contents"),
    ("dereference", .nothing, "L"), ("force", .nothing, "f"), ("interactive", .nothing, "i"),
    ("link", .nothing, "l"), ("no-clobber", .nothing, "n"), ("no-dereference", .nothing, "P"),
    ("no-preserve", .value, "no-preserve"), ("no-target-directory", .nothing, "T"),
    ("one-file-system", .nothing, "x"), ("parents", .nothing, "parents"),
    ("preserve", .maybe, "preserve"), ("recursive", .nothing, "R"),
    ("remove-destination", .nothing, "remove"), ("sparse", .value, "sparse"),
    ("reflink", .maybe, "reflink"), ("strip-trailing-slashes", .nothing, "strip"),
    ("suffix", .value, "S"), ("symbolic-link", .nothing, "s"),
    ("target-directory", .value, "t"), ("update", .maybe, "u"), ("verbose", .nothing, "v")]
  strict := false

/-- makes the directories of a path below a target -/
def makeParents (k : CopyStyle) (target : OctetText) (source : OctetText) : Work Unit := do
  for path in (beginningsOf source).dropLast do
    match ← ask (.makeDirectory (joinPath target path) 0o777) with
    | .ok _ => if k.arguments.has "v" then putLine (path ++ " -> " ++ joinPath target path)
    | .error _ => pure ()

def cp (args : List OctetText) : Work Unit := do
  let a ← readArguments cpOptions 1 args
  let k := CopyStyle.ofArguments a
  let (sources, target) ← readTarget a
  let copyOne (c : Copied) (source : OctetText) : Work Copied := do
    let source := if a.has "strip" then FileTree.withoutSlashes source else source
    let path ← match target with
      | .as path =>
        if a.has "parents" then misused 1 "with --parents, the destination must be a directory"
        else pure path
      | .into directory =>
        if a.has "parents" then do
          makeParents k directory source
          pure (joinPath directory source)
        else pure (target.pathOf source)
    copyTree k (source, path) FileTree.pathLimit [] source path c
  let _ ← sources.foldlM copyOne ⟨[], [], []⟩

/-! ## mv -/

/-- gives a file another name -/
def moveOne (a : Arguments) (source target : OctetText) : Work Unit := do
  match ← ask (.status source false) with
  | .error e => warn ("cannot stat " ++ shellQuoted source ++ ": " ++ faultText e)
  | .ok s => do
    let finish_ (backup : Option OctetText) : Work Unit := do
      match ← ask (.rename source target) with
      | .ok _ =>
        if a.has "v" then
          putLine ("renamed " ++ shellQuoted source ++ " -> " ++ shellQuoted target
            ++ backupText backup)
      | .error e =>
        if e = .invalidArgument then
          warn ("cannot move " ++ shellQuoted source ++ " to a subdirectory of itself, "
            ++ shellQuoted target)
        else
          warn ("cannot move " ++ shellQuoted source ++ " to " ++ shellQuoted target ++ ": "
            ++ faultText e)
    match ← ask (.status target false) with
    | .error e =>
      if e = .accessDenied then warn ("cannot stat " ++ shellQuoted target ++ ": " ++ faultText e)
      else finish_ none
    | .ok t => do
      let way := overwritingOf a ["f", "i", "n"]
      if way = .never then pure ()
      else if s.id == t.id then
        if s.kind = .directory then finish_ none
        else sameFile source target
      else if t.kind = .file && s.kind = .link
          && ((← ask (.status source true)).toOption.map (·.id)) == some t.id
          && (← readBackup a) = .none then
        sameFile source target
      else if !(← mayReplace a way s t target) then pure ()
      else if ← clashes s t source target then pure ()
      else
        let backup ← if s.kind = .directory then pure none else keepBackup a target
        finish_ backup

def mvOptions : OptionTable where
  letters := "bfint:uvS:TZ"
  names := [("backup", .maybe, "backup"), ("force", .nothing, "f"),
    ("interactive", .nothing, "i"), ("no-clobber", .nothing, "n"),
    ("no-target-directory", .nothing, "T"), ("strip-trailing-slashes", .nothing, "strip"),
    ("suffix", .value, "S"), ("target-directory", .value, "t"), ("update", .maybe, "u"),
    ("verbose", .nothing, "v")]
  strict := false

def mv (args : List OctetText) : Work Unit := do
  let a ← readArguments mvOptions 1 args
  let (sources, target) ← readTarget a
  for source in sources do
    let source := if a.has "strip" then FileTree.withoutSlashes source else source
    moveOne a source (target.pathOf source)

/-! ## ln -/

/-- what is said about a link that could not be made -/
def linkFault (symbolic : Bool) (source path : OctetText) (e : SystemFault) : OctetText :=
  let what := if symbolic then
      "failed to create symbolic link " ++ shellQuoted path
        ++ (if source.isEmpty then " -> " ++ shellQuoted source else "")
    else
      "failed to create hard link " ++ shellQuoted path
        ++ (if e = .fileExists then "" else " => " ++ shellQuoted source)
  what ++ ": " ++ faultText e

/-- the text of a link at a path that leads to a place -/
def linkText (a : Arguments) (source path : OctetText) : Work OctetText := do
  if !a.has "r" then pure source
  else
    match ← placeOf .none (directoryOf path), ← placeOf .none source with
    | .ok from_, .ok onto => pure (relativePath from_ onto)
    | _, _ => pure source

/-- gives a file a second name, or makes a link to it -/
def linkOne (a : Arguments) (source path : OctetText) : Work Unit := do
  let symbolic := a.has "s"
  let follows := a.last? ["L", "P"] == some "L"
  let source_ ← ask (.status source follows)
  match source_, symbolic with
  | .error e, false => warn ("failed to access " ++ shellQuoted source ++ ": " ++ faultText e)
  | source_, _ =>
    let isDirectory := (source_.toOption.map (·.kind)) == some .directory
    if !symbolic && isDirectory then
      warn (named source ++ ": hard link not allowed for directory")
    else
      let target? := (← ask (.status path false)).toOption
      let asks := a.last? ["f", "i"] == some "i"
      let replaces := a.has "f" || a.has "i" || (← readBackup a) ≠ .none
      let mayGoOn ← match target? with
        | none => pure true
        | some t =>
          if !replaces then pure true
          else if t.kind = .directory then do
            warn (named path ++ ": cannot overwrite directory")
            pure false
          else if (source_.toOption.map (·.id)) == some t.id
              && (!symbolic || (← placeOf .none source).toOption == (← placeOf .none path).toOption)
              && baseOf source == baseOf path then do
            sameFile source path
            pure false
          else if asks then
            if ← agrees ("replace " ++ shellQuoted path) then pure true
            else do
              setCode 1
              pure false
          else pure true
      if mayGoOn then
        let backup ← if target?.isSome then keepBackup a path else pure none
        if target?.isSome && backup.isNone && replaces then
          let _ ← ask (.remove path)
        let text ← linkText a source path
        let place ← placeOf .none source
        let real := if follows then place.toOption.getD source else source
        match ← (if symbolic then ask (.makeLink text path) else ask (.addName real path)) with
        | .error e => warn (linkFault symbolic source path e)
        | .ok _ =>
          if a.has "v" then
            putLine (shellQuoted path ++ (if symbolic then " -> " else " => ")
              ++ shellQuoted text ++ backupText backup)

def lnOptions : OptionTable where
  letters := "bdfFinrst:vLPS:T"
  names := [("backup", .maybe, "backup"), ("directory", .nothing, "d"),
    ("no-dereference", .nothing, "n"), ("no-target-directory", .nothing, "T"),
    ("force", .nothing, "f"), ("interactive", .nothing, "i"), ("suffix", .value, "S"),
    ("target-directory", .value, "t"), ("logical", .nothing, "L"),
    ("physical", .nothing, "P"), ("relative", .nothing, "r"), ("symbolic", .nothing, "s"),
    ("verbose", .nothing, "v")]
  strict := false

/-- whether links are made in a directory that a link leads to -/
def isLinkDirectory (path : OctetText) (n : Bool) : Work Bool := do
  match ← ask (.status path (!n)) with
  | .ok s => pure (s.kind = .directory)
  | .error _ => pure false

def ln (args : List OctetText) : Work Unit := do
  let a ← readArguments lnOptions 1 args
  if a.has "r" && !a.has "s" then fail "cannot do --relative without --symbolic"
  let (sources, target) ← match a.operands, a.value? "t" with
    | [], _ => missingFile
    | operands, some _ => readTarget { a with operands := operands }
    | [source], none =>
      if a.has "T" then missingDestination source else pure ([source], Target.into ".")
    | [source, path], none =>
      if !a.has "T" && (← isLinkDirectory path (a.has "n")) then pure ([source], .into path)
      else pure ([source], .as path)
    | _, none => readTarget a
  for source in sources do
    linkOne a source (target.pathOf source)

def link (args : List OctetText) : Work Unit := do
  let a ← readArguments plainOptions 1 args
  match a.operands with
  | [] => missingOperand
  | [operand] => missingAfter operand
  | [source, path] =>
    match ← ask (.addName source path) with
    | .ok _ => pure ()
    | .error e =>
      fail ("cannot create link " ++ shellQuoted path ++ " to " ++ shellQuoted source ++ ": "
        ++ faultText e)
  | _ :: _ :: extra :: _ => extraOperand extra

/-! ## install -/

def installOptions : OptionTable where
  letters := "bcdDg:m:o:pst:TvS:CZ"
  names := [("backup", .maybe, "backup"), ("compare", .nothing, "C"),
    ("directory", .nothing, "d"), ("group", .value, "g"), ("mode", .value, "m"),
    ("no-target-directory", .nothing, "T"), ("owner", .value, "o"),
    ("preserve-timestamps", .nothing, "p"), ("strip", .nothing, "s"), ("suffix", .value, "S"),
    ("target-directory", .value, "t"), ("verbose", .nothing, "v")]
  strict := false

/-- who installed files are to belong to -/
structure InstallOwner where
  user : Option Nat
  party : Option Nat

namespace InstallOwner

def any (o : InstallOwner) : Bool := o.user.isSome || o.party.isSome

/-- the owner that options name, or the end of the utility -/
def ofArguments (a : Arguments) : Work InstallOwner := do
  let number (what : OctetText) (named? : OctetText → Option Nat) (text? : Option OctetText) :
      Work (Option Nat) :=
    match text? with
    | none => pure none
    | some text =>
      match (named? text).or (Ownership.basedNumber? text) with
      | some n => pure (if n < Ownership.numberLimit then some n else none)
      | none => fail ("invalid " ++ what ++ " " ++ shellQuoted text)
  let user ← number "user" (fun name => (accountNamed? name).map (·.number)) (a.value? "o")
  let party ← number "group" (fun name => (partyNamed? name).map (·.number)) (a.value? "g")
  pure ⟨user, party⟩

end InstallOwner

/-- makes the directories of a path that do not exist -/
def installDirectory (a : Arguments) (mode : Nat) (owner : InstallOwner) (path : OctetText) :
    Work Unit := do
  let existed := (← ask (.status path true)).isOk
  let paths := beginningsOf path
  for before in paths do
    match ← ask (.status before true) with
    | .ok s =>
      if s.kind ≠ .directory then
        warn ("cannot create directory " ++ shellQuoted before ++ ": File exists")
    | .error _ =>
      match ← ask (.makeDirectory before 0o755) with
      | .ok _ =>
        if a.has "v" then
          putLine ((← get).name ++ ": creating directory " ++ shellQuoted before)
      | .error e => cannotMake before e
  let owned ← if owner.any then ask (.setOwner path true owner.user owner.party) else pure (.ok ())
  match owned with
  | .ok _ =>
    let _ ← ask (.setMode path mode)
  | .error e => do
    warn ("cannot change owner and permissions of " ++ shellQuoted path ++ ": " ++ faultText e)
    if !existed then
      let _ ← ask (.setMode path 0o700)

/-- copies a file and gives it permissions and an owner -/
def installFile (a : Arguments) (mode : Nat) (owner : InstallOwner) (source target : OctetText) : Work Unit := do
  match ← ask (.status source true) with
  | .error e => warn ("cannot stat " ++ shellQuoted source ++ ": " ++ faultText e)
  | .ok s =>
    if s.kind = .directory then warn ("omitting directory " ++ shellQuoted source)
    else do
      let target? := (← ask (.status target false)).toOption
      if (target?.map (·.id)) == some s.id then sameFile source target
      else if (target?.map (·.kind)) == some .directory then
        warn ("cannot overwrite directory " ++ shellQuoted target ++ " with non-directory")
      else do
        if target?.isSome then
          let backup ← keepBackup a target
          if backup.isNone then
            let _ ← ask (.remove target)
            if a.has "v" then putLine ("removed " ++ shellQuoted target)
        if a.has "v" then announce source target none
        let k := CopyStyle.ofArguments ⟨[], []⟩
        if ← copyContent k { s with mode := 0o600 } false source target then
          if a.has "p" then
            let _ ← ask (.setModified target true s.modified)
          let owned ← if owner.any then ask (.setOwner target false owner.user owner.party)
            else pure (.ok ())
          match owned with
          | .ok _ =>
            let _ ← ask (.setMode target mode)
          | .error e =>
            warn ("cannot change ownership of " ++ shellQuoted target ++ ": " ++ faultText e)

def install (args : List OctetText) : Work Unit := do
  let a ← readArguments installOptions 1 args
  let mode ← match a.value? "m" with
    | some text => do
      match Mode.change? false 0 text 0 with
      | some mode => pure mode
      | none => fail ("invalid mode " ++ shellQuoted text)
    | none => pure 0o755
  if a.has "d" && a.operands.isEmpty then missingFile
  let owner ← InstallOwner.ofArguments a
  if a.has "d" then do
    a.operands.forM (installDirectory a mode owner)
  else do
    if a.has "D" then
      match a.value? "t", a.operands.getLast? with
      | some directory, _ => installDirectory a 0o755 ⟨none, none⟩ directory
      | none, some last =>
        if 1 < a.operands.length && directoryOf last ≠ "." then
          installDirectory a 0o755 ⟨none, none⟩ (directoryOf last)
      | none, none => pure ()
    let (sources, target) ← readTarget a
    for source in sources do
      installFile a mode owner source (target.pathOf source)

end ShellWorkers.Utility
