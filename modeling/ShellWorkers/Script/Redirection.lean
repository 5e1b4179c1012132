import ShellWorkers.Script.Expansion
import ShellWorkers.Script.Printing

/-!
# Redirections

A redirection changes what a descriptor of the shell stands for while a command is run.  Their
words are expanded first (`resolveAll`).  Then they are done in order (`redirectAll`), and what a
descriptor stood for before is kept under a number that commands do not use, to be put back.
-/

namespace ShellWorkers.Script

open Machine
open Text (OctetText)

/-! ## what is to be done -/

/-- a redirection whose word has been expanded -/
inductive Resolved where
  | open (fd : Nat) (kind : Opening) (path : OctetText)
  /-- nothing to copy: the descriptor is closed -/
  | copy (fd : Nat) (source : Option Nat)
  | document (fd : Nat) (body : Word)
  /-- the descriptor is copied and closed; extended, as all that follow -/
  | move (fd source : Nat)
  /-- the output and the messages -/
  | both (append : Bool) (path : OctetText)
  /-- a redirection of a descriptor that is chosen, whose number a variable gets -/
  | named (name : OctetText) (r : Resolved)

/-- the descriptor that a text names -/
def sourceOf (text : OctetText) : Sh (Option Nat) :=
  match text.toList with
  | ['-'] => pure none
  | [d] => if d.isDigit then pure (some (d.toNat - 48)) else abortScript badNumber
  | _ => abortScript badNumber
where
  badNumber : OctetText := "Syntax error: Bad fd number"

/-- the path that a word of the extended language is, which has to be one field -/
def pathOf (runner : Runner) (w : Word) : Sh OctetText := do
  match ← expandFields runner w with
  | [path] => pure path
  | _ => abort (wordSource w ++ ": ambiguous redirect")

/-- a descriptor as digits -/
def descriptorNumber? (text : OctetText) : Option Nat :=
  let ds := text.toList
  if ds.isEmpty || !ds.all Char.isDigit || 9 < ds.length then none else some (digitsNat ds)

/-- what a copy is in the extended language: of a descriptor that stays or is closed, or a file for
the output and the messages -/
def resolveCopy (runner : Runner) (fd : Nat) (w : Word) : Sh Resolved := do
  let text ← pathOf runner w
  if text = "-" then pure (.copy fd none)
  else
    match descriptorNumber? text with
    | some source => pure (.copy fd (some source))
    | none =>
      let moved := if text.endsWith "-" then descriptorNumber? (text.dropEnd 1).toString else none
      match moved with
      | some source => pure (.move fd source)
      | none =>
        if fd = 1 then pure (.both false text)
        else abort (wordSource w ++ ": ambiguous redirect")

def resolve (runner : Runner) : Redirection → Sh Resolved
  | .open fd kind target => do
    let path ← if (← get).extended then pathOf runner target else expandText runner target
    pure (.open fd kind path)
  | .copy fd source => do
    if (← get).extended then resolveCopy runner fd source
    else return .copy fd (← sourceOf (← expandText runner source))
  | .document fd body _ _ => pure (.document fd body)
  | .awaited fd _ _ _ => pure (.document fd [])
  | .both append target => do return .both append (← pathOf runner target)
  | .named name r => .named name <$> resolve runner r

def resolveAll (runner : Runner) : List Redirection → Sh (List Resolved)
  | [] => pure []
  | r :: rs => do
    let first ← resolve runner r
    return first :: (← resolveAll runner rs)

/-! ## what is kept -/

/-- the least descriptor for what is kept -/
def keptFrom : Nat := 10

/-- a descriptor and where what it stood for is kept, if it stood for anything -/
structure Kept where
  fd : Nat
  copy : Option Nat

/-- A descriptor under which what another one stands for is kept; nothing when that stands for
nothing.  The other one is closed then, also if there is no such descriptor in the standard
language; in the extended one `undo` is run first. -/
def keepDescriptor (fd : Nat) (target : OctetText) (undo : Sh Unit) : Sh (Option Nat) := do
  match ← sys (.duplicateFrom fd keptFrom) with
  | .ok copy => closing copy
  | .error e => do
    if e = .badDescriptor then pure none
    else if (← get).extended then
      match ← sys (.duplicateFrom fd 0) with
      | .ok copy => closing copy
      | .error e => do
        complainOfMachine ("redirection error: cannot duplicate fd: " ++ faultText e)
        undo
        abort (target ++ ": " ++ faultText e)
    else do
      let _ ← sys (.close fd)
      abort (toString fd ++ ": " ++ faultText e)
where
  closing (copy : Nat) : Sh (Option Nat) := do
    let _ ← sys (.close fd)
    pure (some copy)

/-- keeps what a descriptor stands for, unless it is kept; the descriptor is closed then -/
def keep (fd : Nat) (kept : List Kept) (target : OctetText) (undo : Sh Unit) :
    Sh (List Kept) := do
  if kept.any (·.fd == fd) then pure kept
  else return ⟨fd, ← keepDescriptor fd target undo⟩ :: kept

/-- puts back what was kept -/
def putBack : List Kept → Sh Unit
  | [] => pure ()
  | k :: ks => do
    match k.copy with
    | some copy =>
      let _ ← sys (.duplicate copy k.fd)
      let _ ← sys (.close copy)
    | none => let _ ← sys (.close k.fd)
    putBack ks

/-- lets go of what was kept -/
def forget : List Kept → Sh Unit
  | [] => pure ()
  | k :: ks => do
    match k.copy with
    | some copy => let _ ← sys (.close copy)
    | none => pure ()
    forget ks

/-! ## opening -/

/-- why a file cannot be opened, in the words of a shell -/
def openingFault (creates : Bool) (e : SystemFault) : OctetText :=
  if e = .notFound || e = .notDirectory then
    if creates then "Directory nonexistent" else "No such file"
  else faultText e

def openOrFail (path : OctetText) (mode : OpenMode) (creates : Bool) : Sh Nat := do
  match ← sys (.openFile path mode openPermissions) with
  | .ok fd => pure fd
  | .error e =>
    if (← get).extended then abort (path ++ ": " ++ faultText e)
    else
      abort ("cannot " ++ (if creates then "create " else "open ") ++ path ++ ": "
        ++ openingFault creates e)

/-- opens a file that is not to be overwritten -/
def openProtected (path : OctetText) : Sh Nat := do
  match ← sys (.status path true) with
  | .error _ => openOrFail path .createNew true
  | .ok s =>
    if s.kind == .file then
      if (← get).extended then abort (path ++ ": cannot overwrite existing file")
      else abort ("cannot create " ++ path ++ ": " ++ faultText .fileExists)
    else openOrFail path .overwrite true

def openKind (kind : Opening) (path : OctetText) : Sh Nat := do
  match kind with
  | .input => openOrFail path .read false
  | .output => if ← isOn .noOverwrite then openProtected path else openOrFail path .write true
  | .overwrite => openOrFail path .write true
  | .append => openOrFail path .append true
  | .inputOutput => openOrFail path .readWrite true

/-- the longest document that is written without a process of its own -/
def documentLimit : Nat := 4096

/-- a pipe that holds a text -/
def openDocument (text : OctetText) : Sh Nat := do
  let (reading, writing) ← match ← sys .pipe with
    | .ok ends => pure ends
    | .error e =>
      if (← get).extended then
        abort ("cannot create temp file for here-document: " ++ faultText e)
      else abort "Pipe call failed"
  if text.length ≤ documentLimit then writeTo writing text
  else
    match ← sys .fork with
    | some _ => pure ()
    | none => do
      let _ ← sys (.close reading)
      for signal in [Signal.hangUp, Signal.interrupt, Signal.quit] do
        sys (.setDisposition signal .ignored)
      sys (.setDisposition Signal.pipe .default)
      modify ({ · with traps := [] })
      writeTo writing text
      leave (.exit 0)
  let _ ← sys (.close writing)
  pure reading

/-! ## redirecting -/

/-- makes `fd` stand for what `opened` stands for, and nothing else -/
def moveDescriptor (opened fd : Nat) : Sh Unit := do
  if opened = fd then pure ()
  else
    let _ ← sys (.duplicate opened fd)
    let _ ← sys (.close opened)

/-- one redirection; what is kept is added to what has been kept -/
def redirect (runner : Runner) (r : Resolved) (kept : List Kept) :
    Sh (List Kept) := do
  match r with
  | .open fd kind path => move (← openKind kind path) fd path
  | .document fd body => move (← openDocument (← expandDocument runner body)) fd ""
  | .copy fd none => do
    let kept ← keep fd kept "" (pure ())
    let _ ← sys (.close fd)
    pure kept
  | .copy fd (some source) => copy fd source
  | .move fd source => do
    let kept ← copy fd source
    let kept ← keep source kept (toString source) (pure ())
    let _ ← sys (.close source)
    pure kept
  | .both append path => do
    let kept ← move (← openKind (if append then .append else .output) path) 1 path
    copyOnto 1 2 kept
  | .named name (.copy _ none) => do
    match (((← get).value? name).bind descriptorNumber?) with
    | some fd => let _ ← sys (.close fd)
    | none => abort (name ++ ": ambiguous redirect")
    pure kept
  | .named name (.copy _ (some source)) => choose name source false
  | .named name (.open _ kind path) => do choose name (← openKind kind path) true
  | .named name (.document _ body) => do
    choose name (← openDocument (← expandDocument runner body)) true
  | .named _ _ => pure kept
where
  /-- a descriptor for what another one stands for, whose number a variable gets -/
  choose (name : OctetText) (fd : Nat) (closes : Bool) : Sh (List Kept) := do
    match ← sys (.duplicateFrom fd keptFrom) with
    | .ok chosen => do
      if closes then
        let _ ← sys (.close fd)
      assign name (toString chosen)
    | .error e => abort (toString fd ++ ": " ++ faultText e)
    pure kept
  copy (fd source : Nat) : Sh (List Kept) :=
    if source = fd then pure kept else copyOnto source fd kept
  copyOnto (source fd : Nat) (kept : List Kept) : Sh (List Kept) := do
    let more ← keep fd kept (toString source) (pure ())
    match ← sys (.duplicate source fd) with
    | .ok _ => pure more
    | .error e => do
      let extended := (← get).extended
      let back := putBack (more.take (more.length - kept.length))
      if extended then back
      complain (toString source ++ ": " ++ faultText e)
      if !extended then back
      setStatus (if extended then 1 else 2)
      leave .failed
  move (opened fd : Nat) (path : OctetText) : Sh (List Kept) := do
    if opened = fd then
      pure (if kept.any (·.fd == fd) then kept else ⟨fd, none⟩ :: kept)
    else
      let more ← keep fd kept path do let _ ← sys (.close opened)
      match ← sys (.duplicate opened fd) with
      | .ok _ => do
        let _ ← sys (.close opened)
        pure more
      | .error e => do
        let _ ← sys (.close opened)
        if (← get).extended then abort (toString fd ++ ": " ++ faultText e)
        pure more

/-- redirections in order; nothing when one of them is not possible -/
def redirectAll (runner : Runner) (kept : List Kept) :
    List Resolved → Sh (Option (List Kept))
  | [] => pure (some kept)
  | r :: rs => do
    let next ← tryCatch (some <$> redirect runner r kept) fun l =>
      match l with
      | .failed => pure none
      | l => leave l
    match next with
    | some kept => redirectAll runner kept rs
    | none => do
      putBack kept
      pure none

/-- the descriptor behind which the messages of the shell itself go, when they are redirected -/
def messagesOf (kept : List Kept) : Nat :=
  ((kept.find? (·.fd == 2)).bind Kept.copy).getD 2

/-- runs an action with redirections; its status is that of the failure when they are not
possible -/
def redirecting (runner : Runner) (rs : List Redirection)
    (action : Sh Nat) : Sh Nat := do
  if rs.isEmpty then action
  else
    match ← redirectAll runner [] (← resolveAll runner rs) with
    | some kept => restoring action (putBack kept)
    | none => pure (if (← get).extended then 1 else 2)

end ShellWorkers.Script
