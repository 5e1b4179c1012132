import ShellWorkers.Duration
import ShellWorkers.Host
import ShellWorkers.Machine.FileTree
import ShellWorkers.SystemFault
import ShellWorkers.Text.Utf8

/-!
# Calls

What a process can ask of its machine, and the signals and resources that it can ask about.
-/

/-!
## Resources

A process can have so much of a resource as its limit says.  It may move the limit up to the
ceiling, and the ceiling down; `Limits.set` says which changes are refused.

* `Limits.get`      the limit of a resource, and its ceiling;
* `Limits.set`      sets both;
* `Limits.allows`   whether an amount is below the limit.
-/

namespace ShellWorkers.Machine

inductive Resource where
  | processorTime
  | fileSize
  | dataSize
  | stackSize
  | imageSize
  | residentSize
  | processes
  | openFiles
  | lockedSize
  | addressSpace
  | fileLocks
  | signals
  | messages
  | urgency
  | realTimeUrgency
  | realTimeSpan
  deriving DecidableEq, Repr

/-- amounts of a resource; nothing stands for as much as there is -/
structure Limit where
  amount : Option Nat
  ceiling : Option Nat
  deriving DecidableEq, Repr

namespace Limit

/-- whether an amount is above another one -/
def exceeds : Option Nat → Option Nat → Bool
  | _, none => false
  | none, some _ => true
  | some a, some b => b < a

end Limit

/-- the limits that are not as usual -/
abbrev Limits := List (Resource × Limit)

namespace Limits

/-- the limits of a process that has changed none -/
def usual : Resource → Limit
  | .stackSize => ⟨some 8388608, none⟩
  | .imageSize => ⟨some 0, none⟩
  | .processes => ⟨some 128620, some 128620⟩
  | .openFiles => ⟨some 20000, some 20000⟩
  | .lockedSize => ⟨some 8388608, some 8388608⟩
  | .signals => ⟨some 128620, some 128620⟩
  | .messages => ⟨some 819200, some 819200⟩
  | .urgency => ⟨some 0, some 0⟩
  | .realTimeUrgency => ⟨some 0, some 0⟩
  | _ => ⟨none, none⟩

def get (limits : Limits) (r : Resource) : Limit := (limits.lookup r).getD (usual r)

/-- A limit above its ceiling makes no sense, and no process can lift the ceiling. -/
def set (limits : Limits) (r : Resource) (limit : Limit) : Except SystemFault Limits :=
  if Limit.exceeds limit.amount limit.ceiling then .error .invalidArgument
  else if Limit.exceeds limit.ceiling (limits.get r).ceiling then .error .notPermitted
  else .ok ((r, limit) :: limits.filter (·.1 ≠ r))

/-- whether an amount is below the limit -/
def allows (limits : Limits) (r : Resource) (amount : Nat) : Bool :=
  match (limits.get r).amount with
  | none => true
  | some most => amount < most

end Limits

/-! ### niceness -/

/-- the greatest amount by which a process steps back for others -/
def greatestNiceness : Int := 19

/-- No process can claim more than it has. -/
def setNiceness (current wanted : Int) : Except SystemFault Int :=
  let next := if greatestNiceness < wanted then greatestNiceness else wanted
  if next < current then .error .accessDenied else .ok next

end ShellWorkers.Machine

/-!
## Signals

The signals of a machine by number: their names without the common beginning, the words that
describe the end they bring, and what they do to a process that has not asked for them.
-/

namespace ShellWorkers.Machine.Signal

open Text (OctetText)

def hangUp : Nat := 1
def interrupt : Nat := 2
def quit : Nat := 3
def kill : Nat := 9
def pipe : Nat := 13
def alarm : Nat := 14
def terminate : Nat := 15
def goOn : Nat := 18
def fileSize : Nat := 25

/-- there are as many numbers, from `0` on -/
def count : Nat := 65

/-- what a signal does to a process that has not asked for it -/
inductive Effect where
  | ends
  | nothing
  | stops
  deriving DecidableEq, Repr

def effect (signal : Nat) : Effect :=
  if [17, 18, 23, 28].contains signal then .nothing
  else if [19, 20, 21, 22].contains signal then .stops
  else .ends

/-- the signals that no process can catch or ignore -/
def isFinal (signal : Nat) : Bool := signal == 9 || signal == 19

/-- the signals with names, in the order of their numbers, from `1` on -/
def names : List (OctetText × OctetText) :=
  [("HUP", "Hangup"), ("INT", "Interrupt"), ("QUIT", "Quit"), ("ILL", "Illegal instruction"),
    ("TRAP", "Trace/breakpoint trap"), ("ABRT", "Aborted"), ("BUS", "Bus error"),
    ("FPE", "Floating point exception"), ("KILL", "Killed"), ("USR1", "User defined signal 1"),
    ("SEGV", "Segmentation fault"), ("USR2", "User defined signal 2"), ("PIPE", "Broken pipe"),
    ("ALRM", "Alarm clock"), ("TERM", "Terminated"), ("16", "Stack fault"),
    ("CHLD", "Child exited"), ("CONT", "Continued"), ("STOP", "Stopped (signal)"),
    ("TSTP", "Stopped"), ("TTIN", "Stopped (tty input)"), ("TTOU", "Stopped (tty output)"),
    ("URG", "Urgent I/O condition"), ("XCPU", "CPU time limit exceeded"),
    ("XFSZ", "File size limit exceeded"), ("VTALRM", "Virtual timer expired"),
    ("PROF", "Profiling timer expired"), ("WINCH", "Window changed"), ("IO", "I/O possible"),
    ("PWR", "Power failure"), ("SYS", "Bad system call"), ("32", "Unknown signal 32"),
    ("33", "Unknown signal 33")]

/-- the first signal that programs can use as they like, and the last -/
def firstFree : Nat := 34
def lastFree : Nat := 64

/-- the name of a signal without its common beginning; `0` is the end of a shell -/
def name (signal : Nat) : OctetText :=
  if signal = 0 then "EXIT"
  else if signal < firstFree then ((names[signal - 1]?).map Prod.fst).getD ""
  else if signal = firstFree then "RTMIN"
  else if signal < 50 then "RTMIN+" ++ toString (signal - firstFree)
  else if signal < lastFree then "RTMAX-" ++ toString (lastFree - signal)
  else "RTMAX"

/-- how the end of a process by a signal is called -/
def description (signal : Nat) : OctetText :=
  if signal < firstFree then ((names[signal - 1]?).map Prod.snd).getD ""
  else "Real-time signal " ++ toString (signal - firstFree)

/-- the signal of a name, whatever its case; names start at `least` -/
def ofName? (least : Nat) (text : OctetText) : Option Nat :=
  let upper := String.ofList (text.toList.map Char.toUpper)
  (List.range count).find? fun n => least ≤ n && name n == upper

/-- the signal of a name or a number -/
def ofText? (least : Nat) (text : OctetText) : Option Nat :=
  if !text.isEmpty && text.toList.all Char.isDigit then
    (text.toNat?).bind fun n => if n < count then some n else none
  else ofName? least text

end ShellWorkers.Machine.Signal

/-!
## What a process asks of its machine

A process is an interaction: it asks calls of the machine and ends with an exit code.  A call may
have to wait before it is answered.  A process that forks goes on twice with different answers;
a process that executes a program goes on with that program, so only a fault is ever answered.
-/

namespace ShellWorkers.Machine

open Text (OctetText)

/-- the number of a process -/
abbrev Pid := Nat

/-- names and values that a process hands on to its children -/
abbrev Variables := List (OctetText × OctetText)

structure OpenMode where
  reads : Bool
  writes : Bool
  appends : Bool
  creates : Bool
  truncates : Bool
  /-- a file that exists is a fault -/
  exclusive : Bool
  deriving Repr

namespace OpenMode

def read : OpenMode := ⟨true, false, false, false, false, false⟩
def write : OpenMode := ⟨false, true, false, true, true, false⟩
def append : OpenMode := ⟨false, true, true, true, false, false⟩
def readWrite : OpenMode := ⟨true, true, false, true, false, false⟩
/-- to write to what exists -/
def overwrite : OpenMode := ⟨false, true, false, false, false, false⟩
/-- to write to what does not exist yet -/
def createNew : OpenMode := ⟨false, true, false, true, false, true⟩

end OpenMode

/-- what a process does about a signal -/
inductive Disposition where
  | default
  | ignored
  | caught
  deriving DecidableEq, Repr

/-- the kind of what a path names -/
inductive FileKind where
  | file
  | directory
  | link
  | device
  | queue
  deriving DecidableEq, Repr

structure FileStatus where
  id : NodeId
  kind : FileKind
  size : Nat
  mode : Nat
  nameCount : Nat
  /-- the instant of the last change, in nanoseconds since the epoch -/
  modified : Int
  deriving Repr

namespace FileStatus

/-- whether its owner may execute it -/
def isExecutable (s : FileStatus) : Bool := Mode.permits s.mode Mode.reaching

/-- whether its owner may do something with it -/
def permits (s : FileStatus) (bits : Nat) : Bool := Mode.permits s.mode bits

end FileStatus

inductive Call where
  /-- the permission bits are those of a file that is created -/
  | openFile (path : OctetText) (mode : OpenMode) (permissions : Nat)
  | close (fd : Nat)
  /-- at most `count` octets; none at the end -/
  | read (fd count : Nat)
  | write (fd : Nat) (text : OctetText)
  /-- moves the place where a file is read and written next, and answers it -/
  | seek (fd : Nat) (amount : Int)
  /-- gives the file of a descriptor another length -/
  | setLength (fd length : Nat)
  /-- makes `target` stand for what `fd` stands for -/
  | duplicate (fd target : Nat)
  /-- a new descriptor from `least` on, closed when a program is executed -/
  | duplicateFrom (fd least : Nat)
  | pipe
  | fork
  | execute (path : OctetText) (args : List OctetText) (vars : Variables)
  /-- waits for a child, or for any -/
  | wait (child : Option Pid) (block : Bool)
  /-- sends a signal to a process, or to the group `-target` -/
  | kill (target : Int) (signal : Nat)
  | self
  | parent
  | setDisposition (signal : Nat) (disposition : Disposition)
  | disposition (signal : Nat)
  /-- the caught signals that have arrived -/
  | takeSignals
  /-- sets the permission bits that new files do not get, and answers the former ones -/
  | setMask (mask : Option Nat)
  | limit (resource : Resource)
  | setLimit (resource : Resource) (limit : Limit)
  | niceness
  | setNiceness (niceness : Int)
  | sleep (amount : Duration)
  /-- the nanoseconds since the epoch -/
  | now
  | changeDirectory (path : OctetText)
  | workingDirectory
  | status (path : OctetText) (follow : Bool)
  /-- the status of what a descriptor stands for -/
  | statusOpen (fd : Nat)
  | names (path : OctetText)
  | makeDirectory (path : OctetText) (permissions : Nat)
  | removeDirectory (path : OctetText)
  | remove (path : OctetText)
  | rename (source target : OctetText)
  | makeLink (target path : OctetText)
  | makeQueue (path : OctetText) (permissions : Nat)
  | addName (path name : OctetText)
  | readLink (path : OctetText)
  | setMode (path : OctetText) (mode : Nat)
  | setModified (path : OctetText) (follow : Bool) (instant : Int)
  /-- gives a file to a user and a group; the owner of all files is the only user -/
  | setOwner (path : OctetText) (follow : Bool) (user group : Option Nat)

/-- the answers to a call -/
abbrev Call.Answer : Call → Type
  | .openFile _ _ _ => Except SystemFault Nat
  | .close _ => Except SystemFault Unit
  | .read _ _ => Except SystemFault OctetText
  | .write _ _ => Except SystemFault Unit
  | .seek _ _ => Except SystemFault Nat
  | .setLength _ _ => Except SystemFault Unit
  | .duplicate _ _ => Except SystemFault Unit
  | .duplicateFrom _ _ => Except SystemFault Nat
  | .pipe => Except SystemFault (Nat × Nat)
  | .fork => Option Pid
  | .execute _ _ _ => SystemFault
  | .wait _ _ => Except SystemFault (Option (Pid × Host.ExitStatus))
  | .kill _ _ => Except SystemFault Unit
  | .self => Pid
  | .parent => Pid
  | .setDisposition _ _ => Unit
  | .disposition _ => Disposition
  | .takeSignals => List Nat
  | .setMask _ => Nat
  | .limit _ => Limit
  | .setLimit _ _ => Except SystemFault Unit
  | .niceness => Int
  | .setNiceness _ => Except SystemFault Unit
  | .sleep _ => Unit
  | .now => Int
  | .changeDirectory _ => Except SystemFault Unit
  | .workingDirectory => Except SystemFault OctetText
  | .status _ _ => Except SystemFault FileStatus
  | .statusOpen _ => Except SystemFault FileStatus
  | .names _ => Except SystemFault (List OctetText)
  | .makeDirectory _ _ => Except SystemFault Unit
  | .removeDirectory _ => Except SystemFault Unit
  | .remove _ => Except SystemFault Unit
  | .rename _ _ => Except SystemFault Unit
  | .makeLink _ _ => Except SystemFault Unit
  | .makeQueue _ _ => Except SystemFault Unit
  | .addName _ _ => Except SystemFault Unit
  | .readLink _ => Except SystemFault OctetText
  | .setMode _ _ => Except SystemFault Unit
  | .setModified _ _ _ => Except SystemFault Unit
  | .setOwner _ _ _ _ => Except SystemFault Unit

/-- programs of calls -/
abbrev Calls := Interaction Call.Answer

/-- asks one call -/
def call (c : Call) : Calls (Call.Answer c) := Interaction.request c

/-- what a process does: it ends with an exit code -/
abbrev Routine := Calls Nat

/-- the permission bits that a file is created with, before the mask is applied -/
def openPermissions : Nat := 0o666

end ShellWorkers.Machine
