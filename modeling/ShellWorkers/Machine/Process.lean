import ShellWorkers.Capture
import ShellWorkers.Machine.Call

/-!
# Processes, pipes and open files

The state of a machine: its files, the table of open files, the pipes, the processes, and for
every process that was started from outside a `Client`, with the record of its output.

Time is virtual.  Every process has an instant from which on it can go on; the clock of the
machine is the instant of its last step.
-/

namespace ShellWorkers.Machine

open Text (OctetText)

/-! ## open files -/

inductive OpenFile where
  | node (id : NodeId) (offset : Nat) (mode : OpenMode)
  | pipeEnd (pipe : Nat) (reads writes : Bool)
  deriving Repr

structure Descriptor where
  /-- index in the table of open files -/
  file : Nat
  closeOnExecute : Bool
  deriving Repr

/-! ## pipes -/

/-- what flows between a writer and a reader -/
structure Pipe where
  /-- octets to be read, in order; `taken` of the first have been read -/
  front : List ByteArray
  taken : Nat
  /-- octets behind them, last first -/
  back : List ByteArray
  size : Nat
  /-- more may come from outside -/
  fed : Bool
  /-- the client, and the stream of it, whose record takes what is written -/
  drain : Option (Nat × Stream)

namespace Pipe

def empty : Pipe := ⟨[], 0, [], 0, false, none⟩

/-- how much a pipe holds before its writers wait -/
def capacity : Nat := 65536

def push (p : Pipe) (octets : ByteArray) : Pipe :=
  if octets.isEmpty then p
  else { p with back := octets :: p.back, size := p.size + octets.size }

/-- takes at most `count` octets from arrays in order, the first `skipped` of which are gone; the
rest, and how many of it are gone -/
def takeOctets (count skipped : Nat) : List ByteArray → ByteArray → ByteArray × List ByteArray × Nat
  | [], read => (read, [], 0)
  | a :: as, read =>
    let left := a.size - skipped
    if count < left then (read ++ a.extract skipped (skipped + count), a :: as, skipped + count)
    else takeOctets (count - left) 0 as (read ++ a.extract skipped a.size)

/-- at most `count` octets, and the pipe without them -/
def pull (p : Pipe) (count : Nat) : ByteArray × Pipe :=
  let front := if p.front.isEmpty then p.back.reverse else p.front
  let back := if p.front.isEmpty then [] else p.back
  let (read, front, taken) := takeOctets count p.taken front .empty
  (read, { p with front := front, taken := taken, back := back, size := p.size - read.size })

end Pipe

/-! ## processes -/

structure Process where
  pid : Pid
  parent : Pid
  group : Pid
  routine : Routine
  files : List (Nat × Descriptor)
  directory : NodeId
  /-- the permission bits that new files do not get -/
  mask : Nat
  limits : Limits
  niceness : Int
  dispositions : List (Nat × Disposition)
  /-- caught signals that have arrived, in the order of their numbers -/
  pending : List Nat
  stopped : Bool
  /-- signals that have arrived while it was stopped -/
  held : List Nat
  /-- the instant from which on the process can go on -/
  readyAt : Nat
  /-- how it ended, until its parent has asked -/
  ended : Option Host.ExitStatus

namespace Process

def disposition (p : Process) (signal : Nat) : Disposition :=
  if Signal.isFinal signal then .default else (p.dispositions.lookup signal).getD .default

/-- a signal among those that have arrived -/
def insertSignal (signal : Nat) : List Nat → List Nat
  | [] => [signal]
  | s :: ss =>
    if signal < s then signal :: s :: ss
    else if signal = s then s :: ss
    else s :: insertSignal signal ss

/-- the least descriptor from `least` on that is free; there are fewer than `fuel` before it -/
def freeFrom (p : Process) : (fuel least : Nat) → Nat
  | 0, least => least
  | fuel + 1, least =>
    if (p.files.lookup least).isSome then p.freeFrom fuel (least + 1) else least

def freeDescriptor (p : Process) (least : Nat) : Nat := p.freeFrom p.files.length least

def setDescriptor (p : Process) (fd : Nat) (d : Descriptor) : Process :=
  { p with files := (fd, d) :: p.files.filter (·.1 ≠ fd) }

def dropDescriptor (p : Process) (fd : Nat) : Process :=
  { p with files := p.files.filter (·.1 ≠ fd) }

end Process

/-! ## clients -/

/-- a process that was started from outside -/
structure Client where
  pid : Pid
  inputPipe : Nat
  outputPipe : Nat
  errorPipe : Nat
  capture : Capture
  outputOpen : Bool
  errorsOpen : Bool
  ended : Option Host.ExitStatus

/-! ## the machine -/

structure State where
  tree : FileTree
  files : Array OpenFile
  pipes : Array Pipe
  /-- the pipes behind queues that have a name -/
  queues : List (NodeId × Nat)
  processes : List Process
  clients : List Client
  /-- the instant of the last step -/
  clock : Nat
  nextPid : Pid

namespace State

/-- the instant at which the clock of a machine starts, in nanoseconds since the epoch -/
def clockStart : Nat := 1750000000000000000

/-- the times of files are whole numbers of ticks -/
def tick : Nat := 4000000

/-- sets the clock, and with it the instant of the next change of a file -/
def setClock (m : State) (clock : Nat) : State :=
  { m with
    clock := clock, tree := { m.tree with now := (clockStart + clock / tick * tick : Nat) } }

/-- the present, in nanoseconds since the epoch -/
def now (m : State) : Int := (clockStart + m.clock : Nat)

def process? (m : State) (pid : Pid) : Option Process := m.processes.find? (·.pid = pid)

def modifyProcess (m : State) (pid : Pid) (f : Process → Process) : State :=
  { m with processes := m.processes.map fun p => if p.pid = pid then f p else p }

def modifyClient (m : State) (pid : Pid) (f : Client → Client) : State :=
  { m with clients := m.clients.map fun c => if c.pid = pid then f c else c }

def client? (m : State) (pid : Pid) : Option Client := m.clients.find? (·.pid = pid)

def pipe (m : State) (i : Nat) : Pipe := m.pipes.getD i .empty

def setPipe (m : State) (i : Nat) (p : Pipe) : State :=
  { m with pipes := m.pipes.setIfInBounds i p }

/-- what a descriptor of a process stands for, with its index in the table -/
def openFile? (m : State) (p : Process) (fd : Nat) : Option (Nat × OpenFile) := do
  let d ← p.files.lookup fd
  return (d.file, ← m.files[d.file]?)

/-- whether a process holds an end of a pipe -/
def isHeld (m : State) (pipe : Nat) (writing : Bool) : Bool :=
  m.processes.any fun p => p.files.any fun (_, d) =>
    match m.files[d.file]? with
    | some (.pipeEnd i reads writes) => i == pipe && (if writing then writes else reads)
    | _ => false

/-- the streams that no process can write to any more are at their end -/
def closeStreams (m : State) : State :=
  { m with clients := m.clients.map fun c =>
      let c := if c.outputOpen && !m.isHeld c.outputPipe true then
        { c with outputOpen := false, capture := c.capture.close .output } else c
      if c.errorsOpen && !m.isHeld c.errorPipe true then
        { c with errorsOpen := false, capture := c.capture.close .errors } else c }

/-- the process that inherits the children of others -/
def reaper : Pid := 1

/-- the pid of what starts processes from outside -/
def outside : Pid := 0

/-- the end of a process: its descriptors are closed, its children go to the reaper, and it stays
until its parent has asked, unless nobody will -/
def endProcess (m : State) (pid : Pid) (status : Host.ExitStatus) : State :=
  match m.process? pid with
  | none => m
  | some p =>
    let others := (m.processes.filter (·.pid ≠ pid)).map fun q =>
      if q.parent = pid then { q with parent := reaper }
      else if q.pid = p.parent && q.disposition 17 == .caught then
        { q with pending := Process.insertSignal 17 q.pending }
      else q
    let others := others.filter fun q => !(q.parent == reaper && q.ended.isSome)
    let m := if p.parent = outside then
        { m with processes := others }.modifyClient pid fun c => { c with ended := some status }
      else if p.parent = reaper then { m with processes := others }
      else { m with processes := { p with files := [], ended := some status } :: others }
    m.closeStreams

/-- a signal takes its effect on a process -/
def affect (m : State) (signal : Nat) (p : Process) : State :=
  match p.disposition signal with
  | .ignored => m
  | .caught => m.modifyProcess p.pid fun p =>
    { p with pending := Process.insertSignal signal p.pending }
  | .default =>
    match Signal.effect signal with
    | .nothing => m
    | .stops => m.modifyProcess p.pid ({ · with stopped := true })
    | .ends => m.endProcess p.pid (.killed signal)

/-- A signal arrives at a process.  One that is stopped is reached only by the signal to go on,
which brings those that have arrived before, and by the one that nothing survives. -/
def deliver (m : State) (signal : Nat) (p : Process) : State :=
  if signal = 0 || p.ended.isSome then m
  else if !p.stopped || signal = Signal.kill then m.affect signal p
  else if signal = Signal.goOn then
    let m := m.modifyProcess p.pid ({ · with stopped := false, held := [] })
    (p.held ++ [signal]).foldl (fun m s => m.affect s p) m
  else m.modifyProcess p.pid fun p => { p with held := p.held ++ [signal] }

/-- the processes that a target of a signal names, for a process of the group `group` -/
def targets (m : State) (group : Pid) (target : Int) : List Process :=
  if 0 < target then m.processes.filter (·.pid = target.toNat)
  else if target = 0 then m.processes.filter (·.group = group)
  else m.processes.filter (·.group = (-target).toNat)

def killGroup (m : State) (group : Pid) (signal : Nat) : State :=
  (m.processes.filter (·.group = group)).foldl (fun m p => m.deliver signal p) m

end State

end ShellWorkers.Machine
