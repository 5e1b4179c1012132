import ShellWorkers.Machine.Permissions
import ShellWorkers.Machine.Process

/-!
# Answering calls

`State.serve` answers a call of a process, or says that it has to wait.  `State.step` lets the
process go on that has been ready for longest, and `State.runUntil` repeats this up to an instant.

A file can be executed if it is an image of a program, which starts with the mark of the binary
format and the name of the program in the table of programs, or if it names an interpreter in its
first line.
-/

namespace ShellWorkers.Machine

open Text (OctetText)

/-! ## programs -/

/-- a program: its arguments, the first being its name, and its variables -/
abbrev Program := List OctetText → Variables → Routine

/-- the programs that images can name -/
abbrev ProgramTable := OctetText → Option Program

/-- the first octets of every image -/
def imageMark : OctetText := "\x7fELF"

/-- an image of a program; images are larger than any text of interest -/
def imageOf (name : OctetText) : ByteArray :=
  OctetText.toBytes (imageMark ++ name ++ "\n" ++ String.ofList (List.replicate 5000 '\x00'))

/-- the beginning of a file, as far as it says what the file is -/
def beginning (content : ByteArray) : OctetText := .ofBytes (content.extract 0 256)

/-- the program that an image names -/
def imageName? (start : OctetText) : Option OctetText :=
  if start.startsWith imageMark then
    some (String.ofList ((start.toList.drop imageMark.length).takeWhile (· != '\n')))
  else none

/-- the library that a program needs first; nothing but the common one, unless it says otherwise -/
def firstLibrary (name : OctetText) : OctetText :=
  if ["chcon", "cp", "dir", "find", "id", "install", "ls", "mkdir", "mkfifo", "mknod", "mv",
      "runcon", "stat", "vdir"].contains name then "libselinux.so.1"
  else if name = "sed" then "libacl.so.1"
  else if name = "grep" then "libpcre2-8.so.0"
  else if name = "awk" || name = "mawk" then "libm.so.6"
  else if name = "bash" then "libtinfo.so.6"
  else if name = "expr" || name = "factor" then "libgmp.so.10"
  else "libc.so.6"

/-- what a program comes to whose libraries cannot be opened -/
def missingLibrary (name : OctetText) (args : List OctetText) : Routine := do
  let _ ← call (.write 2 (args.headD name ++ ": error while loading shared libraries: "
    ++ firstLibrary name ++ ": cannot open shared object file: Error 24\n"))
  pure 127

/-- a program that was found, with the name that its image gives it and its arguments -/
structure Loaded where
  name : OctetText
  program : Program
  args : List OctetText

/-- the interpreter that a first line names, and the one argument it may give it -/
def interpreter? (start : OctetText) : Option (OctetText × List OctetText) :=
  if start.startsWith "#!" then
    let isSpace (c : Char) : Bool := c == ' ' || c == '\t'
    let line := (((start.toList.drop 2).takeWhile (· != '\n')).reverse.dropWhile isSpace).reverse
    let line := line.dropWhile isSpace
    let program := line.takeWhile (!isSpace ·)
    let argument := (line.dropWhile (!isSpace ·)).dropWhile isSpace
    some (String.ofList program, if argument.isEmpty then [] else [String.ofList argument])
  else none

/-- how long an argument may be, with the octet that ends it -/
def argumentLimit : Nat := 131072

/-- how long all arguments together may be: a quarter of the stack, within bounds -/
def argumentsLimit (limits : Limits) : Nat :=
  let quarter := (limits.get .stackSize).amount.getD 33554432 / 4
  if quarter < argumentLimit then argumentLimit
  else if 6291456 < quarter then 6291456 else quarter

/-- whether arguments and variables are too long for a new program -/
def areTooLong (limits : Limits) (args : List OctetText) (vars : Variables) : Bool :=
  let lengths := args.map String.length ++ vars.map fun v => v.1.length + v.2.length + 1
  lengths.any (argumentLimit ≤ ·)
    || argumentsLimit limits < lengths.foldl (fun total n => total + n + 9) 0

namespace State

/-- the program that a path names, applied to its arguments; at most `fuel` interpreters lead to
it -/
def loadProgram (m : State) (table : ProgramTable) :
    (fuel : Nat) → NodeId → OctetText → List OctetText →
      Except SystemFault Loaded
  | 0, _, _, _ => .error .tooManyLinks
  | fuel + 1, cwd, path, args => do
    let id ← m.tree.findNode cwd path true
    if !m.tree.isProgram id then .error .accessDenied
    else
      let start := beginning (← m.tree.contentOf id)
      match imageName? start, interpreter? start with
      | some name, _ =>
        match table name with
        | some program => .ok ⟨name, program, args⟩
        | none => .error .noExec
      | none, some (program, argument) =>
        if program.isEmpty then .error .noExec
        else m.loadProgram table fuel cwd program (program :: argument ++ path :: args.drop 1)
      | none, none => .error .noExec

/-- how many interpreters may lead to a program -/
def interpreterLimit : Nat := 5

/-- tries the places of a search in order: what cannot be executed for want of permission is
remembered, what is not there is passed over -/
def searchProgram (m : State) (table : ProgramTable) (cwd : NodeId) (args : List OctetText)
    (remembered : SystemFault) :
    List OctetText → Except SystemFault Loaded
  | [] => .error remembered
  | path :: paths =>
    match m.loadProgram table interpreterLimit cwd path args with
    | .ok r => .ok r
    | .error e =>
      if e = .accessDenied then m.searchProgram table cwd args e paths
      else if e = .notFound || e = .notDirectory then
        m.searchProgram table cwd args remembered paths
      else .error e

/-- the places of a program in a search path; an empty entry is the working directory -/
def placesOf (searchPath name : OctetText) : List OctetText :=
  (searchPath.splitOn ":").map fun dir => if dir.isEmpty then name else dir ++ "/" ++ name

/-- a program by its path, or searched for when its name holds no separator -/
def findProgram (m : State) (table : ProgramTable) (cwd : NodeId) (searchPath name : OctetText)
    (args : List OctetText) : Except SystemFault Loaded :=
  if name.isEmpty then .error .notFound
  else if name.contains '/' then m.loadProgram table interpreterLimit cwd name args
  else if FileTree.nameLimit < name.length then .error .nameTooLong
  else m.searchProgram table cwd args .notFound (placesOf searchPath name)

/-! ## reading and writing -/

/-- octets with others in place of them from an offset on, with zeros before these if there are
too few -/
def overwrite (content : ByteArray) (offset : Nat) (octets : ByteArray) : ByteArray :=
  let gap := List.replicate (offset - content.size) (0 : UInt8)
  content.extract 0 offset ++ ByteArray.mk gap.toArray ++ octets
    ++ content.extract (offset + octets.size) content.size

/-- octets cut or filled with zeros to a length -/
def resize (content : ByteArray) (length : Nat) : ByteArray :=
  content.extract 0 length
    ++ ByteArray.mk (List.replicate (length - content.size) (0 : UInt8)).toArray

/-- octets in no particular order from an offset on -/
def noise (seed offset count : Nat) : ByteArray :=
  let octet (n : Nat) : UInt8 :=
    let z := UInt64.ofNat seed * 0xd1342543de82ef95 + UInt64.ofNat n * 0x9e3779b97f4a7c15
    let z := (z ^^^ (z >>> 30)) * 0xbf58476d1ce4e5b9
    let z := (z ^^^ (z >>> 27)) * 0x94d049bb133111eb
    (z >>> 56).toUInt8
  ByteArray.mk ((List.range count).map fun k => octet (offset + k)).toArray

/-- what is read of an open node from an offset on -/
def readNode (m : State) (i : Nat) (id : NodeId) (offset count : Nat) :
    Except SystemFault ByteArray :=
  match m.tree.body id with
  | .device .random => .ok (noise (m.tree.now.toNat + 1000003 * i) offset count)
  | .device .zeros => .ok (ByteArray.mk (List.replicate count (0 : UInt8)).toArray)
  | .device .full => .ok (ByteArray.mk (List.replicate count (0 : UInt8)).toArray)
  | _ => do return (← m.tree.contentOf id).extract offset (offset + count)

def read (m : State) (p : Process) (fd count : Nat) :
    Option (Except SystemFault OctetText × State) :=
  match m.openFile? p fd with
  | none => some (.error .badDescriptor, m)
  | some (i, .node id offset mode) =>
    if !mode.reads then some (.error .badDescriptor, m)
    else
      match m.readNode i id offset count with
      | .error e => some (.error e, m)
      | .ok octets =>
        some (.ok (.ofBytes octets),
          { m with files := m.files.setIfInBounds i (.node id (offset + octets.size) mode) })
  | some (_, .pipeEnd _ false _) => some (.error .badDescriptor, m)
  | some (_, .pipeEnd i true _) =>
    let pipe := m.pipe i
    if count = 0 then some (.ok "", m)
    else if pipe.size = 0 then
      if !pipe.fed && !m.isHeld i true then some (.ok "", m)
      else if !p.pending.isEmpty then some (.error .interrupted, m)
      else none
    else
      let (octets, pipe) := pipe.pull count
      some (.ok (.ofBytes octets), m.setPipe i pipe)

/-- a record takes octets -/
def record (m : State) (pid : Pid) (stream : Stream) (text : OctetText) : State :=
  m.modifyClient pid fun c => { c with capture := c.capture.read stream text.toOctets }

/-- a file would become larger than a process may make it -/
def refuseSize (m : State) (p : Process) : Except SystemFault Unit × State :=
  (.error .fileTooLarge, m.deliver Signal.fileSize p)

/-- writes to a node that is open; what is behind the largest size of a file is not written -/
def writeNode (m : State) (p : Process) (i : Nat) (id : NodeId) (offset : Nat) (mode : OpenMode)
    (octets : ByteArray) : Except SystemFault Unit × State :=
  match m.tree.body id with
  | .file content =>
    let start := if mode.appends then content.size else offset
    let room := match (p.limits.get .fileSize).amount with
      | some most => most - start
      | none => octets.size
    let fitting := if octets.size ≤ room then octets else octets.extract 0 room
    let m := { m with files :=
      m.files.setIfInBounds i (.node id (start + fitting.size) mode) }
    let m :=
      if fitting.isEmpty then m
      else if start = content.size then
        { m with tree := m.tree.setContent id (content ++ fitting) }
      else { m with tree := m.tree.setContent id (overwrite content start fitting) }
    if octets.size ≤ room then (.ok (), m) else m.refuseSize p
  | .device .full => (.error .noSpace, m)
  | _ => (.ok (), m)

def write (m : State) (p : Process) (fd : Nat) (text : OctetText) :
    Option (Except SystemFault Unit × State) :=
  match m.openFile? p fd with
  | none => some (.error .badDescriptor, m)
  | some (i, .node id offset mode) =>
    if !mode.writes then some (.error .badDescriptor, m)
    else some (m.writeNode p i id offset mode text.toBytes)
  | some (_, .pipeEnd _ _ false) => some (.error .badDescriptor, m)
  | some (_, .pipeEnd i _ true) =>
    let pipe := m.pipe i
    match pipe.drain with
    | some (pid, stream) => some (.ok (), m.record pid stream text)
    | none =>
      if !m.isHeld i false then some (.error .brokenPipe, m.deliver Signal.pipe p)
      else if Pipe.capacity ≤ pipe.size then none
      else some (.ok (), m.setPipe i (pipe.push text.toBytes))

/-- moves the place where a file is read and written next -/
def seek (m : State) (p : Process) (fd : Nat) (amount : Int) : Except SystemFault Nat × State :=
  match m.openFile? p fd with
  | none => (.error .badDescriptor, m)
  | some (_, .pipeEnd _ _ _) => (.error .badSeek, m)
  | some (i, .node id offset mode) =>
    let place := (offset : Int) + amount
    if place < 0 then (.error .invalidArgument, m)
    else
      (.ok place.toNat, { m with files := m.files.setIfInBounds i (.node id place.toNat mode) })

def setLength (m : State) (p : Process) (fd length : Nat) : Except SystemFault Unit × State :=
  match m.openFile? p fd with
  | some (_, .node id _ mode) =>
    match m.tree.body id with
    | .file content =>
      if !mode.writes then (.error .invalidArgument, m)
      else if content.size < length && length ≠ 0 && !p.limits.allows .fileSize (length - 1) then
        m.refuseSize p
      else (.ok (), { m with tree := m.tree.setContent id (resize content length) })
    | _ => (.error .invalidArgument, m)
  | some _ => (.error .invalidArgument, m)
  | none => (.error .badDescriptor, m)

/-! ## opening -/

/-- a new open file under the least free descriptor -/
def addOpenFile (m : State) (p : Process) (f : OpenFile) : Nat × State :=
  let fd := p.freeDescriptor 0
  let i := m.files.size
  (fd, { m with files := m.files.push f }.modifyProcess p.pid (·.setDescriptor fd ⟨i, false⟩))

/-- the pipe behind a queue; it is empty unless a process has it open -/
def queuePipe (m : State) (id : NodeId) : Nat × State :=
  match m.queues.lookup id with
  | some i =>
    if m.isHeld i true || m.isHeld i false then (i, m) else (i, m.setPipe i .empty)
  | none =>
    let i := m.pipes.size
    (i, { m with pipes := m.pipes.push .empty, queues := (id, i) :: m.queues })

/-- whether a process waits to open a queue, to read it or to write to it -/
def awaitsQueue (m : State) (id : NodeId) (writing : Bool) : Bool :=
  m.processes.any fun q =>
    match q.ended, q.routine with
    | none, .ask (.openFile path mode _) _ =>
      (if writing then mode.writes else mode.reads)
        && (m.tree.findNode q.directory path true).toOption == some id
    | _, _ => false

/-- opens a queue, which waits for the other side -/
def openQueue (m : State) (p : Process) (id : NodeId) (mode : OpenMode) : Option (Nat × State) :=
  let (i, m) := m.queuePipe id
  let isMet (writing : Bool) : Bool := m.isHeld i writing || m.awaitsQueue id writing
  if (mode.reads && mode.writes) || isMet mode.reads then
    some (m.addOpenFile p (.pipeEnd i mode.reads mode.writes))
  else none

/-- opens a node -/
def openNode (m : State) (p : Process) (id : NodeId) (mode : OpenMode) :
    Option (Except SystemFault Nat × State) :=
  let opened (m : State) : Option (Except SystemFault Nat × State) :=
    let (fd, m) := m.addOpenFile p (.node id 0 mode)
    some (.ok fd, m)
  let asked := (if mode.reads then Mode.reading else 0)
    + (if mode.writes || mode.truncates then Mode.writing else 0)
  if m.tree.isDirectoryNode id && mode.writes then some (.error .isDirectory, m)
  else if !m.tree.permits id asked then some (.error .accessDenied, m)
  else
    match m.tree.body id with
    | .file _ =>
      opened (if mode.truncates then { m with tree := m.tree.setContent id .empty } else m)
    | .device .terminal => some (.error .noDevice, m)
    | .queue => (m.openQueue p id mode).map fun (fd, m) => (.ok fd, m)
    | _ => opened m

/-- opens what a path names; nothing while that has to wait -/
def openPath (m : State) (p : Process) (path : OctetText) (mode : OpenMode) (permissions : Nat) :
    Option (Except SystemFault Nat × State) :=
  match m.tree.find p.directory path true with
  | .error e => some (.error e, m)
  | .ok e =>
    match e.node? with
    | none =>
      if !mode.creates then some (.error .notFound, m)
      else if !m.tree.isPlaced e.dir then some (.error .notFound, m)
      else if !m.tree.permits e.dir Mode.writing then some (.error .accessDenied, m)
      else
        let (id, tree) := m.tree.addNode e.dir e.name (.file .empty)
          (permissions &&& (0o777 ^^^ (p.mask &&& 0o777)))
        let (fd, m) := { m with tree := tree }.addOpenFile p (.node id 0 mode)
        some (.ok fd, m)
    | some id =>
      if mode.exclusive then some (.error .fileExists, m)
      else
        match m.tree.body id with
        | .opened fd =>
          match m.openFile? p fd with
          | none => some (.error .notFound, m)
          | some (_, .node id _ _) => m.openNode p id mode
          | some (_, .pipeEnd i _ _) =>
            let (fd, m) := m.addOpenFile p (.pipeEnd i mode.reads mode.writes)
            some (.ok fd, m)
        | _ => m.openNode p id mode

/-- opens a path; one that ends in a separator names no file that could be created -/
def openFile (m : State) (p : Process) (path : OctetText) (mode : OpenMode) (permissions : Nat) :
    Option (Except SystemFault Nat × State) :=
  if !p.limits.allows .openFiles (p.freeDescriptor 0) then some (.error .tooManyFiles, m)
  else if mode.creates && path.endsWith "/" then
    match m.tree.find p.directory (FileTree.withoutSlashes path) true with
    | .error e => some (.error e, m)
    | .ok _ => some (.error .isDirectory, m)
  else m.openPath p path mode permissions

/-! ## descriptors -/

/-- makes a descriptor stand for an open file -/
def duplicate (m : State) (p : Process) (fd target : Nat) : Except SystemFault State :=
  match p.files.lookup fd with
  | none => .error .badDescriptor
  | some d =>
    if fd = target then .ok m
    else if !p.limits.allows .openFiles target then .error .badDescriptor
    else .ok (m.modifyProcess p.pid (·.setDescriptor target ⟨d.file, false⟩)).closeStreams

/-- another descriptor for an open file, the least from `least` on that is free -/
def duplicateFrom (m : State) (p : Process) (fd least : Nat) : Except SystemFault Nat × State :=
  match p.files.lookup fd with
  | none => (.error .badDescriptor, m)
  | some d =>
    let target := p.freeDescriptor least
    if !p.limits.allows .openFiles least then (.error .invalidArgument, m)
    else if !p.limits.allows .openFiles target then (.error .tooManyFiles, m)
    else (.ok target, m.modifyProcess p.pid (·.setDescriptor target ⟨d.file, true⟩))

def makePipe (m : State) (p : Process) : Except SystemFault (Nat × Nat) × State :=
  if !p.limits.allows .openFiles (p.freeDescriptor (p.freeDescriptor 0 + 1)) then
    (.error .tooManyFiles, m)
  else
    let i := m.pipes.size
    let m := { m with pipes := m.pipes.push .empty }
    let (reading, m) := m.addOpenFile p (.pipeEnd i true false)
    let p := (m.process? p.pid).getD p
    let (writing, m) := m.addOpenFile p (.pipeEnd i false true)
    (.ok (reading, writing), m)

/-! ## children -/

/-- a child that has ended, if there is one to be waited for -/
def wait (m : State) (p : Process) (child : Option Pid) (block : Bool) :
    Option (Except SystemFault (Option (Pid × Host.ExitStatus)) × State) :=
  let children := m.processes.filter fun q =>
    q.parent == p.pid && (child.isNone || child == some q.pid)
  match children.find? (·.ended.isSome) with
  | some q =>
    some (.ok ((q.ended.map fun status => (q.pid, status))),
      { m with processes := m.processes.filter (·.pid ≠ q.pid) })
  | none =>
    if children.isEmpty then some (.error .noChild, m)
    else if !block then some (.ok none, m)
    else if !p.pending.isEmpty then some (.error .interrupted, m)
    else none

def sendSignal (m : State) (p : Process) (target : Int) (signal : Nat) :
    Except SystemFault Unit × State :=
  match m.targets p.group target with
  | [] => (.error .noProcess, m)
  | ps => (.ok (), ps.foldl (fun m q => m.deliver signal q) m)

def nodeStatus (m : State) (id : NodeId) : FileStatus :=
  let n := m.tree.node id
  let status (kind : FileKind) (size : Nat) : FileStatus :=
    ⟨id, kind, size, n.mode, m.tree.nameCount id, n.modified⟩
  match n.body with
  | .file content => status .file content.size
  | .directory _ _ => status .directory 4096
  | .link target => status .link target.length
  | .queue => status .queue 0
  | _ => status .device 0

/-- the status of what a descriptor stands for; a pipe has no node -/
def statusOfOpen (m : State) (p : Process) (fd : Nat) : Except SystemFault FileStatus :=
  match m.openFile? p fd with
  | some (_, .node id _ _) => .ok (m.nodeStatus id)
  | some (_, .pipeEnd i _ _) =>
    .ok ⟨m.tree.nodes.size + i, .queue, 0, 0o600, 1, m.tree.now⟩
  | none => .error .badDescriptor

def statusOf (m : State) (p : Process) (path : OctetText) (follow : Bool) :
    Except SystemFault FileStatus := do
  let id ← m.tree.findNode p.directory path follow
  match m.tree.body id, follow with
  | .opened fd, true =>
    match m.statusOfOpen p fd with
    | .ok s => .ok s
    | .error _ => .error .notFound
  | _, _ => .ok (m.nodeStatus id)

def changeDirectory (m : State) (p : Process) (path : OctetText) : Except SystemFault State := do
  let id ← m.tree.findNode p.directory path true
  if !m.tree.isDirectoryNode id then .error .notDirectory
  else if !m.tree.permits id Mode.reaching then .error .accessDenied
  else .ok (m.modifyProcess p.pid ({ · with directory := id }))

def readLink (m : State) (p : Process) (path : OctetText) : Except SystemFault OctetText := do
  match m.tree.body (← m.tree.findNode p.directory path false) with
  | .link target => .ok target
  | _ => .error .invalidArgument

/-! ## all calls -/

/-- an operation on the files of the machine -/
def onTree (m : State) (r : Except SystemFault FileTree) : Except SystemFault Unit × State :=
  match r with
  | .ok tree => (.ok (), { m with tree := tree })
  | .error e => (.error e, m)

/-- an operation on the machine -/
def onState (m : State) (r : Except SystemFault State) : Except SystemFault Unit × State :=
  match r with
  | .ok m => (.ok (), m)
  | .error e => (.error e, m)

/-- a change of a node that a path names -/
def onNode (m : State) (p : Process) (path : OctetText) (follow : Bool)
    (f : FileTree → NodeId → FileTree) : Except SystemFault Unit × State :=
  m.onTree ((m.tree.findNode p.directory path follow).map (f m.tree))

/-- Every file belongs to the one user and the one group there are, with the number `0`.  Nobody may
give a file away; a file that is kept loses the marks with which it would run as its owner. -/
def setOwner (m : State) (p : Process) (path : OctetText) (follow : Bool)
    (user group : Option Nat) : Except SystemFault Unit × State :=
  match m.tree.findNode p.directory path follow with
  | .error e => (.error e, m)
  | .ok id =>
    if user.getD 0 ≠ 0 || group.getD 0 ≠ 0 then (.error .notPermitted, m)
    else if m.tree.isDirectoryNode id then (.ok (), m)
    else
      let mode := (m.tree.node id).mode
      let lost := 0o4000 ||| (if mode &&& 0o010 ≠ 0 then 0o2000 else 0)
      if mode &&& lost = 0 then (.ok (), m)
      else (.ok (), { m with tree := m.tree.setMode id (Mode.without mode lost) })

/-- the permission bits of something new -/
def permitted (p : Process) (permissions : Nat) : Nat :=
  permissions &&& (0o7777 ^^^ (p.mask &&& 0o777))

/-- The answer to a call of the process `p` and the machine after it; nothing while the call has
to wait.  Forks and executions are left to `step`. -/
def serve (m : State) (p : Process) : (c : Call) → Option (c.Answer × State)
  | .openFile path mode permissions => m.openFile p path mode permissions
  | .close fd =>
    if (p.files.lookup fd).isNone then some (.error .badDescriptor, m)
    else some (.ok (), (m.modifyProcess p.pid (·.dropDescriptor fd)).closeStreams)
  | .read fd count => m.read p fd count
  | .write fd text => m.write p fd text
  | .seek fd amount => some (m.seek p fd amount)
  | .setLength fd length => some (m.setLength p fd length)
  | .duplicate fd target => some (m.onState (m.duplicate p fd target))
  | .duplicateFrom fd least => some (m.duplicateFrom p fd least)
  | .pipe => some (m.makePipe p)
  | .fork => none
  | .execute _ _ _ => none
  | .wait child block => m.wait p child block
  | .kill target signal => some (m.sendSignal p target signal)
  | .self => some (p.pid, m)
  | .parent => some (p.parent, m)
  | .setDisposition signal disposition =>
    some ((), m.modifyProcess p.pid fun p =>
      { p with dispositions := (signal, disposition) :: p.dispositions.filter (·.1 ≠ signal) })
  | .disposition signal => some (p.disposition signal, m)
  | .takeSignals =>
    if p.pending.isEmpty then some ([], m)
    else some (p.pending, m.modifyProcess p.pid ({ · with pending := [] }))
  | .setMask none => some (p.mask, m)
  | .setMask (some mask) => some (p.mask, m.modifyProcess p.pid ({ · with mask := mask }))
  | .limit resource => some (p.limits.get resource, m)
  | .setLimit resource limit =>
    some (m.onState ((p.limits.set resource limit).map fun limits =>
      m.modifyProcess p.pid ({ · with limits := limits })))
  | .niceness => some (p.niceness, m)
  | .setNiceness wanted =>
    some (m.onState ((setNiceness p.niceness wanted).map fun niceness =>
      m.modifyProcess p.pid ({ · with niceness := niceness })))
  | .sleep _ => some ((), m)
  | .now => some (m.now, m)
  | .changeDirectory path => some (m.onState (m.changeDirectory p path))
  | .workingDirectory =>
    some (match m.tree.pathOf? p.directory with
      | some path => .ok path
      | none => .error .notFound, m)
  | .status path follow => some (m.statusOf p path follow, m)
  | .statusOpen fd => some (m.statusOfOpen p fd, m)
  | .names path => some ((m.tree.findNode p.directory path true).bind m.tree.names, m)
  | .makeDirectory path permissions =>
    some (m.onTree (m.tree.makeDirectory p.directory path (permitted p permissions)))
  | .removeDirectory path => some (m.onTree (m.tree.removeDirectory p.directory path))
  | .remove path => some (m.onTree (m.tree.remove p.directory path))
  | .rename source target => some (m.onTree (m.tree.rename p.directory source target))
  | .makeLink target path => some (m.onTree (m.tree.makeLink p.directory target path))
  | .makeQueue path permissions =>
    some (m.onTree (m.tree.makeQueue p.directory path (permitted p permissions)))
  | .addName path name => some (m.onTree (m.tree.addName p.directory path name))
  | .readLink path => some (m.readLink p path, m)
  | .setMode path mode => some (m.onNode p path true fun t id => t.setMode id mode)
  | .setModified path follow instant =>
    some (m.onNode p path follow fun t id => t.setModified id instant)
  | .setOwner path follow user group => some (m.setOwner p path follow user group)

/-! ## time -/

/-- the time that a call takes, in nanoseconds -/
def cost : Call → Nat
  | .fork => 250000
  | .execute _ _ _ => 350000
  | .sleep amount => 2000 + amount.nanos
  | _ => 2000

/-- a process goes on with a routine after a call -/
def resume (m : State) (pid : Pid) (routine : Routine) (elapsed : Nat) : State :=
  m.modifyProcess pid fun p => { p with routine := routine, readyAt := m.clock + elapsed }

/-- a process forks: the child goes on with the same routine -/
def fork (m : State) (p : Process) (next : Option Pid → Routine) : State :=
  let child := m.nextPid
  let m := m.resume p.pid (next (some child)) (cost .fork)
  { m with
    nextPid := child + 1
    processes := m.processes ++ [{ p with
      pid := child, parent := p.pid, routine := next none, pending := []
      readyAt := m.clock + cost .fork }] }

/-- A process goes on with a program.  To load its libraries takes a free descriptor. -/
def execute (m : State) (table : ProgramTable) (p : Process) (path : OctetText)
    (args : List OctetText) (vars : Variables) (next : SystemFault → Routine) : State :=
  match m.loadProgram table interpreterLimit p.directory path args with
  | .error e => m.resume p.pid (next e) (cost .self)
  | .ok loaded =>
    if areTooLong p.limits loaded.args vars then m.resume p.pid (next .tooLong) (cost .self)
    else
      let p := { p with
        files := p.files.filter (!·.2.closeOnExecute)
        dispositions := p.dispositions.filter (·.2 = .ignored)
        pending := [] }
      let routine :=
        if p.limits.allows .openFiles (p.freeDescriptor 0) then loaded.program loaded.args vars
        else missingLibrary loaded.name loaded.args
      let m := m.modifyProcess p.pid fun _ => p
      (m.resume p.pid routine (cost (.execute path args vars))).closeStreams

/-- lets a process go on, unless its call has to wait -/
def advance (m : State) (table : ProgramTable) (p : Process) : Option State :=
  let m := if m.clock < p.readyAt then m.setClock p.readyAt else m
  match p.routine with
  | .done code => some (m.endProcess p.pid (.exited (code % 256)))
  | .ask c next =>
    match c, next with
    | .fork, next => some (m.fork p next)
    | .execute path args vars, next => some (m.execute table p path args vars next)
    | c, next =>
      match m.serve p c with
      | none => none
      | some (answer, m) => some (m.resume p.pid (next answer) (cost c))

/-- processes in the order of the instants from which on they can go on -/
def queue (m : State) (before : Nat) : List Process :=
  (m.processes.filter fun p => p.ended.isNone && !p.stopped && p.readyAt ≤ before).mergeSort
    (fun p q => p.readyAt ≤ q.readyAt)

/-- lets the first process go on that can before an instant -/
def step (m : State) (table : ProgramTable) (before : Nat) : Option State :=
  (m.queue before).findSome? (m.advance table)

/-- runs the machine up to an instant, or until `finished` -/
def runUntil (table : ProgramTable) (before : Nat) (finished : State → Bool) :
    (fuel : Nat) → State → State
  | 0, m => m
  | fuel + 1, m =>
    if finished m then m
    else
      match m.step table before with
      | none => m
      | some m => runUntil table before finished fuel m

end State

end ShellWorkers.Machine
