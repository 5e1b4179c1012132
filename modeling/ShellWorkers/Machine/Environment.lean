import ShellWorkers.Machine.Kernel
import ShellWorkers.Shell

/-!
# A machine as a host

A `Machine` answers the requests of a build: it is a machine state with a clock of its own for
whoever asks, since time passes between two requests too.  Before a request is answered, the
processes run up to the present; to wait for a process is to let them run until it has ended.

`Machine.run` runs a program of requests, and `Machine.perform` one that can fail.
-/

namespace ShellWorkers

open Machine (State ProgramTable Client NodeId FileTree Variables)
open Text (OctetText)

structure Machine where
  state : Machine.State
  /-- the present of whoever asks -/
  now : Nat
  /-- the working directory of whoever asks -/
  directory : Machine.NodeId
  /-- what new processes find in their environment -/
  vars : Machine.Variables
  /-- where programs are searched for -/
  searchPath : OctetText
  cores : Nat

namespace Machine

/-! ## time -/

/-- more steps than any run takes -/
def stepLimit : Nat := 1000000000

/-- the time that passes while a request is answered -/
def requestTime : Nat := 5000

/-- the time that a new process takes to start -/
def startTime : Nat := 1000000

/-- the time that whoever asks needs to start one -/
def spawnTime : Nat := 400000

/-- what the clock of whoever asks showed when the machine's own clock stood at its beginning -/
def upTime : Nat := 100000000000000

/-- sets the instant of the next change of a file to the present -/
def setClock (m : Machine) : Machine :=
  if m.state.clock < m.now then { m with state := m.state.setClock m.now } else m

/-- the processes run up to the present -/
def catchUp (table : ProgramTable) (m : Machine) : Machine :=
  Machine.setClock
    { m with state := State.runUntil table m.now (fun _ => false) stepLimit m.state }

/-- the processes run until something holds -/
def runUntil (table : ProgramTable) (finished : State → Bool) (m : Machine) : Machine :=
  let state := State.runUntil table (Nat.pow 2 200) finished stepLimit m.state
  { m with state := state, now := if m.now < state.clock then state.clock else m.now }

/-! ## files -/

def hasZero (text : String) : Bool := text.toList.contains '\x00'

/-- a path as octets, unless it holds a zero -/
def pathOctets (path : String) : Except SystemFault OctetText :=
  if hasZero path then .error .zeroInFileName else .ok (OctetText.ofText path)

def setTree (m : Machine) (tree : FileTree) : Machine :=
  { m with state := { m.state with tree := tree } }

/-- the node that a path names, links followed -/
def findNode (m : Machine) (path : String) : Except SystemFault NodeId := do
  m.state.tree.findNode m.directory (← pathOctets path) true

def isDirectory (m : Machine) (path : String) : Bool :=
  match m.findNode path with
  | .ok id => m.state.tree.isDirectoryNode id
  | .error _ => false

def readFile (m : Machine) (path : String) : Except SystemFault (List UInt8) := do
  return (← m.state.tree.readFile m.directory (← pathOctets path)).toList

def removeFile (m : Machine) (path : String) : Except SystemFault Unit × Machine :=
  match (do m.state.tree.remove m.directory (← pathOctets path)) with
  | .ok tree => (.ok (), m.setTree tree)
  | .error e => (.error e, m)

def writeFile (m : Machine) (path text : String) : Except SystemFault Unit × Machine :=
  let content := (OctetText.ofText text).toBytes
  match (do m.state.tree.writeFile m.directory (← pathOctets path) content) with
  | .ok tree => (.ok (), m.setTree tree)
  | .error e => (.error e, m)

/-- a file is a library if it is in the binary format -/
def canLoad (m : Machine) (path : String) : Bool :=
  match (do m.state.tree.readFile m.directory (← pathOctets path)) with
  | .ok content => (beginning content).startsWith imageMark
  | .error _ => false

/-- whether a path names a file that can be executed -/
def isExecutable (m : Machine) (path : String) : Bool :=
  match m.findNode path with
  | .ok id => m.state.tree.isProgram id
  | .error _ => false

/-- the working directory of whoever asks, as text -/
def workingDirectory? (m : Machine) : Option String :=
  (m.state.tree.pathOf? m.directory).bind fun path => Text.decode? path.toOctets

/-- a path that was found, seen from the root; an absolute one stays as it is -/
def fromRoot (m : Machine) (path : String) : String :=
  if path.startsWith "/" then path else Path.absolute (m.workingDirectory?.getD "/") path

/-- The shell to use when none is named: `named` is the line of the environment, `path` its search
path and `home` its home directory. -/
def defaultShell (m : Machine) (named path home : Option String) : Shell :=
  Shell.default named
    (((searchCandidates home (path.getD "") "sh").find? m.isExecutable).map m.fromRoot)

/-! ## processes -/

/-- a pipe and its number -/
def addPipe (s : State) (p : Pipe) : Nat × State :=
  (s.pipes.size, { s with pipes := s.pipes.push p })

/-- an open end of a pipe and its number -/
def addEnd (s : State) (pipe : Nat) (writes : Bool) : Nat × State :=
  (s.files.size, { s with files := s.files.push (.pipeEnd pipe (!writes) writes) })

/-- starts a process with its three streams connected to the outside -/
def launch (m : Machine) (directory : NodeId) (program : Program) (args : List OctetText) :
    Nat × Machine :=
  let pid := m.state.nextPid
  let (input, s) := addPipe m.state { Pipe.empty with fed := true }
  let (output, s) := addPipe s { Pipe.empty with drain := some (pid, .output) }
  let (errors, s) := addPipe s { Pipe.empty with drain := some (pid, .errors) }
  let (file0, s) := addEnd s input false
  let (file1, s) := addEnd s output true
  let (file2, s) := addEnd s errors true
  let p : Process := {
    pid := pid
    parent := State.outside
    group := pid
    routine := program args m.vars
    files := [(0, ⟨file0, false⟩), (1, ⟨file1, false⟩), (2, ⟨file2, false⟩)]
    directory := directory
    mask := 0o022
    limits := []
    niceness := 0
    dispositions := []
    pending := []
    stopped := false
    held := []
    readyAt := m.now + startTime
    ended := none }
  let s := { s with
    nextPid := pid + 1
    processes := s.processes ++ [p]
    clients := s.clients ++ [⟨pid, input, output, errors, .empty, true, true, none⟩] }
  (pid, { m with state := s, now := m.now + spawnTime })

def spawn (table : ProgramTable) (m : Machine) (program : String) (args : List String)
    (dir : String) : Except SystemFault Host.Process × Machine :=
  if hasZero program || args.any hasZero || hasZero dir then (.error .zeroInArgument, m)
  else
    let name := OctetText.ofText program
    let argv := name :: args.map OctetText.ofText
    match (do
      let directory ← m.findNode dir
      if m.state.tree.isDirectoryNode directory then
        let found ← m.state.findProgram table directory m.searchPath name argv
        return (directory, found)
      else .error .notDirectory) with
    | .error e => (.error e, m)
    | .ok (directory, found) =>
      let (pid, m) := m.launch directory found.program found.args
      (.ok ⟨pid⟩, m)

/-- feeds a text to a process -/
def send (m : Machine) (pid : Nat) (text : String) : Machine :=
  match m.state.client? pid with
  | none => m
  | some c =>
    let pipe := (m.state.pipe c.inputPipe).push (OctetText.ofText text).toBytes
    { m with state := m.state.setPipe c.inputPipe pipe }

def closeInput (m : Machine) (pid : Nat) : Machine :=
  match m.state.client? pid with
  | none => m
  | some c =>
    { m with state :=
        m.state.setPipe c.inputPipe { m.state.pipe c.inputPipe with fed := false } }

def ended? (s : State) (pid : Nat) : Option Host.ExitStatus := (s.client? pid).bind Client.ended

def wait (table : ProgramTable) (m : Machine) (pid : Nat) :
    Except SystemFault Host.ExitStatus × Machine :=
  let m := m.runUntil table fun s => (ended? s pid).isSome
  match ended? m.state pid with
  | some status => (.ok status, m)
  | none => (.error .noChild, m)

def kill (m : Machine) (pid : Nat) : Machine :=
  match m.state.process? pid with
  | none => m
  | some p => { m with state := m.state.deliver Signal.kill p }

/-- both streams of a process are at their end -/
def streamsClosed (s : State) (pid : Nat) : Bool :=
  match s.client? pid with
  | none => true
  | some c => !c.outputOpen && !c.errorsOpen

def output (table : ProgramTable) (m : Machine) (pid : Nat) : List UInt8 × Machine :=
  let m := m.runUntil table (streamsClosed · pid)
  (((m.state.client? pid).map fun c => c.capture.octets).getD [], m)

/-! ## requests -/

/-- the answer to a request when the processes have come up to the present -/
def serve (table : ProgramTable) (m : Machine) : (r : Host.Request) → Host.Answer r × Machine
  | .removeFile path => m.removeFile path
  | .readFile path => (m.readFile path, m)
  | .writeFile path text => m.writeFile path text
  | .isDirectory path => (m.isDirectory path, m)
  | .exists path => ((m.findNode path).isOk, m)
  | .currentDirectory =>
    ((match m.workingDirectory? with
      | some path => .ok path
      | none => .error .notText), m)
  | .spawn program args dir => m.spawn table program args dir
  | .attach _ => (.ok (), m)
  | .send process text => ((), m.send process.id text)
  | .closeInput process => ((), m.closeInput process.id)
  | .wait process => m.wait table process.id
  | .poll process => (.ok (ended? m.state process.id), m)
  | .killGroup process =>
    ((), { m with state := m.state.killGroup process.id Signal.kill })
  | .kill process => ((), m.kill process.id)
  | .output process => m.output table process.id
  | .now => (upTime + m.now, m)
  | .pause amount => ((), { m with now := m.now + amount.nanos })
  | .cores => (m.cores, m)
  | .load path => (m.canLoad path, m)

/-- the machine as an environment -/
def environment (table : ProgramTable) : Interaction.Environment Host.Answer Machine :=
  fun r m =>
    let (answer, m) := (m.catchUp table).serve table r
    (answer, { m with now := m.now + requestTime })

/-- runs a program of requests -/
def run {α : Type} (table : ProgramTable) (program : Host.Program α) (m : Machine) : α × Machine :=
  program.runState (environment table) m

/-- runs a program of requests that can fail -/
def perform {α : Type} (table : ProgramTable) (action : Action α) (m : Machine) :
    Except Failure α × Machine := run table action.run m

end Machine

end ShellWorkers
