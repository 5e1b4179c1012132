import ShellWorkers.BuildError
import ShellWorkers.Interaction
import ShellWorkers.Path

/-!
# What a build asks of its host

A build touches the world by the requests listed here and in no other way: files, processes with
their two output streams, and a clock.  `Action` is a program of such requests that can fail.

Paths and texts are Unicode; what a file or a stream holds is octets.
-/

namespace ShellWorkers

namespace Host

/-- a process that the host has started -/
structure Process where
  id : Nat
  deriving DecidableEq, Repr

/-- how a process ended -/
inductive ExitStatus where
  | exited (code : Nat)
  | killed (signal : Nat)
  deriving DecidableEq, Repr

/-- an instant of the clock, in nanoseconds -/
abbrev Instant := Nat

inductive Request where
  | removeFile (path : String)
  | readFile (path : String)
  | writeFile (path text : String)
  | isDirectory (path : String)
  | exists (path : String)
  | currentDirectory
  /-- starts a program in a directory and in a process group of its own -/
  | spawn (program : String) (args : List String) (dir : String)
  /-- connects the process to a queue of input and to a common record of its output streams -/
  | attach (process : Process)
  /-- appends a text to the queue of input -/
  | send (process : Process) (text : String)
  /-- ends the queue of input -/
  | closeInput (process : Process)
  /-- waits until the process has ended, and reaps it -/
  | wait (process : Process)
  /-- asks whether the process has ended, and reaps it if so -/
  | poll (process : Process)
  /-- kills every process of the group of a process -/
  | killGroup (process : Process)
  | kill (process : Process)
  /-- the record of the output streams, once both are closed -/
  | output (process : Process)
  | now
  /-- lets an amount of time pass -/
  | pause (amount : Duration)
  | cores
  /-- loads a library and lets it go again -/
  | load (path : String)

/-- the answers to a request -/
abbrev Answer : Request → Type
  | .removeFile _ => Except SystemFault Unit
  | .readFile _ => Except SystemFault (List UInt8)
  | .writeFile _ _ => Except SystemFault Unit
  | .isDirectory _ => Bool
  | .exists _ => Bool
  | .currentDirectory => Except SystemFault String
  | .spawn _ _ _ => Except SystemFault Process
  | .attach _ => Except SystemFault Unit
  | .send _ _ => Unit
  | .closeInput _ => Unit
  | .wait _ => Except SystemFault ExitStatus
  | .poll _ => Except SystemFault (Option ExitStatus)
  | .killGroup _ => Unit
  | .kill _ => Unit
  | .output _ => List UInt8
  | .now => Instant
  | .pause _ => Unit
  | .cores => Nat
  | .load _ => Bool

/-- programs of requests -/
abbrev Program := Interaction Answer

/-- asks one request -/
def ask (r : Request) : Program (Answer r) := Interaction.request r

end Host

/-- a program of requests that can fail -/
abbrev Action := ExceptT Failure Host.Program

namespace Action

/-- asks one request -/
def request (r : Host.Request) : Action (Host.Answer r) := ExceptT.lift (Host.ask r)

/-- fails for a cause that is reported -/
def fail {α : Type} (e : BuildError) : Action α := throw (.error e)

/-- the answer of a request, or its fault -/
def orIo {α : Type} (x : Except SystemFault α) : Action α :=
  match x with
  | .ok a => pure a
  | .error cause => fail (.io cause)

/-- removes a file; one that does not exist is fine -/
def removeIfExists (path : String) : Action Unit := do
  match ← request (.removeFile path) with
  | .ok _ => pure ()
  | .error cause => if cause = .notFound then pure () else fail (.io cause)

/-- the absolute form of a path -/
def absolute (path : String) : Action String := do
  if path.isEmpty then fail (.io .emptyPath)
  else if Path.isAbsolute path then pure (Path.absolute "" path)
  else
    let cwd ← orIo (← request .currentDirectory)
    pure (Path.absolute cwd path)

end Action

end ShellWorkers
