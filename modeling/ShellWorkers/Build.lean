import ShellWorkers.Partition
import ShellWorkers.Session

/-!
# Building a library

A build runs in two stages, each in sessions of worker shells.

* `compileObjects`   the sources are dealt round robin to the workers; every session is started
                     and given its whole queue before any is waited for; the results are checked
                     in the order of the workers;
* `linkLibrary`      one session runs the one command that packs the objects;
* `build`            both stages between the checks before and the cleanup after.

The first worker that failed is reported, and what it wrote is kept in its log file.
-/

namespace ShellWorkers

open ShellWorkers.Action

/-! ## queues -/

/-- the commands of one worker, in order -/
structure Task where
  worker : Nat
  commands : List String
  deriving DecidableEq, Repr

/-- a bucket of sources as the commands that compile them -/
def taskOf (r : Recipe) (bucket : List String × Nat) : Except Failure Task := do
  return ⟨bucket.2, ← bucket.1.mapM r.objectCommand⟩

/-- one task per worker -/
def tasksOf (r : Recipe) (workers : Nat) : Except Failure (List Task) :=
  (partition r.sources workers).zipIdx.mapM (taskOf r)

/-! ## logs and verdicts -/

/-- keeps the output of a worker that failed; answers where -/
def writeLog (dir : String) (worker : Nat) (output : String) : Action String := do
  let path := logFile dir worker
  orIo (← request (.writeFile path (logText output)))
  pure path

/-- the verdict on a finished session; the output of one that failed is logged -/
def checkWorker (dir : String) (worker : Nat) (stage : Stage)
    (result : Except BuildError SessionReport) : Action Unit :=
  match result with
  | .error e => do
    match e.output? with
    | some output =>
      let _ ← writeLog dir worker output
      fail e
    | none => fail e
  | .ok report =>
    match report.firstFailure? with
    | none => pure ()
    | some (command, code) => do
      let log ← writeLog dir worker report.output
      fail (.commandFailed worker stage command code log report.output)

/-- the verdicts in the order of the workers, from `worker` on -/
def checkWorkers (dir : String) (stage : Stage) (worker : Nat) :
    List (Except BuildError SessionReport) → Action Unit
  | [] => pure ()
  | result :: results => do
    checkWorker dir worker stage result
    checkWorkers dir stage (worker + 1) results

/-! ## the compile stage -/

/-- starts a session per task and queues its commands; `started` holds the sessions so far, which
are abandoned when one cannot be started -/
def startWorkers (spec : SessionSpec) (started : List Session) : List Task → Action (List Session)
  | [] => pure started
  | task :: tasks => do
    let s ← tryCatch (Session.start task.worker spec) fun failure => do
      Session.abandonAll started
      throw failure
    startWorkers spec (started ++ [← s.submitAll task.commands]) tasks

/-- finishes all sessions in order, whatever they report; a failure without a report abandons the
sessions behind it -/
def finishWorkers : List Session → Action (List (Except BuildError SessionReport))
  | [] => pure []
  | s :: ss => do
    match ← ExceptT.lift s.finish.run with
    | .ok report => return .ok report :: (← finishWorkers ss)
    | .error (.error e) => return .error e :: (← finishWorkers ss)
    | .error failure =>
      Session.abandonAll ss
      throw failure

/-- compiles all sources in `dir`; answers their objects in order -/
def compileObjects (r : Recipe) (dir : String) (workers : Nat) (c : Config) :
    Action (List String) := do
  let tasks ← ofExcept (tasksOf r workers)
  let sessions ← startWorkers (SessionSpec.ofRecipe r dir c) [] tasks
  let results ← finishWorkers sessions
  checkWorkers dir .compile 0 results
  ofExcept r.objects

/-! ## the link stage -/

/-- the worker of the link stage -/
def linkWorker : Nat := 0

/-- packs `objects` into the library in `dir` -/
def linkLibrary (r : Recipe) (dir : String) (objects : List String) (c : Config) :
    Action Unit := do
  let s ← Session.start linkWorker (SessionSpec.ofRecipe r dir c)
  let s ← s.submit (r.linkCommand objects)
  let results ← finishWorkers [s]
  checkWorkers dir .link linkWorker results

/-! ## the whole build -/

/-- removes the status files of the workers below `workers` -/
def removeStatusFiles (dir : String) (workers : Nat) : Action Unit :=
  (List.range workers).forM fun worker => removeIfExists (statusFile dir worker)

/-- the absolute path of the library that a recipe makes in `dir` -/
def libraryPath (r : Recipe) (dir : String) : Action String := do
  return Path.join (← absolute dir) r.libraryFileName

/-- loads the library once -/
def verifyLibrary (path : String) : Action Unit := do
  if ← request (.load path) then pure () else fail .libraryLoad

/-- refuses a recipe or a directory that no build can start from -/
def checkInputs (r : Recipe) (dir : String) : Action Unit := do
  match r.validate with
  | .error e => fail e
  | .ok _ => if ← request (.isDirectory dir) then pure () else fail (.missingDirectory dir)

/-- both stages, the cleanup and the verification, in an absolute directory -/
def buildIn (r : Recipe) (dir : String) (workers : Nat) (c : Config) : Action String := do
  let objects ← compileObjects r dir workers c
  let library ← libraryPath r dir
  linkLibrary r dir objects c
  removeStatusFiles dir workers
  if c.verify then verifyLibrary library
  pure library

/-- builds the library of a recipe in `dir`; answers the library's absolute path -/
def build (r : Recipe) (dir : String) (c : Config) : Action String := do
  checkInputs r dir
  let dir ← absolute dir
  let cores ← request .cores
  buildIn r dir (workerCount c.threads cores) c

end ShellWorkers
