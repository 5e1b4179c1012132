import ShellWorkers.Path

/-!
# The files a worker leaves in the build directory

Every worker has a status file, with one exit code per command, removed after a build that
succeeds, and a log file with the output of a worker that failed, kept for inspection.
-/

namespace ShellWorkers

def statusFileName (worker : Nat) : String := "retcode_cpu" ++ toString worker ++ ".txt"

def logFileName (worker : Nat) : String := "log_cpu" ++ toString worker ++ ".txt"

/-- the status file of a worker whose directory is `dir` -/
def statusFile (dir : String) (worker : Nat) : String := Path.join dir (statusFileName worker)

/-- the log file of a worker whose directory is `dir` -/
def logFile (dir : String) (worker : Nat) : String := Path.join dir (logFileName worker)

/-- a log holds the output and a line end -/
def logText (output : String) : String := output ++ "\n"

end ShellWorkers
