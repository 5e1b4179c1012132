import ShellWorkers.Duration
import ShellWorkers.Json.Basic
import ShellWorkers.SystemFault

/-!
# Why a build fails

`BuildError` lists the causes.  `message` is the text of a cause, `withHint` adds what to do
about it.  Three causes are failures inside a worker (`isBuildFailure`), and exactly these carry
the output that the worker had written.
-/

namespace ShellWorkers

/-- the part of a build that a worker was started for -/
inductive Stage where
  | compile
  | link
  deriving DecidableEq, Repr

def Stage.name : Stage → String
  | .compile => "compile"
  | .link => "link"

/-- why a text does not hold a recipe -/
inductive FormatError where
  /-- it breaks the rules of the notation -/
  | unreadable (fault : Json.Fault)
  /-- a value of another kind stands where `wanted` is expected -/
  | unexpected (found wanted : String)
  /-- a list of `length` items is no recipe -/
  | wrongLength (length : Nat)
  | unknownField (name : String)
  | duplicateField (name : String)
  | missingField (name : String)
  /-- an entry of the sources is neither a path nor an object with a path -/
  | notSource
  | blankShell
  deriving DecidableEq, Repr

namespace FormatError

/-- the fields of a recipe, in order -/
def fieldNames : List String :=
  ["shell", "init_command", "object_command", "library_command", "target", "object_ext",
    "library_ext", "sources"]

/-- a name between the marks that set it off -/
def marked (name : String) : String := "`" ++ name ++ "`"

/-- what stands for a recipe as a whole -/
def wholeName : String := "struct TemplateRecipe"

def message : FormatError → String
  | .unreadable fault => fault.message
  | .unexpected found wanted => "invalid type: " ++ found ++ ", expected " ++ wanted
  | .wrongLength n =>
    "invalid length " ++ toString n ++ ", expected " ++ wholeName ++ " with 8 elements"
  | .unknownField name =>
    "unknown field " ++ marked name ++ ", expected one of "
      ++ ", ".intercalate (fieldNames.map marked)
  | .duplicateField name => "duplicate field " ++ marked name
  | .missingField name => "missing field " ++ marked name
  | .notSource => "data did not match any variant of untagged enum SourceSpec"
  | .blankShell => "shell must not be empty"

end FormatError

inductive BuildError where
  /-- the shell of a worker cannot be started -/
  | spawn (worker : Nat) (shell : String) (cause : SystemFault)
  /-- the command with number `command` of a worker's queue returned the status `code` -/
  | commandFailed (worker : Nat) (stage : Stage) (command : Nat) (code : Int) (log output : String)
  /-- the status file does not account for every command of the queue -/
  | protocolViolation (worker expected recorded : Nat) (output : String)
  /-- a worker was still running at its deadline -/
  | timeout (worker : Nat) (limit : Duration) (output : String)
  | invalidRecipe (text : String)
  | missingDirectory (path : String)
  | recipeFormat (cause : FormatError)
  | io (cause : SystemFault)
  | libraryLoad
  deriving DecidableEq, Repr

/-- why a build stops: for a cause that is reported, or without a report -/
inductive Failure where
  | error (e : BuildError)
  /-- an object extension holds a separator -/
  | separatorInExtension
  /-- a deadline lies beyond the last instant of the clock -/
  | deadlineOverflow
  /-- the clock stood still while a shell was waited for -/
  | clockStopped
  deriving DecidableEq, Repr

namespace BuildError

/-- the number of a worker as it is written in messages -/
def workerText (worker : Nat) : String := "worker #" ++ toString worker

def message : BuildError → String
  | .spawn worker shell cause =>
    "failed to spawn shell '" ++ shell ++ "' for " ++ workerText worker ++ ": " ++ cause.message
  | .commandFailed worker stage command code _ output =>
    "error occurred in " ++ workerText worker ++ " during " ++ stage.name ++ ": command "
      ++ toString command ++ " exited with status " ++ toString code ++ "\n" ++ output
  | .protocolViolation worker expected recorded output =>
    workerText worker ++ " terminated unexpectedly: " ++ toString recorded
      ++ " exit codes recorded for " ++ toString expected ++ " commands\n" ++ output
  | .timeout worker limit output =>
    workerText worker ++ " did not finish within " ++ limit.text ++ " and was killed\n" ++ output
  | .invalidRecipe text => "invalid recipe: " ++ text
  | .missingDirectory path => "build directory not found: " ++ path
  | .recipeFormat cause => "recipe format error: " ++ cause.message
  | .io cause => "IO error: " ++ cause.message
  | .libraryLoad => "failed to load library:"

/-- the worker that the cause is attributed to -/
def worker? : BuildError → Option Nat
  | .spawn worker _ _ => some worker
  | .commandFailed worker _ _ _ _ _ => some worker
  | .protocolViolation worker _ _ _ => some worker
  | .timeout worker _ _ => some worker
  | _ => none

/-- what the worker had written before it failed -/
def output? : BuildError → Option String
  | .commandFailed _ _ _ _ _ output => some output
  | .protocolViolation _ _ _ output => some output
  | .timeout _ _ output => some output
  | _ => none

/-- whether the failure lies inside a worker, not in the inputs or the host -/
def isBuildFailure (e : BuildError) : Bool := e.output?.isSome

/-- what to do about it, where there is something to do -/
def hint? : BuildError → Option String
  | .commandFailed _ _ _ _ log _ => some ("full worker output saved to " ++ log)
  | .protocolViolation worker _ _ _ =>
    some ("a command in " ++ workerText worker ++ " may have exited the shell; see log_cpu"
      ++ toString worker ++ ".txt")
  | .timeout _ _ _ => some "raise the timeout or check the toolchain for hangs"
  | .spawn _ _ _ => some "check the recipe's shell setting"
  | .missingDirectory _ => some "create the directory and write the sources first"
  | _ => none

def withHint (e : BuildError) : String :=
  match e.hint? with
  | some hint => e.message ++ "\nhint: " ++ hint
  | none => e.message

/-- a failure inside a worker is attributed to it -/
theorem worker?_isSome_of_output? (e : BuildError) (h : e.output?.isSome) : e.worker?.isSome := by
  cases e <;> simp_all [output?, worker?]

end BuildError

end ShellWorkers
