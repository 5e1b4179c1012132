import ShellWorkers.Script.Builtin.Children
import ShellWorkers.Script.Builtin.Search
import ShellWorkers.Script.Builtin.Settings
import ShellWorkers.Script.Builtin.Streams
import ShellWorkers.Script.Builtin.Variables
import ShellWorkers.Script.Execution

/-!
# The commands of a shell by name

Most of them change the state of the shell or write.  Some run commands, and some leave what
surrounds them: the shell, a function, or a loop.
-/

namespace ShellWorkers.Script.Builtin

open Machine
open Text (OctetText)

/-! ## commands that leave -/

/-- the number that the first argument is -/
def firstNumber? : List OctetText → Sh (Option Nat)
  | [] => pure none
  | arg :: _ => some <$> numberOrFail arg

/-- ends the shell; while the commands for a signal are run, with the status before them -/
def exit : Builtin := fun args => do
  let code ← firstNumber? args
  let c ← get
  leave (.exit (code.getD (c.interrupted.getD c.status)))

def returnFrom : Builtin := fun args => do
  match ← firstNumber? args with
  | some code => leave (.returned code true)
  | none => leave (.returned (← get).status false)

/-- leaves as many of the loops as there are -/
def leaveLoops (how : Nat → Leave) : Builtin := fun args => do
  let n := (← firstNumber? args).getD 1
  if n = 0 then abort ("Illegal number: " ++ (args.head?.getD ""))
  else
    let loops := (← get).loops
    let levels := if loops < n then loops else n
    if levels = 0 then pure 0 else leave (how levels)

/-! ## commands that run commands -/

/-- runs its arguments as one text -/
def eval (evaluate : Evaluate) (mode : Mode) : Builtin
  | [] => pure 0
  | args => evaluateText evaluate "eval" false mode.inner (" ".intercalate args)

/-- the first file of a name in places -/
def searchFile (name : OctetText) : List OctetText → Sh (Option OctetText)
  | [] => pure none
  | place :: places => do
    match ← sys (.status (pathIn place name) true) with
    | .ok s => if s.kind == .file then pure (some (pathIn place name)) else searchFile name places
    | .error _ => searchFile name places

/-- runs the commands of a file in this shell -/
def source (evaluate : Evaluate) : Builtin := fun args => do
  match (← readOptions "" "" args).args with
  | [] => pure 0
  | name :: _ => do
    let path ← if name.contains '/' then pure name
      else do
        match ← searchFile name (placesOf ((← get).value? "PATH")) with
        | some path => pure path
        | none => abort (name ++ ": not found")
    let fd ← openOrFail path .read false
    let fd ← match ← sys (.duplicateFrom fd keptFrom) with
      | .ok kept => do
        let _ ← sys (.close fd)
        pure kept
      | .error e =>
        if (← get).extended then pure fd
        else do
          let _ ← sys (.close fd)
          abort (toString fd ++ ": " ++ faultText e)
    modify ({ · with command := some path })
    tryCatch (runSource evaluate fd) fun l =>
      match l with
      | .returned code _ => pure code
      | l => leave l

/-! ## the table -/

/-- the commands of the shell, but `exec`, which depends on how it is called -/
def find? (evaluate : Evaluate) (mode : Mode) (name : OctetText) : Option Builtin :=
  match name with
  | ":" => some fun _ => pure 0
  | "true" => some fun _ => pure 0
  | "false" => some fun _ => pure 1
  | "." => some (source evaluate)
  | "[" => some bracket
  | "alias" => some defineAliases
  | "bg" => some moveJob
  | "break" => some (leaveLoops fun levels => .breakLoop levels 0)
  | "cd" => some changeDirectory
  | "chdir" => some changeDirectory
  | "command" => some describeCommand
  | "continue" => some (leaveLoops fun levels => .continueLoop levels 0)
  | "echo" => some echo
  | "eval" => some (eval evaluate mode)
  | "exit" => some exit
  | "export" => some exportAll
  | "fg" => some moveJob
  | "getopts" => some getOptions
  | "hash" => some hash
  | "jobs" => some jobs
  | "kill" => some kill
  | "local" => some declareLocal
  | "printf" => some printf
  | "pwd" => some workingDirectory
  | "read" => some read
  | "readonly" => some protectAll
  | "return" => some returnFrom
  | "set" => some set
  | "shift" => some shift
  | "test" => some check
  | "times" => some times
  | "trap" => some trap
  | "type" => some types
  | "ulimit" => some ulimit
  | "umask" => some umask
  | "unalias" => some unalias
  | "unset" => some unset
  | "wait" => some wait
  | _ => none

end ShellWorkers.Script.Builtin
