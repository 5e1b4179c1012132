import ShellWorkers.Build

/-!
# Plans

What a build would run, told in colours.
-/

/-!
## Colours of the output

A piece of output has a tone.  Without colours its text stands alone, so logs of redirected output
hold no escapes.
-/

namespace ShellWorkers.CommandLine

inductive Tone where
  | title
  | worker
  | step
  | done
  | muted
  deriving DecidableEq, Repr

/-- the escape that starts a tone -/
def Tone.code : Tone → String
  | .title => "\x1b[1m"
  | .worker => "\x1b[36m"
  | .step => "\x1b[34m"
  | .done => "\x1b[32m"
  | .muted => "\x1b[2m"

/-- the escape that ends every tone -/
def resetCode : String := "\x1b[0m"

structure Style where
  colors : Bool
  deriving DecidableEq, Repr

namespace Style

/-- colours for a terminal, unless they are not wanted -/
def ofTerminal (isTerminal noColors : Bool) : Style := ⟨isTerminal && !noColors⟩

def paint (s : Style) (tone : Tone) (text : String) : String :=
  if s.colors then tone.code ++ text ++ resetCode else text

theorem paint_plain (tone : Tone) (text : String) : paint ⟨false⟩ tone text = text := rfl

end Style

end ShellWorkers.CommandLine

/-!
## Plans

A `Plan` says which worker runs which commands in a build, and which command links the objects.
It is made from the recipe and the number of workers alone; nothing is run.
-/

namespace ShellWorkers.CommandLine

structure Plan where
  tasks : List Task
  link : String
  deriving DecidableEq, Repr

/-- the plan of a build with a number of workers -/
def Plan.ofRecipe (r : Recipe) (workers : Nat) : Except Failure Plan := do
  let tasks ← tasksOf r workers
  let objects ← r.objects
  return ⟨tasks, r.linkCommand objects⟩

/-! ### texts -/

/-- the first line: the library, the number of workers and their shell -/
def Plan.heading (s : Style) (r : Recipe) (workers : Nat) : String :=
  s.paint .title r.libraryFileName ++ " on " ++ toString workers ++ " workers (shell: "
    ++ r.shell.toLine ++ ")\n"

/-- a worker and its commands -/
def taskText (s : Style) (t : Task) : String :=
  "\n" ++ s.paint .worker (BuildError.workerText t.worker) ++ " ("
    ++ toString t.commands.length ++ " sources)\n"
    ++ String.join (t.commands.map fun c => "  " ++ c ++ "\n")

/-- the workers in order, then the command that links -/
def Plan.text (s : Style) (p : Plan) : String :=
  String.join (p.tasks.map (taskText s)) ++ "\n" ++ s.paint .worker "link:" ++ " " ++ p.link ++ "\n"

end ShellWorkers.CommandLine
