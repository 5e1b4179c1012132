import ShellWorkers.CommandLine.Arguments
import ShellWorkers.CommandLine.Plan
import ShellWorkers.Recipe.File

/-!
# Running a command

A command ends with an `Outcome`: what it wrote to the output, a report of what went wrong, and an
exit code.  What had been written before a failure stays in the output.
-/

namespace ShellWorkers.CommandLine

structure Outcome where
  output : String
  errors : String
  code : Nat
  deriving DecidableEq, Repr

namespace Outcome

/-- the codes for a failure, for arguments that are not understood, and for a stop without a
report -/
def failureCode : Nat := 1
def usageCode : Nat := 2
def abortCode : Nat := 101

def success (output : String) : Outcome := ⟨output, "", 0⟩

/-- a failure with its report -/
def reported (output message : String) : Outcome :=
  ⟨output, "Error: " ++ message ++ "\n", failureCode⟩

/-- the end by a failure; `broken` is written when the line of the output is unfinished -/
def ofFailure (output broken : String) : Failure → Outcome
  | .error e => reported (output ++ broken) e.withHint
  | _ => ⟨output, "", abortCode⟩

end Outcome

/-- what a command finds around it -/
structure Surroundings where
  style : Style
  /-- the shell of recipes that name none -/
  defaultShell : Shell

/-! ## a plan -/

/-- runs an action, and goes on with its result or ends with its failure -/
def orEnd {α : Type} (output broken : String) (action : Action α)
    (next : α → Host.Program Outcome) : Host.Program Outcome := do
  match ← action.run with
  | .ok a => next a
  | .error e => pure (.ofFailure output broken e)

/-- reads the recipe of a command -/
def withRecipe (s : Surroundings) (path : String) (next : Recipe → Host.Program Outcome) :
    Host.Program Outcome := do
  if ← Host.ask (.exists path) then
    orEnd "" "" (Template.load s.defaultShell path) fun t => next t.recipe
  else pure (.reported "" ("Recipe not found: " ++ path))

/-- shows the plan of a build -/
def runPlan (s : Surroundings) (path : String) (threads : Option Nat) : Host.Program Outcome :=
  withRecipe s path fun r => do
    let workers := workerCount threads (← Host.ask .cores)
    let heading := Plan.heading s.style r workers
    match Plan.ofRecipe r workers with
    | .error e => pure (.ofFailure heading "" e)
    | .ok p => pure (.success (heading ++ p.text s.style))

/-! ## a build -/

/-- the directory of a recipe file, where its sources are unless another is given -/
def recipeDirectory (path : String) : String :=
  match Path.parent? path with
  | none => "."
  | some dir => if dir.isEmpty then "." else dir

/-- what a build says before it starts -/
def buildHeading (s : Style) (r : Recipe) (workers : Nat) : String :=
  "\n" ++ s.paint .title "dylink" ++ " - Building " ++ s.paint .worker r.libraryFileName ++ "\n\n  "
    ++ s.paint .step ("◆ Compiling " ++ toString r.sources.length ++ " sources on "
      ++ toString workers ++ " workers") ++ " ... "

/-- seconds with two places, a half going up -/
def secondsText (d : Duration) : String :=
  let hundredths := (d.nanos + 5000000) / 10000000
  toString (hundredths / 100) ++ "." ++ String.ofList (Duration.padded 2 (hundredths % 100)) ++ "s"

/-- what a build says when it has succeeded -/
def buildSummary (s : Style) (library : String) (elapsed : Duration) : String :=
  s.paint .done "✓" ++ "\n\n" ++ s.paint .done "Built:" ++ " " ++ library ++ "\n"
    ++ s.paint .muted "Time:" ++ " " ++ secondsText elapsed ++ "\n"

/-- the configuration that a build is asked for -/
def configOf (threads timeout : Option Nat) (verify verbose : Bool) : Config :=
  { Config.default with
    threads := threads
    timeout := timeout.map Duration.ofSeconds
    verify := verify
    verbose := verbose }

def runBuild (s : Surroundings) (path : String) (dir : Option String) (c : Config) :
    Host.Program Outcome := do
  let started ← Host.ask .now
  withRecipe s path fun r => do
    let workers := workerCount c.threads (← Host.ask .cores)
    let heading := buildHeading s.style r workers
    orEnd heading "\n" (build r (dir.getD (recipeDirectory path)) c) fun library => do
      let finished ← Host.ask .now
      pure (.success (heading ++ buildSummary s.style library ⟨finished - started⟩))

/-! ## all commands -/

def usageText : String :=
  "Usage: dylink [-v] build RECIPE [-d DIR] [-j THREADS] [--timeout SECONDS] [--verify]\n"
    ++ "       dylink [-v] plan RECIPE [-j THREADS]\n"

def versionText : String := "dylink 0.1.0\n"

def Outcome.ofStop : Stop → Outcome
  | .usage => ⟨"", usageText, usageCode⟩
  | .help => success usageText
  | .version => success versionText

/-- runs the command that arguments ask for -/
def execute (s : Surroundings) (args : List String) : Host.Program Outcome :=
  match Command.ofArguments args with
  | .error stop => pure (.ofStop stop)
  | .ok (.plan recipe threads) => runPlan s recipe threads
  | .ok (.build recipe dir threads timeout verify verbose) =>
    runBuild s recipe dir (configOf threads timeout verify verbose)

end ShellWorkers.CommandLine
