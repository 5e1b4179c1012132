import ShellWorkers.Host
import ShellWorkers.Recipe.Format
import ShellWorkers.Text.Utf8

/-!
# Recipes in files

A recipe file is read as a whole and has to be text.  The shell of a recipe that names none is
an argument, since it depends on the environment.
-/

namespace ShellWorkers

/-- the text of a file -/
def Action.readText (path : String) : Action String := do
  match Text.decode? (← Action.orIo (← Action.request (.readFile path))) with
  | some text => pure text
  | none => Action.fail (.io .notText)

/-- a recipe read from its text -/
def Template.parse (defaultShell : Shell) (text : String) : Except Failure Template :=
  (Template.ofText defaultShell text).mapError fun cause => .error (.recipeFormat cause)

/-- a recipe read from a file -/
def Template.load (defaultShell : Shell) (path : String) : Action Template := do
  ofExcept (Template.parse defaultShell (← Action.readText path))

end ShellWorkers
