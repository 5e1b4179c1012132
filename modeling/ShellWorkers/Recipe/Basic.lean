import ShellWorkers.BuildError
import ShellWorkers.Path
import ShellWorkers.Shell

/-!
# Recipes

A `Recipe` is what a build has to know about a toolchain: the shell, the command that compiles
a source, the command that packs objects into a library, the names, and the sources in order.
The commands are functions; where they come from is left open.

`validate` refuses what no build can start from.
-/

namespace ShellWorkers

/-- the object file of a source: the same path with the extension `ext`, written with or without
dots before it -/
def objectPath (source ext : String) : Except Failure String :=
  match Path.replaceExtension? source.toList (ext.toList.dropWhile (· == '.')) with
  | some path => .ok (String.ofList path)
  | none => .error .separatorInExtension

/-- the objects of sources, in order -/
def objectPaths (sources : List String) (ext : String) : Except Failure (List String) :=
  sources.mapM (objectPath · ext)

structure Recipe where
  /-- runs every worker -/
  shell : Shell
  /-- run once at the start of every worker -/
  initCommand : String
  /-- compiles one source -/
  objectCommand : String → Except Failure String
  /-- packs objects into the library of the given name -/
  libraryCommand : List String → String → String
  target : String
  objectExt : String
  libraryExt : String
  /-- in build order -/
  sources : List String

namespace Recipe

def objects (r : Recipe) : Except Failure (List String) := objectPaths r.sources r.objectExt

/-- the file name of the library -/
def libraryFileName (r : Recipe) : String := r.target ++ r.libraryExt

/-- the command that packs the objects of all sources -/
def linkCommand (r : Recipe) (objects : List String) : String :=
  r.libraryCommand objects r.target

/-- refuses a recipe that no build can start from -/
def validate (r : Recipe) : Except BuildError Unit :=
  if Text.isBlankText r.target then .error (.invalidRecipe "target name is empty")
  else if r.shell.program.isEmpty then .error (.invalidRecipe "shell program is empty")
  else if r.libraryExt.isEmpty then .error (.invalidRecipe "shared library extension is empty")
  else .ok ()

theorem validate_eq_ok_iff (r : Recipe) :
    r.validate = .ok () ↔
      Text.isBlankText r.target = false ∧ r.shell.program.isEmpty = false ∧
        r.libraryExt.isEmpty = false := by
  unfold validate
  cases Text.isBlankText r.target <;> cases r.shell.program.isEmpty <;>
    cases r.libraryExt.isEmpty <;> simp

end Recipe

end ShellWorkers
