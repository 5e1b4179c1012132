import ShellWorkers.Quoting
import ShellWorkers.Recipe.Basic
import ShellWorkers.Text.Replace

/-!
# Recipes made of templates

A template is a command in which names between braces stand for paths and names.  They are
replaced one kind after the other, so a value is scanned for the names that are replaced after
it:

* `{source}`, `{object}`   in the object command only;
* `{objects}`              the objects, separated by spaces; nothing in the object command;
* `{target}`, `{object_ext}`, `{library_ext}`;
* `{library}`              the target and the library extension.

Paths are quoted for the host's shells when they are not plain words.
-/

namespace ShellWorkers

structure Template where
  shell : Shell
  initCommand : String
  objectCommand : String
  libraryCommand : String
  target : String
  objectExt : String
  libraryExt : String
  sources : List String
  deriving DecidableEq, Repr

/-- the names that a template may hold -/
inductive Placeholder where
  | source
  | object
  | objects
  | target
  | objectExt
  | libraryExt
  | library
  deriving DecidableEq, Repr

def Placeholder.name : Placeholder → String
  | .source => "source"
  | .object => "object"
  | .objects => "objects"
  | .target => "target"
  | .objectExt => "object_ext"
  | .libraryExt => "library_ext"
  | .library => "library"

/-- a placeholder as it stands in a template -/
def Placeholder.text (p : Placeholder) : String := "\x7b" ++ p.name ++ "\x7d"

/-- a path as one word for the host's shells -/
def pathWord (path : String) : String := Flavor.host.quoteIfNeeded path

/-- replacements one after the other -/
def substitute (values : List (Placeholder × String)) (template : String) : String :=
  values.foldl (fun text v => Text.replace v.1.text v.2 text) template

theorem substitute_nil (template : String) : substitute [] template = template := rfl

theorem substitute_cons (p : Placeholder) (value : String) (values : List (Placeholder × String))
    (template : String) :
    substitute ((p, value) :: values) template =
      substitute values (Text.replace p.text value template) := rfl

namespace Template

/-- the values of the names that both commands may hold -/
def sharedValues (t : Template) (objects target : String) : List (Placeholder × String) :=
  [(.objects, objects), (.target, target), (.objectExt, t.objectExt),
    (.libraryExt, t.libraryExt), (.library, target ++ t.libraryExt)]

/-- the command that compiles `source` -/
def objectCommandFor (t : Template) (source : String) : Except Failure String := do
  let object ← objectPath source t.objectExt
  return substitute ((.source, pathWord source) :: (.object, pathWord object)
    :: t.sharedValues "" t.target) t.objectCommand

/-- the command that packs `objects` into the library named `target` -/
def libraryCommandFor (t : Template) (objects : List String) (target : String) : String :=
  substitute (t.sharedValues (" ".intercalate (objects.map pathWord)) target) t.libraryCommand

def recipe (t : Template) : Recipe where
  shell := t.shell
  initCommand := t.initCommand
  objectCommand := t.objectCommandFor
  libraryCommand := t.libraryCommandFor
  target := t.target
  objectExt := t.objectExt
  libraryExt := t.libraryExt
  sources := t.sources

end Template

end ShellWorkers
