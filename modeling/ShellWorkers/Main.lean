import ShellWorkers.CommandLine.Execution
import ShellWorkers.Machine.Standard

/-!
# The program

The command line on a standard machine.  The files of the build are copied into the machine, the
command runs there, and what it has changed is copied back.
-/

namespace ShellWorkers.CommandLine

open Machine (FileTree NodeId)
open Text (OctetText)

/-- the recipe of a command, and the directory of its build -/
def Command.places : Command → String × String
  | .build recipe dir _ _ _ _ => (recipe, dir.getD (recipeDirectory recipe))
  | .plan recipe _ => (recipe, recipeDirectory recipe)

/-- the number of cores of the machine -/
def machineCores : Nat := 4

/-! ## copying -/

/-- the permissions of a file; one with an interpreter can be executed -/
def modeOf (content : ByteArray) : Nat :=
  if (Machine.beginning content).startsWith "#!" then Machine.Mode.program
  else Machine.Mode.plainFile

/-- copies a file, or a directory with all below it, into a tree; what cannot be read is left
out -/
partial def copyIn (path : String) (t : FileTree) : IO FileTree :=
  try
    let p ← IO.FS.realPath path
    let name := OctetText.ofText p.toString
    if ← p.isDir then
      (← p.readDir).foldlM (fun t e => copyIn e.path.toString t)
        (t.install FileTree.root name (.directory 0 []) Machine.Mode.directory)
    else
      let content ← IO.FS.readBinFile p
      return t.install FileTree.root name (.file content) (modeOf content)
  catch _ => return t

/-- the files below a directory of a machine, by their paths -/
def filesBelow (m : Machine) (directory : String) : List (OctetText × FileTree.Listed) :=
  match m.findNode directory with
  | .ok id => m.state.tree.listing 1000 id ""
  | .error _ => []

/-- whether a listing holds a file as it is -/
def holds (files : List (OctetText × FileTree.Listed)) (name : OctetText)
    (content : ByteArray) : Bool :=
  files.any fun
    | (n, .content c) => n == name && c == content
    | _ => false

/-- writes a file of a listing to a directory, unless it was there before -/
def copyFileOut (directory : String) (before : List (OctetText × FileTree.Listed)) :
    OctetText × FileTree.Listed → IO Unit
  | (name, .directory) =>
    IO.FS.createDirAll (Path.join directory (Text.decodeLossy name.toOctets))
  | (name, .content content) => do
    if !holds before name content then
      IO.FS.writeBinFile (Path.join directory (Text.decodeLossy name.toOctets)) content

/-- copies what has changed back to a directory -/
def copyOut (directory : String) (before after : List (OctetText × FileTree.Listed)) : IO Unit := do
  for file in after do
    copyFileOut directory before file
  for (name, listed) in before do
    match listed with
    | .directory => pure ()
    | .content _ =>
      if !after.any (·.1 == name) then
        IO.FS.removeFile (Path.join directory (Text.decodeLossy name.toOctets))

/-! ## the command -/

/-- runs a command on a machine that holds its files -/
def executeOn (s : Surroundings) (args : List String) (recipe directory : String) : IO Outcome := do
  let cwd ← IO.FS.realPath "."
  let m := Machine.standard (OctetText.ofText cwd.toString) machineCores
  let t ← copyIn directory m.state.tree
  let m := m.setTree (← copyIn recipe t)
  let (outcome, after) := Machine.run Utility.table (execute s args) m
  copyOut directory (filesBelow m directory) (filesBelow after directory)
  return outcome

/-- the outcome of the arguments; those that do not ask for work need no files -/
def outcomeOf (s : Surroundings) (args : List String) : IO Outcome :=
  match Command.ofArguments args with
  | .error stop => return .ofStop stop
  | .ok command => executeOn s args command.places.1 command.places.2

end ShellWorkers.CommandLine

open ShellWorkers CommandLine

def main (args : List String) : IO UInt32 := do
  let output ← IO.getStdout
  let errors ← IO.getStderr
  let style := Style.ofTerminal (← output.isTty) (← IO.getEnv "NO_COLOR").isSome
  let outcome ← outcomeOf ⟨style, Shell.default (← IO.getEnv "SHELL") none⟩ args
  output.putStr outcome.output
  output.flush
  errors.putStr outcome.errors
  return outcome.code.toUInt32
