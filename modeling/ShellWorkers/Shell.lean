import ShellWorkers.Text.Blank
import ShellWorkers.Path

/-!
# A shell and its arguments

A shell is written as one line, program and arguments separated by blanks.  The line of a shell
is read back only if no part of it holds a blank or is empty: a looked-up program in a directory
with a blank in its name is such a case.

`Shell.default` is the shell of a recipe that names none.  The environment and what a search of
the path finds are its arguments.
-/

namespace ShellWorkers

structure Shell where
  program : String
  args : List String
  deriving DecidableEq, Repr

namespace Shell

/-- the words of a line: the program, then its arguments; nothing for a blank line -/
def ofLine? (line : String) : Option Shell :=
  match Text.words line with
  | [] => none
  | program :: args => some ⟨program, args⟩

/-- the line of a shell -/
def toLine (s : Shell) : String := s.args.foldl (fun line arg => line ++ " " ++ arg) s.program

/-- the shell of last resort -/
def standard : Shell := ⟨"/bin/sh", []⟩

/-- The shell to use when none is named: the line `named` (absent when it is unset or no
text) unless it is blank, else the program that the search for `sh` finds, else `standard`. -/
def default (named : Option String) (found : Option String) : Shell :=
  match named.bind ofLine? with
  | some s => s
  | none =>
    match found with
    | some program => ⟨program, []⟩
    | none => standard

end Shell

/-! ## looking up a program -/

/-- the entries of a search path -/
def searchPathEntries (path : String) : List String :=
  (path.toList.splitOn ':').map String.ofList

/-- An entry that starts with a tilde component starts in the home directory. -/
def expandHome (home : Option String) (entry : String) : String :=
  match entry.toList, home with
  | ['~'], some h => h
  | '~' :: '/' :: rest, some h => Path.join h (String.ofList rest)
  | _, _ => entry

/-- the places where a search path says the program `name` may be -/
def searchCandidates (home : Option String) (path name : String) : List String :=
  (searchPathEntries path).map fun entry => Path.join (expandHome home entry) name

end ShellWorkers
