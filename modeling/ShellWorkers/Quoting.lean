/-!
# Quoting for a worker's shell

A worker shell reads one of two command languages.  `quote` writes a text so that the shell
reads it as one literal word; `quoteIfNeeded` leaves plain words as they are.  On quoted file
names rest the two commands that every worker is given besides its own: one that makes its
status file empty, one that appends the status of the command before.
-/

namespace ShellWorkers

/-- the command language of a worker's shell -/
inductive Flavor where
  /-- the language of `sh` -/
  | posix
  /-- the language of the `cmd` command prompt -/
  | commandPrompt
  deriving DecidableEq, Repr

namespace Flavor

/-! ## quoting -/

/-- inside single quotes everything is literal but the quote, which is written between two
quoted parts after a backslash -/
def escapeQuote (c : Char) : List Char := if c = '\'' then ['\'', '\\', '\'', '\''] else [c]

def quoteChars : Flavor → List Char → List Char
  | .posix, cs => '\'' :: cs.flatMap escapeQuote ++ ['\'']
  | .commandPrompt, cs => '"' :: cs ++ ['"']

/-- `s` as one literal word -/
def quote (f : Flavor) (s : String) : String := String.ofList (f.quoteChars s.toList)

/-- the characters that stand for themselves outside of quotes -/
def isPlain (f : Flavor) (c : Char) : Bool :=
  c.isAlphanum || c ∈ ['_', '-', '.', '/', '+', ':', ',', '@', '=']
    || (c == '\\' && f == .commandPrompt)

def quoteIfNeededChars (f : Flavor) (cs : List Char) : List Char :=
  if !cs.isEmpty && cs.all f.isPlain then cs else f.quoteChars cs

/-- `s` as one literal word, unquoted when it is plain -/
def quoteIfNeeded (f : Flavor) (s : String) : String :=
  String.ofList (f.quoteIfNeededChars s.toList)

theorem quoteIfNeededChars_of_plain (f : Flavor) (cs : List Char) (hne : cs ≠ [])
    (h : ∀ c ∈ cs, f.isPlain c = true) : f.quoteIfNeededChars cs = cs := by
  have : cs.all f.isPlain = true := by simpa [List.all_eq_true] using h
  simp [quoteIfNeededChars, hne, this]

/-! ## bookkeeping commands -/

/-- the command that makes `file` exist and be empty -/
def createCommand (f : Flavor) (file : String) : String :=
  match f with
  | .posix => "> " ++ f.quote file
  | .commandPrompt => "type NUL > " ++ f.quote file

/-- the command that appends the status of the command before it to `file` -/
def recordCommand (f : Flavor) (file : String) : String :=
  match f with
  | .posix => "echo $? >> " ++ f.quote file
  | .commandPrompt => "echo %errorlevel% >> " ++ f.quote file

/-- the language of the shells on this host -/
def host : Flavor := .posix

end Flavor

end ShellWorkers
