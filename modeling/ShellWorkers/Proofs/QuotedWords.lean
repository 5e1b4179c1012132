import ShellWorkers.Proofs.CommandLexer
import ShellWorkers.Proofs.ShellQueue
import ShellWorkers.Recipe.Template

/-!
# Quoted words and bookkeeping commands

What is quoted for a shell of the POSIX family is what the shell reads: a word between blanks, a
list of paths, and the file of the two commands that every worker is given besides its own.

* `SimpleCommand`       words and redirections of a command line;
* `tokensOf_pathWords`  paths in a row;
* `quoted_literally`    words, paths and files are read as they were before they were quoted.
-/

namespace ShellWorkers.Lexical

open State

/-! ## simple commands -/

/-- what a redirection does with its target -/
inductive Redirection where
  | read
  /-- the file is made empty, or it is created -/
  | truncate
  /-- the output goes behind what the file holds -/
  | append
  | readWrite
  /-- the target is an open file, not a path -/
  | duplicate
  deriving DecidableEq, Repr

def Redirection.ofSign? : List Char → Option Redirection
  | ['<'] => some .read
  | ['>'] => some .truncate
  | ['>', '|'] => some .truncate
  | ['>', '>'] => some .append
  | ['<', '>'] => some .readWrite
  | ['<', '&'] => some .duplicate
  | ['>', '&'] => some .duplicate
  | _ => none

structure SimpleCommand where
  words : List (List Glyph)
  redirections : List (Redirection × List Glyph)
  deriving DecidableEq, Repr

/-- the words of a command line, and its redirections with their targets, both in order -/
def simpleCommand? : List Token → Option SimpleCommand
  | [] => some ⟨[], []⟩
  | .word w :: line => do
    let c ← simpleCommand? line
    return { c with words := w :: c.words }
  | .operator o :: .word target :: line => do
    let r ← Redirection.ofSign? o
    let c ← simpleCommand? line
    return { c with redirections := (r, target) :: c.redirections }
  | _ => none

/-! ## paths in a row -/

theorem toList_quoteIfNeeded (f : Flavor) (s : String) :
    (f.quoteIfNeeded s).toList = f.quoteIfNeededChars s.toList := String.toList_ofList

theorem spells_pathWord (path : String) : Spells (pathWord path).toList (.literal path.toList) := by
  rw [pathWord, toList_quoteIfNeeded]
  exact spells_quoteIfNeededChars path.toList

/-- paths with a space between each two are as many words -/
theorem tokensOf_pathWords (paths : List String) :
    tokensOf (" ".intercalate (paths.map pathWord)).toList =
      paths.map fun path => .literal path.toList := by
  have hspace : " ".toList = [' '] := by decide
  rw [String.toList_intercalate, List.map_map, hspace, tokensOf, read]
  exact congrArg State.tokens (close_run_intercalate (fun path _ => spells_pathWord path) isFresh_start)

/-! ## bookkeeping commands -/

/-- the tokens of the command that makes a file empty -/
def createLine (file : String) : List Token := [.operator ['>'], .literal file.toList]

/-- the tokens of the record -/
def recordLine (path : String) : List Token :=
  [.literal ['e', 'c', 'h', 'o'], .word [.active '$', .active '?'], .operator ['>', '>'],
    .literal path.toList]

/-- the characters of the record -/
def recordText (path : String) : List Char :=
  ShellStep.recordHead ++ Flavor.posix.quoteChars path.toList

/-- the record where a token can begin -/
theorem close_run_recordText {s : State} (hs : s.IsFresh) (path : String) :
    (s.run (recordText path)).close = ⟨s.tokens ++ recordLine path, none, .plain⟩ := by
  have hhead : s.run ShellStep.recordHead =
      ⟨s.tokens ++ (recordLine path).dropLast, none, .plain⟩ := by
    rw [hs.run]
    rfl
  rw [recordText, run_append, hhead, spells_quoteChars path.toList _ ⟨rfl, rfl⟩, close]
  show State.mk (s.tokens ++ _ ++ [_]) none .plain = _
  rw [List.append_assoc]
  rfl

theorem commandLines_createCommand (file : String) :
    commandLines (Flavor.posix.createCommand file) = [createLine file] := by
  have htext : (Flavor.posix.createCommand file).toList =
      ShellStep.createHead ++ Flavor.posix.quoteChars file.toList := by
    have hhead : "> ".toList = ShellStep.createHead := by decide
    rw [Flavor.createCommand, String.toList_append, ShellStep.toList_quote, hhead]
  have hread : tokensOf (Flavor.posix.createCommand file).toList = createLine file := by
    rw [htext, tokensOf, read_append, spells_quoteChars file.toList _ ⟨rfl, rfl⟩]
    rfl
  rw [commandLines, hread]
  exact linesOf_line (by simp [createLine, Token.literal]) (List.cons_ne_nil _ _)

theorem linesOf_recordLine (file : String) : linesOf (recordLine file) = [recordLine file] :=
  linesOf_line (by simp [recordLine, Token.literal]) (List.cons_ne_nil _ _)

theorem commandLines_recordCommand (file : String) :
    commandLines (Flavor.posix.recordCommand file) = [recordLine file] := by
  have htext : (Flavor.posix.recordCommand file).toList = recordText file := by
    have hcommand : Flavor.posix.recordCommand file = "echo $? >> " ++ Flavor.posix.quote file := rfl
    have hhead : "echo $? >> ".toList = ShellStep.recordHead := by decide
    rw [hcommand, String.toList_append, ShellStep.toList_quote, hhead]
    rfl
  rw [commandLines, htext, tokensOf, read, close_run_recordText isFresh_start]
  exact linesOf_recordLine file

/-- **What is quoted is what is read.** -/
theorem quoted_literally :
    (∀ (s : String) (before after : List Char) (b b' : Char), (read before).mode = .plain →
      isSeparator b = true → isSeparator b' = true →
        tokensOf (before ++ b :: ((Flavor.posix.quote s).toList ++ b' :: after)) =
            tokensOf before ++ .literal s.toList :: tokensOf after ∧
          tokensOf (before ++ b :: ((Flavor.posix.quoteIfNeeded s).toList ++ b' :: after)) =
            tokensOf before ++ .literal s.toList :: tokensOf after) ∧
    (∀ paths : List String, tokensOf (" ".intercalate (paths.map pathWord)).toList =
      paths.map fun path => .literal path.toList) ∧
    (∀ file : String,
      (commandLines (Flavor.posix.createCommand file)).map simpleCommand? =
          [some ⟨[], [(.truncate, file.toList.map .literal)]⟩] ∧
        (commandLines (Flavor.posix.recordCommand file)).map simpleCommand? =
          [some ⟨["echo".toList.map .literal, [.active '$', .active '?']],
            [(.append, file.toList.map .literal)]⟩]) := by
  refine ⟨fun s before after b b' hbefore hb hb' => ⟨?_, ?_⟩, tokensOf_pathWords,
    fun file => ⟨?_, ?_⟩⟩
  · rw [ShellStep.toList_quote]
    exact tokensOf_between hbefore hb (spells_quoteChars s.toList) hb'
  · rw [toList_quoteIfNeeded]
    exact tokensOf_between hbefore hb (spells_quoteIfNeededChars s.toList) hb'
  · rw [commandLines_createCommand]
    rfl
  · rw [commandLines_recordCommand]
    rfl

/-- a name with quotes, a line end and expansions between two others -/
theorem quoted_literally_sample :
    (read "cc -c".toList).mode = .plain ∧ isSeparator ' ' = true ∧
      tokensOf ("cc -c".toList ++ ' ' :: ((Flavor.posix.quote "it's\n$(x)'").toList ++
        ' ' :: "-o ~".toList)) =
        [.literal "cc".toList, .literal "-c".toList, .literal "it's\n$(x)'".toList,
          .literal "-o".toList, .word [.active '~']] := by
  have hplain : (read "cc -c".toList).mode = .plain := by decide
  have hseparator : isSeparator ' ' = true := by decide
  refine ⟨hplain, hseparator, ?_⟩
  rw [(quoted_literally.1 "it's\n$(x)'" _ "-o ~".toList ' ' ' ' hplain hseparator hseparator).1]
  decide

end ShellWorkers.Lexical
