import Mathlib.Data.List.Induction
import ShellWorkers.Session
import ShellWorkers.Text.Replace

/-!
# What a shell reads from its queue

A session queues texts; the shell reads each text as steps.  A text that ends in the command
which records a status is a command and this record, the text that makes a status file empty is
one step, and any other text, such as the setup command, only concerns the shell itself.

* `ShellStep`             the steps;
* `Reads`                 a way of reading texts that finds a session's blocks;
* `ShellStep.ofBlock`     the way of the POSIX family, from the right end of a text;
* `reads_ofBlock`         it finds the blocks for every path and every command;
* `sessionSteps`          the steps of a session's whole queue.
-/

namespace ShellWorkers

/-- a step of a worker's shell -/
inductive ShellStep where
  /-- a text without a record behind it -/
  | other (text : String)
  /-- makes the file empty -/
  | create (path : String)
  /-- a command whose status is recorded in the file at `path` -/
  | command (text path : String)
  /-- appends the status of the step before to the file -/
  | record (path : String)
  deriving DecidableEq, Repr

namespace ShellStep

/-- the status file that a step is about -/
def path? : ShellStep → Option String
  | .other _ => none
  | .create path => some path
  | .command _ path => some path
  | .record path => some path

end ShellStep

/-- `read` reads the blocks that sessions of a flavor queue for the status file at `path` -/
structure Reads (read : String → List ShellStep) (f : Flavor) (path : String) : Prop where
  create : read (Session.createText f path) = [.create path]
  command : ∀ command, read (Session.commandText f path command) =
    [.command (Text.trimEnd command) path, .record path]

section

variable {read : String → List ShellStep} {f : Flavor} {path : String}

/-- a session's blocks are about its status file -/
theorem Reads.path_of_create (h : Reads read f path) :
    ∀ step ∈ read (Session.createText f path), step.path? = some path := by
  rw [h.create]
  exact List.forall_mem_singleton.mpr rfl

theorem Reads.path_of_command (h : Reads read f path) (command : String) :
    ∀ step ∈ read (Session.commandText f path command), step.path? = some path := by
  rw [h.command]
  exact List.forall_mem_cons.mpr ⟨rfl, List.forall_mem_singleton.mpr rfl⟩

end

/-! ## reading from the right -/

namespace ShellStep

/-- a quoted word read from its right end, behind the closing quote: the word and what stands
before its opening quote -/
def unquoteBack : List Char → List Char → Option (List Char × List Char)
  | '\'' :: '\'' :: '\\' :: '\'' :: cs, word => unquoteBack cs ('\'' :: word)
  | '\'' :: cs, word => some (word, cs)
  | c :: cs, word => unquoteBack cs (c :: word)
  | [], _ => none

/-- what stands before the path that is made empty -/
def createHead : List Char := ['>', ' ']

/-- what stands before the path that a status is appended to -/
def recordHead : List Char := ['e', 'c', 'h', 'o', ' ', '$', '?', ' ', '>', '>', ' ']

/-- the steps of a text, given what stands before its last word and this word -/
def ofLast (text : String) (before path : List Char) : List ShellStep :=
  match Text.after? recordHead.reverse before with
  | some ('\n' :: body) =>
    [.command (String.ofList body.reverse) (String.ofList path), .record (String.ofList path)]
  | _ =>
    if before = createHead.reverse then [.create (String.ofList path)] else [.other text]

/-- the steps of a text, as a shell of the POSIX family reads it -/
def ofBlock (text : String) : List ShellStep :=
  match text.toList.reverse with
  | '\n' :: '\'' :: cs =>
    match unquoteBack cs [] with
    | some (path, before) => ofLast text before path
    | none => [.other text]
  | _ => [.other text]

theorem unquoteBack_cons {c : Char} (h : c ≠ '\'') (cs word : List Char) :
    unquoteBack (c :: cs) word = unquoteBack cs (c :: word) := by
  rw [unquoteBack.eq_def]
  split
  · rename_i heq; exact absurd (List.cons.inj heq).1 h
  · rename_i heq; exact absurd (List.cons.inj heq).1 h
  · rename_i heq
    obtain ⟨rfl, rfl⟩ := List.cons.inj heq
    rfl
  · rename_i heq; exact absurd heq (List.cons_ne_nil _ _)

/-- an opening quote behind a space ends the word -/
theorem unquoteBack_escape (path word rest : List Char) :
    unquoteBack ((path.flatMap Flavor.escapeQuote).reverse ++ '\'' :: ' ' :: rest) word =
      some (path ++ word, ' ' :: rest) := by
  induction path using List.reverseRecOn generalizing word with
  | nil => rfl
  | append_singleton path c ih =>
    rw [List.flatMap_append, List.reverse_append, List.append_assoc, List.append_assoc]
    by_cases h : c = '\''
    · subst h
      exact ih ('\'' :: word)
    · have hc : ([c].flatMap Flavor.escapeQuote).reverse = [c] := by
        simp [Flavor.escapeQuote, h]
      rw [hc]
      show unquoteBack (c :: ((path.flatMap Flavor.escapeQuote).reverse ++ '\'' :: ' ' :: rest))
        word = _
      rw [unquoteBack_cons h, ih]
      rfl

/-- a text that ends in a space, a quoted path and a newline -/
theorem ofBlock_quote {text : String} {before : List Char} {path : String}
    (h : text.toList = before ++ ' ' :: (Flavor.quoteChars .posix path.toList ++ ['\n'])) :
    ofBlock text = ofLast text (' ' :: before.reverse) path.toList := by
  have hrev : text.toList.reverse = '\n' :: '\'' ::
      ((path.toList.flatMap Flavor.escapeQuote).reverse ++ '\'' :: ' ' :: before.reverse) := by
    rw [h, Flavor.quoteChars]
    simp
  rw [ofBlock, hrev]
  show (match unquoteBack _ [] with
    | some (path, before) => ofLast text before path
    | none => [.other text]) = _
  rw [unquoteBack_escape, List.append_nil]

theorem toList_quote (f : Flavor) (s : String) : (f.quote s).toList = f.quoteChars s.toList :=
  String.toList_ofList

theorem toList_createText (path : String) :
    (Session.createText .posix path).toList =
      ['>'] ++ ' ' :: (Flavor.quoteChars .posix path.toList ++ ['\n']) := by
  have htext : Session.createText .posix path = "> " ++ Flavor.quote .posix path ++ "\n" := rfl
  have hhead : "> ".toList = ['>', ' '] := by decide
  have hend : "\n".toList = ['\n'] := by decide
  rw [htext, String.toList_append, String.toList_append, toList_quote, hhead, hend]
  rfl

theorem toList_commandText (path command : String) :
    (Session.commandText .posix path command).toList =
      ((Text.trimEnd command).toList ++ '\n' :: recordHead.dropLast) ++
        ' ' :: (Flavor.quoteChars .posix path.toList ++ ['\n']) := by
  have htext : Session.commandText .posix path command =
      Text.trimEnd command ++ "\n" ++ ("echo $? >> " ++ Flavor.quote .posix path) ++ "\n" := rfl
  have hhead : "echo $? >> ".toList = recordHead.dropLast ++ [' '] := by decide
  have hend : "\n".toList = ['\n'] := by decide
  rw [htext, String.toList_append, String.toList_append, String.toList_append,
    String.toList_append, toList_quote, hhead, hend]
  simp only [List.append_assoc, List.cons_append, List.nil_append]

theorem ofBlock_createText (path : String) :
    ofBlock (Session.createText .posix path) = [.create path] := by
  rw [ofBlock_quote (toList_createText path), ofLast]
  show (if [' ', '>'] = createHead.reverse then _ else _) = _
  rw [if_pos (by decide), String.ofList_toList]

theorem ofBlock_commandText (path command : String) :
    ofBlock (Session.commandText .posix path command) =
      [.command (Text.trimEnd command) path, .record path] := by
  have hbefore : ' ' :: ((Text.trimEnd command).toList ++ '\n' :: recordHead.dropLast).reverse =
      recordHead.reverse ++ '\n' :: (Text.trimEnd command).toList.reverse := by
    rw [List.reverse_append, List.reverse_cons, List.append_assoc, ← List.cons_append]
    rfl
  rw [ofBlock_quote (toList_commandText path command), hbefore, ofLast, Text.after?_append]
  simp only [List.reverse_reverse, String.ofList_toList]

end ShellStep

/-- **The blocks of a session are found in the text, for every path and every command.** -/
theorem reads_ofBlock (path : String) : Reads ShellStep.ofBlock .posix path :=
  ⟨ShellStep.ofBlock_createText path, ShellStep.ofBlock_commandText path⟩

/-! ## the queue of a session -/

/-- the steps of a session's setup -/
def setupSteps (read : String → List ShellStep) (initCommand : String) : List ShellStep :=
  match Session.setupText initCommand with
  | some text => read text
  | none => []

/-- the steps of the commands of a session -/
def commandSteps (path : String) (commands : List String) : List ShellStep :=
  commands.flatMap fun c => [.command (Text.trimEnd c) path, .record path]

/-- all steps of a session: its setup, the creation of the status file, its commands -/
def sessionSteps (read : String → List ShellStep) (initCommand path : String)
    (commands : List String) : List ShellStep :=
  setupSteps read initCommand ++ .create path :: commandSteps path commands

end ShellWorkers
