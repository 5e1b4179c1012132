import ShellWorkers.Text.Utf8

/-!
# Commands of a shell

The commands that a script can hold, as trees.  A word is a list of parts: texts, and the
expansions whose values take their place when the command is run.  Every part says whether it
stood in quotes, for a quoted value is neither split into fields nor read as a pattern; a pair of
quotes leaves an empty quoted text behind, so that a word of nothing but quotes is still a word.

Scripts have a standard language and an extended one.  The extended one has arrays, tests as
commands, arithmetic as commands, and more uses of a parameter; its own trees are marked.

* `Part`, `Redirection`, `Command`   the trees;
* `Command.withDocuments`            the texts of documents, put where their operators stood.
-/

namespace ShellWorkers.Script

open Text (OctetText)

/-- which of the parts of a value that a pattern matches are replaced; extended -/
inductive ReplacedPlace where
  | first
  | all
  | atStart
  | atEnd
  deriving DecidableEq, Repr

/-- how the case of letters changes; extended -/
inductive CaseChange where
  | upper
  | lower
  | other
  deriving DecidableEq, Repr

/-- how the value of a parameter is used -/
inductive Use where
  | plain
  | length
  /-- the word stands for the value of a parameter that is unset -/
  | default
  | assign
  | error
  | alternative
  /-- the value without the shortest or longest end that the word matches -/
  | withoutSuffix (longest : Bool)
  | withoutPrefix (longest : Bool)
  /-- one that no shell knows -/
  | bad
  /-- what begins where the word says and is as long as the second word, if there is one; extended,
  as all that follow -/
  | slice (hasLength : Bool)
  /-- the value, what the word matches being replaced by the second word -/
  | replaced (place : ReplacedPlace)
  /-- the value, its first or all its letters that the word matches being in another case -/
  | recased (change : CaseChange) (all : Bool)
  /-- the value in the form that a letter stands for -/
  | transformed (form : Char)
  /-- the subscripts of an array -/
  | subscripts
  /-- the names of the variables that begin with this name -/
  | names
  deriving DecidableEq, Repr

/-- a parameter in braces, in the extended language -/
structure Reference where
  name : OctetText
  /-- the value names the parameter that is meant -/
  indirect : Bool
  use : Use
  /-- an empty value counts as none -/
  orEmpty : Bool
  quoted : Bool
  /-- as it stands in the script -/
  source : OctetText
  deriving Repr

/-- how an arm of a selection ends: with the selection, with the commands of the next arm, or with
the patterns of the next arm -/
inductive ArmEnd where
  | leave
  | fallThrough
  | tryNext
  deriving DecidableEq, Repr

/-- what a redirection opens -/
inductive Opening where
  | input
  | output
  /-- the same, of a file that is protected too -/
  | overwrite
  | append
  | inputOutput
  deriving DecidableEq, Repr

mutual

inductive Part where
  | text (value : OctetText) (quoted : Bool)
  /-- with `orEmpty` an empty value counts as none -/
  | parameter (name : OctetText) (use : Use) (orEmpty : Bool) (word : List Part) (quoted : Bool)
  | command (body : Command) (quoted : Bool)
  | arithmetic (expression : List Part) (quoted : Bool)
  /-- a parameter with its subscript, if there is one, and the words of its use; extended, as all
  that follow -/
  | reference (r : Reference) (subscript word second : List Part)
  /-- a subscript behind the name that is assigned to -/
  | subscript (word : List Part)
  /-- the elements that an array is to have -/
  | elements (words : List (List Part))
  /-- a path under which the output of a command can be read, or its input written -/
  | process (isRead : Bool) (body : Command)
  /-- how the word that ends here stands in the script; it stands for nothing -/
  | source (text : OctetText)

inductive Redirection where
  | open (fd : Nat) (kind : Opening) (target : List Part)
  /-- the descriptor that the word names, or none for a dash -/
  | copy (fd : Nat) (source : List Part)
  /-- a text to be read; `source` is what stands in its place, and `delimiter` what ends its lines,
  if it has lines of its own -/
  | document (fd : Nat) (body : List Part) (source delimiter : OctetText)
  /-- a document whose lines are still to be read, by its number -/
  | awaited (fd number : Nat) (source delimiter : OctetText)
  /-- the output and the messages; extended, as what follows -/
  | both (append : Bool) (target : List Part)
  /-- a redirection of a descriptor that is chosen, whose number a variable gets -/
  | named (name : OctetText) (r : Redirection)

/-- a test of the extended language -/
inductive Test where
  | nonempty (word : List Part)
  | unary (op : OctetText) (word : List Part)
  | binary (op : OctetText) (left right : List Part)
  | negation (t : Test)
  | conjunction (first second : Test)
  | disjunction (first second : Test)

inductive Command where
  | nothing
  | simple (line : Nat) (assignments words : List (List Part)) (redirections : List Redirection)
  | pipeline (commands : List Command) (background : Bool)
  | negation (body : Command)
  | conjunction (first second : Command)
  | disjunction (first second : Command)
  | sequence (first second : Command)
  | background (line : Nat) (body : Command) (redirections : List Redirection)
  | subshell (line : Nat) (body : Command) (redirections : List Redirection)
  | redirected (line : Nat) (body : Command) (redirections : List Redirection)
  | conditional (test yes no : Command)
  | whileLoop (wanted : Bool) (test body : Command)
  | forLoop (line : Nat) (name : OctetText) (words : List (List Part)) (body : Command)
  | selection (line : Nat) (word : List Part)
      (arms : List (List (List Part) × Command × ArmEnd))
  | definition (line : Nat) (name : OctetText) (body : Command)
  /-- a test; extended, as all that follow -/
  | test (line : Nat) (t : Test)
  /-- an arithmetic expression, which holds if its value is not zero -/
  | computation (line : Nat) (expression : List Part)
  /-- a loop with an expression at its beginning, one before each turn and one behind -/
  | countedLoop (line : Nat) (start test next : List Part) (body : Command)
  /-- a loop over the words that a reader chooses -/
  | menu (line : Nat) (name : OctetText) (words : List (List Part)) (body : Command)
  /-- a command whose times are written -/
  | timed (standard : Bool) (body : Command)

end

instance : Inhabited Command := ⟨.nothing⟩

/-- a word as a list of parts -/
abbrev Word := List Part

/-! ## names -/

def isNameStart (c : Char) : Bool := c.isAlpha || c == '_'

def isNameChar (c : Char) : Bool := c.isAlphanum || c == '_'

def isName (cs : List Char) : Bool :=
  match cs with
  | [] => false
  | c :: rest => isNameStart c && rest.all isNameChar

/-- the parameters that the shell sets itself, of one character -/
def isSpecialParameter (c : Char) : Bool :=
  ['@', '*', '#', '?', '-', '$', '!'].contains c || c.isDigit

/-- how a word stands in the script, where its parts do not say it -/
def ownSource? (w : Word) : Option OctetText :=
  match w.getLast? with
  | some (.source text) => some text
  | _ => none

/-! ## words that stand for themselves -/

/-- the text of a word without quotes and expansions -/
def bareText? : Word → Option OctetText
  | [.text value false] => some value
  | _ => none

/-- the name that a word gives a value to, and the word behind the sign -/
def assignment? : Word → Option (OctetText × Word)
  | .text value false :: rest =>
    let cs := value.toList
    let name := cs.takeWhile isNameChar
    match cs.drop name.length with
    | '=' :: after =>
      if isName name then
        some (String.ofList name,
          if after.isEmpty then rest else .text (String.ofList after) false :: rest)
      else none
    | _ => none
  | _ => none

/-! ## assignments of the extended language -/

/-- what a word assigns to -/
structure Assignment where
  name : OctetText
  subscript : Option Word
  /-- the value is put behind the one that is there -/
  append : Bool
  value : Word

/-- an assignment sign at the beginning of a text: whether the value is put behind, and the rest -/
def assignmentSign? : List Char → Option (Bool × List Char)
  | '=' :: rest => some (false, rest)
  | '+' :: '=' :: rest => some (true, rest)
  | _ => none

/-- the assignment that a word is -/
def extendedAssignment? : Word → Option Assignment
  | .text value false :: .subscript word :: .text after false :: rest => do
    let (append, after) ← assignmentSign? after.toList
    if isName value.toList then some ⟨value, some word, append, behind after rest⟩ else none
  | .text value false :: rest => do
    let cs := value.toList
    let name := cs.takeWhile isNameChar
    let (append, after) ← assignmentSign? (cs.drop name.length)
    if isName name then some ⟨String.ofList name, none, append, behind after rest⟩ else none
  | _ => none
where
  behind (after : List Char) (rest : Word) : Word :=
    if after.isEmpty then rest else .text (String.ofList after) false :: rest

/-! ## documents -/

mutual

def Part.withDocuments (bodies : Nat → Word) : Part → Part
  | .text value quoted => .text value quoted
  | .parameter name use orEmpty word quoted =>
    .parameter name use orEmpty (wordWithDocuments bodies word) quoted
  | .command body quoted => .command (body.withDocuments bodies) quoted
  | .arithmetic expression quoted => .arithmetic (wordWithDocuments bodies expression) quoted
  | .reference r subscript word second =>
    .reference r (wordWithDocuments bodies subscript) (wordWithDocuments bodies word)
      (wordWithDocuments bodies second)
  | .subscript word => .subscript (wordWithDocuments bodies word)
  | .elements words => .elements (wordsWithDocuments bodies words)
  | .process isRead body => .process isRead (body.withDocuments bodies)
  | .source text => .source text

def wordWithDocuments (bodies : Nat → Word) : List Part → List Part
  | [] => []
  | p :: ps => p.withDocuments bodies :: wordWithDocuments bodies ps

def wordsWithDocuments (bodies : Nat → Word) : List (List Part) → List (List Part)
  | [] => []
  | w :: ws => wordWithDocuments bodies w :: wordsWithDocuments bodies ws

def Redirection.withDocuments (bodies : Nat → Word) : Redirection → Redirection
  | .open fd kind target => .open fd kind (wordWithDocuments bodies target)
  | .copy fd source => .copy fd (wordWithDocuments bodies source)
  | .document fd body source delimiter => .document fd body source delimiter
  | .awaited fd number source delimiter => .document fd (bodies number) source delimiter
  | .both append target => .both append (wordWithDocuments bodies target)
  | .named name r => .named name (r.withDocuments bodies)

def redirectionsWithDocuments (bodies : Nat → Word) : List Redirection → List Redirection
  | [] => []
  | r :: rs => r.withDocuments bodies :: redirectionsWithDocuments bodies rs

def armsWithDocuments (bodies : Nat → Word) :
    List (List (List Part) × Command × ArmEnd) → List (List (List Part) × Command × ArmEnd)
  | [] => []
  | (ws, body, ending) :: arms =>
    (wordsWithDocuments bodies ws, body.withDocuments bodies, ending)
      :: armsWithDocuments bodies arms

def Test.withDocuments (bodies : Nat → Word) : Test → Test
  | .nonempty word => .nonempty (wordWithDocuments bodies word)
  | .unary op word => .unary op (wordWithDocuments bodies word)
  | .binary op left right =>
    .binary op (wordWithDocuments bodies left) (wordWithDocuments bodies right)
  | .negation t => .negation (t.withDocuments bodies)
  | .conjunction a b => .conjunction (a.withDocuments bodies) (b.withDocuments bodies)
  | .disjunction a b => .disjunction (a.withDocuments bodies) (b.withDocuments bodies)

def commandsWithDocuments (bodies : Nat → Word) : List Command → List Command
  | [] => []
  | c :: cs => c.withDocuments bodies :: commandsWithDocuments bodies cs

/-- a command with the documents that it awaits -/
def Command.withDocuments (bodies : Nat → Word) : Command → Command
  | .nothing => .nothing
  | .simple line assignments words rs =>
    .simple line (wordsWithDocuments bodies assignments) (wordsWithDocuments bodies words)
      (redirectionsWithDocuments bodies rs)
  | .pipeline commands background => .pipeline (commandsWithDocuments bodies commands) background
  | .negation body => .negation (body.withDocuments bodies)
  | .conjunction a b => .conjunction (a.withDocuments bodies) (b.withDocuments bodies)
  | .disjunction a b => .disjunction (a.withDocuments bodies) (b.withDocuments bodies)
  | .sequence a b => .sequence (a.withDocuments bodies) (b.withDocuments bodies)
  | .background line body rs =>
    .background line (body.withDocuments bodies) (redirectionsWithDocuments bodies rs)
  | .subshell line body rs =>
    .subshell line (body.withDocuments bodies) (redirectionsWithDocuments bodies rs)
  | .redirected line body rs =>
    .redirected line (body.withDocuments bodies) (redirectionsWithDocuments bodies rs)
  | .conditional test yes no =>
    .conditional (test.withDocuments bodies) (yes.withDocuments bodies) (no.withDocuments bodies)
  | .whileLoop wanted test body =>
    .whileLoop wanted (test.withDocuments bodies) (body.withDocuments bodies)
  | .forLoop line name words body =>
    .forLoop line name (wordsWithDocuments bodies words) (body.withDocuments bodies)
  | .selection line word arms =>
    .selection line (wordWithDocuments bodies word) (armsWithDocuments bodies arms)
  | .definition line name body => .definition line name (body.withDocuments bodies)
  | .test line t => .test line (t.withDocuments bodies)
  | .computation line expression => .computation line (wordWithDocuments bodies expression)
  | .countedLoop line start test next body =>
    .countedLoop line (wordWithDocuments bodies start) (wordWithDocuments bodies test)
      (wordWithDocuments bodies next) (body.withDocuments bodies)
  | .menu line name words body =>
    .menu line name (wordsWithDocuments bodies words) (body.withDocuments bodies)
  | .timed standard body => .timed standard (body.withDocuments bodies)

end

end ShellWorkers.Script
