import ShellWorkers.Regex.Reader

/-!
# Scripts of the stream editor

The commands of a script, and how they are read.
-/

/-!
## Scripts of an editor

A script is a list of commands.  A command may be guarded by one or two addresses, which say on
which lines it works.  Braces are commands too: an opening one leads past its closing one on lines
where it does not work.
-/

namespace ShellWorkers.Utility.Editor

open Text (OctetText)

/-- the line where a command begins to work; an expression that is left out is the last one that
was used -/
inductive Spot where
  | line (number : Nat)
  /-- a line and every so many behind it -/
  | steps (first step : Nat)
  | last
  | described (regex : Option Regex)

/-- the line where a command stops to work -/
inductive SpotEnd where
  | line (number : Nat)
  /-- so many lines behind the first -/
  | plus (count : Nat)
  /-- the next line whose number is a multiple -/
  | multiple (count : Nat)
  | last
  | described (regex : Option Regex)

/-- on which lines a command works -/
structure Guard where
  first : Option Spot
  second : Option SpotEnd
  negated : Bool

/-- how letters of a replacement change -/
inductive CaseChange where
  | upper
  | lower
  | none
  /-- the next letter only -/
  | upperNext
  | lowerNext
  deriving DecidableEq

/-- a part of a replacement -/
inductive Piece where
  | char (c : Char)
  /-- the text of a group; group 0 is all that was found -/
  | group (number : Nat)
  | change (how : CaseChange)

/-- where a command writes to -/
inductive Target where
  | output
  | messages
  | file (path : OctetText)
  deriving DecidableEq

structure Substitution where
  regex : Option Regex
  replacement : List Piece
  /-- all places from this one on -/
  isGlobal : Bool
  /-- the place that is replaced, counted from 1 -/
  place : Nat
  prints : Bool
  /-- the result is a command whose output takes its place -/
  evaluates : Bool
  /-- it is printed before, not behind that -/
  printsBefore : Bool
  target : Option Target

/-- whether the texts of groups are put in -/
def Substitution.usesGroups (s : Substitution) : Bool :=
  s.replacement.any fun
    | .group n => n ≠ 0
    | _ => false

/-- when a branch is taken -/
inductive BranchKind where
  | always
  | ifReplaced
  | unlessReplaced
  deriving DecidableEq

/-- what a command does -/
inductive Action where
  /-- an opening brace, with the place behind its closing one -/
  | block (past : Nat)
  | nothing
  | append (text : OctetText)
  | insert (text : OctetText)
  | change (text : OctetText)
  | branch (kind : BranchKind) (label : OctetText)
  | delete
  | deleteFirst
  | execute (command : OctetText)
  | nameFile
  | get
  | getAppend
  | hold
  | holdAppend
  | list (width : Option Nat)
  | next
  | nextAppend
  | print
  | printFirst
  | quit (code : Nat) (prints : Bool)
  | readFile (path : OctetText)
  | readLine (path : OctetText)
  | substitute (s : Substitution)
  | translate (pairs : List (Char × Char))
  | write (target : Target)
  | writeFirst (target : Target)
  | exchange
  | zap
  | number

structure Command where
  guard : Guard
  action : Action

/-- a script: commands, the places of labels, and whether lines are printed only if asked for -/
structure Script where
  commands : Array Command
  labels : List (OctetText × Nat)
  quiet : Bool

end ShellWorkers.Utility.Editor

/-!
## Reading scripts of an editor

Scripts are read character by character; a message about one says how many have been read.  A
script may be given in several parts, each of which ends a line.
-/

namespace ShellWorkers.Utility.Editor

open Text (OctetText)

/-- where a part of a script comes from -/
inductive Source where
  /-- an argument, by its number -/
  | argument (number : Nat)
  | file (name : OctetText)

/-- a text that a command waits for, from the next part of the script -/
inductive TextKind where
  | append
  | insert
  | change
  deriving DecidableEq

/-- how the reading of a script stands -/
structure ReaderState where
  source : Source
  rest : List Char
  /-- how many characters of the part have been read, and how many lines -/
  taken : Nat
  line : Nat
  /-- the commands, last first -/
  commands : List Command
  count : Nat
  /-- the places and lines of opening braces that wait for closing ones -/
  blocks : List (Nat × Nat)
  labels : List (OctetText × Nat)
  quiet : Bool
  /-- a text that is not complete, last character first -/
  pending : Option (TextKind × Guard × List Char)
  extended : Bool

/-- reading, which can end with a message and a code -/
abbrev Reading := StateT ReaderState (Except (Nat × OctetText))

namespace Reading

/-- ends with a message as it is -/
def failPlain {α : Type} (code : Nat) (message : OctetText) : Reading α :=
  StateT.lift (.error (code, message))

/-- a message with the place where the reading stands -/
def located (source : Source) (taken line : Nat) (message : OctetText) : OctetText :=
  match source with
  | .argument n =>
    "-e expression #" ++ toString n ++ ", char " ++ toString taken ++ ": " ++ message
  | .file name => "file " ++ name ++ " line " ++ toString line ++ ": " ++ message

def fail {α : Type} (message : OctetText) : Reading α := do
  let s ← get
  failPlain 1 (located s.source s.taken s.line message)

/-- the next character -/
def next : Reading (Option Char) := do
  let s ← get
  match s.rest with
  | [] => pure none
  | c :: cs => do
    set { s with
      rest := cs
      taken := s.taken + 1
      line := if c = '\n' then s.line + 1 else s.line }
    pure (some c)

/-- puts a character back -/
def back (c? : Option Char) : Reading Unit := do
  match c? with
  | none => pure ()
  | some c => modify fun s => { s with
      rest := c :: s.rest
      taken := s.taken - 1
      line := if c = '\n' then s.line - 1 else s.line }

/-- passes over characters -/
def skip (test : Char → Bool) : Reading Unit := do
  let s ← get
  let passed := s.rest.takeWhile test
  set { s with
    rest := s.rest.drop passed.length
    taken := s.taken + passed.length
    line := s.line + passed.count '\n' }

/-- reads characters as long as they pass a test -/
def takeWhile (test : Char → Bool) : Reading (List Char) := do
  let taken := (← get).rest.takeWhile test
  skip test
  pure taken

def isBlank (c : Char) : Bool := c == ' ' || c == '\t'

/-- the next character that is no blank -/
def nextNonBlank : Reading (Option Char) := do
  skip isBlank
  next

/-- a number whose first digit has been read -/
def number (first : Char) : Reading Nat := do
  let ds ← takeWhile Char.isDigit
  pure ((first :: ds).foldl (fun n c => n * 10 + (c.toNat - 48)) 0)

/-! ### escapes -/

/-- the octet that digits of a base stand for, and the rest; none if there are no digits -/
def numbered (base width : Nat) (cs : List Char) : Option (Char × List Char) :=
  let digit? (c : Char) : Option Nat :=
    let n := if c.isDigit then c.toNat - 48
      else if 97 ≤ c.toNat && c.toNat ≤ 102 then c.toNat - 87
      else if 65 ≤ c.toNat && c.toNat ≤ 70 then c.toNat - 55 else 16
    if n < base then some n else none
  let ds := (cs.take width).takeWhile fun c => (digit? c).isSome
  if ds.isEmpty then none
  else
    let n := ds.foldl (fun n c => n * base + (digit? c).getD 0) 0
    some (Char.ofNat (n % 256), cs.drop ds.length)

/-- the character that a letter behind a backslash stands for, and the rest -/
def escape? (c : Char) (rest : List Char) : Option (Char × List Char) :=
  match c with
  | 'a' => some ('\x07', rest)
  | 'f' => some ('\x0c', rest)
  | 'n' => some ('\n', rest)
  | 'r' => some ('\r', rest)
  | 't' => some ('\t', rest)
  | 'v' => some ('\x0b', rest)
  | 'c' =>
    match rest with
    | d :: rest => some (Char.ofNat (d.toUpper.toNat ^^^ 64), rest)
    | [] => none
  | 'd' => numbered 10 3 rest
  | 'o' => numbered 8 3 rest
  | 'x' => numbered 16 2 rest
  | _ => none

/-- a regular expression in which escapes have been replaced -/
def unescapeRegex : (fuel : Nat) → List Char → List Char
  | 0, cs => cs
  | fuel + 1, '\\' :: c :: rest =>
    match escape? c rest with
    | some (d, rest) => d :: unescapeRegex fuel rest
    | none => '\\' :: c :: unescapeRegex fuel rest
  | fuel + 1, c :: rest => c :: unescapeRegex fuel rest
  | _ + 1, [] => []

/-- a text in which backslashes have been taken away -/
def unescapeText : (fuel : Nat) → List Char → List Char
  | 0, cs => cs
  | fuel + 1, '\\' :: c :: rest =>
    match escape? c rest with
    | some (d, rest) => d :: unescapeText fuel rest
    | none => c :: unescapeText fuel rest
  | _ + 1, ['\\'] => []
  | fuel + 1, c :: rest => c :: unescapeText fuel rest
  | _ + 1, [] => []

/-- the pieces of a replacement -/
def pieces : (fuel : Nat) → List Char → List Piece
  | 0, _ => []
  | fuel + 1, '\\' :: c :: rest =>
    let change (how : CaseChange) : List Piece := .change how :: pieces fuel rest
    match c with
    | 'U' => change .upper
    | 'L' => change .lower
    | 'E' => change .none
    | 'u' => change .upperNext
    | 'l' => change .lowerNext
    | _ =>
      if c.isDigit then .group (c.toNat - 48) :: pieces fuel rest
      else
        match escape? c rest with
        | some (d, rest) => .char d :: pieces fuel rest
        | none => .char c :: pieces fuel rest
  | fuel + 1, '&' :: rest => .group 0 :: pieces fuel rest
  | fuel + 1, c :: rest => .char c :: pieces fuel rest
  | _ + 1, [] => []

/-- the greatest group that a replacement names -/
def greatestGroup (ps : List Piece) : Nat :=
  ps.foldl (fun n p => match p with
    | .group m => if n < m then m else n
    | _ => n) 0

/-! ### delimited texts -/

/-- the inside of a class up to its closing bracket, with the text behind it; nothing if it is
not closed on the line -/
def classText : (fuel : Nat) → List Char → Option (List Char × List Char)
  | 0, _ => none
  | fuel + 1, cs =>
    match cs with
    | [] => none
    | '\n' :: _ => none
    | ']' :: rest => some ([']'], rest)
    | '[' :: mark :: rest =>
      if mark == ':' || mark == '.' || mark == '=' then
        named fuel mark ['[', mark] rest
      else (fun p => ('[' :: p.1, p.2)) <$> classText fuel (mark :: rest)
    | c :: rest => (fun p => (c :: p.1, p.2)) <$> classText fuel rest
where
  /-- the name of a kind of characters, and what comes behind it -/
  named (fuel : Nat) (mark : Char) (opening : List Char) (rest : List Char) :
      Option (List Char × List Char) :=
    match fuel with
    | 0 => none
    | fuel + 1 =>
      match rest with
      | [] => none
      | '\n' :: _ => none
      | c :: ']' :: after =>
        if c == mark then
          (fun p => (opening ++ [c, ']'] ++ p.1, p.2)) <$> classText fuel after
        else named fuel mark (opening ++ [c]) (']' :: after)
      | c :: after => named fuel mark (opening ++ [c]) after

/-- the text of a class with its brackets, and the rest -/
def wholeClass (cs : List Char) : Option (List Char × List Char) :=
  let start (before : List Char) (rest : List Char) : Option (List Char × List Char) :=
    match rest with
    | ']' :: rest => (fun p => (before ++ [']'] ++ p.1, p.2)) <$> classText (rest.length + 1) rest
    | rest => (fun p => (before ++ p.1, p.2)) <$> classText (rest.length + 1) rest
  match cs with
  | '^' :: rest => start ['[', '^'] rest
  | rest => start ['['] rest

/-- a text up to a mark; nothing if the line ends before.  In a regular expression the mark may
stand in a class. -/
def upTo (mark : Char) (isRegex : Bool) : (fuel : Nat) → (done : List Char) →
    Reading (Option (List Char))
  | 0, _ => pure none
  | fuel + 1, done => do
    match ← next with
    | none => pure none
    | some '\n' => do
      if mark = '\n' then pure (some done.reverse)
      else
        back (some '\n')
        pure none
    | some c =>
      if c = mark then pure (some done.reverse)
      else if c = '\\' then
        match ← next with
        | none => pure none
        | some d =>
          if d = 'n' && isRegex then upTo mark isRegex fuel ('\n' :: done)
          else if d != '\n' && (d != mark || (!isRegex && d == '&')) then
            upTo mark isRegex fuel (d :: '\\' :: done)
          else upTo mark isRegex fuel (d :: done)
      else if c = '[' && isRegex then
        let s ← get
        match wholeClass s.rest with
        | none => do
          skip (· != '\n')
          pure none
        | some (text, rest) => do
          set { s with rest, taken := s.taken + (text.length - 1) }
          upTo mark isRegex fuel (text.reverse ++ done)
      else upTo mark isRegex fuel (c :: done)

/-- a text up to a mark -/
def delimited (mark : Char) (isRegex : Bool) : Reading (Option (List Char)) := do
  upTo mark isRegex ((← get).rest.length + 1) []

/-! ### regular expressions -/

def dialect (extended folds lines : Bool) : Regex.Dialect :=
  { (if extended then Regex.Dialect.extendedForm else Regex.Dialect.basic) with
    folds, lines, guardsKinds := true }

/-- a regular expression; an empty one is the last one that was used.  `groups` is how many groups
it has to have. -/
def regexOf (text : List Char) (folds lines : Bool) (groups : Nat) : Reading (Option Regex) := do
  if text.isEmpty then
    if folds || lines then fail "cannot specify modifiers on empty regexp"
    else pure none
  else
    let d := dialect (← get).extended folds lines
    match Regex.read d (unescapeRegex (text.length + 1) text) with
    | .error .bareKind => failPlain 1 Regex.Fault.bareKind.message
    | .error fault => fail fault.message
    | .ok r =>
      if r.groups < groups then
        fail ("invalid reference \\" ++ toString groups ++ " on `s' command's RHS")
      else pure (some r.regex)

/-! ### addresses -/

/-- an address, before it is known whether it is the first or the second -/
inductive Address where
  | line (number : Nat)
  | steps (first step : Nat)
  | plus (count : Nat)
  | multiple (count : Nat)
  | last
  | described (regex : Option Regex)

/-- the letters behind a regular expression of an address -/
def addressFlags : (fuel : Nat) → (folds lines : Bool) → Reading (Bool × Bool)
  | 0, folds, lines => pure (folds, lines)
  | fuel + 1, folds, lines => do
    match ← nextNonBlank with
    | some 'I' => addressFlags fuel true lines
    | some 'M' => addressFlags fuel folds true
    | c => do
      back c
      pure (folds, lines)

/-- a number that may be missing, from its first character on -/
def numberFrom (c? : Option Char) : Reading Nat := do
  match c? with
  | some c => if c.isDigit then number c else do
      back (some c)
      pure 0
  | none => pure 0

/-- the address that a character begins -/
def address? (c? : Option Char) : Reading (Option Address) := do
  let described (mark : Char) : Reading (Option Address) := do
    match ← delimited mark true with
    | none => fail "unterminated address regex"
    | some text => do
      let (folds, lines) ← addressFlags ((← get).rest.length + 1) false false
      return some (.described (← regexOf text folds lines 0))
  match c? with
  | some '/' => described '/'
  | some '\\' =>
    match ← next with
    | some mark => described mark
    | none => fail "unterminated address regex"
  | some '$' => pure (some .last)
  | some '+' => do
    let n ← numberFrom (← nextNonBlank)
    pure (some (.plus n))
  | some '~' => do
    let n ← numberFrom (← nextNonBlank)
    pure (some (.multiple n))
  | some c =>
    if c.isDigit then do
      let n ← number c
      match ← nextNonBlank with
      | some '~' => do
        let step ← numberFrom (← nextNonBlank)
        pure (some (if 0 < step then .steps n step else .line n))
      | c => do
        back c
        pure (some (.line n))
    else pure none
  | none => pure none

/-- the guard of a command, from its first character on, and the character behind it -/
def readGuard (c? : Option Char) : Reading (Guard × Option Char) := do
  match ← address? c? with
  | none => pure (⟨none, none, false⟩, c?)
  | some first => do
    let first : Spot ← match first with
      | .line n => pure (.line n)
      | .steps n m => pure (.steps n m)
      | .last => pure .last
      | .described r => pure (.described r)
      | _ => fail "invalid usage of +N or ~N as first address"
    let c ← nextNonBlank
    let (second, c) ← if c == some ',' then do
        match ← address? (← nextNonBlank) with
        | none => fail "unexpected `,'"
        | some second => do
          let second : SpotEnd := match second with
            | .line n => .line n
            | .steps n _ => .line n
            | .plus n => .plus n
            | .multiple n => .multiple n
            | .last => .last
            | .described r => .described r
          let c ← nextNonBlank
          pure (some second, c)
      else pure (none, c)
    let isZero := match first with
      | .line 0 => true
      | _ => false
    let endsDescribed := match second with
      | some (.described _) => true
      | _ => false
    if isZero && !endsDescribed then fail "invalid usage of line address 0"
    else pure (⟨some first, second, false⟩, c)

/-! ### parts of commands -/

/-- what comes behind a command has to be another one or the end of the line -/
def endOfCommand : Reading Unit := do
  match ← nextNonBlank with
  | some '}' => back (some '}')
  | some '#' => back (some '#')
  | some ';' => pure ()
  | some '\n' => pure ()
  | none => pure ()
  | some _ => fail "extra characters after command"

/-- the name of a label -/
def label : Reading OctetText := do
  skip isBlank
  return String.ofList (← takeWhile fun c => !Text.isSpace c && c != ';' && c != '\x7d')

/-- the name of a file, which is the rest of the line -/
def fileName : Reading OctetText := do
  skip isBlank
  let name ← takeWhile (· != '\n')
  let _ ← next
  if name.isEmpty then fail "missing filename in r/R/w/W commands"
  else pure (String.ofList name)

/-- where a command writes to -/
def target : Reading Target := do
  match ← fileName with
  | "/dev/stdout" => pure .output
  | "/dev/stderr" => pure .messages
  | path => pure (.file path)

/-- the rest of a line, in which a backslash takes in the end of the line; and whether the part of
the script ends behind a backslash -/
def restOfText : (fuel : Nat) → (done : List Char) → Reading (List Char)
  | 0, done => pure done
  | fuel + 1, done => do
    match ← next with
    | none => pure ('\n' :: done)
    | some '\n' => pure ('\n' :: done)
    | some '\\' =>
      match ← next with
      | none => pure ('\n' :: done)
      | some c => restOfText fuel (c :: '\\' :: done)
    | some c => restOfText fuel (c :: done)

/-- adds a command -/
def add (guard : Guard) (action : Action) : Reading Unit :=
  modify fun s => { s with commands := ⟨guard, action⟩ :: s.commands, count := s.count + 1 }

def textAction (kind : TextKind) (text : OctetText) : Action :=
  match kind with
  | .append => .append text
  | .insert => .insert text
  | .change => .change text

/-- adds a command with the text that comes next -/
def addText (kind : TextKind) (guard : Guard) : Reading Unit := do
  let text ← restOfText ((← get).rest.length + 1) []
  let cs := text.reverse
  add guard (textAction kind (String.ofList (unescapeText (cs.length + 1) cs)))

/-- a command with a text: behind a backslash, on the next line or in the next part of the
script, or on the same line -/
def textCommand (kind : TextKind) (guard : Guard) : Reading Unit := do
  match ← nextNonBlank with
  | none => fail "expected \\ after `a', `c' or `i'"
  | some '\\' =>
    match ← next with
    | none => modify ({ · with pending := some (kind, guard, []) })
    | some '\n' =>
      if (← get).rest.isEmpty then
        fail "expected \\ after `a', `c' or `i'"
      else addText kind guard
    | c => do
      back c
      addText kind guard
  | c => do
    back c
    addText kind guard

/-- the flags of a substitution -/
structure Flags where
  folds : Bool
  lines : Bool
  isGlobal : Bool
  place : Option Nat
  prints : Bool
  printsBefore : Bool
  evaluates : Bool
  target : Option Target

/-- reads the flags of a substitution -/
def substitutionFlags : (fuel : Nat) → Flags → Reading Flags
  | 0, f => pure f
  | fuel + 1, f => do
    match ← next with
    | none => pure f
    | some '\n' => pure f
    | some ';' => pure f
    | some '}' => do
      back (some '}')
      pure f
    | some '#' => do
      back (some '#')
      pure f
    | some 'i' => substitutionFlags fuel { f with folds := true }
    | some 'I' => substitutionFlags fuel { f with folds := true }
    | some 'm' => substitutionFlags fuel { f with lines := true }
    | some 'M' => substitutionFlags fuel { f with lines := true }
    | some 'e' => substitutionFlags fuel { f with evaluates := true }
    | some 'p' =>
      if f.prints then fail "multiple `p' options to `s' command"
      else substitutionFlags fuel { f with prints := true, printsBefore := !f.evaluates }
    | some 'g' =>
      if f.isGlobal then fail "multiple `g' options to `s' command"
      else substitutionFlags fuel { f with isGlobal := true }
    | some 'w' => do
      let target ← target
      pure { f with target := some target }
    | some c =>
      if isBlank c then substitutionFlags fuel f
      else if c.isDigit then
        if f.place.isSome then fail "multiple number options to `s' command"
        else do
          let n ← number c
          if n = 0 then fail "number option to `s' command may not be zero"
          else substitutionFlags fuel { f with place := some n }
      else fail "unknown option to `s'"

/-- a substitution, behind its letter -/
def substitution : Reading Action := do
  let unterminated {α : Type} : Reading α := fail "unterminated `s' command"
  match ← next with
  | none => unterminated
  | some mark =>
    match ← delimited mark true with
    | none => unterminated
    | some pattern =>
      match ← delimited mark false with
      | none => unterminated
      | some text => do
        let replacement := pieces (text.length + 1) text
        let start : Flags := ⟨false, false, false, none, false, false, false, none⟩
        let f ← substitutionFlags ((← get).rest.length + 1) start
        let regex ← regexOf pattern f.folds f.lines (greatestGroup replacement)
        pure (.substitute
          ⟨regex, replacement, f.isGlobal, f.place.getD 1, f.prints, f.evaluates,
            f.printsBefore && f.evaluates, f.target⟩)

/-- a text of a translation, without backslashes -/
def translated : (fuel : Nat) → List Char → List Char
  | 0, cs => cs
  | fuel + 1, '\\' :: '\\' :: rest => '\\' :: translated fuel rest
  | fuel + 1, '\\' :: c :: rest =>
    match escape? c rest with
    | some (d, rest) => d :: translated fuel rest
    | none => '\\' :: c :: translated fuel rest
  | fuel + 1, c :: rest => c :: translated fuel rest
  | _ + 1, [] => []

/-- a translation, behind its letter -/
def translation : Reading Action := do
  let unterminated {α : Type} : Reading α := fail "unterminated `y' command"
  match ← next with
  | none => unterminated
  | some mark =>
    match ← delimited mark false with
    | none => unterminated
    | some source =>
      match ← delimited mark false with
      | none => unterminated
      | some result => do
        let source := translated (source.length + 1) source
        let result := translated (result.length + 1) result
        if source.length ≠ result.length then
          fail "strings for `y' command are different lengths"
        else pure (.translate (source.zip result))

/-- an optional number behind a command -/
def optionalNumber : Reading (Option Nat) := do
  match ← nextNonBlank with
  | some c =>
    if c.isDigit then some <$> number c
    else do
      back (some c)
      pure none
  | none => pure none

/-! ### commands -/

/-- a command without anything behind its letter -/
def plainAction? (c : Char) : Option Action :=
  match c with
  | '=' => some .number
  | 'd' => some .delete
  | 'D' => some .deleteFirst
  | 'F' => some .nameFile
  | 'g' => some .get
  | 'G' => some .getAppend
  | 'h' => some .hold
  | 'H' => some .holdAppend
  | 'n' => some .next
  | 'N' => some .nextAppend
  | 'p' => some .print
  | 'P' => some .printFirst
  | 'x' => some .exchange
  | 'z' => some .zap
  | _ => none

/-- a comment; at the beginning of the script one may say that lines are not printed -/
def comment : Reading Unit := do
  let s ← get
  let first := s.taken = 1 && s.commands.isEmpty && (match s.source with
    | .argument n => n == 1
    | .file _ => true)
  let text ← takeWhile (· != '\n')
  if first && text == ['n'] then modify ({ · with quiet := true })

/-- a closing brace -/
def closeBlock (guard : Guard) : Reading Unit := do
  let s ← get
  match s.blocks with
  | [] => fail "unexpected `\x7d'"
  | (opening, _) :: blocks => do
    if guard.first.isSome then fail "\x7d doesn't want any addresses"
    endOfCommand
    let close (i : Nat) (c : Command) : Command :=
      if i = s.count - 1 - opening then { c with action := .block s.count } else c
    modify fun t => { t with
      blocks
      commands := ⟨⟨none, none, false⟩, .nothing⟩ :: s.commands.mapIdx close
      count := s.count + 1 }

/-- one command behind its guard -/
def command (guard : Guard) (c : Char) : Reading Unit := do
  match plainAction? c with
  | some action => do
    endOfCommand
    add guard action
  | none =>
    match c with
    | '#' => do
      if guard.first.isSome then fail "comments don't accept any addresses"
      comment
    | '{' => do
      modify fun s => { s with blocks := (s.count, s.line) :: s.blocks }
      add guard (.block 0)
    | '}' => closeBlock guard
    | ':' => do
      if guard.first.isSome then fail ": doesn't want any addresses"
      let name ← label
      if name.isEmpty then fail "\":\" lacks a label"
      modify fun s => { s with labels := s.labels ++ [(name, s.count)] }
    | 'a' => textCommand .append guard
    | 'i' => textCommand .insert guard
    | 'c' => textCommand .change guard
    | 'b' => do
      let name ← label
      endOfCommand
      add guard (.branch .always name)
    | 't' => do
      let name ← label
      endOfCommand
      add guard (.branch .ifReplaced name)
    | 'T' => do
      let name ← label
      endOfCommand
      add guard (.branch .unlessReplaced name)
    | 'e' => do
      skip isBlank
      let text ← restOfText ((← get).rest.length + 1) []
      add guard (.execute (String.ofList (text.drop 1).reverse))
    | 'l' => do
      let n ← optionalNumber
      endOfCommand
      add guard (.list n)
    | 'L' => do
      let n ← optionalNumber
      endOfCommand
      add guard (.list n)
    | 'r' => do
      let name ← fileName
      add guard (.readFile name)
    | 'R' => do
      let name ← fileName
      add guard (.readLine name)
    | 'w' => do
      let target ← target
      add guard (.write target)
    | 'W' => do
      let target ← target
      add guard (.writeFirst target)
    | 's' => do
      let action ← substitution
      add guard action
    | 'y' => do
      let action ← translation
      endOfCommand
      add guard action
    | 'v' => do
      let version ← label
      let parts := (version.splitOn ".").map fun p => (p.toNat?).getD 0
      if decide ([4, 9] < parts) then fail "expected newer version of sed"
      endOfCommand
    | _ =>
      if c == 'q' || c == 'Q' then do
        if guard.second.isSome then fail "command only uses one address"
        let n ← optionalNumber
        endOfCommand
        add guard (.quit (n.getD 0 % 256) (c == 'q'))
      else fail ("unknown command: `" ++ String.ofList [c] ++ "'")

/-- the commands of a part of a script -/
def commands : (fuel : Nat) → Reading Unit
  | 0 => pure ()
  | fuel + 1 => do
    skip fun c => c == ';' || Text.isSpace c
    match ← next with
    | none => pure ()
    | c => do
      let (guard, c) ← readGuard c
      let (guard, c) ← if c == some '!' then do
          let c ← nextNonBlank
          if c == some '!' then fail "multiple `!'s"
          else pure ({ guard with negated := true }, c)
        else pure (guard, c)
      match c with
      | none => fail "missing command"
      | some c => do
        command guard c
        commands fuel

/-- reads a part of a script -/
def part (source : Source) (text : List Char) : Reading Unit := do
  modify fun s => { s with source, rest := text, taken := 0, line := 1 }
  match (← get).pending with
  | some (kind, guard, _) => do
    modify ({ · with pending := none })
    addText kind guard
  | none => pure ()
  commands (text.length + 1)

/-- the end of a script -/
def finish : Reading Script := do
  let s ← get
  if let (_, line) :: _ := s.blocks then
    failPlain 1 (located s.source 0 line "unmatched `\x7b'")
  match s.pending with
  | some (kind, guard, _) => add guard (textAction kind "")
  | none => pure ()
  let s ← get
  let commands := s.commands.reverse
  let missing := commands.findSome? fun c => match c.action with
    | .branch _ name => if name.isEmpty || s.labels.any (·.1 == name) then none else some name
    | _ => none
  match missing with
  | some name => failPlain 4 ("can't find label for jump to `" ++ name ++ "'")
  | none => pure ⟨commands.toArray, s.labels, s.quiet⟩

end Reading

/-- reads the parts of a script -/
def readScript (extended : Bool) (parts : List (Source × List Char)) :
    Except (Nat × OctetText) Script := do
  let start : ReaderState := ⟨.argument 1, [], 0, 1, [], 0, [], [], false, none, extended⟩
  let (script, _) ← (do
    parts.forM fun (source, text) => Reading.part source text
    Reading.finish : Reading Script).run start
  return script

end ShellWorkers.Utility.Editor
