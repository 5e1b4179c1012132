import ShellWorkers.Script.Syntax

/-!
# The text of a script

A script is read through a scanner, and its words by the places in them.
-/

/-!
## The text of a script

A shell reads its script as the text comes in and runs each line of complete commands before it
reads the next.  So a parser has three answers: a result and the rest of the text, a fault, or
that more text is needed; a parser that is asked again starts anew.  `atEnd` says that no more
will come.

The text of an alias takes the place of its name in the text that is read.  The alias is not
looked up again before its text has been read.
-/

namespace ShellWorkers.Script

open Text (OctetText)

/-! ### tokens -/

/-- what a script is made of, beside words -/
inductive Token where
  | endOfText
  | newline
  | semicolon
  | background
  | and
  | or
  | pipe
  /-- a pipe for the output and the messages; extended -/
  | pipeBoth
  | opening
  | closing
  | armEnd (ending : ArmEnd)
  | redirection (fd : Nat) (kind : Opening)
  | copying (fd : Nat)
  /-- a document, whose lines may be stripped of their tabs -/
  | document (fd : Nat) (stripTabs : Bool)
  /-- a word that is a document; extended -/
  | documentWord (fd : Nat)
  /-- a redirection of the output and the messages; extended -/
  | redirectionBoth (append : Bool)
  /-- a word; `quoted` says whether it has quotes -/
  | word (parts : Word) (quoted : Bool)
  | reserved (name : OctetText)

namespace Token

/-- a part of a script between the marks that set it off in a message -/
def marked (token : OctetText) : OctetText := "\"" ++ token ++ "\""

/-- how a message names a token -/
def name : Token → OctetText
  | .endOfText => "end of file"
  | .newline => "newline"
  | .semicolon => marked ";"
  | .background => marked "&"
  | .and => marked "&&"
  | .or => marked "||"
  | .pipe => marked "|"
  | .pipeBoth => marked "|&"
  | .opening => marked "("
  | .closing => marked ")"
  | .armEnd _ => marked ";;"
  | .redirection _ _ => "redirection"
  | .copying _ => "redirection"
  | .document _ _ => "redirection"
  | .documentWord _ => "redirection"
  | .redirectionBoth _ => "redirection"
  | .word _ _ => "word"
  | .reserved name => marked name

def isReserved (t : Token) (name : OctetText) : Bool :=
  match t with
  | .reserved n => n == name
  | _ => false

/-- the tokens that end a list of commands -/
def endsList : Token → Bool
  | .endOfText => true
  | .closing => true
  | .armEnd _ => true
  | .reserved name =>
    ["do", "done", "elif", "else", "esac", "fi", "then", "\x7d"].contains name
  | _ => false

end Token

/-- the words that have a place of their own in commands -/
def isReserved (w : OctetText) : Bool :=
  ["!", "case", "do", "done", "elif", "else", "esac", "fi", "for", "if", "in", "then", "until",
    "while", "\x7b", "\x7d"].contains w

/-- the same in the extended language -/
def isReservedIn (extended : Bool) (w : OctetText) : Bool :=
  isReserved w || (extended && ["[[", "coproc", "function", "select", "time"].contains w)

/-! ### the state of a scanner -/

/-- a document whose operator has been read and whose lines have not -/
structure Awaited where
  number : Nat
  delimiter : List Char
  stripTabs : Bool
  /-- whether its text is expanded -/
  expanded : Bool
  /-- the line of its operator -/
  line : Nat

/-- an alias whose text is read -/
structure OpenAlias where
  name : OctetText
  /-- how much text is left when it has been read -/
  behind : Nat
  /-- a blank at its end: the next word can be an alias too -/
  endsBlank : Bool

/-- a place in a script: its line, the text from the beginning of this line on, and the text from
the place on -/
structure Spot where
  line : Nat
  lineChars : List Char
  chars : List Char

structure Scanner where
  chars : List Char
  line : Nat
  atEnd : Bool
  /-- the language is the extended one -/
  extended : Bool
  /-- patterns can have groups -/
  groups : Bool
  /-- the text from the beginning of the line on -/
  lineChars : List Char
  /-- where the token that was read last begins -/
  spot : Spot
  /-- the name that the redirection operator which was read last has before it -/
  naming : Option OctetText
  /-- what is to be said about the script, with the lines -/
  warnings : List (Nat × OctetText)
  aliases : List (OctetText × OctetText)
  openAliases : List OpenAlias
  /-- the next word can be an alias, wherever it stands -/
  aliasNext : Bool
  /-- a token that was given back -/
  pushed : Option Token
  /-- the token that was read last -/
  last : Token
  awaited : List Awaited
  documents : List (Nat × Word)
  nextDocument : Nat

namespace Scanner

def ofText (text : List Char) (line : Nat) (atEnd : Bool)
    (aliases : List (OctetText × OctetText)) : Scanner where
  chars := text
  line := line
  atEnd := atEnd
  extended := false
  groups := false
  lineChars := text
  spot := ⟨line, text, text⟩
  naming := none
  warnings := []
  aliases := aliases
  openAliases := []
  aliasNext := false
  pushed := none
  last := .newline
  awaited := []
  documents := []
  nextDocument := 0

/-- a scanner for the extended language, maybe with groups in patterns -/
def inLanguage (s : Scanner) (extended groups : Bool) : Scanner :=
  { s with extended := extended, groups := groups }

/-- the text of the token that was read last -/
def tokenText (s : Scanner) : OctetText :=
  match s.last with
  | .newline => "newline"
  | .reserved name => name
  | _ => String.ofList (s.spot.chars.take (s.spot.chars.length - s.chars.length))

/-- the line in which the token that was read last begins -/
def lineText (s : Scanner) : OctetText :=
  String.ofList (s.spot.lineChars.takeWhile (· != '\n'))

/-- the text of a document that has been read -/
def documentText (s : Scanner) (number : Nat) : Word := (s.documents.lookup number).getD []

end Scanner

/-! ### parsers -/

inductive Parsed (α : Type) where
  | done (a : α) (rest : Scanner)
  | more
  /-- the line at fault, and what is wrong with it -/
  | failed (line : Nat) (messages : List OctetText)

def Parser (α : Type) : Type := Scanner → Parsed α

namespace Parser

instance : Monad Parser where
  pure a := fun s => .done a s
  bind p f := fun s =>
    match p s with
    | .done a rest => f a rest
    | .more => .more
    | .failed line messages => .failed line messages

def get : Parser Scanner := fun s => .done s s

def modify (f : Scanner → Scanner) : Parser Unit := fun s => .done () (f s)

/-- a fault in a script of the standard language -/
def fail {α : Type} (message : OctetText) : Parser α := fun s =>
  .failed s.line ["Syntax error: " ++ message]

/-- a fault in a line of a script of the extended language -/
def failAt {α : Type} (line : Nat) (messages : List OctetText) : Parser α := fun _ =>
  .failed line messages

/-- the message for a text that ends inside of something -/
def unclosed (closing : OctetText) : OctetText :=
  "unexpected EOF while looking for matching \x60" ++ closing ++ "'"

/-- the text ends inside of what a character closes and what has begun in a line -/
def failUnclosed {α : Type} (line : Nat) (closing standard : OctetText) : Parser α := fun s =>
  if s.extended then .failed line [unclosed closing]
  else .failed s.line ["Syntax error: " ++ standard]

/-- the fuel of a parser never runs out -/
def exhausted {α : Type} : Parser α := fail "out of fuel"

/-- where the extended language is at fault -/
def unexpectedToken (s : Scanner) : Nat × List OctetText :=
  match s.last with
  | .endOfText => (s.line, ["syntax error: unexpected end of file"])
  | _ => (s.spot.line,
      ["syntax error near unexpected token \x60" ++ s.tokenText ++ "'", "\x60" ++ s.lineText ++ "'"])

/-- fails at the token that was read last; `expected` is the one that has its place here -/
def unexpected {α : Type} (expected : OctetText) : Parser α := fun s =>
  if s.extended then
    let (line, messages) := unexpectedToken s
    .failed line messages
  else
    .failed s.line ["Syntax error: " ++ s.last.name ++ " unexpected"
      ++ (if expected.isEmpty then "" else " (expecting " ++ expected ++ ")")]

/-! ### characters -/

/-- the next character, where a line end behind a backslash counts; none at the end -/
def peekRaw : Parser (Option Char) := fun s =>
  match s.chars with
  | c :: _ => .done (some c) s
  | [] => if s.atEnd then .done none s else .more

/-- takes the next character -/
def skip : Parser Unit := fun s => .done () { s with chars := s.chars.drop 1 }

/-- takes the text up to where only `rest` is left -/
def skipUntil (rest : List Char) : Parser (List Char) := fun s =>
  let text := s.chars.take (s.chars.length - rest.length)
  let line := s.line + text.count '\n'
  let start := text.reverse.takeWhile (· != '\n')
  .done text { s with
    chars := rest, line := line
    lineChars := if text.contains '\n' then start.reverse ++ rest else s.lineChars }

/-- takes a line end -/
def skipLineEnd : Parser Unit := fun s =>
  let chars := s.chars.drop 1
  .done () { s with chars := chars, line := s.line + 1, lineChars := chars }

/-- the text without the joined lines at its beginning, and how many they are -/
def withoutJoints : List Char → List Char × Nat
  | '\\' :: '\n' :: rest =>
    let (rest, count) := withoutJoints rest
    (rest, count + 1)
  | cs => (cs, 0)

/-- joins the lines where the text begins with a backslash and a line end -/
def joinLines : Parser Unit := fun s =>
  match s.chars with
  | '\\' :: '\n' :: _ =>
    let (chars, count) := withoutJoints s.chars
    if (chars.isEmpty || chars == ['\\']) && !s.atEnd then .more
    else .done () { s with
      chars := chars, line := s.line + count
      lineChars := if count = 0 then s.lineChars else chars }
  | ['\\'] => if s.atEnd then .done () s else .more
  | _ => .done () s

/-- the next character; none at the end -/
def peek : Parser (Option Char) := do
  joinLines
  peekRaw

/-! ### tokens that are given back -/

/-- gives back the token that was read last -/
def giveBack : Parser Unit := modify fun s => { s with pushed := some s.last }

end Parser

end ShellWorkers.Script

/-!
## Places in words

Inside of a word, a `Place` says what the characters mean: outside of quotes, between double
quotes, inside the braces of a parameter, in an arithmetic expression, in a document, and so on.
A word that is being read is a `Building`.  What is read without regard to the place stands here
too: the ends of documents, quotations, and the names of parameters.
-/

namespace ShellWorkers.Script

open Text (OctetText)
open ShellWorkers.Script.Parser

/-! ### words being read -/

/-- the parts of a word so far, last first, and the text at its end, last character first -/
structure Building where
  /-- the line in which it begins -/
  line : Nat
  parts : List Part
  chars : List Char
  /-- whether the text at the end is quoted -/
  quoted : Bool
  /-- whether there have been quotes -/
  hasQuotes : Bool

namespace Building

def empty (line : Nat) : Building := ⟨line, [], [], false, false⟩

/-- the parts, last first, with the text at the end as one of them -/
def closedParts (b : Building) : List Part :=
  if b.chars.isEmpty then b.parts
  else .text (String.ofList b.chars.reverse) b.quoted :: b.parts

def toWord (b : Building) : Word := b.closedParts.reverse

/-- a character more -/
def push (b : Building) (c : Char) (quoted : Bool) : Building :=
  if b.quoted == quoted then { b with chars := c :: b.chars }
  else { b with parts := b.closedParts, chars := [c], quoted := quoted }

/-- a part more -/
def add (b : Building) (p : Part) : Building :=
  { b with parts := p :: b.closedParts, chars := [], quoted := false }

/-- the mark that quotes leave behind -/
def mark (b : Building) : Building := { b.add (.text "" true) with hasQuotes := true }

/-- what stood between double quotes; the positional parameters alone leave no mark -/
def addQuoted (b : Building) (w : Word) : Building :=
  match w with
  | [.parameter "@" .plain false [] true] =>
    { b.add (.parameter "@" .plain false [] true) with hasQuotes := true }
  | [.reference x subscript word second] =>
    if isList x subscript then
      { b.add (.reference x subscript word second) with hasQuotes := true }
    else whole [.reference x subscript word second]
  | w => whole w
where
  whole (w : Word) : Building := { b.mark with parts := w.reverse ++ b.mark.parts }
  /-- whether the value is a list that may have nothing in it -/
  isList (x : Reference) (subscript : Word) : Bool :=
    x.name == "@" || (match subscript with
      | [.text "@" false] => true
      | _ => x.use == .names && x.source.endsWith "@\x7d")

/-- the name that is all there is -/
def bareName? (b : Building) : Option OctetText :=
  if b.parts.isEmpty && !b.hasQuotes && isName b.chars.reverse then
    some (String.ofList b.chars.reverse)
  else none

end Building

/-! ### places -/

/-- where in a word a character stands -/
inductive Place where
  /-- outside of quotes, maybe inside of braces -/
  | plain (braces : Bool)
  /-- between double quotes -/
  | quotes
  /-- inside of braces that stand between double quotes; `inner` says whether other quotes have
  begun there -/
  | quotedBraces (inner : Bool)
  /-- in an arithmetic expression, inside of as many parentheses -/
  | arithmetic (depth : Nat)
  | document
  /-- in braces, before a sign that is not taken, as the closing brace is not; extended, as all
  that follow -/
  | before (sign : Char)
  /-- in a subscript, inside of as many brackets of its own -/
  | subscript (depth : Nat)
  /-- in the parentheses of a pattern -/
  | group
  /-- in a regular expression, where parentheses and bars are ordinary -/
  | expression
  deriving DecidableEq

namespace Place

def isPlain : Place → Bool
  | .plain _ => true
  | .before _ => true
  | .subscript _ => true
  | .group => true
  | .expression => true
  | _ => false

/-- whether a line end ends the word -/
def endsAtLine (p : Place) : Bool := p == .plain false || p == .expression

def isQuoted (p : Place) : Bool := !p.isPlain

/-- where the word in braces stands, for a parameter at this place -/
def inBraces (trims : Bool) (p : Place) : Place :=
  if trims || p.isPlain then .plain true else .quotedBraces false

end Place

/-- the characters that end a word outside of quotes -/
def isDelimiter (c : Char) : Bool :=
  [' ', '\t', '\n', ';', '&', '|', '<', '>', '(', ')'].contains c

/-- what surrounds the reading of a word -/
structure Reading where
  /-- reads the commands of a substitution, with the parenthesis that closes them if asked to -/
  commands : (closed : Bool) → Parser Command
  /-- the document that the word is, if it is one -/
  document : Option Awaited
  /-- the word is the delimiter of a document, where dollar signs mean nothing -/
  isDelimiter : Bool
  /-- the word can give an array its elements -/
  arrays : Bool

/-! ### documents -/

/-- the first line of a text, and whether all of it is there -/
def firstLine (s : Scanner) (cs : List Char) : List Char × Bool :=
  let line := cs.takeWhile (· != '\n')
  (line, s.atEnd || line.length < cs.length)

/-- at the beginning of a line of a document: takes the line if it is the delimiter, and the tabs
at its beginning if they are to be stripped -/
def atDelimiter (d : Awaited) : Parser Bool := fun s =>
  let cs := if d.stripTabs then s.chars.dropWhile (· == '\t') else s.chars
  let (line, whole) := firstLine s cs
  if !whole then .more
  else if line == d.delimiter then
    match cs.drop line.length with
    | _ :: rest => .done true { s with chars := rest, line := s.line + 1, lineChars := rest }
    | [] => .done true { s with chars := [] }
  else .done false { s with chars := cs }

/-- notes that a document is ended by the end of the text -/
def warnUnended (d : Awaited) : Parser Unit := modify fun s =>
  let message := "here-document at line " ++ toString d.line ++ " delimited by end-of-file (wanted \x60"
    ++ String.ofList d.delimiter ++ "')"
  if s.extended then { s with warnings := s.warnings ++ [(s.line - 1, message)] } else s

/-- the same where no document may be read -/
def atDocumentEnd (r : Reading) : Parser Bool :=
  match r.document with
  | some d => atDelimiter d
  | none => pure false

/-! ### quotations -/

/-- the message for an unclosed quotation -/
def unterminated : OctetText := "Unterminated quoted string"

/-- the text up to the next single quote -/
def singleQuoted (r : Reading) : (fuel : Nat) → Building → Parser Building
  | 0, _ => exhausted
  | fuel + 1, b => do
    match ← peekRaw with
    | none => failUnclosed b.line "'" unterminated
    | some '\'' => do skip; pure b
    | some '\n' => do
      skipLineEnd
      if ← atDocumentEnd r then failUnclosed b.line "'" unterminated
      else singleQuoted r fuel (b.push '\n' true)
    | some c => do skip; singleQuoted r fuel (b.push c true)

/-- the text of a document that is not expanded, from the beginning of a line on -/
def literalDocument (d : Awaited) : (fuel : Nat) → List Char → Parser (List Char)
  | 0, _ => exhausted
  | fuel + 1, read => do
    if ← atDelimiter d then pure read.reverse
    else
      match ← peekRaw with
      | none => do
        warnUnended d
        pure read.reverse
      | some _ => do
        let s ← get
        let line := s.chars.takeWhile (· != '\n')
        if line.length < s.chars.length then do
          let rest := s.chars.drop (line.length + 1)
          modify fun s => { s with chars := rest, line := s.line + 1, lineChars := rest }
          literalDocument d fuel ('\n' :: line.reverse ++ read)
        else do
          modify fun s => { s with chars := [] }
          pure (line.reverse ++ read).reverse

/-- the text up to the next backquote, without the backslashes that protect it -/
def backQuoted (quoted : Bool) (line : Nat) : (fuel : Nat) → List Char → Parser (List Char)
  | 0, _ => exhausted
  | fuel + 1, read => do
    match ← peek with
    | none => failUnclosed line "\x60" "EOF in backquote substitution"
    | some '`' => do skip; pure read.reverse
    | some '\n' => do skipLineEnd; backQuoted quoted line fuel ('\n' :: read)
    | some '\\' => do
      skip
      match ← peekRaw with
      | none => failUnclosed line "\x60" "EOF in backquote substitution"
      | some c => do
        skip
        if c = '\\' || c = '`' || c = '$' || (quoted && c = '"') then
          backQuoted quoted line fuel (c :: read)
        else backQuoted quoted line fuel (c :: '\\' :: read)
    | some c => do skip; backQuoted quoted line fuel (c :: read)

/-- the commands of a text of its own -/
def embedded (line : Nat) (commands : Parser Command) (text : List Char) : Parser Command := fun s =>
  let inner := { (Scanner.ofText text (if s.extended then line else 1) true s.aliases).inLanguage
      s.extended s.groups with
    documents := s.documents, nextDocument := s.nextDocument }
  match commands inner with
  | .done body rest =>
    .done body { s with documents := rest.documents, nextDocument := rest.nextDocument }
  | .more => .failed 1 ["out of text"]
  | .failed line messages => .failed line messages

/-! ### parameters -/

/-- a name, its line joints taken out -/
def nameChars (isPart : Char → Bool) : (fuel : Nat) → List Char → Parser (List Char)
  | 0, _ => exhausted
  | fuel + 1, read => do
    match ← peek with
    | some c =>
      if isPart c then do skip; nameChars isPart fuel (c :: read) else pure read.reverse
    | none => pure read.reverse

/-- what stands in braces: a name, or one of the parameters of one character -/
inductive BracedName where
  /-- the name, and whether its length is asked for -/
  | name (name : OctetText) (length : Bool)
  | bad

/-- the parameter that braces begin with -/
def bracedName (fuel : Nat) : Parser BracedName := do
  match ← peek with
  | none => pure .bad
  | some c =>
    if isNameStart c then return .name (String.ofList (← nameChars isNameChar fuel [])) false
    else if c.isDigit then return .name (String.ofList (← nameChars Char.isDigit fuel [])) false
    else if c = '}' then pure .bad
    else do
      skip
      if c = '#' then afterNumberSign
      else if isSpecialParameter c then pure (.name (String.ofList [c]) false)
      else do
        let _ ← peek
        pure .bad
where
  /-- behind a number sign: a parameter whose length is asked for, or the sign is one itself -/
  afterNumberSign : Parser BracedName := do
    match ← peek with
    | none => pure (.name "#" false)
    | some c =>
      if isNameStart c then return .name (String.ofList (← nameChars isNameChar fuel [])) true
      else if c.isDigit then return .name (String.ofList (← nameChars Char.isDigit fuel [])) true
      else do
        let before ← get
        skip
        let next ← peek
        if c = '}' || next ≠ some '}' then do
          modify fun _ => before
          pure (.name "#" false)
        else if isSpecialParameter c then pure (.name (String.ofList [c]) true)
        else pure .bad

/-- the sign behind a name in braces: the use it asks for, and whether a colon stood before it -/
def useSign : Parser (Use × Bool) := do
  match ← peek with
  | some ':' => do
    skip
    let use ← simple
    pure (use, true)
  | some '%' => do
    skip
    return (.withoutSuffix (← doubled '%'), false)
  | some '#' => do
    skip
    return (.withoutPrefix (← doubled '#'), false)
  | _ => do return (← simple, false)
where
  doubled (sign : Char) : Parser Bool := do
    if (← peek) = some sign then do
      skip
      pure true
    else pure false
  simple : Parser Use := do
    let c ← peek
    modify fun s => { s with chars := s.chars.drop 1 }
    pure (match c with
      | some '}' => .plain
      | some '-' => .default
      | some '+' => .alternative
      | some '?' => .error
      | some '=' => .assign
      | _ => .bad)

end ShellWorkers.Script
