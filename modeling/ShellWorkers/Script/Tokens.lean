import ShellWorkers.Script.Printing
import ShellWorkers.Script.Words

/-!
# Tokens of a script

A word is reserved, or stands for an alias, only where a command can begin; so whoever asks for a
token says by `Checks` what a word can mean there, and a token that is given back is looked at
anew.

A part of the grammar is a parser that gets what reads the other parts, `Grammar`.
-/

namespace ShellWorkers.Script

open Text (OctetText)
open ShellWorkers.Script.Parser

/-! ## names of commands -/

/-- commands that change the shell; no function can have their names -/
def isSpecialName (name : OctetText) : Bool :=
  [":", ".", "break", "continue", "eval", "exec", "exit", "export", "local", "readonly", "return",
    "set", "shift", "times", "trap", "unset"].contains name

/-! ## the grammar as a whole -/

/-- lists of commands by where they stand -/
inductive ListKind where
  /-- up to the end of a line -/
  | line
  /-- at least one command, up to what closes them -/
  | body
  /-- maybe none, up to what closes them -/
  | rest
  deriving DecidableEq

inductive Request where
  | list (kind : ListKind)
  | command

/-- reads parts of the grammar; a list is nothing at the end of the text -/
abbrev Grammar := Request → Parser (Option Command)

/-! ## tokens -/

/-- what a word can mean where a token is asked for -/
structure Checks where
  /-- line ends are passed over -/
  newlines : Bool
  reserved : Bool
  aliases : Bool
  /-- the word is the delimiter of a document -/
  delimiter : Bool
  /-- the word can give an array its elements -/
  arrays : Bool

namespace Checks

/-- a word is a word -/
def none : Checks := ⟨false, false, false, false, false⟩

/-- a command can begin here -/
def command : Checks := ⟨false, true, true, false, true⟩

/-- a command can begin here or on a line behind -/
def lines : Checks := ⟨true, true, true, false, true⟩

/-- a word behind those that begin a command -/
def argument : Checks := ⟨false, false, true, false, true⟩

end Checks

/-- the aliases whose text has been read are closed -/
def closeAliases : Parser Unit := modify fun s =>
  if s.openAliases.isEmpty then s
  else
    let left := s.chars.length
    let closed := s.openAliases.takeWhile (left ≤ ·.behind)
    { s with
      openAliases := s.openAliases.drop closed.length
      aliasNext := s.aliasNext || closed.any (·.endsBlank) }

/-- skips blanks, joined lines and a comment -/
def skipBlanks : (fuel : Nat) → Parser Unit
  | 0 => exhausted
  | fuel + 1 => do
    match ← peek with
    | some ' ' => do skip; skipBlanks fuel
    | some '\t' => do skip; skipBlanks fuel
    | some '#' => do
      modify fun s => { s with chars := s.chars.dropWhile (· != '\n') }
      let _ ← peekRaw
      pure ()
    | _ => pure ()

/-- a redirection operator, its first sign being the next character -/
def redirectionToken (descriptor : Option Nat) (sign : Char) : Parser Token := do
  skip
  let next ← peek
  if sign = '>' then
    let fd := descriptor.getD 1
    match next with
    | some '>' => do skip; pure (.redirection fd .append)
    | some '|' => do skip; pure (.redirection fd .overwrite)
    | some '&' => do skip; pure (.copying fd)
    | _ => pure (.redirection fd .output)
  else
    let fd := descriptor.getD 0
    match next with
    | some '<' => do
      skip
      let third ← peek
      if third = some '-' then do
        skip
        pure (.document fd true)
      else if third = some '<' && (← get).extended then do
        skip
        pure (.documentWord fd)
      else pure (.document fd false)
    | some '>' => do skip; pure (.redirection fd .inputOutput)
    | some '&' => do skip; pure (.copying fd)
    | _ => pure (.redirection fd .input)

/-- the descriptor that a word before a redirection operator names; one digit is enough for the
standard language -/
def descriptorOf? (extended : Bool) (b : Building) : Option (Option Nat) :=
  if b.hasQuotes then none
  else
    match b.toWord with
    | [] => some none
    | [.text value false] =>
      let ds := value.toList
      if !ds.all Char.isDigit || (!extended && 1 < ds.length) || 9 < ds.length then none
      else some (some (ds.foldl (fun n d => n * 10 + (d.toNat - '0'.toNat)) 0))
    | _ => none

/-- the name in braces that a word is -/
def bracedWord? (b : Building) : Option OctetText :=
  match b.toWord with
  | [.text value false] =>
    match value.toList with
    | '\x7b' :: cs =>
      if cs.getLast? == some '\x7d' && isName cs.dropLast && !b.hasQuotes then
        some (String.ofList cs.dropLast)
      else none
    | _ => none
  | _ => none

/-! ## words -/

/-- a text without the joints of its lines -/
def withoutJointsIn : List Char → List Char
  | '\\' :: '\n' :: cs => withoutJointsIn cs
  | c :: cs => c :: withoutJointsIn cs
  | [] => []

/-- whether a word holds commands whose text is not kept as it stands in the script -/
def holdsCommands (w : Word) : Bool :=
  w.any fun
    | .command _ _ => true
    | _ => false

/-- a word of the extended language that has been read from a place on; where its parts do not say
how it stands in the script, it ends with that -/
def withSource (start : List Char) (w : Word) : Parser Word := do
  let s ← get
  if !s.extended then pure w
  else
    let source := withoutJointsIn (start.take (start.length - s.chars.length))
    if holdsCommands w && !source.contains '\x60' then pure w
    else
      let text := String.ofList source
      pure (if wordSource w = text then w else w ++ [.source text])

/-- the elements of an array up to the closing parenthesis; the opening one stands in a line -/
def arrayElements (r : Reading) (line : Nat) : (fuel : Nat) → Parser (List Word)
  | 0 => exhausted
  | fuel + 1 => do
    skipBlanks textFuel
    match ← peek with
    | none => failAt line [unclosed ")"]
    | some '\n' => do
      skipLineEnd
      arrayElements r line fuel
    | some ')' => do
      skip
      pure []
    | some c => do
      let s ← get
      if isDelimiter c && !opensProcess s then do
        skip
        if (← peek) = some c && c != '(' then skip
        modify fun t => { t with
          last := .word [] false, spot := ⟨s.line, s.lineChars, s.chars⟩ }
        unexpected ""
      else
        let start ← if c = '[' && isAssigned s then do
            skip
            let inner ← readParts r textFuel (.subscript 0) false (.empty s.line)
            pure ((Building.empty s.line).add (.subscript inner.toWord))
          else pure (.empty s.line)
        let b ← readParts r textFuel (.plain false) false start
        let w ← withSource s.chars b.toWord
        return w :: (← arrayElements r line fuel)

/-- whether a word assigns nothing yet, so that the elements of an array can follow -/
def awaitsElements (b : Building) : Bool :=
  match extendedAssignment? b.toWord with
  | some a => a.value.isEmpty && !b.hasQuotes
  | none => false

/-- a word, or a redirection that it belongs to -/
def wordToken (r : Reading) : Parser Token := do
  let start := (← get).chars
  let b ← readWord r
  let word := Token.word (← withSource start b.toWord) b.hasQuotes
  let extended := (← get).extended
  match ← peekRaw, descriptorOf? extended b with
  | some '(', _ =>
    if r.arrays && extended && awaitsElements b then do
      let line := (← get).line
      skip
      let words ← arrayElements r line textFuel
      pure (.word (b.toWord ++ [.elements words]) true)
    else pure word
  | some c, some descriptor =>
    if c = '<' || c = '>' then redirectionToken descriptor c else pure word
  | some c, none =>
    match bracedWord? b with
    | some name =>
      if extended && (c = '<' || c = '>') then do
        modify ({ · with naming := some name })
        redirectionToken none c
      else pure word
    | none => pure word
  | none, _ => pure word

/-- one operator of a pair: the second has the sign twice -/
def signToken (c : Char) (single double : Token) : Parser Token := do
  skip
  if (← peek) = some c then do
    skip
    pure double
  else pure single

/-- a token, or another one if a sign follows -/
def withSign (c : Char) (single double : Token) : Parser Token := do
  if (← peek) = some c then do
    skip
    pure double
  else pure single

/-- a token behind which a sign makes another one of it in the extended language -/
def extendedSign (t : Token) : Parser Token := do
  if !(← get).extended then pure t
  else
    match t with
    | .background => do
      match ← withSign '>' .background (.redirectionBoth false) with
      | .redirectionBoth _ => withSign '>' (.redirectionBoth false) (.redirectionBoth true)
      | t => pure t
    | .pipe => withSign '&' .pipe .pipeBoth
    | .semicolon => withSign '&' .semicolon (.armEnd .fallThrough)
    | .armEnd .leave => withSign '&' (.armEnd .leave) (.armEnd .tryNext)
    | t => pure t

/-- the next token of the text -/
def scanToken (r : Reading) : Parser Token := do
  skipBlanks textFuel
  closeAliases
  let next ← peek
  modify fun s => { s with spot := ⟨s.line, s.lineChars, s.chars⟩ }
  match next with
  | none => pure .endOfText
  | some '\n' => do skipLineEnd; pure .newline
  | some '&' => do extendedSign (← signToken '&' .background .and)
  | some '|' => do extendedSign (← signToken '|' .pipe .or)
  | some ';' => do extendedSign (← signToken ';' .semicolon (.armEnd .leave))
  | some '(' => do skip; pure .opening
  | some ')' => do skip; pure .closing
  | some _ => wordToken r

/-- reads the documents whose operators have been read -/
def readDocuments (r : Reading) : List Awaited → Parser Unit
  | [] => pure ()
  | d :: ds => do
    let body ← readDocument r d
    modify fun s => { s with
      documents := (d.number, wordWithDocuments s.documentText body) :: s.documents }
    readDocuments r ds

/-- reads all documents that are awaited -/
def readAwaited (r : Reading) : Parser Unit := do
  let awaited := (← get).awaited
  if awaited.isEmpty then pure ()
  else do
    modify ({ · with awaited := [] })
    readDocuments r awaited

/-- the token that was given back, or the next one -/
def nextToken (r : Reading) : Parser Token := do
  match (← get).pushed with
  | some t => do
    modify ({ · with pushed := none })
    pure t
  | none => scanToken r

/-- passes over line ends -/
def passLines (r : Reading) : (fuel : Nat) → Token → Parser Token
  | 0, _ => exhausted
  | fuel + 1, .newline => do
    readAwaited r
    passLines r fuel (← scanToken r)
  | _ + 1, t => pure t

/-- the text of an alias takes the place of its name -/
def openAlias (name value : OctetText) : Parser Unit := modify fun s =>
  if value.isEmpty then s
  else { s with
    chars := value.toList ++ s.chars
    openAliases := ⟨name, s.chars.length, value.endsWith " " || value.endsWith "\t"⟩
      :: s.openAliases }

/-- the next token, a word being what the checks let it be -/
def readTokenFrom (r : Reading) (checks : Checks) : (fuel : Nat) → Parser Token
  | 0 => exhausted
  | fuel + 1 => do
    let t ← nextToken r
    let t ← if checks.newlines then passLines r textFuel t else pure t
    let s ← get
    modify ({ · with aliasNext := false, last := t })
    match t with
    | .word parts false =>
      match bareText? parts with
      | none => pure t
      | some w =>
        if checks.reserved && isReservedIn s.extended w then do
          modify ({ · with last := .reserved w })
          pure (.reserved w)
        else if checks.aliases || s.aliasNext then
          match s.aliases.lookup w with
          | some value =>
            if s.openAliases.any (·.name == w) then pure t
            else do
              openAlias w value
              readTokenFrom r checks fuel
          | none => pure t
        else pure t
    | t => pure t

/-! ## substitutions -/

/-- what reads the words of commands; documents of a substitution stand inside of it -/
def Grammar.reading (g : Grammar) (checks : Checks) : Reading where
  commands closed := do
    let before ← get
    modify ({ · with awaited := [], pushed := none })
    let body ← g (.list .rest)
    if closed then
      let t ← readTokenFrom ⟨fun _ => exhausted, none, false, false⟩ .none textFuel
      match t with
      | .closing => pure ()
      | .endOfText => do
        let s ← get
        if s.extended then failAt s.line [unclosed ")"] else unexpected (Token.marked ")")
      | _ => unexpected (Token.marked ")")
    let inner : Reading :=
      ⟨fun _ => do return (← g (.list .rest)).getD .nothing, none, false, false⟩
    readAwaited inner
    modify ({ · with awaited := before.awaited, pushed := none })
    pure (body.getD .nothing)
  document := none
  isDelimiter := checks.delimiter
  arrays := checks.arrays

def readToken (g : Grammar) (checks : Checks) : Parser Token :=
  readTokenFrom (g.reading checks) checks textFuel

/-- a token that has to stand here -/
def expect (g : Grammar) (checks : Checks) (isIt : Token → Bool) (name : OctetText) :
    Parser Unit := do
  let t ← readToken g checks
  if isIt t then pure () else unexpected name

/-- a reserved word that has to stand here -/
def expectReserved (g : Grammar) (checks : Checks) (name : OctetText) : Parser Unit :=
  expect g checks (·.isReserved name) (Token.marked name)

end ShellWorkers.Script
