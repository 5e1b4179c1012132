import ShellWorkers.Script.Tokens

/-!
# Reading commands

Tests have a grammar of their own, so they are read apart from the commands around them.
-/

/-!
## Reading tests

The tests of the extended language are commands with a grammar of their own, between `[[` and
`]]`.  Words in them are neither cut nor stand for files; an operator on two words stands between
them, and tests are joined like commands.  The right side of `=~` is a regular expression, in
which parentheses and bars need no quotes.
-/

namespace ShellWorkers.Script

open Text (OctetText)
open ShellWorkers.Script.Parser

/-! ### operators -/

/-- the operators on one word -/
def unaryTests : List OctetText :=
  ["-a", "-b", "-c", "-d", "-e", "-f", "-g", "-h", "-k", "-p", "-r", "-s", "-t", "-u", "-w", "-x",
    "-G", "-L", "-N", "-O", "-S", "-n", "-o", "-R", "-v", "-z"]

/-- the operators on two words that are words -/
def binaryTests : List OctetText :=
  ["=", "==", "!=", "=~", "-eq", "-ne", "-lt", "-le", "-gt", "-ge", "-nt", "-ot", "-ef"]

/-! ### faults -/

/-- fails at the token that was read last, with what is wrong; at a line end the word before it is
named -/
def failTest {α : Type} (before : OctetText) (messages : List OctetText) : Parser α := fun s =>
  match s.last with
  | .endOfText => unexpected "" s
  | last =>
    let near := match last with
      | .newline => before
      | .and => "&"
      | .or => "|"
      | _ => s.tokenText
    .failed s.spot.line (messages
      ++ ["syntax error near \x60" ++ near ++ "'", "\x60" ++ s.lineText ++ "'"])

/-- fails because of the token that was read last -/
def failToken {α : Type} (before start behind : OctetText) : Parser α := fun s =>
  failTest before [start ++ " \x60" ++ s.tokenText ++ "'" ++ behind] s

/-! ### tests -/

/-- the text of a word that stands for itself without quotes -/
def plainWord? : Token → Option OctetText
  | .word parts false => bareText? parts
  | _ => none

/-- whether a token closes the tests -/
def closesTests (t : Token) : Bool := plainWord? t == some "]]"

/-- passes over line ends up to a token -/
def tokenBehindLines (g : Grammar) : (fuel : Nat) → Parser Token
  | 0 => exhausted
  | fuel + 1 => do
    match ← readToken g .none with
    | .newline => tokenBehindLines g fuel
    | t => pure t

/-- the operator on two words that a token is -/
def binaryOperator? : Token → Option OctetText
  | .redirection 0 .input => some "<"
  | .redirection 1 .output => some ">"
  | t =>
    match plainWord? t with
    | some w => if binaryTests.contains w then some w else none
    | none => none

/-- whether a token ends a test -/
def endsTest : Token → Bool
  | .and => true
  | .or => true
  | .closing => true
  | t => closesTests t

/-- the word on the right side of an operator -/
def rightSide (g : Grammar) (op : OctetText) : Parser Word := do
  if op = "=~" then do
    skipBlanks textFuel
    let s ← get
    let b ← readParts (g.reading .none) textFuel .expression false (.empty s.line)
    let parts := b.toWord
    if parts.isEmpty || (bareText? parts == some "]]" && !b.hasQuotes) then do
      modify fun _ => s
      let _ ← readToken g .none
      failToken op "unexpected argument" " to conditional binary operator"
    else pure parts
  else
    match ← readToken g .none with
    | .word parts quoted =>
      if !quoted && bareText? parts == some "]]" then
        failToken op "unexpected argument" " to conditional binary operator"
      else pure parts
    | _ => failToken op "unexpected argument" " to conditional binary operator"

/-- a test that begins with a word, which is no operator on one -/
def behindWord (g : Grammar) (parts : Word) (text : OctetText) : Parser Test := do
  let t ← readToken g .none
  match binaryOperator? t with
  | some op => return .binary op parts (← rightSide g op)
  | none =>
    if endsTest t then do
      giveBack
      pure (.nonempty parts)
    else
      match t with
      | .word _ _ => failTest text ["conditional binary operator expected"]
      | _ => failToken text "unexpected token" ", conditional binary operator expected"

mutual

def testPrimary (g : Grammar) : (fuel : Nat) → Parser Test
  | 0 => exhausted
  | fuel + 1 => do
    let t ← tokenBehindLines g textFuel
    match t with
    | .opening => do
      let inner ← testDisjunction g fuel
      match ← tokenBehindLines g textFuel with
      | .closing => pure inner
      | _ => failToken "" "unexpected token" ", expected \x60)'"
    | .word parts quoted => do
      let text := (← get).tokenText
      let plain := if quoted then none else bareText? parts
      if plain == some "!" then return .negation (← testPrimary g fuel)
      else if plain == some "]]" then failTest text []
      else if unaryTests.any (plain == some ·) then
        match ← readToken g .none with
        | .word operand operandQuoted =>
          if !operandQuoted && bareText? operand == some "]]" then do
            let _ ← readToken g .none
            failTest text ["unexpected argument \x60]]' to conditional unary operator"]
          else pure (.unary text operand)
        | _ => failToken text "unexpected argument" " to conditional unary operator"
      else behindWord g parts text
    | _ => failTest "" []

/-- tests joined by the signs of conjunction -/
def testConjunction (g : Grammar) : (fuel : Nat) → Parser Test
  | 0 => exhausted
  | fuel + 1 => do
    let first ← testPrimary g fuel
    match ← tokenBehindLines g textFuel with
    | .and => return .conjunction first (← testConjunction g fuel)
    | _ => do
      giveBack
      pure first

/-- tests joined by the signs of disjunction -/
def testDisjunction (g : Grammar) : (fuel : Nat) → Parser Test
  | 0 => exhausted
  | fuel + 1 => do
    let first ← testConjunction g fuel
    match ← tokenBehindLines g textFuel with
    | .or => return .disjunction first (← testDisjunction g fuel)
    | _ => do
      giveBack
      pure first

end

/-- a test behind its opening brackets -/
def testCommand (g : Grammar) (line : Nat) : Parser Command := do
  let groups := (← get).groups
  modify ({ · with groups := true })
  let t ← testDisjunction g textFuel
  let last ← tokenBehindLines g textFuel
  modify ({ · with groups := groups })
  if closesTests last then pure (.test line t)
  else failTest "" ["syntax error in conditional expression"]

end ShellWorkers.Script

/-!
## Reading commands

The grammar of a shell, over tokens.  A part of it is a parser that gets what reads the other
parts; `grammar` ties the knot with fuel, which bounds the depth of commands in one another.

* `parseLine`   the next line of complete commands.
-/

namespace ShellWorkers.Script

open Text (OctetText)
open ShellWorkers.Script.Parser

/-! ### redirections -/

/-- a text without its quotes -/
def plainText (w : Word) : List Char :=
  w.flatMap fun
    | .text value _ => value.toList
    | _ => []

/-- what a redirection operator is applied to -/
def plainTarget (g : Grammar) (t : Token) : Parser Redirection := do
  let checks := match t with
    | .document _ _ => { Checks.none with delimiter := true }
    | _ => .none
  match ← readToken g checks with
  | .word parts quoted =>
    match t with
    | .document fd stripTabs => do
      let number := (← get).nextDocument
      modify fun s => { s with
        awaited := s.awaited ++ [⟨number, plainText parts, stripTabs, !quoted, s.line⟩]
        nextDocument := number + 1 }
      pure (.awaited fd number ((if stripTabs then "<<-" else "<<") ++ wordSource parts)
        (String.ofList (plainText parts)))
    | .redirection fd kind => pure (.open fd kind parts)
    | .copying fd => pure (.copy fd parts)
    | .documentWord fd =>
      pure (.document fd (parts ++ [.text "\n" true]) ("<<< " ++ wordSource parts) "")
    | .redirectionBoth append => pure (.both append parts)
    | _ => unexpected ""
  | _ => unexpected ""

/-- a redirection behind its operator -/
def redirectionTarget (g : Grammar) (t : Token) : Parser Redirection := do
  let naming := (← get).naming
  modify ({ · with naming := none })
  let r ← plainTarget g t
  pure (match naming with
    | some name => .named name r
    | none => r)

/-- whether a token is a redirection operator -/
def redirects : Token → Bool
  | .redirection _ _ => true
  | .copying _ => true
  | .document _ _ => true
  | .documentWord _ => true
  | .redirectionBoth _ => true
  | _ => false

/-- the redirections behind a compound command -/
def redirections (g : Grammar) : (fuel : Nat) → Checks → Parser (List Redirection)
  | 0, _ => exhausted
  | fuel + 1, checks => do
    let t ← readToken g checks
    if redirects t then
      let r ← redirectionTarget g t
      return r :: (← redirections g fuel .none)
    else do
      giveBack
      pure []

/-! ### simple commands and functions -/

/-- whether a token begins a compound command of the extended language -/
def beginsCompound : Token → Bool
  | .opening => true
  | .reserved name =>
    ["[[", "case", "for", "if", "select", "until", "while", "\x7b"].contains name
  | _ => false

/-- the body of a function in the extended language, which is a compound command -/
def functionBody (g : Grammar) : Parser Command := do
  let t ← readToken g .lines
  if beginsCompound t then do
    giveBack
    return (← g .command).getD .nothing
  else unexpected ""

/-- the definition of a function, behind its opening parenthesis -/
def definition (g : Grammar) (word : Word) : Parser Command := do
  expect g .none (fun | .closing => true | _ => false) (Token.marked ")")
  let s ← get
  match bareText? word with
  | some name =>
    if s.extended then return .definition s.line name (← functionBody g)
    else if !isName name.toList || isSpecialName name then fail "Bad function name"
    else return .definition s.line name ((← g .command).getD .nothing)
  | none =>
    if s.extended then failAt s.line ["\x60" ++ String.ofList (plainText word)
      ++ "': not a valid identifier"]
    else fail "Bad function name"

/-- the definition of a function behind the word for it, in the extended language -/
def namedDefinition (g : Grammar) : Parser Command := do
  match ← readToken g .none with
  | .word parts _ => do
    let line := (← get).line
    match ← readToken g .lines with
    | .opening => do
      if (← peek) = some '(' then giveBack
      else expect g .none (fun | .closing => true | _ => false) ""
    | _ => giveBack
    return .definition line (String.ofList (plainText parts)) (← functionBody g)
  | _ => unexpected ""

/-- the commands whose arguments can give elements to arrays -/
def takesArrays (words : List Word) : Bool :=
  match words.getLast?.bind bareText? with
  | some name =>
    ["alias", "declare", "eval", "export", "let", "local", "readonly", "typeset"].contains name
  | none => false

/-- whether a word assigns -/
def assigns (extended : Bool) (w : Word) : Bool :=
  if extended then (extendedAssignment? w).isSome else (assignment? w).isSome

/-- the line in which the token that was read last ends -/
def lastLine (s : Scanner) : Nat :=
  match s.last with
  | .newline => s.spot.line
  | _ => s.line

/-- Assignments, words and redirections up to what ends a command.  In the extended language the
line of a command is that of the token behind its first word, or of what stands in place of that;
`settled` says that it is known. -/
def simpleParts (g : Grammar) (line : Nat) (settled : Bool) : (fuel : Nat) → List Word →
    List Word → List Redirection → Parser Command
  | 0, _, _, _ => exhausted
  | fuel + 1, assignments, words, rs => do
    let checks : Checks :=
      if words.isEmpty then .argument else { Checks.none with arrays := takesArrays words }
    let t ← readToken g checks
    let s ← get
    let line := if settled then line else lastLine s
    let isFirst := assignments.isEmpty && words.isEmpty && rs.isEmpty
    let finish : Parser Command := do
      giveBack
      pure (.simple line assignments.reverse words.reverse rs.reverse)
    match t with
    | .word parts _ =>
      if words.isEmpty && assigns s.extended parts then
        simpleParts g line true fuel (parts :: assignments) words rs
      else simpleParts g line (settled || !isFirst) fuel assignments (parts :: words) rs
    | .opening =>
      match words, assignments, rs with
      | [word], [], [] => definition g word
      | _, _, _ => finish
    | t =>
      if redirects t then do
        let r ← redirectionTarget g t
        simpleParts g line true fuel assignments words (r :: rs)
      else finish

/-! ### compound commands -/

/-- the commands of a body -/
def body (g : Grammar) : Parser Command := do return (← g (.list .body)).getD .nothing

/-- a conditional behind its first word -/
def conditional (g : Grammar) : (fuel : Nat) → Parser Command
  | 0 => exhausted
  | fuel + 1 => do
    let test ← body g
    expectReserved g .none "then"
    let yes ← body g
    match ← readToken g .none with
    | .reserved "elif" => return .conditional test yes (← conditional g fuel)
    | .reserved "else" => return .conditional test yes (← body g)
    | _ => do
      giveBack
      return .conditional test yes .nothing

/-- the values of a loop up to the end of the line -/
def loopWords (g : Grammar) : (fuel : Nat) → Parser (List Word)
  | 0 => exhausted
  | fuel + 1 => do
    match ← readToken g .none with
    | .word parts _ => return parts :: (← loopWords g fuel)
    | .newline => pure []
    | .semicolon => pure []
    | _ => unexpected ""

/-- the positional parameters, each a word -/
def positionalWord : Word := [.parameter "@" .plain false [] true]

/-- a loop over values, behind its first word -/
def forLoop (g : Grammar) (line : Nat) : Parser Command := do
  match ← readToken g .none with
  | .word parts false =>
    match bareText? parts with
    | some name =>
      if isName name.toList then do
        let words ← match ← readToken g .lines with
          | .reserved "in" => loopWords g textFuel
          | .semicolon => pure [positionalWord]
          | _ => do
            giveBack
            pure [positionalWord]
        expectReserved g .lines "do"
        return .forLoop line name words (← body g)
      else fail "Bad for loop variable"
    | none => fail "Bad for loop variable"
  | _ => fail "Bad for loop variable"

/-- the body of a loop of the extended language; `braces` may stand around it -/
def loopBody (g : Grammar) (braces : Bool) : Parser Command := do
  match ← readToken g .lines with
  | .reserved "do" => do
    let inner ← body g
    expectReserved g .none "done"
    pure inner
  | .reserved "\x7b" =>
    if braces then do
      let inner ← body g
      expectReserved g .none "\x7d"
      pure inner
    else unexpected ""
  | _ => unexpected ""

/-- a loop over values or a menu in the extended language, behind its first word -/
def loopOver (g : Grammar) (line : Nat) (isMenu : Bool) : Parser Command := do
  match ← readToken g .none with
  | .word parts _ => do
    let name := String.ofList (plainText parts)
    let (words, inner) ← match ← readToken g .lines with
      | .reserved "in" => do
        let words ← loopWords g textFuel
        pure (words, ← loopBody g true)
      | .semicolon => do
        let inner ← loopBody g true
        pure ([positionalWord], inner)
      | _ => do
        giveBack
        let inner ← loopBody g false
        pure ([positionalWord], inner)
    if isMenu then pure (.menu line name words inner) else pure (.forLoop line name words inner)
  | _ => unexpected ""

/-- the pieces of a text between semicolons -/
def piecesOf (text : List Char) : List (List Char) :=
  text.foldr (fun c pieces =>
    match c, pieces with
    | ';', pieces => [] :: pieces
    | c, [] => [[c]]
    | c, piece :: rest => (c :: piece) :: rest) [[]]

/-- the text between two parentheses and those that close them, if they are closed together; the
first has been passed, and the second comes next -/
def betweenBoth : Parser (Option (List Char)) := do
  if (← peek) = some '(' then do
    let before ← get
    skip
    match ← behindBoth with
    | some rest => do
      let text ← skipUntil rest
      pure (some (text.take (text.length - 2)))
    | none => do
      modify fun _ => before
      pure none
  else pure none

/-- a loop with three expressions, behind its first parenthesis -/
def countedLoop (g : Grammar) (line : Nat) : Parser Command := do
  match ← betweenBoth with
  | none => unexpected ""
  | some text =>
    let faulty (message : OctetText) : Parser Command :=
      failAt line [message, "syntax error: \x60((" ++ String.ofList text ++ "))'"]
    match piecesOf text with
    | [a, b, c] => do
      let r := g.reading .none
      let a ← wordOf r a
      let b ← wordOf r b
      let c ← wordOf r c
      match ← readToken g .lines with
      | .semicolon => pure ()
      | _ => giveBack
      return .countedLoop line a b c (← loopBody g true)
    | _ :: _ :: _ :: _ :: _ => faulty "syntax error: \x60;' unexpected"
    | _ => faulty "syntax error: arithmetic expression required"

/-- the word that a token is in the place of a pattern -/
def patternOf : Token → Word
  | .word parts _ => parts
  | .reserved name => [.text name false]
  | _ => []

/-- the patterns of an arm, the first token of the first one being read -/
def patterns (g : Grammar) : (fuel : Nat) → Token → Parser (List Word)
  | 0, _ => exhausted
  | fuel + 1, t => do
    match ← readToken g .none with
    | .pipe => do
      let next ← readToken g .none
      return patternOf t :: (← patterns g fuel next)
    | .closing => pure [patternOf t]
    | _ => unexpected (Token.marked ")")

/-- the arms of a selection, up to its end -/
def arms (g : Grammar) : (fuel : Nat) → Parser (List (List Word × Command × ArmEnd))
  | 0 => exhausted
  | fuel + 1 => do
    let t ← readToken g { Checks.lines with aliases := false }
    if t.isReserved "esac" then pure []
    else do
      let t ← match t with
        | .opening => readToken g .none
        | t => pure t
      let ps ← patterns g textFuel t
      let body ← g (.list .rest)
      let arm (ending : ArmEnd) := (ps, body.getD .nothing, ending)
      match ← readToken g { Checks.lines with aliases := false } with
      | .reserved "esac" => pure [arm .leave]
      | .armEnd ending => return arm ending :: (← arms g fuel)
      | _ => unexpected (Token.marked ";;")

/-- a selection, behind its first word -/
def selection (g : Grammar) (line : Nat) : Parser Command := do
  match ← readToken g .none with
  | .word parts _ => do
    expectReserved g .lines "in"
    return .selection line parts (← arms g textFuel)
  | _ => unexpected "word"

/-- the redirections behind a compound command belong to it -/
def withRedirections (line : Nat) (c : Command) (rs : List Redirection) : Command :=
  match rs, c with
  | [], c => c
  | rs, .subshell line body _ => .subshell line body rs
  | rs, c => .redirected line c rs

/-- a command without pipes; `checks` are those of its first word -/
def command (g : Grammar) (checks : Checks) : Parser Command := do
  let line := (← get).line
  let behind (c : Command) : Parser Command := do
    return withRedirections line c (← redirections g textFuel .command)
  match ← readToken g checks with
  | .reserved "if" => do
    let c ← conditional g textFuel
    expectReserved g .none "fi"
    behind c
  | .reserved "while" => loop g true behind
  | .reserved "until" => loop g false behind
  | .reserved "for" =>
    if (← get).extended then
      match ← readToken g .none with
      | .opening => do behind (← countedLoop g line)
      | _ => do
        giveBack
        behind (← loopOver g line false)
    else do
      let c ← forLoop g line
      expectReserved g .none "done"
      behind c
  | .reserved "case" => do behind (← selection g line)
  | .reserved "select" => do behind (← loopOver g line true)
  | .reserved "function" => namedDefinition g
  | .reserved "[[" => do behind (← testCommand g line)
  | .opening => do
    match ← computation? g with
    | some c => behind c
    | none => do
      let inner ← body g
      expect g .none (fun | .closing => true | _ => false) (Token.marked ")")
      behind (.subshell line inner [])
  | .reserved "\x7b" => do
    let inner ← body g
    expectReserved g .none "\x7d"
    behind inner
  | .word _ _ => simple
  | t => if redirects t then simple else unexpected ""
where
  /-- an arithmetic expression behind its first parenthesis, if there is one -/
  computation? (g : Grammar) : Parser (Option Command) := do
    let s ← get
    if !s.extended then pure none
    else
      match ← betweenBoth with
      | some text => return some (.computation s.line (← wordOf (g.reading .none) text))
      | none => pure none
  loop (g : Grammar) (wanted : Bool) (behind : Command → Parser Command) : Parser Command := do
    let test ← body g
    expectReserved g .none "do"
    let inner ← body g
    expectReserved g .none "done"
    behind (.whileLoop wanted test inner)
  simple : Parser Command := do
    giveBack
    let s ← get
    simpleParts g s.line (!s.extended) textFuel [] [] []

/-! ### pipelines and lists -/

/-- a command whose messages go where its output goes -/
def withMessages : Command → Command
  | .simple line assignments words rs => .simple line assignments words (rs ++ [joint])
  | .subshell line body rs => .subshell line body (rs ++ [joint])
  | c => .redirected 0 c [joint]
where
  joint : Redirection := .copy 2 [.text "1" false]

/-- the commands of a pipeline from one on that has been read -/
def pipes (g : Grammar) : (fuel : Nat) → Command → Parser (List Command)
  | 0, _ => exhausted
  | fuel + 1, first => do
    match ← readToken g .none with
    | .pipe => do
      let c ← command g .lines
      return first :: (← pipes g fuel c)
    | .pipeBoth => do
      let c ← command g .lines
      return withMessages first :: (← pipes g fuel c)
    | _ => do giveBack; pure [first]

/-- whether a token ends a pipeline that has no commands -/
def endsPipeline : Token → Bool
  | .newline => true
  | .semicolon => true
  | .endOfText => true
  | _ => false

/-- commands joined by pipes, their status negated by a mark before them -/
def pipelineOf (g : Grammar) : (fuel : Nat) → Checks → Parser Command
  | 0, _ => exhausted
  | fuel + 1, checks => do
    -- behind a mark there may be nothing in the extended language
    let behindMark : Parser Command := do
      let t ← readToken g .command
      giveBack
      if endsPipeline t then pure .nothing else pipelineOf g fuel .command
    match ← readToken g checks with
    | .reserved "!" =>
      if (← get).extended then return .negation (← behindMark)
      else return .negation (← piped .command)
    | .reserved "time" => do
      match ← readToken g .none with
      | .word [.text "-p" false] _ => return .timed true (← behindMark)
      | _ => do
        giveBack
        return .timed false (← behindMark)
    | _ => do
      giveBack
      piped .none
where
  piped (checks : Checks) : Parser Command := do
    let first ← command g checks
    match ← pipes g textFuel first with
    | [c] => pure c
    | commands => pure (.pipeline commands false)

def pipeline (g : Grammar) (checks : Checks) : Parser Command := pipelineOf g textFuel checks

/-- pipelines joined from the left by conditions, behind the first -/
def conditions (g : Grammar) : (fuel : Nat) → Command → Parser Command
  | 0, _ => exhausted
  | fuel + 1, first => do
    match ← readToken g .none with
    | .and => do conditions g fuel (.conjunction first (← pipeline g .lines))
    | .or => do conditions g fuel (.disjunction first (← pipeline g .lines))
    | _ => do giveBack; pure first

/-- a command in the background -/
def inBackground : Command → Command
  | .pipeline commands _ => .pipeline commands true
  | .redirected line body rs => .background line body rs
  | c => .background 0 c []

/-- one command behind others -/
def joined (first : Option Command) (second : Command) : Command :=
  match first with
  | some c => .sequence c second
  | none => second

/-- A list of commands; `first` holds those that have been read, and `begun` says whether there
has been one.  At the end of the text a line is nothing. -/
def listFrom (g : Grammar) (kind : ListKind) : (fuel : Nat) → (first : Option Command) →
    Parser (Option Command)
  | 0, _ => exhausted
  | fuel + 1, first => do
    let t ← readToken g { Checks.lines with newlines := kind ≠ .line }
    match t with
    | .newline => do
      readAwaited (g.reading .none)
      pure (some (first.getD .nothing))
    | .endOfText => atTextEnd first
    | t => do
      giveBack
      if t.endsList && (kind = .rest || (kind = .body && first.isSome)) then
        pure (some (first.getD .nothing))
      else do
        let c ← conditions g textFuel (← pipeline g .none)
        match ← readToken g .none with
        | .background => listFrom g kind fuel (some (joined first (inBackground c)))
        | .semicolon => listFrom g kind fuel (some (joined first c))
        | .newline => do
          giveBack
          listFrom g kind fuel (some (joined first c))
        | .endOfText => atTextEnd (some (joined first c))
        | _ =>
          if kind = .line then unexpected ""
          else do
            giveBack
            pure (some (joined first c))
where
  atTextEnd (first : Option Command) : Parser (Option Command) := do
    readAwaited (g.reading .none)
    modify ({ · with pushed := some .endOfText, last := .endOfText })
    pure (if kind = .line then first else some (first.getD .nothing))

/-! ### the knot -/

/-- the grammar; the fuel bounds the depth of commands in one another -/
def grammar : (fuel : Nat) → Grammar
  | 0 => fun _ => exhausted
  | fuel + 1 => fun
    | .list kind => listFrom (grammar fuel) kind textFuel none
    | .command => some <$> command (grammar fuel) .lines

/-- the next line of complete commands; `aliases` are those that are known now -/
def parseLine (aliases : List (OctetText × OctetText)) (s : Scanner) : Parsed (Option Command) :=
  let start := { s with
    aliases := aliases, pushed := none, awaited := [], documents := [], nextDocument := 0 }
  match grammar textFuel (.list .line) start with
  | .done c rest =>
    .done (if rest.documents.isEmpty then c else c.map (·.withDocuments rest.documentText))
      { rest with documents := [], lineChars := rest.chars }
  | .more => .more
  | .failed line messages => .failed line messages

end ShellWorkers.Script
