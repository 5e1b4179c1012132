import ShellWorkers.Decimal
import ShellWorkers.Regex.Basic
import ShellWorkers.Regex.Reader
import ShellWorkers.Text.Utf8

/-!
# The words of programs for records

What such programs are made of, and how their words and patterns are read.
-/

/-!
## Programs for records

A program for records consists of rules: a rule says for which records something is done, and what.
`Expression` and `Statement` are what is done; functions have names and parameters.
-/

namespace ShellWorkers.Utility.Records

open Text (OctetText)

/-- operators on two numbers -/
inductive Arithmetic where
  | add
  | subtract
  | multiply
  | divide
  | remainder
  | power
  deriving DecidableEq

inductive Relation where
  | less
  | lessEqual
  | equal
  | different
  | greater
  | greaterEqual
  deriving DecidableEq

/-- functions that every program has -/
inductive Builtin where
  | length
  | substr
  | index
  | sprintf
  | sin
  | cos
  | atan2
  | exp
  | log
  | sqrt
  | int
  | rand
  | srand
  | close
  | system
  | fflush
  | toupper
  | tolower
  | systime
  | mktime
  | strftime
  deriving DecidableEq

/-- a function of every program, with the least and the greatest number of its arguments -/
structure Builtin.Entry where
  name : OctetText
  function : Builtin
  least : Nat
  most : Nat

/-- all functions that every program has -/
def Builtin.table : List Builtin.Entry :=
  [⟨"length", .length, 0, 1⟩, ⟨"index", .index, 2, 2⟩, ⟨"substr", .substr, 2, 3⟩,
    ⟨"sprintf", .sprintf, 1, 255⟩, ⟨"sin", .sin, 1, 1⟩, ⟨"cos", .cos, 1, 1⟩,
    ⟨"atan2", .atan2, 2, 2⟩, ⟨"exp", .exp, 1, 1⟩, ⟨"log", .log, 1, 1⟩, ⟨"sqrt", .sqrt, 1, 1⟩,
    ⟨"int", .int, 1, 1⟩, ⟨"rand", .rand, 0, 0⟩, ⟨"srand", .srand, 0, 1⟩, ⟨"close", .close, 1, 1⟩,
    ⟨"system", .system, 1, 1⟩, ⟨"fflush", .fflush, 0, 1⟩, ⟨"toupper", .toupper, 1, 1⟩,
    ⟨"tolower", .tolower, 1, 1⟩, ⟨"systime", .systime, 0, 0⟩, ⟨"mktime", .mktime, 1, 1⟩,
    ⟨"strftime", .strftime, 0, 3⟩]

mutual

/-- what values are assigned to -/
inductive Target where
  | name (name : OctetText)
  | element (array : OctetText) (subscripts : List Expression)
  | field (number : Expression)

/-- where a record is read from -/
inductive Source where
  | input
  | file (path : Expression)
  | command (command : Expression)

inductive Expression where
  | number (x : Float)
  | text (text : OctetText)
  /-- a pattern; where no pattern is asked for, whether it is in the record -/
  | pattern (regex : Regex)
  | target (target : Target)
  | assign (target : Target) (operator : Option Arithmetic) (value : Expression)
  /-- one more or less; the value is the one after it, or the one before -/
  | step (target : Target) (isUp : Bool) (isAfter : Bool)
  | arithmetic (operator : Arithmetic) (first second : Expression)
  | compare (relation : Relation) (first second : Expression)
  | concat (first second : Expression)
  | both (first second : Expression)
  | either (first second : Expression)
  | choice (condition whenTrue whenFalse : Expression)
  | not (operand : Expression)
  | negative (operand : Expression)
  | positive (operand : Expression)
  | isMatch (expected : Bool) (text pattern : Expression)
  | isMember (subscripts : List Expression) (array : OctetText)
  | call (function : OctetText) (arguments : List Expression)
  | builtin (function : Builtin) (arguments : List Expression)
  /-- how many elements an array has, if the name is one of an array -/
  | size (name : OctetText)
  | find (text pattern : Expression)
  | split (text : Expression) (array : OctetText) (separator : Option Expression)
  | replace (everywhere : Bool) (pattern replacement : Expression) (target : Option Target)
  | read (source : Source) (target : Option Target)

end

/-- where output goes -/
inductive Direction where
  | over
  | behind
  | command
  deriving DecidableEq

inductive Statement where
  | nothing
  | block (statements : List Statement)
  | expression (expression : Expression)
  | print (arguments : List Expression) (place : Option (Direction × Expression))
  | printf (arguments : List Expression) (place : Option (Direction × Expression))
  | branch (condition : Expression) (whenTrue : Statement) (whenFalse : Option Statement)
  | while (condition : Expression) (body : Statement)
  | doWhile (body : Statement) (condition : Expression)
  | for (first : Option Expression) (condition : Option Expression) (step : Option Expression)
      (body : Statement)
  | forEach (name array : OctetText) (body : Statement)
  | break
  | continue
  | next
  | nextFile
  | exit (code : Option Expression)
  | return (value : Option Expression)
  | delete (array : OctetText) (subscripts : Option (List Expression))

/-- for which records something is done -/
inductive Condition where
  | always
  | when (condition : Expression)
  /-- from one record to another -/
  | range (first last : Expression)

structure Rule where
  condition : Condition
  body : Statement

structure Function where
  name : OctetText
  parameters : List OctetText
  body : Statement

structure Program where
  /-- what is done before the first record -/
  before : List Statement
  rules : List Rule
  /-- what is done behind the last record -/
  behind : List Statement
  functions : List Function

end ShellWorkers.Utility.Records

/-!
## The words of a program for records

A program is cut into tokens.  Ends of lines count only where a statement can end, so that they are
passed over behind most signs; before a closing brace a statement ends without a sign.  What a
slash or a sign of comparison means depends on what stands before it.
-/

namespace ShellWorkers.Utility.Records

open Text (OctetText)
open ShellWorkers.Decimal

inductive Token where
  | number (x : Float) (spelling : OctetText)
  | text (text : OctetText) (spelling : OctetText)
  /-- what stands between two slashes -/
  | pattern (text : OctetText)
  /-- a name, and whether a parenthesis follows at once -/
  | name (name : OctetText) (isCalled : Bool)
  | keyword (word : OctetText)
  | sign (sign : OctetText)
  /-- the sign for where output goes -/
  | output (direction : Direction)
  /-- a field with the number of it -/
  | field (x : Float)
  /-- the end of a statement that a closing brace brings with it -/
  | supplied
  | newline
  | done
  /-- a character that has no meaning -/
  | stray (c : Char)

/-- words that are no names -/
def keywords : List OctetText :=
  ["BEGIN", "END", "break", "continue", "delete", "do", "else", "exit", "for", "function",
    "getline", "gsub", "if", "in", "match", "next", "nextfile", "print", "printf", "return",
    "split", "sub", "while"] ++ Builtin.table.map (·.name)

/-- how far a program has been read -/
structure Scanner where
  rest : List Char
  /-- the line of what comes next -/
  line : Nat
  /-- the line on which the last token starts -/
  tokenLine : Nat
  last : Token
  /-- parentheses and braces that are open -/
  parens : Nat
  braces : Nat
  /-- the arguments of an output statement are read -/
  isPrinting : Bool
  /-- what is wrong, last first -/
  faults : List OctetText
  /-- the reading ends with the last fault -/
  isFatal : Bool

namespace Scanner

def start (text : OctetText) : Scanner where
  rest := text.toList ++ ['\n']
  line := 1
  tokenLine := 1
  last := .newline
  parens := 0
  braces := 0
  isPrinting := false
  faults := []
  isFatal := false

def isSpace (c : Char) : Bool := c == ' ' || c == '\t' || c == '\r' || c == '\x0b' || c == '\x0c'

def isNameStart (c : Char) : Bool := c.isAlpha || c == '_'

def isNameChar (c : Char) : Bool := c.isAlphanum || c == '_'

/-- a message about the line of the last token -/
def withFault (s : Scanner) (message : OctetText) : Scanner :=
  { s with faults := ("line " ++ toString s.tokenLine ++ ": " ++ message) :: s.faults }

/-! ### blanks -/

/-- what stands behind a backslash that is followed by the end of a line -/
def joined? (cs : List Char) : Option (List Char) :=
  match cs.dropWhile isSpace with
  | '\n' :: rest => some rest
  | _ => none

/-- passes over blanks, ends of lines and comments: the lines passed, and the rest -/
def passBlank : (fuel : Nat) → (lines : Nat) → List Char → Nat × List Char
  | 0, lines, cs => (lines, cs)
  | fuel + 1, lines, cs =>
    match cs with
    | '\n' :: rest => passBlank fuel (lines + 1) rest
    | '#' :: rest => passBlank fuel lines (rest.dropWhile (· != '\n'))
    | '\\' :: rest =>
      match joined? rest with
      | some rest => passBlank fuel (lines + 1) rest
      | none => (lines, cs)
    | c :: rest => if isSpace c then passBlank fuel lines rest else (lines, cs)
    | [] => (lines, [])

/-- passes over blanks and ends of lines -/
def passLines (s : Scanner) : Scanner :=
  let (lines, rest) := passBlank (s.rest.length + 1) 0 s.rest
  { s with rest := rest, line := s.line + lines }

/-- passes over a semicolon behind blanks -/
def passSemicolon (s : Scanner) : Scanner :=
  match s.rest.dropWhile isSpace with
  | ';' :: rest => { s with rest := rest }
  | rest => { s with rest := rest }

/-! ### numbers and texts -/

/-- the number with a fraction that is nearest to a reading -/
def floatOf (r : Floating.Reading) : Float :=
  match (Floating.ofReading .double r).1.magnitude with
  | .infinite => if r.negative then -(1.0 / 0.0) else 1.0 / 0.0
  | .notNumber => 0.0 / 0.0
  | .finite m e =>
    let x := Float.scaleB m.toFloat e
    if r.negative then -x else x

/-- a number that starts with a digit or a point, its spelling and the rest -/
def readNumber (cs : List Char) : Float × List Char × List Char :=
  let whole := cs.takeWhile Char.isDigit
  let rest := cs.drop whole.length
  let (fraction, rest) : List Char × List Char := match rest with
    | '.' :: after =>
      let ds := after.takeWhile Char.isDigit
      ('.' :: ds, after.drop ds.length)
    | rest => ([], rest)
  let after := (Floating.exponent ['e', 'E'] rest).2
  let spelling := cs.take (cs.length - after.length)
  let mantissa := whole ++ fraction
  let x := match Floating.read? (mantissa ++ rest.take (rest.length - after.length)) with
    | some r => floatOf r
    | none => 0
  (x, spelling, after)

/-- digits of base 8, three at most -/
def octalDigits (cs : List Char) : List Char :=
  (cs.take 3).takeWhile fun c => '0'.toNat ≤ c.toNat && c.toNat ≤ '7'.toNat

/-- the character that a letter behind a backslash stands for -/
def escape? (c : Char) : Option Char :=
  match c with
  | '"' => some '"'
  | '\\' => some '\\'
  | 'a' => some '\x07'
  | 'b' => some '\x08'
  | 'f' => some '\x0c'
  | 'n' => some '\n'
  | 'r' => some '\r'
  | 't' => some '\t'
  | 'v' => some '\x0b'
  | _ => none

/-- the character that an escape stands for, and the rest behind it; nothing if it is none -/
def escaped? (cs : List Char) : Option (Char × List Char) :=
  match cs with
  | [] => none
  | c :: rest =>
    match escape? c with
    | some e => some (e, rest)
    | none =>
      let ds := octalDigits cs
      if !ds.isEmpty then
        some (Char.ofNat (Floating.digitsIn 8 ds % 256), cs.drop ds.length)
      else if c == 'x' then
        let ds := (rest.take 2).takeWhile Floating.isHexDigit
        if ds.isEmpty then none
        else some (Char.ofNat (Floating.digitsIn 16 ds), rest.drop ds.length)
      else none

/-- a text with what its escapes stand for; the fuel is more than its length -/
def unescape : (fuel : Nat) → List Char → List Char
  | 0, _ => []
  | _ + 1, [] => []
  | fuel + 1, '\\' :: rest =>
    match escaped? rest with
    | some (c, rest) => c :: unescape fuel rest
    | none =>
      match rest with
      | [] => ['\\']
      | c :: rest => '\\' :: c :: unescape fuel rest
  | fuel + 1, c :: rest => c :: unescape fuel rest

/-- a text with what its escapes stand for -/
def unescaped (text : OctetText) : OctetText :=
  if text.contains '\\' then String.ofList (unescape (text.length + 1) text.toList) else text

/-- a text up to the quote that ends it, last first, with the lines passed and the rest; nothing
in front if it does not end -/
def quotedText (lines : Nat) (text : List Char) : List Char → Option (Nat × List Char) × List Char
  | '"' :: rest => (some (lines, text), rest)
  | '\\' :: '\n' :: rest => quotedText (lines + 1) text rest
  | '\\' :: c :: rest => quotedText lines (c :: '\\' :: text) rest
  | '\n' :: _ => (none, text)
  | [] => (none, text)
  | c :: rest => quotedText lines (c :: text) rest

/-- how a pattern is read: outside of a class, at the beginning of one, or inside of it -/
inductive ClassState where
  | outside
  | first
  | inside
  | kind

/-- a pattern up to the slash that ends it, last first, and the rest; nothing in front if it does
not end -/
def slashedText (state : ClassState) (text : List Char) :
    List Char → Option (List Char) × List Char
  | [] => (none, text)
  | '\n' :: _ => (none, text)
  | '\\' :: '\n' :: rest => slashedText state text rest
  | '\\' :: '/' :: rest => slashedText (behind state) ('/' :: text) rest
  | '\\' :: c :: rest => slashedText (behind state) (c :: '\\' :: text) rest
  | c :: rest =>
    match state with
    | .outside =>
      if c == '/' then (some text, rest)
      else slashedText (if c == '[' then .first else .outside) (c :: text) rest
    | .first =>
      if c == '^' && text.head? == some '[' then slashedText .first (c :: text) rest
      else slashedText (if c == '[' && rest.head? == some ':' then .kind else .inside)
        (c :: text) rest
    | .inside =>
      if c == ']' then slashedText .outside (c :: text) rest
      else slashedText (if c == '[' && rest.head? == some ':' then .kind else .inside)
        (c :: text) rest
    | .kind => slashedText (if c == ']' then .inside else .kind) (c :: text) rest
where
  behind : ClassState → ClassState
    | .first => .inside
    | state => state

/-! ### tokens -/

/-- whether a value can end with a token, so that a slash behind it divides -/
def Token.endsValue : Token → Bool
  | .number .. | .text .. | .pattern _ | .field _ => true
  | .name _ isCalled => !isCalled
  | .sign s => [")", "]", "++", "--"].contains s
  | .keyword w => w == "getline"
  | _ => false

/-- whether a statement has ended with a token, or none has begun -/
def Token.endsStatement : Token → Bool
  | .newline | .supplied => true
  | .sign s => s == ";" || s == "\x7d"
  | _ => false

/-- a token that has been read -/
def give (s : Scanner) (token : Token) (rest : List Char) : Token × Scanner :=
  (token, { s with rest := rest, last := token })

def giveSign (s : Scanner) (sign : OctetText) (rest : List Char) : Token × Scanner :=
  s.give (.sign sign) rest

/-- a sign behind which ends of lines do not count -/
def giveOpen (s : Scanner) (sign : OctetText) (rest : List Char) : Token × Scanner :=
  let s := ({ s with rest := rest }).passLines
  s.giveSign sign s.rest

/-- signs of two characters before their first characters -/
def doubleSigns : List OctetText :=
  ["++", "--", "+=", "-=", "*=", "/=", "%=", "^=", "==", "!=", "!~", "<=", ">="]

def singleSigns : List Char :=
  ['+', '-', '*', '/', '%', '^', '=', '!', '<', '>', '~', '?', ':', '[', ']', '$']

/-- what is wrong without end -/
def giveFatal (s : Scanner) (message : OctetText) : Token × Scanner :=
  (.done, { s.withFault message with isFatal := true, rest := [], last := .done })

def shownText (text : List Char) : OctetText := String.ofList (text.reverse.take 10)

/-- the next token; the fuel is more than the length of what is left -/
def nextToken : (fuel : Nat) → Scanner → Token × Scanner
  | 0, s => s.give .done []
  | fuel + 1, s =>
    match s.rest with
    | [] => s.give .done []
    | '\n' :: rest =>
      let s := ({ s with rest := rest, line := s.line + 1 }).passLines
      s.give .newline s.rest
    | '#' :: rest => nextToken fuel { s with rest := rest.dropWhile (· != '\n') }
    | ';' :: rest => s.giveOpen ";" rest
    | '{' :: rest => ({ s with braces := s.braces + 1 }).giveOpen "\x7b" rest
    | '}' :: rest =>
      if s.braces = 0 then
        nextToken fuel (({ s with rest := rest }).withFault "extra '\x7d'").passSemicolon
      else if Token.endsStatement s.last then
        let s := { s with rest := rest, braces := s.braces - 1 }
        let s := (if s.braces = 0 then s.passSemicolon else s).passLines
        s.giveSign "\x7d" s.rest
      else s.give .supplied s.rest
    | '(' :: rest => ({ s with parens := s.parens + 1 }).giveSign "(" rest
    | ')' :: rest =>
      if s.parens = 0 then
        nextToken fuel (({ s with rest := rest }).withFault "extra ')'")
      else ({ s with parens := s.parens - 1 }).giveSign ")" rest
    | ',' :: rest => s.giveOpen "," rest
    | '&' :: '&' :: rest => s.giveOpen "&&" rest
    | '|' :: '|' :: rest => s.giveOpen "||" rest
    | '|' :: rest =>
      if s.isPrinting && s.parens = 0 then
        ({ s with isPrinting := false }).give (.output .command) rest
      else s.giveSign "|" rest
    | '>' :: rest =>
      if s.isPrinting && s.parens = 0 then
        let s := { s with isPrinting := false }
        match rest with
        | '>' :: rest => s.give (.output .behind) rest
        | rest => s.give (.output .over) rest
      else match rest with
        | '=' :: rest => s.giveSign ">=" rest
        | rest => s.giveSign ">" rest
    | '"' :: rest =>
      match quotedText 0 [] rest with
      | (some (lines, text), rest) =>
        let spelling := String.ofList text.reverse
        ({ s with line := s.line + lines }).give (.text (unescaped spelling) spelling) rest
      | (none, text) => s.giveFatal ("runaway string constant \"" ++ shownText text ++ " ...")
    | '$' :: rest =>
      let after := rest.dropWhile isSpace
      match after with
      | c :: d :: _ =>
        if c.isDigit || (c == '.' && d.isDigit) then
          let (x, _, rest) := readNumber after
          s.give (.field x) rest
        else s.giveSign "$" after
      | _ => s.giveSign "$" after
    | '\\' :: rest =>
      match joined? rest with
      | some rest =>
        nextToken fuel { s with rest := rest, line := s.line + 1, tokenLine := s.line + 1 }
      | none => s.give (.stray '\\') (rest.dropWhile isSpace)
    | '/' :: rest =>
      let divides := Token.endsValue s.last
      if divides && rest.head? != some '=' then s.giveSign "/" rest
      else if divides && !(s.last matches .sign "++") && !(s.last matches .sign "--") then
        s.giveSign "/=" (rest.drop 1)
      else
        match slashedText .outside [] rest with
        | (some text, rest) => s.give (.pattern (String.ofList text.reverse)) rest
        | (none, text) =>
          s.giveFatal ("runaway regular expression /" ++ shownText text ++ " ...")
    | '.' :: rest =>
      if (rest.head?.map Char.isDigit).getD false then
        let (x, spelling, rest) := readNumber s.rest
        s.give (.number x (String.ofList spelling)) rest
      else s.give (.stray '.') (rest.drop 1)
    | c :: rest =>
      if isSpace c then nextToken fuel { s with rest := rest }
      else if c.isDigit then
        let (x, spelling, rest) := readNumber s.rest
        s.give (.number x (String.ofList spelling)) rest
      else if isNameStart c then
        let name := String.ofList (s.rest.takeWhile isNameChar)
        let rest := s.rest.drop name.length
        if keywords.contains name then s.give (.keyword name) rest
        else s.give (.name name (rest.head? == some '(')) rest
      else
        let double := String.ofList (s.rest.take 2)
        if doubleSigns.contains double then s.giveSign double (s.rest.drop 2)
        else if singleSigns.contains c then s.giveSign (String.singleton c) rest
        else s.give (.stray c) rest

/-- the next token -/
def next (s : Scanner) : Token × Scanner :=
  nextToken (s.rest.length + 2) { s with tokenLine := s.line }

end Scanner

end ShellWorkers.Utility.Records

/-!
## Patterns of programs for records

Patterns are regular expressions of the extended form without intervals, in which backslashes have
a meaning everywhere.  A separator cuts a text into fields: between blanks, between characters, at
a character, or where a pattern is found.
-/

namespace ShellWorkers.Utility.Records

open Text (OctetText)

/-- how patterns are written -/
def dialect : Regex.Dialect :=
  { Regex.Dialect.extendedForm with
    idle := .skipped, emptyRanges := true, escapes := true, intervals := false, looseClose := true }

/-- a pattern in which escapes are characters behind backslashes; the fuel is more than its
length -/
def plainEscapes : (fuel : Nat) → List Char → List Char
  | 0, _ => []
  | _ + 1, [] => []
  | _ + 1, ['\\'] => ['\\', '\\']
  | fuel + 1, '\\' :: c :: rest =>
    match Scanner.escaped? (c :: rest) with
    | some (e, rest) => '\\' :: e :: plainEscapes fuel rest
    | none => '\\' :: c :: plainEscapes fuel rest
  | fuel + 1, c :: rest => c :: plainEscapes fuel rest

/-- what stands behind a class -/
def behindClass (cs : List Char) : List Char :=
  match Regex.readClass dialect cs with
  | .ok (_, rest) => rest
  | .error _ => []

/-- what is missing in a pattern, if it is: operators need something to work on.  `before` is what
stands before the rest, nothing where an operand is needed. -/
def missing? : (fuel : Nat) → (before : Option Char) → List Char → Option OctetText
  | 0, _, _ => none
  | _ + 1, before, [] => if before.isNone then some "missing operand" else none
  | fuel + 1, before, c :: rest =>
    let repeated (_ : Unit) : Option OctetText :=
      if before.isNone then some "missing operand"
      else if before = some '^' && c != '?' then some "syntax error ^* or ^+"
      else missing? fuel (some c) rest
    match c with
    | '\\' => missing? fuel (some 'x') (rest.drop 1)
    | '[' => missing? fuel (some 'x') (behindClass rest)
    | '(' =>
      if before.isSome && rest.head? == some ')' then missing? fuel (some c) (rest.drop 1)
      else missing? fuel none rest
    | '|' => if before.isNone then some "missing operand" else missing? fuel none rest
    | ')' => if before.isNone then some "missing operand" else missing? fuel (some c) rest
    | '*' => repeated ()
    | '+' => repeated ()
    | '?' => repeated ()
    | c => missing? fuel (some c) rest

/-- the words for what is wrong with a pattern -/
def faultReason : Regex.Fault → OctetText
  | .openGroup => "missing ')'"
  | .nothingToRepeat => "missing operand"
  | .strayClose => "missing operand"
  | _ => "bad class -- [], [^] or ["

/-- the regular expression of a pattern, or why it is none -/
def compile (pattern : OctetText) : Except OctetText Regex :=
  let cs := plainEscapes (pattern.length + 1) pattern.toList
  let read : Except OctetText Regex := match Regex.read dialect cs with
    | .ok r => .ok r.regex
    | .error e => .error (faultReason e)
  match read, if cs.isEmpty then none else missing? (cs.length + 1) none cs with
  | .ok _, some reason => .error reason
  | _, _ => read

/-- the message about a pattern that is none -/
def compileFault (pattern reason : OctetText) : OctetText :=
  "regular expression compile failed (" ++ reason ++ ")\n" ++ pattern

/-! ### separators -/

inductive Separator where
  | blanks
  | nothing
  | char (c : Char)
  | pattern (regex : Regex)

/-- the separator that a text stands for; one character stands for itself -/
def Separator.ofText (text : OctetText) : Except OctetText Separator :=
  match text.toList with
  | [] => .ok .nothing
  | [c] => .ok (if c == ' ' then .blanks else .char c)
  | _ => Separator.pattern <$> compile text

/-- the parts of a text between blanks -/
def blankParts (cs : List Char) : List OctetText :=
  let isBlank (c : Char) : Bool := Scanner.isSpace c || c == '\n'
  ((String.ofList cs).splitToList isBlank).filter (!·.isEmpty)

/-- the parts of a text around what is found of a pattern; what is empty is not found.  The fuel is
more than the length of the text. -/
def patternParts (r : Regex) : (fuel : Nat) → (passed : List Char) → List Char →
    List (List Char)
  | 0, _, cs => [cs]
  | fuel + 1, passed, cs =>
    match r.findAccepted? (fun start stop => start.offset < stop.offset) passed cs with
    | none => [cs]
    | some m => cs.take m.start.offset :: patternParts r fuel m.stop.passed m.stop.rest

/-- the parts into which a separator cuts a text; there are none of an empty text -/
def Separator.cut (s : Separator) (text : OctetText) : List OctetText :=
  if text.isEmpty then []
  else
    match s with
    | .blanks => blankParts text.toList
    | .nothing => text.toList.map String.singleton
    | .char c => text.splitOn (String.singleton c)
    | .pattern r => (patternParts r (text.length + 1) [] text.toList).map String.ofList

end ShellWorkers.Utility.Records
