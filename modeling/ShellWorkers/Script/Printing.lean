import ShellWorkers.Script.Syntax

/-!
# Commands as texts

A word or a command as a script has it.  What stood in quotes is put between double quotes, or
behind a backslash if it had no quotes of its own.

* `wordSource`      a word;
* `commandSource`   a command in lines, the inner ones indented;
* `functionSource`  a function with its name;
* `exportSource`    a function as a value.
-/

namespace ShellWorkers.Script

open Text (OctetText)

/-! ## small pieces -/

/-- the sign of a use of a parameter -/
def useSource (orEmpty : Bool) : Use → OctetText
  | .default => colon ++ "-"
  | .assign => colon ++ "="
  | .error => colon ++ "?"
  | .alternative => colon ++ "+"
  | .withoutSuffix longest => if longest then "%%" else "%"
  | .withoutPrefix longest => if longest then "##" else "#"
  | _ => ""
where
  colon : OctetText := if orEmpty then ":" else ""

/-- the sign of a redirection, and its usual descriptor -/
def openingSource : Opening → OctetText × Nat
  | .input => ("<", 0)
  | .output => (">", 1)
  | .overwrite => (">|", 1)
  | .append => (">>", 1)
  | .inputOutput => ("<>", 0)

def endingSource : ArmEnd → OctetText
  | .leave => ";;"
  | .fallThrough => ";&"
  | .tryNext => ";;&"

/-- a descriptor before a sign, unless it is the usual one -/
def descriptorSource (fd usual : Nat) : OctetText := if fd = usual then "" else toString fd

/-- blanks before a line -/
def margin (depth : Nat) : OctetText := String.ofList (List.replicate (4 * depth) ' ')

/-- a text as it stands between double quotes -/
def insideQuotes (text : OctetText) : OctetText :=
  String.ofList (text.toList.flatMap fun c =>
    if ['"', '$', '\x60', '\\'].contains c then ['\\', c] else [c])

/-- a quoted text without quotes of its own -/
def behindBackslashes (text : OctetText) : OctetText :=
  String.ofList (text.toList.flatMap fun c => ['\\', c])

def isQuotedPart : Part → Bool
  | .text _ quoted => quoted
  | .parameter _ _ _ _ quoted => quoted
  | .command _ quoted => quoted
  | .arithmetic _ quoted => quoted
  | .reference r _ _ _ => r.quoted
  | _ => false

def isBackground : Command → Bool
  | .background _ _ _ => true
  | .pipeline _ background => background
  | .sequence _ last => isBackground last
  | _ => false

/-- whether a command is not held together by words of its own -/
def isList : Command → Bool
  | .sequence _ _ => true
  | .simple _ _ _ _ => true
  | .pipeline _ _ => true
  | .negation _ => true
  | .conjunction _ _ => true
  | .disjunction _ _ => true
  | .background _ _ _ => true
  | .definition _ _ _ => true
  | _ => false

/-! ## layouts -/

/-- how commands that follow each other stand -/
inductive Layout where
  /-- in one line -/
  | inLine
  /-- one below the other, behind a margin -/
  | below (depth : Nat)
  /-- the same with margins that are one blank wide -/
  | narrow (depth : Nat)

namespace Layout

def depth : Layout → Nat
  | .inLine => 0
  | .below depth => depth
  | .narrow depth => depth

/-- the layout of commands inside of one -/
def inner : Layout → Layout
  | .narrow depth => .narrow (depth + 1)
  | l => .below (l.depth + 1)

/-- a line end with the margin behind it -/
def newline : Layout → OctetText
  | .narrow 0 => "\n"
  | .narrow _ => "\n "
  | l => "\n" ++ margin l.depth

/-- what stands between two commands -/
def between (l : Layout) (isBackground : Bool) : OctetText :=
  if isBackground then " "
  else
    match l with
    | .inLine => "; "
    | l => ";" ++ l.newline

/-- inner commands between braces -/
def group (l : Layout) (inner : OctetText) : OctetText :=
  "\x7b " ++ l.inner.newline ++ inner ++ l.newline ++ "\x7d"

/-- inner commands as the body of a loop -/
def loop (l : Layout) (head inner : OctetText) : OctetText :=
  head ++ l.newline ++ "do" ++ l.inner.newline ++ inner ++ ";" ++ l.newline ++ "done"

end Layout

/-! ## words and commands -/

mutual

/-- the parts of a word; `inside` says that the last one stood between double quotes, which are
still open -/
def partsSource (inside : Bool) : List Part → OctetText
  | [] => if inside then "\"" else ""
  | .source _ :: rest => partsSource inside rest
  | .text "" true :: rest =>
    if inside then partsSource true rest
    else
      let opens := (rest.head?.map isQuotedPart) == some true
      if opens then "\"" ++ partsSource true rest else "\"\"" ++ partsSource false rest
  | p :: rest =>
    let quoted := isQuotedPart p
    let close := if inside && !quoted then "\"" else ""
    let bare := match p with
      | .text _ _ => false
      | _ => quoted && !inside
    let start := if bare then "\"" else ""
    close ++ start ++ partSource (inside || bare) p ++ partsSource (quoted && (inside || bare)) rest

def partSource (inside : Bool) : Part → OctetText
  | .text value true => if inside then insideQuotes value else behindBackslashes value
  | .text value false => value
  | .parameter name use orEmpty word _ =>
    if use = .plain then "$" ++ name
    else "$\x7b" ++ name ++ useSource orEmpty use ++ partsSource false word ++ "\x7d"
  | .command body _ => "$(" ++ commandSource .inLine body ++ ")"
  | .arithmetic expression _ => "$((" ++ expressionSource expression ++ "))"
  | .reference r _ _ _ => r.source
  | .subscript word => "[" ++ partsSource false word ++ "]"
  | .elements words => "(" ++ wordsSource " " words ++ ")"
  | .source _ => ""
  | .process isRead body => (if isRead then "<(" else ">(") ++ commandSource .inLine body ++ ")"

/-- an expression, in which quotes mean nothing -/
def expressionSource : List Part → OctetText
  | [] => ""
  | .text value _ :: rest => value ++ expressionSource rest
  | p :: rest => partSource true p ++ expressionSource rest

/-- words with a text between them -/
def wordsSource (between : OctetText) : List (List Part) → OctetText
  | [] => ""
  | w :: ws =>
    (ownSource? w).getD (partsSource false w) ++ (if ws.isEmpty then "" else between)
      ++ wordsSource between ws

def redirectionSource : Redirection → OctetText
  | .open fd kind target =>
    let (sign, usual) := openingSource kind
    descriptorSource fd usual ++ sign ++ " " ++ (ownSource? target).getD (partsSource false target)
  | .copy fd source => toString fd ++ ">&" ++ (ownSource? source).getD (partsSource false source)
  | .document fd body source delimiter =>
    descriptorSource fd 0 ++ source ++ (if delimiter.isEmpty then ""
      else "\n" ++ expressionSource body ++ delimiter ++ "\n")
  | .awaited _ _ _ _ => ""
  | .named name r => "\x7b" ++ name ++ "\x7d" ++ redirectionSource r
  | .both append target => (if append then "&>> " else "&> ") ++ partsSource false target

/-- redirections, a blank before each -/
def redirectionsSource : List Redirection → OctetText
  | [] => ""
  | r :: rs => " " ++ redirectionSource r ++ redirectionsSource rs

def testSource : Test → OctetText
  | .nonempty word => "-n " ++ (ownSource? word).getD (partsSource false word)
  | .unary op word => op ++ " " ++ (ownSource? word).getD (partsSource false word)
  | .binary op left right =>
    (ownSource? left).getD (partsSource false left) ++ " " ++ op ++ " "
      ++ (ownSource? right).getD (partsSource false right)
  | .negation t => "! " ++ testSource t
  | .conjunction a b => testSource a ++ " && " ++ testSource b
  | .disjunction a b => testSource a ++ " || " ++ testSource b

/-- commands of a pipeline -/
def pipedSource (l : Layout) : List Command → OctetText
  | [] => ""
  | c :: cs => commandSource l c ++ (if cs.isEmpty then "" else " | ") ++ pipedSource l cs

/-- the arms of a selection -/
def armsSource (l : Layout) : List (List (List Part) × Command × ArmEnd) → OctetText
  | [] => ""
  | (patterns, body, ending) :: arms =>
    let text := commandSource l.inner body
    l.newline ++ wordsSource " | " patterns ++ ")"
      ++ (if text.isEmpty then "\n" else l.inner.newline ++ text)
      ++ l.newline ++ endingSource ending ++ armsSource l arms

/-- a command; the lines behind the first have margins -/
def commandSource (l : Layout) : Command → OctetText
  | .nothing => ""
  | .simple _ assignments words rs =>
    let start := wordsSource " " assignments
    let rest := wordsSource " " words
    let text := start ++ (if start.isEmpty || rest.isEmpty then "" else " ") ++ rest
    let redirected := redirectionsSource rs
    if text.isEmpty then String.ofList (redirected.toList.drop 1) else text ++ redirected
  | .pipeline commands background => pipedSource l commands ++ (if background then " &" else "")
  | .negation body => "! " ++ commandSource l body
  | .conjunction a b => commandSource l a ++ " && " ++ commandSource l b
  | .disjunction a b => commandSource l a ++ " || " ++ commandSource l b
  | .sequence a b =>
    let first := commandSource l a
    first ++ (if first.endsWith "\n" then l.newline else l.between (isBackground a))
      ++ commandSource l b
  | .background _ body rs => commandSource l body ++ redirectionsSource rs ++ " &"
  | .subshell _ body rs => "( " ++ commandSource l body ++ " )" ++ redirectionsSource rs
  | .redirected _ body rs =>
    (if isList body then l.group (commandSource l.inner body) else commandSource l body)
      ++ redirectionsSource rs
  | .conditional test yes no =>
    let otherwise := commandSource l.inner no
    "if " ++ commandSource .inLine test ++ "; then" ++ l.inner.newline
      ++ commandSource l.inner yes ++ ";" ++ l.newline
      ++ (if otherwise.isEmpty then ""
        else "else" ++ l.inner.newline ++ otherwise ++ ";" ++ l.newline)
      ++ "fi"
  | .whileLoop wanted test body =>
    (if wanted then "while " else "until ") ++ commandSource .inLine test ++ "; do"
      ++ l.inner.newline ++ commandSource l.inner body ++ ";" ++ l.newline ++ "done"
  | .forLoop _ name words body =>
    l.loop ("for " ++ name ++ " in " ++ wordsSource " " words ++ ";") (commandSource l.inner body)
  | .selection _ word arms =>
    "case " ++ (ownSource? word).getD (partsSource false word) ++ " in " ++ armsSource l.inner arms ++ l.newline ++ "esac"
  | .definition _ name body =>
    "function " ++ name ++ " () " ++ l.newline ++ l.group (commandSource l.inner body)
  | .test _ t => "[[ " ++ testSource t ++ " ]]"
  | .computation _ expression => "((" ++ expressionSource expression ++ "))"
  | .countedLoop _ start test next body =>
    l.loop ("for ((" ++ expressionSource start ++ "; " ++ expressionSource test ++ "; "
      ++ expressionSource next ++ "))") (commandSource l.inner body)
  | .menu _ name words body =>
    l.loop ("select " ++ name ++ " in " ++ wordsSource " " words ++ ";") (commandSource l.inner body)
  | .timed standard body => (if standard then "time -p " else "time ") ++ commandSource l body

end

/-- a word as it stands in a script -/
def wordSource (w : Word) : OctetText := (ownSource? w).getD (partsSource false w)

/-- a function without its name, as it is handed on to programs -/
def exportSource (body : Command) : OctetText :=
  "() \x7b  " ++ commandSource (.narrow 1) body ++ "\n\x7d"

/-- a function with its name -/
def functionSource (name : OctetText) (body : Command) : OctetText :=
  let group (body : Command) : OctetText :=
    Layout.group (.below 0) (commandSource (.below 1) body)
  name ++ " () \n" ++ (match body with
    | .redirected _ body rs => group body ++ redirectionsSource rs
    | body => group body) ++ "\n"

end ShellWorkers.Script
