import ShellWorkers.Machine.Permissions
import ShellWorkers.Regex.Reader
import ShellWorkers.Script.Pattern
import ShellWorkers.Utility.Attributes

/-!
# Expressions about files

The expressions, and how they are read from arguments.
-/

/-!
## Expressions about files

An expression is made of tests, which hold of a file or not, and of actions, which do something
with it and hold if they succeed.
-/

namespace ShellWorkers.Utility.Finding

open Machine
open Text (OctetText)

/-- a number that is compared with another one -/
inductive Comparison where
  | below (n : Nat)
  | exactly (n : Nat)
  | above (n : Nat)

def Comparison.holds (c : Comparison) (m : Nat) : Bool :=
  match c with
  | .below n => decide (m < n)
  | .exactly n => m == n
  | .above n => decide (n < m)

/-- how permissions are compared -/
inductive PermissionTest where
  | exactly
  | allOf
  | anyOf
  deriving DecidableEq

/-- a part of a format -/
inductive FormatPart where
  | text (text : OctetText)
  /-- a property of the file: how it is aligned, and its letters -/
  | property (flags : List Char) (width : Nat) (letter : Char) (more : Char)
  /-- the format ends here, and what has been written is shown -/
  | stop

/-- tests and actions; `output` is the descriptor to which an action writes -/
inductive Primary where
  | name (pattern : Script.Pattern) (folds : Bool)
  | path (pattern : Script.Pattern) (folds : Bool)
  | linkTarget (pattern : Script.Pattern) (folds : Bool)
  | described (regex : Regex)
  | kind (letters : List Char)
  | targetKind (letters : List Char)
  | size (count : Comparison) (unit : Nat)
  | empty
  /-- changed behind an instant -/
  | newer (instant : Int)
  /-- changed so many units before an instant -/
  | age (count : Comparison) (unit : Int) (start : Int)
  | permissions (test : PermissionTest) (bits : Nat)
  /-- the number of the owner -/
  | owner (number : Comparison)
  | links (count : Comparison)
  | inode (number : Comparison)
  | sameAs (id : NodeId)
  /-- its owner may do this with it -/
  | permitted (bits : Nat)
  | always (holds : Bool)
  | prune
  | quit
  | delete
  | print (output : Nat) (ending : OctetText)
  | format (output : Nat) (parts : List FormatPart)
  | list (output : Nat)
  /-- runs a command for every file, in its directory if that is wanted -/
  | execute (args : List OctetText) (inDirectory asks : Bool)
  /-- runs a command for many files; the number tells it apart from others -/
  | collect (number : Nat) (args : List OctetText) (inDirectory : Bool)

inductive Expression where
  | primary (p : Primary)
  | not (e : Expression)
  | and (a b : Expression)
  | or (a b : Expression)
  /-- both, of which the second one counts -/
  | both (a b : Expression)

/-- whether an action does something that takes the place of printing -/
def Primary.replacesPrinting : Primary → Bool
  | .delete => true
  | .print .. => true
  | .format .. => true
  | .list _ => true
  | .execute .. => true
  | .collect .. => true
  | _ => false

/-- which files are visited, and how -/
structure Tour where
  minDepth : Nat
  maxDepth : Option Nat
  /-- what is in a directory comes before it -/
  depthFirst : Bool
  /-- links are followed everywhere, or as starting points -/
  followsAll : Bool
  followsFirst : Bool

/-- an action for many files -/
structure Collector where
  number : Nat
  args : List OctetText
  inDirectory : Bool

end ShellWorkers.Utility.Finding

/-!
## Reading expressions about files

The arguments are read one after the other into words: tests and actions with what belongs to
them, operators and parentheses.  A second step makes the expression out of the words.
-/

namespace ShellWorkers.Utility.Finding

open Machine
open Text (OctetText)

/-- a word of an expression with its spelling; one that was not given has been added -/
inductive Word where
  | primary (p : Primary) (spelling : OctetText)
  | not (spelling : OctetText)
  | and (spelling : OctetText)
  | or (spelling : OctetText)
  | both
  | opening (added : Bool)
  | closing (added : Bool)

namespace Word

def spelling : Word → OctetText
  | .primary _ s => s
  | .not s => s
  | .and s => s
  | .or s => s
  | .both => ","
  | .opening _ => "("
  | .closing _ => ")"

/-- how strongly an operator binds -/
def binding : Word → Nat
  | .both => 1
  | .or _ => 2
  | .and _ => 3
  | _ => 0

def isOperator (w : Word) : Bool := 0 < w.binding

/-- whether something stands before, so that an operator is missing behind it -/
def endsOperand : Word → Bool
  | .primary .. => true
  | .closing _ => true
  | _ => false

end Word

/-! ### from words to an expression -/

/-- reading words, which can end with a message -/
abbrev Joining := StateT (List Word) (Except OctetText)

def refuse {α : Type} (message : OctetText) : Joining α := StateT.lift (.error message)

mutual

/-- an operand, and the operators behind it that bind more strongly than `binding`; `before` is
the word before it -/
def operand : (fuel : Nat) → (binding : Nat) → (before : Option Word) → Joining Expression
  | 0, _, _ => refuse "invalid expression"
  | fuel + 1, binding, before => do
    match ← get with
    | [] => refuse "invalid expression"
    | word :: rest => do
      let first ← match word with
        | .primary p _ => do
          set rest
          pure (.primary p)
        | .not _ => do
          set rest
          .not <$> operand fuel 4 (some word)
        | .opening _ =>
          match rest with
          | [] => refuse ("invalid expression; expected to find a ')' but didn't see one. "
              ++ "Perhaps you need an extra predicate after '('")
          | .closing true :: _ =>
            refuse ("invalid expression; expected to find a ')' but didn't see one. "
              ++ "Perhaps you need an extra predicate after '('")
          | .closing false :: _ =>
            refuse "invalid expression; empty parentheses are not allowed."
          | _ => do
            set rest
            let inner ← operand fuel 0 (some word)
            match ← get with
            | .closing _ :: rest => do
              set rest
              pure inner
            | _ => refuse ("invalid expression; I was expecting to find a ')' somewhere but "
                ++ "did not see one.")
        | .closing added =>
          match before with
          | some b =>
            if added then refuse ("expected an expression after '" ++ b.spelling ++ "'")
            else if b.isOperator || b.spelling == "!" || b.spelling == "-not" then
              refuse ("expected an expression between '" ++ b.spelling ++ "' and ')'")
            else refuse "invalid expression; you have too many ')'"
          | none => refuse "invalid expression; you have too many ')'"
        | operator =>
          refuse ("invalid expression; you have used a binary operator '" ++ operator.spelling
            ++ "' with nothing before it.")
      operators fuel binding first

/-- operators that bind more strongly than `binding`, with their right operands -/
def operators : (fuel : Nat) → (binding : Nat) → Expression → Joining Expression
  | 0, _, e => pure e
  | fuel + 1, binding, e => do
    match ← get with
    | [] => pure e
    | word :: rest =>
      if word.isOperator && binding < word.binding then do
        set rest
        let right ← operand fuel word.binding (some word)
        let e := match word with
          | .and _ => .and e right
          | .or _ => .or e right
          | _ => .both e right
        operators fuel binding e
      else pure e

end

/-- the expression of words -/
def joined (words : List Word) : Except OctetText Expression := do
  let (e, rest) ← (operand (2 * words.length + 2) 0 none).run words
  match rest with
  | [] => .ok e
  | .closing _ :: _ => .error "you have too many ')'"
  | word :: _ => .error ("unexpected extra predicate '" ++ word.spelling ++ "'")

/-! ### from arguments to words -/

structure ReaderState where
  args : List OctetText
  /-- last first -/
  words : List Word
  tour : Tour
  collectors : List Collector
  regexKind : OctetText
  dayStart : Bool
  now : Int
  zone : Clock.Zone
  last : OctetText

/-- the beginning of the next day -/
def ReaderState.midnight (s : ReaderState) : Int :=
  let c := s.zone.civil s.now
  let next := { c with day := c.day + 1, hour := 0, minute := 0, second := 0 }
  ((s.zone.seconds? none next).getD c.seconds) * Clock.nanosPerSecond

abbrev Reading := StateT ReaderState Work

/-- adds a word, and an operator before it if one is missing -/
def addWord (word : Word) : Reading Unit := do
  let needsAnd := match (← get).words, word with
    | [], _ => false
    | before :: _, .primary .. => before.endsOperand
    | before :: _, .not _ => before.endsOperand
    | before :: _, .opening _ => before.endsOperand
    | _, _ => false
  modify fun s => { s with
    words := word :: (if needsAnd then .and "-a" :: s.words else s.words) }

def addPrimary (p : Primary) : Reading Unit := do
  let spelling := (← get).last
  addWord (.primary p spelling)

/-- what belongs to the test or action that was read last -/
def value : Reading OctetText := do
  let s ← get
  match s.args with
  | [] => fail ("missing argument to `" ++ s.last ++ "'")
  | arg :: args => do
    set { s with args }
    pure arg

/-- a value that is not understood -/
def invalid {α : Type} (text : OctetText) : Reading α := do
  let s ← get
  fail ("invalid argument `" ++ text ++ "' to `" ++ s.last ++ "'")

/-- a number behind an optional sign, and what stands behind it -/
def comparison? (text : OctetText) : Option (Comparison × List Char) :=
  let read (make : Nat → Comparison) (cs : List Char) : Option (Comparison × List Char) :=
    let ds := cs.takeWhile Char.isDigit
    if ds.isEmpty then none else some (make (digitsValue ds), cs.drop ds.length)
  match text.toList with
  | '+' :: cs => read .above cs
  | '-' :: cs => read .below cs
  | cs => read .exactly cs

/-- a number that is compared -/
def comparisonValue : Reading Comparison := do
  let text ← value
  match comparison? text with
  | some (c, []) => pure c
  | _ => invalid text

/-- the octets of a unit of size -/
def sizeUnit? (cs : List Char) : Option Nat :=
  match cs with
  | [] => some 512
  | ['b'] => some 512
  | ['c'] => some 1
  | ['w'] => some 2
  | ['k'] => some 1024
  | ['M'] => some 1048576
  | ['G'] => some 1073741824
  | _ => none

/-- letters of kinds with commas between them -/
def kindLetters (test : OctetText) (text : OctetText) : Reading (List Char) := do
  let rec read : List Char → Except OctetText (List Char)
    | [] => .error ("Last file type in list argument to " ++ test
        ++ " is missing, i.e., list is ending on: ','")
    | [c] => one c []
    | c :: ',' :: rest => do
      let found ← one c []
      let others ← read rest
      return found ++ others
    | c :: _ :: _ => do
      let _ ← one c []
      .error ("Must separate multiple arguments to " ++ test ++ " using: ','")
  match read text.toList with
  | .ok letters => pure letters
  | .error message => fail message
where
  one (c : Char) (rest : List Char) : Except OctetText (List Char) :=
    if ['b', 'c', 'd', 'p', 'f', 'l', 's', 'D'].contains c then .ok (c :: rest)
    else .error ("Unknown argument to " ++ test ++ ": " ++ String.ofList [c])

/-- a pattern of names; letters may be taken for the same in both cases -/
def patternOf (folds : Bool) (text : OctetText) : Script.Pattern :=
  Script.Pattern.ofGlob (if folds then text.toList.map Char.toLower else text.toList)

/-- the kinds of regular expressions with their dialects -/
def regexKinds : List (OctetText × Regex.Dialect) :=
  let emacs : Regex.Dialect :=
    { Regex.Dialect.basic with strict := false, bareRepeats := true, intervals := false }
  let extended := { Regex.Dialect.extendedForm with looseClose := true }
  [("findutils-default", emacs), ("ed", Regex.Dialect.basic), ("emacs", emacs),
    ("gnu-awk", extended), ("grep", { Regex.Dialect.basic with strict := false }),
    ("posix-awk", extended), ("awk", extended), ("posix-basic", Regex.Dialect.basic),
    ("posix-egrep", extended), ("egrep", extended), ("posix-extended", extended),
    ("posix-minimal-basic", Regex.Dialect.basic), ("sed", Regex.Dialect.basic)]

/-- a regular expression for whole paths -/
def regexOf (folds : Bool) (text : OctetText) : Reading Regex := do
  let kind := (← get).regexKind
  let d := (regexKinds.lookup kind).getD Regex.Dialect.basic
  match Regex.read { d with folds } text.toList with
  | .ok r => pure r.regex
  | .error fault =>
    fail ("failed to compile regular expression '" ++ text ++ "': " ++ fault.message)

/-- the status of a file to which others are compared -/
def referenceStatus (path : OctetText) : Reading FileStatus := do
  let follows := (← get).tour.followsAll || (← get).tour.followsFirst
  match ← ask (.status path follows) with
  | .ok status => pure status
  | .error e => fail (quoted path ++ ": " ++ faultText e)

/-- the words of a command up to a semicolon, or up to braces with a plus sign behind them -/
def commandWords (action : OctetText) : List OctetText →
    Except OctetText (List OctetText × Bool × List OctetText)
  | [] => .error ("missing argument to `" ++ action ++ "'")
  | ";" :: rest => .ok ([], false, rest)
  | "{}" :: "+" :: rest => .ok ([], true, rest)
  | arg :: "+" :: rest =>
    if (arg.splitOn "{}").length > 1 && !(arg :: "+" :: rest).contains ";" then
      .error ("In '" ++ action ++ " ... \x7b\x7d +' the '\x7b\x7d' must appear by itself, "
        ++ "but you specified '" ++ arg ++ "'")
    else (fun r => (arg :: r.1, r.2)) <$> commandWords action ("+" :: rest)
  | arg :: rest => (fun r => (arg :: r.1, r.2)) <$> commandWords action rest

/-- an action that runs a command -/
def readCommand (inDirectory asks : Bool) : Reading Unit := do
  let s ← get
  match commandWords s.last s.args with
  | .error message => fail message
  | .ok (args, many, rest) => do
    set { s with args := rest }
    if args.isEmpty then invalid (if many then "+" else ";")
    else if many then do
      let number := s.collectors.length
      modify ({ · with collectors := s.collectors ++ [⟨number, args, inDirectory⟩] })
      addPrimary (.collect number args inDirectory)
    else addPrimary (.execute args inDirectory asks)

/-- opens a file to which an action writes -/
def outputFile (path : OctetText) : Reading Nat := do
  if path = "/dev/stdout" then pure 1
  else if path = "/dev/stderr" then pure 2
  else
    match ← ask (.openFile path .write openPermissions) with
    | .ok fd => pure fd
    | .error e => fail (quoted path ++ ": " ++ faultText e)

/-! ### formats -/

/-- the letters of properties -/
def propertyLetters : List Char :=
  "abcdDfFgGhHiklmMnpPsStuUyYZ".toList

/-- the parts of a format, and warnings; the fuel is more than its length -/
def formatParts : (fuel : Nat) → List Char → List FormatPart × List OctetText
  | 0, _ => ([], [])
  | _ + 1, [] => ([], [])
  | fuel + 1, '\\' :: cs =>
    let text (t : List Char) (rest : List Char) : List FormatPart × List OctetText :=
      let r := formatParts fuel rest
      (.text (String.ofList t) :: r.1, r.2)
    let isOctal (c : Char) : Bool := 48 ≤ c.toNat && c.toNat < 56
    let ds := (cs.take 3).takeWhile isOctal
    if !ds.isEmpty then
      text [Char.ofNat (ds.foldl (fun n d => n * 8 + (d.toNat - 48)) 0 % 256)]
        (cs.drop ds.length)
    else
      match cs with
      | [] => ([.text "\\"], ["escape `\\' followed by nothing at all"])
      | 'c' :: _ => ([.stop], [])
      | 'a' :: rest => text ['\x07'] rest
      | 'b' :: rest => text ['\x08'] rest
      | 'f' :: rest => text ['\x0c'] rest
      | 'n' :: rest => text ['\n'] rest
      | 'r' :: rest => text ['\r'] rest
      | 't' :: rest => text ['\t'] rest
      | 'v' :: rest => text ['\x0b'] rest
      | '\\' :: rest => text ['\\'] rest
      | c :: rest =>
        let r := formatParts fuel rest
        (.text (String.ofList ['\\', c]) :: r.1,
          ("unrecognized escape `\\" ++ String.ofList [c] ++ "'") :: r.2)
  | fuel + 1, '%' :: '%' :: cs =>
    let r := formatParts fuel cs
    (.text "%" :: r.1, r.2)
  | fuel + 1, '%' :: cs =>
    let flags := cs.takeWhile fun c => ['-', '+', ' ', '#', '0'].contains c
    let rest := cs.drop flags.length
    let width := rest.takeWhile fun c => c.isDigit || c == '.'
    match rest.drop width.length with
    | [] => ([.text (String.ofList ('%' :: cs))], [])
    | c :: rest =>
      let w := digitsValue (width.takeWhile Char.isDigit)
      if (c == 'A' || c == 'C' || c == 'T' || c == 'B') && !rest.isEmpty then
        let r := formatParts fuel (rest.drop 1)
        (.property flags w c (rest.headD ' ') :: r.1, r.2)
      else if propertyLetters.contains c then
        let r := formatParts fuel rest
        (.property flags w c ' ' :: r.1, r.2)
      else
        let r := formatParts fuel rest
        (.text (String.ofList ('%' :: flags ++ width ++ [c])) :: r.1,
          ("unrecognized format directive `%" ++ String.ofList [c] ++ "'") :: r.2)
  | fuel + 1, c :: cs =>
    let r := formatParts fuel cs
    (.text (String.ofList [c]) :: r.1, r.2)

def readFormat (output : Nat) (text : OctetText) : Reading Unit := do
  let (parts, warnings) := formatParts (text.length + 1) text.toList
  (warnings.forM fun w => note ("warning: " ++ w) : Work Unit)
  addPrimary (.format output parts)

/-! ### tests and actions -/

/-- permissions in digits or letters -/
def permissionBits? (text : List Char) : Option Nat :=
  Mode.change? false 0 (String.ofList text) 0

def readPermissions (text : OctetText) : Reading Unit := do
  let read (test : PermissionTest) (cs : List Char) : Reading Unit := do
    match permissionBits? cs with
    | some bits => addPrimary (.permissions test bits)
    | none => fail ("invalid mode " ++ quoted text)
  match text.toList with
  | '-' :: cs => read .allOf cs
  | '/' :: cs => read .anyOf cs
  | cs => read .exactly cs

/-- a depth -/
def depthValue : Reading Nat := do
  let s ← get
  let text ← value
  match decimal? text with
  | some n => pure n
  | none => fail ("Expected a positive decimal integer argument to " ++ s.last ++ ", but got "
      ++ quoted text)

/-- an age in units of time -/
def readAge (unit : Int) : Reading Unit := do
  let s ← get
  let text ← value
  match comparison? text with
  | some (c, rest) =>
    if !rest.isEmpty && rest.head? != some '.' then invalid text
    else
      let start := if s.dayStart then s.midnight else s.now
      addPrimary (.age c unit start)
  | none => invalid text

/-- an owner by name or number; complaints say what it is not -/
def readOwner (what : OctetText) (named? : OctetText → Option Nat) : Reading Unit := do
  let text ← value
  match (named? text).or (decimal? text) with
  | some n => addPrimary (.owner (.exactly n))
  | none => fail (quoted text ++ " is not the name of " ++ what)

/-- the instant of a test for what is newer -/
def newerInstant (spelling : OctetText) : Reading Int := do
  let text ← value
  if spelling.endsWith "t" then
    match Clock.read? (← get).zone (← get).now text with
    | some instant => pure instant
    | none => fail ("I cannot figure out how to interpret " ++ quoted text ++ " as a date or time")
  else return (← referenceStatus text).modified

/-- an option that changes how files are visited holds like a test -/
def setTour (change : Tour → Tour) : Reading Unit := do
  modify fun s => { s with tour := change s.tour }
  addPrimary (.always true)

/-- whether a word is a test for what is newer -/
def isNewer (word : OctetText) : Bool :=
  match word.toList.drop 6 with
  | [x, y] => word.startsWith "-newer" && "aBcm".toList.contains x && "aBcmt".toList.contains y
  | _ => false

/-- reads what belongs to a word -/
def readWord (word : OctetText) : Reading Unit := do
  modify ({ · with last := word })
  let minute : Int := 60 * Clock.nanosPerSecond
  match word with
  | "(" => addWord (.opening false)
  | ")" => addWord (.closing false)
  | "!" => addWord (.not word)
  | "-not" => addWord (.not word)
  | "-a" => addWord (.and word)
  | "-and" => addWord (.and word)
  | "-o" => addWord (.or word)
  | "-or" => addWord (.or word)
  | "," => addWord .both
  | "-name" => do
    let pattern ← value
    addPrimary (.name (patternOf false pattern) false)
  | "-iname" => do
    let pattern ← value
    addPrimary (.name (patternOf true pattern) true)
  | "-path" => do
    let pattern ← value
    addPrimary (.path (patternOf false pattern) false)
  | "-wholename" => do
    let pattern ← value
    addPrimary (.path (patternOf false pattern) false)
  | "-ipath" => do
    let pattern ← value
    addPrimary (.path (patternOf true pattern) true)
  | "-iwholename" => do
    let pattern ← value
    addPrimary (.path (patternOf true pattern) true)
  | "-lname" => do
    let pattern ← value
    addPrimary (.linkTarget (patternOf false pattern) false)
  | "-ilname" => do
    let pattern ← value
    addPrimary (.linkTarget (patternOf true pattern) true)
  | "-regex" => do
    let text ← value
    let r ← regexOf false text
    addPrimary (.described r)
  | "-iregex" => do
    let text ← value
    let r ← regexOf true text
    addPrimary (.described r)
  | "-regextype" => do
    let kind ← value
    if (regexKinds.lookup kind).isNone then
      fail ("Unknown regular expression type " ++ quoted kind ++ "; valid types are "
        ++ ", ".intercalate (regexKinds.map fun k => quoted k.1) ++ ".")
    modify ({ · with regexKind := kind })
    addPrimary (.always true)
  | "-type" => do
    let text ← value
    let letters ← kindLetters "-type" text
    addPrimary (.kind letters)
  | "-xtype" => do
    let text ← value
    let letters ← kindLetters "-xtype" text
    addPrimary (.targetKind letters)
  | "-size" => do
    let text ← value
    match comparison? text with
    | some (c, rest) =>
      match sizeUnit? rest with
      | some unit => addPrimary (.size c unit)
      | none => fail ("invalid -size type `" ++ String.ofList (rest.drop (rest.length - 1)) ++ "'")
    | none =>
      let final := text.toList.getLast?
      if final.all Char.isDigit || final.any ("bcwkMG".toList.contains ·) then invalid text
      else fail ("invalid -size type `" ++ String.ofList final.toList ++ "'")
  | "-empty" => addPrimary .empty
  | "-newer" => do
    let text ← value
    let status ← referenceStatus text
    addPrimary (.newer status.modified)
  | "-anewer" => do
    let text ← value
    let status ← referenceStatus text
    addPrimary (.newer status.modified)
  | "-cnewer" => do
    let text ← value
    let status ← referenceStatus text
    addPrimary (.newer status.modified)
  | "-mtime" => readAge (Clock.secondsPerDay * Clock.nanosPerSecond)
  | "-atime" => readAge (Clock.secondsPerDay * Clock.nanosPerSecond)
  | "-ctime" => readAge (Clock.secondsPerDay * Clock.nanosPerSecond)
  | "-mmin" => readAge minute
  | "-amin" => readAge minute
  | "-cmin" => readAge minute
  | "-perm" => do
    let text ← value
    readPermissions text
  | "-user" => readOwner "a known user" fun name => (accountNamed? name).map (·.number)
  | "-group" => readOwner "an existing group" fun name => (partyNamed? name).map (·.number)
  | "-uid" => do
    let c ← comparisonValue
    addPrimary (.owner c)
  | "-gid" => do
    let c ← comparisonValue
    addPrimary (.owner c)
  | "-nouser" => addPrimary (.always false)
  | "-nogroup" => addPrimary (.always false)
  | "-links" => do
    let c ← comparisonValue
    addPrimary (.links c)
  | "-inum" => do
    let c ← comparisonValue
    addPrimary (.inode c)
  | "-samefile" => do
    let text ← value
    let status ← referenceStatus text
    addPrimary (.sameAs status.id)
  | "-readable" => addPrimary (.permitted Mode.reading)
  | "-writable" => addPrimary (.permitted Mode.writing)
  | "-executable" => addPrimary (.permitted Mode.reaching)
  | "-true" => addPrimary (.always true)
  | "-false" => addPrimary (.always false)
  | "-maxdepth" => do
    let n ← depthValue
    setTour ({ · with maxDepth := some n })
  | "-mindepth" => do
    let n ← depthValue
    setTour ({ · with minDepth := n })
  | "-depth" => setTour ({ · with depthFirst := true })
  | "-d" => setTour ({ · with depthFirst := true })
  | "-follow" => setTour ({ · with followsAll := true })
  | "-daystart" => do
    modify ({ · with dayStart := true })
    addPrimary (.always true)
  | "-mount" => setTour id
  | "-xdev" => setTour id
  | "-noleaf" => setTour id
  | "-warn" => setTour id
  | "-nowarn" => setTour id
  | "-ignore_readdir_race" => setTour id
  | "-noignore_readdir_race" => setTour id
  | "-prune" => addPrimary .prune
  | "-quit" => addPrimary .quit
  | "-delete" => do
    modify fun s => { s with tour := { s.tour with depthFirst := true } }
    addPrimary .delete
  | "-print" => addPrimary (.print 1 "\n")
  | "-print0" => addPrimary (.print 1 "\x00")
  | "-fprint" => do
    let path ← value
    let fd ← outputFile path
    addPrimary (.print fd "\n")
  | "-fprint0" => do
    let path ← value
    let fd ← outputFile path
    addPrimary (.print fd "\x00")
  | "-printf" => do
    let text ← value
    readFormat 1 text
  | "-fprintf" => do
    let path ← value
    let text ← value
    let fd ← outputFile path
    readFormat fd text
  | "-ls" => addPrimary (.list 1)
  | "-fls" => do
    let path ← value
    let fd ← outputFile path
    addPrimary (.list fd)
  | "-exec" => readCommand false false
  | "-execdir" => readCommand true false
  | "-ok" => readCommand false true
  | "-okdir" => readCommand true true
  | word =>
    if isNewer word then do
      let instant ← newerInstant word
      addPrimary (.newer instant)
    else fail ("unknown predicate `" ++ word ++ "'")

/-- whether an argument begins an expression, or stands in one -/
def beginsExpression (isLeading : Bool) (arg : OctetText) : Bool :=
  match arg.toList with
  | ['-'] => false
  | '-' :: _ => true
  | [')'] => !isLeading
  | [','] => !isLeading
  | ['('] => true
  | ['!'] => true
  | _ => false

/-- reads all arguments of an expression -/
def readAll : (fuel : Nat) → Reading Unit
  | 0 => pure ()
  | fuel + 1 => do
    let s ← get
    match s.args with
    | [] => pure ()
    | arg :: args =>
      if !beginsExpression false arg then do
        note ("paths must precede expression: `" ++ arg ++ "'")
        let exists_ := (← ask (.status arg true)).isOk
        if exists_ && !s.last.isEmpty then
          note ("possible unquoted pattern after predicate `" ++ s.last ++ "'?")
        stop 1
      else do
        set { s with args }
        readWord arg
        readAll fuel

/-- an expression that prints what it holds of, unless it says what is done with it -/
def complete (words : List Word) : List Word :=
  let printing : Word := .primary (.print 1 "\n") "-print"
  let replaces (w : Word) : Bool := match w with
    | .primary p _ => p.replacesPrinting
    | _ => false
  if words.isEmpty then [printing]
  else if words.any replaces then words
  else .opening true :: words ++ [.closing true, .and "-a", printing]

/-- an expression with the tour that it makes -/
structure Plan where
  expression : Expression
  tour : Tour
  collectors : List Collector

/-- reads an expression -/
def readExpression (tour : Tour) (args : List OctetText) : Work Plan := do
  let now ← ask .now
  let start : ReaderState := ⟨args, [], tour, [], "findutils-default", false, now, ← localZone, ""⟩
  let (_, s) ← (readAll (args.length + 1)).run start
  match joined (complete s.words.reverse) with
  | .ok e => pure ⟨e, s.tour, s.collectors⟩
  | .error message => fail message

end ShellWorkers.Utility.Finding
