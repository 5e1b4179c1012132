import ShellWorkers.Regex.Groups
import ShellWorkers.Regex.Reader
import ShellWorkers.Script.Builtin.Streams
import ShellWorkers.Script.Condition
import ShellWorkers.Script.Extended.Formats
import ShellWorkers.Script.Extended.Settings

/-!
# Streams and conditions of the extended language

Commands that write, read and test.
-/

/-!
## Commands of the extended language that write and read
-/

namespace ShellWorkers.Script.Extended

open Machine
open ShellWorkers.Script.Builtin (LineReading)
open Text (OctetText)

/-! ### output -/

def echo : Builtin := fun args => do
  say (echoText (← hasFeature "xpg_echo") args)
  pure 0

/-- gives a variable or an element a text by its name -/
def assignNamed (name value : OctetText) : Sh Unit := do
  let d := Declared.ofText name
  if isName d.name.toList && d.value.isNone then Assigned.assignText d.name d.subscript false value
  else abort (notIdentifier name)

/-- writes a text up to the last of some warnings, each of them at its place; `start` is how much
has been written.  What is left of the text. -/
def writeWarned (shows : List Char → Sh Unit) : (start : Nat) → List Char →
    List (Nat × OctetText) → Sh (List Char)
  | _, cs, [] => pure cs
  | start, cs, (place, warning) :: warnings => do
    shows (cs.take (place - start))
    complain warning
    writeWarned shows place (cs.drop (place - start)) warnings

def printf : Builtin := fun args => do
  let o ← readChoices "" "v" args
  let target := valueOf? o 'v'
  match target with
  | some name =>
    if !isName (Declared.ofText name).name.toList then do
      complain (notIdentifier name)
      fail 2
  | none => pure ()
  match o.args with
  | [] => showUsage
  | format :: args => do
    let c ← get
    -- the present counts only where times are written
    let present ← if format.contains '(' then sys .now else pure 0
    let zone := Clock.Zone.ofText (((c.var? "TZ").filter (·.exported)).bind Variable.value?)
    let times : Times := ⟨zone, Int.fdiv present Clock.nanosPerSecond, c.extras.began⟩
    let printed := formatText times format args
    let shows (cs : List Char) : Sh Unit :=
      if target.isNone then say (String.ofList cs) else pure ()
    let rest ← writeWarned shows 0 printed.output.toList printed.warnings
    shows rest
    match target with
    | some name => assignNamed name printed.output
    | none => pure ()
    match printed.fault with
    | some fault => do
      complain fault
      pure 1
    | none => pure (if printed.warnings.all (·.2.startsWith "warning") then 0 else 1)

/-! ### input -/

/-- how a line is read -/
structure LineRules where
  fd : Nat
  /-- backslashes mean nothing -/
  raw : Bool
  /-- what ends the line -/
  ending : Char
  /-- at most as many characters -/
  most : Option Nat
  /-- what ends a line does not -/
  exact : Bool

/-- reads a line octet by octet, and whether it was ended -/
def readRuled (k : LineRules) : (fuel : Nat) → (count : Nat) → (escaped : Bool) → LineReading →
    Sh (List Segment × Bool)
  | 0, _, _, l => pure (l.segments, false)
  | fuel + 1, count, escaped, l => do
    if k.most == some count then pure (l.segments, true)
    else
      match ← sys (.read k.fd 1) with
      | .error e => do
        let c ← get
        let signals ← sys .takeSignals
        modify fun _ => { c with arrived := c.arrived ++ signals }
        if e = .interrupted && signals.isEmpty then readRuled k fuel count escaped l
        else pure (l.segments, false)
      | .ok text =>
        match text.toList with
        | [] => pure (l.segments, false)
        | c :: _ =>
          if escaped then
            if c = '\n' then readRuled k fuel count false l.close
            else readRuled k fuel (count + 1) false (l.protect c)
          else if c = '\\' && !k.raw then readRuled k fuel count true l
          else if c = k.ending && !k.exact then pure (l.segments, true)
          else if c = '\x00' then readRuled k fuel count escaped l
          else readRuled k fuel (count + 1) false { l with chars := c :: l.chars }

/-- gives texts to variables; those that are left over get empty ones -/
def assignInTurn : List OctetText → List OctetText → Sh Unit
  | [], _ => pure ()
  | name :: names, parts => do
    assignNamed name (parts.headD "")
    assignInTurn names (parts.drop 1)

/-- a number that an option has -/
def countOf (o : Builtin.Options) (letter : Char) (fault : OctetText) : Sh (Option Nat) := do
  match valueOf? o letter with
  | none => pure none
  | some text =>
    match number? text with
    | some n => pure (some n)
    | none => abort (text ++ ": " ++ fault)

/-- the descriptor that an option names -/
def descriptorOf (o : Builtin.Options) : Sh Nat := do
  let fd := (← countOf o 'u' "invalid file descriptor specification").getD 0
  match ← sys (.statusOpen fd) with
  | .ok _ => pure fd
  | .error e =>
    if (valueOf? o 'u').isSome then
      abort (toString fd ++ ": invalid file descriptor: " ++ faultText e)
    else pure fd

/-- whether a text is a number with a point -/
def isTimeout (text : OctetText) : Bool :=
  let cs := text.toList
  !cs.isEmpty && cs.all (fun c => c.isDigit || c == '.') && cs.count '.' ≤ 1

def read : Builtin := fun args => do
  let o ← readChoices "ers" "adinNptu" args
  match valueOf? o 't' with
  | some text => if !isTimeout text then abort (text ++ ": invalid timeout specification")
  | none => pure ()
  let most ← countOf o 'n' "invalid number"
  let exactly ← countOf o 'N' "invalid number"
  let fd ← descriptorOf o
  let names := match valueOf? o 'a' with
    | some name => [name]
    | none => o.args
  match names.find? fun n => !isName (Declared.ofText n).name.toList with
  | some name => abort (notIdentifier name)
  | none =>
    if valueOf? o 't' == some "0" then pure 0
    else do
      let ending := match valueOf? o 'd' with
        | some text => (text.toList.head?).getD '\x00'
        | none => '\n'
      let rules : LineRules := ⟨fd, o.has 'r', ending, if exactly.isSome then exactly else most,
        exactly.isSome⟩
      let (line, isEnded) ← readRuled rules lineFuel 0 false ⟨[], []⟩
      let separators := (← get).separators
      match valueOf? o 'a' with
      | some name => do
        let fields := (fieldsOf separators line).map symbolsText
        Assigned.assignElements name false (fields.map .next)
      | none =>
        if o.args.isEmpty then assignNamed "REPLY" (segmentsText line)
        else if exactly.isSome then assignInTurn o.args [segmentsText line]
        else assignInTurn o.args (partsOf separators o.args.length line)
      pure (if isEnded then 0 else 1)
where
  lineFuel : Nat := 1000000000

/-- reads lines up to the end or up to a number of them; `kept` says whether what ends a line
belongs to it -/
def readLines (fd : Nat) (ending : Char) (kept : Bool) : (fuel : Nat) → (left : Option Nat) →
    (line : List Char) → List OctetText → Sh (List OctetText)
  | 0, _, _, lines => pure lines.reverse
  | fuel + 1, left, line, lines => do
    if left == some 0 then pure lines.reverse
    else
      let finished (line : List Char) : List OctetText := String.ofList line.reverse :: lines
      match ← sys (.read fd 1) with
      | .error _ => pure lines.reverse
      | .ok text =>
        match text.toList with
        | [] => pure (if line.isEmpty then lines else finished line).reverse
        | c :: _ =>
          if c = ending then
            readLines fd ending kept fuel (left.map (· - 1)) []
              (finished (if kept then c :: line else line))
          else readLines fd ending kept fuel left (c :: line) lines

/-- lines become the elements of an array -/
def mapfile : Builtin := fun args => do
  let o ← readChoices "t" "dnOsuCc" args
  let fd ← descriptorOf o
  let most ← countOf o 'n' "invalid line count"
  let skipped := (← countOf o 's' "invalid line count").getD 0
  let origin ← countOf o 'O' "invalid array origin"
  let name := (o.args.head?).getD "MAPFILE"
  if !isName name.toList then abort (notIdentifier name)
  else do
    let ending := match valueOf? o 'd' with
      | some text => (text.toList.head?).getD '\x00'
      | none => '\n'
    let limit := match most with
      | some 0 => none
      | some n => some (n + skipped)
      | none => none
    let lines ← readLines fd ending (!o.has 't') fuel limit [] []
    let lines := lines.drop skipped
    let start := origin.getD 0
    let given := match lines with
      | [] => []
      | line :: lines => Element.placed (toString start) false line :: lines.map Element.next
    Assigned.assignElements name origin.isSome given
    pure 0
where
  fuel : Nat := 1000000000

end ShellWorkers.Script.Extended

/-!
## Conditions of the extended language

`test` looks at the number of its arguments first: up to four of them have one reading each.  The
tests between double brackets have been read with the script; their words are expanded when they
are needed, so that the second side of a junction may not be.

* `check`       the command `test`;
* `holdsTest`   a test between double brackets.
-/

namespace ShellWorkers.Script.Extended

open Machine
open Text (OctetText)

/-! ### operators -/

/-- an answer of a check on files, or the failure of the command -/
def runCheck (check : Condition.Check Bool) : Sh Bool := do
  match ← ExceptT.lift (StateT.lift check.run) with
  | .ok b => pure b
  | .error message => do
    complain message
    fail 2

/-- whether a name, maybe with a subscript, stands for something -/
def isSetName (name : OctetText) : Sh Bool := do
  let c ← get
  match Context.splitSubscript name with
  | (base, some subscript) =>
    match c.seen? (c.meant base) with
    | none => pure false
    | some v =>
      if subscript = "@" || subscript = "*" then pure !v.entries.isEmpty
      else
        match ← keyOf base subscript with
        | some key => pure (v.element? key).isSome
        | none => pure false
  | (base, none) =>
    if !base.isEmpty && base.toList.all Char.isDigit then pure (c.parameter? base).isSome
    else pure ((c.seen? (c.meant base)).bind Variable.value?).isSome

/-- the operators on one operand -/
def unaryOperators : List OctetText :=
  ["-a", "-b", "-c", "-d", "-e", "-f", "-g", "-h", "-k", "-p", "-r", "-s", "-t", "-u", "-w", "-x",
    "-G", "-L", "-N", "-O", "-S", "-n", "-o", "-R", "-v", "-z"]

def isUnary (word : OctetText) : Bool := unaryOperators.contains word

def isBinary (word : OctetText) : Bool :=
  word == "==" || Condition.isBinary word

def unary (op operand : OctetText) : Sh Bool := do
  match op with
  | "-a" => runCheck (Condition.unary "-e" operand)
  | "-N" => pure false
  | "-t" => pure false
  | "-v" => isSetName operand
  | "-R" => return ((← get).var? operand).any fun v => v.traits.isName && v.value?.isSome
  | "-o" => do
    let on := (← get).settings
    pure ((settingOfName? operand).any on.contains)
  | "-S" => pure false
  | op => runCheck (Condition.unary op operand)

/-- a number that an operand has to be -/
def operandNumber (text : OctetText) : Sh Int :=
  match integer? text with
  | some n => pure n
  | none => do
    complain (text ++ ": integer expression expected")
    fail 2

/-- the comparison of numbers that an operator is -/
def comparison? (op : OctetText) : Option (Int → Int → Bool) :=
  match op with
  | "-eq" => some (· == ·)
  | "-ne" => some (· != ·)
  | "-lt" => some fun a b => decide (a < b)
  | "-le" => some fun a b => decide (a ≤ b)
  | "-gt" => some fun a b => decide (b < a)
  | "-ge" => some fun a b => decide (b ≤ a)
  | _ => none

def binary (left op right : OctetText) : Sh Bool := do
  match comparison? op with
  | some p => do
    let a ← operandNumber left
    let b ← operandNumber right
    pure (p a b)
  | none => runCheck (Condition.binary left (if op = "==" then "=" else op) right)

/-! ### `test` -/

def faulty {α : Type} (message : OctetText) : Sh α := do
  complain message
  fail 2

mutual

/-- a part of an expression without junctions, and the words behind it -/
def part : (fuel : Nat) → List OctetText → Sh (Bool × List OctetText)
  | 0, words => pure (false, words)
  | _ + 1, [] => faulty "argument expected"
  | fuel + 1, word :: rest => do
    if word = "!" then do
      let (b, rest) ← part fuel rest
      pure (!b, rest)
    else if word = "(" then do
      let (b, rest) ← either fuel rest
      match rest with
      | ")" :: rest => pure (b, rest)
      | [] => faulty "\x60)' expected"
      | found :: _ => faulty ("\x60)' expected, found " ++ found)
    else
      match rest with
      | op :: right :: others =>
        if isBinary op then return (← binary word op right, others)
        else plain word rest
      | _ => plain word rest

/-- a part that is no operation on two operands -/
def plain (word : OctetText) (rest : List OctetText) : Sh (Bool × List OctetText) :=
  if word.startsWith "-" && word.length = 2 then
    if isUnary word then
      match rest with
      | operand :: others => do return (← unary word operand, others)
      | [] => faulty "argument expected"
    else faulty (word ++ ": unary operator expected")
  else pure (!word.isEmpty, rest)

/-- parts joined by `-a` -/
def both : (fuel : Nat) → List OctetText → Sh (Bool × List OctetText)
  | 0, words => pure (false, words)
  | fuel + 1, words => do
    let (first, rest) ← part fuel words
    match rest with
    | "-a" :: rest => do
      let (second, rest) ← both fuel rest
      pure (first && second, rest)
    | rest => pure (first, rest)

/-- parts joined by `-o` -/
def either : (fuel : Nat) → List OctetText → Sh (Bool × List OctetText)
  | 0, words => pure (false, words)
  | fuel + 1, words => do
    let (first, rest) ← both fuel words
    match rest with
    | "-o" :: rest => do
      let (second, rest) ← either fuel rest
      pure (first || second, rest)
    | rest => pure (first, rest)

end

/-- an expression that has to be read to its end -/
def wholeExpression (words : List OctetText) : Sh Bool := do
  let (b, rest) ← either (4 * words.length + 4) words
  if rest.isEmpty then pure b else faulty "too many arguments"

/-- whether two arguments hold -/
def holdsTwo (op operand : OctetText) : Sh Bool :=
  if op = "!" then pure operand.isEmpty
  else if isUnary op then unary op operand
  else faulty (op ++ ": unary operator expected")

/-- whether three arguments hold -/
def holdsThree (a op b : OctetText) : Sh Bool :=
  if isBinary op then binary a op b
  else if op = "-a" then pure (!a.isEmpty && !b.isEmpty)
  else if op = "-o" then pure (!a.isEmpty || !b.isEmpty)
  else if a = "!" then do return !(← holdsTwo op b)
  else if a = "(" && b = ")" then pure !op.isEmpty
  else faulty (op ++ ": binary operator expected")

/-- whether the arguments hold as a condition -/
def holds (args : List OctetText) : Sh Bool :=
  match args with
  | [] => pure false
  | [a] => pure !a.isEmpty
  | [op, operand] => holdsTwo op operand
  | [a, op, b] => holdsThree a op b
  | ["!", a, op, b] => do return !(← holdsThree a op b)
  | ["(", op, operand, ")"] => holdsTwo op operand
  | args => wholeExpression args

def check : Builtin := fun args => do return if ← holds args then 0 else 1

def bracket : Builtin := fun args =>
  match Condition.bracketed? args with
  | some args => check args
  | none => faulty "missing \x60]'"

/-! ### tests between double brackets -/

/-- the characters that mean something in a regular expression -/
def isRegexSign (c : Char) : Bool :=
  ['.', '[', ']', '*', '+', '?', '(', ')', '|', '^', '$', '\\', '{', '}'].contains c

/-- the regular expression that expanded symbols are: quoted characters stand for themselves -/
def regexText (ss : List Symbol) : List Char :=
  ss.flatMap fun
    | .char c quoted => if quoted && isRegexSign c then ['\\', c] else [c]
    | .mark => []

/-- how regular expressions of tests are written -/
def testDialect (folds : Bool) : Regex.Dialect :=
  { Regex.Dialect.extendedForm with folds := folds, looseIntervals := true }

/-- keeps what a regular expression has matched, with its groups -/
def keepMatch (groups : Nat) (m : Option Regex.Match) : Sh Unit :=
  let texts := match m with
    | some m => (List.range (groups + 1)).map fun n => String.ofList ((m.group? n).getD [])
    | none => []
  modify (·.putVariable ((Variable.ofText "BASH_REMATCH" none false false false).withItems
    (Context.listItems texts)))

/-- shows a test before it is done -/
abbrev ShowTest := OctetText → Sh Unit

/-- a text as it is shown in a test -/
def shownOperand (text : OctetText) : OctetText := if text.isEmpty then "''" else text

/-- whether a test holds; what `show` gets is the test with its words expanded -/
def holdsTest (runner : Runner) (display : ShowTest) : Test → Sh Bool
  | .nonempty w => do
    let text ← expandText runner w
    display ("-n " ++ shownOperand text)
    pure !text.isEmpty
  | .unary op w => do
    let text ← expandText runner w
    display (op ++ " " ++ shownOperand text)
    unary op text
  | .negation t => do return !(← holdsTest runner (fun text => display ("! " ++ text)) t)
  | .conjunction a b => do
    if ← holdsTest runner display a then holdsTest runner display b else pure false
  | .disjunction a b => do
    if ← holdsTest runner display a then pure true else holdsTest runner display b
  | .binary op left right => do
    let text ← expandText runner left
    let segments ← wordSegments runner .text true right
    let symbols := segmentsSymbols segments
    let other := segmentsText segments
    display (shownOperand text ++ " " ++ op ++ " " ++ shownOperand other)
    let folds ← hasFeature "nocasematch"
    let isDescribed : Bool :=
      GroupPattern.matchesText folds (GroupPattern.ofMarked true (symbolsMarked symbols)) text.toList
    match op with
    | "=" => pure isDescribed
    | "==" => pure isDescribed
    | "!=" => pure !isDescribed
    | "=~" =>
      match Regex.read (testDialect folds) (regexText symbols) with
      | .error _ => fail 2
      | .ok r => do
        let m := (r.regex.find? text.toList).map (·.withGroups r.regex)
        keepMatch r.groups m
        pure m.isSome
    | op =>
      match comparison? op with
      | some p => do
        let a ← compute text
        let b ← compute other
        pure (p a b)
      | none => binary text op other

end ShellWorkers.Script.Extended
