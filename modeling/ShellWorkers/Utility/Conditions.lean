import ShellWorkers.Regex.Groups
import ShellWorkers.Regex.Reader
import ShellWorkers.Script.Condition
import ShellWorkers.Utility.Options
import ShellWorkers.Utility.Work

/-!
# Conditions and expressions

Programs whose arguments are a condition or an expression.
-/

/-!
## Conditions as programs

`test` and `[` say by their code whether a condition holds.  How many arguments there are says how
they are read: up to four of them are never taken for what they would be in a longer expression.
-/

namespace ShellWorkers.Utility

open Machine
open Text (OctetText)

namespace TestExpression

/-- an answer, or what is wrong with the expression -/
abbrev Check := ExceptT OctetText Calls

def binaryOperators : List OctetText :=
  ["=", "==", "!=", "-nt", "-ot", "-ef", "-eq", "-ne", "-lt", "-le", "-gt", "-ge"]

def isBinary (word : OctetText) : Bool := binaryOperators.contains word

def unaryOperators : List OctetText :=
  ["-b", "-c", "-d", "-e", "-f", "-g", "-G", "-h", "-k", "-L", "-n", "-N", "-O", "-p", "-r", "-s",
    "-S", "-t", "-u", "-w", "-x", "-z"]

/-- the last argument, behind which one is missing -/
def beyond {α : Type} (words : List OctetText) : Check α :=
  throw ("missing argument after " ++ quoted (words.getLastD ""))

def number (text : OctetText) : Check Int :=
  match Script.Condition.integer? text with
  | some n => pure n
  | none => throw ("invalid integer " ++ quoted text)

/-- an operator between two operands -/
def binary (left op right : OctetText) : Check Bool := do
  let numbers (p : Int → Int → Bool) : Check Bool := do
    let a ← number left
    let b ← number right
    return p a b
  match op with
  | "-eq" => numbers (· == ·)
  | "-ne" => numbers (· != ·)
  | "-lt" => numbers fun a b => decide (a < b)
  | "-le" => numbers fun a b => decide (a ≤ b)
  | "-gt" => numbers fun a b => decide (b < a)
  | "-ge" => numbers fun a b => decide (b ≤ a)
  | "==" => Script.Condition.binary left "=" right
  | op => Script.Condition.binary left op right

/-- an operator before an operand -/
def unary (op operand : OctetText) : Check Bool :=
  if op = "-N" then pure false
  else if op = "-t" then do
    let _ ← number operand
    pure false
  else Script.Condition.unary op operand

/-- whether a word has the form of an operator before an operand -/
def looksUnary (word : OctetText) : Bool := word.startsWith "-" && word.length = 2

/-- an operator and its operand at the beginning of words; `all` are all of the arguments -/
def unaryPart (all words : List OctetText) : Check (Bool × List OctetText) :=
  match words with
  | op :: rest =>
    if !unaryOperators.contains op then throw (quoted op ++ ": unary operator expected")
    else
      match rest with
      | operand :: rest => do return (← unary op operand, rest)
      | [] => beyond all
  | [] => beyond all

/-- the length of words that begin with an operand, with `-l` before it -/
def operandOf (isLength : Bool) (word : OctetText) : OctetText :=
  if isLength then toString word.length else word

/-- two operands and the operator between them at the beginning of words -/
def binaryPart (all words : List OctetText) : Check (Bool × List OctetText) :=
  let (isLength, words) := match words with
    | "-l" :: rest => if 3 ≤ rest.length then (true, rest) else (false, words)
    | words => (false, words)
  match words with
  | left :: op :: "-l" :: right :: rest => do
    return (← binary (operandOf isLength left) op (toString right.length), rest)
  | left :: op :: right :: rest => do return (← binary (operandOf isLength left) op right, rest)
  | _ => beyond all

mutual

/-- the first `count` words as a condition, and what is behind it -/
def several : (fuel : Nat) → (all : List OctetText) → (count : Nat) → List OctetText →
    Check (Bool × List OctetText)
  | 0, _, _, _ => throw "too many arguments"
  | fuel + 1, all, count, words =>
    match count, words with
    | 1, word :: rest => pure (!word.isEmpty, rest)
    | 2, _ => two fuel all words
    | 3, left :: op :: right :: rest =>
      if isBinary op then binaryPart all words
      else if left = "!" then do
        let (b, rest) ← two fuel all (op :: right :: rest)
        pure (!b, rest)
      else if left = "(" && right = ")" then pure (!op.isEmpty, rest)
      else if op = "-a" || op = "-o" then disjunction fuel all words
      else throw (quoted op ++ ": binary operator expected")
    | 4, "!" :: rest => do
      let (b, rest) ← several fuel all 3 rest
      pure (!b, rest)
    | 4, "(" :: rest => do
      if (rest.drop 2).head? == some ")" then
        let (b, rest) ← two fuel all rest
        pure (b, rest.drop 1)
      else disjunction fuel all words
    | _, words => disjunction fuel all words

/-- two words as a condition -/
def two : (fuel : Nat) → (all : List OctetText) → List OctetText →
    Check (Bool × List OctetText)
  | 0, _, _ => throw "too many arguments"
  | _ + 1, all, words =>
    match words with
    | "!" :: word :: rest => pure (word.isEmpty, rest)
    | op :: _ => if looksUnary op then unaryPart all words else beyond all
    | [] => beyond all

/-- conditions joined by `-o` -/
def disjunction : (fuel : Nat) → (all : List OctetText) → List OctetText →
    Check (Bool × List OctetText)
  | 0, _, _ => throw "too many arguments"
  | fuel + 1, all, words => do
    if words.isEmpty then beyond all
    let (b, rest) ← conjunction fuel all words
    match rest with
    | "-o" :: rest => do
      let (other, rest) ← disjunction fuel all rest
      pure (b || other, rest)
    | rest => pure (b, rest)

/-- conditions joined by `-a` -/
def conjunction : (fuel : Nat) → (all : List OctetText) → List OctetText →
    Check (Bool × List OctetText)
  | 0, _, _ => throw "too many arguments"
  | fuel + 1, all, words => do
    let (b, rest) ← term fuel all words
    match rest with
    | "-a" :: rest => do
      let (other, rest) ← conjunction fuel all rest
      pure (b && other, rest)
    | rest => pure (b, rest)

/-- a condition without junctions -/
def term : (fuel : Nat) → (all : List OctetText) → List OctetText →
    Check (Bool × List OctetText)
  | 0, _, _ => throw "too many arguments"
  | fuel + 1, all, words =>
    match words with
    | [] => beyond all
    | "!" :: rest => do
      let (b, rest) ← term fuel all rest
      pure (!b, rest)
    | "(" :: inner => do
      if inner.isEmpty then beyond all
      let untilClosing := ((inner.drop 1).takeWhile (· != ")")).length + 1
      let count := if 4 ≤ untilClosing then inner.length else untilClosing
      let (b, rest) ← several fuel all count inner
      match rest with
      | ")" :: rest => pure (b, rest)
      | [] => throw (quoted ")" ++ " expected")
      | word :: _ => throw (quoted ")" ++ " expected, found " ++ quoted word)
    | word :: rest =>
      let isBinaryLength := word = "-l" && 3 ≤ rest.length && isBinary ((rest.drop 1).headD "")
      let isBinaryHere := 2 ≤ rest.length && isBinary (rest.headD "")
      if isBinaryLength || isBinaryHere then binaryPart all words
      else if looksUnary word then unaryPart all words
      else pure (!word.isEmpty, rest)

end

/-- whether all of the arguments hold as a condition -/
def holds (args : List OctetText) : Check Bool := do
  if args.isEmpty then pure false
  else
    let (b, rest) ← several (8 * args.length + 8) args args.length args
    match rest with
    | [] => pure b
    | word :: _ => throw ("extra argument " ++ quoted word)

end TestExpression

def test (args : List OctetText) : Work Unit := do
  match ← ExceptT.lift (StateT.lift (TestExpression.holds args).run) with
  | .ok b => if !b then setCode 1
  | .error message => failWith 2 message

def bracket (args : List OctetText) : Work Unit := do
  match Script.Condition.bracketed? args with
  | some args => test args
  | none => failWith 2 ("missing " ++ quoted "]")

end ShellWorkers.Utility

/-!
## Expressions as arguments

`expr` writes the value of the expression that its arguments spell: numbers of any size,
comparisons, parts of texts, and texts that are described by regular expressions.  An operand
whose value is not needed is read, but not worked out.
-/

namespace ShellWorkers.Utility

open Machine
open Text (OctetText)

namespace Expr

/-- a value: a number, or a text that may spell one -/
inductive Value where
  | number (n : Int)
  | text (text : OctetText)

/-- the number that digits behind an optional sign spell -/
def integer? (text : OctetText) : Option Int :=
  let digits (ds : List Char) : Option Int :=
    if !ds.isEmpty && ds.all Char.isDigit then
      some (ds.foldl (fun n c => n * 10 + (c.toNat - 48 : Nat)) (0 : Nat) : Nat)
    else none
  match text.toList with
  | '-' :: ds => (digits ds).map (- ·)
  | ds => digits ds

namespace Value

def toText : Value → OctetText
  | .number n => toString n
  | .text t => t

def toNumber? : Value → Option Int
  | .number n => some n
  | .text t => integer? t

/-- nothing, or zero -/
def isNull : Value → Bool
  | .number n => n == 0
  | .text t =>
    match t.toList with
    | [] => true
    | '-' :: ds => !ds.isEmpty && ds.all (· == '0')
    | ds => ds.all (· == '0')

end Value

/-- what is left of the arguments, and the one that has been read last -/
structure Rest where
  last : OctetText
  args : List OctetText

/-- reading and working out, which can end with a message -/
abbrev Reading := StateT Rest (Except OctetText)

def refuse {α : Type} (message : OctetText) : Reading α := StateT.lift (.error message)

/-- the next argument, which has to be there -/
def next : Reading OctetText := do
  let s ← get
  match s.args with
  | [] => refuse ("syntax error: missing argument after " ++ quoted s.last)
  | arg :: args => do
    set (Rest.mk arg args)
    pure arg

/-- reads one of some words if it comes next -/
def oneOf? (words : List OctetText) : Reading (Option OctetText) := do
  match (← get).args with
  | arg :: args =>
    if words.contains arg then do
      set (Rest.mk arg args)
      pure (some arg)
    else pure none
  | [] => pure none

/-! ### operations -/

/-- how regular expressions are written -/
def dialect : Regex.Dialect := { Regex.Dialect.basic with strict := false, emptyRanges := true }

/-- how a regular expression describes the beginning of a text: the text of the first group, or
else the length of what is described -/
def matched (text pattern : OctetText) : Except OctetText Value :=
  match Regex.read dialect pattern.toList with
  | .error fault => .error fault.message
  | .ok ⟨regex, groups, _⟩ =>
    match regex.atBeginning? text.toList with
    | none => .ok (if groups = 0 then .number 0 else .text "")
    | some m =>
      if groups = 0 then .ok (.number m.text.length)
      else .ok (.text (String.ofList (((m.withGroups regex).group? 1).getD [])))

/-- the place of the first character of a text that is one of some, counted from 1 -/
def indexOf (text chars : OctetText) : Nat :=
  match text.toList.findIdx? fun c => chars.contains c with
  | some i => i + 1
  | none => 0

/-- a part of a text from a place that is counted from 1 -/
def part (text : OctetText) (place length : Int) : OctetText :=
  if place ≤ 0 || length ≤ 0 then ""
  else String.ofList ((text.toList.drop (place.toNat - 1)).take length.toNat)

/-- an operation on numbers -/
def calculate (op : OctetText) (a b : Value) : Except OctetText Value :=
  match a.toNumber?, b.toNumber? with
  | some x, some y =>
    match op with
    | "+" => .ok (.number (x + y))
    | "-" => .ok (.number (x - y))
    | "*" => .ok (.number (x * y))
    | "/" => if y = 0 then .error "division by zero" else .ok (.number (x.tdiv y))
    | _ => if y = 0 then .error "division by zero" else .ok (.number (x.tmod y))
  | _, _ => .error "non-integer argument"

/-- how two values compare: as numbers if both are, else as texts -/
def order (a b : Value) : Ordering :=
  match integer? a.toText, integer? b.toText with
  | some x, some y => compare x y
  | _, _ => compareOfLessAndEq (a.toText.toList.map Char.toNat) (b.toText.toList.map Char.toNat)

def compared (op : OctetText) (a b : Value) : Value :=
  let o := order a b
  let holds : Bool := match op with
    | "<" => o == .lt
    | "<=" => o != .gt
    | "!=" => o != .eq
    | ">=" => o != .lt
    | ">" => o == .gt
    | _ => o == .eq
  .number (if holds then 1 else 0)

/-! ### expressions

`wanted` says that the value is needed. -/

/-- operands with operators of one level between them; `operand` reads an operand -/
def level (operators : List OctetText) (operand : Reading Value)
    (combine : OctetText → Value → Value → Except OctetText Value) :
    (fuel : Nat) → Value → Reading Value
  | 0, v => pure v
  | fuel + 1, v => do
    match ← oneOf? operators with
    | none => pure v
    | some op => do
      let w ← operand
      let v ← StateT.lift (combine op v w)
      level operators operand combine fuel v

/-- an operation that is carried out only if its value is needed -/
def ifWanted (wanted : Bool) (op : Value → Value → Except OctetText Value) (a b : Value) :
    Except OctetText Value := if wanted then op a b else .ok a

mutual

/-- a whole expression: alternatives, of which the first is taken that is not null -/
def expression : (fuel : Nat) → (wanted : Bool) → Reading Value
  | 0, _ => refuse "syntax error"
  | fuel + 1, wanted => do
    let first ← conjunction fuel wanted
    alternatives fuel wanted first

def alternatives : (fuel : Nat) → (wanted : Bool) → Value → Reading Value
  | 0, _, v => pure v
  | fuel + 1, wanted, v => do
    match ← oneOf? ["|"] with
    | none => pure v
    | some _ => do
      let w ← conjunction fuel (wanted && v.isNull)
      alternatives fuel wanted
        (if !v.isNull then v else if w.isNull then .number 0 else w)

/-- values of which none is null, or zero -/
def conjunction : (fuel : Nat) → (wanted : Bool) → Reading Value
  | 0, _ => refuse "syntax error"
  | fuel + 1, wanted => do
    let first ← comparison fuel wanted
    conjuncts fuel wanted first

def conjuncts : (fuel : Nat) → (wanted : Bool) → Value → Reading Value
  | 0, _, v => pure v
  | fuel + 1, wanted, v => do
    match ← oneOf? ["&"] with
    | none => pure v
    | some _ => do
      let w ← comparison fuel (wanted && !v.isNull)
      conjuncts fuel wanted (if v.isNull || w.isNull then .number 0 else v)

def comparison : (fuel : Nat) → (wanted : Bool) → Reading Value
  | 0, _ => refuse "syntax error"
  | fuel + 1, wanted => do
    let first ← sum fuel wanted
    level ["<", "<=", "=", "==", "!=", ">=", ">"] (sum fuel wanted)
      (fun op a b => .ok (if wanted then compared op a b else .number 0)) fuel first

def sum : (fuel : Nat) → (wanted : Bool) → Reading Value
  | 0, _ => refuse "syntax error"
  | fuel + 1, wanted => do
    let first ← product fuel wanted
    level ["+", "-"] (product fuel wanted) (fun op => ifWanted wanted (calculate op)) fuel first

def product : (fuel : Nat) → (wanted : Bool) → Reading Value
  | 0, _ => refuse "syntax error"
  | fuel + 1, wanted => do
    let first ← matching fuel wanted
    level ["*", "/", "%"] (matching fuel wanted) (fun op => ifWanted wanted (calculate op)) fuel
      first

def matching : (fuel : Nat) → (wanted : Bool) → Reading Value
  | 0, _ => refuse "syntax error"
  | fuel + 1, wanted => do
    let first ← function fuel wanted
    level [":"] (function fuel wanted)
      (fun _ => ifWanted wanted fun a b => matched a.toText b.toText) fuel first

/-- a function with its operands, or an operand -/
def function : (fuel : Nat) → (wanted : Bool) → Reading Value
  | 0, _ => refuse "syntax error"
  | fuel + 1, wanted => do
    match ← oneOf? ["+", "length", "match", "index", "substr"] with
    | some "+" => .text <$> next
    | some "length" => do
      let a ← function fuel wanted
      pure (.number a.toText.length)
    | some "match" => do
      let a ← function fuel wanted
      let b ← function fuel wanted
      StateT.lift (ifWanted wanted (fun a b => matched a.toText b.toText) a b)
    | some "index" => do
      let a ← function fuel wanted
      let b ← function fuel wanted
      pure (.number (indexOf a.toText b.toText))
    | some _ => do
      let a ← function fuel wanted
      let place ← function fuel wanted
      let length ← function fuel wanted
      pure (.text (match place.toNumber?, length.toNumber? with
        | some p, some n => part a.toText p n
        | _, _ => ""))
    | none =>
      match ← next with
      | "(" => do
        let v ← expression fuel wanted
        let s ← get
        match s.args with
        | [] => refuse ("syntax error: expecting ')' after " ++ quoted s.last)
        | ")" :: args => do
          set (Rest.mk ")" args)
          pure v
        | arg :: _ => refuse ("syntax error: expecting ')' instead of " ++ quoted arg)
      | ")" => refuse "syntax error: unexpected ')'"
      | text => pure (.text text)

end

/-- the value that arguments spell -/
def evaluate (args : List OctetText) : Except OctetText Value := do
  let (v, s) ← (expression (8 * args.length + 8) true).run ⟨"", args⟩
  match s.args with
  | [] => .ok v
  | arg :: _ => .error ("syntax error: unexpected argument " ++ quoted arg)

end Expr

def expr (args : List OctetText) : Work Unit := do
  let args := if args.head? == some "--" then args.drop 1 else args
  if args.isEmpty then misused 2 "missing operand"
  match Expr.evaluate args with
  | .error message => failWith 2 message
  | .ok v => do
    putLine v.toText
    if v.isNull then setCode 1

end ShellWorkers.Utility
