import ShellWorkers.Script.State

/-!
# Arithmetic of a shell

Expressions over whole numbers of 64 bits with variables and the usual operators, by their
precedence.  An expression is read into a tree.  What is wrong with it has its place in the tree,
so that an expression is computed up to where it is at fault: of two faults the first one counts,
and assignments before it have been made.

* `Expression.ofText`   the tree of a text;
* `Expression.value`    its value in a shell.
-/

namespace ShellWorkers.Script

open Text (OctetText)

/-- the operators on two numbers -/
inductive ArithmeticOperator where
  | add | sub | mul | div | rem
  | lt | le | gt | ge | eq | ne
  | bitAnd | bitOr | bitXor | shiftLeft | shiftRight
  deriving DecidableEq, Repr

inductive Expression where
  | number (n : Int)
  | variable (name : OctetText)
  | negative (e : Expression)
  | complement (e : Expression)
  | logicalNot (e : Expression)
  | binary (op : ArithmeticOperator) (a b : Expression)
  | conjunction (a b : Expression)
  | disjunction (a b : Expression)
  | choice (test yes no : Expression)
  | assignment (name : OctetText) (op : Option ArithmeticOperator) (e : Expression)
  /-- no expression begins here -/
  | fault (message : OctetText)
  /-- something is wrong behind an expression -/
  | spoiled (e : Expression) (message : OctetText)
  deriving Repr

/-! ## numbers -/

/-- the whole number of 64 bits with the same remainder -/
def wrap (n : Int) : Int := Int.bmod n (Nat.pow 2 64)

/-- the greatest number, and the least -/
def greatest : Int := 9223372036854775807
def least : Int := -9223372036854775808

def truth (b : Bool) : Int := if b then 1 else 0

def digitIn? (base : Nat) (c : Char) : Option Nat :=
  let n := if c.isDigit then c.toNat - 48
    else if c.isLower then c.toNat - 87
    else if c.isUpper then c.toNat - 55
    else base
  if n < base then some n else none

/-- the digits of a base that a text starts with, as a number, and the rest -/
def digitsIn (base : Nat) : Nat → List Char → Nat × List Char
  | n, [] => (n, [])
  | n, c :: cs =>
    match digitIn? base c with
    | some d => digitsIn base (n * base + d) cs
    | none => (n, c :: cs)

/-- the number that a text starts with, its base told by how it begins, and the rest -/
def leadingNumber (cs : List Char) : Nat × List Char :=
  match cs with
  | '0' :: x :: d :: rest =>
    if (x == 'x' || x == 'X') && (digitIn? 16 d).isSome then digitsIn 16 0 (d :: rest)
    else digitsIn 8 0 (x :: d :: rest)
  | '0' :: rest => digitsIn 8 0 rest
  | cs => digitsIn 10 0 cs

/-- the number that the value of a variable stands for; an empty one is zero -/
def valueNumber? (text : OctetText) : Option Int :=
  let cs := text.toList.dropWhile isNumberBlank
  let (negative, ds) := match cs with
    | '-' :: ds => (true, ds)
    | '+' :: ds => (false, ds)
    | ds => (false, ds)
  match ds with
  | [] => if cs.isEmpty then some 0 else none
  | d :: _ =>
    let (n, rest) := leadingNumber ds
    let n : Int := if negative then -n else n
    if d.isDigit && (rest.dropWhile isNumberBlank).isEmpty && least ≤ n && n ≤ greatest then some n
    else none

/-! ## tokens -/

inductive ArithmeticToken where
  | number (n : Int)
  | name (name : OctetText)
  | operator (op : ArithmeticOperator)
  /-- an assignment, maybe of what an operator yields -/
  | assign (op : Option ArithmeticOperator)
  | and
  | or
  | not
  | complement
  | question
  | colon
  | opening
  | closing
  /-- what is no token -/
  | bad
  deriving DecidableEq, Repr

/-- the signs, those that begin with others first, and whether an equals sign makes an assignment
of them -/
def arithmeticSigns : List (List Char × ArithmeticToken × Bool) :=
  [(['|', '|'], .or, false), (['&', '&'], .and, false), (['=', '='], .operator .eq, false),
    (['!', '='], .operator .ne, false), (['<', '='], .operator .le, false),
    (['>', '='], .operator .ge, false), (['<', '<'], .operator .shiftLeft, true),
    (['>', '>'], .operator .shiftRight, true), (['<'], .operator .lt, false),
    (['>'], .operator .gt, false), (['|'], .operator .bitOr, true),
    (['&'], .operator .bitAnd, true), (['^'], .operator .bitXor, true),
    (['+'], .operator .add, true), (['-'], .operator .sub, true), (['*'], .operator .mul, true),
    (['/'], .operator .div, true), (['%'], .operator .rem, true), (['='], .assign none, false),
    (['!'], .not, false), (['~'], .complement, false), (['?'], .question, false),
    ([':'], .colon, false), (['('], .opening, false), ([')'], .closing, false)]

/-- the sign that a text starts with, and the rest -/
def sign? (cs : List Char) : Option (ArithmeticToken × List Char) :=
  arithmeticSigns.findSome? fun (sign, token, assigns) =>
    if cs.take sign.length = sign then
      match token, assigns, cs.drop sign.length with
      | .operator op, true, '=' :: rest => some (.assign (some op), rest)
      | token, _, rest => some (token, rest)
    else none

/-- the tokens of a text, up to what is none; the fuel is at least its length -/
def arithmeticTokens : (fuel : Nat) → List Char → List ArithmeticToken
  | 0, _ => []
  | _ + 1, [] => []
  | fuel + 1, c :: cs =>
    if c = ' ' || c = '\t' || c = '\n' then arithmeticTokens fuel cs
    else if c.isDigit then
      let (n, rest) := leadingNumber (c :: cs)
      .number (if greatest < n then greatest else n) :: arithmeticTokens fuel rest
    else if isNameStart c then
      let name := (c :: cs).takeWhile isNameChar
      .name (String.ofList name) :: arithmeticTokens fuel ((c :: cs).drop name.length)
    else
      match sign? (c :: cs) with
      | some (token, rest) => token :: arithmeticTokens fuel rest
      | none => [.bad]

/-! ## reading -/

namespace Expression

/-- how weakly an operator binds -/
def level : ArithmeticOperator → Nat
  | .mul => 0 | .div => 0 | .rem => 0
  | .add => 1 | .sub => 1
  | .shiftLeft => 2 | .shiftRight => 2
  | .lt => 3 | .le => 3 | .gt => 3 | .ge => 3
  | .eq => 4 | .ne => 4
  | .bitAnd => 5
  | .bitXor => 6
  | .bitOr => 7

/-- weaker than every operator -/
def weakest : Nat := 8

def missing : OctetText := "expecting primary"

mutual

/-- an expression without operators on two numbers -/
def readPrimary : (fuel : Nat) → List ArithmeticToken → Expression × List ArithmeticToken
  | 0, _ => (.fault missing, [])
  | fuel + 1, tokens =>
    match tokens with
    | .number n :: rest => (.number n, rest)
    | .name name :: rest => (.variable name, rest)
    | .operator .add :: rest => readPrimary fuel rest
    | .operator .sub :: rest => let (e, rest) := readPrimary fuel rest; (.negative e, rest)
    | .not :: rest => let (e, rest) := readPrimary fuel rest; (.logicalNot e, rest)
    | .complement :: rest => let (e, rest) := readPrimary fuel rest; (.complement e, rest)
    | .opening :: rest =>
      match readAll fuel rest with
      | (e, .closing :: rest) => (e, rest)
      | (e, _) => (.spoiled e "expecting ')'", [])
    | _ => (.fault missing, [])

/-- operators that bind more strongly than `bound`, behind an operand -/
def readOperators : (fuel bound : Nat) → Expression → List ArithmeticToken →
    Expression × List ArithmeticToken
  | 0, _, left, _ => (.spoiled left missing, [])
  | fuel + 1, bound, left, tokens =>
    match tokens with
    | .operator op :: rest =>
      if bound ≤ level op then (left, tokens)
      else
        let (right, rest) := readPrimary fuel rest
        let (right, rest) := readOperators fuel (level op) right rest
        readOperators fuel bound (.binary op left right) rest
    | tokens => (left, tokens)

def readConjunction : (fuel : Nat) → List ArithmeticToken → Expression × List ArithmeticToken
  | 0, _ => (.fault missing, [])
  | fuel + 1, tokens =>
    let (first, rest) := readPrimary fuel tokens
    match readOperators fuel weakest first rest with
    | (a, .and :: rest) => let (b, rest) := readConjunction fuel rest; (.conjunction a b, rest)
    | r => r

def readDisjunction : (fuel : Nat) → List ArithmeticToken → Expression × List ArithmeticToken
  | 0, _ => (.fault missing, [])
  | fuel + 1, tokens =>
    match readConjunction fuel tokens with
    | (a, .or :: rest) => let (b, rest) := readDisjunction fuel rest; (.disjunction a b, rest)
    | r => r

def readChoice : (fuel : Nat) → List ArithmeticToken → Expression × List ArithmeticToken
  | 0, _ => (.fault missing, [])
  | fuel + 1, tokens =>
    match readDisjunction fuel tokens with
    | (test, .question :: rest) =>
      match readAll fuel rest with
      | (yes, .colon :: rest) => let (no, rest) := readChoice fuel rest; (.choice test yes no, rest)
      | (yes, _) => (.choice test (.spoiled yes "expecting ':'") (.fault "expecting ':'"), [])
    | r => r

def readAll : (fuel : Nat) → List ArithmeticToken → Expression × List ArithmeticToken
  | 0, _ => (.fault missing, [])
  | fuel + 1, tokens =>
    match tokens with
    | .name name :: .assign op :: rest =>
      let (e, rest) := readAll fuel rest
      (.assignment name op e, rest)
    | tokens => readChoice fuel tokens

end

/-- the expression of a text -/
def ofText (text : OctetText) : Expression :=
  let tokens := arithmeticTokens (text.length + 1) text.toList
  match readAll (6 * tokens.length + 8) tokens with
  | (e, []) => e
  | (e, _ :: _) => .spoiled e "expecting EOF"

/-! ## computing -/

/-- the value of an operator; nothing for a division by zero, or one that goes beyond the greatest
number -/
def compute (op : ArithmeticOperator) (a b : Int) : Option Int :=
  match op with
  | .add => some (wrap (a + b))
  | .sub => some (wrap (a - b))
  | .mul => some (wrap (a * b))
  | .div => if b = 0 || (a = least && b = -1) then none else some (Int.tdiv a b)
  | .rem => if b = 0 || (a = least && b = -1) then none else some (Int.tmod a b)
  | .lt => some (truth (decide (a < b)))
  | .le => some (truth (decide (a ≤ b)))
  | .gt => some (truth (decide (b < a)))
  | .ge => some (truth (decide (b ≤ a)))
  | .eq => some (truth (a == b))
  | .ne => some (truth (a != b))
  | .bitAnd => some ((BitVec.ofInt 64 a &&& BitVec.ofInt 64 b).toInt)
  | .bitOr => some ((BitVec.ofInt 64 a ||| BitVec.ofInt 64 b).toInt)
  | .bitXor => some ((BitVec.ofInt 64 a ^^^ BitVec.ofInt 64 b).toInt)
  | .shiftLeft => some (wrap (a * (Nat.pow 2 (b % 64).toNat : Nat)))
  | .shiftRight => some (Int.fdiv a (Nat.pow 2 (b % 64).toNat : Nat))

/-- an expression is at fault -/
def abortAt {α : Type} (text message : OctetText) : Sh α :=
  abort ("arithmetic expression: " ++ message ++ ": \"" ++ text ++ "\"")

/-- the value of an operator; a division that goes beyond the greatest number kills the shell -/
def computeIn (text : OctetText) (op : ArithmeticOperator) (a b : Int) : Sh Int :=
  match compute op a b with
  | some n => pure n
  | none =>
    if b = 0 then abortAt text "division by zero"
    else do
      let _ ← sys (.kill (← sys .self) 8)
      pure 0

/-- the number that a variable stands for -/
def variableNumber (name : OctetText) : Sh Int := do
  let value := ((← get).value? name).getD ""
  match valueNumber? value with
  | some n => pure n
  | none => abort ("Illegal number: " ++ value)

/-- The value of an expression whose text is `text`.  A part that is `idle` is only looked at for
faults. -/
def valueIn (text : OctetText) : (idle : Bool) → Expression → Sh Int
  | _, .number n => pure n
  | idle, .variable name => if idle then pure 0 else variableNumber name
  | idle, .negative e => do return wrap (-(← e.valueIn text idle))
  | idle, .complement e => do return -(← e.valueIn text idle) - 1
  | idle, .logicalNot e => do return truth ((← e.valueIn text idle) == 0)
  | idle, .binary op a b => do
    let m ← a.valueIn text idle
    let n ← b.valueIn text idle
    if idle then pure n else computeIn text op m n
  | idle, .conjunction a b => do
    let m ← a.valueIn text idle
    let n ← b.valueIn text (idle || m == 0)
    return truth (m != 0 && n != 0)
  | idle, .disjunction a b => do
    let m ← a.valueIn text idle
    let n ← b.valueIn text (idle || m != 0)
    return truth (m != 0 || n != 0)
  | idle, .choice test yes no => do
    let n ← test.valueIn text idle
    let a ← yes.valueIn text (idle || n == 0)
    let b ← no.valueIn text (idle || n != 0)
    return if n != 0 then a else b
  | idle, .assignment name op e => do
    let n ← e.valueIn text idle
    if idle then pure n
    else do
      let n ← match op with
        | none => pure n
        | some op => computeIn text op (← variableNumber name) n
      assign name (toString n)
      pure n
  | _, .fault message => abortAt text message
  | idle, .spoiled e message => do
    let _ ← e.valueIn text idle
    abortAt text message

/-- the value of the expression that a text is -/
def value (text : OctetText) : Sh Int := (ofText text).valueIn text false

end Expression

end ShellWorkers.Script
