import ShellWorkers.Script.Arithmetic
import ShellWorkers.Script.References

/-!
# Arithmetic of the extended language

Expressions over whole numbers of 64 bits, with the elements of arrays, powers, increments and
lists.  A value that is no number is an expression itself.  An expression is computed while it is
read, so that of two faults the first one counts; a message names the token that was read last,
with all that follows it.

* `compute`       the value of a text;
* `storeResult`   how a result becomes the value of a variable or an element.
-/

namespace ShellWorkers.Script

open Text (OctetText)

namespace Computation

/-! ## tokens -/

inductive Item where
  | ending
  | number
  | name
  /-- a sign that is no assignment -/
  | sign (text : OctetText)
  /-- an assignment, maybe of what an operator yields -/
  | assign (op : Option OctetText)
  /-- an increment or a decrement, before or behind a name -/
  | stepBefore (up : Bool)
  | stepBehind (up : Bool)
  deriving DecidableEq

/-- how far an expression has been read -/
structure Cursor where
  /-- the whole text -/
  text : OctetText
  rest : List Char
  /-- the text from the last token on -/
  last : List Char
  token : Item
  before : Item
  /-- the name that was read last, with the subscript behind it -/
  name : OctetText
  /-- its value, or the number that was read last -/
  value : Int
  /-- values do not count, so that nothing is assigned or divided -/
  idle : Bool

abbrev Compute := StateT Cursor Sh

/-- the signs of two characters, of which none is an assignment -/
def longSigns : List (List Char) :=
  [['=', '='], ['!', '='], ['<', '='], ['>', '='], ['<', '<'], ['>', '>'], ['&', '&'], ['|', '|'],
    ['*', '*']]

def shortSigns : List Char :=
  ['<', '>', '+', '-', '*', '/', '%', '!', '(', ')', '&', '|', '^', '~', '?', ':', ',']

/-- the operators that assignments can have -/
def assignable : List (List Char) :=
  [['*'], ['/'], ['%'], ['+'], ['-'], ['<', '<'], ['>', '>'], ['&'], ['^'], ['|']]

/-- an assignment with an operator at the beginning of a text, and the rest -/
def assigning? (cs : List Char) : Option (Item × List Char) :=
  assignable.findSome? fun op =>
    if cs.take op.length = op && (cs.drop op.length).head? = some '=' then
      some (.assign (some (String.ofList op)), cs.drop (op.length + 1))
    else none

/-- the sign at the beginning of a text, and the rest; increments are looked for elsewhere -/
def sign? (cs : List Char) : Option (Item × List Char) :=
  match assigning? cs with
  | some r => some r
  | none =>
    match longSigns.find? fun s => cs.take 2 = s with
    | some s => some (.sign (String.ofList s), cs.drop 2)
    | none =>
      match cs with
      | '=' :: rest => some (.assign none, rest)
      | c :: rest => if shortSigns.contains c then some (.sign (String.ofList [c]), rest) else none
      | [] => none

/-! ## faults -/

/-- the expression is at fault -/
def fault {α : Type} (message : OctetText) : Compute α := fun k => do
  let text := String.ofList (k.text.toList.dropWhile isNumberBlank)
  abort (text ++ ": " ++ message ++ " (error token is \"" ++ String.ofList k.last ++ "\")")

/-! ## numbers -/

/-- the digit of a base up to 64 that a character is; small and great letters are the same up to
a base of 36 -/
def digit? (base : Nat) (c : Char) : Option Nat :=
  let n := if c.isDigit then c.toNat - 48
    else if c.isLower then c.toNat - 87
    else if c.isUpper then if base ≤ 36 then c.toNat - 55 else c.toNat - 29
    else if c = '@' then 62
    else if c = '_' then 63
    else 64
  if n < base then some n else none

/-- the number that digits of a base are -/
def digitsOf? (base : Nat) (cs : List Char) : Option Nat :=
  cs.foldl (fun n c => do return (← n) * base + (← digit? base c)) (some 0)

/-- why a text is no number -/
inductive NumberFault where
  | badBase
  | badDigit

/-- the number of a text that begins with a digit -/
def numberOf (cs : List Char) : Except NumberFault Int :=
  let inBase (base : Nat) (ds : List Char) : Except NumberFault Int :=
    match digitsOf? base ds with
    | some n => .ok (wrap n)
    | none => .error .badDigit
  if cs.contains '#' then
    let base := digitsNat (cs.takeWhile (· != '#'))
    let ds := (cs.dropWhile (· != '#')).drop 1
    if base < 2 || 64 < base || !(cs.takeWhile (· != '#')).all Char.isDigit then .error .badBase
    else inBase base ds
  else
    match cs with
    | '0' :: 'x' :: ds => inBase 16 ds
    | '0' :: 'X' :: ds => inBase 16 ds
    | '0' :: ds => inBase 8 ds
    | ds => inBase 10 ds

/-- whether a character goes on with a number -/
def isNumberChar (c : Char) : Bool := c.isAlphanum || c == '#' || c == '@' || c == '_'

/-! ## operators -/

/-- the value of an operator that always has one -/
def operate (op : OctetText) (a b : Int) : Int :=
  let of (o : ArithmeticOperator) : Int := (Expression.compute o a b).getD 0
  match op with
  | "|" => of .bitOr
  | "^" => of .bitXor
  | "&" => of .bitAnd
  | "==" => of .eq
  | "!=" => of .ne
  | "<=" => of .le
  | ">=" => of .ge
  | "<" => of .lt
  | ">" => of .gt
  | "<<" => of .shiftLeft
  | ">>" => of .shiftRight
  | "+" => of .add
  | "-" => of .sub
  | "*" => of .mul
  | "/" => if b = -1 then wrap (-a) else of .div
  | "%" => if b = -1 then 0 else of .rem
  | _ => 0

/-- the value of an operator in an expression -/
def apply (op : OctetText) (a b : Int) : Compute Int := do
  let idle := (← get).idle
  if (op = "/" || op = "%") && b = 0 then
    if idle then pure a else fault "division by 0"
  else pure (operate op a b)

/-- operators on two numbers by how strongly they bind, the weakest first -/
def levels : List (List OctetText) :=
  [["|"], ["^"], ["&"], ["==", "!="], ["<=", ">=", "<", ">"], ["<<", ">>"], ["+", "-"],
    ["*", "/", "%"]]

/-- a power, by repeated squares; `fuel` is at least the number of bits of the exponent -/
def power : (fuel : Nat) → (base : Int) → (exponent : Nat) → Int
  | 0, _, _ => 1
  | fuel + 1, base, n =>
    if n = 0 then 1
    else
      let half := power fuel (wrap (base * base)) (n / 2)
      if n % 2 = 1 then wrap (half * base) else half

/-! ## variables -/

/-- a name without its subscript, and the text of that -/
def partsOf (name : OctetText) : OctetText × Option OctetText := Context.splitSubscript name

/-- a text without the quotes in it -/
def unquoted (text : OctetText) : OctetText :=
  String.ofList (text.toList.filter fun c => c != '"' && c != '\'')

/-- says that an element cannot be, because of its subscript -/
def badSubscript {α : Type} (name : OctetText) : Sh α := abort (name ++ ": bad array subscript")

/-- the subscript behind a bracket: its text, and the rest; nothing if it is not closed -/
def subscriptOf? (cs : List Char) : Option (List Char × List Char) :=
  match behindSubscript (cs.length + 1) 0 cs with
  | some rest => some ((cs.take (cs.length - rest.length)).dropLast, rest)
  | none => none

/-- the number of an element by the value of its subscript -/
def numberFor (v? : Option Variable) (n : Int) : Option Nat :=
  if 0 ≤ n then some n.toNat
  else
    let length : Int := match v?.map Variable.items with
      | some (.list elements) => Items.nextNumber elements
      | some .none => 1
      | _ => 0
    if 0 ≤ length + n then some (length + n).toNat else none

end Computation

open ShellWorkers.Script.Computation

/-- gives a result to a variable or an element; a key is that of an element -/
def storeResult (name : OctetText) (key : Option OctetText) (value : OctetText) : Sh Unit := do
  let c ← get
  match c.seen? name with
  | some v => if v.readOnly then refuseChange name
  | none => pure ()
  match key with
  | some key => modify (·.putElement name key value)
  | none => assignRaw name (some value) .none

namespace Computation

/-- a value that nothing can be assigned to -/
def settled (value : Int) : Compute Int := do
  modify ({ · with before := .number })
  pure value

/-- what is left for an expression without names in it -/
def fuelReserve : Nat := 2000

mutual

/-- the next token -/
def next : (fuel : Nat) → Compute Unit
  | 0 => pure ()
  | fuel + 1 => do
    let k ← get
    let cs := k.rest.dropWhile isNumberBlank
    let take (token : Item) (rest : List Char) : Compute Unit :=
      modify fun k => { k with before := k.token, token := token, rest := rest, last := cs }
    match cs with
    | [] => modify fun k => { k with before := k.token, token := .ending, rest := [] }
    | c :: rest =>
      if isNameStart c then do
        let name := cs.takeWhile isNameChar
        let rest := cs.drop name.length
        let (name, rest) ← match rest with
          | '[' :: inner =>
            match subscriptOf? inner with
            | some (text, behind) => pure (name ++ '[' :: text ++ [']'], behind)
            | none => do
              take .name rest
              fault "bad array subscript"
          | rest => pure (name, rest)
        take .name rest
        modify ({ · with name := String.ofList name })
        let isAssigned := match rest.dropWhile isNumberBlank with
          | '=' :: '=' :: _ => false
          | '=' :: _ => true
          | _ => false
        let value ← if isAssigned || k.idle then pure 0 else StateT.lift (valueOf fuel (String.ofList name))
        modify ({ · with value := value })
      else if c.isDigit then do
        let digits := cs.takeWhile isNumberChar
        take .number (cs.drop digits.length)
        match numberOf digits with
        | .ok n => modify ({ · with value := n })
        | .error .badBase => fault "invalid arithmetic base"
        | .error .badDigit => fault "value too great for base"
      else if (c = '+' || c = '-') && rest.head? = some c then
        let behind := rest.drop 1
        if k.token = .name then take (.stepBehind (c = '+')) behind
        else
          match behind.dropWhile isNumberBlank with
          | d :: _ =>
            if isNameStart d then take (.stepBefore (c = '+')) behind
            else take (.sign (String.ofList [c])) rest
          | [] => take (.sign (String.ofList [c])) rest
      else
        match sign? cs with
        | some (token, rest) => take token rest
        | none => do
          modify ({ · with last := cs })
          let awaits := match k.token with
            | .ending => true
            | .sign ")" => false
            | .sign _ => true
            | .assign _ => true
            | _ => false
          if awaits then fault "syntax error: operand expected"
          else fault "syntax error: invalid arithmetic operator"

/-- the number that a variable or an element stands for -/
def valueOf : (fuel : Nat) → OctetText → Sh Int
  | 0, _ => pure 0
  | fuel + 1, name => do
    let text ← textOf fuel name
    match text with
    | some text =>
      if fuel < fuelReserve then
        abort (name ++ ": expression recursion level exceeded (error token is \"" ++ name ++ "\")")
      else evaluate fuel text
    | none => do
      let c ← get
      if c.isOn .noUnset then do
        complain (name ++ ": unbound variable")
        leave (.exit 1)
      else pure 0

/-- the text that a variable or an element holds -/
def textOf : (fuel : Nat) → OctetText → Sh (Option OctetText)
  | 0, _ => pure none
  | fuel + 1, name => do
    let c ← get
    match partsOf (c.meant name) with
    | (base, none) =>
      if c.isFresh base then some <$> freshNumber base
      else pure ((c.seen? base).bind Variable.value?)
    | (base, some subscript) => do
      match ← keyFor fuel base subscript with
      | some key => pure ((c.seen? base).bind (·.element? key))
      | none => badSubscript base

/-- the key of the element with a subscript -/
def keyFor : (fuel : Nat) → (name subscript : OctetText) → Sh (Option OctetText)
  | 0, _, _ => pure none
  | fuel + 1, name, subscript => do
    let v? := (← get).seen? name
    if (v?.map fun v => v.items.isTable) == some true then pure (some (unquoted subscript))
    else do
      let n ← abandoningPlainly (evaluate fuel subscript)
      pure ((numberFor v? n).map toString)

/-- gives a result to a variable or an element by its name -/
def store : (fuel : Nat) → (name value : OctetText) → Sh Unit
  | 0, _, _ => pure ()
  | fuel + 1, name, value => do
    match partsOf ((← get).meant name) with
    | (base, none) => storeResult base none value
    | (base, some subscript) => do
      match ← keyFor fuel base subscript with
      | some key => storeResult base (some key) value
      | none => badSubscript name

/-- a number, a name, or an expression in parentheses -/
def operand : (fuel : Nat) → Compute Int
  | 0 => pure 0
  | fuel + 1 => do
    match (← get).token with
    | .stepBefore up => do
      next fuel
      let k ← get
      if k.token ≠ .name then fault "identifier expected after pre-increment or pre-decrement"
      else do
        let value := wrap (if up then k.value + 1 else k.value - 1)
        if !k.idle then StateT.lift (store fuel k.name (toString value))
        modify ({ · with token := .number })
        next fuel
        pure value
    | .sign "(" => do
      next fuel
      let value ← listed fuel
      if (← get).token ≠ .sign ")" then fault "missing \x60)'"
      else do
        next fuel
        pure value
    | .number => do
      let value := (← get).value
      next fuel
      pure value
    | .name => do
      let k ← get
      next fuel
      match (← get).token with
      | .stepBehind up => do
        let value := wrap (if up then k.value + 1 else k.value - 1)
        if !k.idle then StateT.lift (store fuel k.name (toString value))
        modify ({ · with token := .number })
        next fuel
        pure k.value
      | _ => do
        modify ({ · with name := k.name })
        pure k.value
    | _ => fault "syntax error: operand expected"

/-- an operand with the signs before it -/
def signed : (fuel : Nat) → Compute Int
  | 0 => pure 0
  | fuel + 1 => do
    match (← get).token with
    | .sign "!" => do
      next fuel
      settled (truth ((← signed fuel) == 0))
    | .sign "~" => do
      next fuel
      settled (-(← signed fuel) - 1)
    | .sign "-" => do
      next fuel
      settled (wrap (-(← signed fuel)))
    | .sign "+" => do
      next fuel
      settled (← signed fuel)
    | _ => operand fuel

/-- powers, which are joined from the right -/
def powers : (fuel : Nat) → Compute Int
  | 0 => pure 0
  | fuel + 1 => do
    let base ← signed fuel
    if (← get).token = .sign "**" then do
      next fuel
      let exponent ← powers fuel
      if exponent = 0 then settled 1
      else if exponent < 0 then fault "exponent less than 0"
      else settled (power 64 base exponent.toNat)
    else pure base

/-- operators from a level on -/
def joined : (fuel : Nat) → List (List OctetText) → Compute Int
  | 0, _ => pure 0
  | fuel + 1, [] => powers fuel
  | fuel + 1, level :: stronger => do
    let first ← joined fuel stronger
    joinedFrom fuel level stronger first

/-- the operators of one level behind an operand -/
def joinedFrom : (fuel : Nat) → List OctetText → List (List OctetText) → Int → Compute Int
  | 0, _, _, first => pure first
  | fuel + 1, level, stronger, first => do
    match (← get).token with
    | .sign op =>
      if level.contains op then do
        next fuel
        let second ← joined fuel stronger
        let value ← settled (← apply op first second)
        joinedFrom fuel level stronger value
      else pure first
    | _ => pure first

def conjunctions : (fuel : Nat) → Compute Int
  | 0 => pure 0
  | fuel + 1 => do
    let first ← joined fuel levels
    conjunctionsFrom fuel first

def conjunctionsFrom : (fuel : Nat) → Int → Compute Int
  | 0, first => pure first
  | fuel + 1, first => do
    if (← get).token = .sign "&&" then do
      let idle := (← get).idle
      modify ({ · with idle := idle || first == 0 })
      next fuel
      let second ← joined fuel levels
      modify ({ · with idle := idle })
      let value ← settled (truth (first != 0 && second != 0))
      conjunctionsFrom fuel value
    else pure first

def disjunctions : (fuel : Nat) → Compute Int
  | 0 => pure 0
  | fuel + 1 => do
    let first ← conjunctions fuel
    disjunctionsFrom fuel first

def disjunctionsFrom : (fuel : Nat) → Int → Compute Int
  | 0, first => pure first
  | fuel + 1, first => do
    if (← get).token = .sign "||" then do
      let idle := (← get).idle
      modify ({ · with idle := idle || first != 0 })
      next fuel
      let second ← conjunctions fuel
      modify ({ · with idle := idle })
      let value ← settled (truth (first != 0 || second != 0))
      disjunctionsFrom fuel value
    else pure first

def choices : (fuel : Nat) → Compute Int
  | 0 => pure 0
  | fuel + 1 => do
    let test ← disjunctions fuel
    if (← get).token = .sign "?" then do
      let idle := (← get).idle
      modify ({ · with idle := idle || test == 0 })
      next fuel
      if (← get).token = .ending || (← get).token = .sign ":" then fault "expression expected"
      else do
        let yes ← listed fuel
        modify ({ · with idle := idle })
        if (← get).token ≠ .sign ":" then fault "\x60:' expected for conditional expression"
        else do
          modify ({ · with idle := idle || test != 0 })
          next fuel
          if (← get).token = .ending then fault "expression expected"
          else do
            let no ← choices fuel
            modify ({ · with idle := idle })
            settled (if test != 0 then yes else no)
    else pure test

def assignments : (fuel : Nat) → Compute Int
  | 0 => pure 0
  | fuel + 1 => do
    let first ← choices fuel
    let k ← get
    match k.token with
    | .assign op =>
      if k.before ≠ .name then fault "attempted assignment to non-variable"
      else do
        next fuel
        let second ← assignments fuel
        let value ← match op with
          | none => pure second
          | some op => apply op first second
        if !k.idle then StateT.lift (store fuel k.name (toString value))
        modify ({ · with before := .number })
        pure value
    | _ => pure first

/-- expressions in a list, of which the last one counts -/
def listed : (fuel : Nat) → Compute Int
  | 0 => pure 0
  | fuel + 1 => do
    let first ← assignments fuel
    if (← get).token = .sign "," then do
      next fuel
      listed fuel
    else pure first

/-- the value of a text -/
def evaluate : (fuel : Nat) → OctetText → Sh Int
  | 0, _ => pure 0
  | fuel + 1, text => do
    let cs := text.toList
    if (cs.dropWhile isNumberBlank).isEmpty then pure 0
    else do
      let whole : Compute Int := do
        next fuel
        let value ← listed fuel
        if (← get).token ≠ .ending then fault "syntax error in expression" else pure value
      let (value, _) ← whole.run ⟨text, cs, cs, .ending, .ending, "", 0, false⟩
      pure value

end

end Computation

/-- enough for expressions that stand in one another by names a thousand times -/
def computationFuel : Nat := 5070

/-- the value of a text as an expression; quotes in it mean nothing -/
def compute (text : OctetText) : Sh Int :=
  Computation.evaluate computationFuel (String.ofList (text.toList.filter (· != '"')))

/-- the key of the element of a variable with a subscript -/
def keyOf (name subscript : OctetText) : Sh (Option OctetText) :=
  Computation.keyFor computationFuel name subscript

end ShellWorkers.Script
