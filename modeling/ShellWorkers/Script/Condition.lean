import ShellWorkers.Machine.Call

/-!
# Conditions

The expressions of `test`: operands, operators on one and on two of them, negation, parentheses,
and the junctions `-a` and `-o`.  A word that looks like an operator is an operand where no
operator can stand.  Every expression is read to its end, whatever its first part says.
-/

namespace ShellWorkers.Script

open Machine
open Text (OctetText)

namespace Condition

/-- an answer, or what is wrong with the expression -/
abbrev Check := ExceptT OctetText Calls

/-! ## words -/

inductive Token where
  | ending
  | operand
  | unary
  | binary
  | conjunction
  | disjunction
  | negation
  | opening
  | closing
  deriving DecidableEq

def unaryOperators : List OctetText :=
  ["-r", "-w", "-x", "-e", "-f", "-d", "-c", "-b", "-p", "-u", "-g", "-k", "-s", "-t", "-z", "-n",
    "-h", "-L", "-O", "-G", "-S"]

def binaryOperators : List OctetText :=
  ["=", "!=", "<", ">", "-eq", "-ne", "-ge", "-gt", "-le", "-lt", "-nt", "-ot", "-ef"]

def isBinary (word : OctetText) : Bool := binaryOperators.contains word

/-- whether an operator on one operand stands for itself: at the end, and before an operator on
two that has a right operand -/
def standsAlone (rest : List OctetText) : Bool :=
  match rest with
  | [] => true
  | [_] => false
  | second :: _ => isBinary second

/-- what the first word stands for -/
def token (words : List OctetText) : Token :=
  match words with
  | [] => .ending
  | word :: rest =>
    if unaryOperators.contains word then if standsAlone rest then .operand else .unary
    else if isBinary word then .binary
    else
      match word with
      | "-a" => .conjunction
      | "-o" => .disjunction
      | "!" => .negation
      | "(" => if rest.isEmpty then .operand else .opening
      | ")" => .closing
      | _ => .operand

/-! ## operators -/

/-- a whole number with an optional sign, and blanks around it -/
def integer? (text : OctetText) : Option Int :=
  let isBlank (c : Char) : Bool := c == ' ' || (9 ≤ c.toNat && c.toNat ≤ 13)
  let cs := ((text.toList.dropWhile isBlank).reverse.dropWhile isBlank).reverse
  let digits (ds : List Char) : Option Int :=
    if ds.isEmpty || !ds.all Char.isDigit then none
    else some (ds.foldl (fun (n : Nat) c => n * 10 + (c.toNat - 48)) 0 : Nat)
  match cs with
  | '-' :: ds => (digits ds).map (- ·)
  | '+' :: ds => digits ds
  | ds => digits ds

/-- a number of 64 bits -/
def number (text : OctetText) : Check Int :=
  match integer? text with
  | some n =>
    if -9223372036854775808 ≤ n && n ≤ 9223372036854775807 then pure n
    else throw ("Illegal number: " ++ text)
  | none => throw ("Illegal number: " ++ text)

/-- a condition on a file that has to exist -/
def onFile (path : OctetText) (follow : Bool) (p : FileStatus → Bool) : Check Bool := do
  match ← ExceptT.lift (call (.status path follow)) with
  | .ok s => return p s
  | .error _ => return false

/-- whether one of the special permission bits is set -/
def hasBit (bit : Nat) (s : FileStatus) : Bool := s.mode &&& bit != 0

def unary (op operand : OctetText) : Check Bool :=
  match op with
  | "-n" => pure !operand.isEmpty
  | "-z" => pure operand.isEmpty
  | "-t" => do
    let _ ← number operand
    pure false
  | "-f" => onFile operand true (·.kind == .file)
  | "-d" => onFile operand true (·.kind == .directory)
  | "-r" => onFile operand true (·.permits Mode.reading)
  | "-w" => onFile operand true (·.permits Mode.writing)
  | "-x" => onFile operand true (·.permits Mode.reaching)
  | "-s" => onFile operand true (0 < ·.size)
  | "-L" => onFile operand false (·.kind == .link)
  | "-h" => onFile operand false (·.kind == .link)
  | "-c" => onFile operand true (·.kind == .device)
  | "-p" => onFile operand true (·.kind == .queue)
  | "-u" => onFile operand true (hasBit 0o4000)
  | "-g" => onFile operand true (hasBit 0o2000)
  | "-k" => onFile operand true (hasBit 0o1000)
  | op => onFile operand true fun _ => ["-e", "-O", "-G"].contains op

/-- whether a text comes before another by its octets -/
def textBefore (a b : OctetText) : Bool := FileTree.precedes a.toList b.toList

/-- a condition on two files that have to exist -/
def onFiles (left right : OctetText) (p : FileStatus → FileStatus → Bool) : Check Bool := do
  match ← ExceptT.lift (call (.status left true)), ← ExceptT.lift (call (.status right true)) with
  | .ok a, .ok b => return p a b
  | _, _ => return false

def binary (left op right : OctetText) : Check Bool :=
  let numbers (p : Int → Int → Bool) : Check Bool := do return p (← number left) (← number right)
  match op with
  | "=" => pure (left == right)
  | "!=" => pure (left != right)
  | "<" => pure (textBefore left right)
  | ">" => pure (textBefore right left)
  | "-eq" => numbers (· == ·)
  | "-ne" => numbers (· != ·)
  | "-lt" => numbers fun a b => decide (a < b)
  | "-le" => numbers fun a b => decide (a ≤ b)
  | "-gt" => numbers fun a b => decide (b < a)
  | "-ge" => numbers fun a b => decide (b ≤ a)
  | "-ef" => onFiles left right fun a b => a.id == b.id
  | "-nt" => onFiles left right fun a b => decide (b.modified < a.modified)
  | "-ot" => onFiles left right fun a b => decide (a.modified < b.modified)
  | _ => pure false

/-! ## expressions -/

def missing (op : OctetText) : OctetText := op ++ ": argument expected"

/-- an operator on two operands that starts with the left one -/
def operation (words : List OctetText) : Check (Bool × List OctetText) :=
  match words with
  | left :: op :: right :: rest => do return (← binary left op right, rest)
  | _ :: op :: _ => throw (missing op)
  | _ => pure (false, [])

mutual

/-- an expression without junctions and the words behind it -/
def primary : (fuel : Nat) → List OctetText → Check (Bool × List OctetText)
  | 0, _ => pure (false, [])
  | fuel + 1, words =>
    match token words, words with
    | .ending, _ => pure (false, [])
    | .negation, _ :: rest => do
      let (b, rest) ← primary fuel rest
      pure (!b, rest)
    | .opening, _ :: rest =>
      if token rest = .closing then pure (false, rest.drop 1)
      else do
        let (b, rest) ← junction fuel rest
        if token rest = .closing then pure (b, rest.drop 1)
        else throw "closing paren expected"
    | .unary, op :: operand :: rest => do return (← unary op operand, rest)
    | .unary, op :: [] => throw (missing op)
    | _, word :: rest =>
      if token rest = .binary then operation words else pure (!word.isEmpty, rest)
    | _, [] => pure (false, [])

/-- expressions joined by `-a` -/
def together : (fuel : Nat) → List OctetText → Check (Bool × List OctetText)
  | 0, _ => pure (false, [])
  | fuel + 1, words => do
    let (b, rest) ← primary fuel words
    if token rest = .conjunction then do
      let (other, rest) ← together fuel (rest.drop 1)
      pure (b && other, rest)
    else pure (b, rest)

/-- expressions joined by `-o` -/
def junction : (fuel : Nat) → List OctetText → Check (Bool × List OctetText)
  | 0, _ => pure (false, [])
  | fuel + 1, words => do
    let (b, rest) ← together fuel words
    if token rest = .disjunction then do
      let (other, rest) ← junction fuel (rest.drop 1)
      pure (b || other, rest)
    else pure (b, rest)

end

/-- an expression that has to be read to its end -/
def whole (words : List OctetText) : Check Bool := do
  let (b, rest) ← junction (4 * words.length + 4) words
  if rest.isEmpty then pure b
  else throw ((words.drop (words.length - rest.length - 1)).headD "" ++ ": unexpected operator")

/-- the arguments between parentheses around all of them -/
def unwrapped? (args : List OctetText) : Option (List OctetText) :=
  if args.head? == some "(" && args.getLast? == some ")" then some (args.drop 1).dropLast else none

/-- Whether the arguments hold as a condition; none at all do not.  Three arguments around an
operator on two are no more than that, whatever the first looks like.  Parentheses around three or
four arguments mean nothing, and a negation before them is that of all the others. -/
def holdsWithin : (fuel : Nat) → List OctetText → Check Bool
  | 0, _ => pure false
  | fuel + 1, args =>
    let few : Check Bool :=
      match unwrapped? args, args with
      | some inner, _ => whole inner
      | none, "!" :: rest => do return !(← holdsWithin fuel rest)
      | none, args => whole args
    match args with
    | [] => pure false
    | [left, op, right] => if isBinary op then binary left op right else few
    | [_, _, _, _] => few
    | args => whole args

def holds (args : List OctetText) : Check Bool := holdsWithin 4 args

/-- the arguments of `[` without the bracket that closes them -/
def bracketed? (args : List OctetText) : Option (List OctetText) :=
  match args.reverse with
  | "]" :: rest => some rest.reverse
  | _ => none

end Condition

end ShellWorkers.Script
