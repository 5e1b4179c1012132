import ShellWorkers.Decimal
import ShellWorkers.Json.Basic

/-!
# Reading numbers

The digits of a number, wherever its point is, are collected into a significand of 64 bits; the
digits that no longer fit count as powers of ten before the point and for nothing behind it.  A
number with a point, an exponent or too many digits is the significand scaled by a power of ten
in floating point, and refused when that overflows.

A zero is followed by no digit; a minus before it makes a floating-point zero.
-/

namespace ShellWorkers.Json

/-! ## digits -/

def digitValue (c : Char) : Nat := c.toNat - '0'.toNat

/-- digits taken into a significand as long as it stays within 64 bits; those left unread -/
def absorb (significand : Nat) : List Char → Nat × List Char
  | [] => (significand, [])
  | c :: cs =>
    let n := significand * 10 + digitValue c
    if n < Nat.pow 2 64 then absorb n cs else (significand, c :: cs)

/-- the value of a text of digits -/
def digitsValue (ds : List Char) : Nat := ds.foldl (fun n c => n * 10 + digitValue c) 0

/-! ## floating point -/

def powerOfTen (k : Nat) : Float := Float.ofScientific 1 false k

/-- a positive number divided by ten to the power `k`, in steps that floating point can express -/
def shrink (x : Float) (k : Nat) : Float :=
  if k ≤ 308 then x / powerOfTen k
  else if x == 0 then x
  else shrink (x / powerOfTen 308) (k - 308)
termination_by k

/-- the significand scaled by a power of ten -/
def scaled? (significand : Nat) (exponent : Int) : Option Float :=
  let x := (UInt64.ofNat significand).toFloat
  if exponent < 0 then some (shrink x exponent.natAbs)
  else if exponent.natAbs ≤ 308 then
    let y := x * powerOfTen exponent.natAbs
    if y.isInf then none else some y
  else if x == 0 then some x
  else none

/-- a number with its sign, or a fault when it is out of range -/
def floatOf (positive : Bool) (significand : Nat) (exponent : Int) : Except Fault Number :=
  match scaled? significand exponent with
  | none => .error .numberRange
  | some x => .ok (.float (if positive then x else -x))

/-- a whole number with its sign: one that 64 bits cannot hold is a floating-point number -/
def wholeOf (positive : Bool) (significand : Nat) : Number :=
  if positive then .natural significand
  else if significand = 0 || Nat.pow 2 63 < significand then
    .float (-(UInt64.ofNat significand).toFloat)
  else .negative significand

/-! ## the parts of a number -/

/-- an exponent of ten, after the letter: a sign that may be missing, and digits -/
def readExponent (positive : Bool) (significand : Nat) (start : Int) (cs : List Char) :
    Except Fault (Number × List Char) :=
  let (up, cs) := match cs with
    | '+' :: r => (true, r)
    | '-' :: r => (false, r)
    | r => (true, r)
  let ds := cs.takeWhile Char.isDigit
  let rest := cs.dropWhile Char.isDigit
  if ds.isEmpty then .error (if rest.isEmpty then .endInValue else .badNumber)
  else
    let n := digitsValue ds
    if Nat.pow 2 31 ≤ n then
      if significand ≠ 0 && up then .error .numberRange
      else .ok (.float (if positive then 0.0 else -0.0), rest)
    else do
      let x ← floatOf positive significand (if up then start + n else start - n)
      return (x, rest)

/-- what follows the digits: an exponent or the end of the number -/
def readScale (positive : Bool) (significand : Nat) (start : Int) (cs : List Char) :
    Except Fault (Number × List Char) :=
  match cs with
  | 'e' :: r => readExponent positive significand start r
  | 'E' :: r => readExponent positive significand start r
  | r => do return (← floatOf positive significand start, r)

/-- the digits behind the point -/
def readFraction (positive : Bool) (significand : Nat) (start : Int) (cs : List Char) :
    Except Fault (Number × List Char) :=
  let ds := cs.takeWhile Char.isDigit
  let rest := cs.dropWhile Char.isDigit
  if ds.isEmpty then .error (if rest.isEmpty then .endInValue else .badNumber)
  else
    let (n, unread) := absorb significand ds
    readScale positive n (start - ((ds.length - unread.length : Nat) : Int)) rest

/-- a number after its sign -/
def readNumber (positive : Bool) (cs : List Char) : Except Fault (Number × List Char) :=
  let ds := cs.takeWhile Char.isDigit
  let rest := cs.dropWhile Char.isDigit
  match ds with
  | [] => .error (if rest.isEmpty then .endInValue else .badNumber)
  | '0' :: _ :: _ => .error .badNumber
  | ds =>
    let (n, unread) := absorb 0 ds
    match rest with
    | '.' :: r => readFraction positive n unread.length r
    | 'e' :: r => readExponent positive n unread.length r
    | 'E' :: r => readExponent positive n unread.length r
    | r =>
      if unread.isEmpty then .ok (wholeOf positive n, r)
      else do return (← floatOf positive n unread.length, r)

/-! ## writing -/

def Number.text : Number → String
  | .natural n => toString n
  | .negative n => "-" ++ toString n
  | .float x => Decimal.floatText x

end ShellWorkers.Json
