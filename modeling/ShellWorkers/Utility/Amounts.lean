import ShellWorkers.Decimal
import ShellWorkers.Utility.Options

/-!
# Amounts

Amounts as arguments, and scales in which sizes are shown.
-/

/-!
## Amounts

Numbers of lines, octets or other units, with a unit behind them.
-/

namespace ShellWorkers.Utility

open Text (OctetText)

/-- the number that digits stand for -/
def digitsValue (ds : List Char) : Nat := ds.foldl (fun n c => n * 10 + (c.toNat - 48)) 0

/-- the number of a text of digits -/
def decimal? (text : OctetText) : Option Nat :=
  let ds := text.toList
  if !ds.isEmpty && ds.all Char.isDigit then some (digitsValue ds) else none

/-- the digits that begin a text, whose base their beginning tells, as a number, and the rest -/
def leadingNumber (cs : List Char) : Option Nat × List Char :=
  let reading (base : Nat) (cs : List Char) : Option Nat × List Char :=
    let isOne (c : Char) : Bool :=
      Decimal.Floating.isHexDigit c && Decimal.Floating.digitOf c < base
    let ds := cs.takeWhile isOne
    (if ds.isEmpty then none else some (Decimal.Floating.digitsIn base ds), cs.drop ds.length)
  match cs with
  | '0' :: x :: c :: rest =>
    if (x = 'x' || x = 'X') && Decimal.Floating.isHexDigit c then reading 16 (c :: rest)
    else reading 8 cs
  | '0' :: _ => reading 8 cs
  | _ => reading 10 cs

/-- blanks and a plus sign that begin a text are left out -/
def withoutSign (cs : List Char) : List Char :=
  match cs.dropWhile fun c => c == ' ' || (9 ≤ c.toNat && c.toNat ≤ 13) with
  | '+' :: cs => cs
  | cs => cs

/-- the greatest number of 64 bits, and of those with a sign -/
def naturalLimit : Nat := Nat.pow 2 64 - 1
def integerLimit : Nat := Nat.pow 2 63 - 1

/-- the power that a letter stands for -/
def unitPower? (c : Char) : Option Nat :=
  match c with
  | 'k' => some 1
  | 'K' => some 1
  | 'm' => some 2
  | 'M' => some 2
  | 'g' => some 3
  | 'G' => some 3
  | 't' => some 4
  | 'T' => some 4
  | 'P' => some 5
  | 'E' => some 6
  | 'Z' => some 7
  | 'Y' => some 8
  | _ => none

/-- what a unit stands for, among those that are allowed -/
def unitValue? (allowed : List Char) (unit : List Char) : Option Nat :=
  match unit with
  | [] => some 1
  | c :: rest =>
    if !allowed.contains c then none
    else
      match c, rest with
      | 'b', [] => some 512
      | 'c', [] => some 1
      | 'w', [] => some 2
      | 'B', [] => some 1024
      | c, [] => (unitPower? c).map (Nat.pow 1024)
      | c, ['B'] => (unitPower? c).map (Nat.pow 1000)
      | c, ['i', 'B'] => (unitPower? c).map (Nat.pow 1024)
      | _, _ => none

/-- what is wrong with an amount -/
inductive AmountFault where
  | invalid
  | tooLarge

/-- an amount: digits, behind blanks and maybe a plus sign, and a unit; a unit alone stands for
one -/
def amount? (units : String) (text : OctetText) : Except AmountFault Nat :=
  let cs := text.toList.dropWhile fun c => c == ' ' || (9 ≤ c.toNat && c.toNat ≤ 13)
  let cs := match cs with
    | '+' :: cs => cs
    | cs => cs
  let ds := cs.takeWhile Char.isDigit
  let unit := cs.drop ds.length
  match unitValue? units.toList unit with
  | none => .error .invalid
  | some value =>
    if ds.isEmpty && unit.isEmpty then .error .invalid
    else
      let n := (if ds.isEmpty then 1 else digitsValue ds) * value
      if naturalLimit < n then .error .tooLarge else .ok n

/-- a whole number that may be negative, without a unit -/
def wholeNumber? (text : OctetText) : Except AmountFault Int :=
  let cs := text.toList.dropWhile fun c => c == ' ' || (9 ≤ c.toNat && c.toNat ≤ 13)
  let (negative, ds) := match cs with
    | '-' :: cs => (true, cs)
    | '+' :: cs => (false, cs)
    | cs => (false, cs)
  if ds.isEmpty || !ds.all Char.isDigit then .error .invalid
  else
    let n := digitsValue ds
    if (if negative then integerLimit + 1 else integerLimit) < n then .error .tooLarge
    else .ok (if negative then -(n : Int) else n)

/-- the units of streams -/
def streamUnits : String := "bkKmMGTPEZY"

/-- an amount, or the end of the utility -/
def amountOrFail (what : OctetText) (units : String) (text : OctetText) : Work Nat := do
  match amount? units text with
  | .ok n => pure n
  | .error .invalid => fail (what ++ ": " ++ quoted text)
  | .error .tooLarge =>
    fail (what ++ ": " ++ quoted text ++ ": Value too large for defined data type")

/-- a number that a limit bounds, or the end of the utility -/
def boundedOrFail (what : OctetText) (limit : Nat) (text : OctetText) : Work Nat := do
  match amount? "" text with
  | .error .invalid => fail (what ++ ": " ++ quoted text)
  | .error .tooLarge =>
    fail (what ++ ": " ++ quoted text ++ ": Value too large for defined data type")
  | .ok n =>
    if n ≤ limit then pure n
    else
      fail (what ++ ": " ++ quoted text ++ ": "
        ++ (if 1073741823 < n then "Value too large for defined data type"
          else "Numerical result out of range"))

/-- a whole number between two bounds, or the end of the utility -/
def wholeOrFail (what : OctetText) (least greatest : Int) (text : OctetText) : Work Int := do
  match wholeNumber? text with
  | .error .invalid => fail (what ++ ": " ++ quoted text)
  | .error .tooLarge =>
    fail (what ++ ": " ++ quoted text ++ ": Value too large for defined data type")
  | .ok n =>
    if least ≤ n && n ≤ greatest then pure n
    else
      fail (what ++ ": " ++ quoted text ++ ": "
        ++ (if 1073741823 < n || n < -1073741824 then "Value too large for defined data type"
          else "Numerical result out of range"))

end ShellWorkers.Utility

/-!
## Scales of sizes

A size is written as a number of units, and what is over counts as a whole unit.  An automatic
scale chooses the unit among the powers of its base so that few digits are left; below ten units
there is one place behind the point.

* `Scale.write`   the text of a size;
* `Scale.read`    the scale that a text describes.
-/

namespace ShellWorkers.Utility

open Text (OctetText)

/-- how sizes are written -/
structure Scale where
  /-- the octets of a unit -/
  unit : Nat
  /-- each size has a unit of its own -/
  automatic : Bool
  /-- units are powers of it -/
  base : Nat
  showsUnit : Bool
  /-- the unit is that of octets -/
  showsOctet : Bool
  deriving DecidableEq, Repr

namespace Scale

/-- sizes in units of some octets -/
def ofUnit (unit : Nat) : Scale := ⟨unit, false, 1024, false, false⟩

/-- sizes with units of their own -/
def automaticOf (base : Nat) : Scale := ⟨1, true, base, true, false⟩

/-- the letters of the powers of a base -/
def letters : List Char := ['K', 'M', 'G', 'T', 'P', 'E', 'Z', 'Y']

/-- the letter of a power of the base -/
def letterText (base power : Nat) : OctetText :=
  if power = 0 then ""
  else if base = 1000 && power = 1 then "k"
  else String.ofList ((letters[power - 1]?).toList)

/-- how many units hold a size -/
def unitsFor (unit n : Nat) : Nat := (n + unit - 1) / unit

/-- the power of the base that a size reaches, at least `power` -/
def powerOf (base n : Nat) : (fuel : Nat) → (power : Nat) → Nat
  | 0, power => power
  | fuel + 1, power =>
    if n < Nat.pow base (power + 1) then power else powerOf base n fuel (power + 1)

/-- a size in the unit that fits it best -/
def automaticText (base n : Nat) : OctetText × Nat :=
  let power := powerOf base n letters.length 0
  let unit := Nat.pow base power
  let tenths := unitsFor unit (n * 10)
  let whole := unitsFor unit n
  if power = 0 then (toString n, 0)
  else if n / unit < 10 && tenths < 100 then
    (toString (tenths / 10) ++ "." ++ toString (tenths % 10), power)
  else if whole = base && power < letters.length then ("1.0", power + 1)
  else (toString whole, power)

/-- the first power of the base that reaches a unit -/
def unitPower (base unit : Nat) : (fuel : Nat) → (power : Nat) → Nat
  | 0, power => power
  | fuel + 1, power =>
    if Nat.pow base power < unit then unitPower base unit fuel (power + 1) else power

/-- the text of a size -/
def write (s : Scale) (n : Nat) : OctetText :=
  let (digits, power) := if s.automatic then automaticText s.base n
    else (toString (unitsFor s.unit n), unitPower s.base s.unit letters.length 0)
  if !s.showsUnit then digits
  else
    digits ++ letterText s.base power
      ++ (if !s.showsOctet then "" else if s.base = 1024 && power ≠ 0 then "iB" else "B")

/-! ### reading -/

/-- what is wrong with a description -/
inductive Fault where
  | invalid
  | invalidSuffix
  | tooLarge

/-- how a fault is told of the value of an option -/
def Fault.message (option value : OctetText) : Fault → OctetText
  | .invalid => "invalid " ++ option ++ " argument '" ++ value ++ "'"
  | .invalidSuffix => "invalid suffix in " ++ option ++ " argument '" ++ value ++ "'"
  | .tooLarge => option ++ " argument '" ++ value ++ "' too large"

/-- the units that sizes can have -/
def units : List Char := "eEgGkKmMpPtTyYzZ".toList

/-- a number of octets, behind which a unit may stand -/
def octets? (cs : List Char) : Except Fault Nat :=
  let (number?, rest) := leadingNumber (withoutSign cs)
  match number?, rest with
  | none, [] => .error .invalid
  | none, c :: _ =>
    if !units.contains c then .error .invalid else scaled 1 rest
  | some n, rest => scaled n rest
where
  scaled (n : Nat) (unit : List Char) : Except Fault Nat :=
    match unitValue? units unit with
    | none => .error .invalidSuffix
    | some value =>
      if naturalLimit < n * value then .error .tooLarge else .ok (n * value)

/-- the scale that a text describes -/
def read (text : OctetText) : Except Fault Scale :=
  let cs := match text.toList with
    | '\'' :: cs => cs
    | cs => cs
  let word := String.ofList cs
  if !cs.isEmpty && "human-readable".startsWith word then .ok (automaticOf 1024)
  else if !cs.isEmpty && "si".startsWith word then .ok (automaticOf 1000)
  else
    match octets? cs with
    | .error fault => .error fault
    | .ok 0 => .error .invalid
    | .ok unit =>
      let showsUnit := !cs.any Char.isDigit
      let showsOctet := cs.getLast? == some 'B'
      let base := if showsOctet && cs.dropLast.getLast? != some 'i' then 1000 else 1024
      .ok ⟨unit, false, if showsUnit then base else 1024, showsUnit, showsUnit && showsOctet⟩

/-- the scale that the first of some variables describes, or else units of 1024 octets -/
def ofVariables (names : List OctetText) : Work Scale := do
  let vars := (← get).vars
  let usual := ofUnit (if (vars.lookup "POSIXLY_CORRECT").isSome then 512 else 1024)
  match names.findSome? fun name => vars.lookup name with
  | none => pure usual
  | some text => pure ((read text).toOption.getD usual)

end Scale

end ShellWorkers.Utility
