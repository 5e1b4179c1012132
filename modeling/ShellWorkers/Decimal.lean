/-!
# Decimals of numbers with a binary point

Such numbers are kept exactly, and written with the fewest digits that tell them apart.
-/

/-!
## The shortest decimal of a floating-point number

A positive number `m * 2 ^ q` is read back from every decimal in an interval around it; its ends
belong to it when `m` is even.  `Binary.shortest` looks at the decimal grids from the coarsest
on: of each it tries the two neighbours of the number, and the first grid with a hit wins, the
nearer of two hits, the even one of two equally near.

All comparisons are between natural numbers: `Binary` holds the number and the ends of the
interval over one denominator.
-/

namespace ShellWorkers.Decimal

/-- a number and the interval of the decimals that are read back as it, over one denominator -/
structure Binary where
  low : Nat
  value : Nat
  high : Nat
  den : Nat
  closed : Bool

/-- digits and an exponent of ten -/
structure Scientific where
  digits : Nat
  exponent : Int
  deriving DecidableEq, Repr

namespace Binary

/-- the number with significand `m` and binary exponent `q`; below a power of two the numbers
are twice as dense, unless it is the least exponent -/
def ofParts (m : Nat) (q : Int) : Binary :=
  let gap := if m = Nat.pow 2 52 ∧ q ≠ -1074 then 1 else 2
  let r := q - 2
  let up := Nat.pow 2 r.toNat
  ⟨(4 * m - gap) * up, 4 * m * up, (4 * m + 2) * up, Nat.pow 2 (-r).toNat, m % 2 == 0⟩

/-- whether `d * 10 ^ k` lies in the interval -/
def holds (b : Binary) (d : Nat) (k : Int) : Bool :=
  let x := d * Nat.pow 10 k.toNat * b.den
  let scale := Nat.pow 10 (-k).toNat
  let low := b.low * scale
  let high := b.high * scale
  (low < x && x < high) || (b.closed && (x == low || x == high))

/-- the greatest `d` with `d * 10 ^ k` not above the number -/
def floor (b : Binary) (k : Int) : Nat :=
  (b.value * Nat.pow 10 (-k).toNat) / (b.den * Nat.pow 10 k.toNat)

/-- whether `d * 10 ^ k` is nearer to the number than `(d + 1) * 10 ^ k`, or as near and even -/
def lowerWins (b : Binary) (d : Nat) (k : Int) : Bool :=
  let unit := Nat.pow 10 k.toNat * b.den
  let twice := 2 * (b.value * Nat.pow 10 (-k).toNat)
  let middle := (2 * d + 1) * unit
  twice < middle || (twice == middle && d % 2 == 0)

/-- the decimal on the grid of `10 ^ k`, if one of the neighbours is read back -/
def onGrid? (b : Binary) (k : Int) : Option Scientific :=
  let d := b.floor k
  match b.holds d k, b.holds (d + 1) k with
  | true, true => some ⟨if b.lowerWins d k then d else d + 1, k⟩
  | true, false => some ⟨d, k⟩
  | false, true => some ⟨d + 1, k⟩
  | false, false => none

/-- the grids `10 ^ k`, `10 ^ (k - 1)`, …, `steps` of them -/
def search (b : Binary) : (steps : Nat) → (k : Int) → Scientific
  | 0, k => ⟨b.floor k, k⟩
  | steps + 1, k =>
    match b.onGrid? k with
    | some s => s
    | none => b.search steps (k - 1)

/-- an exponent of ten above the number, at most `2 ^ 1024` and so below `10 ^ 309` -/
def shortest (b : Binary) : Scientific := b.search 640 309

end Binary

/-! ### digits -/

/-- the digits without the zeros at their end, which are counted -/
def stripZeros (ds : List Char) : List Char × Nat :=
  let r := ds.reverse
  ((r.dropWhile (· == '0')).reverse, (r.takeWhile (· == '0')).length)

/-- How numbers are written: with a point from `10 ^ -5` up to `10 ^ 16`, else with an exponent
that has a sign; at least one digit after a point. -/
def positional (digits : List Char) (point : Int) : List Char :=
  if point ≤ 0 then
    ['0', '.'] ++ List.replicate (-point).toNat '0' ++ digits
  else if digits.length ≤ point.toNat then
    digits ++ List.replicate (point.toNat - digits.length) '0' ++ ['.', '0']
  else digits.take point.toNat ++ '.' :: digits.drop point.toNat

/-- the digits with the point after the first, and the exponent -/
def withExponent (digits : List Char) (exponent : Int) : List Char :=
  let mantissa := match digits with
    | [] => []
    | [d] => [d]
    | d :: ds => d :: '.' :: ds
  mantissa ++ ['e', if exponent < 0 then '-' else '+'] ++ Nat.toDigits 10 exponent.natAbs

def Scientific.text (s : Scientific) : List Char :=
  let (digits, zeros) := stripZeros (Nat.toDigits 10 s.digits)
  let point : Int := s.exponent + (zeros : Int) + (digits.length : Int)
  if -5 < point && point ≤ 16 then positional digits point else withExponent digits (point - 1)

/-- the text of a finite number, zero with its sign -/
def floatText (x : Float) : String :=
  let bits := x.toBits.toNat
  let sign := if bits / Nat.pow 2 63 = 1 then ['-'] else []
  let e : Nat := bits / Nat.pow 2 52 % 2048
  let f : Nat := bits % Nat.pow 2 52
  let body :=
    if e = 0 ∧ f = 0 then ['0', '.', '0']
    else if e = 0 then (Binary.ofParts f (-1074)).shortest.text
    else (Binary.ofParts (f + Nat.pow 2 52) ((e : Int) - 1075)).shortest.text
  String.ofList (sign ++ body)

end ShellWorkers.Decimal

/-!
## Numbers with a binary point

A finite number is `significand * 2 ^ exponent`.  A `Precision` bounds the bits of the significand
and the exponent; `Precision.round` takes a ratio to the nearest number within it, a tie to the
even one.  A text is read to the number nearest to what it says (`read`), and a number is written
with any number of digits, exactly rounded (`fixed`, `scientific`, `general`, `hexadecimal`).
-/

namespace ShellWorkers.Decimal

inductive Magnitude where
  | finite (significand : Nat) (exponent : Int)
  | infinite
  | notNumber
  deriving DecidableEq, Repr

structure Floating where
  negative : Bool
  magnitude : Magnitude
  deriving DecidableEq, Repr

namespace Floating

def zero : Floating := ⟨false, .finite 0 0⟩

def ofNat (n : Nat) : Floating := ⟨false, .finite n 0⟩

/-- the bits of a significand, the least exponent, and the greatest one of a significand that has
all its bits -/
structure Precision where
  bits : Nat
  least : Int
  greatest : Int

def Precision.double : Precision := ⟨53, -1074, 971⟩
def Precision.extended : Precision := ⟨64, -16445, 16320⟩

/-! ### rounding -/

/-- the quotient of two numbers to the nearest whole one, a tie to the even one -/
def divideEven (n d : Nat) : Nat :=
  let q := n / d
  let twice := 2 * (n % d)
  if d < twice || (twice == d && q % 2 == 1) then q + 1 else q

/-- a number scaled by a power of two, over what it is scaled down by -/
def shifted (n : Nat) (e : Int) : Nat := n * Nat.pow 2 e.toNat

/-- the nearest number to a ratio within a precision -/
def Precision.round (p : Precision) (n d : Nat) : Magnitude :=
  if n = 0 then .finite 0 0
  else
    let guess : Int := (Nat.log2 n : Int) - (Nat.log2 d : Int) - (p.bits : Int) + 1
    let quotient (e : Int) : Nat := divideEven (shifted n (-e)) (shifted d e)
    let exact (e : Int) : Nat := shifted n (-e) / shifted d e
    let e := if exact guess < Nat.pow 2 (p.bits - 1) then guess - 1 else guess
    let e := if e < p.least then p.least else e
    let q := quotient e
    let (q, e) := if q = Nat.pow 2 p.bits then (Nat.pow 2 (p.bits - 1), e + 1) else (q, e)
    if p.greatest < e then .infinite else .finite q e

/-- whether a number is too small to have all its bits, though what it stands for is none -/
def Precision.isTiny (p : Precision) : Magnitude → Bool
  | .finite m e => e ≤ p.least && m < Nat.pow 2 (p.bits - 1)
  | _ => false

/-! ### arithmetic -/

/-- a ratio whose value is the number -/
def ratioOf (significand : Nat) (exponent : Int) : Nat × Nat :=
  (shifted significand exponent, Nat.pow 2 (-exponent).toNat)

/-- a number with its sign as a ratio; what is not finite counts as nothing -/
def ratio (x : Floating) : Int × Nat :=
  match x.magnitude with
  | .finite m e =>
    let (n, d) := ratioOf m e
    (if x.negative then -(n : Int) else n, d)
  | _ => (0, 1)

/-- the number nearest to a ratio -/
def Precision.nearest (p : Precision) (n : Int) (d : Nat) : Floating := ⟨n < 0, p.round n.natAbs d⟩

def Precision.sum (p : Precision) (x y : Floating) : Floating :=
  p.nearest (x.ratio.1 * y.ratio.2 + y.ratio.1 * x.ratio.2) (x.ratio.2 * y.ratio.2)

def Precision.difference (p : Precision) (x y : Floating) : Floating :=
  p.sum x { y with negative := !y.negative }

def Precision.product (p : Precision) (x y : Floating) : Floating :=
  p.nearest (x.ratio.1 * y.ratio.1) (x.ratio.2 * y.ratio.2)

/-- one number over another that is positive -/
def Precision.quotient (p : Precision) (x y : Floating) : Floating :=
  p.nearest (x.ratio.1 * y.ratio.2) (x.ratio.2 * y.ratio.1.natAbs)

/-- a power as a product of as many factors, each step rounded -/
def Precision.power (p : Precision) (x : Floating) (n : Nat) : Floating :=
  n.repeat (p.product x) (ofNat 1)

/-- the number without what is behind its point -/
def whole (x : Floating) : Int := x.ratio.1.tdiv x.ratio.2

/-! ### reading -/

def digitOf (c : Char) : Nat :=
  if c.isDigit then c.toNat - 48
  else if c.isLower then c.toNat - 87
  else c.toNat - 55

def isHexDigit (c : Char) : Bool :=
  c.isDigit || (97 ≤ c.toNat && c.toNat ≤ 102) || (65 ≤ c.toNat && c.toNat ≤ 70)

/-- the number of digits in a base -/
def digitsIn (base : Nat) (ds : List Char) : Nat := ds.foldl (fun n c => n * base + digitOf c) 0

/-- what a text says: a ratio, or no finite number -/
structure Reading where
  negative : Bool
  /-- numerator and denominator -/
  ratio : Option (Nat × Nat)
  /-- what it is when it is no ratio -/
  other : Magnitude
  rest : List Char

/-- a sign and digits that make an exponent behind its letter, and the rest -/
def exponent (letters : List Char) (cs : List Char) : Int × List Char :=
  match cs with
  | e :: cs' =>
    if letters.contains e then
      let (negative, ds) := match cs' with
        | '-' :: ds => (true, ds)
        | '+' :: ds => (false, ds)
        | ds => (false, ds)
      let digits := ds.takeWhile Char.isDigit
      if digits.isEmpty then (0, cs)
      else
        let n : Int := digitsIn 10 (digits.take 9)
        (if negative then -n else n, ds.drop digits.length)
    else (0, cs)
  | [] => (0, [])

/-- the digits around a point, and the rest; nothing if there are none -/
def pointed (isDigit : Char → Bool) (cs : List Char) :
    Option (List Char × List Char × List Char) :=
  let whole := cs.takeWhile isDigit
  let rest := cs.drop whole.length
  let (fraction, rest) := match rest with
    | '.' :: after =>
      let ds := after.takeWhile isDigit
      (ds, if whole.isEmpty && ds.isEmpty then rest else after.drop ds.length)
    | rest => ([], rest)
  if whole.isEmpty && fraction.isEmpty then none else some (whole, fraction, rest)

def lowered (cs : List Char) : List Char := cs.map Char.toLower

/-- the number that a text begins with, behind its sign -/
def readUnsigned (cs : List Char) : Option (Option (Nat × Nat) × Magnitude × List Char) :=
  let decimal : Option (Option (Nat × Nat) × Magnitude × List Char) := do
    let (whole, fraction, rest) ← pointed Char.isDigit cs
    let (e, rest) := exponent ['e', 'E'] rest
    let n := digitsIn 10 (whole ++ fraction)
    let e := if n = 0 then 0 else e - (fraction.length : Int)
    some (some (n * Nat.pow 10 e.toNat, Nat.pow 10 (-e).toNat), .notNumber, rest)
  match cs with
  | '0' :: x :: after =>
    if x = 'x' || x = 'X' then
      match pointed isHexDigit after with
      | none => decimal
      | some (whole, fraction, rest) =>
        let (e, rest) := exponent ['p', 'P'] rest
        let n := digitsIn 16 (whole ++ fraction)
        let e := if n = 0 then 0 else e - 4 * (fraction.length : Int)
        some (some (n * Nat.pow 2 e.toNat, Nat.pow 2 (-e).toNat), .notNumber, rest)
    else decimal
  | cs =>
    if lowered (cs.take 8) = "infinity".toList then some (none, .infinite, cs.drop 8)
    else if lowered (cs.take 3) = "inf".toList then some (none, .infinite, cs.drop 3)
    else if lowered (cs.take 3) = "nan".toList then
      match cs.drop 3 with
      | '(' :: rest =>
        let inner := rest.takeWhile fun c => c.isAlphanum || c == '_'
        match rest.drop inner.length with
        | ')' :: after => some (none, .notNumber, after)
        | _ => some (none, .notNumber, cs.drop 3)
      | rest => some (none, .notNumber, rest)
    else decimal

/-- the number that a text begins with, blanks before it passed over -/
def read? (cs : List Char) : Option Reading := do
  let cs := cs.dropWhile fun c => c == ' ' || (9 ≤ c.toNat && c.toNat ≤ 13)
  let (negative, cs) := match cs with
    | '-' :: rest => (true, rest)
    | '+' :: rest => (false, rest)
    | rest => (false, rest)
  let (ratio, other, rest) ← readUnsigned cs
  some ⟨negative, ratio, other, rest⟩

/-- the number that a reading stands for within a precision, and whether it lies outside of the
range -/
def ofReading (p : Precision) (r : Reading) : Floating × Bool :=
  match r.ratio with
  | none => (⟨r.negative, r.other⟩, false)
  | some (n, d) =>
    let m := p.round n d
    let isExact : Bool := match m with
      | .finite q e => shifted n (-e) == q * shifted d e
      | _ => false
    (⟨r.negative, m⟩, m == .infinite || (n != 0 && p.isTiny m && !isExact))

/-! ### digits -/

/-- digits with zeros before them -/
def padded (count : Nat) (ds : List Char) : List Char :=
  List.replicate (count - ds.length) '0' ++ ds

/-- digits cut before the last `places` of them -/
def cutDigits (places : Nat) (n : Nat) : List Char × List Char :=
  let ds := padded (places + 1) (Nat.toDigits 10 n)
  (ds.take (ds.length - places), ds.drop (ds.length - places))

/-- digits and a point, if there is something behind it or it is asked for -/
def withPoint (pointed : Bool) (whole fraction : List Char) : List Char :=
  if fraction.isEmpty && !pointed then whole else whole ++ '.' :: fraction

/-- a finite number with a fixed number of places -/
def fixed (places : Nat) (pointed : Bool) (significand : Nat) (exponent : Int) : List Char :=
  let (n, d) := ratioOf significand exponent
  let (whole, fraction) := cutDigits places (divideEven (n * Nat.pow 10 places) d)
  withPoint pointed whole fraction

/-- the greatest power of ten not above a ratio, starting from a guess that is one too small or
right -/
def powerOfTen (n d : Nat) : Int :=
  let guess : Int := (((Nat.log2 n : Int) - (Nat.log2 d : Int) - 1) * 1233) / 4096
  let reaches (x : Int) : Bool := d * Nat.pow 10 x.toNat ≤ n * Nat.pow 10 (-x).toNat
  let up (x : Int) : Int := if reaches (x + 1) then x + 1 else x
  up (up (if reaches guess then guess else guess - 1))

/-- as many digits and the power of ten of the first of them -/
def digitsAndPower (count : Nat) (significand : Nat) (exponent : Int) : Nat × Int :=
  if significand = 0 then (0, 0)
  else
    let (n, d) := ratioOf significand exponent
    let x := powerOfTen n d
    let scale : Int := (count : Int) - 1 - x
    let q := divideEven (n * Nat.pow 10 scale.toNat) (d * Nat.pow 10 (-scale).toNat)
    if q = Nat.pow 10 count then (Nat.pow 10 (count - 1), x + 1) else (q, x)

/-- an exponent with its letter and sign, of at least two digits -/
def exponentText (letter : Char) (count : Nat) (x : Int) : List Char :=
  letter :: (if x < 0 then '-' else '+') :: padded count (Nat.toDigits 10 x.natAbs)

/-- a finite number with one digit before the point -/
def scientific (places : Nat) (pointed : Bool) (significand : Nat) (exponent : Int) : List Char :=
  let (q, x) := digitsAndPower (places + 1) significand exponent
  let (whole, fraction) := cutDigits places q
  withPoint pointed whole fraction ++ exponentText 'e' 2 x

/-- digits without the zeros at their end -/
def withoutZeros (ds : List Char) : List Char := (ds.reverse.dropWhile (· == '0')).reverse

/-- a finite number with as many digits, in the shorter of the two ways; zeros at the end stay
only where they are asked for -/
def general (count : Nat) (pointed : Bool) (significand : Nat) (exponent : Int) : List Char :=
  let count := if count = 0 then 1 else count
  let (q, x) := digitsAndPower count significand exponent
  let trim (ds : List Char) : List Char := if pointed then ds else withoutZeros ds
  if x < -4 || (count : Int) ≤ x then
    let (whole, fraction) := cutDigits (count - 1) q
    withPoint pointed whole (trim fraction) ++ exponentText 'e' 2 x
  else
    let places := ((count : Int) - 1 - x).toNat
    let (n, d) := ratioOf significand exponent
    let (whole, fraction) := cutDigits places (divideEven (n * Nat.pow 10 places) d)
    withPoint pointed whole (trim fraction)

/-- a finite number in base 16, of whose significand `lead` bits stand before the point -/
def hexadecimal (lead bits : Nat) (places : Option Nat) (pointed : Bool) (significand : Nat)
    (exponent : Int) : List Char :=
  if significand = 0 then
    "0x0".toList ++ (match places with
      | some (n + 1) => '.' :: List.replicate (n + 1) '0'
      | _ => if pointed then ['.'] else []) ++ exponentText 'p' 1 0
  else
    let length := Nat.log2 significand + 1
    let full := significand * Nat.pow 2 (bits - length)
    let x : Int := exponent - ((bits - length : Nat) : Int) + ((bits - lead : Nat) : Int)
    let nibbles := (bits - lead + 3) / 4
    let wide := full * Nat.pow 2 (4 * nibbles - (bits - lead))
    let (n, count) := match places with
      | some p => if p < nibbles then (divideEven wide (Nat.pow 16 (nibbles - p)), p)
        else (wide * Nat.pow 16 (p - nibbles), p)
      | none => (wide, nibbles)
    let ds := padded (count + 1) (Nat.toDigits 16 n)
    let fraction := ds.drop (ds.length - count)
    let fraction := if places.isNone then withoutZeros fraction else fraction
    "0x".toList ++ withPoint pointed (ds.take (ds.length - count)) fraction ++ exponentText 'p' 1 x

end Floating

end ShellWorkers.Decimal
