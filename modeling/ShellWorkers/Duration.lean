/-!
# Lengths of time

A length of time is a number of nanoseconds.  `text` writes it in the largest unit of which it
holds at least one, with as many decimal places as it needs.
-/

namespace ShellWorkers

/-- a length of time in nanoseconds -/
structure Duration where
  nanos : Nat
  deriving DecidableEq, Repr

namespace Duration

def ofSeconds (n : Nat) : Duration := ⟨n * 1000000000⟩

def ofMillis (n : Nat) : Duration := ⟨n * 1000000⟩

/-- whole seconds -/
def seconds (d : Duration) : Nat := d.nanos / 1000000000

/-- the decimal digits of `n`, in `places` places at least -/
def padded (places n : Nat) : List Char :=
  let ds := Nat.toDigits 10 n
  List.replicate (places - ds.length) '0' ++ ds

/-- a decimal fraction without the zeros at its end, and no point when nothing is left -/
def fraction (places n : Nat) : List Char :=
  match ((padded places n).reverse.dropWhile (· == '0')).reverse with
  | [] => []
  | ds => '.' :: ds

/-- `n` in a unit of `10 ^ places` -/
def inUnit (places n : Nat) : String :=
  String.ofList (Nat.toDigits 10 (n / Nat.pow 10 places) ++ fraction places (n % Nat.pow 10 places))

/-- the largest unit that fits: seconds, milliseconds, microseconds, nanoseconds -/
def text (d : Duration) : String :=
  if 1000000000 ≤ d.nanos then inUnit 9 d.nanos ++ "s"
  else if 1000000 ≤ d.nanos then inUnit 6 d.nanos ++ "ms"
  else if 1000 ≤ d.nanos then inUnit 3 d.nanos ++ "µs"
  else inUnit 0 d.nanos ++ "ns"

end Duration

end ShellWorkers
