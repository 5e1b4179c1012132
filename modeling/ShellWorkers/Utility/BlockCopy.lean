import ShellWorkers.Utility.Amounts

/-!
# Copying by blocks

`dd` copies its input to its output in blocks of a size, from one block on and up to a number of
blocks, and counts the blocks on both sides.

* `Counts`       the blocks that were read and written;
* `Order`        what the operands say;
* `copyBlocks`   the work.
-/

namespace ShellWorkers.Utility

open Machine
open Text (OctetText)

namespace BlockCopy

/-- whole blocks and others that were read and written, and octets that were written -/
structure Counts where
  fullIn : Nat
  partIn : Nat
  fullOut : Nat
  partOut : Nat
  octets : Nat

/-- what is changed on the way -/
inductive Conversion where
  | upper
  | lower
  | swap
  /-- blocks are filled up with null octets -/
  | fill
  | keepTail
  | onlyNew
  | onlyOld
  | goOn
  | none
deriving DecidableEq

def conversion? (name : OctetText) : Option Conversion :=
  [("ucase", .upper), ("lcase", .lower), ("swab", .swap), ("sync", .fill), ("notrunc", .keepTail),
    ("excl", .onlyNew), ("nocreat", .onlyOld), ("noerror", .goOn), ("fsync", .none),
    ("fdatasync", .none), ("sparse", .none)].lookup name

/-- what is told in the end -/
inductive Statement where
  | all
  | noRates
  | nothing
deriving DecidableEq

structure Order where
  source : Option OctetText
  target : Option OctetText
  sizeIn : Nat
  sizeOut : Nat
  /-- one size for both sides: blocks are written as they were read -/
  oneSize : Bool
  skipped : Nat
  seeked : Nat
  /-- how many blocks, or octets, are copied at most -/
  limit : Option Nat
  countsOctets : Bool
  skipsOctets : Bool
  seeksOctets : Bool
  appends : Bool
  conversions : List Conversion
  statement : Statement

def Order.start : Order :=
  ⟨none, none, 512, 512, false, 0, 0, none, false, false, false, false, [], .all⟩

def Order.does (o : Order) (c : Conversion) : Bool := o.conversions.contains c

/-! ## operands -/

/-- a unit, with the letter of octets after it or not -/
def factorUnit? (unit : List Char) : Option Nat :=
  let plain := unitValue? "bcwkKMGTPEZY".toList
  (plain unit).or
    (if unit.getLast? = some 'B' ∧ unit.dropLast.getLast? ≠ some 'B' then plain unit.dropLast
      else none)

/-- a number: factors with units, with a cross between them -/
def number? (text : OctetText) : Option Nat :=
  (text.splitOn "x").foldl (fun product part => do
    let n ← product
    let ds := part.toList.takeWhile Char.isDigit
    if ds.isEmpty then none
    else
      let unit ← factorUnit? (part.toList.drop ds.length)
      some (n * digitsValue ds * unit)) (some 1)

/-- the letter of octets makes a number of blocks one of octets -/
def inOctets (value : OctetText) : Bool := value.toList.contains 'B'

def numberOf (least : Nat) (text : OctetText) : Work Nat := do
  match number? text with
  | some n => if n < least then fail ("invalid number: " ++ quoted text) else pure n
  | none => fail ("invalid number: " ++ quoted text)

/-- the flags of one side -/
def readFlags (input : Bool) (text : OctetText) (o : Order) : Work Order :=
  (text.splitOn ",").foldlM (fun o flag => do
    match flag with
    | "fullblock" => pure o
    | "nonblock" => pure o
    | "count_bytes" => pure { o with countsOctets := true }
    | "skip_bytes" => pure { o with skipsOctets := true }
    | "seek_bytes" => pure { o with seeksOctets := true }
    | "append" => pure (if input then o else { o with appends := true })
    | _ => misused 1 ("invalid " ++ (if input then "input" else "output") ++ " flag: " ++ quoted flag))
    o

/-- an operand -/
def readOrder (o : Order) (operand : OctetText) : Work Order := do
  let name := String.ofList (operand.toList.takeWhile (· != '='))
  let unknown : Work Order := misused 1 ("unrecognized operand " ++ quoted operand)
  if name.length = operand.length then unknown
  else
    let value := String.ofList (operand.toList.drop (name.length + 1))
    match name with
    | "if" => pure { o with source := some value }
    | "of" => pure { o with target := some value }
    | "bs" => do
      let n ← numberOf 1 value
      pure { o with sizeIn := n, sizeOut := n, oneSize := true }
    | "ibs" => do
      let n ← numberOf 1 value
      pure (if o.oneSize then o else { o with sizeIn := n })
    | "obs" => do
      let n ← numberOf 1 value
      pure (if o.oneSize then o else { o with sizeOut := n })
    | "cbs" => do
      let _ ← numberOf 1 value
      pure o
    | "count" => do
      let n ← numberOf 0 value
      pure { o with limit := some n, countsOctets := o.countsOctets || inOctets value }
    | "skip" => do
      let n ← numberOf 0 value
      pure { o with skipped := n, skipsOctets := o.skipsOctets || inOctets value }
    | "iseek" => do
      let n ← numberOf 0 value
      pure { o with skipped := n, skipsOctets := o.skipsOctets || inOctets value }
    | "seek" => do
      let n ← numberOf 0 value
      pure { o with seeked := n, seeksOctets := o.seeksOctets || inOctets value }
    | "oseek" => do
      let n ← numberOf 0 value
      pure { o with seeked := n, seeksOctets := o.seeksOctets || inOctets value }
    | "iflag" => readFlags true value o
    | "oflag" => readFlags false value o
    | "conv" =>
      (value.splitOn ",").foldlM (fun o name => do
        match conversion? name with
        | some c => pure { o with conversions := c :: o.conversions }
        | none => misused 1 ("invalid conversion: " ++ quoted name)) o
    | "status" =>
      match value with
      | "none" => pure { o with statement := .nothing }
      | "noxfer" => pure { o with statement := .noRates }
      | "progress" => pure o
      | _ => misused 1 ("invalid status level: " ++ quoted value)
    | _ => unknown

/-! ## telling -/

/-- an amount in units of a base, with one place below ten -/
def scaled (base : Nat) (units : List OctetText) : (fuel : Nat) → (unit n : Nat) → OctetText
  | 0, _, n => toString n
  | fuel + 1, unit, n =>
    let power := Nat.pow base unit
    let nearest (scale : Nat) : Nat := (2 * n * scale + power) / (2 * power)
    if base ≤ nearest 1 then scaled base units fuel (unit + 1) n
    else
      let amount :=
        if unit ≠ 0 && nearest 10 < 100 then
          toString (nearest 10 / 10) ++ "." ++ toString (nearest 10 % 10)
        else toString (nearest 1)
      amount ++ " " ++ units.getD unit ""

/-- the octets in words -/
def octetsText (n : Nat) : OctetText :=
  let decimal := scaled 1000 ["B", "kB", "MB", "GB", "TB", "PB"] 8 0 n
  let binary := scaled 1024 ["B", "KiB", "MiB", "GiB", "TiB", "PiB"] 8 0 n
  toString n ++ (if n = 1 then " byte" else " bytes")
    ++ (if n < 1000 then "" else if n < 1024 then " (" ++ decimal ++ ")"
      else " (" ++ decimal ++ ", " ++ binary ++ ")")
    ++ " copied"

def tell (o : Order) (c : Counts) : Work Unit := do
  flush
  if o.statement ≠ .nothing then
    putMessage (toString c.fullIn ++ "+" ++ toString c.partIn ++ " records in\n"
      ++ toString c.fullOut ++ "+" ++ toString c.partOut ++ " records out\n")
  if o.statement = .all then putMessage (octetsText c.octets ++ ", 0 s, Infinity B/s\n")

/-! ## the work -/

/-- octets with their neighbours in each other's places -/
def swapped : List Char → List Char
  | a :: b :: cs => b :: a :: swapped cs
  | cs => cs

/-- a block as it is written -/
def converted (o : Order) (text : OctetText) : OctetText :=
  let cs := text.toList
  let cs := if o.does .fill && cs.length < o.sizeIn then
      cs ++ List.replicate (o.sizeIn - cs.length) '\x00' else cs
  let cs := if o.does .upper then cs.map Char.toUpper
    else if o.does .lower then cs.map Char.toLower else cs
  String.ofList (if o.does .swap then swapped cs else cs)

/-- where output stands: the descriptor and what waits for a whole block -/
structure Output where
  fd : Nat
  name : OctetText
  waiting : OctetText

/-- writes a block; the utility ends when that fails -/
def writeBlock (o : Order) (out : Output) (c : Counts) (block : OctetText) : Work Counts := do
  match ← ask (.write out.fd block) with
  | .ok _ =>
    let c := { c with octets := c.octets + block.length }
    pure (if block.length = o.sizeOut then { c with fullOut := c.fullOut + 1 }
      else { c with partOut := c.partOut + 1 })
  | .error e => do
    note ("error writing " ++ shellQuoted out.name ++ ": " ++ faultText e)
    tell o c
    stop 1

/-- writes whole blocks of what waits -/
def writeWhole (o : Order) : (fuel : Nat) → Output → Counts → Work (Output × Counts)
  | 0, out, c => pure (out, c)
  | fuel + 1, out, c => do
    if out.waiting.length < o.sizeOut then pure (out, c)
    else do
      let cs := out.waiting.toList
      let c ← writeBlock o out c (String.ofList (cs.take o.sizeOut))
      writeWhole o fuel { out with waiting := String.ofList (cs.drop o.sizeOut) } c

/-- how much may be read now; nothing at the limit -/
def room (o : Order) (c : Counts) (read : Nat) : Nat :=
  match o.limit with
  | none => o.sizeIn
  | some n =>
    if o.countsOctets then (if n - read < o.sizeIn then n - read else o.sizeIn)
    else if n ≤ c.fullIn + c.partIn then 0 else o.sizeIn

/-- copies block by block -/
def copyBlocks (o : Order) (source : OctetText) (fd : Nat) : (fuel : Nat) → (read : Nat) →
    Output → Counts → Work (Output × Counts)
  | 0, _, out, c => pure (out, c)
  | fuel + 1, read, out, c => do
    let room := room o c read
    if room = 0 then pure (out, c)
    else
      match ← ask (.read fd room) with
      | .error e => do
        note ("error reading " ++ shellQuoted source ++ ": " ++ faultText e)
        setCode 1
        pure (out, c)
      | .ok text =>
        if text.isEmpty then pure (out, c)
        else do
          let c := if text.length < o.sizeIn then { c with partIn := c.partIn + 1 }
            else { c with fullIn := c.fullIn + 1 }
          let block := converted o text
          let (out, c) ←
            if o.oneSize && !(o.does .upper || o.does .lower || o.does .swap) then do
              pure (out, ← writeBlock o out c block)
            else writeWhole o (block.length + 1) { out with waiting := out.waiting ++ block } c
          copyBlocks o source fd fuel (read + text.length) out c

/-- passes over octets of the input; whether it has as many -/
def skipOctets (fd : Nat) : (fuel count : Nat) → Work Bool
  | 0, _ => pure true
  | fuel + 1, count => do
    if count = 0 then pure true
    else
      match ← ask (.read fd (if count < pieceSize then count else pieceSize)) with
      | .ok text =>
        if text.isEmpty then pure false else skipOctets fd fuel (count - text.length)
      | .error _ => pure false

/-- opens the output at its place -/
def openTarget (o : Order) (path : OctetText) : Work Nat := do
  let start := if o.seeksOctets then o.seeked else o.seeked * o.sizeOut
  let cuts := !o.does .keepTail && start = 0
  match ← ask (.openFile path
      ⟨false, true, o.appends, !o.does .onlyOld, cuts, o.does .onlyNew⟩ openPermissions) with
  | .error e => fail ("failed to open " ++ shellQuoted path ++ ": " ++ faultText e)
  | .ok fd => do
    if start ≠ 0 then
      if !o.does .keepTail then
        let _ ← ask (.setLength fd start)
      let _ ← ask (.seek fd start)
    pure fd

end BlockCopy

open BlockCopy in
def dd (args : List OctetText) : Work Unit := do
  let a ← readArguments (.ofLetters "") 1 args
  let o ← a.operands.foldlM readOrder Order.start
  if o.does .upper && o.does .lower then fail "cannot combine lcase and ucase"
  if o.does .onlyNew && o.does .onlyOld then fail "cannot combine excl and nocreat"
  let source := o.source.getD "standard input"
  let input ← match o.source with
    | none => pure 0
    | some path =>
      match ← ask (.openFile path .read 0) with
      | .ok fd => pure fd
      | .error e => fail ("failed to open " ++ shellQuoted path ++ ": " ++ faultText e)
  let output ← match o.target with
    | none => pure 1
    | some path => openTarget o path
  let skipped ← skipOctets input streamFuel (if o.skipsOctets then o.skipped else o.skipped * o.sizeIn)
  if !skipped && o.statement ≠ .nothing then
    note (named source ++ ": cannot skip to specified offset")
  let (out, c) ← copyBlocks o source input streamFuel 0
    ⟨output, o.target.getD "standard output", ""⟩ ⟨0, 0, 0, 0, 0⟩
  let c ← if out.waiting.isEmpty then pure c else writeBlock o out c out.waiting
  tell o c

end ShellWorkers.Utility
