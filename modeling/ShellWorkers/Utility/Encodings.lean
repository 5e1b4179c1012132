import ShellWorkers.Utility.Amounts

/-!
# Octets in digits

Octets as printable digits, and dumps of them.
-/

/-!
## Octets as printable digits

A text is written as digits, in groups that stand for whole octets.  Where the digits have a
filler, the last group may stand for fewer octets and is filled up; where they have none, a text
has to end with a group.

* `Digits`            digits of a base, and how many of them make a group;
* `Digits.encode?`    the digits of octets;
* `Digits.decode`     the octets of digits, up to what cannot be read.
-/

namespace ShellWorkers.Utility

open Machine
open Text (OctetText)

structure Digits where
  alphabet : String
  /-- the digits of a group -/
  group : Nat
  /-- the octets that a group stands for -/
  octets : Nat
  /-- the last group can be filled up with equals signs -/
  fills : Bool
  /-- a last group that is not filled up still stands for its octets -/
  allowsShort : Bool
  /-- the first digit of a group is the lowest one -/
  lowFirst : Bool
  /-- digits of other alphabets that are read as well, with what they stand for -/
  synonyms : List (Char × Nat)

namespace Digits

def base64 : Digits :=
  ⟨"ABCDEFGHIJKLMNOPQRSTUVWXYZabcdefghijklmnopqrstuvwxyz0123456789+/", 4, 3, true, true, false, []⟩
def base64url : Digits :=
  ⟨"ABCDEFGHIJKLMNOPQRSTUVWXYZabcdefghijklmnopqrstuvwxyz0123456789-_", 4, 3, true, true, false, []⟩
def base32 : Digits := ⟨"ABCDEFGHIJKLMNOPQRSTUVWXYZ234567", 8, 5, true, false, false, []⟩
def base32hex : Digits :=
  ⟨"0123456789ABCDEFGHIJKLMNOPQRSTUV", 8, 5, true, false, false,
    [('W', 22), ('X', 23), ('Y', 24), ('Z', 25)]⟩
def base16 : Digits := ⟨"0123456789ABCDEF", 2, 1, false, false, false, []⟩
def highBits : Digits := ⟨"01", 8, 1, false, false, false, []⟩
def lowBits : Digits := ⟨"01", 8, 1, false, false, true, []⟩
def base85 : Digits :=
  ⟨"0123456789abcdefghijklmnopqrstuvwxyzABCDEFGHIJKLMNOPQRSTUVWXYZ.-:+=^!/*?&<>()[]\x7b\x7d@%$#",
    5, 4, false, false, false, []⟩

/-- how many values a digit has -/
def base (d : Digits) : Nat := d.alphabet.length

/-- digits of a number, the lowest first -/
def lowDigits (base : Nat) : (count : Nat) → Nat → List Nat
  | 0, _ => []
  | count + 1, n => n % base :: lowDigits base count (n / base)

/-- digits of a number, the highest first -/
def highDigits (base count n : Nat) : List Nat := (lowDigits base count n).reverse

def valueOf (base : Nat) (digits : List Nat) : Nat := digits.foldl (fun n d => n * base + d) 0

/-! ### writing -/

/-- how many digits tell some octets of a group -/
def used (d : Digits) (count : Nat) : Nat := (d.group * count + d.octets - 1) / d.octets

/-- what has been written, last first, and the octets of the group that has begun, last first -/
structure Written where
  text : List Char
  begun : List Nat

/-- the digits of a group that holds all its octets or, if it is filled up, some of them -/
def groupDigits (d : Digits) (digits : Array Char) (octets : List Nat) : List Char :=
  let missing := d.octets - octets.length
  let ns := highDigits d.base d.group (valueOf 256 octets * Nat.pow 256 missing)
  let ns := if d.lowFirst then ns.reverse else ns
  (ns.take (d.used octets.length)).map (fun n => digits.getD n '=')
    ++ List.replicate (d.group - d.used octets.length) '='

def writeOctet (d : Digits) (digits : Array Char) (w : Written) (octet : Nat) : Written :=
  let begun := octet :: w.begun
  if begun.length < d.octets then { w with begun := begun }
  else ⟨(d.groupDigits digits begun.reverse).reverseAux w.text, []⟩

/-- octets as digits; nothing if they do not end with a group and cannot be filled up -/
def encode? (d : Digits) (octets : List Nat) : Option (List Char) :=
  let digits := d.alphabet.toList.toArray
  let w := octets.foldl (d.writeOctet digits) ⟨[], []⟩
  if w.begun.isEmpty then some w.text.reverse
  else if d.fills then
    some ((d.groupDigits digits w.begun.reverse).reverseAux w.text).reverse
  else none

/-! ### reading -/

/-- what characters stand for, by their numbers -/
def values (d : Digits) : Array (Option Nat) :=
  (d.alphabet.toList.zipIdx ++ d.synonyms).foldl
    (fun vs c => vs.setIfInBounds c.1.toNat (some c.2)) (Array.replicate 256 none)

/-- the value of a character -/
def valueIn (values : Array (Option Nat)) (c : Char) : Option Nat := values.getD c.toNat none

/-- what has been read, last first; the group that has begun, last first; and whether there was
nothing wrong -/
structure Taken where
  octets : List Nat
  begun : List Char
  isGood : Bool

/-- the octets of a group, and whether it is one -/
def decodeGroup (d : Digits) (values : Array (Option Nat)) (cs : List Char) : List Nat × Bool :=
  let digits := ((cs.map (valueIn values)).takeWhile Option.isSome).filterMap id
  let missing := d.group - digits.length
  let ordered := if d.lowFirst then digits.reverse else digits
  let value := valueOf d.base ordered * Nat.pow d.base missing
  let known := digits.length * d.octets / d.group
  if Nat.pow 256 d.octets ≤ value then ([], false)
  else if missing = 0 then (highDigits 256 d.octets value, true)
  else if !d.fills || (cs.length < d.group && !d.allowsShort) then ([], false)
  else
    let isFilled := (cs.drop digits.length).all (· == '=') && cs.length = d.group
    -- what is behind the last whole octet is less than a digit
    let isExact := 2 ≤ digits.length && d.used known = digits.length
    ((highDigits 256 d.octets value).take known, isFilled && isExact)

def takeGroup (d : Digits) (values : Array (Option Nat)) (t : Taken) (cs : List Char) : Taken :=
  let (octets, isGood) := d.decodeGroup values cs
  ⟨octets.reverseAux t.octets, [], isGood⟩

def takeDigit (d : Digits) (values : Array (Option Nat)) (t : Taken) (c : Char) : Taken :=
  if !t.isGood then t
  else
    let begun := c :: t.begun
    if begun.length < d.group then { t with begun := begun }
    else d.takeGroup values t begun.reverse

/-- the octets of digits, and whether all could be read -/
def decode (d : Digits) (cs : List Char) : List Nat × Bool :=
  let values := d.values
  let t := cs.foldl (d.takeDigit values) ⟨[], [], true⟩
  let t := if t.isGood && !t.begun.isEmpty then d.takeGroup values t t.begun.reverse else t
  (t.octets.reverse, t.isGood)

end Digits

/-! ### programs -/

namespace Encodings

def names : List (OctetText × Takes × OctetText) :=
  [("decode", .nothing, "d"), ("ignore-garbage", .nothing, "i"), ("wrap", .value, "w")]

def options : OptionTable := ⟨"diw:", names, false⟩

/-- the encodings that an option can name -/
def kinds : List (OctetText × Digits) :=
  [("base64", .base64), ("base64url", .base64url), ("base32", .base32),
    ("base32hex", .base32hex), ("base16", .base16), ("base2msbf", .highBits),
    ("base2lsbf", .lowBits), ("z85", .base85)]

def kindOptions : OptionTable :=
  ⟨"diw:", names ++ kinds.map (fun k => (k.1, .nothing, k.1)), false⟩

/-- digits in lines of a width; without one they stand in no line -/
def wrapped (width : Nat) (cs : List Char) : List Char :=
  if width = 0 then cs
  else
    let (lines, column) := cs.foldl (fun (lines, column) c =>
      if column = width then (c :: '\n' :: lines, 1) else (c :: lines, column + 1)) ([], 0)
    (if column = 0 then lines else '\n' :: lines).reverse

/-- how much is read at once before any of it is decoded -/
def portion : Nat := 5600

/-- what begins a text, in whole portions, before the first character of another alphabet -/
def beforeStrangers (isStrange : Char → Bool) (cs : List Char) : List Char :=
  let before := cs.takeWhile (!isStrange ·)
  if before.length = cs.length then cs else cs.take (before.length / portion * portion)

/-- the digits and fillers in a text -/
def digitsAmong (d : Digits) (cs : List Char) : List Char :=
  let values := d.values
  cs.filter fun c => (d.fills && c == '=')
    || ((Digits.valueIn values c).isSome && !d.synonyms.any (·.1 == c))

/-- writes the octets that digits stand for, or complains -/
def putDecoded (d : Digits) (ignores : Bool) (cs : List Char) : Work Unit := do
  let cs := if ignores then digitsAmong d cs else cs
  let isStrange (c : Char) : Bool := d.alphabet.contains '_' && (c == '+' || c == '/')
  let readable := beforeStrangers isStrange cs
  let (octets, isGood) := d.decode (readable.filter (· != '\n'))
  put (String.ofList (octets.map Char.ofNat))
  if !isGood || readable.length < cs.length then fail "invalid input"

/-- writes octets as digits, or complains -/
def putEncoded (d : Digits) (width : Nat) (cs : List Char) : Work Unit :=
  match d.encode? (cs.map Char.toNat) with
  | some digits => put (String.ofList (wrapped width digits))
  | none => fail ("invalid input (length must be multiple of " ++ toString d.octets
      ++ " characters)")

/-- writes the operand, or the input, as digits or reads digits from it -/
def translate (d? : Option Digits) (a : Arguments) : Work Unit := do
  let widths ← (a.values "w").mapM fun text =>
    match amount? "" text with
    | .ok n => pure n
    | .error .tooLarge => pure 0
    | .error .invalid => fail ("invalid wrap size: " ++ quoted text)
  let d ← match d? with
    | some d => pure d
    | none => misused 1 "missing encoding type"
  match a.operands with
  | _ :: extra :: _ => extraOperand extra
  | _ => pure ()
  let path := a.operands.head?.getD "-"
  match ← openOperand path with
  | .error e => fail (named path ++ ": " ++ faultText e)
  | .ok fd => do
    match ← readAll fd with
    | .error e => fail ("read error: " ++ faultText e)
    | .ok text =>
      if a.has "d" then putDecoded d (a.has "i") text.toList
      else putEncoded d (widths.getLast?.getD 76) text.toList

/-- the utility of one encoding -/
def encoding (d : Digits) (args : List OctetText) : Work Unit := do
  translate (some d) (← readArguments options 1 args)

end Encodings

open Encodings

def base64 : List OctetText → Work Unit := encoding .base64
def base32 : List OctetText → Work Unit := encoding .base32

def basenc (args : List OctetText) : Work Unit := do
  let a ← readArguments kindOptions 1 args
  translate ((a.last? (kinds.map Prod.fst)).bind fun name => kinds.lookup name) a

end ShellWorkers.Utility

/-!
## Dumps

`od` shows the octets of its operands in rows of equal length, each behind its offset: as
characters, by their names, or as numbers of several octets in a base.  A row that is like the one
before it is not shown, but a star in place of all of them.
-/

namespace ShellWorkers.Utility

open Machine
open Text (OctetText)

namespace Dump

/-- how octets are shown -/
inductive Form where
  | char
  | name
  | signed
  | unsigned
  | octal
  | hexadecimal
  deriving DecidableEq

/-- a line of a row: a form, of how many octets a datum consists, and whether their characters
stand behind them -/
structure View where
  form : Form
  size : Nat
  trailer : Bool

/-- the width of the widest datum -/
def View.width (v : View) : Nat :=
  match v.form with
  | .char => 3
  | .name => 3
  | .signed => (toString (Nat.pow 2 (8 * v.size - 1))).length + 1
  | .unsigned => (toString (Nat.pow 2 (8 * v.size))).length
  | .octal => (8 * v.size + 2) / 3
  | .hexadecimal => 2 * v.size

/-- the names of the characters that are not printable -/
def controlNames : List OctetText :=
  ["nul", "soh", "stx", "etx", "eot", "enq", "ack", "bel", "bs", "ht", "nl", "vt", "ff", "cr",
    "so", "si", "dle", "dc1", "dc2", "dc3", "dc4", "nak", "syn", "etb", "can", "em", "sub", "esc",
    "fs", "gs", "rs", "us", "sp"]

/-- a number in a base, with zeros before it -/
def digitsOf (base width n : Nat) : OctetText :=
  let ds := Nat.toDigits base n
  String.ofList (List.replicate (width - ds.length) '0' ++ ds)

/-- the name of an octet of which the eighth bit does not count -/
def nameOf (n : Nat) : OctetText :=
  let n := n % 128
  if n = 127 then "del" else controlNames.getD n (String.ofList [Char.ofNat n])

/-- an octet as a character -/
def charOf (n : Nat) : OctetText :=
  let c := Char.ofNat n
  if n = 0 then "\\0"
  else
    match escapeLetter? c with
    | some letter => String.ofList ['\\', letter]
    | none => if isPrintable c then String.ofList [c] else digitsOf 8 3 n

/-- the number that octets stand for, the least one first -/
def valueOf (octets : List Nat) : Nat := octets.foldr (fun b n => n * 256 + b) 0

/-- one datum -/
def View.show (v : View) (octets : List Nat) : OctetText :=
  let n := valueOf octets
  match v.form with
  | .char => charOf n
  | .name => nameOf n
  | .signed =>
    let half := Nat.pow 2 (8 * v.size - 1)
    if n < half then toString n else "-" ++ toString (2 * half - n)
  | .unsigned => toString n
  | .octal => digitsOf 8 v.width n
  | .hexadecimal => digitsOf 16 v.width n

/-! ### rows -/

structure Layout where
  views : List View
  /-- octets of a row -/
  length : Nat
  /-- the base of the offsets, if they are shown -/
  base : Option Nat
  /-- rows that are alike are all shown -/
  all : Bool

/-- the width of all data of a row -/
def Layout.width (l : Layout) : Nat :=
  l.views.foldl (fun n v =>
    let w := (v.width + 1) * (l.length / v.size)
    if n < w then w else n) 0

def Layout.offset (l : Layout) (n : Nat) : OctetText :=
  match l.base with
  | none => ""
  | some base => digitsOf base (if base = 16 then 6 else 7) n

/-- the data of a row, each with blanks before it; `left` are the data still to come, and `pad` the
blanks left for them -/
def Layout.data (v : View) (fields total : Nat) : (left pad : Nat) → List Nat → OctetText
  | 0, _, _ => ""
  | _ + 1, _, [] => ""
  | left + 1, pad, octets =>
    let rest := total * left / fields
    let datum := v.show (octets.take v.size)
    let width := pad - rest + v.width
    String.ofList (List.replicate (width - datum.length) ' ') ++ datum
      ++ Layout.data v fields total left rest (octets.drop v.size)

/-- the characters of a row -/
def trailerOf (octets : List Nat) : OctetText :=
  let chars := octets.map fun n =>
    let c := Char.ofNat n
    if isPrintable c then c else '.'
  "  >" ++ String.ofList chars ++ "<"

/-- the lines of a row -/
def Layout.row (l : Layout) (offset : Nat) (octets : List Nat) : List OctetText :=
  let before := l.offset offset
  l.views.mapIdx fun i v =>
    let fields := l.length / v.size
    let total := l.width - v.width * fields
    let lead := if i = 0 then before else String.ofList (List.replicate before.length ' ')
    let text := Layout.data v fields total fields total octets
    let text := if v.trailer then
        text ++ String.ofList (List.replicate (l.width - text.length) ' ') ++ trailerOf octets
      else text
    lead ++ text

/-- all rows from an offset on; `previous` is the row before, and `starred` says that it has been
left out -/
def rows (l : Layout) : (fuel : Nat) → (offset : Nat) → (previous : Option (List Nat)) →
    (starred : Bool) → List Nat → Work Unit
  | 0, _, _, _, _ => pure ()
  | fuel + 1, offset, previous, starred, octets => do
    if octets.isEmpty then pure ()
    else
      let row := octets.take l.length
      let isSame := !l.all && row.length = l.length && previous == some row
      if isSame then
        if !starred then putLine "*"
      else (l.row offset row).forM putLine
      rows l fuel (offset + row.length) (some row) isSame (octets.drop l.length)

/-! ### arguments -/

/-- the size that letters or digits behind a form stand for, and the rest -/
def readSize (cs : List Char) : Nat × List Char :=
  match cs with
  | 'C' :: cs => (1, cs)
  | 'S' :: cs => (2, cs)
  | 'I' :: cs => (4, cs)
  | 'L' :: cs => (8, cs)
  | cs =>
    let ds := cs.takeWhile Char.isDigit
    if ds.isEmpty then (4, cs) else (digitsValue ds, cs.drop ds.length)

def formOf? (c : Char) : Option Form :=
  match c with
  | 'a' => some .name
  | 'c' => some .char
  | 'd' => some .signed
  | 'u' => some .unsigned
  | 'o' => some .octal
  | 'x' => some .hexadecimal
  | _ => none

/-- the views that a text of types stands for; the fuel is more than its length -/
def readViews (spelled : OctetText) : (fuel : Nat) → List Char → Except OctetText (List View)
  | 0, _ => .ok []
  | _ + 1, [] => .ok []
  | fuel + 1, c :: cs => do
    match formOf? c with
    | none =>
      .error ("invalid character '" ++ String.ofList [c] ++ "' in type string " ++ quoted spelled)
    | some form =>
      let (size, rest) := if form = .char || form = .name then (1, cs) else readSize cs
      if !([1, 2, 4, 8].contains size) then
        .error ("invalid type string " ++ quoted spelled
          ++ ";\nthis system doesn't provide a " ++ toString size ++ "-byte integral type")
      let trailer := rest.head? == some 'z'
      let rest := if trailer then rest.drop 1 else rest
      return ⟨form, size, trailer⟩ :: (← readViews spelled fuel rest)

/-- the type that a letter of its own stands for -/
def letterType? (option : OctetText) : Option OctetText :=
  match option with
  | "a" => some "a"
  | "b" => some "o1"
  | "c" => some "c"
  | "d" => some "u2"
  | "i" => some "d4"
  | "l" => some "d8"
  | "o" => some "o2"
  | "s" => some "d2"
  | "x" => some "x2"
  | "h" => some "x2"
  | "B" => some "o2"
  | "D" => some "u4"
  | "H" => some "x4"
  | "I" => some "d8"
  | "L" => some "d8"
  | "O" => some "o4"
  | "X" => some "x4"
  | _ => none

/-- all types that the options ask for -/
def typesOf (a : Arguments) : List OctetText :=
  a.options.filterMap fun (option, value?) =>
    if option == "t" then value? else letterType? option

def options : OptionTable where
  letters := "A:aBbcDdHhIij:LlN:OosS::t:vw::Xx"
  names := [("skip-bytes", .value, "j"), ("address-radix", .value, "A"),
    ("read-bytes", .value, "N"), ("format", .value, "t"), ("output-duplicates", .nothing, "v"),
    ("strings", .maybe, "S"), ("width", .maybe, "w")]
  strict := false

/-- the octets of operands one behind the other, and whether one of them could be opened; reading
ends when there are enough of them -/
def gather (enough : Option Nat) : List OctetText → (pieces : List OctetText) → (size : Nat) →
    (found : Bool) → Work (OctetText × Bool)
  | [], pieces, _, found => pure (String.join pieces.reverse, found)
  | path :: paths, pieces, size, found => do
    match ← openOperand path with
    | .error e => do
      warn (named path ++ ": " ++ faultText e)
      gather enough paths pieces size found
    | .ok fd => do
      let wanted := enough.map (· - size)
      let text ← match ← (match wanted with
          | some n => readSome fd n
          | none => readAll fd) with
        | .ok text => pure text
        | .error e => do
          let shown := if path = "-" then quoted "standard input" else named path
          warn (shown ++ ": " ++ faultText e)
          pure ""
      closeOperand path fd
      gather enough paths (text :: pieces) (size + text.length) true
where
  /-- as many octets of a stream, if it has them -/
  readSome (fd count : Nat) : Work (Except SystemFault OctetText) := do
    let rec more : (fuel : Nat) → (left : Nat) → List OctetText →
        Work (Except SystemFault OctetText)
      | 0, _, pieces => pure (.ok (String.join pieces.reverse))
      | fuel + 1, left, pieces => do
        if left = 0 then pure (.ok (String.join pieces.reverse))
        else
          match ← ask (.read fd (if left < pieceSize then left else pieceSize)) with
          | .error e => pure (.error e)
          | .ok text =>
            if text.isEmpty then pure (.ok (String.join pieces.reverse))
            else more fuel (left - text.length) (text :: pieces)
    more streamFuel count []

/-- an amount that an option takes: octal behind a zero, hexadecimal behind `0x` -/
def amountOf (option text : OctetText) : Work Nat := do
  let wrong : Work Nat := fail ("invalid " ++ option ++ " argument " ++ quoted text)
  let read (base : Nat) (isDigit : Char → Bool) (cs : List Char) : Work Nat := do
    let ds := cs.takeWhile isDigit
    let digit (c : Char) : Nat := if c.isDigit then c.toNat - 48 else c.toLower.toNat - 87
    match unitValue? streamUnits.toList (cs.drop ds.length) with
    | some unit => pure (ds.foldl (fun n c => n * base + digit c) 0 * unit)
    | none => wrong
  match text.toList with
  | '0' :: 'x' :: cs =>
    if cs.isEmpty then wrong
    else read 16 (fun c => c.isDigit || (97 ≤ c.toLower.toNat && c.toLower.toNat ≤ 102)) cs
  | '0' :: cs => read 8 (fun c => 48 ≤ c.toNat && c.toNat < 56) cs
  | c :: cs => if c.isDigit then read 10 Char.isDigit (c :: cs) else wrong
  | [] => wrong

end Dump

open Dump in
def od (args : List OctetText) : Work Unit := do
  let a ← readArguments Dump.options 1 args
  let base ← match a.value? "A" with
    | none => pure (some 8)
    | some "o" => pure (some 8)
    | some "d" => pure (some 10)
    | some "x" => pure (some 16)
    | some "n" => pure none
    | some other =>
      fail ("invalid output address radix '" ++ String.ofList (other.toList.take 1)
        ++ "'; it must be one character from [doxn]")
  let types := typesOf a
  let views ← (if types.isEmpty then ["o2"] else types).mapM fun spelled =>
    match readViews spelled (spelled.length + 1) spelled.toList with
    | .ok views => pure views
    | .error message => fail message
  let skipped ← match a.value? "j" with
    | some text => amountOf "-j" text
    | none => pure 0
  let limit ← match a.value? "N" with
    | some text => some <$> amountOf "-N" text
    | none => pure none
  let unit := views.flatten.foldl (fun n v => if n < v.size then v.size else n) 1
  let length ← match a.options.reverse.find? (·.1 == "w") with
    | none => pure 16
    | some (_, none) => pure 32
    | some (_, some text) => do
      let n ← amountOf "-w" text
      if n = 0 || n % unit ≠ 0 then do
        note ("warning: invalid width " ++ toString n ++ "; using " ++ toString unit ++ " instead")
        pure unit
      else pure n
  let paths := inputOperands a.operands
  let (text, found) ← gather (limit.map (· + skipped)) paths [] 0 false
  if found then
    if text.length < skipped then fail "cannot skip past end of combined input"
    let octets := (text.toList.drop skipped).map Char.toNat
    let l : Layout := ⟨views.flatten, length, base, a.has "v"⟩
    rows l (octets.length + 1) skipped none false octets
    if base.isSome then putLine (l.offset (skipped + octets.length))
  endInput "standard input" paths

end ShellWorkers.Utility
