import ShellWorkers.Utility.Columns

/-!
# Numbers

`numfmt` writes numbers in the way that people read them, with letters for great powers, or takes
such letters away; `factor` tells the prime numbers that a number is made of.  Numbers of `numfmt`
have a binary point, so that every step is rounded.

* `NumberScale.read`      a number as it is spelled, or what is wrong with it;
* `NumberStyle.text`      a number in the way that is asked for;
* `factorsOf`             the prime factors of a number in order.
-/

namespace ShellWorkers.Utility

open Machine
open Text (OctetText)
open ShellWorkers.Decimal

/-! ## scales -/

/-- the numbers that are reckoned with -/
abbrev extended : Floating.Precision := .extended

/-- what letters behind numbers stand for -/
inductive NumberScale where
  | none
  /-- powers of 1000, or of 1024 where an `i` follows -/
  | auto
  | si
  | iec
  /-- as before, where an `i` has to follow -/
  | iecI
deriving DecidableEq

namespace NumberScale

def ofWord (word : OctetText) : NumberScale :=
  match word with
  | "auto" => .auto
  | "si" => .si
  | "iec" => .iec
  | "iec-i" => .iecI
  | _ => .none

def base (s : NumberScale) : Nat :=
  match s with
  | .iec => 1024
  | .iecI => 1024
  | _ => 1000

end NumberScale

/-- the letters that stand for powers -/
def powerLetters : List Char := "KMGTPEZY".toList

/-- the letter of a power -/
def powerLetter (power : Nat) : List Char :=
  match power with
  | 0 => []
  | n + 1 => match powerLetters[n]? with
    | some c => [c]
    | Option.none => "(error)".toList

/-- the power that a letter stands for -/
def powerOf (c : Char) : Nat := powerLetters.idxOf c + 1

/-! ## reading -/

/-- what is wrong with a number -/
inductive NumberFault where
  | tooLarge
  | invalid
  /-- a letter that is not asked for -/
  | refused
  | wrongLetter
  | missingLetter
  /-- there is something behind the number -/
  | trailing (rest : List Char)

def NumberFault.message (text : OctetText) : NumberFault → OctetText
  | .tooLarge => "value too large to be converted: " ++ quoted text
  | .invalid => "invalid number: " ++ quoted text
  | .refused => "rejecting suffix in input: " ++ quoted text ++ " (consider using --from)"
  | .wrongLetter => "invalid suffix in input: " ++ quoted text
  | .missingLetter => "missing 'i' suffix in input: " ++ quoted text ++ " (e.g Ki/Mi/Gi)"
  | .trailing rest =>
    "invalid suffix in input " ++ quoted text ++ ": " ++ quoted (String.ofList rest)

/-- a number that was read: its value, whether digits may have been lost, and how many places it
has behind its point -/
structure NumberRead where
  value : Floating
  loses : Bool
  places : Nat

/-- digits as a number, whether some may have been lost, and the rest; without digits a point has
to follow -/
def readDigits (cs : List Char) : Except NumberFault (Floating × Bool × List Char) :=
  let ds := cs.takeWhile Char.isDigit
  let rest := cs.drop ds.length
  let count := (ds.dropWhile (· = '0')).length
  if 27 < count then .error .tooLarge
  else if ds.isEmpty && rest.head? != some '.' then .error .invalid
  else
    let value := ds.foldl (fun v c =>
      extended.sum (extended.product v (.ofNat 10)) (.ofNat (c.toNat - 48))) Floating.zero
    .ok (value, 18 < count, rest)

/-- a number without letters, and the rest -/
def readPointed (cs : List Char) : Except NumberFault (NumberRead × List Char) := do
  let negative := cs.head? == some '-'
  let (value, loses, rest) ← readDigits (if negative then cs.drop 1 else cs)
  let signed (v : Floating) : Floating := { v with negative := negative }
  match rest with
  | '.' :: after =>
    let (fraction, losesMore, rest) ← match after with
      | '-' :: ds => do
        let _ ← readDigits ds
        .error .invalid
      | after => readDigits after
    let places := after.length - rest.length
    let fraction := extended.quotient fraction (extended.power (.ofNat 10) places)
    .ok (⟨signed (extended.sum value fraction), loses || losesMore, places⟩, rest)
  | rest => .ok (⟨signed value, loses, 0⟩, rest)

namespace NumberScale

/-- a letter behind a number: the base and the power that it stands for, and the rest -/
def readLetter (s : NumberScale) (rest : List Char) : Except NumberFault (Nat × Nat × List Char) :=
  match rest.dropWhile isBlank with
  | [] => if s = .none then .error .refused else .ok (s.base, 0, [])
  | c :: rest =>
    if !powerLetters.contains c then .error .wrongLetter
    else if s = .none then .error .refused
    else
      match s, rest with
      | .auto, 'i' :: rest => .ok (1024, powerOf c, rest)
      | _, rest => .ok (s.base, powerOf c, rest)

/-- the number that a text spells -/
def read (s : NumberScale) (cs : List Char) : Except NumberFault NumberRead := do
  let (number, rest) ← readPointed cs
  let (base, power, places, rest) ←
    if rest.isEmpty then pure (s.base, 0, number.places, rest)
    else
      let (base, power, rest) ← s.readLetter rest
      pure (base, power, 0, rest)
  let rest ← match s, rest with
    | .iecI, 'i' :: rest => pure rest
    | .iecI, _ => .error .missingLetter
    | _, rest => pure rest
  if !rest.isEmpty then .error (.trailing rest)
  else
    let value := extended.product number.value (extended.power (.ofNat base) power)
    .ok { number with value := value, places := places }

end NumberScale

/-! ## rounding -/

/-- how numbers are made whole -/
inductive Rounding where
  | up
  | down
  | fromZero
  | towardsZero
  | nearest
deriving DecidableEq

namespace Rounding

def ofWord (word : OctetText) : Rounding :=
  match word with
  | "up" => .up
  | "down" => .down
  | "towards-zero" => .towardsZero
  | "nearest" => .nearest
  | _ => .fromZero

def ofInt (n : Int) : Floating := extended.nearest n 1

/-- the least whole number not below a number -/
def ceiling (x : Floating) : Int := -((-x.ratio.1).fdiv x.ratio.2)

def floor (x : Floating) : Int := x.ratio.1.fdiv x.ratio.2

/-- a number that is not too great made whole -/
def small (r : Rounding) (x : Floating) : Int :=
  match r with
  | .up => ceiling x
  | .down => floor x
  | .fromZero => if x.negative then floor x else ceiling x
  | .towardsZero => x.whole
  | .nearest => (extended.sum x (extended.nearest (if x.negative then -1 else 1) 2)).whole

/-- a number made whole; multiples of the greatest number of 63 bits are set aside -/
def apply (r : Rounding) (x : Floating) : Floating :=
  let times := (extended.quotient x (.ofNat integerLimit)).whole
  let aside := extended.product (.ofNat integerLimit) (ofInt times)
  extended.sum aside (ofInt (r.small (extended.difference x aside)))

end Rounding

/-- whether a number is at least as far from nothing as another one -/
def reaches (x : Floating) (n : Nat) : Bool := n * x.ratio.2 ≤ x.ratio.1.natAbs

/-- a number less than a base, and the power of the base that was taken away -/
def scaleDown (base : Nat) : (fuel : Nat) → (power : Nat) → Floating → Floating × Nat
  | 0, power, x => (x, power)
  | fuel + 1, power, x =>
    if reaches x base then
      scaleDown base fuel (power + 1) (extended.quotient x (.ofNat base))
    else (x, power)

/-- more powers than numbers have -/
def powerFuel : Nat := 20000

/-! ## writing -/

/-- what happens to numbers that are wrong -/
inductive WrongNumbers where
  | abort
  | fail
  | warn
  | ignore
deriving DecidableEq

def WrongNumbers.ofWord (word : OctetText) : WrongNumbers :=
  match word with
  | "fail" => .fail
  | "warn" => .warn
  | "ignore" => .ignore
  | _ => .abort

/-- how numbers are read and written -/
structure NumberStyle where
  source : NumberScale
  target : NumberScale
  /-- what a number is multiplied by, and what it is divided by -/
  sourceUnit : Nat
  targetUnit : Nat
  rounding : Rounding
  /-- how wide a number is at least, and on which side it stands -/
  width : Nat
  left : Bool
  /-- how wide it is with zeros before it -/
  zeros : Nat
  places? : Option Nat
  unit? : Option OctetText
  delimiter? : Option Char
  /-- the fields that are numbers; the first one if none are named -/
  fields : List Span
  ending : Char
  wrong : WrongNumbers
  debug : Bool
  /-- what stands around a number -/
  before : OctetText
  behind : OctetText

namespace NumberStyle

/-- fields between blanks are as wide as they were -/
def keepsWidth (s : NumberStyle) : Bool := s.width = 0 && s.delimiter?.isNone

/-- a number with places, and zeros before it -/
def digits (s : NumberStyle) (places : Nat) (x : Floating) : List Char :=
  let (n, d) := x.ratio
  let (whole, fraction) := Floating.cutDigits places
    (Floating.divideEven (n.natAbs * Nat.pow 10 places) d)
  let text := Floating.withPoint false whole fraction
  if n < 0 then '-' :: Floating.padded (s.zeros - 1) text else Floating.padded s.zeros text

/-- a number with at most as many places, and with a letter for its power -/
def scaled (s : NumberStyle) (x : Floating) : List Char :=
  let base := s.target.base
  let (x, power) := scaleDown base powerFuel 0 x
  let adjust := match s.places? with
    | some places => if power * 3 < places then power * 3 else places
    | none => if reaches x 10 then 0 else 1
  let shift := extended.power (.ofNat 10) adjust
  let x := extended.quotient (s.rounding.apply (extended.product x shift)) shift
  let (x, power) :=
    if reaches x base then (extended.quotient x (.ofNat base), power + 1) else (x, power)
  let places := s.places?.getD (if x.ratio.1 ≠ 0 && !reaches x 10 && 0 < power then 1 else 0)
  s.digits places x ++ powerLetter power
    ++ (if s.target = .iecI && 0 < power then ['i'] else [])

/-- a number without letters -/
def unscaled (s : NumberStyle) (places : Nat) (x : Floating) : List Char :=
  let shift := extended.power (.ofNat 10) places
  s.digits places (extended.quotient (s.rounding.apply (extended.product x shift)) shift)

/-- a number in messages -/
def shown (x : Floating) : OctetText :=
  match x.magnitude with
  | .finite m e => (if x.negative then "-" else "") ++ String.ofList (Floating.general 6 false m e)
  | _ => ""

/-- what prevents that a number is written -/
def obstacle? (s : NumberStyle) (places : Nat) (x : Floating) : Option OctetText :=
  let power := (scaleDown 10 powerFuel 0 x).2
  if s.target = .none && 18 < power + places then
    some (if places = 0 then
        "value too large to be printed: '" ++ shown x ++ "' (consider using --to)"
      else "value/precision too large to be printed: '" ++ shown x ++ "/" ++ toString places
        ++ "' (consider using --to)")
  else if 26 < power then
    some ("value too large to be printed: '" ++ shown x ++ "' (cannot handle values > 999Y)")
  else none

/-- how many octets a number takes at most -/
def longest : Nat := 127

/-- a number in the way that is asked for -/
def text (s : NumberStyle) (places : Nat) (x : Floating) : Work OctetText := do
  let number := if s.target = .none then s.unscaled places x else s.scaled x
  if longest < number.length then
    let sign := if x.ratio.1 < 0 then "-" else ""
    let (n, d) := x.ratio
    let (whole, fraction) := Floating.cutDigits 6 (Floating.divideEven (n.natAbs * 1000000) d)
    fail ("failed to prepare value '" ++ sign
      ++ String.ofList (Floating.withPoint false whole fraction) ++ "' for printing")
  pure (String.ofList ((number ++ (s.unit?.getD "").toList).take longest))

/-- tells that a number is wrong, and stops where that is asked for -/
def complain (s : NumberStyle) (message : OctetText) : Work Unit :=
  match s.wrong with
  | .abort => failWith 2 message
  | .ignore => pure ()
  | _ => note message

/-- a text in a width -/
def aligned (s : NumberStyle) (width : Nat) (text : OctetText) : OctetText :=
  let fill := String.ofList (List.replicate (width - text.length) ' ')
  if s.left then text ++ fill else fill ++ text

/-- writes a field as a number, or as it is when it is wrong: whether it was a number -/
def putNumber (s : NumberStyle) (number : Nat) (field : OctetText) : Work Bool := do
  let field := match s.unit? with
    | some unit =>
      if unit.length < field.length && field.endsWith unit then
        String.ofList (field.toList.take (field.length - unit.length))
      else field
    | none => field
  let bare := field.toList.dropWhile isBlank
  let width :=
    if !s.keepsWidth then s.width
    else if bare.length < field.length || 1 < number then field.length else 0
  let refuse (message : OctetText) : Work Bool := do
    s.complain message
    put field
    pure false
  match s.source.read bare with
  | .error e => refuse (e.message (String.ofList bare))
  | .ok r => do
    if r.loses && s.debug then
      note ("large input value " ++ quoted (String.ofList bare) ++ ": possible precision loss")
    let value :=
      if s.sourceUnit = 1 && s.targetUnit = 1 then r.value
      else extended.quotient (extended.product r.value (.ofNat s.sourceUnit)) (.ofNat s.targetUnit)
    let places := s.places?.getD r.places
    match s.obstacle? places value with
    | some message => refuse message
    | none => do
      let text ← s.text places value
      put (s.before ++ s.aligned width text ++ s.behind)
      pure true

/-- the fields of a line; blanks before a field belong to it -/
def fieldsOf (s : NumberStyle) (line : List Char) : List (List Char) :=
  match s.delimiter? with
  | some d => if d = '\x00' then [line] else (line.splitOn d)
  | none =>
    let isEnd (c : Char) : Bool := isBlank c || c = '\n'
    between isEnd (line.length + 1) line
where
  between (isEnd : Char → Bool) : (fuel : Nat) → List Char → List (List Char)
    | 0, _ => []
    | fuel + 1, cs =>
      let blanks := cs.takeWhile isEnd
      let rest := cs.drop blanks.length
      let word := rest.takeWhile fun c => !isEnd c
      match rest.drop word.length with
      | [] => [blanks ++ word]
      | _ :: rest => (blanks ++ word) :: between isEnd fuel rest

/-- whether a field is a number -/
def isNumber (s : NumberStyle) (number : Nat) : Bool :=
  if s.fields.isEmpty then number = 1 else s.fields.any (·.has number)

/-- writes a line with its numbers changed: whether all of them were right -/
def putLineOf (s : NumberStyle) (line : List Char) : Work Bool := do
  let between := String.ofList [s.delimiter?.getD ' ']
  let (_, right) ← (s.fieldsOf (line.takeWhile (· ≠ '\x00'))).foldlM (fun (number, right) field => do
      if 1 < number then put between
      let field := String.ofList field
      let isRight ← if s.isNumber number then s.putNumber number field else do
          put field
          pure true
      pure (number + 1, right && isRight)) (1, true)
  pure right

end NumberStyle

/-! ## arguments of numfmt -/

def numfmtOptions : OptionTable where
  letters := "d:z"
  names := [("from", .value, "from"), ("from-unit", .value, "from-unit"), ("to", .value, "to"),
    ("to-unit", .value, "to-unit"), ("round", .value, "round"), ("padding", .value, "padding"),
    ("suffix", .value, "suffix"), ("grouping", .nothing, "grouping"), ("delimiter", .value, "d"),
    ("field", .value, "field"), ("debug", .nothing, "debug"), ("header", .maybe, "header"),
    ("format", .value, "format"), ("invalid", .value, "invalid"),
    ("zero-terminated", .nothing, "z")]
  strict := false

/-- the size of a unit: a number, and maybe a letter for a power of 1000, or of 1024 if an `i`
follows -/
def readUnit? (text : OctetText) : Option Nat :=
  let cs := withoutSign text.toList
  let ds := cs.takeWhile Char.isDigit
  let value := if ds.isEmpty then 1 else digitsValue ds
  let size : Option Nat := match cs.drop ds.length with
    | [] => if ds.isEmpty then none else some value
    | [c] => if powerLetters.contains c then some (value * Nat.pow 1000 (powerOf c)) else none
    | [c, 'i'] => if powerLetters.contains c then some (value * Nat.pow 1024 (powerOf c)) else none
    | _ => none
  size.filter fun n => 0 < n && n ≤ naturalLimit

/-- the size of a unit, or the end of the utility -/
def readUnit (text : OctetText) : Work Nat :=
  match readUnit? text with
  | some n => pure n
  | none => fail ("invalid unit size: " ++ quoted text)

/-- how many octets stand before the directive of a format, and how many characters they spell: a
doubled sign spells one -/
def beforeDirective : List Char → Option (Nat × Nat)
  | [] => none
  | '%' :: '%' :: cs => (beforeDirective cs).map fun (octets, chars) => (octets + 2, chars + 1)
  | '%' :: _ => some (0, 0)
  | _ :: cs => (beforeDirective cs).map fun (octets, chars) => (octets + 1, chars + 1)

/-- a sign and digits as a number, and the rest; nothing where there is none -/
def readSigned (cs : List Char) : Option Int × List Char :=
  let bare := cs.dropWhile fun c => c == ' ' || (9 ≤ c.toNat && c.toNat ≤ 13)
  let (negative, bare) := match bare with
    | '-' :: bare => (true, bare)
    | '+' :: bare => (false, bare)
    | bare => (false, bare)
  let ds := bare.takeWhile Char.isDigit
  if ds.isEmpty then (none, cs)
  else (some (if negative then -(digitsValue ds : Int) else digitsValue ds), bare.drop ds.length)

/-- the flags that begin a directive: whether zeros are asked for, whether groups are, and the
rest -/
def readFlags : (fuel : Nat) → (zeros groups : Bool) → List Char → Bool × Bool × List Char
  | 0, zeros, groups, cs => (zeros, groups, cs)
  | fuel + 1, zeros, groups, cs =>
    let rest := cs.dropWhile (· = ' ')
    match rest with
    | '\'' :: rest => readFlags fuel zeros true rest
    | '0' :: rest => readFlags fuel true groups rest
    | rest => if rest.length < cs.length then readFlags fuel zeros groups rest
      else (zeros, groups, rest)

/-- whether a text has a directive -/
def hasDirective : List Char → Bool
  | [] => false
  | '%' :: '%' :: cs => hasDirective cs
  | '%' :: _ => true
  | _ :: cs => hasDirective cs

/-- reads a format into a style, and whether it asks for groups -/
def NumberStyle.withFormat (s : NumberStyle) (format : OctetText) : Work (NumberStyle × Bool) := do
  match beforeDirective format.toList with
  | none => fail ("format " ++ quoted format ++ " has no % directive")
  | some (octets, chars) => do
    let cs := format.toList
    let (zeros, groups, rest) := readFlags cs.length false false (cs.drop (octets + 1))
    let (width?, rest) := readSigned rest
    if width?.any fun n => integerLimit < n.natAbs then
      fail ("invalid format " ++ quoted format ++ " (width overflow)")
    let width := width?.getD 0
    if s.debug && width ≠ 0 && s.width ≠ 0 && !(zeros && 0 < width) then
      note "--format padding overriding --padding"
    let s := if width < 0 then { s with left := true, width := width.natAbs }
      else if width = 0 then s
      else if zeros then { s with zeros := width.natAbs }
      else { s with width := width.natAbs }
    if rest.isEmpty then fail ("format " ++ quoted format ++ " ends in %")
    let (s, rest) ← match rest with
      | '.' :: rest => do
        let (places?, after) := readSigned rest
        let places := places?.getD 0
        if places < 0 || integerLimit < places.natAbs
            || (rest.head?.any fun c => isBlank c || c = '+') then
          fail ("invalid precision in format " ++ quoted format)
        pure ({ s with places? := some places.natAbs }, after)
      | rest => pure (s, rest)
    match rest with
    | 'f' :: behind => do
      if hasDirective behind then
        fail ("format " ++ quoted format ++ " has too many % directives")
      pure ({ s with before := String.ofList (cs.take chars), behind := String.ofList behind },
        groups)
    | _ =>
      fail ("invalid format " ++ quoted format ++ ", directive must be %[0]['][-][N][.][N]f")

/-- what the options of `numfmt` ask for -/
structure NumberPlan where
  style : NumberStyle
  format? : Option OctetText
  groups : Bool
  fieldsNamed : Bool
  header : Nat

/-- takes one option into account -/
def NumberPlan.withOption (p : NumberPlan) (option : OctetText × Option OctetText) :
    Work NumberPlan := do
  let s := p.style
  let value := option.2.getD ""
  match option.1 with
  | "from" => do
    let word ← chooseWord "--from" [["none"], ["auto"], ["si"], ["iec"], ["iec-i"]] value
    pure { p with style := { s with source := .ofWord word } }
  | "to" => do
    let word ← chooseWord "--to" [["none"], ["si"], ["iec"], ["iec-i"]] value
    pure { p with style := { s with target := .ofWord word } }
  | "from-unit" => do
    let n ← readUnit value
    pure { p with style := { s with sourceUnit := n } }
  | "to-unit" => do
    let n ← readUnit value
    pure { p with style := { s with targetUnit := n } }
  | "round" => do
    let word ← chooseWord "--round"
      [["up"], ["down"], ["from-zero"], ["towards-zero"], ["nearest"]] value
    pure { p with style := { s with rounding := .ofWord word } }
  | "invalid" => do
    let word ← chooseWord "--invalid" [["abort"], ["fail"], ["warn"], ["ignore"]] value
    pure { p with style := { s with wrong := .ofWord word } }
  | "padding" =>
    match wholeNumber? value with
    | .error _ => fail ("invalid padding value " ++ quoted value)
    | .ok n =>
      if n = 0 || n < -(integerLimit : Int) then fail ("invalid padding value " ++ quoted value)
      else pure { p with style := { s with width := n.natAbs, left := s.left || n < 0 } }
  | "field" => do
    if p.fieldsNamed then fail "multiple field specifications"
    if value = "-" then pure { p with fieldsNamed := true, style := { s with fields := [⟨1, none⟩] } }
    else
      match readSpans ⟨true⟩ value with
      | .error message => misused 1 message
      | .ok spans => pure { p with fieldsNamed := true, style := { s with fields := spans } }
  | "d" =>
    match value.toList with
    | [] => pure { p with style := { s with delimiter? := some '\x00' } }
    | [c] => pure { p with style := { s with delimiter? := some c } }
    | _ => fail "the delimiter must be a single character"
  | "header" =>
    match option.2.map (amount? "") with
    | none => pure { p with header := 1 }
    | some (.ok (n + 1)) => pure { p with header := n + 1 }
    | some _ => fail ("invalid header value " ++ quoted value)
  | "suffix" => pure { p with style := { s with unit? := some value } }
  | "z" => pure { p with style := { s with ending := '\x00' } }
  | "debug" => pure { p with style := { s with debug := true } }
  | "format" => pure { p with format? := some value }
  | "grouping" => pure { p with groups := true }
  | _ => pure p

def numfmt (args : List OctetText) : Work Unit := do
  let a ← readArguments numfmtOptions 1 args
  let start : NumberStyle := ⟨.none, .none, 1, 1, .fromZero, 0, false, 0, none, none, none, [], '\n',
    .abort, false, "", ""⟩
  let p ← a.options.foldlM NumberPlan.withOption ⟨start, none, false, false, 0⟩
  let s := p.style
  if p.format?.isSome && p.groups then fail "--grouping cannot be combined with --format"
  if s.debug && s.source = .none && s.target = .none && !p.groups && s.width = 0
      && p.format?.isNone then
    note "no conversion option specified"
  let (s, groups) ← match p.format? with
    | some format => s.withFormat format
    | none => pure (s, p.groups)
  if groups then
    if s.target ≠ .none then fail "grouping cannot be combined with --to"
    if s.debug then note "grouping has no effect in this locale"
  let right ← if a.operands.isEmpty then do
      let step (state : Nat × Bool) (line : OctetText) : Work (Nat × Bool) := do
        let (header, right) := state
        if header ≠ 0 then
          put (String.ofList (line.toList.takeWhile (· ≠ '\x00')))
          pure (header - 1, right)
        else
          let (bare, ended) := splitEnd s.ending line
          let isRight ← s.putLineOf bare
          if ended then put (String.ofList [s.ending])
          pure (0, right && isRight)
      let ((_, right), fault) ← foldLines s.ending 0 step streamFuel "" (p.header, true)
      match fault with
      | some e => note ("error reading input: " ++ faultText e)
      | none => pure ()
      pure right
    else do
      if s.debug && p.header ≠ 0 then note "--header ignored with command-line input"
      a.operands.foldlM (fun right operand => do
        let isRight ← s.putLineOf operand.toList
        put (String.ofList [s.ending])
        pure (right && isRight)) true
  if s.debug && !right then note "failed to convert some of the input numbers"
  if !right && (s.wrong = .abort || s.wrong = .fail) then setCode 2

/-! ## factors -/

/-- a power of a number with respect to a modulus -/
def powerModulo (modulus : Nat) : (fuel : Nat) → (base exponent : Nat) → Nat
  | 0, _, _ => 1 % modulus
  | fuel + 1, base, exponent =>
    if exponent = 0 then 1 % modulus
    else
      let half := powerModulo modulus fuel (base * base % modulus) (exponent / 2)
      if exponent % 2 = 1 then half * base % modulus else half

/-- the odd part of a number, and how often it can be halved -/
def oddPart : (fuel : Nat) → (halvings : Nat) → Nat → Nat × Nat
  | 0, halvings, n => (n, halvings)
  | fuel + 1, halvings, n => if n % 2 = 0 then oddPart fuel (halvings + 1) (n / 2) else (n, halvings)

/-- whether a number is squared to one less than the modulus within some steps -/
def reachesMinusOne (modulus : Nat) : (steps : Nat) → Nat → Bool
  | 0, _ => false
  | steps + 1, x => x + 1 = modulus || reachesMinusOne modulus steps (x * x % modulus)

/-- the prime numbers below a thousand -/
def smallPrimes : List Nat :=
  ((List.range 1000).drop 2).foldl (fun primes n =>
    if primes.any fun p => n % p = 0 then primes else primes ++ [n]) []

/-- whether a number without small factors is prime: no base tells otherwise -/
def isPrime (n : Nat) : Bool :=
  let (odd, halvings) := oddPart (Nat.log2 n + 1) 0 (n - 1)
  (smallPrimes.take 25).all fun base =>
    let x := powerModulo n (Nat.log2 n + 1) (base % n) odd
    base % n = 0 || x = 1 || reachesMinusOne n halvings x

/-- two walkers on the same way, one twice as fast, and the product of their distances -/
structure Chase where
  slow : Nat
  fast : Nat
  product : Nat

/-- one step of both walkers -/
def Chase.step (n add : Nat) (c : Chase) : Chase :=
  let next (x : Nat) : Nat := (x * x + add) % n
  let slow := next c.slow
  let fast := next (next c.fast)
  ⟨slow, fast, c.product * (if slow < fast then fast - slow else slow - fast) % n⟩

/-- follows the walkers until their distance has a factor in common with the number; distances are
looked at together, and one by one once they hide the factor -/
def Chase.divisor? (n add : Nat) : (fuel : Nat) → (stride : Nat) → Chase → Option Nat
  | 0, _, _ => none
  | fuel + 1, stride, c =>
    let c' := stride.repeat (Chase.step n add) { c with product := 1 }
    let d := Nat.gcd c'.product n
    if d = 1 then divisor? n add fuel stride c'
    else if d ≠ n then some d
    else if stride = 1 then none
    else divisor? n add fuel 1 c

/-- a divisor of a number that is not prime -/
def properDivisor? (n : Nat) : Option Nat :=
  (List.range 20).findSome? fun i => Chase.divisor? n (i + 1) streamFuel 64 ⟨2, 2, 1⟩

/-- the prime factors of a number without small ones -/
def largeFactors : (fuel : Nat) → Nat → List Nat
  | 0, n => [n]
  | fuel + 1, n =>
    if n < 2 then []
    else if isPrime n then [n]
    else
      match properDivisor? n with
      | none => [n]
      | some d => largeFactors fuel d ++ largeFactors fuel (n / d)

/-- a prime number taken out of a number as often as it can be -/
def takeOut (p : Nat) : (fuel : Nat) → List Nat → Nat → List Nat × Nat
  | 0, found, n => (found, n)
  | fuel + 1, found, n =>
    if n % p = 0 then takeOut p fuel (p :: found) (n / p) else (found, n)

/-- the prime factors of a number in order -/
def factorsOf (n : Nat) : List Nat :=
  if n = 0 then []
  else
    let (small, rest) := smallPrimes.foldl (fun (found, n) p =>
      if n < p * p then (found, n) else takeOut p (Nat.log2 n + 1) found n) ([], n)
    small.reverse ++ (if rest < 1000000 then (if rest = 1 then [] else [rest])
      else (largeFactors (Nat.log2 rest + 1) rest).mergeSort fun a b => decide (a ≤ b))

/-- how much text is held back until whole lines of it are written -/
def factorPiece : Nat := 512

/-- writes the factors of a number behind those that are held back; a great number is not held
back -/
def putFactors (pending : List Char) (word : OctetText) : Work (List Char) := do
  let ds := match word.toList.dropWhile (· = ' ') with
    | '+' :: ds => ds
    | ds => ds
  if ds.isEmpty || !ds.all Char.isDigit then
    warn (quoted word ++ " is not a valid positive integer")
    pure pending
  else
    let n := digitsValue ds
    let line := toString n ++ ":" ++ String.join ((factorsOf n).map fun p => " " ++ toString p)
    if Nat.pow 2 127 ≤ n then do
      putLine line
      pure pending
    else
      let pending := pending ++ line.toList ++ ['\n']
      if pending.length < factorPiece then pure pending
      else do
        let beyond := ((pending.take factorPiece).reverse.dropWhile (· ≠ '\n')).length
        put (String.ofList (pending.take beyond))
        pure (pending.drop beyond)

def factor (args : List OctetText) : Work Unit := do
  let a ← readArguments ⟨"", [], false⟩ 1 args
  let pending ← if !a.operands.isEmpty then a.operands.foldlM putFactors []
    else do
      let step (pending : List Char) (line : OctetText) : Work (List Char) :=
        let blanked := line.map fun c => if c = '\t' || c = '\n' then ' ' else c
        ((blanked.splitOn " ").filter (!·.isEmpty)).foldlM putFactors pending
      pure (← foldLines '\n' 0 step streamFuel "" []).1
  put (String.ofList pending)

end ShellWorkers.Utility
