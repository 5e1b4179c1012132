import ShellWorkers.Regex.Reader
import ShellWorkers.Text.Directive
import ShellWorkers.Utility.Amounts

/-!
# Numbered lines and sequences

Numbers before lines, and lines of numbers.
-/

/-!
## Numbered lines

`nl` writes numbers before lines.  A text has pages of three sections, a header, a body and a
footer, each of which begins with a line of marks and says for itself which lines have numbers.

* `Style`           which lines of a section have numbers;
* `sectionOf?`      the section that a line begins;
* `Counter`         the number of the next line.
-/

namespace ShellWorkers.Utility

open Machine
open Text (OctetText)

namespace LineNumbering

/-- which lines have numbers -/
inductive Style where
  | all
  | nonempty
  | none
  | found (regex : Regex)

/-- how a number is written -/
inductive NumberForm where
  | left
  | right
  | zeros

inductive Section where
  | header
  | body
  | footer

structure Plan where
  header : Style
  body : Style
  footer : Style
  /-- the marks that begin a section, once to thrice -/
  marks : List Char
  start : Int
  step : Int
  /-- of so many empty lines one has a number -/
  emptyLines : Nat
  form : NumberForm
  keepsNumbers : Bool
  separator : OctetText
  width : Nat

def Plan.style (p : Plan) : Section → Style
  | .header => p.header
  | .body => p.body
  | .footer => p.footer

/-- the section that a line begins -/
def Plan.sectionOf? (p : Plan) (line : List Char) : Option Section :=
  if p.marks.length < 2 then none
  else if line == p.marks ++ p.marks ++ p.marks then some .header
  else if line == p.marks ++ p.marks then some .body
  else if line == p.marks then some .footer
  else none

/-- a number as it stands before a line -/
def Plan.numberText (p : Plan) (n : Int) : OctetText :=
  let digits := toString n.natAbs
  let sign := if n < 0 then "-" else ""
  let fill (c : Char) : OctetText :=
    String.ofList (List.replicate (p.width - (sign ++ digits).length) c)
  (match p.form with
    | .left => sign ++ digits ++ fill ' '
    | .right => fill ' ' ++ sign ++ digits
    | .zeros => sign ++ fill '0' ++ digits)
    ++ p.separator

/-- what stands before a line without a number -/
def Plan.blank (p : Plan) : OctetText :=
  String.ofList (List.replicate (p.width + p.separator.length) ' ')

/-- where the work has come to -/
structure Counter where
  place : Section
  /-- the next number; none is left behind the greatest one -/
  number : Option Int
  /-- how many empty lines came last -/
  empty : Nat

/-- the number that comes behind another one -/
def Plan.next (p : Plan) (n : Int) : Option Int :=
  let next := n + p.step
  if (integerLimit : Int) < next || next < -(integerLimit : Int) - 1 then none else some next

/-- writes a line with its number -/
def Plan.numbered (p : Plan) (line : OctetText) (c : Counter) : Work Counter := do
  match c.number with
  | none => fail "line number overflow"
  | some n => do
    put (p.numberText n ++ line ++ "\n")
    pure { c with number := p.next n, empty := 0 }

def Plan.unnumbered (p : Plan) (line : OctetText) (c : Counter) : Work Counter := do
  put (p.blank ++ line ++ "\n")
  pure c

/-- writes a line -/
def Plan.take (p : Plan) (c : Counter) (cs : List Char) : Work Counter := do
  match p.sectionOf? cs with
  | some place => do
    put "\n"
    pure { c with place := place, number := if p.keepsNumbers then c.number else some p.start }
  | none =>
    let line := String.ofList cs
    match p.style c.place with
    | .none => p.unnumbered line c
    | .nonempty => if cs.isEmpty then p.unnumbered line c else p.numbered line c
    | .found r => if r.isIn cs then p.numbered line c else p.unnumbered line c
    | .all =>
      if cs.isEmpty && c.empty + 1 < p.emptyLines then
        p.unnumbered line { c with empty := c.empty + 1 }
      else p.numbered line c

/-! ### arguments -/

def options : OptionTable where
  letters := "b:d:f:h:i:l:n:ps:v:w:"
  names := [("body-numbering", .value, "b"), ("section-delimiter", .value, "d"),
    ("footer-numbering", .value, "f"), ("header-numbering", .value, "h"),
    ("line-increment", .value, "i"), ("join-blank-lines", .value, "l"),
    ("number-format", .value, "n"), ("no-renumber", .nothing, "p"),
    ("number-separator", .value, "s"), ("starting-line-number", .value, "v"),
    ("number-width", .value, "w")]
  strict := false

/-- the style that an option names; a message is written when it names none -/
def styleOf (a : Arguments) (option what : OctetText) (default : Style) : Work (Option Style) := do
  match a.value? option with
  | none => pure (some default)
  | some text =>
    match text.toList with
    | 'a' :: _ => pure (some .all)
    | 't' :: _ => pure (some .nonempty)
    | 'n' :: _ => pure (some .none)
    | 'p' :: pattern =>
      match Regex.read { Regex.Dialect.basic with strict := false } pattern with
      | .ok r => pure (some (.found r.regex))
      | .error f => fail f.message
    | _ => do
      note ("invalid " ++ what ++ " numbering style: " ++ quoted text)
      pure none

/-- a whole number that is not below another one -/
def numberOf (a : Arguments) (option what : OctetText) (default least : Int) : Work Int := do
  match a.value? option with
  | none => pure default
  | some text =>
    let message := "invalid " ++ what ++ ": " ++ quoted text
    match wholeNumber? text with
    | .ok n => if n < least then fail (message ++ ": Numerical result out of range") else pure n
    | .error .invalid => fail message
    | .error .tooLarge => fail (message ++ ": Value too large for defined data type")

/-- the marks of sections; one character has a colon behind it -/
def marksOf (text : OctetText) : List Char :=
  match text.toList with
  | [c] => [c, ':']
  | cs => cs

def formOf (a : Arguments) : Work (Option NumberForm) := do
  match a.value? "n" with
  | none => pure (some .right)
  | some "ln" => pure (some .left)
  | some "rn" => pure (some .right)
  | some "rz" => pure (some .zeros)
  | some other => do
    note ("invalid line numbering format: " ++ quoted other)
    pure none

end LineNumbering

open LineNumbering in
def nl (args : List OctetText) : Work Unit := do
  let a ← readArguments options 1 args
  let lowest := -(integerLimit : Int) - 1
  let header ← styleOf a "h" "header" .none
  let body ← styleOf a "b" "body" .nonempty
  let footer ← styleOf a "f" "footer" .none
  let start ← numberOf a "v" "starting line number" 1 lowest
  let step ← numberOf a "i" "line number increment" 1 lowest
  let emptyLines ← numberOf a "l" "line number of blank lines" 1 1
  let width ← numberOf a "w" "line number field width" 6 1
  match header, body, footer, ← formOf a with
  | some header, some body, some footer, some form => do
    let p : Plan := {
      header, body, footer, start, step, form
      marks := marksOf ((a.value? "d").getD "\\:")
      emptyLines := emptyLines.toNat
      keepsNumbers := a.has "p"
      separator := (a.value? "s").getD "\t"
      width := width.toNat }
    let paths := inputOperands a.operands
    let take (c : Counter) (line : OctetText) : Work Counter := p.take c (splitEnd '\n' line).1
    let _ ← paths.foldlM (foldOperand '\n' take) ⟨.body, some start, 0⟩
    endInput "-" paths
  | _, _, _, _ => do
    putMessage ("Try '" ++ (← get).name ++ " --help' for more information.\n")
    stop 1

end ShellWorkers.Utility

/-!
## Sequences

`seq` writes numbers from one to another by steps, with as many places behind the point as its
arguments have; `yes` writes a line again and again.
-/

namespace ShellWorkers.Utility

open Machine
open Text (OctetText Directive)
open ShellWorkers.Decimal

namespace Sequence

/-- a bound or a step as it was spelled: its value as a ratio unless it has no bound, how many
places it has behind the point, and how wide it is -/
structure Bound where
  negative : Bool
  ratio : Option (Nat × Nat)
  places : Option Nat
  width : Nat

/-- the smaller one of two numbers -/
def lesser (a b : Nat) : Nat := if a < b then a else b

/-- how many places a spelling has, and how wide it is without its exponent -/
def measure (cs : List Char) : Nat × Nat :=
  let mantissa := cs.takeWhile fun c => c != 'e' && c != 'E'
  let whole := mantissa.takeWhile (· != '.')
  let isPointed := whole.length < mantissa.length
  let fraction := mantissa.length - whole.length - 1
  let missing := (whole.getLast?.map fun c => !c.isDigit).getD true
  let width : Int := (mantissa.length : Int)
    + (if !isPointed then 0 else if fraction = 0 then -1 else if missing then 1 else 0)
  let exponent := (Floating.exponent ['e', 'E'] (cs.drop mantissa.length)).1
  if mantissa.length = cs.length then (fraction, width.toNat)
  else if exponent < 0 then
    let width := if isPointed then (if fraction = 0 then width + 1 else width) else width + 1
    (fraction + exponent.natAbs, (width - exponent).toNat)
  else
    let places := fraction - lesser fraction exponent.natAbs
    let width := if isPointed && places = 0 && fraction ≠ 0 then width - 1 else width
    (places, (width + (exponent.natAbs - lesser fraction exponent.natAbs : Nat)).toNat)

/-- reads a bound or a step, or ends the utility -/
def readBound (text : OctetText) : Work Bound := do
  match Floating.read? text.toList with
  | none => misused 1 ("invalid floating point argument: " ++ quoted text)
  | some r =>
    if !r.rest.isEmpty then misused 1 ("invalid floating point argument: " ++ quoted text)
    else if r.ratio.isNone && r.other == .notNumber then
      misused 1 ("invalid 'not-a-number' argument: " ++ quoted text)
    else
      let cs := text.toList.dropWhile fun c =>
        c == ' ' || c == '+' || (9 ≤ c.toNat && c.toNat ≤ 13)
      let isHex := cs.any fun c => c == 'x' || c == 'X'
      if r.ratio.isNone then
        pure ⟨r.negative, none, some 0, 0⟩
      else if isHex then
        pure ⟨r.negative, r.ratio, if cs.any fun c => c == '.' || c == 'p' then none else some 0, 0⟩
      else
        let (places, width) := measure cs
        pure ⟨r.negative, r.ratio, some places, width⟩

/-- a fraction with a denominator that is positive -/
structure Fraction where
  numerator : Int
  denominator : Nat

namespace Fraction

def ofBound? (b : Bound) : Option Fraction :=
  b.ratio.map fun (n, d) => ⟨if b.negative then -(n : Int) else n, d⟩

def add (a b : Fraction) : Fraction :=
  if a.denominator = b.denominator then ⟨a.numerator + b.numerator, a.denominator⟩
  else ⟨a.numerator * b.denominator + b.numerator * a.denominator, a.denominator * b.denominator⟩

def times (a : Fraction) (n : Nat) : Fraction := ⟨a.numerator * n, a.denominator⟩

/-- whether one is above another -/
def isAbove (a b : Fraction) : Bool := b.numerator * a.denominator < a.numerator * b.denominator

/-- as a number with a binary point -/
def floating (a : Fraction) : Floating :=
  ⟨a.numerator < 0, Floating.Precision.extended.round a.numerator.natAbs a.denominator⟩

end Fraction

/-- what stands around a number, and how it is written -/
structure Format where
  before : List Char
  directive : Directive
  behind : List Char

def Format.write (f : Format) (x : Fraction) : OctetText :=
  String.ofList (f.before ++ f.directive.floating .extended x.floating ++ f.behind)

/-- text up to a directive: two signs are one -/
def literal : List Char → List Char × List Char
  | [] => ([], [])
  | ['%'] => ([], ['%'])
  | '%' :: '%' :: cs => let r := literal cs; ('%' :: r.1, r.2)
  | '%' :: cs => ([], '%' :: cs)
  | c :: cs => let r := literal cs; (c :: r.1, r.2)

/-- a format that is given -/
def readFormat (text : OctetText) : Except OctetText Format := do
  let (before, rest) := literal text.toList
  match rest with
  | [] => .error ("format " ++ quoted text ++ " has no % directive")
  | _ :: rest =>
    let flags := rest.takeWhile fun c => ['-', '+', '#', '0', ' ', '\''].contains c
    let rest := rest.drop flags.length
    let width := rest.takeWhile Char.isDigit
    let rest := rest.drop width.length
    let (precision, rest) : Option Nat × List Char := match rest with
      | '.' :: cs =>
        let ds := cs.takeWhile Char.isDigit
        (some (Floating.digitsIn 10 ds), cs.drop ds.length)
      | cs => (none, cs)
    let rest := if rest.head? == some 'L' then rest.drop 1 else rest
    match rest with
    | [] => .error ("format " ++ quoted text ++ " ends in %")
    | c :: rest =>
      if !(['a', 'A', 'e', 'E', 'f', 'F', 'g', 'G'].contains c) then
        .error ("format " ++ quoted text ++ " has unknown %" ++ String.ofList [c] ++ " directive")
      let (behind, rest) := literal rest
      if !rest.isEmpty then .error ("format " ++ quoted text ++ " has too many % directives")
      return ⟨before,
        { left := flags.contains '-', plus := flags.contains '+', space := flags.contains ' '
          alternate := flags.contains '#', zeros := flags.contains '0'
          width := Floating.digitsIn 10 width, precision := precision, conversion := c },
        behind⟩

/-- the greater one of two numbers -/
def greatest (a b : Nat) : Nat := if a < b then b else a

/-- the format that the bounds ask for -/
def ownFormat (first step last : Bound) (equal : Bool) : Format :=
  match first.places, step.places, last.places with
  | some a, some b, some c =>
    let places := greatest a b
    let firstWidth := first.width + (places - a) + (if a = 0 && places ≠ 0 then 1 else 0)
    let lastWidth := (last.width + places + (if c = 0 && places ≠ 0 then 1 else 0)) - c
      - (if c ≠ 0 && places = 0 then 1 else 0)
    ⟨[], { Directive.plain 'f' with
      precision := some places
      zeros := equal
      width := if equal then greatest firstWidth lastWidth else 0 }, []⟩
  | _, _, _ => ⟨[], Directive.plain 'g', []⟩

/-- writes numbers from one on -/
def count (f : Format) (separator : OctetText) (first step : Fraction) (last : Option Fraction) :
    (fuel : Nat) → (i : Nat) → Work Unit
  | 0, _ => pure ()
  | fuel + 1, i => do
    let x := first.add (step.times i)
    let isPast := match last with
      | none => false
      | some last => if step.numerator < 0 then last.isAbove x else x.isAbove last
    if isPast then
      if 0 < i then put "\n"
    else do
      put ((if 0 < i then separator else "") ++ f.write x)
      count f separator first step last fuel (i + 1)

/-- writes whole numbers of any size from one on -/
def countWhole (separator : OctetText) (first step last : Nat) : (fuel : Nat) → (i : Nat) → Work Unit
  | 0, _ => pure ()
  | fuel + 1, i => do
    let x := first + step * i
    if last < x then
      if 0 < i then put "\n"
    else do
      put ((if 0 < i then separator else "") ++ toString x)
      if (← get).lost.isNone then countWhole separator first step last fuel (i + 1)

/-- the greatest step between whole numbers that are counted as such -/
def stepLimit : Nat := 200

/-- the first number, the step and the last number, where all of them are spelled with digits only
and the step is small -/
def wholeBounds? (operands : List OctetText) : Option (Nat × Nat × Nat) := do
  let numbers ← operands.mapM fun text =>
    if !text.isEmpty && text.all Char.isDigit then decimal? text else none
  match numbers with
  | [last] => some (1, 1, last)
  | [first, last] => some (first, 1, last)
  | [first, step, last] => if 0 < step && step ≤ stepLimit then some (first, step, last) else none
  | _ => none

/-- arguments that are negative numbers are no options -/
def withoutOptions : List OctetText → List OctetText
  | [] => []
  | arg :: args =>
    match arg.toList with
    | '-' :: c :: _ =>
      if c.isDigit || c == '.' then "--" :: arg :: args
      else if arg == "--" then arg :: args
      else if ["-f", "-s", "--separator", "--format"].contains arg then
        match args with
        | value :: args => arg :: value :: withoutOptions args
        | [] => [arg]
      else arg :: withoutOptions args
    | _ => arg :: args

def options : OptionTable where
  letters := "f:s:w"
  names := [("equal-width", .nothing, "w"), ("format", .value, "f"), ("separator", .value, "s")]
  strict := true

end Sequence

open Sequence in
def seq (args : List OctetText) : Work Unit := do
  let a ← readArguments Sequence.options 1 (withoutOptions args)
  match a.operands with
  | [] => missingOperand
  | _ :: _ :: _ :: extra :: _ => extraOperand extra
  | _ => pure ()
  let given ← match a.value? "f" with
    | some text =>
      match readFormat text with
      | .ok f => pure (some f)
      | .error message => fail message
    | none => pure none
  if given.isSome && a.has "w" then
    misused 1 "format string may not be specified when printing equal width strings"
  let separator := (a.value? "s").getD "\n"
  if given.isNone && !a.has "w" && separator.length = 1 then
    if let some (first, step, last) := wholeBounds? a.operands then do
      countWhole separator first step last streamFuel 0
      stop 0
  let one : Bound := ⟨false, some (1, 1), some 0, 1⟩
  let (first, step, last) ← match a.operands with
    | [last] => do pure (one, one, ← readBound last)
    | [first, last] => do
      let first ← readBound first
      pure (first, one, ← readBound last)
    | first :: step :: last :: _ => do
      let first ← readBound first
      let increment ← readBound step
      if increment.ratio.map Prod.fst == some 0 then
        misused 1 ("invalid Zero increment value: " ++ quoted step)
      pure (first, increment, ← readBound last)
    | [] => missingOperand
  match Fraction.ofBound? first, Fraction.ofBound? step with
  | some x, some dx =>
    if !(last.ratio.isNone && (last.negative != decide (dx.numerator < 0))) then
      count (given.getD (ownFormat first step last (a.has "w"))) separator x dx
        (Fraction.ofBound? last) streamFuel 0
  | _, _ => pure ()

/-! ### yes -/

/-- writes a text again and again, until it is lost -/
def repeatText (text : OctetText) : (fuel : Nat) → Work Unit
  | 0 => pure ()
  | fuel + 1 => do
    put text
    flush
    if (← get).lost.isNone then repeatText text fuel

def yesOptions : OptionTable := ⟨"", [], true⟩

def yes (args : List OctetText) : Work Unit := do
  let a ← readArguments yesOptions 1 args
  let line := (if a.operands.isEmpty then "y" else " ".intercalate a.operands) ++ "\n"
  let copies := 4096 / line.length + 1
  repeatText (String.join (List.replicate copies line)) streamFuel

end ShellWorkers.Utility
