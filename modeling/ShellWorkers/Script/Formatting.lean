import ShellWorkers.Text.Directive

/-!
# Texts that commands write

The escapes that `echo` and `printf` read in their arguments, and the directives of a format.  A
format is gone through again as long as there are arguments.  `Printed` holds what is written,
what is wrong with arguments, and the fault that ends the command, if there is one.
-/

namespace ShellWorkers.Script

open Text (OctetText Directive)
open ShellWorkers.Decimal

/-! ## escapes -/

/-- the character of a code, modulo 256 -/
def octetChar (n : Nat) : Char := Char.ofNat (n % 256)

def isOctal (c : Char) : Bool := '0'.toNat ≤ c.toNat && c.toNat ≤ '7'.toNat

def octalDigits (most : Nat) (cs : List Char) : List Char := (cs.take most).takeWhile isOctal

def octalValue (ds : List Char) : Nat := ds.foldl (fun n c => n * 8 + (c.toNat - 48)) 0

/-- the character that a letter after a backslash stands for -/
def escapeChar? (c : Char) : Option Char :=
  match c with
  | 'a' => some '\x07'
  | 'b' => some '\x08'
  | 'e' => some '\x1b'
  | 'f' => some '\x0c'
  | 'n' => some '\n'
  | 'r' => some '\r'
  | 't' => some '\t'
  | 'v' => some '\x0b'
  | '\\' => some '\\'
  | _ => none

/-- the escape behind a backslash in a format, and the rest; one that is unknown is nothing but
its backslash -/
def formatEscape (cs : List Char) : Char × List Char :=
  match cs with
  | [] => ('\\', [])
  | c :: rest =>
    match escapeChar? c with
    | some e => (e, rest)
    | none =>
      let ds := octalDigits 3 cs
      if ds.isEmpty then ('\\', cs) else (octetChar (octalValue ds), cs.drop ds.length)

/-- a text with its escapes read, and whether one of them ends all output; a number has a zero
before its digits if it has a fourth one -/
def unescape : (fuel : Nat) → List Char → List Char × Bool
  | 0, _ => ([], false)
  | _ + 1, [] => ([], false)
  | fuel + 1, '\\' :: rest =>
    if rest.head? = some 'c' then ([], true)
    else
      let rest := match rest with
        | '0' :: after => if (after.head?.map isOctal).getD false then after else rest
        | _ => rest
      let (c, rest) := formatEscape rest
      let (text, stop) := unescape fuel rest
      (c :: text, stop)
  | fuel + 1, c :: rest => let (text, stop) := unescape fuel rest; (c :: text, stop)

/-- what `echo` writes -/
def echoText (args : List OctetText) : OctetText :=
  let (newline, args) := match args with
    | "-n" :: rest => (false, rest)
    | args => (true, args)
  let text := " ".intercalate args
  let (cs, stop) := if text.contains '\\' then unescape (text.length + 1) text.toList
    else (text.toList, false)
  String.ofList (if newline && !stop then cs ++ ['\n'] else cs)

/-! ## what is written -/

structure Printed where
  /-- last first -/
  text : List Char
  /-- with the length of the text before each -/
  warnings : List (Nat × OctetText)
  fault : Option OctetText
  args : List OctetText
  /-- an escape ends all output -/
  stopped : Bool

namespace Printed

def start (args : List OctetText) : Printed := ⟨[], [], none, args, false⟩

def write (p : Printed) (cs : List Char) : Printed := { p with text := cs.reverse ++ p.text }

def warn (p : Printed) (message : OctetText) : Printed :=
  { p with warnings := p.warnings ++ [(p.text.length, message)] }

/-- the next argument, if there is one -/
def next (p : Printed) : Option OctetText × Printed :=
  match p.args with
  | [] => (none, p)
  | arg :: args => (some arg, { p with args := args })

/-- says what is wrong with an argument whose end was not read -/
def check (p : Printed) (arg : OctetText) (rest : List Char) (outside : Bool) : Printed :=
  if !rest.isEmpty then
    p.warn (arg ++ (if rest.length = arg.length then ": expected numeric value"
      else ": not completely converted"))
  else if outside then p.warn (arg ++ ": Numerical result out of range")
  else p

end Printed

/-! ## numbers -/

/-- the number of a character between quotes, or behind one -/
def quotedNumber? (arg : OctetText) : Option Nat :=
  match arg.toList with
  | q :: rest => if q = '\'' || q = '"' then some ((rest.head?.map Char.toNat).getD 0) else none
  | [] => none

/-- a sign, digits and the rest behind blanks; nothing is read where there is no digit -/
def signedDigits (cs : List Char) : Bool × Nat × List Char :=
  let trimmed := cs.dropWhile fun c => c == ' ' || (9 ≤ c.toNat && c.toNat ≤ 13)
  let (negative, ds) := match trimmed with
    | '-' :: ds => (true, ds)
    | '+' :: ds => (false, ds)
    | ds => (false, ds)
  match ds with
  | d :: _ =>
    if d.isDigit then
      let (n, rest) := wholeNumber ds
      (negative, n, rest)
    else (false, 0, cs)
  | [] => (false, 0, cs)
where
  wholeNumber (ds : List Char) : Nat × List Char :=
    match ds with
    | '0' :: x :: d :: rest =>
      if (x == 'x' || x == 'X') && Floating.isHexDigit d then
        let hex := (d :: rest).takeWhile Floating.isHexDigit
        (Floating.digitsIn 16 hex, (d :: rest).drop hex.length)
      else octal (x :: d :: rest)
    | '0' :: rest => octal rest
    | ds =>
      let decimal := ds.takeWhile Char.isDigit
      (Floating.digitsIn 10 decimal, ds.drop decimal.length)
  octal (ds : List Char) : Nat × List Char :=
    let digits := ds.takeWhile isOctal
    (octalValue digits, ds.drop digits.length)

/-- the next argument as a number with a sign, of 64 bits -/
def Printed.integer (p : Printed) : Int × Printed :=
  match p.next with
  | (none, p) => (0, p)
  | (some arg, p) =>
    match quotedNumber? arg with
    | some n => (n, p)
    | none =>
      let (negative, n, rest) := signedDigits arg.toList
      let limit := Nat.pow 2 63
      let (n, outside) : Int × Bool :=
        if negative then (if limit < n then (-limit, true) else (-n, false))
        else if limit ≤ n then (limit - 1, true) else (n, false)
      (n, p.check arg rest outside)

/-- the next argument as a number without a sign, of 64 bits; a negative one is counted from the
greatest on -/
def Printed.natural (p : Printed) : Nat × Printed :=
  match p.next with
  | (none, p) => (0, p)
  | (some arg, p) =>
    match quotedNumber? arg with
    | some n => (n, p)
    | none =>
      let (negative, n, rest) := signedDigits arg.toList
      let limit := Nat.pow 2 64
      let (n, outside) : Nat × Bool :=
        if limit ≤ n then (limit - 1, true)
        else ((if negative && n != 0 then limit - n else n), false)
      (n, p.check arg rest outside)

/-- the next argument as a number with a point -/
def Printed.floating (p : Printed) : Floating × Printed :=
  match p.next with
  | (none, p) => (.zero, p)
  | (some arg, p) =>
    match quotedNumber? arg with
    | some n => (.ofNat n, p)
    | none =>
      match Floating.read? arg.toList with
      | none => (.zero, p.check arg arg.toList false)
      | some r =>
        let (x, outside) := Floating.ofReading .double r
        (x, p.check arg r.rest outside)

/-! ## formats -/

/-- a directive so far: the text of it, last first, and what is left -/
structure Scanning where
  directive : Directive
  spelled : List Char
  rest : List Char
  printed : Printed

/-- the flags that a text starts with -/
def readFlags (s : Scanning) : Scanning :=
  let flags := s.rest.takeWhile fun c => ['#', '-', '+', ' ', '0'].contains c
  { s with
    directive := { s.directive with
      left := flags.contains '-', plus := flags.contains '+', space := flags.contains ' '
      alternate := flags.contains '#', zeros := flags.contains '0' }
    spelled := flags.reverse ++ s.spelled
    rest := s.rest.drop flags.length }

/-- the width, which a star takes from the arguments -/
def readWidth (s : Scanning) : Scanning :=
  match s.rest with
  | '*' :: rest =>
    let (n, printed) := s.printed.integer
    { directive := { s.directive with width := n.natAbs, left := s.directive.left || n < 0 }
      spelled := '*' :: s.spelled, rest := rest, printed := printed }
  | _ =>
    let ds := s.rest.takeWhile Char.isDigit
    { s with
      directive := { s.directive with width := Floating.digitsIn 10 ds }
      spelled := ds.reverse ++ s.spelled
      rest := s.rest.drop ds.length }

/-- the precision behind a point; one below zero is none -/
def readPrecision (s : Scanning) : Scanning :=
  match s.rest with
  | '.' :: '*' :: rest =>
    let (n, printed) := s.printed.integer
    { directive := { s.directive with precision := if n < 0 then none else some n.toNat }
      spelled := '*' :: '.' :: s.spelled, rest := rest, printed := printed }
  | '.' :: rest =>
    let ds := rest.takeWhile Char.isDigit
    { s with
      directive := { s.directive with precision := some (Floating.digitsIn 10 ds) }
      spelled := ds.reverse ++ '.' :: s.spelled
      rest := rest.drop ds.length }
  | _ => s

/-- writes an argument as a directive says -/
def writeDirective (d : Directive) (spelled : OctetText) (p : Printed) : Printed :=
  match d.conversion with
  | 'b' =>
    let (arg, p) := p.next
    let text := arg.getD ""
    let (cs, stop) := unescape (text.length + 1) text.toList
    { p.write (d.text cs) with stopped := stop }
  | 'c' =>
    let (arg, p) := p.next
    p.write (d.pad [((arg.getD "").toList.head?).getD '\x00'])
  | 's' => let (arg, p) := p.next; p.write (d.text (arg.getD "").toList)
  | c =>
    if c = 'd' || c = 'i' then let (n, p) := p.integer; p.write (d.integer n)
    else if ['o', 'u', 'x', 'X'].contains c then let (n, p) := p.natural; p.write (d.natural n)
    else if ['a', 'A', 'e', 'E', 'f', 'F', 'g', 'G'].contains c then
      let (x, p) := p.floating
      p.write (d.floating .double x)
    else { p with fault := some (spelled ++ ": invalid directive") }

/-- goes through a format once; the fuel is more than its length -/
def printOnce : (fuel : Nat) → List Char → Printed → Printed
  | 0, _, p => p
  | _ + 1, [], p => p
  | fuel + 1, '\\' :: cs, p =>
    let (c, rest) := formatEscape cs
    printOnce fuel rest (p.write [c])
  | fuel + 1, '%' :: '%' :: cs, p => printOnce fuel cs (p.write ['%'])
  | fuel + 1, '%' :: cs, p =>
    let s := readPrecision (readWidth (readFlags ⟨.plain 's', ['%'], cs, p⟩))
    match s.rest with
    | [] => { s.printed with fault := some "missing format character" }
    | c :: rest =>
      let spelled := String.ofList (c :: s.spelled).reverse
      let p := writeDirective { s.directive with conversion := c } spelled s.printed
      if p.stopped || p.fault.isSome then p else printOnce fuel rest p
  | fuel + 1, c :: cs, p => printOnce fuel cs (p.write [c])

/-- goes through a format that takes arguments again as long as there are some -/
def printAgain (format : List Char) : (fuel : Nat) → Printed → Printed
  | 0, p => p
  | fuel + 1, p =>
    let next := printOnce (format.length + 1) format p
    if next.stopped || next.fault.isSome || next.args.isEmpty then next
    else printAgain format fuel next

/-- what a format writes for arguments -/
def printText (format : OctetText) (args : List OctetText) : Printed :=
  let cs := format.toList
  let first := printOnce (cs.length + 1) cs (.start args)
  if first.stopped || first.fault.isSome || first.args.isEmpty
      || first.args.length = args.length then first
  else printAgain cs (args.length + 1) first

/-- the text that is written -/
def Printed.output (p : Printed) : OctetText := String.ofList p.text.reverse

end ShellWorkers.Script
