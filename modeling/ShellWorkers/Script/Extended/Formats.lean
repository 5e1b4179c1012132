import ShellWorkers.Clock.Writing
import ShellWorkers.Script.Formatting
import ShellWorkers.Script.References
import ShellWorkers.Script.Words

/-!
# Texts that commands of the extended language write

The escapes of `echo` and `printf`, and the directives of a format.  Numbers with a point are read
and written with the extended precision, and a text can be written as a word that a shell reads
back.
-/

namespace ShellWorkers.Script.Extended

open Text (OctetText Directive)
open ShellWorkers.Decimal

/-! ## escapes -/

/-- where an escape stands -/
inductive EscapePlace where
  | format
  /-- in an argument of a format -/
  | argument
  /-- in an argument of `echo` -/
  | echo
  deriving DecidableEq

/-- the characters that stand behind a backslash and the rest; nothing if all output ends here -/
def escape? (place : EscapePlace) : List Char → Option (List Char × List Char)
  | [] => some (['\\'], [])
  | 'c' :: cs => if place = .format then some (['\\', 'c'], cs) else none
  | '0' :: cs =>
    let count := if place = .format then 2 else 3
    let ds := (cs.take count).takeWhile isOctal
    some ([octetChar (octalValue ds)], cs.drop ds.length)
  | 'x' :: cs => some (escapeMeaning ('x' :: cs))
  | 'u' :: cs => some (escapeMeaning ('u' :: cs))
  | 'U' :: cs => some (escapeMeaning ('U' :: cs))
  | c :: cs =>
    if isOctal c then
      if place = .echo then some (['\\', c], cs)
      else
        let ds := octalDigits 3 (c :: cs)
        some ([octetChar (octalValue ds)], (c :: cs).drop ds.length)
    else if c = '\'' || c = '"' || c = '?' then
      some (if place = .format then [c] else ['\\', c], cs)
    else if c = 'E' then some (['\x1b'], cs)
    else
      match escapeChar? c with
      | some e => some ([e], cs)
      | none => some (['\\', c], cs)

/-- a text with its escapes read, and whether one of them ends all output -/
def unescapeIn (place : EscapePlace) : (fuel : Nat) → List Char → List Char × Bool
  | 0, _ => ([], false)
  | _ + 1, [] => ([], false)
  | fuel + 1, '\\' :: cs =>
    match escape? place cs with
    | none => ([], true)
    | some (meaning, rest) =>
      let (text, stop) := unescapeIn place fuel rest
      (meaning ++ text, stop)
  | fuel + 1, c :: cs => let (text, stop) := unescapeIn place fuel cs; (c :: text, stop)

/-- whether an argument of `echo` is made of options -/
def isEchoOption (arg : OctetText) : Bool :=
  match arg.toList with
  | '-' :: c :: cs => (c :: cs).all fun c => ['n', 'e', 'E'].contains c
  | _ => false

/-- what `echo` writes; `escapes` says whether escapes count where no option is given -/
def echoText (escapes : Bool) (args : List OctetText) : OctetText :=
  let options := args.takeWhile isEchoOption
  let letters := options.flatMap fun o => o.toList.drop 1
  let text := " ".intercalate (args.drop options.length)
  let escapes := match (letters.filter (· != 'n')).getLast? with
    | some c => c == 'e'
    | none => escapes
  let (cs, stop) := if escapes then unescapeIn .echo (text.length + 1) text.toList
    else (text.toList, false)
  String.ofList (if letters.contains 'n' || stop then cs else cs ++ ['\n'])

/-! ## numbers -/

/-- says what is wrong with an argument that is no number, or not to its end -/
def checkNumber (p : Printed) (arg : OctetText) (rest : List Char) (outside : Bool) : Printed :=
  if !rest.isEmpty then
    let cs := arg.toList.dropWhile isNumberBlank
    let digits := cs.dropWhile fun c => c == '-' || c == '+'
    let kind : OctetText := match digits with
      | '0' :: 'x' :: _ => "hex number"
      | '0' :: c :: _ => if c.isDigit then "octal number" else "number"
      | _ => "number"
    p.warn (arg ++ ": invalid " ++ kind)
  else if outside then p.warn ("warning: " ++ arg ++ ": Numerical result out of range")
  else p

/-- the next argument as a number with a sign, of 64 bits -/
def nextInteger (p : Printed) : Int × Printed :=
  match p.next with
  | (none, p) => (0, p)
  | (some arg, p) =>
    match quotedNumber? arg with
    | some n => (n, p)
    | none =>
      let (negative, n, rest) := signedDigits arg.toList
      let limit := Nat.pow 2 63
      let (n, outside) : Int × Bool :=
        if negative then (if limit < n then (-limit, true) else (-n, false))
        else if limit ≤ n then (limit - 1, true) else (n, false)
      (n, checkNumber p arg rest outside)

/-- the next argument as a number without a sign, of 64 bits -/
def nextNatural (p : Printed) : Nat × Printed :=
  match p.next with
  | (none, p) => (0, p)
  | (some arg, p) =>
    match quotedNumber? arg with
    | some n => (n, p)
    | none =>
      let (negative, n, rest) := signedDigits arg.toList
      let limit := Nat.pow 2 64
      let (n, outside) : Nat × Bool :=
        if limit ≤ n then (limit - 1, true)
        else ((if negative && n != 0 then limit - n else n), false)
      (n, checkNumber p arg rest outside)

/-- the next argument as a number with a point -/
def nextFloating (p : Printed) : Floating × Printed :=
  match p.next with
  | (none, p) => (.zero, p)
  | (some arg, p) =>
    match quotedNumber? arg with
    | some n => (.ofNat n, p)
    | none =>
      match Floating.read? arg.toList with
      | none => (.zero, checkNumber p arg arg.toList false)
      | some r =>
        let (x, outside) := Floating.ofReading .extended r
        (x, checkNumber p arg r.rest outside)

/-! ## directives -/

/-- the width, which a star takes from the arguments -/
def widthOf (s : Scanning) : Scanning :=
  match s.rest with
  | '*' :: rest =>
    let (n, printed) := nextInteger s.printed
    { directive := { s.directive with width := n.natAbs, left := s.directive.left || n < 0 }
      spelled := '*' :: s.spelled, rest := rest, printed := printed }
  | _ => readWidth s

/-- the precision behind a point -/
def precisionOf (s : Scanning) : Scanning :=
  match s.rest with
  | '.' :: '*' :: rest =>
    let (n, printed) := nextInteger s.printed
    { directive := { s.directive with precision := if n < 0 then none else some n.toNat }
      spelled := '*' :: '.' :: s.spelled, rest := rest, printed := printed }
  | _ => readPrecision s

/-- the letters that only say how wide a number is -/
def isSizeLetter (c : Char) : Bool := ['h', 'j', 'l', 'L', 't', 'z'].contains c

/-- writes an argument as a directive says; nothing if there is no such directive -/
def write? (d : Directive) (p : Printed) : Option Printed :=
  match d.conversion with
  | 'b' =>
    let (arg, p) := p.next
    let text := arg.getD ""
    let (cs, stop) := unescapeIn .argument (text.length + 1) text.toList
    some { p.write (d.text cs) with stopped := stop }
  | 'c' =>
    let (arg, p) := p.next
    some (p.write (d.pad ((arg.getD "").toList.take 1)))
  | 's' => let (arg, p) := p.next; some (p.write (d.text (arg.getD "").toList))
  | 'q' =>
    let (arg, p) := p.next
    some (p.write (d.text (reusableBackslashed (arg.getD "")).toList))
  | 'Q' =>
    let (arg, p) := p.next
    let text := arg.getD ""
    let cut := match d.precision with
      | some n => String.ofList (text.toList.take n)
      | none => text
    some (p.write ({ d with precision := none }.text (reusableBackslashed cut).toList))
  | 'n' => some p.next.2
  | c =>
    if c = 'd' || c = 'i' then let (n, p) := nextInteger p; some (p.write (d.integer n))
    else if ['o', 'u', 'x', 'X'].contains c then
      let (n, p) := nextNatural p
      some (p.write (d.natural n))
    else if ['a', 'A', 'e', 'E', 'f', 'F', 'g', 'G'].contains c then
      let (x, p) := nextFloating p
      some (p.write (d.floating .extended x))
    else none

/-! ## times -/

/-- what times are written for: the zone, and in seconds the present and the beginning of the
shell -/
structure Times where
  zone : Clock.Zone
  present : Int
  began : Int

/-- the format of a time up to the parenthesis that closes it, and the rest -/
def timeFormat : (depth : Nat) → List Char → List Char × List Char
  | _, [] => ([], [])
  | 0, cs => ([], cs)
  | depth + 1, c :: cs =>
    if c = ')' && depth = 0 then ([], cs)
    else
      let deeper := if c = '(' then depth + 2 else if c = ')' then depth else depth + 1
      let (format, rest) := timeFormat deeper cs
      (c :: format, rest)

/-- a text that is longer is left out -/
def timeLimit : Nat := 128

/-- a time as a format says; two numbers stand for the present and the beginning -/
def Times.text (t : Times) (format : List Char) (number : Int) : List Char :=
  let seconds := if number = -1 then t.present else if number = -2 then t.began else number
  let format := if format.isEmpty then "%X" else String.ofList format
  let text := Clock.write .plain t.zone (seconds * Clock.nanosPerSecond) format
  if text.length < timeLimit then text.toList else []

/-- goes through a format once; the fuel is more than its length -/
def formatOnce (t : Times) : (fuel : Nat) → List Char → Printed → Printed
  | 0, _, p => p
  | _ + 1, [], p => p
  | fuel + 1, '\\' :: cs, p =>
    match escape? .format cs with
    | some (meaning, rest) => formatOnce t fuel rest (p.write meaning)
    | none => p
  | fuel + 1, '%' :: '%' :: cs, p => formatOnce t fuel cs (p.write ['%'])
  | fuel + 1, '%' :: cs, p =>
    let flags := cs.takeWhile fun c => ['#', '-', '+', ' ', '0', '\''].contains c
    let plain := flags.filter (· != '\'')
    let s := readFlags ⟨.plain 's', ['%'], plain ++ cs.drop flags.length, p⟩
    let s := precisionOf (widthOf s)
    let rest := s.rest.dropWhile isSizeLetter
    match rest with
    | [] =>
      let spelled := String.ofList s.spelled.reverse
      { s.printed with fault := some ("\x60" ++ spelled ++ "': missing format character") }
    | '(' :: rest =>
      match timeFormat 1 rest with
      | (format, 'T' :: after) =>
        let (n, p) := if s.printed.args.isEmpty then (-1, s.printed) else nextInteger s.printed
        formatOnce t fuel after (p.write (s.directive.text (t.text format n)))
      | (_, after) =>
        let p := s.printed.warn ("warning: \x60" ++ String.ofList (after.take 1)
          ++ "': invalid time format specification")
        formatOnce t fuel cs (p.write ['%'])
    | c :: rest =>
      match write? { s.directive with conversion := c } s.printed with
      | some p => if p.stopped then p else formatOnce t fuel rest p
      | none =>
        let named := "\x60" ++ String.ofList [c] ++ "': invalid format character"
        { s.printed with fault := some named }
  | fuel + 1, c :: cs, p => formatOnce t fuel cs (p.write [c])

/-- goes through a format that takes arguments again as long as there are some -/
def formatAgain (t : Times) (format : List Char) : (fuel : Nat) → Printed → Printed
  | 0, p => p
  | fuel + 1, p =>
    let next := formatOnce t (format.length + 1) format p
    if next.stopped || next.fault.isSome || next.args.isEmpty then next
    else formatAgain t format fuel next

/-- what a format writes for arguments -/
def formatText (t : Times) (format : OctetText) (args : List OctetText) : Printed :=
  let cs := format.toList
  let first := formatOnce t (cs.length + 1) cs (.start args)
  if first.stopped || first.fault.isSome || first.args.isEmpty
      || first.args.length = args.length then first
  else formatAgain t cs (args.length + 1) first

end ShellWorkers.Script.Extended
