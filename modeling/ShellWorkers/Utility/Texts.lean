import ShellWorkers.Text.Directive
import ShellWorkers.Utility.Options

/-!
# Texts that are told

`echo` writes its arguments, `printf` writes them as a format says; both know escapes.
-/

namespace ShellWorkers.Utility

open Machine
open Text (OctetText Directive)
open ShellWorkers.Decimal

/-! ## escapes -/

def isOctalDigit (c : Char) : Bool := 48 ≤ c.toNat && c.toNat < 56

/-- the number of octal digits, as an octet -/
def octalChar (ds : List Char) : Char :=
  Char.ofNat (ds.foldl (fun n d => n * 8 + (d.toNat - 48)) 0 % 256)

/-- the letter that an escape stands for -/
def letterEscape? (c : Char) : Option Char :=
  match c with
  | 'a' => some '\x07'
  | 'b' => some '\x08'
  | 'e' => some '\x1b'
  | 'f' => some '\x0c'
  | 'n' => some '\n'
  | 'r' => some '\r'
  | 't' => some '\t'
  | 'v' => some '\x0b'
  | '\\' => some '\\'
  | _ => none

/-- the number of hexadecimal digits -/
def hexValue (ds : List Char) : Nat := Floating.digitsIn 16 ds

/-! ## echo -/

/-- a text with its escapes read, and whether one of them ends all output -/
def unescapeEcho : (fuel : Nat) → List Char → List Char × Bool
  | 0, _ => ([], false)
  | _ + 1, [] => ([], false)
  | fuel + 1, '\\' :: cs =>
    let go (c : Char) (rest : List Char) : List Char × Bool :=
      let r := unescapeEcho fuel rest
      (c :: r.1, r.2)
    match cs with
    | [] => (['\\'], false)
    | 'c' :: _ => ([], true)
    | 'x' :: rest =>
      let ds := (rest.take 2).takeWhile Floating.isHexDigit
      if ds.isEmpty then
        let r := unescapeEcho fuel rest
        ('\\' :: 'x' :: r.1, r.2)
      else go (Char.ofNat (hexValue ds)) (rest.drop ds.length)
    | '0' :: rest =>
      let ds := (rest.take 3).takeWhile isOctalDigit
      go (octalChar ds) (rest.drop ds.length)
    | c :: rest =>
      if isOctalDigit c then
        let ds := (cs.take 3).takeWhile isOctalDigit
        go (octalChar ds) (cs.drop ds.length)
      else
        match letterEscape? c with
        | some e => go e rest
        | none =>
          let r := unescapeEcho fuel rest
          ('\\' :: c :: r.1, r.2)
  | fuel + 1, c :: cs =>
    let r := unescapeEcho fuel cs
    (c :: r.1, r.2)

/-- the letters of the options at the beginning of arguments, and what follows them -/
def echoOptions : List OctetText → List Char × List OctetText
  | [] => ([], [])
  | arg :: args =>
    match arg.toList with
    | '-' :: c :: cs =>
      if (c :: cs).all fun c => ['n', 'e', 'E'].contains c then
        let r := echoOptions args
        (c :: cs ++ r.1, r.2)
      else ([], arg :: args)
    | _ => ([], arg :: args)

def echo (args : List OctetText) : Work Unit := do
  let (letters, args) := echoOptions args
  let escapes := (letters.reverse.find? fun c => c == 'e' || c == 'E') == some 'e'
  let text := " ".intercalate args
  let (cs, stops) := if escapes then unescapeEcho (text.length + 1) text.toList
    else (text.toList, false)
  put (String.ofList cs ++ (if letters.contains 'n' || stops then "" else "\n"))

/-! ## printf -/

namespace Printing

/-- a code point as octets; without the characters of a language it is spelled as a number -/
def codePoint (n : Nat) : List Char :=
  if n < 128 then [Char.ofNat n]
  else
    let ds := (Nat.toDigits 16 n).map Char.toUpper
    let (mark, width) := if n < 65536 then ('u', 4) else ('U', 8)
    '\\' :: mark :: List.replicate (width - ds.length) '0' ++ ds

/-- the escape behind a backslash: what it stands for and the rest; nothing when it ends all
output.  `zero` says that octal numbers have a zero before three digits. -/
def escape (zero : Bool) (cs : List Char) : Work (Option (List Char) × List Char) := do
  match cs with
  | [] => pure (some ['\\'], [])
  | 'c' :: _ => pure (none, [])
  | 'x' :: rest => do
    let ds := (rest.take 2).takeWhile Floating.isHexDigit
    if ds.isEmpty then fail "missing hexadecimal number in escape"
    pure (some [Char.ofNat (hexValue ds)], rest.drop ds.length)
  | c :: rest => do
    if c = 'u' || c = 'U' then
      let count := if c = 'u' then 4 else 8
      let ds := (rest.take count).takeWhile Floating.isHexDigit
      if ds.length < count then fail "missing hexadecimal number in escape"
      pure (some (codePoint (hexValue ds)), rest.drop count)
    else if isOctalDigit c then
      let skips := zero && c = '0'
      let digits := if skips then rest else cs
      let ds := (digits.take 3).takeWhile isOctalDigit
      pure (some [octalChar ds], digits.drop ds.length)
    else if c = '"' then pure (some ['"'], rest)
    else
      match letterEscape? c with
      | some e => pure (some [e], rest)
      | none => pure (some ['\\', c], rest)

/-- writes a text with its escapes read; whether the output goes on -/
def putEscaped : (fuel : Nat) → List Char → (done : List Char) → Work (List Char × Bool)
  | 0, _, done => pure (done.reverse, true)
  | _ + 1, [], done => pure (done.reverse, true)
  | fuel + 1, '\\' :: cs, done => do
    match ← escape true cs with
    | (none, _) => pure (done.reverse, false)
    | (some e, rest) => putEscaped fuel rest (e.reverse ++ done)
  | fuel + 1, c :: cs, done => putEscaped fuel cs (c :: done)

/-- says what is wrong with a number whose end was not read -/
def check (arg : OctetText) (rest : List Char) (outside : Bool) : Work Unit := do
  if outside then warn (quoted arg ++ ": Numerical result out of range")
  else if !rest.isEmpty then
    if rest.length = arg.length then warn (quoted arg ++ ": expected a numeric value")
    else warn (quoted arg ++ ": value not completely converted")

/-- the number of a character behind a quote -/
def quotedNumber? (arg : OctetText) : Work (Option Nat) := do
  match arg.toList with
  | q :: c :: rest =>
    if q = '\'' || q = '"' then do
      if !rest.isEmpty then
        note ("warning: " ++ String.ofList rest
          ++ ": character(s) following character constant have been ignored")
      pure (some c.toNat)
    else pure none
  | _ => pure none

/-- a number with its sign, its digits and the rest behind blanks -/
def readInteger (cs : List Char) : Bool × Nat × List Char :=
  let trimmed := cs.dropWhile fun c => c == ' ' || (9 ≤ c.toNat && c.toNat ≤ 13)
  let (negative, ds) := match trimmed with
    | '-' :: ds => (true, ds)
    | '+' :: ds => (false, ds)
    | ds => (false, ds)
  let (base, isDigit, ds) : Nat × (Char → Bool) × List Char := match ds with
    | '0' :: x :: d :: rest =>
      if (x == 'x' || x == 'X') && Floating.isHexDigit d then (16, Floating.isHexDigit, d :: rest)
      else (8, isOctalDigit, '0' :: x :: d :: rest)
    | '0' :: rest => (8, isOctalDigit, '0' :: rest)
    | ds => (10, Char.isDigit, ds)
  let digits := ds.takeWhile isDigit
  if digits.isEmpty then (false, 0, cs)
  else (negative, Floating.digitsIn base digits, ds.drop digits.length)

/-- an argument as a number with a sign, of 64 bits -/
def integer (arg : Option OctetText) : Work Int := do
  match arg with
  | none => pure 0
  | some arg =>
    match ← quotedNumber? arg with
    | some n => pure n
    | none => do
      let (negative, n, rest) := readInteger arg.toList
      let limit := Nat.pow 2 63
      let (n, outside) : Int × Bool :=
        if negative then (if limit < n then (-limit, true) else (-n, false))
        else if limit ≤ n then (limit - 1, true) else (n, false)
      check arg rest outside
      pure n

/-- an argument as a number without a sign, of 64 bits -/
def natural (arg : Option OctetText) : Work Nat := do
  match arg with
  | none => pure 0
  | some arg =>
    match ← quotedNumber? arg with
    | some n => pure n
    | none => do
      let (negative, n, rest) := readInteger arg.toList
      let limit := Nat.pow 2 64
      let outside := limit ≤ n
      check arg rest outside
      pure (if outside then limit - 1 else if negative && n ≠ 0 then limit - n else n)

/-- an argument as a number with a point -/
def floating (arg : Option OctetText) : Work Floating := do
  match arg with
  | none => pure .zero
  | some arg =>
    match ← quotedNumber? arg with
    | some n => pure (.ofNat n)
    | none =>
      match Floating.read? arg.toList with
      | none => do
        check arg arg.toList false
        pure .zero
      | some r => do
        let (x, outside) := Floating.ofReading .extended r
        check arg r.rest outside
        pure x

/-- a directive, the letters it is spelled with, and what follows it; a star takes an argument -/
structure Scanned where
  directive : Directive
  spelled : List Char
  rest : List Char
  args : List OctetText

/-- a width or a precision: the digits, or an argument in place of a star -/
def amountAt (cs : List Char) (args : List OctetText) :
    Work (Option Int × List Char × List Char × List OctetText) := do
  match cs with
  | '*' :: rest => do
    let n ← integer args.head?
    pure (some n, ['*'], rest, args.drop 1)
  | cs =>
    let ds := cs.takeWhile Char.isDigit
    pure (if ds.isEmpty then none else some (digitsNat ds), ds, cs.drop ds.length, args)
where
  digitsNat (ds : List Char) : Int := ((Floating.digitsIn 10 ds : Nat) : Int)

/-- what stands between the sign and the letter of a directive -/
def scan (cs : List Char) (args : List OctetText) : Work Scanned := do
  let flags := cs.takeWhile fun c => ['#', '-', '+', ' ', '0', '\''].contains c
  let (width, widthText, rest, args) ← amountAt (cs.drop flags.length) args
  let (precision, precisionText, rest, args) ← match rest with
    | '.' :: rest => do
      let (n, text, rest, args) ← amountAt rest args
      pure (some (n.getD 0), '.' :: text, rest, args)
    | rest => pure (none, [], rest, args)
  let sizes := rest.takeWhile fun c => ['l', 'L', 'h', 'j', 't', 'z'].contains c
  let rest := rest.drop sizes.length
  let w := width.getD 0
  let d : Directive :=
    { left := flags.contains '-' || w < 0, plus := flags.contains '+', space := flags.contains ' '
      alternate := flags.contains '#', zeros := flags.contains '0', width := w.natAbs
      precision := precision.bind fun n => if n < 0 then none else some n.toNat
      conversion := rest.headD ' ' }
  pure ⟨d, flags ++ widthText ++ precisionText ++ sizes, rest, args⟩

/-- writes one argument as a directive says; whether the output goes on -/
def putArgument (s : Scanned) (letter : Char) : Work Bool := do
  let d := s.directive
  let arg := s.args.head?
  if letter = 'c' then do
    put (String.ofList (d.pad [((arg.getD "").toList.head?).getD '\x00']))
    pure true
  else if letter = 's' then do
    put (String.ofList (d.text (arg.getD "").toList))
    pure true
  else if letter = 'd' || letter = 'i' then do
    let n ← integer arg
    put (String.ofList (d.integer n))
    pure true
  else if ['o', 'u', 'x', 'X'].contains letter then do
    let n ← natural arg
    put (String.ofList (d.natural n))
    pure true
  else do
    let x ← floating arg
    put (String.ofList (d.floating .extended x))
    pure true

/-- goes through a format once: the arguments that are left, and whether the output goes on -/
def once : (fuel : Nat) → List Char → List OctetText → Work (List OctetText × Bool)
  | 0, _, args => pure (args, true)
  | _ + 1, [], args => pure (args, true)
  | fuel + 1, '\\' :: cs, args => do
    match ← escape false cs with
    | (none, _) => pure (args, false)
    | (some e, rest) => do
      put (String.ofList e)
      once fuel rest args
  | fuel + 1, '%' :: '%' :: cs, args => do
    put "%"
    once fuel cs args
  | fuel + 1, '%' :: cs, args => do
    let s ← scan cs args
    let invalid {α : Type} : Work α :=
      fail ("%" ++ String.ofList (s.spelled ++ s.rest.take 1)
        ++ ": invalid conversion specification")
    match s.rest with
    | [] => invalid
    | 'b' :: rest =>
      if !s.spelled.isEmpty then invalid
      else do
        let text := (s.args.head?.getD "").toList
        let (done, goesOn) ← putEscaped (text.length + 1) text []
        put (String.ofList done)
        if goesOn then once fuel rest (s.args.drop 1) else pure ([], false)
    | 'q' :: rest =>
      if !s.spelled.isEmpty then invalid
      else do
        match s.args.head? with
        | some arg => put (shellWord arg)
        | none => pure ()
        once fuel rest (s.args.drop 1)
    | letter :: rest =>
      if !("csdiouxXaAeEfFgG".toList.contains letter) then invalid
      else do
        let _ ← putArgument s letter
        once fuel rest (s.args.drop 1)
  | fuel + 1, c :: cs, args => do
    put (String.ofList [c])
    once fuel cs args

/-- goes through a format that takes arguments as long as there are some -/
def again (format : List Char) : (fuel : Nat) → List OctetText → Work Unit
  | 0, _ => pure ()
  | _ + 1, [] => pure ()
  | fuel + 1, args => do
    let (left, goesOn) ← once (format.length + 1) format args
    if goesOn then again format fuel left

end Printing

def printf (args : List OctetText) : Work Unit := do
  let args := if args.head? == some "--" then args.drop 1 else args
  match args with
  | [] => missingOperand
  | format :: args => do
    let cs := format.toList
    let (left, goesOn) ← Printing.once (cs.length + 1) cs args
    if goesOn then
      match left with
      | [] => pure ()
      | arg :: _ =>
        if left.length = args.length then
          note ("warning: ignoring excess arguments, starting with " ++ quoted arg)
        else Printing.again cs args.length left

end ShellWorkers.Utility
