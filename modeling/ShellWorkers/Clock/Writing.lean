import ShellWorkers.Clock.Zone

/-!
# Times as formats say

A format is a text with directives: a percent sign, flags, a width and a letter.

* `Moment`             what is to be written: a local date and time and what its zone says;
* `Manner`             the two ways of reading directives;
* `write`              an instant in a zone as a format says.

A directive that is not understood stands for itself.
-/

namespace ShellWorkers.Clock

open Text (OctetText)

/-- an instant with its local date and time -/
structure Moment where
  seconds : Int
  civil : Civil
  phase : Phase

def Moment.of (z : Zone) (instant : Int) : Moment :=
  let seconds := Int.fdiv instant nanosPerSecond
  ⟨seconds, z.civil instant, z.phase seconds⟩

/-- how directives are read -/
inductive Manner where
  /-- widths hold for the digits, and there are directives for parts of seconds -/
  | rich
  /-- numbers have their digits at least, and there is no flag against blanks before them -/
  | plain
  deriving DecidableEq

/-- what a directive asks for besides its letter -/
structure Wish where
  manner : Manner
  /-- the flag for filling, if there is one -/
  fill : Option Char
  width : Option Nat
  upper : Bool
  /-- whether the case is to be changed -/
  change : Bool
  modifier : Option Char

/-- how a number is written -/
structure Figure where
  /-- as many digits at least -/
  digits : Nat
  value : Int
  /-- what fills it by itself -/
  fill : Char
  /-- a sign always stands before it -/
  hasSign : Bool

/-- a digit group of an offset: the digits, which colons part into pairs -/
def pairs (colons : Nat) (n : Nat) : List Char :=
  let ds := Nat.toDigits 10 n
  if colons = 0 then ds
  else
    let least := 2 * colons + 1
    let ds := List.replicate (least - ds.length) '0' ++ ds
    let front := ds.take (ds.length - 2 * colons)
    let back := ds.drop (ds.length - 2 * colons)
    if colons = 1 then front ++ [':'] ++ back
    else front ++ [':'] ++ back.take 2 ++ [':'] ++ back.drop 2

namespace Wish

/-- fills a text up to the width -/
def text (w : Wish) (cs : List Char) : List Char :=
  match w.width with
  | none => cs
  | some width =>
    if w.fill = some '-' && w.manner = .rich then cs
    else
      let fill := if w.fill = some '0' || w.fill = some '+' then '0' else ' '
      List.replicate (width - cs.length) fill ++ cs

/-- a text in the case that is wanted -/
def cased (w : Wish) (lower : Bool) (cs : List Char) : List Char :=
  w.text (if lower then cs.map Char.toLower else if w.upper then cs.map Char.toUpper else cs)

/-- a name, which a change of case makes upper -/
def name (w : Wish) (name : String) : List Char :=
  { w with upper := w.upper || w.change }.cased false name.toList

/-- the digits of a number with its sign, filled up -/
def signed (w : Wish) (f : Figure) (ds : List Char) : List Char :=
  let sign : List Char := if f.value < 0 then ['-'] else if f.hasSign then ['+'] else []
  let fill := w.fill.getD f.fill
  let filled (width : Nat) : List Char :=
    let missing := if fill = '-' then 0 else width - sign.length - ds.length
    if fill = '_' then List.replicate missing ' ' ++ sign ++ ds
    else sign ++ List.replicate missing '0' ++ ds
  match w.manner with
  | .rich => filled (w.width.getD f.digits)
  | .plain =>
    let width := w.width.getD 0
    w.text (filled (if f.digits < width then width else f.digits))

def number (w : Wish) (f : Figure) : List Char :=
  w.signed f (Nat.toDigits 10 f.value.natAbs)

/-- an offset from universal time with as many colons -/
def offset (w : Wish) (p : Phase) (colons : Nat) : List Char :=
  let size := p.offset.natAbs
  let (hours, minutes, seconds) := (size / 3600, size / 60 % 60, size % 60)
  let sign : Int := if p.offset < 0 || (p.offset = 0 && p.name.startsWith "-") then -1 else 0
  -- three colons ask for as few parts as possible
  let colons := if colons = 3 then (if seconds ≠ 0 then 2 else if minutes ≠ 0 then 1 else 3)
    else colons
  match colons with
  | 0 =>
    if w.manner = .plain then
      -- the sign and the digits are each as wide
      w.text [if sign < 0 then '-' else '+']
        ++ w.signed ⟨4, 0, '0', false⟩ (pairs 0 (hours * 100 + minutes))
    else w.signed ⟨5, sign, '0', true⟩ (pairs 0 (hours * 100 + minutes))
  | 1 => w.signed ⟨6, sign, '0', true⟩ (pairs 1 (hours * 100 + minutes))
  | 2 => w.signed ⟨9, sign, '0', true⟩ (pairs 2 (hours * 10000 + minutes * 100 + seconds))
  | _ => w.signed ⟨3, sign, '0', true⟩ (pairs 0 hours)

/-- the part of a second, cut to as many digits as the width says -/
def fraction (w : Wish) (nanos : Int) : List Char :=
  let width := match w.width with
    | some (n + 1) => n + 1
    | _ => 9
  let ds := Nat.toDigits 10 nanos.natAbs
  let ds := (List.replicate (9 - ds.length) '0' ++ ds).take width
  let short := match (ds.reverse.dropWhile (· == '0')).reverse with
    | [] => ds.take 1
    | short => short
  match w.fill with
  | some '-' => short
  | some '_' => short ++ List.replicate (width - short.length) ' '
  | _ => short ++ List.replicate (width - short.length) '0'

end Wish

/-- the hour of the half day -/
def halfDayHour (c : Civil) : Int := if c.hour % 12 = 0 then 12 else c.hour % 12

/-- the number that a letter stands for -/
def figure? (m : Moment) (manner : Manner) (letter : Char) : Option Figure :=
  let c := m.civil
  let zeros (digits : Nat) (n : Int) : Option Figure := some ⟨digits, n, '0', false⟩
  let blanks (digits : Nat) (n : Int) : Option Figure := some ⟨digits, n, '_', false⟩
  match letter with
  | 'd' => zeros 2 c.day
  | 'e' => blanks 2 c.day
  | 'H' => zeros 2 c.hour
  | 'I' => zeros 2 (halfDayHour c)
  | 'j' => zeros 3 (c.yearDay + 1)
  | 'k' => blanks 2 c.hour
  | 'l' => blanks 2 (halfDayHour c)
  | 'm' => zeros 2 c.month
  | 'M' => zeros 2 c.minute
  | 'q' => if manner = .rich then zeros 1 (Int.fdiv (c.month - 1) 3 + 1) else none
  | 's' => zeros 1 m.seconds
  | 'S' => zeros 2 c.second
  | 'u' => zeros 1 (if c.weekday = 0 then 7 else c.weekday)
  | 'U' => zeros 2 (Int.fdiv (c.yearDay + 7 - c.weekday) 7)
  | 'V' => zeros 2 c.isoWeek.2
  | 'w' => zeros 1 c.weekday
  | 'W' => zeros 2 (Int.fdiv (c.yearDay + 7 - Int.fmod (c.weekday + 6) 7) 7)
  | _ => none

/-- the year or the part of it that a letter stands for, with the count of its digits -/
def yearish? (m : Moment) (letter : Char) : Option (Nat × Int) :=
  let part (year : Int) : Int :=
    if year < 0 then (-year) % 100 else year % 100
  let c := m.civil
  match letter with
  | 'C' => some (2, Int.tdiv c.year 100)
  | 'g' => some (2, part c.isoWeek.1)
  | 'G' => some (4, c.isoWeek.1)
  | 'y' => some (2, part c.year)
  | 'Y' => some (4, c.year)
  | _ => none

/-- what a letter for several parts stands for -/
def compound? (letter : Char) : Option String :=
  match letter with
  | 'D' => some "%m/%d/%y"
  | 'R' => some "%H:%M"
  | 'T' => some "%H:%M:%S"
  | _ => none

/-- a letter for several parts whose order is a custom of a place -/
def customary? (letter : Char) : Option String :=
  match letter with
  | 'c' => some "%a %b %e %H:%M:%S %Y"
  | 'r' => some "%I:%M:%S %p"
  | 'x' => some "%m/%d/%y"
  | 'X' => some "%H:%M:%S"
  | _ => none

/-- whether a letter may stand behind a modifier -/
def admits (modifier letter : Char) : Bool :=
  if modifier = 'E' then ['c', 'C', 'x', 'X', 'y', 'Y', 'p', 'P', 'n', 't', 'q', 'r', 'R', 's', 'T',
      'u', 'z', 'Z'].contains letter
  else ['b', 'B', 'h', 'C', 'd', 'e', 'H', 'I', 'k', 'l', 'j', 'm', 'M', 'N', 'p', 'P', 'q', 'r', 'R',
    's', 'S', 'u', 'U', 'V', 'g', 'G', 'w', 'W', 'y', 'n', 't', 'T', 'z', 'Z'].contains letter

/-- reads the flags, the width and the modifier of a directive -/
def Wish.read (manner : Manner) (upper : Bool) (width : Option Nat) (cs : List Char) : Wish × List Char :=
  let flags := cs.takeWhile fun c =>
    ['-', '_', '0', '^', '#'].contains c || (c == '+' && manner = .rich)
  let rest := cs.drop flags.length
  let ds := rest.takeWhile Char.isDigit
  let rest := rest.drop ds.length
  let (modifier, rest) : Option Char × List Char := match rest with
    | 'E' :: rest => (some 'E', rest)
    | 'O' :: rest => (some 'O', rest)
    | rest => (none, rest)
  (⟨manner, flags.reverse.find? fun c => ['-', '_', '0', '+'].contains c,
    if ds.isEmpty then width else some (ds.foldl (fun n c => n * 10 + (c.toNat - 48)) 0),
    upper || flags.contains '^', flags.contains '#', modifier⟩, rest)

/-- a moment as a format says.  The letters of compound directives are written in turn: for them
`upper`, the filling of years and the width of the first directive are given.  The fuel is more
than the length of the format -/
def writeFrom (manner : Manner) (m : Moment) : (fuel : Nat) → (upper : Bool) →
    (years : Option Char) → (width : Option Nat) → List Char → List Char
  | 0, _, _, _, _ => []
  | _ + 1, _, _, _, [] => []
  | fuel + 1, upper, years, width, '%' :: cs =>
    let (w, rest) := Wish.read manner upper width cs
    let onward (text rest : List Char) : List Char :=
      text ++ writeFrom manner m fuel upper years none rest
    -- the directive as it is spelled, up to what is left
    let itself (left : List Char) : List Char :=
      onward (w.cased false ('%' :: cs.take (cs.length - left.length))) left
    let inner (width : Option Nat) (fill : Option Char) (format : String) : List Char :=
      writeFrom manner m fuel w.upper fill width format.toList
    -- what belongs to a place is written plainly, and filled up as a text
    let custom (format : List Char) : List Char :=
      w.cased false (writeFrom .plain m fuel false none none format)
    match rest with
    | [] => itself []
    | '%' :: after =>
      if manner = .rich then
        if rest.length = cs.length then onward ['%'] after else itself rest
      else onward (w.text ['%']) after
    | ':' :: _ =>
      let colons := rest.takeWhile (· == ':')
      match manner, rest.drop colons.length with
      | .rich, 'z' :: after =>
        if w.modifier = some 'O' && 0 ≤ m.phase.offset && colons.length ≤ 3 then
          onward (w.text ['%', 'O', ':']) after
        else if colons.length ≤ 3 then onward (w.offset m.phase colons.length) after
        else itself after
      | _, _ => itself (rest.drop 1)
    | letter :: after =>
      let allowed := match w.modifier with
        | some modifier => admits modifier letter
        | none => true
      let isLocal := manner = .rich
        && (match w.modifier with
          | some 'O' => (letter ≠ 's' && (figure? m manner letter).isSome)
            || ['C', 'g', 'G', 'y'].contains letter || (letter = 'z' && 0 ≤ m.phase.offset)
          | some 'E' => ['C', 'y', 'Y'].contains letter
          | _ => false)
      if !allowed then itself after
      else if isLocal then
        if letter = 'q' then onward (w.text ['%', 'O', 'q']) after
        else onward (custom ['%', letter]) after
      else
        match figure? m manner letter, yearish? m letter, compound? letter with
        | some f, _, _ =>
          -- seconds are no wider than they have to be
          onward (if letter = 's' && manner = .plain then
              w.text ({ w with width := none }.number f)
            else w.number f) after
        | none, some (digits, value), _ =>
          match manner with
          | .rich =>
            let fill := w.fill <|> years
            let hasSign := fill = some '+'
              && ((if digits = 2 then 99 else 9999) < value.natAbs || digits < w.width.getD 0)
            onward ({ w with fill := fill }.number ⟨digits, value, '0', hasSign⟩) after
          | .plain =>
            let digits := if ['g', 'y'].contains letter then 2 else 1
            onward (w.number ⟨digits, value, '0', false⟩) after
        | none, none, some format => onward (w.text (inner none w.fill format)) after
        | none, none, none =>
          match customary? letter with
          | some format => onward (custom format.toList) after
          | none =>
          match letter with
          | 'a' => onward (w.name (shortName (dayNames.getD m.civil.weekday.toNat ""))) after
          | 'A' => onward (w.name (dayNames.getD m.civil.weekday.toNat "")) after
          | 'b' => onward (w.name (shortName (monthNames.getD (m.civil.month - 1).toNat ""))) after
          | 'h' => onward (w.name (shortName (monthNames.getD (m.civil.month - 1).toNat ""))) after
          | 'B' => onward (w.name (monthNames.getD (m.civil.month - 1).toNat "")) after
          | 'F' =>
            if manner = .plain then onward (w.text (inner none none "%Y-%m-%d")) after
            else
              match w.fill, w.width with
              | none, none => onward (inner (some 4) (some '+') "%Y-%m-%d") after
              | fill, width =>
                onward (w.text (inner (some (width.getD 0 - 6)) fill "%Y-%m-%d")) after
          | 'n' => onward (w.text ['\n']) after
          | 't' => onward (w.text ['\t']) after
          | 'N' =>
            if manner = .rich then onward (w.fraction m.civil.nanos) after else itself after
          | 'p' =>
            onward (w.cased w.change (if m.civil.hour < 12 then "AM" else "PM").toList) after
          | 'P' => onward (w.cased true (if m.civil.hour < 12 then "AM" else "PM").toList) after
          | 'z' => onward (w.offset m.phase 0) after
          | 'Z' => onward (w.cased w.change m.phase.name.toList) after
          | _ => itself after
  | fuel + 1, upper, years, _, c :: cs =>
    (if upper then c.toUpper else c) :: writeFrom manner m fuel upper years none cs

/-- an instant in a zone as a format says -/
def write (manner : Manner) (z : Zone) (instant : Int) (format : OctetText) : OctetText :=
  String.ofList (writeFrom manner (.of z instant) (format.length + 40) false none none format.toList)

end ShellWorkers.Clock
