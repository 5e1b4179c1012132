import ShellWorkers.Clock.Zone

/-!
# Times in words

Times as people write them, from their words up.
-/

/-!
## Words about time

The parts of a text that tells a time: numbers, and words for months, weekdays, zones, units and
the like.

* `Word`              the kinds of parts;
* `Word.named?`       what a word of letters means;
* `words`             the parts of a text.
-/

namespace ShellWorkers.Clock

open Text (OctetText)

/-- what amounts of time count -/
inductive TimeUnit where
  | year
  | month
  | days (count : Int)
  | hour
  | minute
  | second

/-- a number as it is spelled -/
structure Numeral where
  value : Nat
  /-- how many digits it has -/
  digits : Nat

/-- a part of a text that tells a time -/
inductive Word where
  | number (n : Numeral)
  | signed (isNegative : Bool) (n : Numeral)
  /-- a number with a point, in nanoseconds -/
  | decimal (nanos : Int)
  | signedDecimal (nanos : Int)
  /-- which half of the day -/
  | half (isAfternoon : Bool)
  | month (n : Int)
  | day (n : Int)
  | zone (offset : Int)
  /-- a zone in summer, with its offset in the rest of the year -/
  | summerZone (offset : Int)
  /-- the zone that is in force here; nothing where summer has the same name -/
  | ownZone (isSummer : Option Bool)
  /-- the letter between a date and a time of day, a zone too -/
  | separator
  /-- the letter for the zone that is in force -/
  | ownLetter
  | summer
  | unit (u : TimeUnit)
  /-- so many days from now -/
  | shift (days : Int)
  | ordinal (n : Int)
  /-- the way in which the amount before counts -/
  | ago (factor : Int)
  | mark (c : Char)
  | unknown

namespace Word

/-- half hours ahead of universal time -/
def halfHours (n : Int) : Int := n * 1800

/-- zones that have the same name everywhere -/
def universalNames : List String := ["GMT", "UT", "UTC"]

/-- names of zones with their half hours, and whether they are names for the summer -/
def zoneNames : List (String × Int × Bool) :=
  [("WET", 0, false), ("WEST", 0, true), ("BST", 0, true), ("ART", -6, false), ("BRT", -6, false),
    ("BRST", -6, true), ("NST", -7, false), ("NDT", -7, true), ("AST", -8, false),
    ("ADT", -8, true), ("CLT", -8, false), ("CLST", -8, true), ("EST", -10, false),
    ("EDT", -10, true), ("CST", -12, false), ("CDT", -12, true), ("MST", -14, false),
    ("MDT", -14, true), ("PST", -16, false), ("PDT", -16, true), ("AKST", -18, false),
    ("AKDT", -18, true), ("HST", -20, false), ("HAST", -20, false), ("HADT", -20, true),
    ("SST", -24, false), ("WAT", 2, false), ("CET", 2, false), ("CEST", 2, true),
    ("MET", 2, false), ("MEZ", 2, false), ("MEST", 2, true), ("MESZ", 2, true),
    ("EET", 4, false), ("EEST", 4, true), ("CAT", 4, false), ("SAST", 4, false),
    ("EAT", 6, false), ("MSK", 6, false), ("MSD", 6, true), ("IST", 11, false),
    ("SGT", 16, false), ("KST", 18, false), ("JST", 18, false), ("GST", 20, false),
    ("NZST", 24, false), ("NZDT", 24, true)]

/-- names of months and weekdays besides the usual ones -/
def otherMonths : List (String × Int) := [("SEPT", 9)]

def otherDays : List (String × Int) := [("TUES", 2), ("WEDNES", 3), ("THUR", 4), ("THURS", 4)]

def unitNames : List (String × TimeUnit) :=
  [("YEAR", .year), ("MONTH", .month), ("FORTNIGHT", .days 14), ("WEEK", .days 7),
    ("DAY", .days 1), ("HOUR", .hour), ("MINUTE", .minute), ("MIN", .minute),
    ("SECOND", .second), ("SEC", .second)]

def relativeNames : List (String × Word) :=
  [("TOMORROW", .shift 1), ("YESTERDAY", .shift (-1)), ("TODAY", .shift 0), ("NOW", .shift 0),
    ("LAST", .ordinal (-1)), ("THIS", .ordinal 0), ("NEXT", .ordinal 1), ("FIRST", .ordinal 1),
    ("THIRD", .ordinal 3), ("FOURTH", .ordinal 4), ("FIFTH", .ordinal 5), ("SIXTH", .ordinal 6),
    ("SEVENTH", .ordinal 7), ("EIGHTH", .ordinal 8), ("NINTH", .ordinal 9),
    ("TENTH", .ordinal 10), ("ELEVENTH", .ordinal 11), ("TWELFTH", .ordinal 12),
    ("AGO", .ago (-1)), ("HENCE", .ago 1)]

/-- a letter as a zone: those before the middle of the alphabet lie ahead of universal time, those
behind it lie back -/
def letterZone? (c : Char) : Option Word :=
  let place : Int := c.toNat - 64
  if c = 'J' then some .ownLetter
  else if c = 'T' then some .separator
  else if c = 'Z' then some (.zone 0)
  else if !c.isUpper then none
  else if place < 10 then some (.zone (halfHours (2 * place)))
  else if place < 14 then some (.zone (halfHours (2 * (place - 1))))
  else some (.zone (halfHours (2 * (13 - place))))

/-- the place of a name in a list, where three letters are enough -/
def placeOf? (names : List String) (isShort : Bool) (word : String) : Option Int :=
  ((List.range names.length).find? fun i =>
    let name := (names.getD i "").map Char.toUpper
    if isShort then name.toList.take 3 == word.toList.take 3 else name == word).map
    fun i => (i : Int)

/-- a zone by its name; `own` are the names of the zone that is in force -/
def zoneNamed? (own : List (OctetText × Option Bool)) (word : String) : Option Word :=
  if universalNames.contains word then some (.zone 0)
  else
    match own.find? (·.1 == word), zoneNames.find? (·.1 == word) with
    | some (_, isSummer), _ => some (.ownZone isSummer)
    | none, some (_, n, isSummer) =>
      some (if isSummer then .summerZone (halfHours n) else .zone (halfHours n))
    | none, none => none

def unitNamed? (word : String) : Option Word :=
  (unitNames.find? (·.1 == word)).map fun n => .unit n.2

/-- a word that has more than one letter and names a month or a weekday -/
def monthOrDay? (word : String) : Option Word :=
  let isShort := word.length = 3 || (word.length = 4 && word.endsWith ".")
  match placeOf? monthNames isShort word, otherMonths.find? (·.1 == word),
      placeOf? dayNames isShort word, otherDays.find? (·.1 == word) with
  | some n, _, _, _ => some (.month (n + 1))
  | none, some (_, n), _, _ => some (.month n)
  | none, none, some n, _ => some (.day n)
  | none, none, none, some (_, n) => some (.day n)
  | none, none, none, none => none

/-- what a word means -/
def named? (own : List (OctetText × Option Bool)) (word : OctetText) : Option Word :=
  let word := word.map Char.toUpper
  if word = "AM" || word = "A.M." then some (.half false)
  else if word = "PM" || word = "P.M." then some (.half true)
  else
    let single : Option Word := match word.toList with
      | [c] => letterZone? c
      | _ => none
    let withoutS : Option Word :=
      if word.endsWith "S" then unitNamed? (String.ofList word.toList.dropLast) else none
    let withoutPeriods : Option Word :=
      if word.toList.contains '.' then zoneNamed? own (String.ofList (word.toList.filter (· != '.')))
      else none
    monthOrDay? word <|> zoneNamed? own word
      <|> (if word = "DST" then some .summer else none)
      <|> unitNamed? word <|> withoutS
      <|> (relativeNames.find? (·.1 == word)).map (·.2)
      <|> single <|> withoutPeriods

end Word

def isSpace (c : Char) : Bool := c == ' ' || (9 ≤ c.toNat && c.toNat ≤ 13)

def digitsNumber (ds : List Char) : Nat := ds.foldl (fun n c => n * 10 + (c.toNat - 48)) 0

/-- digits behind a point as nanoseconds; less than one is lost, or counts as one where they are
rounded up -/
def nanosOf (up : Bool) (ds : List Char) : Int :=
  let cut : Int := digitsNumber ((ds ++ List.replicate 9 '0').take 9)
  if up && (ds.drop 9).any (· != '0') then cut + 1 else cut

/-- a number at the beginning of a text, which has a sign or none -/
def numberWord (sign : Option Char) (cs : List Char) : Word × List Char :=
  let ds := cs.takeWhile Char.isDigit
  let rest := cs.drop ds.length
  let value := digitsNumber ds
  let isNegative := sign = some '-'
  let limit := Nat.pow 2 63
  if (if isNegative then limit < value else limit ≤ value) then (.unknown, rest)
  else
    let part : List Char := match rest with
      | c :: cs => if c == '.' || c == ',' then cs.takeWhile Char.isDigit else []
      | [] => []
    if part.isEmpty then
      (if sign.isSome then .signed isNegative ⟨value, ds.length⟩ else .number ⟨value, ds.length⟩,
        rest)
    else
      let nanos := value * nanosPerSecond + nanosOf isNegative part
      let rest := rest.drop (part.length + 1)
      if sign.isSome then (.signedDecimal (if isNegative then -nanos else nanos), rest)
      else (.decimal nanos, rest)

/-- what is left behind a remark between parentheses, which may stand in each other; nothing if it
does not end -/
def remarkEnd? : (depth : Nat) → List Char → Option (List Char)
  | _, [] => none
  | depth, '(' :: cs => remarkEnd? (depth + 1) cs
  | depth, ')' :: cs => if depth ≤ 1 then some cs else remarkEnd? (depth - 1) cs
  | depth, _ :: cs => remarkEnd? depth cs

/-- the letters of a word that count -/
def wordLimit : Nat := 19

/-- the parts of a text; the fuel is more than its length -/
def words (own : List (OctetText × Option Bool)) : (fuel : Nat) → List Char → List Word
  | 0, _ => []
  | _ + 1, [] => []
  | fuel + 1, c :: cs =>
    if isSpace c then words own fuel cs
    else if c.isDigit then
      let (word, rest) := numberWord none (c :: cs)
      word :: words own fuel rest
    else if c == '-' || c == '+' then
      let rest := cs.dropWhile isSpace
      if (rest.head?.map Char.isDigit).getD false then
        let (word, rest) := numberWord (some c) rest
        word :: words own fuel rest
      else words own fuel rest
    else if c.isAlpha then
      let word := (c :: cs).takeWhile fun c => c.isAlpha || c == '.'
      ((Word.named? own (String.ofList (word.take wordLimit))).getD .unknown)
        :: words own fuel ((c :: cs).drop word.length)
    else if c == '(' then
      match remarkEnd? 0 (c :: cs) with
      | some rest => words own fuel rest
      | none => []
    else .mark c :: words own fuel cs

end ShellWorkers.Clock

/-!
## Times as people write them

A text tells an instant by items in any order: a date, a time of day, a zone, a weekday, and
amounts of time to go on or back.  Each kind but the amounts stands once at most.

* `Reading.item?`          reads the next item;
* `Reading.instant?`       the instant that has been told;
* `read?`                  the instant that a text tells.
-/

namespace ShellWorkers.Clock

open Text (OctetText)

/-- amounts of time -/
structure Span where
  years : Int
  months : Int
  days : Int
  nanos : Int

namespace Span

def zero : Span := ⟨0, 0, 0, 0⟩

/-- so many units -/
def units (u : TimeUnit) (n : Int) : Span :=
  match u with
  | .year => { zero with years := n }
  | .month => { zero with months := n }
  | .days count => { zero with days := n * count }
  | .hour => { zero with nanos := n * 3600 * nanosPerSecond }
  | .minute => { zero with nanos := n * 60 * nanosPerSecond }
  | .second => { zero with nanos := n * nanosPerSecond }

/-- an amount as many times -/
def times (factor : Int) (s : Span) : Span :=
  ⟨factor * s.years, factor * s.months, factor * s.days, factor * s.nanos⟩

def plus (s t : Span) : Span :=
  ⟨s.years + t.years, s.months + t.months, s.days + t.days, s.nanos + t.nanos⟩

end Span

/-- what has been read of an instant -/
structure Reading where
  civil : Civil
  /-- how many digits the year was written with -/
  yearDigits : Nat
  isAfternoon : Option Bool
  span : Span
  hasSpan : Bool
  /-- the weekday, and which one of those that follow -/
  weekday : Int
  ordinal : Int
  zone : Int
  isSummer : Option Bool
  /-- how many items there were of each kind -/
  dates : Nat
  times : Nat
  weekdays : Nat
  zones : Nat
  ownZones : Nat
  ownLetters : Nat
  summers : Nat

namespace Reading

def start (civil : Civil) : Reading :=
  ⟨civil, 0, none, .zero, false, 0, 0, 0, none, 0, 0, 0, 0, 0, 0, 0⟩

/-! ### what items say -/

def withYear (r : Reading) (year : Int) (digits : Nat) : Reading :=
  { r with civil := { r.civil with year := year }, yearDigits := digits }

/-- a day of a month -/
def withDay (r : Reading) (month day : Int) : Reading :=
  { r with civil := { r.civil with month := month, day := day }, dates := r.dates + 1 }

def withTime (r : Reading) (hour minute nanos : Int) (isAfternoon : Option Bool) : Reading :=
  { r with
    civil := { r.civil with
      hour := hour, minute := minute
      second := nanos / nanosPerSecond, nanos := nanos % nanosPerSecond }
    isAfternoon := isAfternoon
    times := r.times + 1 }

def withZone (r : Reading) (offset : Int) : Reading :=
  { r with zone := offset, zones := r.zones + 1 }

def withWeekday (r : Reading) (day ordinal : Int) : Reading :=
  { r with weekday := day, ordinal := ordinal, weekdays := r.weekdays + 1 }

def move (r : Reading) (s : Span) : Reading := { r with span := r.span.plus s, hasSpan := true }

/-- a number that stands alone: a year behind a date, else a date or a time of day by its length -/
def withNumber (r : Reading) (n : Numeral) : Reading :=
  if 0 < r.dates && r.yearDigits = 0 && !r.hasSpan && (0 < r.times || 2 < n.digits) then
    r.withYear n.value n.digits
  else if 4 < n.digits then
    (r.withDay (n.value / 100 % 100 : Nat) (n.value % 100 : Nat)).withYear (n.value / 10000 : Nat)
      (n.digits - 4)
  else if n.digits ≤ 2 then r.withTime n.value 0 0 none
  else r.withTime (n.value / 100 : Nat) (n.value % 100 : Nat) 0 none

/-! ### the items -/

/-- an amount, which a word behind it may turn around -/
def amount (r : Reading) (s : Span) (rest : List Word) : Reading × List Word :=
  match rest with
  | .ago factor :: rest => (r.move (s.times factor), rest)
  | rest => (r.move s, rest)

/-- what a number with a sign stands for -/
def signedValue (isNegative : Bool) (n : Numeral) : Int :=
  if isNegative then -(n.value : Int) else n.value

/-- an offset from universal time, of which at most a day is allowed, and the rest.  A short number
is of hours, a long one of hours and minutes, and minutes may stand behind a colon -/
def zoneOffset? (isNegative : Bool) (n : Numeral) (rest : List Word) :
    Option (Int × List Word) :=
  let limited (minutes : Int) (rest : List Word) : Option (Int × List Word) :=
    if minutes.natAbs ≤ 24 * 60 then some (minutes * 60, rest) else none
  let signed (minutes : Nat) : Int := if isNegative then -(minutes : Int) else minutes
  match rest with
  | .mark ':' :: .number m :: rest => limited (signed (n.value * 60 + m.value)) rest
  | .mark ':' :: _ => none
  | rest =>
    let value := if n.digits ≤ 2 then n.value * 100 else n.value
    limited (signed (value / 100 * 60 + value % 100)) rest

/-- the end of a time of day: an offset, or nothing -/
def timeEnd? (r : Reading) (rest : List Word) : Option (Reading × List Word) :=
  match rest with
  | .signed isNegative n :: rest =>
    (zoneOffset? isNegative n rest).map fun (offset, rest) => (r.withZone offset, rest)
  | rest => some (r, rest)

/-- a time of day behind its hour; only a time that stands alone may say which half of the day -/
def timeOfDay? (r : Reading) (isAlone : Bool) (hour : Nat) (rest : List Word) :
    Option (Reading × List Word) :=
  let ended (minute : Nat) (nanos : Int) (rest : List Word) : Option (Reading × List Word) :=
    match isAlone, rest with
    | true, .half isAfternoon :: rest => some (r.withTime hour minute nanos (some isAfternoon), rest)
    | _, rest => timeEnd? (r.withTime hour minute nanos none) rest
  match rest with
  | .mark ':' :: .number minute :: .mark ':' :: .number second :: rest =>
    ended minute.value (second.value * nanosPerSecond) rest
  | .mark ':' :: .number minute :: .mark ':' :: .decimal nanos :: rest =>
    ended minute.value nanos rest
  | .mark ':' :: .number _ :: .mark ':' :: _ => none
  | .mark ':' :: .number minute :: rest => ended minute.value 0 rest
  | .signed isNegative n :: rest =>
    timeEnd? (r.withTime hour 0 0 none) (.signed isNegative n :: rest)
  | _ => none

/-- what stands behind a year, a month and a day: a time of day may follow at once -/
def afterDate? (r : Reading) (rest : List Word) : Option (Reading × List Word) :=
  match rest with
  | .separator :: .number hour :: rest => r.timeOfDay? false hour.value rest
  | .separator :: _ => none
  | rest => some (r, rest)

/-- an item that begins with a number -/
def numberItem? (r : Reading) (n : Numeral) (rest : List Word) : Option (Reading × List Word) :=
  match rest with
  | .half isAfternoon :: rest => some (r.withTime n.value 0 0 (some isAfternoon), rest)
  | .mark ':' :: _ => r.timeOfDay? true n.value rest
  | .day day :: rest => some (r.withWeekday day n.value, rest)
  | .mark '/' :: .number b :: .mark '/' :: .number c :: rest =>
    if 4 ≤ n.digits then some ((r.withDay b.value c.value).withYear n.value n.digits, rest)
    else some ((r.withDay n.value b.value).withYear c.value c.digits, rest)
  | .mark '/' :: .number _ :: .mark '/' :: _ => none
  | .mark '/' :: .number b :: rest => some (r.withDay n.value b.value, rest)
  | .mark '/' :: _ => none
  | .month month :: .signed isNegative year :: rest =>
    some ((r.withDay month n.value).withYear (-(signedValue isNegative year)) year.digits, rest)
  | .month month :: .number year :: rest =>
    some ((r.withDay month n.value).withYear year.value year.digits, rest)
  | .month month :: rest => some (r.withDay month n.value, rest)
  | .signed yes month :: .signed isNegative day :: rest =>
    ((r.withDay (-(signedValue yes month)) (-(signedValue isNegative day))).withYear n.value
      n.digits).afterDate? rest
  | .signed isNegative amount :: .unit u :: rest =>
    some ((r.withNumber n).move (.units u (signedValue isNegative amount)), rest)
  | .signed .. :: _ => r.timeOfDay? true n.value rest
  | .unit u :: rest => some (r.amount (.units u n.value) rest)
  | rest => some (r.withNumber n, rest)

/-- the next item -/
def item? (r : Reading) (parts : List Word) : Option (Reading × List Word) :=
  match parts with
  | .number n :: rest => r.numberItem? n rest
  | .decimal nanos :: .unit .second :: rest => some (r.amount { Span.zero with nanos := nanos } rest)
  | .signedDecimal nanos :: .unit .second :: rest =>
    some (r.amount { Span.zero with nanos := nanos } rest)
  | .signed isNegative n :: .unit u :: rest =>
    some (r.amount (.units u (signedValue isNegative n)) rest)
  | .month month :: .signed yes day :: .signed isNegative year :: rest =>
    some ((r.withDay month (-(signedValue yes day))).withYear (-(signedValue isNegative year))
      year.digits, rest)
  | .month month :: .number day :: .mark ',' :: .number year :: rest =>
    some ((r.withDay month day.value).withYear year.value year.digits, rest)
  | .month _ :: .number _ :: .mark ',' :: _ => none
  | .month month :: .number day :: rest => some (r.withDay month day.value, rest)
  | .day day :: .mark ',' :: rest => some (r.withWeekday day 0, rest)
  | .day day :: rest => some (r.withWeekday day 0, rest)
  | .ordinal n :: .day day :: rest => some (r.withWeekday day n, rest)
  | .ordinal n :: .unit u :: rest => some (r.amount (.units u n) rest)
  | .unit u :: rest => some (r.amount (.units u 1) rest)
  | .shift days :: rest => some (r.move { Span.zero with days := days }, rest)
  | .zone offset :: .signed isNegative n :: .unit u :: rest =>
    some ((r.withZone offset).move (.units u (signedValue isNegative n)), rest)
  | .zone offset :: .signed isNegative n :: rest =>
    (zoneOffset? isNegative n rest).map fun (more, rest) => (r.withZone (offset + more), rest)
  | .zone offset :: .summer :: rest => some (r.withZone (offset + 3600), rest)
  | .zone offset :: rest => some (r.withZone offset, rest)
  | .summerZone offset :: rest => some (r.withZone (offset + 3600), rest)
  | .separator :: .signed isNegative n :: .unit u :: rest =>
    some ((r.withZone (-7 * 3600)).move (.units u (signedValue isNegative n)), rest)
  | .separator :: .signed .. :: _ => none
  | .separator :: rest => some (r.withZone (-7 * 3600), rest)
  | .ownZone _ :: .summer :: rest =>
    some ({ r with
      isSummer := some true, ownZones := r.ownZones + 1, summers := r.summers + 1 }, rest)
  | .ownZone isSummer :: rest =>
    some ({ r with isSummer := isSummer, ownZones := r.ownZones + 1 }, rest)
  | .ownLetter :: rest => some ({ r with ownLetters := r.ownLetters + 1 }, rest)
  | _ => none

/-- reads all items; the fuel is more than the number of parts -/
def items? (r : Reading) : (fuel : Nat) → List Word → Option Reading
  | _, [] => some r
  | 0, _ => none
  | fuel + 1, parts => (r.item? parts).bind fun (r, rest) => r.items? fuel rest

/-! ### the instant -/

/-- the year that is meant: two digits stand for one that is near -/
def fullYear (r : Reading) : Int :=
  let year := r.civil.year
  if r.yearDigits = 2 && 0 ≤ year then (if year < 69 then year + 2000 else year + 1900)
  else if year < 0 then -year
  else year

/-- the hour that is meant, if it is one -/
def fullHour? (r : Reading) : Option Int :=
  let hour := r.civil.hour
  match r.isAfternoon with
  | none => if hour < 24 then some hour else none
  | some isAfternoon =>
    let later : Int := if isAfternoon then 12 else 0
    if 0 < hour && hour < 12 then some (hour + later)
    else if hour = 12 then some later
    else none

/-- the numbers that years, months and days must not leave -/
def isSmall (n : Int) : Bool := -2147483648 ≤ n && n ≤ 2147483647

def isFitting (c : Civil) : Bool := isSmall (c.year - 1900) && isSmall (c.month - 1) && isSmall c.day

/-- the date and time that have been told, without amounts -/
def told? (r : Reading) : Option Civil :=
  let c := { r.civil with year := r.fullYear }
  if !isFitting c then none
  else if 0 < r.times || (r.hasSpan && r.dates = 0 && r.weekdays = 0) then
    r.fullHour?.map fun hour => { c with hour := hour }
  else some { c with hour := 0, minute := 0, second := 0, nanos := 0 }

/-- the first instant of a time and the offset that holds: that of the zone, or where the zone has
no such time that of the zone that was told -/
def placed? (r : Reading) (z : Zone) (wanted : Option Bool) (c : Civil) : Option (Int × Int) :=
  let own : Option (Int × Int) := (z.seconds? wanted c).bind fun seconds =>
    let offset := (z.phase seconds).offset
    if (Civil.ofSeconds (seconds + offset) 0).agrees c then some (seconds, offset) else none
  match own with
  | some place => some place
  | none =>
    if 0 < r.zones && (Civil.ofSeconds c.seconds 0).agrees c then
      some (c.seconds - r.zone, r.zone)
    else none

/-- the instant that has been told; `wasSummer` says whether it is summer now -/
def instant? (r : Reading) (z : Zone) (wasSummer : Bool) : Option Int := do
  let counts := [r.times, r.dates, r.weekdays, r.summers, r.ownLetters + r.ownZones + r.zones]
  if counts.any (1 < ·) then none
  let c ← r.told?
  let wanted : Option Bool :=
    if 0 < r.ownZones then r.isSummer
    else if r.dates + r.weekdays + r.times ≠ 0 then none
    else some wasSummer
  let (seconds, offset) ← r.placed? z wanted c
  let replaced (wanted : Option Bool) (c : Civil) : Option (Int × Int) :=
    if !isFitting c then none
    else (z.seconds? wanted c).map fun seconds => (seconds, (z.phase seconds).offset)
  -- the weekday that follows
  let (day, seconds, offset) ←
    if 0 < r.weekdays && r.dates = 0 then do
      let ahead := Int.fmod (r.weekday - c.weekday) 7
      let weeks := if 0 < r.ordinal && ahead ≠ 0 then r.ordinal - 1 else r.ordinal
      let day := c.day + ahead + 7 * weeks
      let (seconds, offset) ← replaced none { c with day := day }
      pure (day, seconds, offset)
    else pure (c.day, seconds, offset)
  let (seconds, offset) ←
    if r.span.years ≠ 0 || r.span.months ≠ 0 || r.span.days ≠ 0 then do
      let base := Civil.ofSeconds ({ c with day := day }.seconds) 0
      replaced wanted { c with
        year := base.year + r.span.years, month := base.month + r.span.months
        day := base.day + r.span.days }
    else pure (seconds, offset)
  let seconds := if 0 < r.zones then seconds + offset - r.zone else seconds
  let instant := seconds * nanosPerSecond + c.nanos + r.span.nanos
  let limit : Int := (Nat.pow 2 63 : Nat)
  let whole := Int.fdiv instant nanosPerSecond
  if -limit ≤ whole && whole < limit then some instant else none

end Reading

/-! ### texts -/

/-- the text between quotes that names a zone, and the rest; a quote or a backslash in it stands
behind a backslash -/
def quotedZone? : List Char → Option (List Char × List Char)
  | '\\' :: c :: cs =>
    if c == '\\' || c == '"' then (quotedZone? cs).map fun (name, rest) => (c :: name, rest)
    else none
  | '"' :: cs => some ([], cs)
  | c :: cs => (quotedZone? cs).map fun (name, rest) => (c :: name, rest)
  | [] => none

/-- a quarter of a year, in seconds -/
def quarter : Int := 90 * secondsPerDay

/-- the names of a zone at an instant and in the year that follows; nothing is said of summer where
both have the same one -/
def Zone.names (z : Zone) (seconds : Int) : List (OctetText × Option Bool) :=
  let p := z.phase seconds
  let others := [1, 2, 3].map fun (n : Int) => z.phase (seconds + n * quarter)
  match others.find? fun q => q.isSummer ≠ p.isSummer with
  | some q =>
    if q.name = p.name then [(p.name, none)]
    else [(p.name, some p.isSummer), (q.name, some q.isSummer)]
  | none => [(p.name, some p.isSummer)]

/-- the instant that a text tells in a zone, seen from the present -/
def read? (z : Zone) (now : Int) (text : OctetText) : Option Int :=
  let cs := text.toList.dropWhile isSpace
  let (z, cs) : Zone × List Char := match cs with
    | 'T' :: 'Z' :: '=' :: '"' :: rest =>
      match quotedZone? rest with
      | some (name, rest) =>
        (.ofText (some (String.ofList name)), rest.dropWhile isSpace)
      | none => (z, cs)
    | cs => (z, cs)
  let cs := if cs.isEmpty then ['0'] else cs
  let seconds := Int.fdiv now nanosPerSecond
  let parts := words (z.names seconds) (cs.length + 1) cs
  match parts with
  | [.mark '@', .number n] => some (n.value * nanosPerSecond)
  | [.mark '@', .signed isNegative n] => some (Reading.signedValue isNegative n * nanosPerSecond)
  | [.mark '@', .decimal nanos] => some nanos
  | [.mark '@', .signedDecimal nanos] => some nanos
  | .mark '@' :: _ => none
  | parts =>
    ((Reading.start (z.civil now)).items? (parts.length + 1) parts).bind fun r =>
      r.instant? z (z.phase seconds).isSummer

end ShellWorkers.Clock
