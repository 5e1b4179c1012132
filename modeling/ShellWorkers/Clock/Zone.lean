import ShellWorkers.Text.Utf8

/-!
# Dates and zones

The calendar, and the offsets from it that hold in a zone.
-/

/-!
## Dates

An instant is a number of nanoseconds since the beginning of 1970.

* `daysOf`, `dateOf`        dates as numbers of days, and back;
* `Civil.ofInstant`         the date and the time of day of an instant;
* `Civil.instant`           the way back.
-/

namespace ShellWorkers.Clock

def nanosPerSecond : Int := 1000000000

def secondsPerDay : Int := 86400

/-- a date and a time of day -/
structure Civil where
  year : Int
  month : Int
  day : Int
  hour : Int
  minute : Int
  second : Int
  nanos : Int

/-- the number of days from the beginning of 1970 to a date; months and days may be outside of
their ranges -/
def daysOf (year month day : Int) : Int :=
  let year := year + Int.fdiv (month - 1) 12
  let month := Int.fmod (month - 1) 12 + 1
  -- years begin in March here, so that the leap day comes last
  let y := if month ≤ 2 then year - 1 else year
  let m := Int.fmod (month + 9) 12
  365 * y + Int.fdiv y 4 - Int.fdiv y 100 + Int.fdiv y 400 + Int.fdiv (153 * m + 2) 5 + day - 1
    - 719468

/-- the date of a number of days -/
def dateOf (days : Int) : Int × Int × Int :=
  let z := days + 719468
  let era := Int.fdiv z 146097
  let doe := z - era * 146097
  let yoe := Int.fdiv (doe - Int.fdiv doe 1460 + Int.fdiv doe 36524 - Int.fdiv doe 146096) 365
  let doy := doe - (365 * yoe + Int.fdiv yoe 4 - Int.fdiv yoe 100)
  let mp := Int.fdiv (5 * doy + 2) 153
  let day := doy - Int.fdiv (153 * mp + 2) 5 + 1
  let month := if mp < 10 then mp + 3 else mp - 9
  (yoe + era * 400 + (if month ≤ 2 then 1 else 0), month, day)

namespace Civil

/-- the date and the time of day of a number of seconds -/
def ofSeconds (seconds nanos : Int) : Civil :=
  let days := Int.fdiv seconds secondsPerDay
  let rest := Int.fmod seconds secondsPerDay
  let (year, month, day) := dateOf days
  ⟨year, month, day, rest / 3600, rest / 60 % 60, rest % 60, nanos⟩

def ofInstant (instant : Int) : Civil :=
  ofSeconds (Int.fdiv instant nanosPerSecond) (Int.fmod instant nanosPerSecond)

/-- the whole seconds of a date and time; all parts but the year may be outside of their ranges -/
def seconds (c : Civil) : Int :=
  daysOf c.year c.month c.day * secondsPerDay + c.hour * 3600 + c.minute * 60 + c.second

def instant (c : Civil) : Int := c.seconds * nanosPerSecond + c.nanos

/-- whether two dates and times agree in all parts down to the second -/
def agrees (c d : Civil) : Bool :=
  c.year = d.year && c.month = d.month && c.day = d.day
    && c.hour = d.hour && c.minute = d.minute && c.second = d.second

/-- the day of the week, Sunday being 0 -/
def weekday (c : Civil) : Int := Int.fmod (daysOf c.year c.month c.day + 4) 7

/-- the day of the year, the first being 0 -/
def yearDay (c : Civil) : Int := daysOf c.year c.month c.day - daysOf c.year 1 1

/-- the year and the number of the week, of which the first one has the fourth of January -/
def isoWeek (c : Civil) : Int × Int :=
  let monday := Int.fmod (c.weekday + 6) 7
  let thursday := daysOf c.year c.month c.day - monday + 3
  let (year, _, _) := dateOf thursday
  (year, Int.fdiv (thursday - daysOf year 1 1) 7 + 1)

end Civil

def dayNames : List String :=
  ["Sunday", "Monday", "Tuesday", "Wednesday", "Thursday", "Friday", "Saturday"]

def monthNames : List String :=
  ["January", "February", "March", "April", "May", "June", "July", "August", "September",
    "October", "November", "December"]

def shortName (name : String) : String := String.ofList (name.toList.take 3)

end ShellWorkers.Clock

/-!
## Time zones

A zone has a name and an offset from universal time, and maybe others for the summer, with the days
on which the time changes.

* `Zone.read`          the zone that a text describes (`CET-1CEST,M3.5.0,M10.5.0/3`);
* `Zone.phase`         what holds at an instant;
* `Zone.seconds?`      the instant of a local date and time.
-/

namespace ShellWorkers.Clock

open Text (OctetText)

/-- a day of the year on which the time changes -/
inductive ChangeDay where
  /-- counted from 1, where the leap day is left out -/
  | counted (day : Nat)
  /-- counted from 0 -/
  | numbered (day : Nat)
  /-- a weekday in a week of a month; the fifth week is the last one -/
  | weekday (month week day : Nat)

/-- when the time changes: a day, and seconds from its beginning -/
structure Change where
  day : ChangeDay
  seconds : Int

/-- what holds in a part of the year -/
structure Phase where
  name : OctetText
  /-- how many seconds local time is ahead of universal time -/
  offset : Int
  isSummer : Bool

structure Zone where
  usual : Phase
  summer : Phase
  starts : Change
  ends : Change

namespace Change

/-- the change that stands for no rule -/
def none : Change := ⟨.numbered 0, 0⟩

def isLeap (year : Int) : Bool :=
  Int.fmod year 4 = 0 && (Int.fmod year 100 ≠ 0 || Int.fmod year 400 = 0)

/-- when the time changes in a year, in seconds of universal time; the offset is that of the time
before -/
def during (c : Change) (offset year : Int) : Int :=
  let days : Int := match c.day with
    | .counted day =>
      daysOf year 1 1 + day - 1 + (if isLeap year && 60 ≤ day then 1 else 0)
    | .numbered day => daysOf year 1 1 + day
    | .weekday month week day =>
      let first := daysOf year month 1
      let next := daysOf year (month + 1) 1
      let start := first + Int.fmod (day - (first + 4)) 7
      let found := start + 7 * ((week : Int) - 1)
      if found < next then found else found - 7
  days * secondsPerDay - offset + c.seconds

end Change

namespace Zone

/-- a zone without a summer time -/
def plain (name : OctetText) (offset : Int) : Zone :=
  ⟨⟨name, offset, false⟩, ⟨name, offset, false⟩, .none, .none⟩

def universal : Zone := plain "UTC" 0

/-- what holds at an instant, which is given in seconds -/
def phase (z : Zone) (seconds : Int) : Phase :=
  let year := (Civil.ofSeconds seconds 0).year
  let starts := z.starts.during z.usual.offset year
  let ends := z.ends.during z.summer.offset year
  let isSummer :=
    if ends < starts then seconds < ends || starts ≤ seconds
    else starts ≤ seconds && seconds < ends
  if isSummer then z.summer else z.usual

/-- the local date and time of an instant -/
def civil (z : Zone) (instant : Int) : Civil :=
  let seconds := Int.fdiv instant nanosPerSecond
  .ofSeconds (seconds + (z.phase seconds).offset) (Int.fmod instant nanosPerSecond)

/-! ### reading -/

/-- the name of a zone and the rest: at least three letters, or more kinds of characters between
angle brackets -/
def name? (cs : List Char) : Option (OctetText × List Char) :=
  let letters := cs.takeWhile Char.isAlpha
  if 3 ≤ letters.length then some (String.ofList letters, cs.drop letters.length)
  else
    match cs with
    | '<' :: cs =>
      let inner := cs.takeWhile fun c => c.isAlphanum || c == '+' || c == '-'
      match cs.drop inner.length with
      | '>' :: rest => if 3 ≤ inner.length then some (String.ofList inner, rest) else none
      | _ => none
    | _ => none

/-- a number at the beginning of a text, if there is one -/
def number? (cs : List Char) : Option (Nat × List Char) :=
  let ds := cs.takeWhile Char.isDigit
  if ds.isEmpty then none
  else some (ds.foldl (fun n c => (n * 10 + (c.toNat - 48)) % 65536) 0, cs.drop ds.length)

/-- hours, maybe minutes and maybe seconds, which colons part -/
def time? (cs : List Char) : Option ((Nat × Nat × Nat) × List Char) :=
  (number? cs).map fun (hours, rest) =>
    let more (cs : List Char) : Option (Nat × List Char) :=
      match cs with
      | ':' :: cs => number? cs
      | _ => none
    match more rest with
    | none => ((hours, 0, 0), rest)
    | some (minutes, rest) =>
      match more rest with
      | none => ((hours, minutes, 0), rest)
      | some (seconds, rest) => ((hours, minutes, seconds), rest)

/-- a sign, of which a minus means ahead of universal time, and the rest -/
def sign (cs : List Char) : Int × List Char :=
  match cs with
  | '-' :: cs => (1, cs)
  | '+' :: cs => (-1, cs)
  | cs => (-1, cs)

/-- an offset from universal time and the rest -/
def offset? (cs : List Char) : Option (Int × List Char) :=
  let (factor, cs) := sign cs
  let atMost (limit n : Nat) : Int := if limit < n then limit else n
  (time? cs).map fun ((hours, minutes, seconds), rest) =>
    (factor * (atMost 24 hours * 3600 + atMost 59 minutes * 60 + atMost 59 seconds), rest)

/-- the day of a change and the rest; the other day is for a text that has ended -/
def changeDay? (other : ChangeDay) (cs : List Char) : Option (ChangeDay × List Char) :=
  match cs with
  | [] => some (other, [])
  | 'J' :: cs =>
    (number? cs).bind fun (day, rest) =>
      if day = 0 || 365 < day then none else some (.counted day, rest)
  | 'M' :: cs =>
    match number? cs with
    | some (month, '.' :: cs) =>
      match number? cs with
      | some (week, '.' :: cs) =>
        (number? cs).bind fun (day, rest) =>
          if 1 ≤ month && month ≤ 12 && 1 ≤ week && week ≤ 5 && day ≤ 6 then
            some (.weekday month week day, rest)
          else none
      | _ => none
    | _ => none
  | cs => (number? cs).bind fun (day, rest) => if 365 < day then none else some (.numbered day, rest)

/-- a change and the rest -/
def change? (other : ChangeDay) (cs : List Char) : Option (Change × List Char) :=
  let cs := match cs with
    | ',' :: cs => cs
    | cs => cs
  match changeDay? other cs with
  | none => none
  | some (day, []) => some (⟨day, 7200⟩, [])
  | some (day, ',' :: rest) => some (⟨day, 7200⟩, ',' :: rest)
  | some (day, '/' :: rest) =>
    if rest.isEmpty then none
    else
      let (factor, rest) : Int × List Char := match rest with
        | '-' :: rest => (-1, rest)
        | rest => (1, rest)
      match time? rest with
      | some ((hours, minutes, seconds), rest) =>
        some (⟨day, factor * (hours * 3600 + minutes * 60 + seconds : Nat)⟩, rest)
      | none => some (⟨day, factor * 7200⟩, rest)
  | some _ => none

/-- the days on which the time changes where no rule says others -/
def usualStart : ChangeDay := .weekday 3 2 0
def usualEnd : ChangeDay := .weekday 11 1 0

/-- the zone that a text describes.  What is not understood leaves universal time, with the names
that were understood -/
def read (text : OctetText) : Zone :=
  match name? text.toList with
  | none => plain "" 0
  | some (name, rest) =>
    let isOffset := match rest with
      | c :: _ => c == '+' || c == '-' || c.isDigit
      | [] => false
    match if isOffset then offset? rest else none with
    | none => ⟨⟨name, 0, false⟩, ⟨"", 0, true⟩, .none, .none⟩
    | some (offset, []) => plain name offset
    | some (offset, rest) =>
      let usual : Phase := ⟨name, offset, false⟩
      match name? rest with
      | none => ⟨usual, ⟨"", 0, true⟩, .none, .none⟩
      | some (name, rest) =>
        let (ahead, rest) := (offset? rest).getD (offset + 3600, (sign rest).2)
        let summer : Phase := ⟨name, ahead, true⟩
        match change? usualStart rest with
        | none => ⟨usual, summer, .none, .none⟩
        | some (starts, rest) =>
          match change? usualEnd rest with
          | none => ⟨usual, summer, starts, .none⟩
          | some (ends, _) => ⟨usual, summer, starts, ends⟩

/-! ### from local time to instants -/

/-- goes from a guess to the instant of a local time, given as seconds without an offset: by how
much the local time of the guess is wrong, by that much the guess is moved.  When that goes to and
fro between two instants the time is in a gap, and the one of the two in summer is taken unless
another was wanted.  The two earlier guesses are remembered -/
def search (z : Zone) (wanted : Option Bool) (wall : Int) :
    (fuel : Nat) → (before last guess : Int) → (wasSummer : Bool) → Option (Int × Bool)
  | 0, _, _, _, _ => none
  | fuel + 1, before, last, guess, wasSummer =>
    let p := z.phase guess
    let wrong := wall - (guess + p.offset)
    if wrong = 0 then some (guess, true)
    else if guess = before && guess ≠ last
        && (match wanted with
          | none => !wasSummer || p.isSummer
          | some summer => summer ≠ p.isSummer) then
      some (guess, false)
    else z.search wanted wall fuel last guess (guess + wrong) p.isSummer

/-- the distance between places where another part of the year is looked for, in seconds -/
def stride : Int := 601200

/-- how many such places there are on each side -/
def strideLimit : Nat := 447

/-- the instant in seconds of a local date and time, and whether it is exact or that of another
time near by.  Summer or usual time may be wanted; if none is then it is what holds -/
def seconds? (z : Zone) (wanted : Option Bool) (c : Civil) : Option Int :=
  let time := c.seconds
  match z.search wanted time 6 time time time false with
  | none => none
  | some (found, isExact) =>
    let differs (seconds : Int) : Bool := match wanted with
      | none => false
      | some summer => summer ≠ (z.phase seconds).isSummer
    if isExact && differs found then
      let places := (List.range strideLimit).flatMap fun (n : Nat) =>
        let distance := stride * ((n : Int) + 1)
        [found - distance, found + distance]
      (places.find? fun place => !differs place).map fun place =>
        time - (z.phase place).offset
    else some found

end Zone

end ShellWorkers.Clock

/-!
## Zones by name

The rules of the zones that are known by the name of a region.  `Zone.named?` looks a name up and
`Zone.ofText` reads what stands in a setting.
-/

namespace ShellWorkers.Clock

open Text (OctetText)

/-- a rule, and the names of the regions where it holds, with blanks between them -/
def regions : List (String × String) := [
  ("<+00>0<+01>,0/0,J365/25",
      "Africa/Casablanca Africa/El_Aaiun"),
  ("<+00>0<+02>-2,M3.5.0/1,M10.5.0/3",
      "Antarctica/Troll"),
  ("<+01>-1",
      "Etc/GMT-1"),
  ("<+02>-2",
      "Etc/GMT-2"),
  ("<+0330>-3:30",
      "Asia/Tehran Iran"),
  ("<+03>-3",
      "Antarctica/Syowa Asia/Aden Asia/Amman Asia/Baghdad Asia/Bahrain Asia/Damascus " ++
      "Asia/Istanbul Asia/Kuwait Asia/Qatar Asia/Riyadh Etc/GMT-3 Europe/Istanbul " ++
      "Europe/Minsk Turkey"),
  ("<+0430>-4:30",
      "Asia/Kabul"),
  ("<+04>-4",
      "Asia/Baku Asia/Dubai Asia/Muscat Asia/Tbilisi Asia/Yerevan Etc/GMT-4 " ++
      "Europe/Astrakhan Europe/Samara Europe/Saratov Europe/Ulyanovsk Indian/Mahe " ++
      "Indian/Mauritius Indian/Reunion"),
  ("<+0530>-5:30",
      "Asia/Colombo"),
  ("<+0545>-5:45",
      "Asia/Kathmandu Asia/Katmandu"),
  ("<+05>-5",
      "Antarctica/Mawson Antarctica/Vostok Asia/Almaty Asia/Aqtau Asia/Aqtobe " ++
      "Asia/Ashgabat Asia/Atyrau Asia/Dushanbe Asia/Oral Asia/Qostanay Asia/Qyzylorda " ++
      "Asia/Samarkand Asia/Tashkent Asia/Yekaterinburg Etc/GMT-5 Indian/Kerguelen " ++
      "Indian/Maldives"),
  ("<+0630>-6:30",
      "Asia/Yangon Indian/Cocos"),
  ("<+06>-6",
      "Asia/Bishkek Asia/Dhaka Asia/Kashgar Asia/Omsk Asia/Thimphu Asia/Urumqi Etc/GMT-6 " ++
      "Indian/Chagos"),
  ("<+07>-7",
      "Antarctica/Davis Asia/Bangkok Asia/Barnaul Asia/Ho_Chi_Minh Asia/Hovd " ++
      "Asia/Krasnoyarsk Asia/Novokuznetsk Asia/Novosibirsk Asia/Phnom_Penh Asia/Saigon " ++
      "Asia/Tomsk Asia/Vientiane Etc/GMT-7 Indian/Christmas"),
  ("<+0845>-8:45",
      "Australia/Eucla"),
  ("<+08>-8",
      "Antarctica/Casey Asia/Brunei Asia/Choibalsan Asia/Irkutsk Asia/Kuala_Lumpur " ++
      "Asia/Kuching Asia/Singapore Asia/Ulaanbaatar Etc/GMT-8 Singapore"),
  ("<+09>-9",
      "Asia/Chita Asia/Dili Asia/Khandyga Asia/Yakutsk Etc/GMT-9 Pacific/Palau"),
  ("<+1030>-10:30<+11>-11,M10.1.0,M4.1.0",
      "Australia/Lord_Howe"),
  ("<+10>-10",
      "Antarctica/DumontDUrville Asia/Ust-Nera Asia/Vladivostok Etc/GMT-10 Pacific/Chuuk " ++
      "Pacific/Port_Moresby Pacific/Yap"),
  ("<+11>-11",
      "Asia/Magadan Asia/Sakhalin Asia/Srednekolymsk Etc/GMT-11 Pacific/Bougainville " ++
      "Pacific/Efate Pacific/Guadalcanal Pacific/Kosrae Pacific/Noumea Pacific/Pohnpei"),
  ("<+11>-11<+12>,M10.1.0,M4.1.0/3",
      "Pacific/Norfolk"),
  ("<+1245>-12:45<+1345>,M9.5.0/2:45,M4.1.0/3:45",
      "Pacific/Chatham"),
  ("<+12>-12",
      "Asia/Anadyr Asia/Kamchatka Etc/GMT-12 Pacific/Fiji Pacific/Funafuti " ++
      "Pacific/Kwajalein Pacific/Majuro Pacific/Nauru Pacific/Tarawa Pacific/Wake " ++
      "Pacific/Wallis"),
  ("<+13>-13",
      "Etc/GMT-13 Pacific/Apia Pacific/Fakaofo Pacific/Kanton Pacific/Tongatapu"),
  ("<+14>-14",
      "Etc/GMT-14 Pacific/Kiritimati"),
  ("<-01>1",
      "Atlantic/Cape_Verde Etc/GMT+1"),
  ("<-01>1<+00>,M3.5.0/0,M10.5.0/1",
      "Atlantic/Azores"),
  ("<-02>2",
      "America/Noronha Atlantic/South_Georgia Etc/GMT+2"),
  ("<-02>2<-01>,M3.5.0/-1,M10.5.0/0",
      "America/Nuuk America/Scoresbysund"),
  ("<-03>3",
      "America/Araguaina America/Argentina/Buenos_Aires America/Argentina/Catamarca " ++
      "America/Argentina/Cordoba America/Argentina/Jujuy America/Argentina/La_Rioja " ++
      "America/Argentina/Mendoza America/Argentina/Rio_Gallegos America/Argentina/Salta " ++
      "America/Argentina/San_Juan America/Argentina/San_Luis America/Argentina/Tucuman " ++
      "America/Argentina/Ushuaia America/Asuncion America/Bahia America/Belem " ++
      "America/Cayenne America/Coyhaique America/Fortaleza America/Maceio " ++
      "America/Montevideo America/Paramaribo America/Punta_Arenas America/Recife " ++
      "America/Santarem America/Sao_Paulo Antarctica/Palmer Antarctica/Rothera " ++
      "Atlantic/Stanley Etc/GMT+3"),
  ("<-03>3<-02>,M3.2.0,M11.1.0",
      "America/Miquelon"),
  ("<-04>4",
      "America/Boa_Vista America/Campo_Grande America/Caracas America/Cuiaba " ++
      "America/Guyana America/La_Paz America/Manaus America/Porto_Velho Etc/GMT+4"),
  ("<-04>4<-03>,M9.1.6/24,M4.1.6/24",
      "America/Santiago"),
  ("<-05>5",
      "America/Bogota America/Eirunepe America/Guayaquil America/Lima America/Porto_Acre " ++
      "America/Rio_Branco Etc/GMT+5"),
  ("<-06>6",
      "Etc/GMT+6 Pacific/Galapagos"),
  ("<-06>6<-05>,M9.1.6/22,M4.1.6/22",
      "Pacific/Easter"),
  ("<-07>7",
      "Etc/GMT+7"),
  ("<-08>8",
      "Etc/GMT+8 Pacific/Pitcairn"),
  ("<-0930>9:30",
      "Pacific/Marquesas"),
  ("<-09>9",
      "Etc/GMT+9 Pacific/Gambier"),
  ("<-10>10",
      "Etc/GMT+10 Pacific/Rarotonga Pacific/Tahiti"),
  ("<-11>11",
      "Etc/GMT+11 Pacific/Niue"),
  ("<-12>12",
      "Etc/GMT+12"),
  ("ACST-9:30",
      "Australia/Darwin"),
  ("ACST-9:30ACDT,M10.1.0,M4.1.0/3",
      "Australia/Adelaide Australia/Broken_Hill Australia/Yancowinna"),
  ("AEST-10",
      "Australia/Brisbane Australia/Lindeman Australia/Queensland"),
  ("AEST-10AEDT,M10.1.0,M4.1.0/3",
      "Antarctica/Macquarie Australia/ACT Australia/Canberra Australia/Currie " ++
      "Australia/Hobart Australia/Melbourne Australia/NSW Australia/Sydney " ++
      "Australia/Victoria"),
  ("AKST9AKDT,M3.2.0,M11.1.0",
      "America/Anchorage America/Juneau America/Metlakatla America/Nome America/Sitka " ++
      "America/Yakutat US/Alaska"),
  ("AST4",
      "America/Anguilla America/Antigua America/Aruba America/Barbados " ++
      "America/Blanc-Sablon America/Curacao America/Dominica America/Grenada " ++
      "America/Guadeloupe America/Kralendijk America/Lower_Princes America/Marigot " ++
      "America/Martinique America/Montserrat America/Port_of_Spain America/Puerto_Rico " ++
      "America/Santo_Domingo America/St_Barthelemy America/St_Kitts America/St_Lucia " ++
      "America/St_Thomas America/St_Vincent America/Tortola America/Virgin"),
  ("AST4ADT,M3.2.0,M11.1.0",
      "America/Glace_Bay America/Goose_Bay America/Halifax America/Moncton America/Thule " ++
      "Atlantic/Bermuda"),
  ("AWST-8",
      "Australia/Perth Australia/West"),
  ("CAT-2",
      "Africa/Blantyre Africa/Bujumbura Africa/Gaborone Africa/Harare Africa/Juba " ++
      "Africa/Khartoum Africa/Kigali Africa/Lubumbashi Africa/Lusaka Africa/Maputo " ++
      "Africa/Windhoek"),
  ("CET-1",
      "Africa/Algiers Africa/Tunis"),
  ("CET-1CEST,M3.5.0,M10.5.0/3",
      "Africa/Ceuta Arctic/Longyearbyen Atlantic/Jan_Mayen CET Europe/Amsterdam " ++
      "Europe/Andorra Europe/Belgrade Europe/Berlin Europe/Bratislava Europe/Brussels " ++
      "Europe/Budapest Europe/Busingen Europe/Copenhagen Europe/Gibraltar " ++
      "Europe/Ljubljana Europe/Luxembourg Europe/Madrid Europe/Malta Europe/Monaco " ++
      "Europe/Oslo Europe/Paris Europe/Podgorica Europe/Prague Europe/Rome " ++
      "Europe/San_Marino Europe/Sarajevo Europe/Skopje Europe/Stockholm Europe/Tirane " ++
      "Europe/Vaduz Europe/Vatican Europe/Vienna Europe/Warsaw Europe/Zagreb " ++
      "Europe/Zurich Poland"),
  ("CST-8",
      "Asia/Chongqing Asia/Harbin Asia/Macau Asia/Shanghai Asia/Taipei PRC"),
  ("CST5CDT,M3.2.0/0,M11.1.0/1",
      "America/Havana"),
  ("CST6",
      "America/Bahia_Banderas America/Belize America/Chihuahua America/Costa_Rica " ++
      "America/El_Salvador America/Guatemala America/Managua America/Merida " ++
      "America/Mexico_City America/Monterrey America/Regina America/Swift_Current " ++
      "America/Tegucigalpa Mexico/General"),
  ("CST6CDT,M3.2.0,M11.1.0",
      "America/Chicago America/Indiana/Knox America/Indiana/Tell_City America/Matamoros " ++
      "America/Menominee America/North_Dakota/Beulah America/North_Dakota/Center " ++
      "America/North_Dakota/New_Salem America/Ojinaga America/Rainy_River " ++
      "America/Rankin_Inlet America/Resolute America/Winnipeg CST6CDT US/Central"),
  ("ChST-10",
      "Pacific/Guam Pacific/Saipan"),
  ("EAT-3",
      "Africa/Addis_Ababa Africa/Asmara Africa/Dar_es_Salaam Africa/Djibouti " ++
      "Africa/Kampala Africa/Mogadishu Africa/Nairobi Indian/Antananarivo Indian/Comoro " ++
      "Indian/Mayotte"),
  ("EET-2",
      "Africa/Tripoli Europe/Kaliningrad"),
  ("EET-2EEST,M3.4.4/50,M10.4.4/50",
      "Asia/Gaza Asia/Hebron"),
  ("EET-2EEST,M3.5.0/0,M10.5.0/0",
      "Asia/Beirut"),
  ("EET-2EEST,M3.5.0/3,M10.5.0/4",
      "Asia/Famagusta Asia/Nicosia EET Europe/Athens Europe/Bucharest Europe/Chisinau " ++
      "Europe/Helsinki Europe/Kyiv Europe/Mariehamn Europe/Nicosia Europe/Riga " ++
      "Europe/Sofia Europe/Tallinn Europe/Tiraspol Europe/Vilnius"),
  ("EET-2EEST,M4.5.5/0,M10.5.4/24",
      "Africa/Cairo Egypt"),
  ("EST5",
      "America/Atikokan America/Cancun America/Cayman America/Coral_Harbour " ++
      "America/Jamaica America/Panama EST Jamaica"),
  ("EST5EDT,M3.2.0,M11.1.0",
      "America/Detroit America/Grand_Turk America/Indiana/Indianapolis " ++
      "America/Indiana/Marengo America/Indiana/Petersburg America/Indiana/Vevay " ++
      "America/Indiana/Vincennes America/Indiana/Winamac America/Iqaluit " ++
      "America/Kentucky/Louisville America/Kentucky/Monticello America/Montreal " ++
      "America/Nassau America/New_York America/Nipigon America/Pangnirtung " ++
      "America/Port-au-Prince America/Thunder_Bay America/Toronto EST5EDT US/Eastern " ++
      "US/Michigan"),
  ("GMT0",
      "Africa/Abidjan Africa/Accra Africa/Bamako Africa/Banjul Africa/Bissau " ++
      "Africa/Conakry Africa/Dakar Africa/Freetown Africa/Lome Africa/Monrovia " ++
      "Africa/Nouakchott Africa/Ouagadougou Africa/Sao_Tome Africa/Timbuktu " ++
      "America/Danmarkshavn Atlantic/Reykjavik Atlantic/St_Helena Etc/GMT Etc/GMT+0 " ++
      "Etc/GMT-0 Etc/GMT0 Etc/Greenwich GMT GMT+0 GMT-0 GMT0 Greenwich Iceland"),
  ("GMT0BST,M3.5.0/1,M10.5.0",
      "Europe/Belfast Europe/Guernsey Europe/Isle_of_Man Europe/Jersey Europe/London GB " ++
      "GB-Eire"),
  ("GMT0IST,M3.5.0/1,M10.5.0",
      "Eire Europe/Dublin"),
  ("HKT-8",
      "Asia/Hong_Kong Hongkong"),
  ("HST10",
      "HST Pacific/Honolulu Pacific/Johnston US/Hawaii"),
  ("HST10HDT,M3.2.0,M11.1.0",
      "America/Adak America/Atka"),
  ("IST-2IDT,M3.4.4/26,M10.5.0",
      "Asia/Jerusalem Asia/Tel_Aviv Israel"),
  ("IST-5:30",
      "Asia/Calcutta Asia/Kolkata"),
  ("JST-9",
      "Asia/Tokyo Japan"),
  ("KST-9",
      "Asia/Pyongyang Asia/Seoul ROK"),
  ("MET-1MEST,M3.5.0,M10.5.0/3",
      "MET"),
  ("MSK-3",
      "Europe/Kirov Europe/Moscow Europe/Simferopol Europe/Volgograd W-SU"),
  ("MST7",
      "America/Creston America/Dawson America/Dawson_Creek America/Fort_Nelson " ++
      "America/Hermosillo America/Mazatlan America/Phoenix America/Whitehorse MST " ++
      "US/Arizona"),
  ("MST7MDT,M3.2.0,M11.1.0",
      "America/Boise America/Cambridge_Bay America/Ciudad_Juarez America/Denver " ++
      "America/Edmonton America/Inuvik America/Shiprock America/Yellowknife MST7MDT " ++
      "Navajo US/Mountain"),
  ("NST3:30NDT,M3.2.0,M11.1.0",
      "America/St_Johns"),
  ("NZST-12NZDT,M9.5.0,M4.1.0/3",
      "Antarctica/McMurdo NZ Pacific/Auckland"),
  ("PKT-5",
      "Asia/Karachi"),
  ("PST-8",
      "Asia/Manila"),
  ("PST8PDT,M3.2.0,M11.1.0",
      "America/Ensenada America/Los_Angeles America/Santa_Isabel America/Tijuana " ++
      "America/Vancouver PST8PDT US/Pacific"),
  ("SAST-2",
      "Africa/Johannesburg Africa/Maseru Africa/Mbabane"),
  ("SST11",
      "Pacific/Midway Pacific/Pago_Pago Pacific/Samoa"),
  ("UTC0",
      "Etc/UCT Etc/UTC Etc/Universal Etc/Zulu UCT UTC Universal Zulu"),
  ("WAT-1",
      "Africa/Bangui Africa/Brazzaville Africa/Douala Africa/Kinshasa Africa/Lagos " ++
      "Africa/Libreville Africa/Luanda Africa/Malabo Africa/Ndjamena Africa/Niamey " ++
      "Africa/Porto-Novo"),
  ("WET0WEST,M3.5.0/1,M10.5.0",
      "Atlantic/Canary Atlantic/Faroe Atlantic/Madeira Europe/Lisbon Portugal WET"),
  ("WIB-7",
      "Asia/Jakarta Asia/Pontianak"),
  ("WIT-9",
      "Asia/Jayapura"),
  ("WITA-8",
      "Asia/Makassar")]

namespace Zone

/-- the zone of a region -/
def named? (name : OctetText) : Option Zone :=
  (regions.find? fun r => (r.2.splitOn " ").contains name).map fun r => read r.1

/-- the zone of a setting, which may begin with a colon; nothing set means universal time -/
def ofText (setting : Option OctetText) : Zone :=
  match setting with
  | none => universal
  | some text =>
    let text := match text.toList with
      | ':' :: cs => String.ofList cs
      | _ => text
    if text.isEmpty then universal else (named? text).getD (read text)

end Zone

end ShellWorkers.Clock
