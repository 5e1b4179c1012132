import ShellWorkers.Clock.Reading
import ShellWorkers.Clock.Writing
import ShellWorkers.Utility.Amounts

/-!
# Times that utilities show

Times are those of the zone that the environment says.  `date` shows the present or another time.

* `localZone`           the zone;
* `stampInstant?`       the instant of digits for a date and a time of day.
-/

namespace ShellWorkers.Utility

open Machine
open Text (OctetText)
open ShellWorkers.Clock (Zone Civil nanosPerSecond)

/-- the zone that variables say -/
def zoneOf (vars : Variables) : Zone := .ofText (vars.lookup "TZ")

def localZone : Work Zone := do return zoneOf (← get).vars

/-- an instant as a format says -/
def formatTime (z : Zone) (instant : Int) (format : OctetText) : OctetText :=
  Clock.write .rich z instant format

/-- the instant of digits for month, day, hour and minute, and seconds behind a point; a year of
two or four digits stands before or behind them -/
def stampInstant? (z : Zone) (now : Int) (yearIsLast : Bool) (text : OctetText) : Option Int :=
  let cs := text.toList
  let ds := cs.takeWhile Char.isDigit
  let pairs (ds : List Char) (i : Nat) : Int := digitsValue ((ds.drop (2 * i)).take 2)
  let (year, ds') : List Char × List Char :=
    if yearIsLast then (ds.drop 8, ds.take 8) else (ds.take (ds.length - 8), ds.drop (ds.length - 8))
  let year? : Option Int :=
    let n : Int := digitsValue year
    match year.length with
    | 0 => some (z.civil now).year
    | 2 => some (if n < 69 then 2000 + n else 1900 + n)
    | 4 => some n
    | _ => none
  let second? : Option Int :=
    match cs.drop ds.length with
    | [] => some 0
    | ['.', a, b] => if a.isDigit && b.isDigit then some (digitsValue [a, b]) else none
    | _ => none
  match year?, second? with
  | some year, some second =>
    if ds.length < 8 || 60 < second then none
    else
      -- a leap second follows the second before it
      let c : Civil := ⟨year, pairs ds' 0, pairs ds' 1, pairs ds' 2, pairs ds' 3,
        if second = 60 then 59 else second, 0⟩
      (z.seconds? none c).bind fun seconds =>
        if (z.civil (seconds * nanosPerSecond)).agrees c then
          some ((if second = 60 then seconds + 1 else seconds) * nanosPerSecond)
        else none
  | _, _ => none

/-! ## date -/

namespace Dates

def options : OptionTable where
  letters := "d:f:I::r:Rs:u"
  names := [("date", .value, "d"), ("debug", .nothing, "debug"), ("file", .value, "f"),
    ("iso-8601", .maybe, "I"), ("reference", .value, "r"), ("resolution", .nothing, "resolution"),
    ("rfc-822", .nothing, "R"), ("rfc-2822", .nothing, "R"), ("rfc-email", .nothing, "R"),
    ("rfc-3339", .value, "rfc"), ("set", .value, "s"), ("uct", .nothing, "u"),
    ("utc", .nothing, "u"), ("universal", .nothing, "u")]
  strict := false

/-- the format of a date in the international way -/
def isoFormat (what : OctetText) : OctetText :=
  match what with
  | "hours" => "%Y-%m-%dT%H%:z"
  | "minutes" => "%Y-%m-%dT%H:%M%:z"
  | "seconds" => "%Y-%m-%dT%H:%M:%S%:z"
  | "ns" => "%Y-%m-%dT%H:%M:%S,%N%:z"
  | _ => "%Y-%m-%d"

/-- the same with a blank between the date and the time of day -/
def spacedFormat (what : OctetText) : OctetText :=
  match what with
  | "ns" => "%Y-%m-%d %H:%M:%S.%N%:z"
  | "seconds" => "%Y-%m-%d %H:%M:%S%:z"
  | _ => "%Y-%m-%d"

def mailFormat : OctetText := "%a, %d %b %Y %H:%M:%S %z"

def usualFormat : OctetText := "%a %b %e %H:%M:%S %Z %Y"

def severalFormats {α : Type} : Work α := fail "multiple output formats specified"

/-- the format that options ask for, if they do -/
def formatOf (a : Arguments) : Work (Option OctetText) := do
  let given ← a.options.filterMapM fun (option, value?) => do
    match option, value? with
    | "I", none => pure (some (isoFormat "date"))
    | "I", some word => do
      let word ← chooseWord "--iso-8601" [["hours"], ["minutes"], ["date"], ["seconds"], ["ns"]] word
      pure (some (isoFormat word))
    | "rfc", some word => do
      let word ← chooseWord "--rfc-3339" [["date"], ["seconds"], ["ns"]] word
      pure (some (spacedFormat word))
    | "R", _ => pure (some mailFormat)
    | _, _ => pure none
  match given with
  | [] => pure none
  | [format] => pure (some format)
  | _ => severalFormats

/-- the greatest year that can be shown -/
def greatestYear : Int := 2147485547

/-- shows an instant -/
def present (z : Zone) (format : OctetText) (instant : Int) : Work Unit := do
  let year := (z.civil instant).year
  if year < 1900 - greatestYear || greatestYear < year then
    fail ("time " ++ quoted (toString (Int.fdiv instant nanosPerSecond)) ++ " is out of range")
  putLine (formatTime z instant format)

/-- shows each time of a file -/
def presentLines (z : Zone) (now : Int) (format : OctetText) (path : OctetText) : Work Unit := do
  match ← readOperand path with
  | .error e => fail (named path ++ ": " ++ faultText e)
  | .ok text => do
    let lines := text.splitOn "\n"
    let lines := if lines.getLast? == some "" then lines.dropLast else lines
    for line in lines do
      match Clock.read? z now line with
      | some instant => present z format instant
      | none => warn ("invalid date " ++ quoted line)

/-- nobody may set the clock; the time is shown all the same -/
def setClock (z : Zone) (format : OctetText) (instant : Int) : Work Unit := do
  warn ("cannot set date: " ++ faultText .notPermitted)
  present z format instant

/-- the operand: a format behind a plus sign, or a time to set; nothing may stand behind it -/
def operandOf (a : Arguments) (format : Option OctetText) (isGiven : Bool) :
    Work (Option OctetText × Option OctetText) := do
  match a.operands with
  | _ :: extra :: _ => extraOperand extra
  | [] => pure (format, none)
  | [operand] =>
    match operand.toList with
    | '+' :: cs => do
      if format.isSome then severalFormats
      pure (some (String.ofList cs), none)
    | _ => do
      if isGiven then
        misused 1 ("the argument " ++ quoted operand ++ " lacks a leading '+';\n"
          ++ "when using an option to specify date(s), any non-option\n"
          ++ "argument must be a format string beginning with '+'")
      pure (format, some operand)

def run (args : List OctetText) : Work Unit := do
  let a ← readArguments options 1 args
  let given ← formatOf a
  let sources := ["d", "f", "r", "resolution"].filter a.has
  if 1 < sources.length then
    misused 1 "the options to specify dates for printing are mutually exclusive"
  if a.has "s" && !sources.isEmpty then
    misused 1 "the options to print and set the time may not be used together"
  let (format, stamp) ← operandOf a given (!sources.isEmpty || a.has "s")
  let format := format.getD (if a.has "resolution" then "%s.%N" else usualFormat)
  let z ← if a.has "u" then pure Zone.universal else localZone
  let now ← ask .now
  let told (text : OctetText) : Work Int := do
    match Clock.read? z now text with
    | some instant => pure instant
    | none => fail ("invalid date " ++ quoted text)
  match a.value? "f", a.value? "d", a.value? "r", a.value? "s", stamp with
  | some path, _, _, _, _ => presentLines z now format path
  | none, some text, _, _, _ => do present z format (← told text)
  | none, none, some path, _, _ => do
    match ← ask (.status path true) with
    | .ok s => present z format s.modified
    | .error e => fail (named path ++ ": " ++ faultText e)
  | none, none, none, some text, _ => do setClock z format (← told text)
  | none, none, none, none, some operand => do
    match stampInstant? z now true operand with
    | some instant => setClock z format instant
    | none => fail ("invalid date " ++ quoted operand)
  | none, none, none, none, none =>
    if a.has "resolution" then present .universal format 1 else present z format now

end Dates

end ShellWorkers.Utility
