import ShellWorkers.Decimal
import ShellWorkers.Digest
import ShellWorkers.Utility.Ends

/-!
# Sorting lines

Lines are put in order, and those that repeat are told apart.
-/

/-!
## Sorting lines

Lines are compared by keys: parts of them between fields, each with its own way to be compared.
Lines whose keys do not differ are compared as a whole, by their octets.

* `Key.part`     the part of a line that a key names;
* `KeyedLine`        a line with these parts;
* `LineOrder.lines`  how lines are compared.
-/

namespace ShellWorkers.Utility

open Machine
open Text (OctetText)
open ShellWorkers.Decimal

/-! ### comparing texts -/

/-- texts in the order of their octets, a shorter one before one it begins -/
def compareOctets : List Char → List Char → Ordering
  | [], [] => .eq
  | [], _ :: _ => .lt
  | _ :: _, [] => .gt
  | a :: as, b :: bs =>
    if a.toNat < b.toNat then .lt
    else if b.toNat < a.toNat then .gt
    else compareOctets as bs

def isBlank (c : Char) : Bool := c == ' ' || c == '\t' || c == '\n'

def isLetterOrDigit (c : Char) : Bool := c.isAlphanum

/-- a number with a sign: its digits before the point and behind it -/
structure DecimalText where
  negative : Bool
  whole : List Char
  fraction : List Char

/-- the number that a text starts with -/
def DecimalText.read (cs : List Char) : DecimalText × List Char :=
  let cs := cs.dropWhile isBlank
  let (negative, cs) := match cs with
    | '-' :: cs => (true, cs)
    | cs => (false, cs)
  let whole := cs.takeWhile Char.isDigit
  match cs.drop whole.length with
  | '.' :: rest =>
    let fraction := rest.takeWhile Char.isDigit
    (⟨negative, whole.dropWhile (· == '0'), fraction⟩, rest.drop fraction.length)
  | rest => (⟨negative, whole.dropWhile (· == '0'), []⟩, rest)

namespace DecimalText

/-- a fraction without the zeros at its end -/
def trimmed (d : DecimalText) : List Char := (d.fraction.reverse.dropWhile (· == '0')).reverse

def isZero (d : DecimalText) : Bool := d.whole.isEmpty && d.trimmed.isEmpty

/-- the order of two numbers without their signs -/
def compareSizes (a b : DecimalText) : Ordering :=
  if a.whole.length < b.whole.length then .lt
  else if b.whole.length < a.whole.length then .gt
  else
    match compareOctets a.whole b.whole with
    | .eq => compareOctets a.trimmed b.trimmed
    | o => o

def compare (a b : DecimalText) : Ordering :=
  match a.isZero, b.isZero with
  | true, true => .eq
  | true, false => if b.negative then .gt else .lt
  | false, true => if a.negative then .lt else .gt
  | false, false =>
    match a.negative, b.negative with
    | true, false => .lt
    | false, true => .gt
    | false, false => compareSizes a b
    | true, true => compareSizes b a

end DecimalText

/-- the order of the units behind numbers that people read -/
def unitRank (cs : List Char) : Nat :=
  match cs.head? with
  | some 'k' => 1
  | some 'K' => 1
  | some 'M' => 2
  | some 'G' => 3
  | some 'T' => 4
  | some 'P' => 5
  | some 'E' => 6
  | some 'Z' => 7
  | some 'Y' => 8
  | _ => 0

/-- numbers with units: by sign, by unit, and then by size -/
def compareHuman (a b : List Char) : Ordering :=
  let (x, unitX) := DecimalText.read a
  let (y, unitY) := DecimalText.read b
  let rank (d : DecimalText) (unit : List Char) : Int :=
    if d.isZero then 0 else if d.negative then -(unitRank unit : Int) else unitRank unit
  let sign (d : DecimalText) : Int := if d.isZero then 0 else if d.negative then -1 else 1
  if sign x < sign y then .lt
  else if sign y < sign x then .gt
  else if rank x unitX < rank y unitY then .lt
  else if rank y unitY < rank x unitX then .gt
  else DecimalText.compare x y

/-- the number of a month by the first letters of its name -/
def monthOf (cs : List Char) : Nat :=
  let name := String.ofList (((cs.dropWhile isBlank).take 3).map Char.toUpper)
  let names := ["JAN", "FEB", "MAR", "APR", "MAY", "JUN", "JUL", "AUG", "SEP", "OCT", "NOV", "DEC"]
  ((List.range 12).find? fun n => names[n]? == some name).elim 0 (· + 1)

def compareNat (a b : Nat) : Ordering := if a < b then .lt else if b < a then .gt else .eq

/-- a whole number of a unit below all numbers of interest, for a number with a point -/
def scaled (m : Nat) (e : Int) : Int := (m : Int) * (Nat.pow 2 (e + 17000).toNat : Nat)

/-- the order of numbers with points; what is no number comes first -/
def compareFloating (a b : List Char) : Ordering :=
  let value (cs : List Char) : Nat × Int :=
    match Floating.read? cs with
    | none => (0, 0)
    | some r =>
      let (x, _) := Floating.ofReading .extended r
      match x.magnitude with
      | .notNumber => (1, 0)
      | .infinite => if x.negative then (2, 0) else (4, 0)
      | .finite m e => (3, if x.negative then -(scaled m e) else scaled m e)
  let (kindA, x) := value a
  let (kindB, y) := value b
  match compareNat kindA kindB with
  | .eq => if x < y then .lt else if y < x then .gt else .eq
  | o => o

/-! ### versions -/

/-- the place of a character in the order of versions: the end and tildes come first, letters
before other characters -/
def versionRank : Option Char → Int
  | none => -1
  | some c =>
    if c = '~' then -2
    else if c.isDigit then 0
    else if c.isAlpha then c.toNat
    else c.toNat + 256

/-- versions by their parts: texts and numbers alternate -/
def compareParts : (fuel : Nat) → List Char → List Char → Ordering
  | 0, _, _ => .eq
  | fuel + 1, a, b =>
    if a.isEmpty && b.isEmpty then .eq
    else
      let textA := a.takeWhile (!·.isDigit)
      let textB := b.takeWhile (!·.isDigit)
      match compareTexts (textA.length + textB.length + 1) a b with
      | .eq =>
        let restA := (a.drop textA.length)
        let restB := (b.drop textB.length)
        let numberA := (restA.takeWhile Char.isDigit)
        let numberB := (restB.takeWhile Char.isDigit)
        match compareNat (digitsValue numberA) (digitsValue numberB) with
        | .eq => compareParts fuel (restA.drop numberA.length) (restB.drop numberB.length)
        | o => o
      | o => o
where
  compareTexts : (fuel : Nat) → List Char → List Char → Ordering
    | 0, _, _ => .eq
    | fuel + 1, a, b =>
      let isPart (cs : List Char) : Bool := (cs.head?.map (!·.isDigit)).getD false
      if !isPart a && !isPart b then .eq
      else
        let rankA := if isPart a then versionRank a.head? else if a.isEmpty then -1 else 0
        let rankB := if isPart b then versionRank b.head? else if b.isEmpty then -1 else 0
        if rankA < rankB then .lt
        else if rankB < rankA then .gt
        else compareTexts fuel (a.drop 1) (b.drop 1)

/-- the length of the endings of a name like `.tar.gz` -/
def endingsLength (cs : List Char) : Nat :=
  let rec go : (fuel : Nat) → List Char → Nat
    | 0, _ => 0
    | fuel + 1, reversed =>
      let part := reversed.takeWhile fun c => c.isAlphanum || c == '~'
      match reversed.drop part.length, part.getLast? with
      | '.' :: before, some first =>
        if (first.isAlpha || first == '~') && !before.isEmpty then
          part.length + 1 + go fuel before
        else 0
      | _, _ => 0
  go cs.length cs.reverse

/-- names in the order of their versions -/
def compareVersions (a b : List Char) : Ordering :=
  let special (cs : List Char) : Nat :=
    if cs.isEmpty then 0 else if cs == ['.'] then 1 else if cs == ['.', '.'] then 2
    else if cs.head? == some '.' then 3 else 4
  match compareNat (special a) (special b) with
  | .eq =>
    let a := if special a = 3 then a.drop 1 else a
    let b := if special b = 3 then b.drop 1 else b
    let bareA := a.take (a.length - endingsLength a)
    let bareB := b.take (b.length - endingsLength b)
    match compareParts (a.length + b.length + 1) bareA bareB with
    | .eq => compareParts (a.length + b.length + 1) a b
    | o => o
  | o => o

/-! ### keys -/

/-- how texts are compared -/
inductive Manner where
  | octets
  | numeric
  | general
  | human
  | month
  | version
  /-- in no particular order, but for equal ones -/
  | random
  deriving DecidableEq, Repr

/-- the way of a key, or of all lines -/
structure KeyStyle where
  /-- the manners that were asked for -/
  asked : List Manner
  /-- only blanks, letters and digits count -/
  dictionary : Bool
  /-- only what is printable counts -/
  printable : Bool
  /-- small letters count as capital ones -/
  folds : Bool
  skipsAtStart : Bool
  skipsAtEnd : Bool
  reversed : Bool

namespace KeyStyle

def plain : KeyStyle := ⟨[], false, false, false, false, false, false⟩

/-- the manner that counts -/
def manner (s : KeyStyle) : Manner :=
  ([Manner.numeric, .general, .human, .month, .random, .version].find? s.asked.contains).getD .octets

/-- whether numbers are compared -/
def isNumeric (s : KeyStyle) : Bool :=
  [Manner.numeric, .general, .human].any s.asked.contains

/-- whether only some characters count -/
def isPartial (s : KeyStyle) : Bool := s.dictionary || s.printable

/-- whether there is no more than one way to compare -/
def isConsistent (s : KeyStyle) : Bool :=
  let ways := [Manner.numeric, .general, .human, .month].filter s.asked.contains
  let others := s.isPartial || s.asked.contains .version || s.asked.contains .random
  ways.length + (if others then 1 else 0) ≤ 1

/-- the letters that ask for a style -/
def letters (s : KeyStyle) : OctetText :=
  let given (m : Manner) (letter : Char) : List Char := if s.asked.contains m then [letter] else []
  let held (holds : Bool) (letter : Char) : List Char := if holds then [letter] else []
  String.ofList (held (s.skipsAtStart || s.skipsAtEnd) 'b' ++ held s.dictionary 'd'
    ++ held s.folds 'f' ++ given .general 'g' ++ given .human 'h'
    ++ held (s.printable && !s.dictionary) 'i' ++ given .month 'M' ++ given .numeric 'n'
    ++ given .random 'R' ++ held s.reversed 'r' ++ given .version 'V')

/-- whether a style is that of whole lines, but for its direction -/
def isPlain (s : KeyStyle) : Bool :=
  s.asked.isEmpty && !s.dictionary && !s.printable && !s.folds && !s.skipsAtStart
    && !s.skipsAtEnd

/-- a style with what a letter asks for -/
def withLetter? (s : KeyStyle) (start finish : Bool) (letter : Char) : Option KeyStyle :=
  match letter with
  | 'b' => some { s with
      skipsAtStart := s.skipsAtStart || start, skipsAtEnd := s.skipsAtEnd || finish }
  | 'd' => some { s with dictionary := true, printable := false }
  | 'f' => some { s with folds := true }
  | 'g' => some { s with asked := .general :: s.asked }
  | 'h' => some { s with asked := .human :: s.asked }
  -- the blanks, letters and digits that count already are printable
  | 'i' => some { s with printable := !s.dictionary }
  | 'M' => some { s with asked := .month :: s.asked }
  | 'n' => some { s with asked := .numeric :: s.asked }
  | 'r' => some { s with reversed := true }
  | 'R' => some { s with asked := .random :: s.asked }
  | 'V' => some { s with asked := .version :: s.asked }
  | _ => none

/-- a style with what the letters at the beginning of a text ask for, and the rest -/
def withLetters (start finish : Bool) : KeyStyle → List Char → KeyStyle × List Char
  | s, [] => (s, [])
  | s, c :: cs =>
    match s.withLetter? start finish c with
    | some s => withLetters start finish s cs
    | none => (s, c :: cs)

/-- the characters of a text that count -/
def relevant (s : KeyStyle) (cs : List Char) : List Char :=
  let cs := if s.dictionary then cs.filter fun c => isBlank c || c.isAlphanum
    else if s.printable then cs.filter fun c => 32 ≤ c.toNat && c.toNat ≤ 126
    else cs
  if s.folds then cs.map Char.toUpper else cs

/-- what is compared of a text.  Texts that are to stand in no particular order are compared by
their digests behind a salt -/
def prepared (s : KeyStyle) (salt cs : List Char) : List Char :=
  match s.manner with
  | .octets => s.relevant cs
  | .version => s.relevant cs
  | .random =>
    let cs := s.relevant cs
    (Digest.md5 ((salt ++ cs).map Char.toNat)).map Char.ofNat ++ cs
  | _ => cs

/-- the order of two texts that have been prepared -/
def compare (s : KeyStyle) (a b : List Char) : Ordering :=
  let o := match s.manner with
    | .octets => compareOctets a b
    | .numeric => DecimalText.compare (DecimalText.read a).1 (DecimalText.read b).1
    | .general => compareFloating a b
    | .human => compareHuman a b
    | .month => compareNat (monthOf a) (monthOf b)
    | .version => compareVersions a b
    | .random => compareOctets a b
  if s.reversed then o.swap else o

end KeyStyle

/-- a part of lines: from a character of a field to one of another -/
structure Key where
  /-- how many fields are before it, and how many characters of its first field -/
  firstField : Nat
  firstChar : Nat
  /-- the last field, if there is one, and how many of its characters belong to it; none of them
  says all -/
  last : Option (Nat × Nat)
  style : KeyStyle
  /-- no field is named: the key stands for the line -/
  isWhole : Bool
  /-- it is spelled in the old way -/
  isOld : Bool

namespace Key

/-- a line without its first fields -/
def dropFields (tab : Option Char) : (count : Nat) → List Char → List Char
  | 0, cs => cs
  | _ + 1, [] => []
  | count + 1, cs =>
    match tab with
    | some t => dropFields tab count ((cs.dropWhile (· != t)).drop 1)
    | none => dropFields tab count ((cs.dropWhile isBlank).dropWhile (!isBlank ·))

/-- how much of a line there is up to the end of its `count`th field; `inside` says that the
field behind is asked for, so that the tab before it belongs to the count -/
def fieldsEnd (tab : Option Char) (inside : Bool) : (count : Nat) → List Char → Nat
  | 0, _ => 0
  | _ + 1, [] => 0
  | count + 1, cs =>
    match tab with
    | some t =>
      let field := (cs.takeWhile (· != t)).length
      let more := field < cs.length && (0 < count || inside)
      let size := if more then field + 1 else field
      size + fieldsEnd tab inside count (cs.drop size)
    | none =>
      let blanks := (cs.takeWhile isBlank).length
      let size := blanks + ((cs.drop blanks).takeWhile (!isBlank ·)).length
      size + fieldsEnd tab inside count (cs.drop size)

/-- how much of a line there is up to the end of the key -/
def endOf (k : Key) (tab : Option Char) (line : List Char) : Nat :=
  match k.last with
  | none => line.length
  | some (field, 0) => fieldsEnd tab false (field + 1) line
  | some (field, chars) =>
    let size := fieldsEnd tab true field line
    let rest := line.drop size
    let blanks := if k.style.skipsAtEnd then (rest.takeWhile isBlank).length else 0
    if size + blanks + chars < line.length then size + blanks + chars else line.length

/-- the part of a line that a key names -/
def part (k : Key) (tab : Option Char) (line : List Char) : List Char :=
  let rest := dropFields tab k.firstField line
  let rest := if k.style.skipsAtStart then rest.dropWhile isBlank else rest
  let rest := rest.drop k.firstChar
  rest.take (k.endOf tab line - (line.length - rest.length))

end Key

/-! ### orders of lines -/

structure LineOrder where
  keys : List Key
  tab : Option Char
  /-- lines whose keys do not differ are left as they are -/
  stable : Bool
  unique : Bool
  reversed : Bool
  /-- what stands before texts whose digests are compared -/
  salt : List Char

/-- a line with its parts that the keys name -/
structure KeyedLine where
  line : List Char
  parts : List (List Char)

namespace LineOrder

def keyed (o : LineOrder) (line : List Char) : KeyedLine :=
  ⟨line, o.keys.map fun k => k.style.prepared o.salt (k.part o.tab line)⟩

/-- the order of the parts of two lines -/
def byKeys : List Key → (a b : List (List Char)) → Ordering
  | k :: ks, a :: as, b :: bs =>
    match k.style.compare a b with
    | .eq => byKeys ks as bs
    | order => order
  | _, _, _ => .eq

def lines (o : LineOrder) (a b : KeyedLine) : Ordering :=
  let order := byKeys o.keys a.parts b.parts
  if order != .eq || (!o.keys.isEmpty && (o.unique || o.stable)) then order
  else
    let order := compareOctets a.line b.line
    if o.reversed then order.swap else order

/-- whether two lines may stand in this order -/
def allows (o : LineOrder) (a b : KeyedLine) : Bool := o.lines a b != .gt

/-- lines without those that are equal to the one before -/
def dropEqual (o : LineOrder) : List KeyedLine → List KeyedLine
  | a :: b :: rest =>
    if o.lines a b == .eq then o.dropEqual (a :: rest) else a :: o.dropEqual (b :: rest)
  | lines => lines
termination_by lines => lines.length

def sort (o : LineOrder) (lines : List (List Char)) : List (List Char) :=
  let sorted := (lines.map o.keyed).mergeSort o.allows
  (if o.unique then o.dropEqual sorted else sorted).map (·.line)

/-- lists of lines that are in order as one -/
def merge (o : LineOrder) (lists : List (List (List Char))) : List (List Char) :=
  let merged := lists.foldl (fun merged list => merged.merge (list.map o.keyed) o.allows) []
  (if o.unique then o.dropEqual merged else merged).map (·.line)

/-- the first line that may not stand behind the one before it, with its number -/
def firstDisorder (o : LineOrder) : (number : Nat) → List KeyedLine → Option (Nat × List Char)
  | number, a :: b :: rest =>
    let order := o.lines a b
    if order == .gt || (o.unique && order == .eq) then some (number + 1, b.line)
    else o.firstDisorder (number + 1) (b :: rest)
  | _, _ => none

end LineOrder

/-- the lines of a text without what ends them -/
def recordsOf (delimiter : Char) (text : OctetText) : List (List Char) :=
  let parts := text.splitOn (String.ofList [delimiter])
  let parts := if (parts.getLast?.map String.isEmpty).getD true then parts.dropLast else parts
  parts.map String.toList

end ShellWorkers.Utility

/-!
## Lines that repeat

`uniq` looks at lines beside each other.
-/

namespace ShellWorkers.Utility

open Machine
open Text (OctetText)

/-! ### groups -/

/-- a line without fields and characters at its beginning, cut to a length -/
def comparedPart (fields chars : Nat) (width : Option Nat) (folds : Bool) (line : List Char) :
    List Char :=
  let rest := (Key.dropFields none fields line).drop chars
  let rest := match width with
    | some n => rest.take n
    | none => rest
  if folds then rest.map Char.toUpper else rest

/-- a number that is at most the greatest there is -/
def countArgument (what text : OctetText) : Work Nat := do
  match amount? "" text with
  | .ok n => pure n
  | .error .tooLarge => pure naturalLimit
  | .error .invalid => fail (named text ++ ": " ++ what)

def uniqOptions : OptionTable where
  letters := "0123456789Dcdf:is:uw:z"
  names := [("count", .nothing, "c"), ("repeated", .nothing, "d"), ("all-repeated", .maybe, "D"),
    ("group", .maybe, "group"), ("ignore-case", .nothing, "i"), ("unique", .nothing, "u"),
    ("skip-fields", .value, "f"), ("skip-chars", .value, "s"), ("check-chars", .value, "w"),
    ("zero-terminated", .nothing, "z")]
  strict := false

/-- a count with blanks before it -/
def countText (n : Nat) : List Char :=
  let ds := (toString n).toList
  List.replicate (7 - ds.length) ' ' ++ ds ++ [' ']

/-- the lines that are written of a group, if it is wanted -/
def shownGroup? (a : Arguments) (group : List (List Char)) : Option (List (List Char)) :=
  let all := a.has "D"
  let repeated := 1 < group.length
  if (a.has "d" || all) && !repeated then none
  else if a.has "u" && repeated then none
  else if all || a.has "group" then some group
  else some ((group.take 1).map fun line =>
    if a.has "c" then countText group.length ++ line else line)

/-- lines that repeat and have not been written, last first, and whether groups were written before
them -/
structure Repetition where
  group : List (List Char)
  begun : Bool

/-- how lines are grouped and written -/
structure Grouping where
  arguments : Arguments
  /-- what is compared of a line -/
  part : List Char → List Char
  /-- where empty lines stand: before, between or behind groups -/
  method : OctetText
  write : List Char → Work Unit

namespace Grouping

/-- writes a group that has ended -/
def finish (k : Grouping) (r : Repetition) : Work Repetition := do
  match if r.group.isEmpty then none else shownGroup? k.arguments r.group.reverse with
  | none => pure { r with group := [] }
  | some lines => do
    if k.method = "prepend" || k.method = "both" || (k.method = "separate" && r.begun) then
      k.write []
    lines.forM k.write
    if k.method = "append" then k.write []
    pure ⟨[], true⟩

/-- adds a line to the group before it or to a group of its own -/
def step (k : Grouping) (r : Repetition) (line : List Char) : Work Repetition := do
  if r.group.head?.any fun last => k.part last == k.part line then
    pure { r with group := line :: r.group }
  else do
    let r ← k.finish r
    pure { r with group := [line] }

end Grouping

/-- how groups are set apart -/
def groupMethod (a : Arguments) : Work OctetText := do
  match (a.options.find? fun o => o.1 == "D" || o.1 == "group") with
  | some ("D", method) =>
    let method := method.getD "none"
    if ["none", "prepend", "separate"].contains method then pure method
    else
      misused 1 ("invalid argument " ++ quoted method ++ " for '--all-repeated'\n"
        ++ "Valid arguments are:\n  - 'none'\n  - 'prepend'\n  - 'separate'")
  | some (_, method) =>
    let method := method.getD "separate"
    if ["prepend", "append", "separate", "both"].contains method then pure method
    else
      misused 1 ("invalid argument " ++ quoted method ++ " for '--group'\n"
        ++ "Valid arguments are:\n  - 'prepend'\n  - 'append'\n  - 'separate'\n  - 'both'")
  | none => pure "none"

/-- the first operand is the number of fields that are passed over, if it is spelled like that -/
def spellFields (args : List OctetText) : List OctetText :=
  match args with
  | arg :: rest =>
    match arg.toList with
    | '-' :: c :: cs =>
      if (c :: cs).all Char.isDigit then "-f" :: String.ofList (c :: cs) :: rest else args
    | '+' :: c :: cs =>
      if (c :: cs).all Char.isDigit then "-s" :: String.ofList (c :: cs) :: rest else args
    | _ => args
  | [] => []

def uniq (args : List OctetText) : Work Unit := do
  let a ← readArguments uniqOptions 1 (spellFields args)
  let number (option what : OctetText) : Work (Option Nat) :=
    (a.value? option).mapM (countArgument what)
  let fields ← number "f" "invalid number of fields to skip"
  let chars ← number "s" "invalid number of bytes to skip"
  let width ← number "w" "invalid number of bytes to compare"
  let method ← groupMethod a
  match a.operands with
  | _ :: _ :: extra :: _ => extraOperand extra
  | _ => pure ()
  if a.has "group" && (a.has "c" || a.has "d" || a.has "D" || a.has "u") then
    misused 1 "--group is mutually exclusive with -c/-d/-D/-u"
  if a.has "c" && a.has "D" then
    misused 1 "printing all duplicated lines and repeat counts is meaningless"
  let delimiter := if a.has "z" then '\x00' else '\n'
  let path := a.operands.head?.getD "-"
  match ← openOperand path with
  | .error e => fail (named path ++ ": " ++ faultText e)
  | .ok fd => do
    let target ← match a.operands[1]? with
      | none => pure 1
      | some "-" => pure 1
      | some target =>
        match ← ask (.openFile target .write openPermissions) with
        | .ok fd => pure fd
        | .error e => fail (named target ++ ": " ++ faultText e)
    let write (line : List Char) : Work Unit := do
      let text := String.ofList (line ++ [delimiter])
      if target = 1 then put text
      else
        let _ ← ask (.write target text)
    let k : Grouping :=
      ⟨a, comparedPart (fields.getD 0) (chars.getD 0) width (a.has "i"), method, write⟩
    let (r, fault) ← foldLines delimiter fd (fun r line => k.step r (splitEnd delimiter line).1)
      streamFuel "" ⟨[], false⟩
    let r ← k.finish r
    if method = "both" && r.begun then write []
    match fault with
    | some e => fail ("error reading " ++ quoted path ++ ": " ++ faultText e)
    | none => pure ()

end ShellWorkers.Utility
