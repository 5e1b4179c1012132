import ShellWorkers.Utility.Sorting
import Std.Data.HashMap

/-!
# Order within files and between them

`comm` tells which lines two files share, and `join` puts the lines together that agree in a field.
Both read the files in step and so expect them to be in order; a line out of order is told where it
is read, and once for each file. `tsort` looks for an order itself, in which a name stands before
those that it is paired with.

* `OrderCheck`              when a line out of order is told;
* `OrderedFile.advance`     the next line of a file of `comm`;
* `Feed.next`               the next line of a file of `join`;
* `Precedence.settle`       the names that can be placed one behind the other;
* `Precedence.loopAt`       a loop among the names that are left.
-/

namespace ShellWorkers.Utility

open Machine
open Text (OctetText)

/-! ## order -/

/-- when lines out of order are told -/
inductive OrderCheck where
  /-- when a line without a partner has been met; the work goes on -/
  | unpaired
  /-- in any case; the work ends -/
  | always
  | never
deriving DecidableEq

def OrderCheck.ofArguments (a : Arguments) : OrderCheck :=
  match a.last? ["check", "nocheck"] with
  | some "check" => .always
  | some _ => .never
  | none => .unpaired

/-- whether a line is looked at -/
def OrderCheck.applies (k : OrderCheck) (unpaired warned : Bool) : Bool :=
  match k with
  | .unpaired => unpaired && !warned
  | .always => !warned
  | .never => false

/-- tells that a line is out of order -/
def OrderCheck.tell (k : OrderCheck) (message : OctetText) : Work Unit :=
  if k = .always then fail message else note message

/-- the end of a utility that has told of lines out of order -/
def failUnordered (warned : Bool) : Work Unit := do
  if warned then fail "input is not in sorted order"

/-- the two operands -/
def twoOperands (a : Arguments) : Work (OctetText × OctetText) :=
  match a.operands with
  | [] => missingOperand
  | [only] => missingAfter only
  | [first, second] => pure (first, second)
  | _ :: _ :: extra :: _ => extraOperand extra

/-! ## comm -/

def commOptions : OptionTable where
  letters := "123z"
  names := [("check-order", .nothing, "check"), ("nocheck-order", .nothing, "nocheck"),
    ("output-delimiter", .value, "delimiter"), ("total", .nothing, "total"),
    ("zero-terminated", .nothing, "z")]
  strict := false

/-- a file that is read: the line before the one that is looked at, that line and those to come -/
structure OrderedFile where
  number : Nat
  before? : Option (List Char)
  lines : List (List Char)
  warned : Bool

namespace OrderedFile

/-- tells when one line comes behind a greater one -/
def compare (f : OrderedFile) (k : OrderCheck) (unpaired : Bool) (first second : List Char) :
    Work Bool := do
  if k.applies unpaired f.warned && compareOctets first second == .gt then do
    k.tell ("file " ++ toString f.number ++ " is not in sorted order")
    pure true
  else pure f.warned

/-- goes on to the next line; where there is none, the last two lines are looked at again -/
def advance (f : OrderedFile) (k : OrderCheck) (unpaired : Bool) : Work OrderedFile := do
  let warned ← match f.lines, f.before? with
    | current :: next :: _, _ => f.compare k unpaired current next
    | [current], some before => f.compare k unpaired before current
    | _, _ => pure f.warned
  pure { f with before? := f.lines.head?, lines := f.lines.drop 1, warned := warned }

end OrderedFile

/-- where a line stands: in the first file, in the second, or in both -/
inductive Share where
  | first
  | second
  | both
deriving DecidableEq

/-- how often a line was in the first file only, in the second only, and in both -/
structure ShareCounts where
  first : Nat
  second : Nat
  both : Nat

def ShareCounts.add (n : ShareCounts) : Share → ShareCounts
  | .first => { n with first := n.first + 1 }
  | .second => { n with second := n.second + 1 }
  | .both => { n with both := n.both + 1 }

/-- reads two files in step -/
def shareLines (k : OrderCheck) (write : Share → List Char → Work Unit) :
    (fuel : Nat) → (unpaired : Bool) → ShareCounts → OrderedFile → OrderedFile →
    Work (ShareCounts × Bool)
  | 0, _, n, a, b => pure (n, a.warned || b.warned)
  | fuel + 1, unpaired, n, a, b => do
    let found := match a.lines, b.lines with
      | [], [] => none
      | x :: _, [] => some (Share.first, x)
      | [], y :: _ => some (.second, y)
      | x :: _, y :: _ =>
        match compareOctets x y with
        | .lt => some (.first, x)
        | .gt => some (.second, y)
        | .eq => some (.both, y)
    match found with
    | none => pure (n, a.warned || b.warned)
    | some (share, line) => do
      let unpaired := unpaired || share != .both
      write share line
      let a ← if share = .second then pure a else a.advance k unpaired
      let b ← if share = .first then pure b else b.advance k unpaired
      shareLines k write fuel unpaired (n.add share) a b

/-- the lines of an operand -/
def linesOfOperand (delimiter : Char) (path : OctetText) : Work (List (List Char)) := do
  match ← readOperand path with
  | .error e => fail (named path ++ ": " ++ faultText e)
  | .ok text => pure (recordsOf delimiter text)

def comm (args : List OctetText) : Work Unit := do
  let a ← readArguments commOptions 1 args
  let (first, second) ← twoOperands a
  let delimiter := if a.has "z" then '\x00' else '\n'
  let tab := match a.value? "delimiter" with
    | none => "\t"
    | some text => if text.isEmpty then "\x00" else text
  let as ← linesOfOperand delimiter first
  let bs ← linesOfOperand delimiter second
  let indent (columns : List OctetText) : OctetText :=
    String.join ((columns.filter fun c => !a.has c).map fun _ => tab)
  let write (share : Share) (line : List Char) : Work Unit := do
    let (own, columns) := match share with
      | .first => ("1", [])
      | .second => ("2", ["1"])
      | .both => ("3", ["1", "2"])
    if !a.has own then put (indent columns ++ String.ofList (line ++ [delimiter]))
  let (n, warned) ← shareLines (.ofArguments a) write (as.length + bs.length + 1) false ⟨0, 0, 0⟩
    ⟨1, none, as, false⟩ ⟨2, none, bs, false⟩
  if a.has "total" then
    put (tab.intercalate [toString n.first, toString n.second, toString n.both, "total"]
      ++ String.ofList [delimiter])
  failUnordered warned

/-! ## fields of join -/

/-- a field of the output: that of the key, or one of a file -/
inductive JoinField where
  | key
  | ofFile (second : Bool) (number : Nat)

def joinOptions : OptionTable where
  letters := "a:e:i1:2:j:o:t:v:z"
  names := [("ignore-case", .nothing, "i"), ("check-order", .nothing, "check"),
    ("nocheck-order", .nothing, "nocheck"), ("zero-terminated", .nothing, "z"),
    ("header", .nothing, "header")]
  strict := false

/-- the fields of a line; without a tab they stand between blanks, and blanks at the end of the
line have an empty field behind them -/
def fieldsOfLine (tab : Option Char) (line : List Char) : List (List Char) :=
  match tab with
  | some t => ((String.ofList line).splitOn (String.ofList [t])).map String.toList
  | none =>
    let parts := (String.ofList (line.map fun c => if isBlank c then ' ' else c)).splitOn " "
    let fields := (parts.filter (!·.isEmpty)).map String.toList
    if !fields.isEmpty && (line.getLast?.map isBlank).getD false then fields ++ [[]] else fields

/-- a number of a field -/
def joinFieldNumber (text : OctetText) : Work Nat := do
  match decimal? text with
  | some 0 => fail ("invalid field number: " ++ quoted text)
  | some n => pure (n - 1)
  | none => fail ("invalid field number: " ++ quoted text)

/-- the fields that a list names -/
def joinFields (text : OctetText) : Work (List JoinField) :=
  ((text.map fun c => if c = ' ' || c = '\t' then ',' else c).splitOn ",").mapM fun spec => do
    let field (second : Bool) (rest : List Char) : Work JoinField :=
      match rest with
      | '.' :: ds => (.ofFile second ·) <$> joinFieldNumber (String.ofList ds)
      | _ => fail ("invalid field specifier: " ++ quoted spec)
    match spec.toList with
    | ['0'] => pure .key
    | '0' :: _ => fail ("invalid field specifier: " ++ quoted spec)
    | '1' :: rest => field false rest
    | '2' :: rest => field true rest
    | _ => fail ("invalid file number in field spec: " ++ quoted spec)

/-- a line as its fields -/
abbrev Row := List (List Char)

/-- how rows are joined -/
structure JoinStyle where
  key1 : Nat
  key2 : Nat
  folds : Bool
  tab : Option Char
  delimiter : Char
  empty : List Char
  fields : Option (List JoinField)
  /-- rows without a partner -/
  loneFirst : Bool
  loneSecond : Bool
  pairs : Bool
  check : OrderCheck

namespace JoinStyle

def keyOf (j : JoinStyle) (second : Bool) (r : Row) : List Char :=
  (r[if second then j.key2 else j.key1]?).getD []

def compareKeys (j : JoinStyle) (a b : List Char) : Ordering :=
  if j.folds then compareOctets (a.map Char.toUpper) (b.map Char.toUpper) else compareOctets a b

/-- the fields of a row but its key -/
def others (j : JoinStyle) (second : Bool) (r : Row) : Row :=
  r.eraseIdx (if second then j.key2 else j.key1)

/-- the text of a row of the output; fields without a text get another one -/
def output (j : JoinStyle) (first second : Option Row) : List Char :=
  let key := match first, second with
    | some r, _ => j.keyOf false r
    | none, some r => j.keyOf true r
    | none, none => []
  let shown : Row := match j.fields with
    | some fields => fields.map fun f =>
      match f with
      | .key => key
      | .ofFile false n => ((first.bind fun r => r[n]?)).getD []
      | .ofFile true n => ((second.bind fun r => r[n]?)).getD []
    | none =>
      key :: (first.map (j.others false)).getD [] ++ (second.map (j.others true)).getD []
  [(j.tab.getD ' ')].intercalate (shown.map fun f => if f.isEmpty then j.empty else f)

def write (j : JoinStyle) (first second : Option Row) : Work Unit :=
  put (String.ofList (j.output first second ++ [j.delimiter]))

end JoinStyle

/-! ## reading in step -/

/-- a file that is read row by row -/
structure Feed where
  path : OctetText
  second : Bool
  /-- the row that was read last -/
  last? : Option Row
  lines : List (List Char)
  /-- how many lines have been read -/
  number : Nat
  warned : Bool

/-- reads a row, and tells when it is less than the one before -/
def Feed.next (f : Feed) (j : JoinStyle) (unpaired : Bool) : Work (Option Row × Feed) := do
  match f.lines with
  | [] => pure (none, f)
  | line :: lines => do
    let row := fieldsOfLine j.tab line
    let number := f.number + 1
    let falls := match f.last? with
      | none => false
      | some last => j.compareKeys (j.keyOf f.second last) (j.keyOf f.second row) == .gt
    let warned ← if falls && j.check.applies unpaired f.warned then do
        j.check.tell (f.path ++ ":" ++ toString number ++ ": is not sorted: " ++ String.ofList line)
        pure true
      else pure f.warned
    pure (some row, { f with last? := some row, lines := lines, number := number, warned := warned })

/-- reads on while rows have a key: they, last first, the row behind them and the file -/
def Feed.nextWith (j : JoinStyle) (unpaired : Bool) (key : List Char) :
    (fuel : Nat) → List Row → Feed → Work (List Row × Option Row × Feed)
  | 0, rows, f => pure (rows, none, f)
  | fuel + 1, rows, f => do
    match ← f.next j unpaired with
    | (none, f) => pure (rows, none, f)
    | (some row, f) =>
      if j.compareKeys (j.keyOf f.second row) key == .eq then
        nextWith j unpaired key fuel (row :: rows) f
      else pure (rows, some row, f)

/-- reads what is left of one file when the other one has ended, to write it if that is asked for,
and otherwise for its order until that is known to be wrong -/
def Feed.drain (j : JoinStyle) (unpaired writes : Bool) : (fuel : Nat) → Option Row → Feed → Work Feed
  | 0, _, f => pure f
  | _ + 1, none, f => pure f
  | fuel + 1, some row, f => do
    if writes then
      if f.second then j.write none (some row) else j.write (some row) none
    if f.warned && !writes then pure f
    else
      let (next, f) ← f.next j unpaired
      drain j unpaired writes fuel next f

/-- reads two files in step from the rows that were read of them -/
def joinRows (j : JoinStyle) : (fuel : Nat) → (unpaired : Bool) → Option Row → Option Row → Feed →
    Feed → Work Bool
  | 0, _, _, _, f, g => pure (f.warned || g.warned)
  | fuel + 1, unpaired, some x, some y, f, g => do
    match j.compareKeys (j.keyOf false x) (j.keyOf true y) with
    | .lt => do
      if j.loneFirst then j.write (some x) none
      let (next, f) ← f.next j unpaired
      joinRows j fuel true next (some y) f g
    | .gt => do
      if j.loneSecond then j.write none (some y)
      let (next, g) ← g.next j unpaired
      joinRows j fuel true (some x) next f g
    | .eq => do
      let (xs, nextX, f) ← Feed.nextWith j unpaired (j.keyOf true y) streamFuel [x] f
      let (ys, nextY, g) ← Feed.nextWith j unpaired (j.keyOf false x) streamFuel [y] g
      if j.pairs then
        for x in xs.reverse do
          for y in ys.reverse do
            j.write (some x) (some y)
      joinRows j fuel unpaired nextX nextY f g
  | _ + 1, unpaired, x, y, f, g => do
    let checks := j.check != .never && !(f.warned && g.warned)
    let f ← if j.loneFirst || checks then
        Feed.drain j unpaired j.loneFirst (f.lines.length + 2) x f
      else pure f
    let g ← if j.loneSecond || checks then
        Feed.drain j unpaired j.loneSecond (g.lines.length + 2) y g
      else pure g
    pure (f.warned || g.warned)

/-- the lines of a file that is joined -/
def joinInput (delimiter : Char) (path : OctetText) : Work (List (List Char)) := do
  match ← openOperand path with
  | .error e => fail (named path ++ ": " ++ faultText e)
  | .ok fd => do
    let text ← readAll fd
    closeOperand path fd
    match text with
    | .error e => fail ("read error: " ++ faultText e)
    | .ok text => pure (recordsOf delimiter text)

/-- the character between fields -/
def joinTab (a : Arguments) : Work (Option Char) :=
  (a.value? "t").mapM fun text =>
    match text.toList with
    | [c] => pure c
    | [] => pure '\n'
    | ['\\', '0'] => pure '\x00'
    | _ => fail ("multi-character tab " ++ quoted text)

/-- the fields of the output, where `auto` means as many as the first lines have -/
def outputFields (a : Arguments) (tab : Option Char) (key1 key2 : Nat) (lines1 lines2 : List (List Char)) :
    Work (Option (List JoinField)) := do
  if a.value? "o" == some "auto" then
    let of (second : Bool) (key : Nat) (lines : List (List Char)) : List JoinField :=
      let count := (lines.head?.map fun line => (fieldsOfLine tab line).length).getD 0
      ((List.range count).filter (· ≠ key)).map (.ofFile second ·)
    pure (some (.key :: of false key1 lines1 ++ of true key2 lines2))
  else
    match a.values "o" with
    | [] => pure none
    | specs => some <$> joinFields (",".intercalate specs)

def join (args : List OctetText) : Work Unit := do
  let a ← readArguments joinOptions 1 args
  let number (option : OctetText) : Work Nat := do
    match a.value? option, a.value? "j" with
    | some text, _ => joinFieldNumber text
    | none, some text => joinFieldNumber text
    | none, none => pure 0
  let key1 ← number "1"
  let key2 ← number "2"
  let tab ← joinTab a
  let delimiter := if a.has "z" then '\x00' else '\n'
  let lone := a.values "a" ++ a.values "v"
  for n in lone do
    if n ≠ "1" && n ≠ "2" then fail ("invalid field number: " ++ quoted n)
  let _ ← if a.value? "o" == some "auto" then pure none
    else outputFields a tab key1 key2 [] []
  let (first, second) ← twoOperands a
  if first = "-" && second = "-" then fail "both files cannot be standard input"
  let lines1 ← joinInput delimiter first
  let lines2 ← joinInput delimiter second
  let j : JoinStyle := {
    key1, key2, tab, delimiter
    folds := a.has "i"
    empty := ((a.value? "e").getD "").toList
    fields := ← outputFields a tab key1 key2 lines1 lines2
    loneFirst := lone.contains "1"
    loneSecond := lone.contains "2"
    pairs := (a.values "v").isEmpty
    check := .ofArguments a }
  let (x, f) ← Feed.next ⟨first, false, none, lines1, 0, false⟩ j false
  let (y, g) ← Feed.next ⟨second, true, none, lines2, 0, false⟩ j false
  let (x, y, f, g) ← if a.has "header" && (x.isSome || y.isSome) then do
      j.write x y
      let (x, f) ← { f with last? := none }.next j false
      let (y, g) ← { g with last? := none }.next j false
      pure (x, y, f, g)
    else pure (x, y, f, g)
  failUnordered (← joinRows j (lines1.length + lines2.length + 1) false x y f g)

/-! ## tsort -/

/-- a name that has to be placed -/
structure Placing where
  name : OctetText
  /-- how many pairs still hold it back -/
  waits : Nat
  /-- the places of the names that it holds back, the newest first -/
  holds : List Nat
  placed : Bool
  /-- in the search for a loop, the place of the name that was reached from here -/
  next? : Option Nat
deriving Inhabited

/-- the names that pairs are made of, in the order of their octets -/
abbrev Precedence := Array Placing

namespace Precedence

/-- the names of some words -/
def ofWords (words : List OctetText) : Precedence :=
  let sorted := words.mergeSort fun a b => !FileTree.precedes b.toList a.toList
  sorted.foldl (fun p w =>
    if p.back?.any (·.name = w) then p else p.push ⟨w, 0, [], false, none⟩) #[]

/-- puts the pairs down that words make; a name paired with itself says no more than that it is
there -/
def withPairs (places : Std.HashMap OctetText Nat) : List OctetText → Precedence → Precedence
  | a :: b :: words, p =>
    match places[a]?, places[b]? with
    | some i, some j =>
      withPairs places words (if i = j then p
        else (p.modify i fun x => { x with holds := j :: x.holds }).modify j fun x =>
          { x with waits := x.waits + 1 })
    | _, _ => withPairs places words p
  | _, p => p

/-- the pairs of a list of words -/
def ofPairs (words : List OctetText) : Precedence :=
  let names := ofWords words
  withPairs (names.foldl (fun m x => m.insert x.name m.size) ∅) words names

/-- the places of the names that nothing holds back -/
def free (p : Precedence) : Array Nat :=
  (Array.range p.size).filter fun i => p[i]?.any fun x => x.waits = 0 && !x.placed

/-- takes a pair away; a name that nothing holds back any more joins the queue -/
def release (s : Precedence × Array Nat) (j : Nat) : Precedence × Array Nat :=
  let (p, queue) := s
  let p := p.modify j fun x => { x with waits := x.waits - 1 }
  (p, if p[j]?.any (·.waits = 0) then queue.push j else queue)

/-- places the names of a queue from a position on, and behind them those that they held back -/
def settle : (fuel : Nat) → (position : Nat) → Array Nat → Precedence → Array Nat × Precedence
  | 0, _, queue, p => (queue, p)
  | fuel + 1, position, queue, p =>
    match queue[position]? with
    | none => (queue, p)
    | some i =>
      let holds := (p[i]?.map Placing.holds).getD []
      let p := p.modify i fun x => { x with placed := true }
      let (p, queue) := holds.foldl release (p, queue)
      settle fuel (position + 1) queue p

/-- the names of the way from a place to another one -/
def way (p : Precedence) (goal : Nat) : (fuel : Nat) → (place : Nat) → List OctetText
  | 0, _ => []
  | fuel + 1, place =>
    match p[place]? with
    | none => []
    | some x =>
      x.name :: (if place = goal then []
        else match x.next? with
          | none => []
          | some next => way p goal fuel next)

/-- a loop among the names that are held back, and what is left when the pair that closes it is
taken away; the names are looked at in turn for one that holds back the last one found -/
def loopAt : (fuel : Nat) → (place : Nat) → (last? : Option Nat) → Precedence →
    List OctetText × Precedence
  | 0, _, _, p => ([], p)
  | fuel + 1, place, last?, p =>
    match p[place]? with
    | none => loopAt fuel 0 last? p
    | some x =>
      if x.waits = 0 then loopAt fuel (place + 1) last? p
      else match last? with
        | none => loopAt fuel (place + 1) (some place) p
        | some last =>
          if !x.holds.contains last then loopAt fuel (place + 1) last? p
          else if x.next?.isNone then
            loopAt fuel (place + 1) (some place)
              (p.modify place fun x => { x with next? := some last })
          else
            (way p place (p.size + 1) last,
              (((p.modify place fun x => { x with holds := x.holds.erase last }).modify last fun x =>
                { x with waits := x.waits - 1 }).map fun x => { x with next? := none }))

/-- writes the names in an order; where there is none, a loop is told and opened -/
def write (path : OctetText) : (fuel : Nat) → (left : Nat) → Precedence → Work Unit
  | 0, _, _ => pure ()
  | fuel + 1, left, p => do
    let (order, p) := settle (p.size + 1) 0 (free p) p
    for i in order do
      putLine ((p[i]?.map Placing.name).getD "")
    let left := left - order.size
    if left ≠ 0 then
      warn (named path ++ ": input contains a loop:")
      let (names, p) := loopAt ((p.size + 1) * (p.size + 3)) 0 none p
      for name in names do note name
      write path fuel left p

end Precedence

def tsort (args : List OctetText) : Work Unit := do
  let a ← readArguments ⟨"", [], false⟩ 1 args
  match a.operands with
  | _ :: extra :: _ => extraOperand extra
  | _ => pure ()
  let path := a.operands.head?.getD "-"
  match ← openOperand path with
  | .error e => fail (named path ++ ": " ++ faultText e)
  | .ok fd => do
    let text := match ← readAll fd with
      | .ok text => text
      | .error _ => ""
    let blanked := text.map fun c => if c = '\t' || c = '\n' then ' ' else c
    let words := (blanked.splitOn " ").filter (!·.isEmpty)
    if words.length % 2 = 1 then fail (named path ++ ": input contains an odd number of tokens")
    let p := Precedence.ofPairs words
    p.write path (words.length + 1) p.size

end ShellWorkers.Utility
