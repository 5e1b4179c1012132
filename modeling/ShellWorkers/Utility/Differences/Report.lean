import ShellWorkers.Text.Utf8

/-!
# Differences of two texts

Lines that two texts do not share, and the forms in which they are written.
-/

/-!
## Lines of two texts that differ

Two texts are lists of lines, where equal numbers stand for equal lines.  What differs is told by a
flag for each line of both: the lines without a flag are the same in both texts and in the same
order.  The flags are found in three steps.

* `Discarding`     lines that the other text does not have are flagged first, and in their
                   neighbourhood those that it has too often to be of use;
* `Search`         the fewest other flags, by a search that starts from both ends; where it takes too
                   long, few flags will do;
* `Sliding`        runs of flags are moved as far down as the lines allow, or to where the other text
                   has a run too.

`changes` reads the flags as changes of runs of lines.
-/

namespace ShellWorkers.Utility.Differences

/-- lines, as numbers that are equal for equal lines -/
abbrev Lines := Array Nat

abbrev Flags := Array Bool

/-- a flag; places outside of the text have none -/
def flagAt (flags : Flags) (i : Int) : Bool := if i < 0 then false else flags.getD i.toNat false

def lineAt (lines : Lines) (i : Int) : Option Nat := if i < 0 then none else lines[i.toNat]?

/-! ### lines that are of no use -/

namespace Discarding

/-- how a line is looked upon -/
inductive Mark where
  | kept
  | discarded
  /-- the other text has the line very often -/
  | doubtful
deriving DecidableEq

/-- so many times two as often as a number can be divided by four before nothing is left -/
def doubled (start : Nat) : (fuel : Nat) → Nat → Nat
  | 0, _ => start
  | fuel + 1, n => if n / 4 = 0 then start else doubled (2 * start) fuel (n / 4)

/-- how often a line may be in the other text -/
def manyOf (count : Nat) : Nat := doubled 5 64 (count / 64)

/-- the marks of lines by how often the other text has them -/
def marks (lines other : Lines) : List Mark :=
  let many := manyOf lines.size
  let greatest := other.foldl (fun m n => if m < n then n else m) 0
  let counts := other.foldl (fun c n => c.modify n (· + 1)) (Array.replicate (greatest + 1) 0)
  lines.toList.map fun n =>
    let count := counts.getD n 0
    if count = 0 then .discarded else if many < count then .doubtful else .kept

/-- keeps the doubtful lines that stand so many beside each other -/
def keepLongRuns (least : Nat) : (fuel : Nat) → List Mark → List Mark
  | 0, ms => ms
  | _ + 1, [] => []
  | fuel + 1, m :: ms =>
    if m = .doubtful then
      let run := (m :: ms).takeWhile (· = .doubtful)
      (if least ≤ run.length then run.map fun _ => .kept else run)
        ++ keepLongRuns least fuel ((m :: ms).drop run.length)
    else m :: keepLongRuns least fuel ms

/-- keeps the doubtful lines at the beginning, up to three lines in a row that are discarded, or to
the first such line that is far enough inside -/
def keepFirst : (place row : Nat) → List Mark → List Mark
  | _, _, [] => []
  | place, row, m :: ms =>
    if 8 ≤ place && m = .discarded then m :: ms
    else
      match m with
      | .discarded => if row = 2 then m :: ms else m :: keepFirst (place + 1) (row + 1) ms
      | _ => .kept :: keepFirst (place + 1) 0 ms

/-- settles the doubtful lines of a run that begins and ends with discarded ones -/
def settle (run : List Mark) : List Mark :=
  let doubtful := (run.filter (· = .doubtful)).length
  if run.length < 4 * doubtful then run.map fun m => if m = .doubtful then .kept else m
  else
    let least := doubled 1 64 (run.length / 4) + 1
    let run := keepFirst 0 0 (keepLongRuns least (run.length + 1) run)
    (keepFirst 0 0 run.reverse).reverse

/-- settles all doubtful lines: they are kept outside of runs of discarded ones -/
def settleAll : (fuel : Nat) → List Mark → List Mark
  | 0, ms => ms
  | _ + 1, [] => []
  | fuel + 1, m :: ms =>
    match m with
    | .discarded =>
      let run := (m :: ms).takeWhile (· != .kept)
      let tail := (run.reverse.takeWhile (· = .doubtful)).length
      settle (run.take (run.length - tail)) ++ List.replicate tail .kept
        ++ settleAll fuel ((m :: ms).drop run.length)
    | _ => .kept :: settleAll fuel ms

/-- the flags of lines that are discarded -/
def flags (lines other : Lines) : List Bool :=
  (settleAll (lines.size + 1) (marks lines other)).map (· != .kept)

end Discarding

/-! ### the fewest flags -/

namespace Search

/-- two texts whose lines are compared; a search that has gone so many steps gives up -/
structure Problem where
  first : Lines
  second : Lines
  patience : Nat

/-- whether a line of the first text is the same as one of the second; both have to be there -/
def Problem.same (p : Problem) (x y : Int) : Bool :=
  p.first.getD x.toNat 0 == p.second.getD y.toNat 0

/-- a part of both texts -/
structure Part where
  fromX : Int
  toX : Int
  fromY : Int
  toY : Int

namespace Part

/-- the least diagonal `x - y`, and how many there are -/
def least (part : Part) : Int := part.fromX - part.toY

def count (part : Part) : Nat := (part.toX - part.fromX + part.toY - part.fromY + 1).toNat

end Part

/-- how far each diagonal has been walked from one end, and which ones have been; `offset` takes a
diagonal to its place -/
structure Front where
  reached : Array Int
  offset : Int
  least : Int
  greatest : Int

namespace Front

/-- a front on one diagonal of a part -/
def single (part : Part) (diagonal x : Int) : Front :=
  let offset := 1 - part.least
  ⟨(Array.replicate (part.count + 2) 0).setIfInBounds (diagonal + offset).toNat x, offset, diagonal,
    diagonal⟩

def at? (f : Front) (diagonal : Int) : Int := f.reached.getD (diagonal + f.offset).toNat 0

def set (f : Front) (diagonal x : Int) : Front :=
  { f with reached := f.reached.setIfInBounds (diagonal + f.offset).toNat x }

/-- the diagonals of the front, each second one, from the greatest on -/
def diagonals (f : Front) : List Int :=
  (List.range ((f.greatest - f.least).toNat / 2 + 1)).map fun (i : Nat) =>
    f.greatest - 2 * (i : Int)

end Front

/-- more than any place -/
def Problem.beyond (p : Problem) : Int := (p.first.size : Int) + p.second.size + 2

/-- how far lines are the same from a place on -/
def Problem.walkUp (p : Problem) (part : Part) : (fuel : Nat) → (x y : Int) → Int
  | 0, x, _ => x
  | fuel + 1, x, y =>
    if x < part.toX && y < part.toY && p.same x y then p.walkUp part fuel (x + 1) (y + 1) else x

/-- how far lines are the same before a place -/
def Problem.walkDown (p : Problem) (part : Part) : (fuel : Nat) → (x y : Int) → Int
  | 0, x, _ => x
  | fuel + 1, x, y =>
    if part.fromX < x && part.fromY < y && p.same (x - 1) (y - 1) then
      p.walkDown part fuel (x - 1) (y - 1)
    else x

/-- fuel for a walk -/
def Problem.fuel (p : Problem) : Nat := p.first.size + p.second.size + 3

/-- one diagonal more at each end, as far as the part has them; `edge` is what is known of the
diagonals outside -/
def Front.widen (f : Front) (part : Part) (edge : Int) : Front :=
  let f := if part.fromX - part.toY < f.least then
      { f.set (f.least - 2) edge with least := f.least - 1 }
    else { f with least := f.least + 1 }
  if f.greatest < part.toX - part.fromY then
    { f.set (f.greatest + 2) edge with greatest := f.greatest + 1 }
  else { f with greatest := f.greatest - 1 }

/-- walks every other diagonal from the start, from the greatest on; a place where both fronts meet
ends it -/
def Problem.sweepUp (p : Problem) (part : Part) (back : Option Front) (walk : Nat) : (fuel : Nat) →
    (diagonal : Int) → Front → Front × Option (Int × Int)
  | 0, _, f => (f, none)
  | fuel + 1, d, f =>
    if d < f.least then (f, none)
    else
      let low := f.at? (d - 1)
      let high := f.at? (d + 1)
      let x := if low < high then high else low + 1
      let x := p.walkUp part walk x (x - d)
      let f := f.set d x
      let meets := match back with
        | none => false
        | some b => b.least ≤ d && d ≤ b.greatest && b.at? d ≤ x
      if meets then (f, some (x, x - d)) else p.sweepUp part back walk fuel (d - 2) f

/-- the same from the end -/
def Problem.sweepDown (p : Problem) (part : Part) (front : Option Front) (walk : Nat) :
    (fuel : Nat) → (diagonal : Int) → Front → Front × Option (Int × Int)
  | 0, _, f => (f, none)
  | fuel + 1, d, f =>
    if d < f.least then (f, none)
    else
      let low := f.at? (d - 1)
      let high := f.at? (d + 1)
      let x := if low < high then low else high - 1
      let x := p.walkDown part walk x (x - d)
      let f := f.set d x
      let meets := match front with
        | none => false
        | some b => b.least ≤ d && d ≤ b.greatest && x ≤ b.at? d
      if meets then (f, some (x, x - d)) else p.sweepDown part front walk fuel (d - 2) f

/-- where a part is cut, and whether the fewest changes are still looked for before it and
behind it -/
structure Cut where
  x : Int
  y : Int
  minimalBefore : Bool
  minimalBehind : Bool

/-- the better of the places that two fronts have come to -/
def Part.bestOf (part : Part) (up down : Front) : Cut :=
  let forward := up.diagonals.foldl (fun (best : Int × Int) d =>
    let x := if part.toX < up.at? d then part.toX else up.at? d
    let (x, y) := if part.toY < x - d then (part.toY + d, part.toY) else (x, x - d)
    if best.1 < x + y then (x + y, x) else best) (-1, 0)
  let backward := down.diagonals.foldl (fun (best : Option (Int × Int)) d =>
    let x := if down.at? d < part.fromX then part.fromX else down.at? d
    let (x, y) := if x - d < part.fromY then (part.fromY + d, part.fromY) else (x, x - d)
    match best with
    | some (sum, _) => if x + y < sum then some (x + y, x) else best
    | none => some (x + y, x)) none
  let (backSum, backX) := backward.getD (0, 0)
  if part.toX + part.toY - backSum < forward.1 - (part.fromX + part.fromY) then
    ⟨forward.2, forward.1 - forward.2, true, false⟩
  else ⟨backX, backSum - backX, false, true⟩

/-- lets both fronts grow until they meet, or until the patience ends -/
def Problem.meet (p : Problem) (part : Part) (minimal odd : Bool) (walk : Nat) : (fuel : Nat) →
    (steps : Nat) → (up down : Front) → Cut
  | 0, _, _, _ => ⟨part.fromX, part.toY, true, true⟩
  | fuel + 1, steps, up, down =>
    let up := up.widen part (-1)
    match p.sweepUp part (if odd then some down else none) walk walk up.greatest up with
    | (_, some (x, y)) => ⟨x, y, true, true⟩
    | (up, none) =>
      let down := down.widen part p.beyond
      match p.sweepDown part (if odd then none else some up) walk walk down.greatest down with
      | (_, some (x, y)) => ⟨x, y, true, true⟩
      | (down, none) =>
        if !minimal && p.patience ≤ steps then part.bestOf up down
        else p.meet part minimal odd walk fuel (steps + 1) up down

/-- a place that the fewest changes of a part lead through, or few changes at least -/
def Problem.middle (p : Problem) (minimal : Bool) (part : Part) : Cut :=
  let up := part.fromX - part.fromY
  let down := part.toX - part.toY
  p.meet part minimal ((up - down) % 2 != 0) p.fuel p.fuel 1
    (.single part up part.fromX) (.single part down part.toX)

/-- places from one on up to another one -/
def between (start stop : Int) : List Nat :=
  (List.range (stop - start).toNat).map fun i => start.toNat + i

/-- the lines of a part that are flagged in the first and in the second text, before others -/
def Problem.flagged (p : Problem) : (fuel : Nat) → (minimal : Bool) → Part →
    List Nat × List Nat → List Nat × List Nat
  | 0, _, _, found => found
  | fuel + 1, minimal, part, found =>
    let skipped := p.walkUp part p.fuel part.fromX part.fromY - part.fromX
    let part := { part with fromX := part.fromX + skipped, fromY := part.fromY + skipped }
    let dropped := part.toX - p.walkDown part p.fuel part.toX part.toY
    let part := { part with toX := part.toX - dropped, toY := part.toY - dropped }
    if part.fromX = part.toX then (found.1, between part.fromY part.toY ++ found.2)
    else if part.fromY = part.toY then (between part.fromX part.toX ++ found.1, found.2)
    else
      let cut := p.middle minimal part
      p.flagged fuel cut.minimalBefore { part with toX := cut.x, toY := cut.y }
        (p.flagged fuel cut.minimalBehind { part with fromX := cut.x, fromY := cut.y } found)

/-- how many steps a search goes: as many as the square root of what there is to be searched, but
quite a few in any case -/
def patienceFor (count : Nat) : Nat :=
  let root := Discarding.doubled 2 64 count
  if root < 4096 then 4096 else root

/-- all lines that are flagged in the first and in the second text -/
def Problem.solve (p : Problem) (minimal : Bool) : List Nat × List Nat :=
  p.flagged p.fuel minimal ⟨0, p.first.size, 0, p.second.size⟩ ([], [])

end Search

/-! ### moving runs of flags -/

namespace Sliding

/-- a run of flags from `start` up to `stop`, and the place in the other text that `stop`
corresponds to -/
structure Run where
  flags : Flags
  start : Int
  stop : Int
  other : Int

/-- a text whose runs are moved, with the flags of the other one -/
structure Side where
  lines : Lines
  others : Flags

def setFlag (flags : Flags) (i : Int) (value : Bool) : Flags :=
  flags.setIfInBounds i.toNat value

/-- the first place from one on that is not flagged -/
def firstFree (flags : Flags) : (fuel : Nat) → Int → Int
  | 0, i => i
  | fuel + 1, i => if flagAt flags i then firstFree flags fuel (i + 1) else i

/-- the beginning of the flags that end before a place -/
def runStart (flags : Flags) : (fuel : Nat) → Int → Int
  | 0, i => i
  | fuel + 1, i => if flagAt flags (i - 1) then runStart flags fuel (i - 1) else i

/-- the next place before one that is not flagged -/
def freeBefore (flags : Flags) : (fuel : Nat) → Int → Int
  | 0, i => i
  | fuel + 1, i => if flagAt flags (i - 1) then freeBefore flags fuel (i - 1) else i - 1

def Side.fuel (s : Side) : Nat := s.lines.size + s.others.size + 2

/-- moves a run up while the line before it is the same as its last one -/
def Side.moveUp (s : Side) : (fuel : Nat) → Run → Run
  | 0, r => r
  | fuel + 1, r =>
    if 0 < r.start && lineAt s.lines (r.start - 1) == lineAt s.lines (r.stop - 1) then
      let flags := setFlag (setFlag r.flags (r.start - 1) true) (r.stop - 1) false
      s.moveUp fuel {
        flags
        start := runStart flags s.fuel (r.start - 1)
        stop := r.stop - 1
        other := freeBefore s.others s.fuel r.other }
    else r

/-- moves a run down while its first line is the same as the one behind it; the place where the
other text has a run too is kept -/
def Side.moveDown (s : Side) : (fuel : Nat) → (corresponding : Int) → Run → Run × Int
  | 0, corresponding, r => (r, corresponding)
  | fuel + 1, corresponding, r =>
    if r.stop < s.lines.size && lineAt s.lines r.start == lineAt s.lines r.stop then
      let flags := setFlag (setFlag r.flags r.start false) r.stop true
      let stop := firstFree flags s.fuel (r.stop + 1)
      let other := firstFree s.others s.fuel (r.other + 1)
      s.moveDown fuel (if other = r.other + 1 then corresponding else stop)
        ⟨flags, r.start + 1, stop, other⟩
    else (r, corresponding)

/-- moves a run up and down until it does not grow any more by other runs -/
def Side.grow (s : Side) : (fuel : Nat) → Run → Run × Int
  | 0, r => (r, s.lines.size)
  | fuel + 1, r =>
    let moved := s.moveUp s.fuel r
    let corresponding := if flagAt s.others (moved.other - 1) then moved.stop else s.lines.size
    let (moved, corresponding) := s.moveDown s.fuel corresponding moved
    if moved.stop - moved.start = r.stop - r.start then (moved, corresponding)
    else s.grow fuel moved

/-- moves a run back to where the other text has one -/
def Side.realign (s : Side) (corresponding : Int) : (fuel : Nat) → Run → Run
  | 0, r => r
  | fuel + 1, r =>
    if corresponding < r.stop then
      s.realign corresponding fuel {
        flags := setFlag (setFlag r.flags (r.start - 1) true) (r.stop - 1) false
        start := r.start - 1
        stop := r.stop - 1
        other := freeBefore s.others s.fuel r.other }
    else r

/-- the next flag from a place on, and the place in the other text -/
def Side.seek (s : Side) (flags : Flags) : (fuel : Nat) → (i j : Int) → Int × Int
  | 0, i, j => (i, j)
  | fuel + 1, i, j =>
    if i < s.lines.size && !flagAt flags i then
      s.seek flags fuel (i + 1) (firstFree s.others s.fuel j + 1)
    else (i, j)

/-- moves all runs from a place on -/
def Side.slideFrom (s : Side) : (fuel : Nat) → (i j : Int) → Flags → Flags
  | 0, _, _, flags => flags
  | fuel + 1, i, j, flags =>
    let (start, j) := s.seek flags s.fuel i j
    if start = s.lines.size then flags
    else
      let stop := firstFree flags s.fuel start
      let (run, corresponding) := s.grow s.fuel ⟨flags, start, stop, firstFree s.others s.fuel j⟩
      let run := s.realign corresponding s.fuel run
      s.slideFrom fuel run.stop run.other run.flags

/-- moves all runs of a text -/
def slide (lines : Lines) (flags others : Flags) : Flags :=
  let s : Side := ⟨lines, others⟩
  s.slideFrom s.fuel 0 0 flags

end Sliding

/-! ### changes -/

/-- places of an array as a text of its own -/
def choose (lines : Lines) (places : List Nat) : Lines :=
  (places.map fun i => lines.getD i 0).toArray

/-- the flags of some places besides others -/
def withFlags (flags : List Bool) (places : List Nat) : Flags :=
  places.foldl (fun f i => f.setIfInBounds i true) flags.toArray

/-- the flags of two texts; `minimal` says that no lines are discarded before the search -/
def align (minimal : Bool) (first second : Lines) : Flags × Flags :=
  let none (lines : Lines) : List Bool := List.replicate lines.size false
  let given1 := if minimal then none first else Discarding.flags first second
  let given2 := if minimal then none second else Discarding.flags second first
  let free (given : List Bool) : List Nat :=
    ((List.range given.length).zip given).filterMap fun (i, flag) => if flag then Option.none else some i
  let free1 := free given1
  let free2 := free given2
  let p : Search.Problem := ⟨choose first free1, choose second free2,
    Search.patienceFor (free1.length + free2.length + 3)⟩
  let (found1, found2) := p.solve minimal
  let real (free : List Nat) (found : List Nat) : List Nat :=
    let places := free.toArray
    found.map fun i => places.getD i 0
  let flags1 := withFlags given1 (real free1 found1)
  let flags2 := withFlags given2 (real free2 found2)
  let flags1 := Sliding.slide first flags1 flags2
  (flags1, Sliding.slide second flags2 flags1)

/-- lines of the first text that become lines of the second one -/
structure Change where
  start1 : Nat
  count1 : Nat
  start2 : Nat
  count2 : Nat

/-- the changes that flags tell of -/
def changesFrom (flags1 flags2 : Flags) : (fuel : Nat) → (i j : Nat) → List Change
  | 0, _, _ => []
  | fuel + 1, i, j =>
    if flags1.size ≤ i && flags2.size ≤ j then []
    else
      let fuel' := flags1.size + flags2.size + 1
      let i' := (Sliding.firstFree flags1 fuel' i).toNat
      let j' := (Sliding.firstFree flags2 fuel' j).toNat
      let rest := changesFrom flags1 flags2 fuel (i' + 1) (j' + 1)
      if i' = i && j' = j then rest else ⟨i, i' - i, j, j' - j⟩ :: rest

/-- the changes between two texts -/
def changes (minimal : Bool) (first second : Lines) : List Change :=
  let (flags1, flags2) := align minimal first second
  changesFrom flags1 flags2 (first.size + second.size + 1) 0 0

end ShellWorkers.Utility.Differences

/-!
## How differences are written

The changes between two texts can be written one by one, with lines around them in hunks, as
commands of an editor, or with both texts beside each other.

* `Text.ofContent`       a text as its lines;
* `Form.write`           the changes in a form.
-/

namespace ShellWorkers.Utility.Differences

open ShellWorkers.Text (OctetText)

/-- the lines of a text; the last one may have no end -/
structure Source where
  lines : Array OctetText
  ended : Bool

namespace Source

def ofContent (content : OctetText) : Source :=
  let parts := content.splitOn "\n"
  if content.isEmpty || content.endsWith "\n" then ⟨parts.dropLast.toArray, true⟩
  else ⟨parts.toArray, false⟩

def size (s : Source) : Nat := s.lines.size

/-- so many lines from one on, each with whether it has an end -/
def range (s : Source) (start count : Nat) : List (OctetText × Bool) :=
  ((List.range count).map fun i =>
    (s.lines.getD (start + i) "", s.ended || start + i + 1 < s.size))

end Source

/-- a line behind a mark, with words on an end that is missing -/
def markedLine (mark : OctetText) (line : OctetText × Bool) : OctetText :=
  mark ++ line.1 ++ (if line.2 then "\n" else "\n\\ No newline at end of file\n")

def markedLines (mark : OctetText) (lines : List (OctetText × Bool)) : OctetText :=
  String.join (lines.map (markedLine mark))

/-- the numbers of lines, or of the line before none -/
def rangeText (start count : Nat) : OctetText :=
  if count = 0 then toString start
  else if count = 1 then toString (start + 1)
  else toString (start + 1) ++ "," ++ toString (start + count)

/-! ### one by one -/

/-- the letter of a change -/
def Change.letter (c : Change) : OctetText :=
  if c.count1 = 0 then "a" else if c.count2 = 0 then "d" else "c"

def Change.plainText (first second : Source) (c : Change) : OctetText :=
  rangeText c.start1 c.count1 ++ c.letter ++ rangeText c.start2 c.count2 ++ "\n"
    ++ markedLines "< " (first.range c.start1 c.count1)
    ++ (if c.letter = "c" then "---\n" else "")
    ++ markedLines "> " (second.range c.start2 c.count2)

/-! ### in hunks -/

/-- changes that stand close to each other -/
abbrev Hunk := List Change

/-- changes in hunks: those less than twice the lines around them apart stand together -/
def hunksOf (around : Nat) : List Change → List Hunk
  | [] => []
  | c :: cs =>
    match hunksOf around cs with
    | (d :: hunk) :: hunks =>
      if d.start1 - (c.start1 + c.count1) < 2 * around + 1 then (c :: d :: hunk) :: hunks
      else [c] :: (d :: hunk) :: hunks
    | hunks => [c] :: hunks

/-- the lines of a text from one number up to another one -/
structure Span where
  start : Nat
  stop : Nat

def Span.count (s : Span) : Nat := s.stop - s.start

/-- lines and those around them -/
def Span.around (lines : Nat) (s : Source) (start stop : Nat) : Span :=
  ⟨start - lines, if stop + lines < s.size then stop + lines else s.size⟩

/-- the lines of both texts that a hunk shows -/
def spans (around : Nat) (first second : Source) (h : Hunk) : Span × Span :=
  match h.head?, h.getLast? with
  | some c, some d =>
    (.around around first c.start1 (d.start1 + d.count1),
      .around around second c.start2 (d.start2 + d.count2))
  | _, _ => (⟨0, 0⟩, ⟨0, 0⟩)

/-- a range by its first line and its number of lines -/
def countedRange (s : Span) : OctetText :=
  if s.count = 0 then toString s.start ++ ",0"
  else if s.count = 1 then toString (s.start + 1)
  else toString (s.start + 1) ++ "," ++ toString s.count

/-- lines of both texts in one list, from a line of the first text on -/
def mixedLines (first second : Source) (stop : Nat) : (from_ : Nat) → Hunk → OctetText
  | from_, [] => markedLines " " (first.range from_ (stop - from_))
  | from_, c :: cs =>
    markedLines " " (first.range from_ (c.start1 - from_))
      ++ markedLines "-" (first.range c.start1 c.count1)
      ++ markedLines "+" (second.range c.start2 c.count2)
      ++ mixedLines first second stop (c.start1 + c.count1) cs

def unifiedHunk (around : Nat) (first second : Source) (h : Hunk) : OctetText :=
  let (a, b) := spans around first second h
  "@@ -" ++ countedRange a ++ " +" ++ countedRange b ++ " @@\n"
    ++ mixedLines first second a.stop a.start h

/-- lines of one text with marks; a change is its first line, its number of lines and whether the
other text has lines too -/
def contextLines (mark : OctetText) (s : Source) (stop : Nat) :
    (from_ : Nat) → List (Nat × Nat × Bool) → OctetText
  | from_, [] => markedLines "  " (s.range from_ (stop - from_))
  | from_, (start, count, both) :: cs =>
    markedLines "  " (s.range from_ (start - from_))
      ++ markedLines (if both then "! " else mark) (s.range start count)
      ++ contextLines mark s stop (start + count) cs

def contextHunk (around : Nat) (first second : Source) (h : Hunk) : OctetText :=
  let (a, b) := spans around first second h
  let old := h.map fun c => (c.start1, c.count1, decide (0 < c.count2))
  let new := h.map fun c => (c.start2, c.count2, decide (0 < c.count1))
  "***************\n*** " ++ rangeText a.start a.count ++ " ****\n"
    ++ (if h.all fun c => c.count1 = 0 then "" else contextLines "- " first a.stop a.start old)
    ++ "--- " ++ rangeText b.start b.count ++ " ----\n"
    ++ (if h.all fun c => c.count2 = 0 then "" else contextLines "+ " second b.stop b.start new)

/-! ### commands of an editor -/

/-- lines that an editor adds; a line that is a point is written as two, and shortened then -/
def editedLines : List (OctetText × Bool) → OctetText
  | [] => ".\n"
  | [(".", _)] => "..\n.\ns/.//\n"
  | (".", _) :: lines => "..\n.\ns/.//\na\n" ++ editedLines lines
  | (line, _) :: lines => line ++ "\n" ++ editedLines lines

def Change.editText (second : Source) (c : Change) : OctetText :=
  rangeText c.start1 c.count1 ++ c.letter ++ "\n"
    ++ (if c.count2 = 0 then "" else editedLines (second.range c.start2 c.count2))

/-- the commands of a change in the form that stores revisions -/
def Change.revisionText (second : Source) (c : Change) : OctetText :=
  (if c.count1 = 0 then ""
    else "d" ++ toString (c.start1 + 1) ++ " " ++ toString c.count1 ++ "\n")
    ++ (if c.count2 = 0 then ""
      else "a" ++ toString (c.start1 + c.count1) ++ " " ++ toString c.count2 ++ "\n"
        ++ String.join ((second.range c.start2 c.count2).map fun l =>
          l.1 ++ if l.2 then "\n" else ""))

/-! ### beside each other -/

/-- the columns of texts beside each other -/
structure Columns where
  /-- the width of each text -/
  half : Nat
  /-- where the second text begins -/
  second : Nat
  expands : Bool

namespace Columns

/-- the columns of a line of a width -/
def ofWidth (width : Nat) (expands : Bool) : Columns :=
  let step := if expands then 1 else 8
  let offset := (width + step + 3) / (2 * step) * step
  let half := if offset - 3 < width - offset then offset - 3 else width - offset
  ⟨half, if half = 0 then width else offset, expands⟩

/-- blanks from one column to another one -/
def gap (k : Columns) : (fuel : Nat) → (column target : Nat) → List Char
  | 0, _, _ => []
  | fuel + 1, column, target =>
    let tab := column + 8 - column % 8
    if !k.expands && tab ≤ target then '\t' :: k.gap fuel tab target
    else List.replicate (target - column) ' '

/-- a line cut at a column, and the column behind it; `input` is the column in the line -/
def halfLine (k : Columns) (indent : Nat) : (input column : Nat) → List Char → List Char × Nat
  | _, column, [] => ([], column)
  | input, column, c :: cs =>
    if c = '\t' then
      let spaces := 8 - input % 8
      if input = column then
        let target := if input + spaces < k.half then input + spaces else k.half
        if input + spaces ≤ k.half && !k.expands then
          let (rest, stop) := k.halfLine indent (input + spaces) (input + spaces) cs
          ('\t' :: rest, stop)
        else
          let (rest, stop) := k.halfLine indent (input + spaces) target cs
          (List.replicate (target - column) ' ' ++ rest, stop)
      else k.halfLine indent (input + spaces) column cs
    else if input < k.half then
      let (rest, stop) := k.halfLine indent (input + 1) (input + 1) cs
      (c :: rest, stop)
    else k.halfLine indent (input + 1) column cs

/-- one line: texts of both sides with a sign between them -/
def row (k : Columns) (left : Option (OctetText × Bool)) (sign : Char)
    (right : Option (OctetText × Bool)) : OctetText :=
  let (shown, column) := match left with
    | some l => k.halfLine 0 0 0 l.1.toList
    | none => ([], 0)
  let leftEnds := left.any (·.2)
  let ends := leftEnds || right.any (·.2)
  let (middle, column) :=
    if sign = ' ' then ([], column)
    else
      let target := (k.half + k.second - 1) / 2
      let sign := match sign, right with
        | '|', some r => if leftEnds != r.2 then (if leftEnds then '/' else '\\') else sign
        | _, _ => sign
      (k.gap 1000 column target ++ [sign], (if column < target then target else column) + 1)
  let behind := match right with
    | some r =>
      if r.1.isEmpty && r.2 then []
      else k.gap 1000 column k.second ++ (k.halfLine k.second 0 0 r.1.toList).1
    | none => []
  String.ofList (shown ++ middle ++ behind ++ if ends then ['\n'] else [])

/-- a change: lines of both sides as long as there are some of both -/
def change (k : Columns) : List (OctetText × Bool) → List (OctetText × Bool) → OctetText
  | l :: ls, r :: rs => k.row (some l) '|' (some r) ++ k.change ls rs
  | ls, [] => String.join (ls.map fun l => k.row (some l) '<' none)
  | [], rs => String.join (rs.map fun r => k.row none '>' (some r))

/-- lines that are the same -/
def same (k : Columns) (leftOnly : Bool) (first second : List (OctetText × Bool)) : OctetText :=
  String.join ((first.zip second).map fun (l, r) =>
    if leftOnly then k.row (some l) '(' none else k.row (some l) ' ' (some r))

end Columns

/-! ### forms -/

inductive Form where
  | plain
  | unified (around : Nat)
  | context (around : Nat)
  | edit
  | revision
  | beside (columns : Columns) (leftOnly changesOnly : Bool)
deriving Inhabited

/-- how many equal lines are shown around changes -/
def Form.around : Form → Nat
  | .unified n => n
  | .context n => n
  | _ => 0

/-- whether equal lines are written too -/
def Form.isBeside : Form → Bool
  | .beside _ _ _ => true
  | _ => false

def Form.isEdit : Form → Bool
  | .edit => true
  | _ => false

/-- both texts beside each other, from a line of each on -/
def besideText (k : Columns) (leftOnly changesOnly : Bool) (first second : Source) :
    (i j : Nat) → List Change → OctetText
  | i, j, [] =>
    if changesOnly then ""
    else k.same leftOnly (first.range i (first.size - i)) (second.range j (second.size - j))
  | i, j, c :: cs =>
    (if changesOnly then ""
      else k.same leftOnly (first.range i (c.start1 - i)) (second.range j (c.start2 - j)))
      ++ k.change (first.range c.start1 c.count1) (second.range c.start2 c.count2)
      ++ besideText k leftOnly changesOnly first second (c.start1 + c.count1) (c.start2 + c.count2) cs

/-- the changes in a form, below the labels of both texts where it shows them -/
def Form.write (f : Form) (labels : OctetText × OctetText) (first second : Source)
    (changes : List Change) : OctetText :=
  match f with
  | .plain => String.join (changes.map (·.plainText first second))
  | .unified n =>
    "--- " ++ labels.1 ++ "\n+++ " ++ labels.2 ++ "\n"
      ++ String.join ((hunksOf n changes).map (unifiedHunk n first second))
  | .context n =>
    "*** " ++ labels.1 ++ "\n--- " ++ labels.2 ++ "\n"
      ++ String.join ((hunksOf n changes).map (contextHunk n first second))
  | .edit => String.join (changes.reverse.map (·.editText second))
  | .revision => String.join (changes.map (·.revisionText second))
  | .beside k leftOnly changesOnly =>
    besideText k leftOnly changesOnly first second 0 0 changes

end ShellWorkers.Utility.Differences
