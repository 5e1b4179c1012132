import ShellWorkers.Machine.Permissions
import ShellWorkers.Script.Pattern
import ShellWorkers.Utility.Dates
import ShellWorkers.Utility.Removal
import ShellWorkers.Utility.Sorting

/-!
# Listings

`ls` lists files, and what is in directories: names alone or with what else is known of a file, in
an order that can be chosen, in one column or several.
-/

namespace ShellWorkers.Utility

open Machine
open Text (OctetText)

namespace Listing

/-! ## what is listed -/

/-- a name, and what is known of its file -/
structure Item where
  name : OctetText
  path : OctetText
  status : FileStatus
  /-- where a link leads -/
  target : Option OctetText
  /-- the kind of what a link leads to -/
  behind : Option FileStatus
  /-- no more than its kind could be found out -/
  isUnknown : Bool

/-- how names are arranged -/
inductive Arrangement where
  | single
  | long
  | down
  | across
  | commas
  deriving DecidableEq

inductive Sorting where
  | byName
  | bySize
  | byTime
  | byEnding
  | byVersion
  | byWidth
  | unsorted
  deriving DecidableEq

/-- which marks stand behind names -/
inductive Marks where
  | none
  | directories
  | kinds
  /-- those that can be executed too -/
  | all
  deriving DecidableEq

/-- how names are spelled -/
inductive Spelling where
  | literal
  | hidden
  | escaped
  | quoted
  /-- between single quotes -/
  | quotedOnce
  | shell
  | shellAlways
  deriving DecidableEq

structure Style where
  arrangement : Arrangement
  ordering : Sorting
  reversed : Bool
  directoriesFirst : Bool
  /-- hidden names: none of them, all but those of the directory itself, or all -/
  hidden : Nat
  ignored : List OctetText
  backups : Bool
  /-- directories are listed as files are -/
  plain : Bool
  recursive : Bool
  followsAll : Bool
  followsOperands : Bool
  marks : Marks
  spelling : Spelling
  numbers : Bool
  sizes : Bool
  numeric : Bool
  owner : Bool
  group : Bool
  readable : Bool
  width : Nat
  tabSize : Nat
  ending : OctetText
  /-- the formats of times long ago and of others -/
  times : OctetText × OctetText
  zone : Clock.Zone
  colored : Bool

namespace Style

def arrangementOf (a : Arguments) : Arrangement :=
  let given := a.options.filterMap fun (option, value?) =>
    match option, value?.getD "" with
    | "1", _ => some Arrangement.single
    | "l", _ => some .long
    | "g", _ => some .long
    | "n", _ => some .long
    | "o", _ => some .long
    | "full-time", _ => some .long
    | "C", _ => some .down
    | "x", _ => some .across
    | "m", _ => some .commas
    | "format", "long" => some .long
    | "format", "verbose" => some .long
    | "format", "single-column" => some .single
    | "format", "vertical" => some .down
    | "format", "across" => some .across
    | "format", "horizontal" => some .across
    | "format", "commas" => some .commas
    | "zero", _ => some .single
    | _, _ => none
  -- one column is no other arrangement than the long one
  given.foldl (fun now next =>
    if now = .long && next = .single then .long else next) .single

def orderingOf (a : Arguments) : Sorting :=
  let given := a.options.filterMap fun (option, value?) =>
    match option, value?.getD "" with
    | "S", _ => some Sorting.bySize
    | "t", _ => some .byTime
    | "X", _ => some .byEnding
    | "v", _ => some .byVersion
    | "U", _ => some .unsorted
    | "f", _ => some .unsorted
    | "sort", "size" => some .bySize
    | "sort", "time" => some .byTime
    | "sort", "extension" => some .byEnding
    | "sort", "version" => some .byVersion
    | "sort", "width" => some .byWidth
    | "sort", "none" => some .unsorted
    | _, _ => none
  given.getLast?.getD .byName

def marksOf (a : Arguments) : Marks :=
  let given := a.options.filterMap fun (option, value?) =>
    match option, value?.getD "" with
    | "F", "never" => some Marks.none
    | "F", "auto" => some .none
    | "F", _ => some .all
    | "p", _ => some .directories
    | "file-type", _ => some .kinds
    | "indicator", "slash" => some .directories
    | "indicator", "file-type" => some .kinds
    | "indicator", "classify" => some .all
    | "indicator", "none" => some .none
    | _, _ => none
  given.getLast?.getD .none

def spellingOf (a : Arguments) : Spelling :=
  let given := a.options.filterMap fun (option, value?) =>
    match option, value?.getD "" with
    | "b", _ => some Spelling.escaped
    | "Q", _ => some .quoted
    | "N", _ => some .literal
    | "q", _ => some .hidden
    | "style", "literal" => some .literal
    | "style", "escape" => some .escaped
    | "style", "c" => some .quoted
    | "style", "clocale" => some .quoted
    | "style", "locale" => some .quotedOnce
    | "style", "shell" => some .shell
    | "style", "shell-escape" => some .shell
    | "style", "shell-always" => some .shellAlways
    | "style", "shell-escape-always" => some .shellAlways
    | _, _ => none
  given.getLast?.getD .literal

def ofArguments (a : Arguments) (widths : Nat × Nat) (times : OctetText × OctetText)
    (zone : Clock.Zone) : Style :=
  let arrangement := arrangementOf a
  let marks := marksOf a
  let plain := a.has "d"
  { arguments with
    arrangement := arrangement
    ordering := orderingOf a
    reversed := a.has "r"
    directoriesFirst := a.has "group-directories-first"
    hidden := match a.last? ["a", "A", "f"] with
      | some "A" => 1
      | some _ => 2
      | none => 0
    ignored := a.values "I" ++ (if a.has "a" || a.has "A" then [] else a.values "hide")
    backups := !a.has "B"
    plain := plain
    recursive := a.has "R" && !plain
    followsAll := a.has "L"
    followsOperands := a.has "H" || a.has "L"
      || !(plain || arrangement = .long || marks = .all)
    marks := marks
    spelling := spellingOf a
    numbers := a.has "i"
    sizes := a.has "s"
    numeric := a.has "n"
    owner := !a.has "g"
    group := !(a.has "o" || a.has "G")
    readable := a.has "h"
    width := widths.1
    tabSize := widths.2
    ending := if a.has "zero" then "\x00" else "\n"
    times := times
    zone := zone
    colored := match a.options.reverse.find? (·.1 == "color") with
      | some (_, none) => true
      | some (_, some word) => ["always", "yes", "force"].contains word
      | none => false }
where
  arguments : Style :=
    ⟨.single, .byName, false, false, 0, [], true, false, false, false, false, .none, .literal,
      false, false, false, true, true, false, 80, 8, "\n", ("", ""), .universal, false⟩

end Style

/-! ## the parts of a line -/

/-- a name as it is spelled -/
def spell (k : Style) (name : OctetText) : OctetText :=
  let octal (c : Char) : List Char := escapedChar c
  match k.spelling with
  | .literal => name
  | .hidden => name.map fun c => if isPrintable c then c else '?'
  | .escaped => String.ofList (name.toList.flatMap fun c =>
      if c = ' ' || c = '\\' then ['\\', c] else if isPrintable c then [c] else octal c)
  | .quoted => "\"" ++ String.ofList (name.toList.flatMap fun c =>
      if c = '"' || c = '\\' then ['\\', c] else if isPrintable c then [c] else octal c) ++ "\""
  | .quotedOnce => quoted name
  | .shell => shellWord name
  | .shellAlways => shellQuoted name

/-- the name of a directory before the colon of its heading -/
def spellHeading (k : Style) (name : OctetText) : OctetText :=
  let marked (text : OctetText) : OctetText :=
    String.ofList (text.toList.flatMap fun c => if c = ':' then ['\\', ':'] else [c])
  match k.spelling with
  | .shell => named name
  | .escaped => marked (spell k name)
  | .quoted => marked (spell k name)
  | .quotedOnce => marked (spell k name)
  | _ => spell k name

/-- the mark behind a name -/
def markOf (m : Marks) (s : FileStatus) : OctetText :=
  match m, s.kind with
  | .none, _ => ""
  | _, .directory => "/"
  | .directories, _ => ""
  | _, .link => "@"
  | _, .queue => "|"
  | .all, .file => if Mode.isExecutable s.mode then "*" else ""
  | _, _ => ""

/-- the octets of storage that a file takes, in blocks of 1024 -/
def blocksOf (s : FileStatus) : Nat :=
  match s.kind with
  | .file => (s.size + 4095) / 4096 * 4
  | .directory => 4
  | _ => 0

/-- a size with a unit, rounded up -/
def readableSize (n : Nat) : OctetText :=
  let rec go : (fuel : Nat) → List Char → (unit : Nat) → OctetText
    | 0, _, _ => toString n
    | _ + 1, [], _ => toString n
    | fuel + 1, letter :: letters, unit =>
      let tenths := (n * 10 + unit - 1) / unit
      if tenths < 100 then
        toString (tenths / 10) ++ "." ++ toString (tenths % 10) ++ String.ofList [letter]
      else if (n + unit - 1) / unit < 1024 then
        toString ((n + unit - 1) / unit) ++ String.ofList [letter]
      else go fuel letters (unit * 1024)
  if n < 1024 then toString n else go 8 ['K', 'M', 'G', 'T', 'P', 'E'] 1024

def sizeText (k : Style) (s : FileStatus) : OctetText :=
  if k.readable then readableSize s.size else toString s.size

def blocksText (k : Style) (blocks : Nat) : OctetText :=
  if k.readable then (if blocks = 0 then "0" else readableSize (blocks * 1024)) else toString blocks

/-- the letter of a kind -/
def kindLetter (kind : FileKind) : OctetText :=
  match kind with
  | .file => "-"
  | .directory => "d"
  | .link => "l"
  | .device => "c"
  | .queue => "p"

/-- when a file was changed; long ago the year takes the place of the time of day -/
def timeText (k : Style) (now : Int) (s : FileStatus) : OctetText :=
  let halfYear : Int := 31556952 / 2 * Clock.nanosPerSecond
  formatTime k.zone s.modified
    (if now - halfYear < s.modified && s.modified ≤ now then k.times.2 else k.times.1)

/-- a text with blanks before it -/
def padBefore (width : Nat) (text : OctetText) : OctetText :=
  String.ofList (List.replicate (width - text.length) ' ') ++ text

/-- the greatest length of some texts -/
def widest (texts : List OctetText) : Nat :=
  texts.foldl (fun n t => if n < t.length then t.length else n) 0

/-- the colour of a file, as numbers for the screen -/
def colorOf (i : Item) : Option OctetText :=
  let has (bits : Nat) : Bool := i.status.mode &&& bits == bits
  match i.status.kind with
  | .directory =>
    some (if has 0o1002 then "30;42" else if has 0o2 then "34;42"
      else if has 0o1000 then "37;44" else "01;34")
  | .link => some "01;36"
  | .queue => some "33"
  | .device => some "01;33"
  | .file =>
    if has 0o4000 then some "37;41" else if has 0o2000 then some "30;43"
    else if Mode.isExecutable i.status.mode then some "01;32" else none

/-- a name with its colour -/
def paint (k : Style) (i : Item) (text : OctetText) : OctetText :=
  match if k.colored then colorOf i else none with
  | some color => "\x1b[" ++ color ++ "m" ++ text ++ "\x1b[0m"
  | none => text

/-- what stands before names: numbers and sizes, as wide as those of all items -/
structure Before where
  number : Nat
  blocks : Nat

/-- the number of a file as it is shown -/
def numberText (i : Item) : OctetText := if i.isUnknown then "?" else toString i.status.id

/-- the storage of a file as it is shown -/
def storageText (k : Style) (i : Item) : OctetText :=
  if i.isUnknown then "?" else blocksText k (blocksOf i.status)

def Before.ofItems (k : Style) (items : List Item) : Before :=
  ⟨widest (items.map numberText), widest (items.map (storageText k))⟩

def frills (k : Style) (b : Before) (i : Item) : OctetText :=
  (if k.numbers then padBefore b.number (numberText i) ++ " " else "")
    ++ (if k.sizes then padBefore b.blocks (storageText k i) ++ " " else "")

/-- a name with what stands around it -/
def cell (k : Style) (b : Before) (i : Item) : OctetText :=
  frills k b i ++ paint k i (spell k i.name) ++ markOf k.marks i.status

/-- how wide a name is with what stands around it -/
def cellWidth (k : Style) (b : Before) (i : Item) : Nat :=
  (cell { k with colored := false } b i).length

/-! ## arrangements -/

/-- a line of the long arrangement -/
def longLine (k : Style) (now : Int) (items : List Item) (b : Before) : Item → OctetText :=
  let items := items.filter (!·.isUnknown)
  let links := widest (items.map fun i => toString i.status.nameCount)
  let sizes := widest (items.map fun i => sizeText k i.status)
  let party := if k.numeric then "0" else "root"
  let unknown (i : Item) : OctetText :=
    let width := (timeText k now { i.status with modified := 0 }).length
    let mark (width : Nat) : OctetText := padBefore width "?" ++ " "
    let partyMark :=
      "?" ++ String.ofList (List.replicate (if items.isEmpty then 1 else party.length) ' ')
    frills k b i ++ kindLetter i.status.kind ++ "????????? " ++ mark links
      ++ (if k.owner then partyMark else "") ++ (if k.group then partyMark else "")
      ++ mark sizes ++ mark width ++ paint k i (spell k i.name)
  fun i =>
    if i.isUnknown then unknown i else
    let s := i.status
    let arrow := match i.target with
      | some target =>
        " -> " ++ spell k target
          ++ (if k.marks = .none then "" else ((i.behind.map (markOf k.marks)).getD ""))
      | none => ""
    let mark := if i.target.isSome then "" else markOf k.marks s
    frills k b i ++ kindLetter s.kind ++ Mode.letters s.mode ++ " "
      ++ padBefore links (toString s.nameCount) ++ " "
      ++ (if k.owner then party ++ " " else "") ++ (if k.group then party ++ " " else "")
      ++ padBefore sizes (sizeText k s) ++ " " ++ timeText k now s ++ " "
      ++ paint k i (spell k i.name) ++ mark ++ arrow

/-- names behind each other with commas, as many on a line as it takes -/
def commaLines (k : Style) : (position : Nat) → (isFirst : Bool) → List (OctetText × Nat) →
    OctetText
  | _, _, [] => ""
  | position, isFirst, (text, width) :: cells =>
    if isFirst then text ++ commaLines k width false cells
    else if k.width = 0 || position + width + 2 < k.width then
      ", " ++ text ++ commaLines k (position + 2 + width) false cells
    else ",\n" ++ text ++ commaLines k width false cells

/-- how many rows as many cells take in so many columns -/
def rowsFor (count columns : Nat) : Nat := count / columns + (if count % columns = 0 then 0 else 1)

/-- the column of a cell -/
def columnOf (isDown : Bool) (columns rows index : Nat) : Nat :=
  if isDown then index / rows else index % columns

/-- the widths of columns, the last one without a gap behind it; nothing if they do not fit -/
def columnWidths? (isDown : Bool) (limit : Nat) (widths : List Nat) (columns : Nat) :
    Option (List Nat) :=
  let rows := rowsFor widths.length columns
  let start := List.replicate columns 3
  let full := (widths.zipIdx).foldl (fun (acc : List Nat) (w, i) =>
    let column := columnOf isDown columns rows i
    let real := w + (if column + 1 = columns then 0 else 2)
    acc.modify column fun n => if n < real then real else n) start
  if full.foldl (· + ·) 0 < limit then some full else none

/-- blanks from one column to another, tabs where they reach far enough -/
def indent (tabSize : Nat) : (fuel : Nat) → (first last : Nat) → List Char
  | 0, _, _ => []
  | fuel + 1, first, last =>
    if last ≤ first then []
    else if tabSize ≠ 0 && (first + 1) / tabSize < last / tabSize then
      '\t' :: indent tabSize fuel (first + tabSize - first % tabSize) last
    else ' ' :: indent tabSize fuel (first + 1) last

/-- one row: cells with their widths and those of their columns -/
def rowText (tabSize : Nat) : (position : Nat) → (start : Nat) →
    List ((OctetText × Nat) × Nat) → OctetText
  | _, _, [] => ""
  | position, start, ((text, width), columnWidth) :: cells =>
    String.ofList (indent tabSize (start - position + 1) position start) ++ text
      ++ rowText tabSize (start + width) (start + columnWidth) cells

/-- cells in as many columns as fit -/
def columnText (k : Style) (isDown : Bool) (cells : List (OctetText × Nat)) : OctetText :=
  let count := cells.length
  let most := if count < k.width / 3 + 1 then count else k.width / 3 + 1
  let candidates := (List.range most).reverse.map (· + 1)
  let widths := cells.map Prod.snd
  let chosen := candidates.findSome? fun columns =>
    (columnWidths? isDown k.width widths columns).map fun w => (columns, w)
  let (columns, columnWidths) := chosen.getD (1, [widest (cells.map Prod.fst) + 2])
  let rows := rowsFor count columns
  let row (r : Nat) : OctetText :=
    let indices := (List.range columns).filterMap fun c =>
      let i := if isDown then r + c * rows else r * columns + c
      if i < count then some (i, c) else none
    rowText k.tabSize 0 0 (indices.map fun (i, c) =>
      (cells.getD i ("", 0), columnWidths.getD c 0)) ++ "\n"
  String.join ((List.range rows).map row)

/-- items as they are arranged -/
def itemsText (k : Style) (now : Int) (items : List Item) : OctetText :=
  let b := Before.ofItems k items
  let cells := items.map fun i => (cell k b i, cellWidth k b i)
  match k.arrangement with
  | .single => String.join (cells.map fun c => c.1 ++ k.ending)
  | .long => String.join (items.map fun i => longLine k now items b i ++ k.ending)
  | .commas => if items.isEmpty then "" else commaLines k 0 true cells ++ "\n"
  | .down => if items.isEmpty then "" else columnText k true cells
  | .across => if items.isEmpty then "" else columnText k false cells

/-- a text with a return to no colour before the first colour in it -/
def withReset (text : OctetText) : OctetText :=
  match text.splitOn "\x1b[" with
  | [] => text
  | first :: rest => "\x1b[".intercalate (first :: "0m" :: rest)

/-- Writes items as they are arranged.  Before the first colour of all, which `plain` says has not
been written, stands a return to no colour; answers whether it still has not. -/
def writeItems (k : Style) (plain : Bool) (items : List Item) : Work Bool := do
  let now ← ask .now
  let text := itemsText k now items
  if k.colored && plain && items.any (fun i => (colorOf i).isSome) then do
    put (withReset text)
    pure false
  else do
    put text
    pure plain

/-! ## order -/

/-- the ending of a name, from its last point on -/
def endingOf (name : OctetText) : List Char :=
  let ending := name.toList.reverse.takeWhile (· != '.')
  if ending.length = name.length then [] else '.' :: ending.reverse

/-- whether an item is a directory, links followed -/
def isFolder (i : Item) : Bool :=
  i.status.kind = .directory || (i.behind.map (·.kind)) == some .directory

def compareItems (k : Style) (a b : Item) : Ordering :=
  let names := compareOctets a.name.toList b.name.toList
  let first : Ordering := match k.ordering with
    | .bySize => compareNat b.status.size a.status.size
    | .byTime =>
      if b.status.modified < a.status.modified then .lt
      else if a.status.modified < b.status.modified then .gt else .eq
    | .byEnding => compareOctets (endingOf a.name) (endingOf b.name)
    | .byVersion => compareVersions a.name.toList b.name.toList
    | .byWidth => compareNat a.name.length b.name.length
    | _ => .eq
  let order := if first == .eq then names else first
  if k.reversed then order.swap else order

def sortItems (k : Style) (items : List Item) : List Item :=
  if k.ordering = .unsorted then items
  else
    let sorted := items.mergeSort fun a b => compareItems k a b != .gt
    if k.directoriesFirst then
      sorted.filter isFolder ++ sorted.filter fun i => !isFolder i
    else sorted

/-! ## reading directories -/

/-- what is known of a path -/
def itemOf (follows : Bool) (name path : OctetText) : Work (Except SystemFault Item) := do
  match ← ask (.status path follows) with
  | .error e => pure (.error e)
  | .ok s =>
    if s.kind = .link then do
      let target := (← ask (.readLink path)).toOption
      let behind := (← ask (.status path true)).toOption
      pure (.ok ⟨name, path, s, target, behind, false⟩)
    else pure (.ok ⟨name, path, s, none, none, false⟩)

/-- whether more than the names of files is asked for -/
def Style.looksCloser (k : Style) : Bool :=
  k.arrangement = .long || k.sizes || k.numbers || k.ordering = .byTime || k.ordering = .bySize
    || k.marks ≠ .none || k.recursive || k.colored || k.directoriesFirst

/-- A name in a directory.  Where links are followed, one that leads nowhere is listed for itself,
as unknown if more is asked for. -/
def innerItem? (k : Style) (name path : OctetText) : Work (Option Item) := do
  match ← itemOf k.followsAll name path with
  | .ok item => pure (some item)
  | .error e => do
    if k.looksCloser then
      warn ("cannot access " ++ shellQuoted path ++ ": " ++ faultText e)
    let status : FileStatus := match ← ask (.status path false) with
      | .error _ => ⟨0, .file, 0, 0, 0, 0⟩
      | .ok s => { s with size := 0, modified := 0 }
    pure (some ⟨name, path, status, none, none, true⟩)

def matchesName (pattern name : OctetText) : Bool :=
  let marked := pattern.toList.map fun c => (c, false)
  let hidesDot := name.startsWith "." && !pattern.startsWith "."
  !hidesDot && (Script.Pattern.ofMarked marked).matchesText name.toList

/-- whether a name is listed -/
def isListed (k : Style) (name : OctetText) : Bool :=
  (0 < k.hidden || !name.startsWith ".") && (k.backups || !name.endsWith "~")
    && !k.ignored.any fun pattern => matchesName pattern name

/-- the items of a directory -/
def itemsIn (k : Style) (directory : OctetText) (names : List OctetText) : Work (List Item) := do
  let names := (if k.hidden = 2 then [".", ".."] else []) ++ names
  let found ← (names.filter (isListed k)).mapM fun name =>
    innerItem? k name (joinPath directory name)
  pure (sortItems k (found.filterMap id))

/-- Lists directories one behind the other; with `recursive` those in a directory follow it.  The
flags say whether a heading stands before each, whether something stands before the first, and
whether no colour has been written. -/
def listDirectories (k : Style) : (fuel : Nat) → (headings isBehind plain : Bool) →
    List (OctetText × Bool) → Work Unit
  | 0, _, _, _, _ => pure ()
  | _ + 1, _, _, _, [] => pure ()
  | fuel + 1, headings, isBehind, plain, (path, isOperand) :: paths => do
    match ← ask (.names path) with
    | .error e => do
      warnWith (if isOperand then 2 else 1)
        ("cannot open directory " ++ shellQuoted path ++ ": " ++ faultText e)
      listDirectories k fuel headings isBehind plain paths
    | .ok names => do
      if headings then
        put ((if isBehind then "\n" else "") ++ spellHeading k path ++ ":\n")
      let items ← itemsIn k path names
      if k.arrangement = .long || k.sizes then
        let total := items.foldl (fun n i => n + if i.isUnknown then 0 else blocksOf i.status) 0
        put ("total " ++ blocksText k total ++ k.ending)
      let plain ← writeItems k plain items
      let inner := if k.recursive then
          (items.filter fun i => i.status.kind = .directory && i.name != "." && i.name != "..").map
            fun i => (i.path, false)
        else []
      listDirectories k fuel headings true plain (inner ++ paths)

/-! ## arguments -/

def options : OptionTable where
  letters := "abcdfghiklmnopqrstuvw:xABCDFGHI:LNQRST:UXZ1"
  names := [("all", .nothing, "a"), ("almost-all", .nothing, "A"), ("author", .nothing, "author"),
    ("block-size", .value, "block-size"), ("classify", .maybe, "F"), ("color", .maybe, "color"),
    ("dereference", .nothing, "L"), ("dereference-command-line", .nothing, "H"),
    ("directory", .nothing, "d"), ("escape", .nothing, "b"), ("file-type", .nothing, "file-type"),
    ("format", .value, "format"), ("full-time", .nothing, "full-time"),
    ("group-directories-first", .nothing, "group-directories-first"),
    ("hide", .value, "hide"), ("hyperlink", .maybe, "hyperlink"), ("hide-control-chars", .nothing, "q"),
    ("human-readable", .nothing, "h"), ("ignore", .value, "I"),
    ("ignore-backups", .nothing, "B"), ("indicator-style", .value, "indicator"),
    ("inode", .nothing, "i"), ("kibibytes", .nothing, "k"), ("literal", .nothing, "N"),
    ("no-group", .nothing, "G"), ("numeric-uid-gid", .nothing, "n"),
    ("quote-name", .nothing, "Q"), ("quoting-style", .value, "style"),
    ("recursive", .nothing, "R"), ("reverse", .nothing, "r"),
    ("show-control-chars", .nothing, "N"), ("si", .nothing, "si"), ("size", .nothing, "s"),
    ("sort", .value, "sort"), ("tabsize", .value, "T"), ("time", .value, "time"),
    ("time-style", .value, "time-style"), ("width", .value, "w"), ("zero", .nothing, "zero")]
  strict := false

/-- a number that an option takes, or the end of the utility -/
def numberOf (a : Arguments) (option what : OctetText) (default : Nat) : Work Nat := do
  match a.value? option with
  | none => pure default
  | some text =>
    match decimal? text with
    | some n => pure n
    | none => failWith 2 ("invalid " ++ what ++ ": " ++ quoted text)

/-- screens that show colours -/
def colorScreens : List OctetText :=
  ["Eterm", "ansi", "*color*", "con[0-9]*x[0-9]*", "cons25", "console", "cygwin", "*direct*",
    "dtterm", "gnome", "hurd", "jfbterm", "konsole", "kterm", "linux", "linux-c", "mlterm",
    "putty", "rxvt*", "screen*", "st", "terminator", "tmux*", "vt100", "xterm*"]

/-- whether variables say that colours can be shown -/
def showsColors (vars : Variables) : Bool :=
  let told (name : OctetText) : OctetText := (vars.lookup name).getD ""
  !(told "LS_COLORS").isEmpty || !(told "COLORTERM").isEmpty
    || colorScreens.any fun p => (Script.Pattern.ofGlob p.toList).matchesText (told "TERM").toList

/-- options whose value is one of some words: what they are called, and the words -/
def wordOptions : List (OctetText × OctetText × List (List OctetText)) :=
  [("sort", "--sort", [["none"], ["time"], ["size"], ["extension"], ["version"], ["width"]]),
    ("color", "--color",
      [["always", "yes", "force"], ["never", "no", "none"], ["auto", "tty", "if-tty"]]),
    ("F", "--classify",
      [["always", "yes", "force"], ["never", "no", "none"], ["auto", "tty", "if-tty"]]),
    ("hyperlink", "--hyperlink",
      [["always", "yes", "force"], ["never", "no", "none"], ["auto", "tty", "if-tty"]]),
    ("format", "--format", [["verbose", "long"], ["commas"], ["horizontal", "across"],
      ["vertical"], ["single-column"]]),
    ("time", "--time", [["atime", "access", "use"], ["ctime", "status"],
      ["mtime", "modification"], ["birth", "creation"]]),
    ("indicator", "--indicator-style", [["none"], ["slash"], ["file-type"], ["classify"]]),
    ("style", "--quoting-style", [["literal"], ["shell"], ["shell-always"], ["shell-escape"],
      ["shell-escape-always"], ["c"], ["c-maybe"], ["escape"], ["locale"], ["clocale"]])]

/-- the same options with their words in full -/
def withWords (a : Arguments) : Work Arguments := do
  let options ← a.options.mapM fun (option, value?) => do
    match wordOptions.find? (·.1 == option), value? with
    | some (_, purpose, groups), some word => do
      return (option, some (← chooseWord purpose groups word))
    | _, _ => return (option, value?)
  return { a with options := options }

def usualTimes : OctetText × OctetText := ("%b %e  %Y", "%b %e %H:%M")

/-- the formats of times that a style stands for, those long ago first -/
def timesOf (style : OctetText) : Work (OctetText × OctetText) := do
  match style.toList with
  | '+' :: format =>
    match (String.ofList format).splitOn "\n" with
    | [old, new] => pure (old, new)
    | [format] => pure (format, format)
    | _ => failWith 2 ("invalid time style format " ++ quoted (String.ofList format))
  | _ =>
    if style.startsWith "posix-" then pure usualTimes
    else
      let names := ["full-iso", "long-iso", "iso", "locale"]
      let fitting := names.filter (·.startsWith style)
      match names.find? (· == style) <|> (if fitting.length = 1 then fitting.head? else none) with
      | some "full-iso" => pure ("%Y-%m-%d %H:%M:%S.%N %z", "%Y-%m-%d %H:%M:%S.%N %z")
      | some "long-iso" => pure ("%Y-%m-%d %H:%M", "%Y-%m-%d %H:%M")
      | some "iso" => pure ("%Y-%m-%d ", "%m-%d %H:%M")
      | some _ => pure usualTimes
      | none => do
        note ((if fitting.isEmpty then "invalid" else "ambiguous") ++ " argument " ++ quoted style
          ++ " for 'time style'")
        putMessage "Valid arguments are:\n"
        names.forM fun name => putMessage ("  - [posix-]" ++ name ++ "\n")
        putMessage "  - +FORMAT (e.g., +%H:%M) for a 'date'-style format\n"
        putMessage ("Try '" ++ (← get).name ++ " --help' for more information.\n")
        stop 2

/-- the style of times that options or variables ask for -/
def timeStyleOf (a : Arguments) (vars : Variables) : OctetText :=
  let given := a.options.filterMap fun (option, value?) =>
    if option == "full-time" then some "full-iso"
    else if option == "time-style" then value? else none
  given.getLast?.getD ((vars.lookup "TIME_STYLE").getD "locale")

/-- lists operands: files first, then directories -/
def list (args : List OctetText) (before : List OctetText) : Work Unit := do
  let a ← readArguments options 2 (before ++ args)
  let a ← withWords a
  let vars := (← get).vars
  let width ← numberOf a "w" "line width" 80
  let tabSize ← numberOf a "T" "tab size" 8
  let times ← if Style.arrangementOf a = .long then timesOf (timeStyleOf a vars)
    else pure usualTimes
  let k := Style.ofArguments a (width, tabSize) times (zoneOf vars)
  let k := { k with colored := k.colored && showsColors vars }
  let paths := if a.operands.isEmpty then ["."] else a.operands
  let found ← paths.mapM fun path => do
    let item ← match ← itemOf k.followsOperands path path with
      | .error .notFound =>
        if k.followsAll then pure (.error .notFound) else itemOf false path path
      | r => pure r
    match item with
    | .ok item =>
      let isLink := item.status.kind = .directory
        && ((← ask (.status path false)).toOption.map (·.kind)) == some .link
      if isLink && !k.followsAll && !a.has "H" && k.arrangement = .long then
        itemOf false path path
      else pure (.ok item)
    | .error e => do
      warnWith 2 ("cannot access " ++ shellQuoted path ++ ": " ++ faultText e)
      pure (.error e)
  let items := sortItems k (found.filterMap Except.toOption)
  let isDirectory (i : Item) : Bool := !k.plain && i.status.kind = .directory
  let files := items.filter fun i => !isDirectory i
  let plain ← writeItems k true files
  let directories := items.filter isDirectory
  let headings := k.recursive || 1 < paths.length
  listDirectories k (Nat.pow 2 32) headings (!files.isEmpty) plain
    (directories.map fun i => (i.path, true))

end Listing

def ls (args : List OctetText) : Work Unit := Listing.list args []

def dir (args : List OctetText) : Work Unit := Listing.list args ["-C", "-b"]

def vdir (args : List OctetText) : Work Unit := Listing.list args ["-l", "-b"]

end ShellWorkers.Utility
