import ShellWorkers.Regex.Reader
import ShellWorkers.Text.Directive
import ShellWorkers.Utility.Amounts

/-!
# Files cut into pieces

Pieces of a size, and sections that end at chosen lines.
-/

/-!
## Files cut into pieces

`split` writes a text to several files: so many lines or octets to each, or in so many pieces
altogether.  The names of the files are counted through.

* `Cut`             how a text is cut;
* `Cut.pieces`      the pieces of a text;
* `Names.next?`     the name behind another one.
-/

namespace ShellWorkers.Utility

open Machine
open Text (OctetText)

namespace Pieces

/-! ### cutting -/

/-- how a text is cut into as many pieces as are asked for -/
inductive Share where
  /-- into equal numbers of octets; what is left over goes to the last piece -/
  | octets
  /-- the same, but a line goes to the piece in which it begins -/
  | lines
  /-- line by line in turn -/
  | turns

inductive Cut where
  | lines (count : Nat)
  | octets (count : Nat)
  /-- whole lines, and no more than so many octets unless a line is longer -/
  | wholeLines (count : Nat)
  /-- so many pieces; only one of them if it is asked for -/
  | shares (share : Share) (count : Nat) (only : Option Nat)

/-- a list in pieces of a size; the fuel is at least its length -/
def inPieces {α : Type} (size : Nat) : (fuel : Nat) → List α → List (List α)
  | 0, _ => []
  | _ + 1, [] => []
  | fuel + 1, xs => xs.take size :: inPieces size fuel (xs.drop size)

/-- a text in pieces of whole lines of at most so many octets -/
def linePieces (size : Nat) (ending : Char) : (fuel : Nat) → List Char → List (List Char)
  | 0, _ => []
  | _ + 1, [] => []
  | fuel + 1, cs =>
    let window := cs.take size
    let piece :=
      if cs.length < size then cs
      else
        let behind := (window.reverse.takeWhile (· != ending)).length
        if behind = window.length then window else window.take (window.length - behind)
    piece :: linePieces size ending fuel (cs.drop piece.length)

/-- the lines of a text with their ends -/
def linesWith (ending : Char) (cs : List Char) : List (List Char) :=
  let parts := (String.ofList cs).splitOn (String.ofList [ending])
  let last := parts.getLast?.getD ""
  (parts.dropLast.map fun p => p.toList ++ [ending])
    ++ (if last.isEmpty then [] else [last.toList])

/-- the lines with the numbers of the pieces in which they begin -/
def placedLines (size count : Nat) : (offset : Nat) → List (List Char) → List (Nat × List Char)
  | _, [] => []
  | offset, line :: lines =>
    let piece := offset / size
    (if piece < count then piece else count - 1, line)
      :: placedLines size count (offset + line.length) lines

/-- what goes to a piece -/
def collect (number : Nat) (placed : List (Nat × List Char)) : List Char :=
  (placed.filter (·.1 = number)).flatMap Prod.snd

/-- a text in as many pieces as are asked for -/
def sharesOf (share : Share) (count : Nat) (ending : Char) (cs : List Char) : List (List Char) :=
  let total := if cs.length < count then count else cs.length
  let size := total / count
  match share with
  | .octets => (List.range count).map fun i =>
    let rest := cs.drop (i * size)
    if i + 1 = count then rest else rest.take size
  | .lines =>
    let placed := placedLines size count 0 (linesWith ending cs)
    (List.range count).map (collect · placed)
  | .turns =>
    let lines := linesWith ending cs
    let placed := ((List.range lines.length).map (· % count)).zip lines
    (List.range count).map (collect · placed)

/-- the pieces of a text -/
def Cut.pieces (k : Cut) (ending : Char) (cs : List Char) : List (List Char) :=
  match k with
  | .lines count => (inPieces count (cs.length + 1) (linesWith ending cs)).map List.flatten
  | .octets count => inPieces count (cs.length + 1) cs
  | .wholeLines count => linePieces count ending (cs.length + 1) cs
  | .shares share count _ => sharesOf share count ending cs

/-! ### names -/

/-- names with a counted part -/
structure Names where
  alphabet : String
  /-- the counted part grows when it begins with the last letter -/
  grows : Bool
  before : OctetText
  /-- the counted part by places in the alphabet, the last one first -/
  digits : List Nat
  behind : OctetText

namespace Names

def text (n : Names) : OctetText :=
  n.before ++ String.ofList (n.digits.reverse.map fun d => n.alphabet.toList.getD d '?') ++ n.behind

/-- the digits behind others; nothing when all were the greatest -/
def increased (base : Nat) : List Nat → Option (List Nat)
  | [] => none
  | d :: ds => if d + 1 < base then some ((d + 1) :: ds) else (increased base ds).map (0 :: ·)

/-- the name behind another one -/
def next? (n : Names) : Option Names := do
  let base := n.alphabet.length
  let digits ← increased base n.digits
  if n.grows && digits.getLast? == some (base - 1) then
    let last := String.ofList [n.alphabet.toList.getD (base - 1) '?']
    some { n with before := n.before ++ last, digits := List.replicate (digits.length + 1) 0 }
  else some { n with digits := digits }

/-- how many digits a number has -/
def digitCount (base : Nat) : (fuel : Nat) → Nat → Nat
  | 0, _ => 1
  | fuel + 1, n => if n < base then 1 else 1 + digitCount base fuel (n / base)

end Names

/-! ### arguments -/

def options : OptionTable where
  letters := "0123456789C:a:b:del:n:t:ux"
  names := [("bytes", .value, "b"), ("lines", .value, "l"), ("line-bytes", .value, "C"),
    ("number", .value, "n"), ("elide-empty-files", .nothing, "e"), ("unbuffered", .nothing, "u"),
    ("suffix-length", .value, "a"), ("additional-suffix", .value, "behind"),
    ("numeric-suffixes", .maybe, "d"), ("hex-suffixes", .maybe, "x"), ("filter", .value, "filter"),
    ("verbose", .nothing, "verbose"), ("separator", .value, "t")]
  strict := false

/-- an amount of at least one -/
def positiveAmount (what units text : OctetText) : Work Nat := do
  let n ← amountOrFail what units text
  if n = 0 then fail (what ++ ": " ++ quoted text) else pure n

/-- a number of pieces, or a piece of them -/
def sharesOption (text : OctetText) : Work Cut := do
  let (share, rest) := match text.toList with
    | 'l' :: '/' :: cs => (Share.lines, cs)
    | 'r' :: '/' :: cs => (.turns, cs)
    | cs => (.octets, cs)
  let first := rest.takeWhile (· != '/')
  let number (what : OctetText) (cs : List Char) : Work Nat :=
    positiveAmount ("invalid " ++ what) "" (String.ofList cs)
  match rest.drop first.length with
  | [] => return .shares share (← number "number of chunks" first) none
  | _ :: second => do
    let count ← number "number of chunks" second
    let only ← number "chunk number" first
    if count < only then
      fail ("invalid chunk number: " ++ quoted (String.ofList first))
    pure (.shares share count (some (only - 1)))

/-- how the options say to cut; they can say it once -/
def cutOf (a : Arguments) : Work Cut := do
  let isDigit (o : OctetText) : Bool := o.length == 1 && o.all Char.isDigit
  let ways := a.options.filter fun o => ["b", "l", "C", "n"].contains o.1
  let digits := String.join ((a.options.map Prod.fst).filter isDigit)
  match ways, digits.isEmpty with
  | [], true => pure (.lines 1000)
  | [], false =>
    match decimal? digits with
    | some 0 => misused 1 ("invalid number of lines: " ++ quoted "0")
    | n => pure (.lines (n.getD 1000))
  | [(option, value)], true => do
    let text := value.getD ""
    match option with
    | "b" => .octets <$> positiveAmount "invalid number of bytes" streamUnits text
    | "C" => .wholeLines <$> positiveAmount "invalid number of bytes" streamUnits text
    | "l" => .lines <$> positiveAmount "invalid number of lines" "" text
    | _ => sharesOption text
  | _, _ => misused 1 "cannot split in more than one way"

/-- the character behind lines -/
def endingOf (a : Arguments) : Work Char := do
  match a.value? "t" with
  | none => pure '\n'
  | some text =>
    match text.toList with
    | [] => fail "empty record separator"
    | [c] => pure c
    | ['\\', '0'] => pure '\x00'
    | _ => fail ("multi-character separator " ++ quoted text)

/-- the names that the options ask for, from the first one on -/
def namesOf (a : Arguments) (k : Cut) (before : OctetText) : Work Names := do
  let behind := (a.value? "behind").getD ""
  if behind.contains '/' then
    misused 1 ("invalid suffix " ++ quoted behind ++ ", contains directory separator")
  let form := (a.options.filter fun o => o.1 = "d" || o.1 = "x").getLast?
  let alphabet := match form with
    | some ("d", _) => "0123456789"
    | some _ => "0123456789abcdef"
    | none => "abcdefghijklmnopqrstuvwxyz"
  let start := (form.bind Prod.snd).getD ""
  let known := alphabet.toList
  if !start.toList.all known.contains then
    misused 1 (quoted start ++ ": invalid start value for "
      ++ (if alphabet.length = 10 then "numerical" else "hexadecimal") ++ " suffix")
  let needed := match k with
    | .shares _ count _ => Names.digitCount alphabet.length 64
      (count - 1 + (match decimal? start with
        | some n => if n < count then n else 0
        | none => 0))
    | _ => 0
  let given ← (a.value? "a").mapM (amountOrFail "invalid suffix length" "")
  let length ← match given with
    | some n =>
      if n ≠ 0 && n < needed then
        fail ("the suffix length needs to be at least " ++ toString needed)
      else pure (if n = 0 then (if needed < 2 then 2 else needed) else n)
    | none => pure (if needed < 2 then 2 else needed)
  if length < start.length then
    misused 1 "numerical suffix start value is too large for the suffix length"
  let first := start.toList.reverse.map fun c => (known.findIdx? (· == c)).getD 0
  pure ⟨alphabet, needed = 0 && (given.getD 0) = 0 && start.isEmpty, before,
    first ++ List.replicate (length - start.length) 0, behind⟩

/-! ### writing -/

/-- writes pieces to files with names in order -/
def writePieces (verbose : Bool) : Option Names → List (List Char) → Work Unit
  | _, [] => pure ()
  | none, _ => fail "output file suffixes exhausted"
  | some n, piece :: pieces => do
    let path := n.text
    if verbose then
      putLine ("creating file " ++ shellQuoted path)
      flush
    match ← ask (.openFile path .write openPermissions) with
    | .error e => fail (named path ++ ": " ++ faultText e)
    | .ok fd => do
      let written ← if piece.isEmpty then pure (.ok ())
        else (·.map fun _ => ()) <$> ask (.write fd (String.ofList piece))
      closeFile fd
      match written with
      | .error e => fail (named path ++ ": " ++ faultText e)
      | .ok _ => writePieces verbose n.next? pieces

end Pieces

open Pieces in
def split (args : List OctetText) : Work Unit := do
  let a ← readArguments Pieces.options 1 args
  let k ← cutOf a
  let ending ← endingOf a
  match a.operands with
  | _ :: _ :: extra :: _ => extraOperand extra
  | _ => pure ()
  let names ← namesOf a k ((a.operands[1]?).getD "x")
  let path := a.operands.head?.getD "-"
  match ← openOperand path with
  | .error e => fail ("cannot open " ++ shellQuoted path ++ " for reading: " ++ faultText e)
  | .ok fd => do
    match ← readAll fd with
    | .error e => fail (named path ++ ": " ++ faultText e)
    | .ok text => do
      closeOperand path fd
      let pieces := k.pieces ending text.toList
      match k with
      | .shares _ _ (some only) => put (String.ofList (pieces.getD only []))
      | _ =>
        let pieces := if a.has "e" then pieces.filter (!·.isEmpty) else pieces
        writePieces (a.has "verbose") (some names) pieces

end ShellWorkers.Utility

/-!
## Files cut at lines

`csplit` cuts a file where a line has a number or is described by an expression.  What is before
such a place becomes a section, a file of its own, or is left out.  Sections are numbered through;
when something goes wrong, they are removed again.

* `Section`               where a section ends, and how often;
* `NumberForm.read`       how the numbers of sections are written;
* `Sectioning.toLine`     cuts at the number of a line;
* `Sectioning.toMatch`    cuts at a line that is described.
-/

namespace ShellWorkers.Utility

open Machine
open Text (OctetText Directive)

/-- the end of a section -/
inductive SectionEnd where
  | line (number : Nat)
  /-- so many lines from the one that is described; what is before may be left out -/
  | found (regex : Regex) (isSkipped : Bool) (offset : Int)

/-- an argument that says where sections end -/
structure Section where
  stop : SectionEnd
  /-- the argument -/
  text : OctetText
  /-- how often it holds again, if that has a bound -/
  again : Option Nat

/-! ### numbers in names -/

/-- how the number of a section is written: a directive between two texts -/
structure NumberForm where
  before : List Char
  directive : Directive
  behind : List Char

namespace NumberForm

/-- at least so many digits -/
def ofDigits (count : Nat) : NumberForm :=
  ⟨[], { Directive.plain 'u' with zeros := true, width := count }, []⟩

def text (f : NumberForm) (n : Nat) : OctetText :=
  String.ofList (f.before ++ f.directive.natural n ++ f.behind)

/-- the conversion behind flags, a width and a precision -/
def conversion (flags : List Char) : List Char → Except OctetText Char
  | [] => .error "missing conversion specifier in suffix"
  | c :: _ => do
    let (kind, refused) ←
      if ['d', 'i', 'u'].contains c then pure ('u', '#')
      else if ['o', 'x', 'X'].contains c then pure (c, '\'')
      else if 32 ≤ c.toNat && c.toNat < 127 then
        .error ("invalid conversion specifier in suffix: " ++ String.ofList [c])
      else
        let ds := Nat.toDigits 8 c.toNat
        .error ("invalid conversion specifier in suffix: \\"
          ++ String.ofList (List.replicate (3 - ds.length) '0' ++ ds))
    if flags.contains refused then
      .error ("invalid flags in conversion specification: %" ++ String.ofList [refused, c])
    else pure kind

/-- the directive that a text begins with, behind its mark, and the rest -/
def directive? (cs : List Char) : Except OctetText (Directive × List Char) := do
  let flags := cs.takeWhile fun c => ['-', '0', '\'', '#'].contains c
  let cs := cs.drop flags.length
  let width := cs.takeWhile Char.isDigit
  let cs := cs.drop width.length
  let (precision, cs) := match cs with
    | '.' :: cs =>
      let ds := cs.takeWhile Char.isDigit
      (some (digitsValue ds), cs.drop ds.length)
    | cs => (none, cs)
  let kind ← conversion flags cs
  let d := { Directive.plain kind with
    left := flags.contains '-', zeros := flags.contains '0', alternate := flags.contains '#'
    width := digitsValue width, precision }
  pure (d, cs.drop 1)

/-- reads a text with one directive; the fuel is more than its length, and `before` has been read,
last first -/
def readFrom (found : Option (List Char × Directive)) (before : List Char) :
    (fuel : Nat) → List Char → Except OctetText NumberForm
  | 0, _ => .error "missing % conversion specification in suffix"
  | _ + 1, [] =>
    match found with
    | none => .error "missing % conversion specification in suffix"
    | some (start, d) => .ok ⟨start, d, before.reverse⟩
  | fuel + 1, '%' :: '%' :: cs => readFrom found ('%' :: before) fuel cs
  | fuel + 1, '%' :: cs =>
    if found.isSome then .error "too many % conversion specifications in suffix"
    else
      match directive? cs with
      | .error message => .error message
      | .ok (d, rest) => readFrom (some (before.reverse, d)) [] fuel rest
  | fuel + 1, c :: cs => readFrom found (c :: before) fuel cs

def read (text : OctetText) : Except OctetText NumberForm :=
  readFrom none [] (text.length + 1) text.toList

end NumberForm

/-! ### arguments -/

/-- an expression between two marks, and an offset behind it -/
def readFound (text : OctetText) (mark : Char) (cs : List Char) : Work SectionEnd := do
  let behind := (cs.reverse.takeWhile (· != mark)).length
  if behind = cs.length then
    fail (text ++ ": closing delimiter '" ++ String.ofList [mark] ++ "' missing")
  let inner := cs.take (cs.length - behind - 1)
  let d : Regex.Dialect := { Regex.Dialect.basic with strict := false, emptyRanges := true }
  match Regex.read d inner with
  | .error fault => fail (quoted text ++ ": invalid regular expression: " ++ fault.message)
  | .ok r =>
    let offset := String.ofList (cs.drop (cs.length - behind))
    if offset.isEmpty then pure (.found r.regex (mark == '%') 0)
    else
      match wholeNumber? offset with
      | .ok n => pure (.found r.regex (mark == '%') n)
      | .error _ => fail (quoted text ++ ": integer expected after delimiter")

/-- how often a section comes again, between braces -/
def readAgain (text : OctetText) : Work (Option Nat) := do
  let inner := (text.toList.drop 1).dropLast
  if text.toList.getLast? != some '}' then
    fail (quoted text ++ ": '\x7d' is required in repeat count")
  if inner = ['*'] then pure none
  else
    match amount? "" (String.ofList inner) with
    | .ok n => if n ≤ integerLimit then pure (some n) else unknown
    | .error _ => unknown
where
  unknown : Work (Option Nat) :=
    fail (quoted (String.ofList text.toList.dropLast)
      ++ "\x7d: integer required between '\x7b' and '\x7d'")

/-- the sections that arguments describe; `last` is the line at which one has ended -/
def readSections : (last : Nat) → List OctetText → Work (List Section)
  | _, [] => pure []
  | last, text :: rest => do
    let (stop, last) ← match text.toList with
      | '/' :: cs => (·, last) <$> readFound text '/' cs
      | '%' :: cs => (·, last) <$> readFound text '%' cs
      | _ =>
        match amount? "" text with
        | .error _ => fail (quoted text ++ ": invalid pattern")
        | .ok n => do
          if integerLimit < n then fail (quoted text ++ ": invalid pattern")
          if n = 0 then fail (text ++ ": line number must be greater than zero")
          if n < last then
            fail ("line number " ++ quoted text ++ " is smaller than preceding line number, "
              ++ toString last)
          if n = last then
            note ("warning: line number " ++ quoted text
              ++ " is the same as preceding line number")
          pure (.line n, n)
    match rest with
    | count :: others =>
      if count.startsWith "\x7b" then do
        let again ← readAgain count
        (⟨stop, text, again⟩ :: ·) <$> readSections last others
      else (⟨stop, text, some 0⟩ :: ·) <$> readSections last (count :: others)
    | [] => pure [⟨stop, text, some 0⟩]

/-! ### cutting -/

/-- what stays the same while a file is cut -/
structure SectionPlan where
  path : Nat → OctetText
  keeps : Bool
  quiet : Bool
  /-- sections of no lines are left out -/
  elides : Bool
  /-- the line at which a section ends is left out -/
  suppresses : Bool

/-- how far a file has been cut -/
structure SectionState where
  /-- the lines that are left, and the number of the first -/
  rest : List OctetText
  number : Nat := 1
  /-- the number of the line that was looked at last -/
  current : Nat := 0
  made : Nat := 0
  /-- the file of the section that is open: its name and descriptor -/
  output : Option (OctetText × Nat) := none
  /-- the lines of the section, last first -/
  lines : List OctetText := []

/-- actions that cut a file -/
abbrev Sectioning := StateT SectionState Work

namespace Sectioning

/-- the lines that are left from one on -/
def linesFrom (number : Nat) : Sectioning (List OctetText) := do
  let s ← get
  pure (if number < s.number then [] else s.rest.drop (number - s.number))

/-- takes the first line -/
def take : Sectioning (Option OctetText) := do
  let s ← get
  match s.rest with
  | [] => pure none
  | line :: rest => do
    let current := if s.current < s.number then s.number else s.current
    set { s with rest := rest, number := s.number + 1, current := current }
    pure (some line)

/-- a line goes to the section -/
def keep (line : OctetText) : Sectioning Unit :=
  modify fun s => { s with lines := line :: s.lines }

/-- writes the section that is open -/
def close (p : SectionPlan) : Sectioning Unit := do
  let s ← get
  match s.output with
  | none => pure ()
  | some (path, fd) => do
    let text := String.join s.lines.reverse
    set { s with output := none, lines := [] }
    if !text.isEmpty then
      let _ ← (ask (.write fd text) : Work _)
    (closeFile fd : Work Unit)
    if text.isEmpty && p.elides then do
      let _ ← (ask (.remove path) : Work _)
      modify fun s => { s with made := s.made - 1 }
    else if !p.quiet then (putLine (toString text.length) : Work Unit)

/-- removes what has been made, unless it is to be kept, and ends the utility -/
def abandon {α : Type} (p : SectionPlan) : Sectioning α := do
  close p
  if !p.keeps then
    for n in List.range (← get).made do
      let _ ← (ask (.remove (p.path n)) : Work _)
  (stop 1 : Work α)

/-- opens a section -/
def openNext (p : SectionPlan) : Sectioning Unit := do
  let path := p.path (← get).made
  match ← (ask (.openFile path .write openPermissions) : Work _) with
  | .ok fd => modify fun s => { s with made := s.made + 1, output := some (path, fd) }
  | .error e => do
    (note (named path ++ ": " ++ faultText e) : Work Unit)
    abandon p

/-- the number of the first line; a file in which no line is left is no good -/
def firstNumber : Sectioning Nat := do
  let s ← get
  if s.rest.isEmpty then (fail "input disappeared" : Work Nat) else pure s.number

/-- all that is left goes to the section -/
def keepRest : Sectioning Unit :=
  modify fun s => { s with
    rest := [], number := s.number + s.rest.length, lines := s.rest.reverse ++ s.lines }

/-- a complaint about the end of a section, which comes before the sizes that have been written -/
def complain (message : OctetText) (again : Nat) : Work Unit :=
  noteAhead (message ++ (if again = 0 then "" else " on repetition " ++ toString again))

/-- takes so many lines, for the section or to leave them out; whether there were as many -/
def takeLines (isSkipped : Bool) : (count : Nat) → Sectioning Bool
  | 0 => pure true
  | count + 1 => do
    match ← take with
    | none => pure false
    | some line => do
      if !isSkipped then keep line
      takeLines isSkipped count

/-- leaves the line out at which a section has ended, if that is asked for -/
def suppress (p : SectionPlan) : Sectioning Unit := do
  if p.suppresses then
    let _ ← take

/-- cuts before the line of a number -/
def toLine (p : SectionPlan) (number again : Nat) : Sectioning Unit := do
  let missing : Sectioning Unit := do
    (complain (quoted (toString number) ++ ": line number out of range") again : Work Unit)
    abandon p
  let isOver : Sectioning Bool := do
    return (← linesFrom ((← get).current + 1)).isEmpty
  openNext p
  if p.suppresses && (← isOver) then missing
  let first ← firstNumber
  if !(← takeLines false (number * (again + 1) - first)) then missing
  close p
  suppress p
  if !p.suppresses && (← isOver) then missing

/-- looks for a line that is described, from the one behind the last on; lines that are not go to
the section if `takes` says so.  Whether there is one. -/
def seek (regex : Regex) (takes isSkipped : Bool) : (lines : List OctetText) → Sectioning Bool
  | [] => pure false
  | line :: lines => do
    modify fun s => { s with current := s.current + 1 }
    let cs := line.toList
    if regex.isIn (if cs.getLast? == some '\n' then cs.dropLast else cs) then pure true
    else do
      if takes then
        match ← take with
        | some line => if !isSkipped then keep line
        | none => pure ()
      seek regex takes isSkipped lines

/-- cuts at a line that is described; whether there is one -/
def toMatch (p : SectionPlan) (c : Section) (regex : Regex) (isSkipped : Bool) (offset : Int)
    (again : Nat) : Sectioning Bool := do
  if !isSkipped then openNext p
  let lines ← linesFrom ((← get).current + 1)
  if !(← seek regex (0 ≤ offset) isSkipped lines) then do
    if c.again.isSome then (complain (quoted c.text ++ ": match not found") again : Work Unit)
    if !isSkipped then
      keepRest
      close p
    if c.again.isSome then abandon p else pure false
  else do
    let stop := ((← get).current : Int) + offset
    let outOfRange : Sectioning Unit := do
      (note (quoted c.text ++ ": line number out of range") : Work Unit)
      abandon p
    let first ← firstNumber
    if stop < (first : Int) then outOfRange
    if !(← takeLines isSkipped (stop - first).toNat) then outOfRange
    if !isSkipped then close p
    if 0 < offset then modify fun s => { s with current := stop.toNat }
    suppress p
    pure true

/-- cuts at an end as often as it holds; whether the file goes on behind it -/
def toEnd (p : SectionPlan) (c : Section) : (fuel : Nat) → (again : Nat) → Sectioning Bool
  | 0, _ => pure true
  | fuel + 1, again => do
    if c.again.any (· < again) then pure true
    else
      let goesOn ← match c.stop with
        | .line number => do
          toLine p number again
          pure true
        | .found regex isSkipped offset => toMatch p c regex isSkipped offset again
      if goesOn then toEnd p c fuel (again + 1) else pure false

/-- cuts a file at all ends -/
def cutAll (p : SectionPlan) : List Section → Sectioning Unit
  | [] => do
    openNext p
    keepRest
    close p
  | c :: cs => do
    if ← toEnd p c streamFuel 0 then cutAll p cs

end Sectioning

/-! ### the utility -/

def csplitOptions : OptionTable where
  letters := "f:b:kn:sqz"
  names := [("digits", .value, "n"), ("quiet", .nothing, "q"), ("silent", .nothing, "s"),
    ("keep-files", .nothing, "k"), ("elide-empty-files", .nothing, "z"), ("prefix", .value, "f"),
    ("suffix-format", .value, "b"), ("suppress-matched", .nothing, "suppress")]
  strict := false

def csplit (args : List OctetText) : Work Unit := do
  let a ← readArguments csplitOptions 1 args
  let counts ← (a.values "n").mapM (wholeOrFail "invalid number" 0 2147483647)
  match a.operands with
  | [] => missingOperand
  | [path] => missingAfter path
  | path :: texts => do
    let form ← match a.value? "b" with
      | none => pure (NumberForm.ofDigits ((counts.getLast?.map Int.toNat).getD 2))
      | some text =>
        match NumberForm.read text with
        | .ok form => pure form
        | .error message => fail message
    let fd ← match ← openOperand path with
      | .ok fd => pure fd
      | .error e => fail ("cannot open " ++ shellQuoted path ++ " for reading: " ++ faultText e)
    let sections ← readSections 0 texts
    let start := (a.value? "f").getD "xx"
    let p : SectionPlan :=
      { path := fun n => start ++ form.text n
        keeps := a.has "k", quiet := a.has "s" || a.has "q", elides := a.has "z"
        suppresses := a.has "suppress" }
    match ← readAll fd with
    | .ok text =>
      let _ ← StateT.run (Sectioning.cutAll p sections) { rest := linesOf text }
    | .error e => do
      let unread : Sectioning Unit := do
        Sectioning.openNext p
        (note ("read error: " ++ faultText e) : Work Unit)
        Sectioning.abandon p
      let _ ← StateT.run unread { rest := [] }

end ShellWorkers.Utility
