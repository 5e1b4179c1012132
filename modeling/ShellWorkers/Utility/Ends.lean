import ShellWorkers.Utility.Amounts
import ShellWorkers.Utility.Options

/-!
# Ends and counts

Beginnings and ends of streams, and what is counted in them.
-/

/-!
## Beginnings and ends of streams

`head` writes the first lines or octets of its operands, or all but the last ones, and leaves the
others to whoever reads the stream next; `tail` writes the last ones, or all from one on.
-/

namespace ShellWorkers.Utility

open Machine
open Text (OctetText)

/-! ### parts of texts -/

/-- the beginning of a text up to and with its `count`th delimiter, and how many delimiters are
still missing -/
def takeDelimited (delimiter : Char) : (count : Nat) → List Char → List Char × Nat
  | 0, _ => ([], 0)
  | count + 1, [] => ([], count + 1)
  | count + 1, c :: cs =>
    let (text, missing) := takeDelimited delimiter (if c = delimiter then count else count + 1) cs
    (c :: text, missing)

/-- a text cut behind its delimiters -/
def delimited (delimiter : Char) (text : OctetText) : List OctetText :=
  let mark := String.ofList [delimiter]
  let parts := text.splitOn mark
  (parts.dropLast.map (· ++ mark) ++ parts.getLast?.toList).filter (!·.isEmpty)

/-- what is counted -/
structure Counting where
  octets : Bool
  delimiter : Char

/-- a text without its first units -/
def Counting.drop (k : Counting) (count : Nat) (text : OctetText) : OctetText :=
  if k.octets then String.ofList (text.toList.drop count)
  else String.join ((delimited k.delimiter text).drop count)

/-- how many units a text has -/
def Counting.size (k : Counting) (text : OctetText) : Nat :=
  if k.octets then text.length else (delimited k.delimiter text).length

/-- the last units of a text -/
def Counting.last (k : Counting) (count : Nat) (text : OctetText) : OctetText :=
  k.drop (k.size text - count) text

/-- a text without its last units -/
def Counting.dropLast (k : Counting) (count : Nat) (text : OctetText) : OctetText :=
  String.ofList (text.toList.take (text.length - (k.last count text).length))

/-! ### headings -/

/-- the name of an operand in messages to people -/
def streamName (path : OctetText) : OctetText := if path = "-" then "standard input" else path

/-- the heading of a file among several -/
def heading (isFirst : Bool) (path : OctetText) : OctetText :=
  (if isFirst then "" else "\n") ++ "==> " ++ streamName path ++ " <==\n"

/-- what could not be done with a stream, and why -/
abbrev StreamFault := OctetText × SystemFault

/-- a stream cannot be read -/
def cannotRead (e : SystemFault) : Option StreamFault := some ("error reading", e)

/-- does something with each operand in order, under headings if they are asked for -/
def underHeadings (headings : Bool) (body : Nat → Work (Option StreamFault)) :
    (isFirst : Bool) → List OctetText → Work Unit
  | _, [] => pure ()
  | isFirst, path :: paths => do
    match ← openOperand path with
    | .error e => do
      warn ("cannot open " ++ shellQuoted path ++ " for reading: " ++ faultText e)
      underHeadings headings body isFirst paths
    | .ok fd => do
      if headings then put (heading isFirst path)
      match ← body fd with
      | some (what, e) => warn (what ++ " " ++ shellQuoted (streamName path) ++ ": " ++ faultText e)
      | none => pure ()
      closeOperand path fd
      underHeadings headings body false paths

/-- whether headings are asked for -/
def wantsHeadings (a : Arguments) (paths : List OctetText) : Bool :=
  match a.last? ["q", "v"] with
  | some "q" => false
  | some _ => true
  | none => 1 < paths.length

/-! ### head -/

/-- how much is read at once -/
def headPiece : Nat := 8192

/-- writes the first lines of a stream, and leaves the others in it if it can -/
def headLines (delimiter : Char) (fd : Nat) : (fuel count : Nat) → Work (Option StreamFault)
  | 0, _ => pure none
  | fuel + 1, count => do
    if count = 0 then pure none
    else
      match ← ask (.read fd headPiece) with
      | .error e => pure (cannotRead e)
      | .ok text =>
        if text.isEmpty then pure none
        else do
          let (cs, missing) := takeDelimited delimiter count text.toList
          put (String.ofList cs)
          if missing = 0 then
            let _ ← ask (.seek fd ((cs.length : Int) - text.length))
          headLines delimiter fd fuel missing

/-- writes the first octets of a stream -/
def headOctets (fd : Nat) : (fuel count : Nat) → Work (Option StreamFault)
  | 0, _ => pure none
  | fuel + 1, count => do
    if count = 0 then pure none
    else
      match ← ask (.read fd (if count ≤ headPiece then count else headPiece)) with
      | .error e => pure (cannotRead e)
      | .ok text =>
        if text.isEmpty then pure none
        else do
          put text
          headOctets fd fuel (count - text.length)

/-- does something with a stream that is open -/
def whenOpen (fd : Nat) (body : Work (Option StreamFault)) : Work (Option StreamFault) := do
  match ← ask (.statusOpen fd) with
  | .error e => pure (some ("cannot fstat", e))
  | .ok _ => body

/-- writes all of a stream but its last units -/
def headWithout (k : Counting) (count fd : Nat) : Work (Option StreamFault) := whenOpen fd do
  match ← readAll fd with
  | .error e => pure (cannotRead e)
  | .ok text => do
    let first := k.dropLast count text
    put first
    if !k.octets then
      let _ ← ask (.seek fd ((first.length : Int) - text.length))
    pure none

def headOptions : OptionTable where
  letters := "c:n:qvz0123456789"
  names := [("bytes", .value, "c"), ("lines", .value, "n"), ("quiet", .nothing, "q"),
    ("silent", .nothing, "q"), ("verbose", .nothing, "v"), ("zero-terminated", .nothing, "z")]
  strict := false

/-- a first argument that is a number with letters behind it, as the options it stands for;
nothing when a letter is unknown, with the letter -/
def spellNumber (digits letters : List Char) : Except Char (List OctetText) :=
  let units := letters.filter fun c => ['b', 'k', 'm'].contains c
  let counts := letters.filter fun c => ['b', 'c', 'k', 'm', 'l'].contains c
  let isOctets := match counts.getLast? with
    | some 'l' => false
    | some _ => true
    | none => false
  let value := String.ofList (digits ++ (if isOctets then (units.getLast?.toList) else []))
  match letters.find? fun c => !(['b', 'c', 'k', 'm', 'l', 'q', 'v', 'z'].contains c) with
  | some c => .error c
  | none =>
    .ok ((if isOctets then "-c" else "-n") :: value
      :: (letters.filter fun c => ['q', 'v', 'z'].contains c).map fun c => String.ofList ['-', c])

/-- arguments, the first of which may be a number -/
def withNumber (args : List OctetText) : Work (List OctetText) :=
  match args with
  | [] => pure []
  | arg :: rest =>
    match arg.toList with
    | '-' :: c :: cs =>
      if c.isDigit then do
        let digits := (c :: cs).takeWhile Char.isDigit
        match spellNumber digits ((c :: cs).drop digits.length) with
        | .ok spelled => pure (spelled ++ rest)
        | .error c => misused 1 ("invalid trailing option -- " ++ String.ofList [c])
      else pure args
    | _ => pure args

/-- the amount of an option, and whether a sign stands before it -/
def signedAmount (octets : Bool) (sign : Char) (text : OctetText) : Work (Nat × Bool) := do
  let what := "invalid number of " ++ (if octets then "bytes" else "lines")
  match text.toList with
  | c :: cs =>
    if c = sign then return (← amountOrFail what streamUnits (String.ofList cs), true)
    else return (← amountOrFail what streamUnits text, false)
  | [] => return (← amountOrFail what streamUnits text, false)

/-- digits as options are none -/
def refuseDigits (a : Arguments) : Work Unit :=
  match (a.options.map Prod.fst).find? fun o => o.toList.all Char.isDigit with
  | some digit => misused 1 ("invalid trailing option -- " ++ digit)
  | none => pure ()

def head (args : List OctetText) : Work Unit := do
  let a ← readArguments headOptions 1 (← withNumber args)
  refuseDigits a
  let octets := a.last? ["c", "n"] == some "c"
  let (count, without) ← signedAmount octets '-'
    ((a.value? (if octets then "c" else "n")).getD "10")
  let paths := inputOperands a.operands
  let k : Counting := ⟨octets, if a.has "z" then '\x00' else '\n'⟩
  let body (fd : Nat) : Work (Option StreamFault) :=
    if without then headWithout k count fd
    else if octets then headOctets fd streamFuel count
    else headLines k.delimiter fd streamFuel count
  underHeadings (wantsHeadings a paths) body true paths
  endInput "-" paths

/-! ### tail -/

/-- writes what comes to a stream, for as long as it is asked -/
def follow (fd : Nat) (interval : Duration) : (fuel : Nat) → Work Unit
  | 0 => pure ()
  | fuel + 1 => do
    match ← ask (.read fd pieceSize) with
    | .ok text => put text
    | .error _ => pure ()
    flush
    ask (.sleep interval)
    follow fd interval fuel

/-- writes a stream from a unit on -/
def tailFrom (k : Counting) (count fd : Nat) : Work (Option StreamFault) := do
  if k.octets then
    match ← readAll fd with
    | .error e => pure (cannotRead e)
    | .ok text => do
      put (k.drop count text)
      pure none
  else
    let step (left : Nat) (line : OctetText) : Work Nat := do
      if left = 0 then put line
      pure (left - 1)
    let (_, fault) ← foldLines k.delimiter fd step streamFuel "" count
    pure (fault.bind cannotRead)

def tailStream (k : Counting) (count : Nat) (fromStart : Bool) (fd : Nat) :
    Work (Option StreamFault) := whenOpen fd do
  if fromStart then tailFrom k (count - 1) fd
  else
    match ← readAll fd with
    | .error e => pure (cannotRead e)
    | .ok text => do
      put (k.last count text)
      pure none

def tailOptions : OptionTable where
  letters := "c:n:fFqs:vz0123456789"
  names := [("bytes", .value, "c"), ("follow", .maybe, "f"), ("lines", .value, "n"),
    ("max-unchanged-stats", .value, "max"), ("pid", .value, "pid"), ("quiet", .nothing, "q"),
    ("silent", .nothing, "q"), ("retry", .nothing, "retry"), ("sleep-interval", .value, "s"),
    ("verbose", .nothing, "v"), ("zero-terminated", .nothing, "z")]
  strict := false

/-- a first argument that is a number, maybe with a letter for what is counted and one for
following, as the options it stands for; it counts where at most one operand follows -/
def withTailNumber (args : List OctetText) : List OctetText :=
  let alone := match args with
    | [_] => true
    | [_, second] => second == "--" || !(second.startsWith "-" && 1 < second.length)
    | [_, "--", _] => true
    | _ => false
  match args with
  | [] => []
  | arg :: rest =>
    match arg.toList, alone with
    | sign :: cs, true =>
      let digits := cs.takeWhile Char.isDigit
      let behind := cs.drop digits.length
      let (kind, behind) := match behind with
        | 'b' :: r => (some 'b', r)
        | 'c' :: r => (some 'c', r)
        | 'l' :: r => (some 'l', r)
        | r => (none, r)
      let follows := behind == ['f']
      let isPlus := sign == '+'
      let valid := (isPlus || (sign == '-' && cs != [] && cs != ['c']))
        && (behind.isEmpty || follows)
        && (isPlus || !digits.isEmpty || kind.isSome || follows)
      if !valid || (!isPlus && digits.isEmpty && kind.isNone) then args
      else
        let number := if digits.isEmpty then "10" else String.ofList digits
        let start := if isPlus then "+" else ""
        (match kind with
          | some 'b' => ["-c", start ++ number ++ "b"]
          | some 'c' => ["-c", start ++ number]
          | _ => ["-n", start ++ number])
          ++ (if follows then ["-f"] else []) ++ rest
    | _, _ => args

def tail (args : List OctetText) : Work Unit := do
  let a ← readArguments tailOptions 1 (withTailNumber args)
  match (a.options.map Prod.fst).find? fun o => o.toList.all Char.isDigit with
  | some digit => fail ("option used in invalid context -- " ++ digit)
  | none => pure ()
  let octets := a.last? ["c", "n"] == some "c"
  let spelled := (a.value? (if octets then "c" else "n")).getD "10"
  let (count, fromStart) ← signedAmount octets '+'
    (if spelled.startsWith "-" then String.ofList (spelled.toList.drop 1) else spelled)
  let paths := inputOperands a.operands
  let k : Counting := ⟨octets, if a.has "z" then '\x00' else '\n'⟩
  let follows := (a.has "f" || a.has "F") && a.operands.length = 1
  let body (fd : Nat) : Work (Option StreamFault) := do
    match ← tailStream k count fromStart fd with
    | some e => pure (some e)
    | none => do
      if follows then follow fd ⟨1000000000⟩ streamFuel
      pure none
  if count = 0 && !fromStart && !follows then stop 0
  underHeadings (wantsHeadings a paths) body true paths
  endInput "-" paths

end ShellWorkers.Utility

/-!
## Counting

`wc` counts the lines, words and octets of its operands.  Counts are as wide as the sizes of the
files let expect, so that they stand in columns.
-/

namespace ShellWorkers.Utility

open Machine
open Text (OctetText)

/-- what a text consists of -/
structure Tally where
  lines : Nat
  words : Nat
  octets : Nat
  /-- the greatest width of a line -/
  widest : Nat

namespace Tally

def zero : Tally := ⟨0, 0, 0, 0⟩

/-- the greater one of two numbers -/
def greater (a b : Nat) : Nat := if a < b then b else a

/-- the counts of two texts together -/
def add (a b : Tally) : Tally :=
  ⟨a.lines + b.lines, a.words + b.words, a.octets + b.octets, greater a.widest b.widest⟩

end Tally

/-- a tally of what has been read, whether a word has begun, and the column -/
structure TallyState where
  tally : Tally
  inWord : Bool
  column : Nat

namespace TallyState

/-- the end of a word, if one has begun -/
def endWord (s : TallyState) : TallyState :=
  { s with
    tally := { s.tally with words := s.tally.words + (if s.inWord then 1 else 0) }
    inWord := false }

/-- the end of a line on the screen -/
def endRow (s : TallyState) : TallyState :=
  { s with tally := { s.tally with widest := Tally.greater s.tally.widest s.column }, column := 0 }

/-- one octet more; those that are not printable belong to no word -/
def step (s : TallyState) (c : Char) : TallyState :=
  let s := { s with tally := { s.tally with octets := s.tally.octets + 1 } }
  if c = '\n' then
    let s := s.endRow.endWord
    { s with tally := { s.tally with lines := s.tally.lines + 1 } }
  else if c = '\r' || c = '\x0c' then s.endRow.endWord
  else if c = '\t' then { s.endWord with column := s.column + (8 - s.column % 8) }
  else if c = ' ' then { s.endWord with column := s.column + 1 }
  else if c = '\x0b' then s.endWord
  else if isPrintable c then { s with column := s.column + 1, inWord := true }
  else s

end TallyState

/-- the tally of a text -/
def tallyOf (text : OctetText) : Tally := (text.foldl TallyState.step ⟨.zero, false, 0⟩).endRow.endWord.tally

/-- which counts are shown -/
structure Shown where
  lines : Bool
  words : Bool
  octets : Bool
  characters : Bool
  widest : Bool

namespace Shown

def ofArguments (a : Arguments) : Shown :=
  if ["l", "w", "c", "m", "L"].any a.has then
    ⟨a.has "l", a.has "w", a.has "c", a.has "m", a.has "L"⟩
  else ⟨true, true, true, false, false⟩

/-- the counts in their order -/
def numbers (s : Shown) (t : Tally) : List Nat :=
  (if s.lines then [t.lines] else []) ++ (if s.words then [t.words] else [])
    ++ (if s.characters then [t.octets] else []) ++ (if s.octets then [t.octets] else [])
    ++ (if s.widest then [t.widest] else [])

end Shown

/-- a number with blanks before it -/
def padLeft (width : Nat) (text : OctetText) : OctetText :=
  String.ofList (List.replicate (width - text.length) ' ') ++ text

/-- a number as wide as the others -/
def column (width n : Nat) : OctetText := padLeft width (toString n)

def writeCounts (s : Shown) (width : Nat) (name : OctetText) (t : Tally) : Work Unit := do
  let counts := " ".intercalate ((s.numbers t).map (column width))
  putLine (if name.isEmpty then counts else counts ++ " " ++ name)

/-- the status of an operand -/
def operandStatus (path : OctetText) : Work (Except SystemFault FileStatus) :=
  if path = "-" then ask (.statusOpen 0) else ask (.status path true)

/-- the width of the counts of some operands: that of their size, and seven where that is not
known -/
def countWidth (s : Shown) (paths : List OctetText) : Work Nat := do
  if paths.length = 1 && (s.numbers .zero).length = 1 then pure 1
  else do
    let found ← paths.mapM operandStatus
    let known := found.filterMap Except.toOption
    let files := known.filter (·.kind == .file)
    let total := files.foldl (fun n f => n + f.size) 0
    let least := if files.length = known.length then 1 else 7
    pure (Tally.greater least (toString total).length)

def wcOptions : OptionTable where
  letters := "clLmw"
  names := [("bytes", .nothing, "c"), ("chars", .nothing, "m"), ("lines", .nothing, "l"),
    ("words", .nothing, "w"), ("debug", .nothing, "debug"),
    ("files0-from", .value, "files0-from"), ("max-line-length", .nothing, "L")]
  strict := false

/-- the names of the operands, and the width of their counts -/
def countedNames (a : Arguments) (shown : Shown) :
    Work (List (Except OctetText OctetText) × Nat) := do
  match a.value? "files0-from" with
  | none => do
    let paths := inputOperands a.operands
    pure (paths.map .ok, ← countWidth shown paths)
  | some list => do
    let names ← namesListed a list
    let isFile := ((← operandStatus list).toOption.map (·.kind)) == some .file
    pure (names, ← if isFile then countWidth shown (names.filterMap Except.toOption) else pure 1)

def wc (args : List OctetText) : Work Unit := do
  let a ← readArguments wcOptions 1 args
  let shown := Shown.ofArguments a
  let (names, width) ← countedNames a shown
  let isNamed := !a.operands.isEmpty || a.has "files0-from"
  let mut total := Tally.zero
  for name in names do
    match name with
    | .error message => warn message
    | .ok path =>
      match ← openOperand path with
      | .error e => warn (named path ++ ": " ++ faultText e)
      | .ok fd => do
        let t ← match ← readAll fd with
          | .ok text => pure (tallyOf text)
          | .error e => do
            let shown := if isNamed then named path else quoted "standard input"
            warn (shown ++ ": " ++ faultText e)
            pure .zero
        closeOperand path fd
        let label := if path.toList.contains '\n' then named path else path
        writeCounts shown width (if isNamed then label else "") t
        total := total.add t
  if 1 < names.length then writeCounts shown width "total" total
  endInput "-" (names.filterMap Except.toOption)

end ShellWorkers.Utility
