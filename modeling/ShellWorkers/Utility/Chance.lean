import ShellWorkers.Utility.Amounts

/-!
# Chance

Numbers that are drawn from a source of octets.  A number below some bound is drawn fairly: octets
are taken until they make a number from a range that is large enough, what does not divide evenly
is thrown away, and what is left of a number serves the next draw.  The same octets make the same
numbers.

* `Chance`             a source of octets;
* `Chance.draw`        a number below a bound;
* `Chance.arrangement` some of so many things in no particular order.
-/

namespace ShellWorkers.Utility

open Machine
open Text (OctetText)

/-- a source of octets, and what is left of them: a number that is not greater than `greatest` -/
structure Chance where
  path : OctetText
  fd : Nat
  held : List Nat
  number : Nat
  greatest : Nat

/-- actions that draw numbers -/
abbrev Drawing := StateT Chance Work

namespace Chance

/-- where octets come from when no source is named -/
def usualSource : OctetText := "/dev/urandom"

/-- opens a source -/
def start (path : OctetText) : Work (Except SystemFault Chance) := do
  match ← ask (.openFile path .read openPermissions) with
  | .ok fd => pure (.ok ⟨path, fd, [], 0, 0⟩)
  | .error e => pure (.error e)

/-- a source that nothing is drawn from -/
def unused : Chance := ⟨"", 0, [], 0, 0⟩

/-- how many octets are read at once -/
def readSize : Nat := 4096

/-- the next octet, or the end of the utility with a code -/
def octet (code : Nat) : Drawing Nat := do
  let s ← get
  match s.held with
  | c :: held => do
    set { s with held := held }
    pure c
  | [] =>
    match ← ask (.read s.fd readSize) with
    | .error e => failWith code (quoted s.path ++ ": read error: " ++ faultText e)
    | .ok text =>
      match text.toList.map Char.toNat with
      | [] => failWith code (quoted s.path ++ ": end of file")
      | c :: held => do
        set { s with held := held }
        pure c

/-- some octets, as a text -/
def octets (code : Nat) : (count : Nat) → (taken : List Char) → Drawing OctetText
  | 0, taken => pure (String.ofList taken.reverse)
  | count + 1, taken => do
    let c ← octet code
    octets code count (Char.ofNat c :: taken)

/-- numbers have 64 bits -/
def wordSize : Nat := 18446744073709551616

/-- takes octets until numbers can be as great as a bound -/
def widen (bound : Nat) : (fuel : Nat) → Drawing Unit
  | 0 => pure ()
  | fuel + 1 => do
    if (← get).greatest < bound then
      let c ← octet 1
      modify fun s => { s with
        number := (s.number * 256 + c) % wordSize
        greatest := (s.greatest * 256 + 255) % wordSize }
      widen bound fuel

/-- a number that is not greater than a bound -/
def upTo (bound : Nat) : (fuel : Nat) → Drawing Nat
  | 0 => pure 0
  | fuel + 1 => do
    widen bound 16
    let s ← get
    if s.greatest = bound then
      set { s with number := 0, greatest := 0 }
      pure s.number
    else
      let choices := bound + 1
      let excess := s.greatest - bound
      let unusable := excess % choices
      if s.number ≤ s.greatest - unusable then
        set { s with number := s.number / choices, greatest := excess / choices }
        pure (s.number % choices)
      else
        set { s with number := s.number % choices, greatest := unusable - 1 }
        upTo bound fuel

/-- one of so many numbers, from zero on -/
def draw (count : Nat) : Drawing Nat := upTo (count - 1) 1000

/-- puts each of the first `count` things in the place of one that is not before it -/
def mix {α : Type} (total : Nat) : (count place : Nat) → Array α → Drawing (Array α)
  | 0, _, things => pure things
  | count + 1, place, things => do
    let k ← draw (total - place)
    mix total count (place + 1) (things.swapIfInBounds place (place + k))

/-- as before for the numbers below `total`, where `moved` holds those that are not in their place -/
def mixNumbers (total : Nat) : (count place : Nat) → (moved : List (Nat × Nat)) →
    (chosen : List Nat) → Drawing (List Nat)
  | 0, _, _, chosen => pure chosen.reverse
  | count + 1, place, moved, chosen => do
    let k := place + (← draw (total - place))
    let at_ (i : Nat) : Nat := (moved.lookup i).getD i
    mixNumbers total count (place + 1) ((k, at_ place) :: moved.filter (·.1 != k)) (at_ k :: chosen)

/-- the most numbers that are written down one by one -/
def tableLimit : Nat := 1000000

/-- `count` of the numbers below `total` in no particular order -/
def arrangement (count total : Nat) : Drawing (List Nat) := do
  if total ≤ tableLimit then
    return ((← mix total count 0 (Array.range total)).extract 0 count).toList
  else mixNumbers total count 0 [] []

/-- how many octets an arrangement needs at least -/
def octetsFor (count total : Nat) : Nat :=
  let bits := (List.range 64).countP fun k => Nat.pow 2 k < total
  (bits * count + 7) / 8

end Chance

/-! ## lines in no particular order -/

def shufOptions : OptionTable where
  letters := "ei:n:o:rz"
  names := [("echo", .nothing, "e"), ("input-range", .value, "i"), ("head-count", .value, "n"),
    ("output", .value, "o"), ("random-source", .value, "source"), ("repeat", .nothing, "r"),
    ("zero-terminated", .nothing, "z")]
  strict := false

/-- the bounds of a range of numbers -/
def numberRange (text : OctetText) : Work (Nat × Nat) := do
  let complain {α : Type} (reason : OctetText) : Work α :=
    fail ("invalid input range: " ++ quoted text ++ reason)
  let number (cs : List Char) : Work (Nat × List Char) := do
    let cs := withoutSign cs
    let ds := cs.takeWhile Char.isDigit
    if ds.isEmpty then complain ""
    else if naturalLimit < digitsValue ds then
      complain ": Value too large for defined data type"
    else pure (digitsValue ds, cs.drop ds.length)
  match ← number text.toList with
  | (low, '-' :: cs) =>
    match ← number cs with
    | (high, []) =>
      if high + 1 < low || (low = 0 && high = naturalLimit) then complain ""
      else pure (low, high)
    | _ => complain ""
  | _ => complain ""

/-- the lines that are asked for at most; nothing if their number is not bounded -/
def lineLimit (texts : List OctetText) : Work (Option Nat) :=
  texts.foldlM (fun limit text =>
    match amount? "" text with
    | .ok n => pure (match limit with
      | some m => some (if n < m then n else m)
      | none => some n)
    | .error .tooLarge => pure limit
    | .error .invalid => fail ("invalid line count: " ++ quoted text)) none

/-- the value of an option that may be repeated only with the same value -/
def oneValue (a : Arguments) (option what : OctetText) : Work (Option OctetText) := do
  match a.values option with
  | [] => pure none
  | value :: others =>
    if others.any (· ≠ value) then fail ("multiple " ++ what ++ " specified")
    else pure (some value)

/-- lines that come in one by one, where each takes the place of another by chance once there are
`limit` -/
def sampleLines (limit : Nat) (lines : List OctetText) : Drawing (Array OctetText) := do
  let first := (lines.take limit).toArray
  if lines.length < limit then pure first
  else do
    let (sample, count) ← (lines.drop limit).foldlM (fun (sample, count) line => do
      let k ← Chance.draw (count + 1)
      pure (sample.setIfInBounds k line, count + 1)) (first, limit)
    let _ ← Chance.draw (count + 1)
    pure sample

/-- input of at most so many octets is read before anything is drawn -/
def sampleSize : Nat := 8388608

/-- what is shuffled: so many things, and the text of each -/
structure Deck where
  count : Nat
  text : Nat → OctetText

def Deck.ofArray (lines : Array OctetText) : Deck := ⟨lines.size, fun i => lines.getD i ""⟩

/-- things drawn again and again, as many as are asked for -/
def drawAgain (d : Deck) (ending : OctetText) : (fuel : Nat) → Drawing Unit
  | 0 => pure ()
  | fuel + 1 => do
    let k ← Chance.draw d.count
    put (d.text k ++ ending)
    drawAgain d ending fuel

/-- the output goes to a file -/
def redirectOutput (path : OctetText) : Work Unit := do
  match ← ask (.openFile path .write openPermissions) with
  | .error e => fail (named path ++ ": " ++ faultText e)
  | .ok fd => do
    let _ ← ask (.duplicate fd 1)
    if fd ≠ 1 then closeFile fd

def shuf (args : List OctetText) : Work Unit := do
  let a ← readArguments shufOptions 1 args
  let ranges ← (a.values "i").mapM numberRange
  if 1 < ranges.length then fail "multiple -i options specified"
  let limit ← lineLimit (a.values "n")
  let output ← oneValue a "o" "output files"
  let source ← oneValue a "source" "random sources"
  let repeats := a.has "r"
  if a.has "e" && !ranges.isEmpty then misused 1 "cannot combine -e and -i options"
  match ranges, a.operands with
  | _ :: _, operand :: _ => extraOperand operand
  | [], _ :: operand :: _ => if !a.has "e" then extraOperand operand
  | _, _ => pure ()
  let delimiter := if a.has "z" then '\x00' else '\n'
  let ending := String.ofList [delimiter]
  let isNothing := limit == some 0
  let path := a.operands.head?.getD "-"
  let readsInput := !isNothing && !a.has "e" && ranges.isEmpty
  let fd ← if !readsInput then pure 0
    else match ← openOperand path with
      | .ok fd => pure fd
      | .error e => fail (named path ++ ": " ++ faultText e)
  let samples ← if !readsInput || repeats || limit.isNone then pure false
    else match ← ask (.statusOpen fd) with
      | .ok s => pure (s.kind != .file || sampleSize < s.size)
      | .error _ => pure true
  let readLines : Work (List OctetText) := do
    match ← readAll fd with
    | .ok text =>
      let parts := text.splitOn ending
      pure (if (parts.getLast?.getD "").isEmpty then parts.dropLast else parts)
    | .error e => fail ("read error: " ++ faultText e)
  let deck : Deck ← if isNothing || samples then pure ⟨0, fun _ => ""⟩
    else if a.has "e" then pure (Deck.ofArray a.operands.toArray)
    else match ranges with
      | (low, high) :: _ => pure ⟨high + 1 - low, fun i => toString (low + i)⟩
      | [] => Deck.ofArray <$> List.toArray <$> readLines
  let count := match limit with
    | some n => if repeats || n < deck.count then n else deck.count
    | none => deck.count
  let needs := samples || repeats || 0 < Chance.octetsFor count deck.count
  let chance ← if !needs then pure Chance.unused
    else match ← Chance.start (source.getD Chance.usualSource) with
      | .ok chance => pure chance
      | .error e => fail (named (source.getD "getrandom") ++ ": " ++ faultText e)
  let (deck, chance) ← if samples then do
      let (lines, chance) ← (sampleLines (limit.getD 0) (← readLines)).run chance
      pure (Deck.ofArray lines, chance)
    else pure (deck, chance)
  if repeats then
    output.forM redirectOutput
    if !isNothing then
      if deck.count = 0 then fail "no lines to repeat"
      let _ ← (drawAgain deck ending (limit.getD streamFuel)).run chance
  else
    let count := if samples then deck.count else count
    let (order, _) ← (Chance.arrangement count deck.count).run chance
    output.forM redirectOutput
    order.forM fun k => put (deck.text k ++ ending)

/-! ## overwriting files -/

/-- how a file is overwritten -/
structure ShredPlan where
  force : Bool
  passes : Nat
  size : Option Nat
  exact : Bool
  verbose : Bool
  /-- a last pass writes zeros -/
  zeros : Bool
  /-- whether files are removed, and their names overwritten before -/
  removal : Option Bool

/-- what a pass writes: octets by chance, or twelve bits again and again -/
inductive Pass where
  | chance
  | bits (pattern : Nat)
  deriving DecidableEq

namespace Pass

/-- patterns in groups, of which a pass takes all or some; an empty group stands for passes by
chance -/
def groups : List (Nat × List Nat) :=
  [(2, []), (2, [0x000, 0xfff]), (2, [0x555, 0xaaa]), (1, []),
    (6, [0x249, 0x492, 0x6db, 0x924, 0xb6d, 0xdb6]),
    (12, [0x111, 0x222, 0x333, 0x444, 0x666, 0x777, 0x888, 0x999, 0xbbb, 0xccc, 0xddd, 0xeee]),
    (1, []), (8, [0x1000, 0x1249, 0x1492, 0x16db, 0x1924, 0x1b6d, 0x1db6, 0x1fff]),
    (14, [0x1111, 0x1222, 0x1333, 0x1444, 0x1555, 0x1666, 0x1777, 0x1888, 0x1999, 0x1aaa, 0x1bbb,
      0x1ccc, 0x1ddd, 0x1eee]), (1, [])]

/-- `left` of the patterns of a group by chance -/
def some_ : (left : Nat) → List Nat → Drawing (List Nat)
  | 0, _ => pure []
  | _, [] => pure []
  | left + 1, p :: ps => do
    let k ← if left + 1 = (p :: ps).length then pure 0 else Chance.draw (p :: ps).length
    if k < left + 1 then return p :: (← some_ left ps) else some_ (left + 1) ps

/-- the patterns of so many passes, and how many passes are by chance -/
def choose : (fuel : Nat) → (left : Nat) → List (Nat × List Nat) → Drawing (List Nat × Nat)
  | 0, left, _ => pure ([], left)
  | fuel + 1, left, [] => choose fuel left groups
  | fuel + 1, left, (size, patterns) :: rest => do
    if patterns.isEmpty then
      if left ≤ size then pure ([], left)
      else do
        let (chosen, byChance) ← choose fuel (left - size) rest
        pure (chosen, byChance + size)
    else if size ≤ left then do
      let (chosen, byChance) ← choose fuel (left - size) rest
      pure (patterns ++ chosen, byChance)
    else if left < 2 || 3 * left < size then pure ([], left)
    else return (← some_ left patterns, 0)

/-- passes in their order: those by chance are spread evenly -/
def spread (total gaps : Nat) : (fuel place top : Nat) → (balance : Nat) → Array (Option Nat) →
    Drawing (Array (Option Nat))
  | 0, _, _, _, passes => pure passes
  | fuel + 1, place, top, balance, passes => do
    if balance ≤ gaps then
      let passes := (passes.setIfInBounds top (passes.getD place none)).setIfInBounds place none
      spread total gaps fuel (place + 1) (top + 1) (balance + (total - 1) - gaps) passes
    else
      let k ← Chance.draw (top - place)
      spread total gaps fuel (place + 1) top (balance - gaps)
        (passes.swapIfInBounds place (place + k))

/-- the passes of a plan -/
def schedule (count : Nat) : Drawing (List Pass) := do
  if count = 0 then pure []
  else
    let (patterns, byChance) ← choose (count + 20) count groups
    let passes := (patterns.map some ++ List.replicate byChance none).toArray
    let gaps := byChance - 1
    let spreaded ← spread count gaps count 0 patterns.length gaps passes
    pure (spreaded.toList.map fun p => (p.map Pass.bits).getD .chance)

/-- an octet of a pattern by its place: three octets are repeated, and the first of each sector of
512 octets may have another first bit -/
def octetAt (pattern place : Nat) : Nat :=
  let bits := pattern % 4096 * 4097
  let c := match place % 3 with
    | 0 => bits / 16 % 256
    | 1 => bits / 256 % 256
    | _ => bits % 256
  if 4096 ≤ pattern && place % 512 = 0 then (if c < 128 then c + 128 else c - 128) else c

/-- how messages call a pass -/
def label : Pass → OctetText
  | .chance => "random"
  | .bits pattern =>
    let hex (n : Nat) : List Char :=
      let digit (d : Nat) : Char := if d < 10 then digitChar d else Char.ofNat (87 + d)
      [digit (n / 16), digit (n % 16)]
    String.ofList ((List.range 3).flatMap fun place => hex (octetAt pattern place))

/-- so many octets of a pass from a place on -/
def content (place count : Nat) : Pass → Drawing OctetText
  | .chance => Chance.octets 1 count []
  | .bits pattern =>
    pure (String.ofList ((List.range count).map fun n =>
      Char.ofNat (octetAt pattern (place + n))))

end Pass

namespace ShredPlan

/-- the octets of a block of a file -/
def blockSize : Nat := 4096

/-- what is written at once -/
def chunkSize : Nat := 61440

/-- writes octets of a pass behind each other; how far it came if it failed -/
def writePass (p : Pass) (fd : Nat) : (fuel : Nat) → (place size : Nat) →
    Drawing (Option (Nat × SystemFault))
  | 0, _, _ => pure none
  | fuel + 1, place, size => do
    if size ≤ place then pure none
    else
      let count := if size - place < chunkSize then size - place else chunkSize
      let text ← p.content place count
      match ← ask (.write fd text) with
      | .ok _ => writePass p fd fuel (place + count) size
      | .error e => pure (some (place, e))

/-- overwrites an open file so many octets long; whether that worked.  Without a size, there is as
much as fits -/
def overwrite (k : ShredPlan) (label : OctetText) (fd : Nat) (count : Nat) (tells : Bool) :
    (number : Nat) → List Pass → (size : Option Nat) → Drawing Bool
  | _, [], _ => pure true
  | number, p :: passes, size => do
    if tells && k.verbose then
      note (label ++ ": pass " ++ toString number ++ "/" ++ toString count ++ " (" ++ p.label
        ++ ")...")
    match size, ← writePass p fd streamFuel 0 (size.getD streamFuel) with
    | none, some (place, .noSpace) => k.overwrite label fd count tells (number + 1) passes place
    | _, some (place, e) => do
      warn (label ++ ": error writing at offset " ++ toString place ++ ": " ++ faultText e)
      pure false
    | _, none => do
      let _ ← ask (.seek fd (-(size.getD streamFuel : Int)))
      k.overwrite label fd count tells (number + 1) passes size

/-- overwrites an open file; whether that worked -/
def overwriteOpen (k : ShredPlan) (label : OctetText) (fd : Nat) : Drawing Bool := do
  match ← ask (.statusOpen fd) with
  | .error e => do
    warn (label ++ ": fstat failed: " ++ faultText e)
    pure false
  | .ok s =>
    if s.kind == Machine.FileKind.queue then do
      warn (label ++ ": invalid file type")
      pure false
    else do
      let isFile := s.kind == Machine.FileKind.file
      let small := isFile && s.size < blockSize
      let (first, size) := match k.size with
        | some size => (if small && s.size < size then s.size else 0, some size)
        | none =>
          if !isFile then (0, none)
          else if k.exact then (0, some s.size)
          else (if small then s.size else 0,
            some ((s.size + blockSize - 1) / blockSize * blockSize))
      let passes ← Pass.schedule k.passes
      let passes := if k.zeros then passes ++ [Pass.bits 0] else passes
      let count := passes.length
      let ok ← if first = 0 then pure true else k.overwrite label fd count false 1 passes first
      let ok ← if ok && size ≠ some 0 then k.overwrite label fd count true 1 passes size
        else pure ok
      if ok && k.removal.isSome then
        let _ ← ask (.setLength fd 0)
      pure ok

/-- the characters of names that hide others, in their order -/
def nameCharacters : List Char :=
  "0123456789abcdefghijklmnopqrstuvwxyzABCDEFGHIJKLMNOPQRSTUVWXYZ_.".toList

/-- the next name of the same length, where the last character comes first; nothing behind the last
name -/
def nextName? : List Char → Option (List Char)
  | [] => none
  | c :: cs =>
    match (nameCharacters.dropWhile (· != c)).drop 1 with
    | next :: _ => some (next :: cs)
    | [] => (nextName? cs).map ('0' :: ·)

/-- gives a file the first name that is free -/
def hideName (path directory : OctetText) : (fuel : Nat) → List Char → Work (Option OctetText)
  | 0, _ => pure none
  | fuel + 1, name => do
    let goal := directory ++ String.ofList name.reverse
    match ← ask (.status goal false) with
    | .ok _ =>
      match nextName? name with
      | some next => hideName path directory fuel next
      | none => pure none
    | .error _ =>
      match ← ask (.rename path goal) with
      | .ok _ => pure (some goal)
      | .error _ => pure none

/-- gives a file shorter and shorter names -/
def shortenName (k : ShredPlan) (label directory : OctetText) : (length : Nat) →
    OctetText → (isFirst : Bool) → Work OctetText
  | 0, path, _ => pure path
  | length + 1, path, isFirst => do
    match ← hideName path directory 100000 (List.replicate (length + 1) '0') with
    | none => k.shortenName label directory length path isFirst
    | some goal => do
      if k.verbose then note ((if isFirst then label else path) ++ ": renamed to " ++ goal)
      k.shortenName label directory length goal false

/-- removes a file behind other names -/
def removeName (k : ShredPlan) (label path : OctetText) (hides : Bool) : Work Unit := do
  if k.verbose then note (label ++ ": removing")
  let name := (path.splitOn "/").getLast?.getD ""
  let directory := String.ofList (path.toList.take (path.length - name.length))
  let last ← if hides then k.shortenName label directory name.length path true else pure path
  match ← ask (.remove last) with
  | .ok _ => if k.verbose then note (label ++ ": removed")
  | .error e => warn (label ++ ": failed to remove: " ++ faultText e)

/-- overwrites a file, and removes it if that is asked for -/
def shredFile (k : ShredPlan) (path : OctetText) : Drawing Unit := do
  let label := named path
  if path = "-" then
    let _ ← k.overwriteOpen label 1
  else
    let opening := Call.openFile path .overwrite 0
    let result ← match ← ask opening with
      | .error e =>
        if k.force && e = .accessDenied then do
          let _ ← ask (.setMode path 0o200)
          ask opening
        else pure (.error e)
      | .ok fd => pure (.ok fd)
    match result with
    | .error e => warn (label ++ ": failed to open for writing: " ++ faultText e)
    | .ok fd => do
      let ok ← k.overwriteOpen label fd
      closeFile fd
      match ok, k.removal with
      | true, some hides => k.removeName label path hides
      | _, _ => pure ()

def options : OptionTable where
  letters := "fn:s:uvxz"
  names := [("exact", .nothing, "x"), ("force", .nothing, "f"), ("iterations", .value, "n"),
    ("size", .value, "s"), ("random-source", .value, "source"), ("remove", .maybe, "u"),
    ("verbose", .nothing, "v"), ("zero", .nothing, "z")]
  strict := false

def ofArguments (a : Arguments) : Work ShredPlan := do
  let passes ← match a.value? "n" with
    | some text => boundedOrFail "invalid number of passes" 4611686018427387903 text
    | none => pure 3
  let size ← (a.value? "s").mapM (amountOrFail "invalid file size" "cbBkKMGTPEZY")
  let removal ← match a.last? ["u"] with
    | none => pure none
    | some _ =>
      match a.value? "u" with
      | none => pure (some true)
      | some "" => pure (some true)
      | some word =>
        let way ← chooseWord "--remove" [["unlink"], ["wipe"], ["wipesync"]] word
        pure (some (way != "unlink"))
  pure ⟨a.has "f", passes, size, a.has "x", a.has "v", a.has "z", removal⟩

end ShredPlan

def shred (args : List OctetText) : Work Unit := do
  let a ← readArguments ShredPlan.options 1 args
  let k ← ShredPlan.ofArguments a
  let source ← oneValue a "source" "random sources"
  if a.operands.isEmpty then misused 1 "missing file operand"
  match ← Chance.start (source.getD Chance.usualSource) with
  | .error e => fail (named (source.getD "getrandom") ++ ": " ++ faultText e)
  | .ok chance =>
    let _ ← (a.operands.forM k.shredFile).run chance

end ShellWorkers.Utility
