import ShellWorkers.Utility.Amounts
import ShellWorkers.Utility.Options

/-!
# Streams passed on and compared

Streams that are written on as they are, or compared octet by octet.
-/

/-!
## Passing streams on

`cat` writes its operands one behind the other, maybe with numbers before the lines and with marks
for what is not printable; `tee` writes its input to several files; `tac` writes lines last first.
-/

namespace ShellWorkers.Utility

open Machine
open Text (OctetText)

/-! ### cat -/

/-- how lines are shown -/
structure LineStyle where
  numbers : Bool
  /-- only lines that are not empty have numbers -/
  numbersNonempty : Bool
  /-- of several empty lines only the first is shown -/
  squeezes : Bool
  ends : Bool
  tabs : Bool
  marks : Bool

namespace LineStyle

def isPlain (s : LineStyle) : Bool :=
  !(s.numbers || s.numbersNonempty || s.squeezes || s.ends || s.tabs || s.marks)

def ofArguments (a : Arguments) : LineStyle where
  numbers := a.has "n" && !a.has "b"
  numbersNonempty := a.has "b"
  squeezes := a.has "s"
  ends := a.has "A" || a.has "e" || a.has "E"
  tabs := a.has "A" || a.has "t" || a.has "T"
  marks := a.has "A" || a.has "e" || a.has "t" || a.has "v"

end LineStyle

/-- a character of seven bits with a mark before it if it is not printable -/
def caret (n : Nat) : List Char :=
  if n < 32 then ['^', Char.ofNat (n + 64)] else if n = 127 then ['^', '?'] else [Char.ofNat n]

/-- a character with marks; `M-` stands for the eighth bit -/
def markedChar (n : Nat) : List Char :=
  if n < 128 then caret n else 'M' :: '-' :: caret (n - 128)

/-- a character of a line as it is shown -/
def shownChar (s : LineStyle) (c : Char) : List Char :=
  if c = '\t' then (if s.tabs then ['^', 'I'] else [c])
  else if s.marks then markedChar c.toNat
  else [c]

/-- where in the lines a text has come to -/
structure LinePlace where
  number : Nat
  /-- a line has begun -/
  inside : Bool
  /-- how many empty lines came last -/
  empty : Nat

/-- a number before a line -/
def numberText (n : Nat) : List Char :=
  let ds := (toString n).toList
  List.replicate (6 - ds.length) ' ' ++ ds ++ ['\t']

/-- a piece of a line, with its end if it has one, as it is shown -/
def showLine (s : LineStyle) (p : LinePlace) (line : OctetText) : List Char × LinePlace :=
  let isEnded := line.endsWith "\n"
  let cs := if isEnded then line.toList.dropLast else line.toList
  if cs.isEmpty && !p.inside then
    if s.squeezes && 1 ≤ p.empty then ([], { p with empty := p.empty + 1 })
    else
      let number := p.number + 1
      ((if s.numbers then numberText number else []) ++ (if s.ends then ['$'] else []) ++ ['\n'],
        ⟨if s.numbers then number else p.number, false, p.empty + 1⟩)
  else
    let counts := !p.inside && (s.numbers || s.numbersNonempty)
    let number := if counts then p.number + 1 else p.number
    let body := if isEnded && s.ends && !s.marks && cs.getLast? == some '\r' then
        cs.dropLast.flatMap (shownChar s) ++ ['^', 'M']
      else cs.flatMap (shownChar s)
    ((if counts then numberText number else []) ++ body
        ++ (if isEnded then (if s.ends then ['$', '\n'] else ['\n']) else []),
      ⟨number, !isEnded, 0⟩)

/-- pieces of lines as they are shown -/
def showLines (s : LineStyle) : LinePlace → List OctetText → Work LinePlace
  | p, [] => pure p
  | p, line :: lines => do
    let (cs, p) := showLine s p line
    put (String.ofList cs)
    showLines s p lines

/-- whether a stream is a file that grows by what is read from it -/
def feedsItself (fd : Nat) : Work Bool := do
  match ← ask (.statusOpen fd), ← ask (.statusOpen 1), ← ask (.seek fd 0) with
  | .ok source, .ok target, .ok place =>
    return source.kind == .file && source.id == target.id && place < source.size
  | _, _, _ => return false

/-- writes a stream piece by piece -/
def passOn (s : LineStyle) (fd : Nat) : (fuel : Nat) → LinePlace →
    Work (Option SystemFault × LinePlace)
  | 0, p => pure (none, p)
  | fuel + 1, p => do
    match ← ask (.read fd pieceSize) with
    | .error e => pure (some e, p)
    | .ok text =>
      if text.isEmpty then pure (none, p)
      else if s.isPlain then do
        put text
        flush
        if (← get).lost.isSome then pure (none, p) else passOn s fd fuel p
      else do
        let p ← showLines s p (linesOf text)
        flush
        passOn s fd fuel p

/-- writes operands one behind the other -/
def catEach (s : LineStyle) : LinePlace → List OctetText → Work Unit
  | _, [] => pure ()
  | p, path :: paths => do
    match ← openOperand path with
    | .error e => do
      warn (named path ++ ": " ++ faultText e)
      catEach s p paths
    | .ok fd =>
      if ← feedsItself fd then do
        warn (named path ++ ": input file is output file")
        closeOperand path fd
        catEach s p paths
      else do
        let (fault, p) ← passOn s fd streamFuel p
        match fault with
        | some e => warn (named path ++ ": " ++ faultText e)
        | none => pure ()
        closeOperand path fd
        if (← get).lost.isNone then catEach s p paths

def catOptions : OptionTable where
  letters := "benstuvAET"
  names := [("number-nonblank", .nothing, "b"), ("number", .nothing, "n"),
    ("squeeze-blank", .nothing, "s"), ("show-nonprinting", .nothing, "v"),
    ("show-ends", .nothing, "E"), ("show-tabs", .nothing, "T"), ("show-all", .nothing, "A")]
  strict := false

def cat (args : List OctetText) : Work Unit := do
  let a ← readArguments catOptions 1 args
  match ← ask (.statusOpen 1) with
  | .error e => fail ("standard output: " ++ faultText e)
  | .ok _ => do
    let paths := inputOperands a.operands
    catEach (.ofArguments a) ⟨0, false, 0⟩ paths
    endInput "closing standard input" paths

/-! ### tee -/

/-- opens the files that are written; those that can be -/
def openTargets (mode : OpenMode) : List OctetText → Work (List (OctetText × Nat))
  | [] => pure []
  | path :: paths => do
    match ← ask (.openFile path mode openPermissions) with
    | .ok fd => return (path, fd) :: (← openTargets mode paths)
    | .error e => do
      warn (named path ++ ": " ++ faultText e)
      openTargets mode paths

/-- writes a text to targets; those that took it -/
def writeTargets (text : OctetText) : List (OctetText × Nat) → Work (List (OctetText × Nat))
  | [] => pure []
  | (path, fd) :: targets => do
    match ← ask (.write fd text) with
    | .ok _ => return (path, fd) :: (← writeTargets text targets)
    | .error e => do
      warn (named path ++ ": " ++ faultText e)
      writeTargets text targets

/-- writes the input to targets piece by piece -/
def spread : (fuel : Nat) → List (OctetText × Nat) → Work Unit
  | 0, _ => pure ()
  | fuel + 1, targets => do
    match ← ask (.read 0 pieceSize) with
    | .error e => warn ("read error: " ++ faultText e)
    | .ok text =>
      if text.isEmpty || targets.isEmpty then pure ()
      else spread fuel (← writeTargets text targets)

def teeOptions : OptionTable where
  letters := "aip"
  names := [("append", .nothing, "a"), ("ignore-interrupts", .nothing, "i"),
    ("output-error", .maybe, "p")]
  strict := false

def tee (args : List OctetText) : Work Unit := do
  let a ← readArguments teeOptions 1 args
  if a.has "i" then ask (.setDisposition Signal.interrupt .ignored)
  let targets ← openTargets (if a.has "a" then .append else .write) a.operands
  spread streamFuel (("standard output", 1) :: targets)
  endInput "standard input" ["-"]

/-! ### tac -/

/-- a text cut behind each place where a separator ends, or before each where it begins -/
def cutAt (separator : OctetText) (before : Bool) (text : OctetText) : List OctetText :=
  let parts := text.splitOn separator
  if before then
    match parts with
    | [] => []
    | first :: rest => (first :: rest.map (separator ++ ·)).filter (!·.isEmpty)
  else (parts.dropLast.map (· ++ separator) ++ parts.getLast?.toList).filter (!·.isEmpty)

def tacOptions : OptionTable where
  letters := "brs:"
  names := [("before", .nothing, "b"), ("regex", .nothing, "r"), ("separator", .value, "s")]
  strict := false

def tac (args : List OctetText) : Work Unit := do
  let a ← readArguments tacOptions 1 args
  let separator := (a.value? "s").getD "\n"
  let separator := if separator.isEmpty then "\x00" else separator
  let paths := inputOperands a.operands
  for path in paths do
    match ← openOperand path with
    | .error e => warn ("failed to open " ++ quoted path ++ " for reading: " ++ faultText e)
    | .ok fd => do
      match ← readAll fd with
      | .error e =>
        let shown := if path = "-" then quoted "standard input" else named path
        warn (shown ++ ": read error: " ++ faultText e)
      | .ok text => put (String.join (cutAt separator (a.has "b") text).reverse)
      closeOperand path fd
  endInput "-" paths

end ShellWorkers.Utility

/-!
## Comparing two files octet by octet

`cmp` says where two files differ first, or lists all places where they do.
-/

namespace ShellWorkers.Utility

open Machine
open Text (OctetText)

def cmpOptions : OptionTable where
  letters := "bci:ln:sv"
  names := [("print-bytes", .nothing, "b"), ("print-chars", .nothing, "b"),
    ("ignore-initial", .value, "i"), ("verbose", .nothing, "l"), ("bytes", .value, "n"),
    ("quiet", .nothing, "s"), ("silent", .nothing, "s")]
  strict := false

/-- an octet as it is shown: `^` before a control character, `M-` before one of the upper half -/
def shownOctet (c : Char) : List Char :=
  let low (n : Nat) : List Char :=
    if n < 32 then ['^', Char.ofNat (n + 64)]
    else if n = 127 then ['^', '?']
    else [Char.ofNat n]
  if 128 ≤ c.toNat then 'M' :: '-' :: low (c.toNat - 128) else low c.toNat

/-- a text behind blanks, of a width at least -/
def rightAligned (width : Nat) (text : OctetText) : OctetText :=
  String.ofList (List.replicate (width - text.length) ' ') ++ text

def leftAligned (width : Nat) (text : OctetText) : OctetText :=
  text ++ String.ofList (List.replicate (width - text.length) ' ')

def octalDigits (c : Char) : OctetText :=
  rightAligned 3 (String.ofList (Nat.toDigits 8 c.toNat))

/-- how the comparison of two texts ends -/
inductive Parting where
  /-- the texts are the same -/
  | same
  /-- they differ at a place and line, counted from 1 -/
  | differ (place line : Nat) (a b : Char)
  /-- one of them ends: behind how many octets, in which line, and whether a line ends there -/
  | ends (second : Bool) (place line : Nat) (lineEnds : Bool)

/-- compares from a place; `line` is the number of the line, and `fresh` says that it starts -/
def parting (place line : Nat) (fresh : Bool) : List Char → List Char → Parting
  | [], [] => .same
  | [], _ => .ends false place line fresh
  | _, [] => .ends true place line fresh
  | a :: as, b :: bs =>
    if a = b then parting (place + 1) (if a = '\n' then line + 1 else line) (a == '\n') as bs
    else .differ (place + 1) line a b

/-- all places where two texts differ -/
def differences (place : Nat) : List Char → List Char → List (Nat × Char × Char)
  | a :: as, b :: bs =>
    let rest := differences (place + 1) as bs
    if a = b then rest else (place + 1, a, b) :: rest
  | _, _ => []

/-- an amount of octets of an option of `cmp` -/
def cmpAmount? (text : OctetText) : Option Nat :=
  match amount? "kKMGTPEZY" text with
  | .ok n => some n
  | .error .tooLarge => some naturalLimit
  | .error .invalid => none

/-- an amount, or one for each of both files -/
def skipAmounts? (text : OctetText) : Option (Nat × Nat) :=
  match text.splitOn ":" with
  | [one] => (cmpAmount? one).map fun n => (n, n)
  | [one, two] => do
    let a ← cmpAmount? one
    let b ← cmpAmount? two
    return (a, b)
  | _ => none

def cmp (args : List OctetText) : Work Unit := do
  let a ← readArgumentsOr (misusedTwice 2) cmpOptions args
  if a.has "v" then do
    putLine "cmp (GNU diffutils) 3.8"
    stop 0
  let invalidSkip {α : Type} (value : OctetText) : Work α :=
    misusedTwice 2 ("invalid --ignore-initial value '" ++ value ++ "'")
  let skips ← match a.value? "i" with
    | none => pure (0, 0)
    | some text =>
      match skipAmounts? text with
      | some s => pure s
      | none => invalidSkip text
  let limit ← (a.value? "n").mapM fun text => do
    match cmpAmount? text with
    | some n => pure n
    | none => misusedTwice 2 ("invalid --bytes value '" ++ text ++ "'")
  if a.has "l" && a.has "s" then misusedTwice 2 "options -l and -s are incompatible"
  let name ← Progress.name <$> get
  let (first, others) ← match a.operands with
    | [] => misusedTwice 2 ("missing operand after '" ++ name ++ "'")
    | first :: others => pure (first, others)
  let second := others.head?.getD "-"
  let skipOf (index given : Nat) : Work Nat := do
    match others[index]? with
    | none => pure given
    | some text =>
      match cmpAmount? text with
      | some n => pure n
      | none => invalidSkip text
  let skipA ← skipOf 1 skips.1
  let skipB ← skipOf 2 skips.2
  if let some extra := others[3]? then misusedTwice 2 ("extra operand '" ++ extra ++ "'")
  let silent := a.has "s"
  let refuse {α : Type} (path : OctetText) (e : SystemFault) : Work α :=
    if silent then stop 2 else failWith 2 (path ++ ": " ++ faultText e)
  let textOf (path : OctetText) : Work (List Char × Option Nat) := do
    match ← openOperand path with
    | .error e => refuse path e
    | .ok fd => do
      let size ← match ← ask (.statusOpen fd) with
        | .ok status => pure (if status.kind = .file then some status.size else none)
        | .error _ => pure none
      match ← readAll fd with
      | .error e => failWith 2 (path ++ ": " ++ faultText e)
      | .ok text => do
        closeOperand path fd
        pure (text.toList, size)
  if first = second && skipA = skipB && first = "-" then stop 0
  let (as, sizeA) ← textOf first
  let (bs, sizeB) ← textOf second
  let cut (skip : Nat) (cs : List Char) : List Char :=
    match limit with
    | some n => (cs.drop skip).take n
    | none => cs.drop skip
  let as := cut skipA as
  let bs := cut skipB bs
  let last := parting 0 1 true as bs
  let ended (second? : Bool) (place line : Nat) (lineEnds : Bool) : Work Unit := do
    let path := if second? then second else first
    if !silent then
      noteAhead ("EOF on " ++ path ++ (
        if place = 0 then " which is empty"
        else " after byte " ++ toString place ++ (
          if a.has "l" then ""
          else if lineEnds then ", line " ++ toString (line - 1)
          else ", in line " ++ toString line)))
  if a.has "l" then
    let known (size : Option Nat) (skip : Nat) (given : Nat) : Nat :=
      match size with
      | some n => if n - skip < given then n - skip else given
      | none => given
    let most := known sizeA skipA (known sizeB skipB (limit.getD integerLimit))
    let width := (toString most).length
    let found := differences 0 as bs
    for (place, x, y) in found do
      putLine (rightAligned width (toString place) ++ " " ++ (
        if a.has "b" then
          octalDigits x ++ " " ++ leftAligned 4 (String.ofList (shownOctet x)) ++ " "
            ++ octalDigits y ++ " " ++ String.ofList (shownOctet y)
        else octalDigits x ++ " " ++ octalDigits y))
    let shorter := if as.length < bs.length then as else bs
    if as.length ≠ bs.length then do
      ended (decide (bs.length < as.length)) shorter.length 0 false
      setCode 1
    if !found.isEmpty then setCode 1
  else
    match last with
    | .same => pure ()
    | .ends second? place line lineEnds => do
      ended second? place line lineEnds
      setCode 1
    | .differ place line x y => do
      setCode 1
      if !silent then
        let tail := if a.has "b" then
            " is " ++ octalDigits x ++ " " ++ String.ofList (shownOctet x) ++ " "
              ++ octalDigits y ++ " " ++ String.ofList (shownOctet y)
          else ""
        putLine (first ++ " " ++ second ++ " differ: " ++ (if a.has "b" then "byte " else "char ")
          ++ toString place ++ ", line " ++ toString line ++ tail)

end ShellWorkers.Utility
