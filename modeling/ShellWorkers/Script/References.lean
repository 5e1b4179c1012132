import ShellWorkers.Script.Pattern
import ShellWorkers.Script.Printing
import ShellWorkers.Script.State

/-!
# Values of variables

Variables are looked up, and their values cut, searched and cut into fields.
-/

/-!
## Looking variables up in the extended language

A variable can stand for another one, and some have values that the shell computes when they are
asked for (`Context.seen?`).  An element is found by the text of its subscript; what number a text
stands for is not known here.
-/

namespace ShellWorkers.Script

open Machine
open Text (OctetText)

namespace Context

/-! ### names for names -/

/-- how long a chain of names for names can be -/
def chainLimit : Nat := 8

/-- the name that a name stands for at the end of a chain -/
def meantFrom (c : Context) : (fuel : Nat) → OctetText → OctetText
  | 0, name => name
  | fuel + 1, name =>
    match c.var? name with
    | some v =>
      if v.traits.isName then
        match v.value? with
        | some target => if target.isEmpty then name else meantFrom c fuel target
        | none => name
      else name
    | none => name

/-- the name that a name stands for; it may have a subscript -/
def meant (c : Context) (name : OctetText) : OctetText :=
  if c.extended then meantFrom c chainLimit name else name

/-- a name and the subscript behind it -/
def splitSubscript (name : OctetText) : OctetText × Option OctetText :=
  let cs := name.toList
  let base := cs.takeWhile (· != '[')
  match cs.drop base.length with
  | '[' :: inner =>
    if inner.getLast? == some ']' then (String.ofList base, some (String.ofList inner.dropLast))
    else (name, none)
  | _ => (name, none)

/-! ### computed variables -/

/-- the version of the shell -/
def versionParts : List OctetText := ["5", "2", "15", "1", "release", "x86_64-pc-linux-gnu"]

/-- the names of the settings that are on, with colons between them -/
def settingNames (c : Context) : OctetText :=
  ":".intercalate ((Setting.allExtended.filter fun s => c.settings.contains s.1).map (·.2.1))

/-- a list of texts as the elements of an array -/
def listItems (texts : List OctetText) : Items := .list (texts.zipIdx.map fun (text, n) => (n, text))

/-- variables whose values are computed -/
def computed? (c : Context) (name : OctetText) : Option Variable :=
  let text (value : OctetText) : Option Variable := some (.ofText name (some value) false false false)
  let fixed (value : OctetText) : Option Variable := some (.ofText name (some value) false true false)
  let fixedNumber (value : OctetText) : Option Variable :=
    some { Variable.ofText name (some value) false true false with
      traits := { Traits.none with integer := true } }
  let list (texts : List OctetText) : Option Variable :=
    some ((Variable.ofText name none false false false).withItems (listItems texts))
  match name with
  | "LINENO" => text (toString c.line)
  | "_" => text c.extras.lastWord
  | "BASHPID" => text (toString c.extras.self)
  | "BASH_SUBSHELL" => text (toString c.extras.nesting)
  | "BASH_COMMAND" => text (commandSource .inLine c.extras.current)
  | "BASH" => text "/usr/bin/bash"
  | "BASH_VERSION" => text "5.2.15(1)-release"
  | "BASH_VERSINFO" => (list versionParts).map ({ · with readOnly := true })
  | "HOSTTYPE" => text "x86_64"
  | "OSTYPE" => text "linux-gnu"
  | "MACHTYPE" => text "x86_64-pc-linux-gnu"
  | "EUID" => fixedNumber "0"
  | "UID" => fixedNumber "0"
  | "GROUPS" => list ["0"]
  | "PIPESTATUS" => list (c.extras.statuses.map toString)
  | "FUNCNAME" =>
    if c.extras.calls.any fun s => s.name ≠ "source" then list (c.extras.calls.map CallSite.name)
    else none
  | "BASH_SOURCE" => list (c.extras.calls.map CallSite.source)
  | "BASH_LINENO" => list (c.extras.calls.map fun s => toString s.line)
  | "DIRSTACK" => list (c.directory :: c.extras.stack)
  | "SHELLOPTS" => fixed (settingNames c)
  | "BASHOPTS" => fixed (":".intercalate c.extras.features)
  | _ => none

/-- the variable that a name without a subscript stands for, computed if need be -/
def seen? (c : Context) (name : OctetText) : Option Variable :=
  match c.var? name with
  | some v => some v
  | none =>
    if c.extended && !c.extras.ordinary.contains name then c.computed? name else none

/-- puts an element into a variable, which becomes an array if it is none -/
def putElement (c : Context) (name key value : OctetText) : Context :=
  let v := (c.var? name).getD (.ofText name none (c.isOn .exportAll) false false)
  let value := v.traits.inCase value
  match v.items with
  | .table elements => c.putVariable (v.withItems (.table (Items.insertKey key value elements)))
  | .list elements =>
    c.putVariable (v.withItems (.list (Items.insertAt (digitsNat key.toList) value elements)))
  | .none =>
    let elements := match v.value? with
      | some first => [(0, first)]
      | none => []
    c.putVariable (v.withItems (.list (Items.insertAt (digitsNat key.toList) value elements)))

end Context

/-! ### numbers that are new each time -/

/-- the next state of the random numbers -/
def nextRandom (state : Nat) : Nat :=
  let state := if state = 0 then 123459876 else state
  let high := state / 127773
  let low := state % 127773
  (16807 * low + 2147483647 - 2836 * high) % 2147483647

/-- the next random number, which is not the last one -/
def randomNumber : Sh OctetText := do
  let (state, last) := (← get).extras.random
  let value (state : Nat) : Nat := ((state / 65536) ^^^ (state % 65536)) % 32768
  let state := nextRandom state
  let state := if value state = last then nextRandom state else state
  modify fun c => { c with extras := { c.extras with random := (state, value state) } }
  pure (toString (value state))

/-- the next random number of 32 bits -/
def wideRandomNumber : Sh OctetText := do
  let state := ((← get).extras.wideRandom * 6364136223846793005 + 1442695040888963407)
    % 18446744073709551616
  modify fun c => { c with extras := { c.extras with wideRandom := state } }
  pure (toString (state / 4294967296))

/-- the names of numbers that are new each time -/
def freshNames : List OctetText :=
  ["RANDOM", "SRANDOM", "SECONDS", "EPOCHSECONDS", "EPOCHREALTIME"]

/-- whether a name stands for a number that is new each time -/
def Context.isFresh (c : Context) (name : OctetText) : Bool :=
  c.extended && freshNames.contains name && !c.extras.ordinary.contains name
    && (c.var? name).isNone

/-- a number that is new each time, by its name -/
def freshNumber (name : OctetText) : Sh OctetText := do
  let seconds (instant : Int) : Int := Int.fdiv instant 1000000000
  match name with
  | "RANDOM" => randomNumber
  | "SRANDOM" => wideRandomNumber
  | "SECONDS" => return toString (seconds (← sys .now) - (← get).extras.secondsFrom)
  | "EPOCHSECONDS" => return toString (seconds (← sys .now))
  | _ => do
    let instant ← sys .now
    let micros := (toString (Int.fmod instant 1000000000 / 1000)).toList
    return toString (seconds instant) ++ "."
      ++ String.ofList (List.replicate (6 - micros.length) '0' ++ micros)

end ShellWorkers.Script

/-!
## Fields

An expanded word is a list of segments of symbols.  The segments say what may end a field: what
stood in the word itself ends none; a value outside of quotes is cut at the separators; the
positional parameters in quotes are cut between them, where zeros stand.

A symbol is a character that knows whether it is quoted, or the mark of a pair of quotes, which
makes a field of an empty text.

* `fieldsOf`    the fields of an expanded word;
* `partsOf`     the fields of a line for as many variables, the last of which takes the rest.
-/

namespace ShellWorkers.Script

open Text (OctetText)

inductive Symbol where
  | char (c : Char) (quoted : Bool)
  | mark
  deriving DecidableEq, Repr

/-- what may end a field in a segment -/
inductive SegmentKind where
  | whole
  | value
  | parameters
  deriving DecidableEq, Repr

structure Segment where
  kind : SegmentKind
  symbols : List Symbol
  deriving Repr

/-! ### symbols and texts -/

/-- the symbols of a text -/
def symbolsOf (quoted : Bool) (text : OctetText) : List Symbol := text.toList.map (.char · quoted)

/-- what stands between positional parameters that are to become fields -/
def parameterEnd : Char := '\x00'

def symbolsText (ss : List Symbol) : OctetText :=
  String.ofList (ss.filterMap fun
    | .char c _ => some c
    | .mark => none)

def symbolsMarked (ss : List Symbol) : List MarkedChar :=
  ss.filterMap fun
    | .char c quoted => some (c, quoted)
    | .mark => none

def segmentsSymbols (ss : List Segment) : List Symbol := ss.flatMap Segment.symbols

/-- the text of an expanded word that is not cut -/
def segmentsText (ss : List Segment) : OctetText := symbolsText (segmentsSymbols ss)

/-! ### cutting -/

/-- the fields that have ended, last first, and the symbols of the one that has not, last first -/
structure Cutter where
  fields : List (List Symbol)
  current : List Symbol
  /-- a blank has ended the last field -/
  afterBlank : Bool
  /-- how many fields may still end, if there is a bound -/
  left : Option Nat
  /-- the last field without what is dropped at its end, if something is -/
  keep : Option (List Symbol)
  /-- the segment before is one of parameters -/
  afterParameters : Bool
  /-- this segment is -/
  inParameters : Bool

namespace Cutter

def start (left : Option Nat) : Cutter := ⟨[], [], false, left, none, false, false⟩

def push (k : Cutter) (s : Symbol) : Cutter := { k with current := s :: k.current }

/-- a character of the last field, which takes all that is left but blanks at its end -/
def addToLast (k : Cutter) (s : Symbol) (separates isBlank : Bool) : Cutter :=
  if isBlank then
    { k.push s with keep := some (k.keep.getD k.current) }
  else
    { k.push s with
      keep := if separates && k.afterBlank then k.keep else none
      afterBlank := false }

/-- a character that separates fields; `blank` says that several of them count as one -/
def separate (k : Cutter) (s : Symbol) (blank : Bool) : Cutter :=
  if k.current.isEmpty && blank then { k with afterBlank := false }
  else if k.left == some 1 then
    { k.push s with left := some 0, keep := some k.current, afterBlank := blank }
  else
    { k with
      fields := k.current.reverse :: k.fields
      current := []
      afterBlank := blank
      left := k.left.map (· - 1) }

/-- a character of a segment whose fields may end -/
def add (separators : List Char) (k : Cutter) (s : Symbol) : Cutter :=
  match s with
  | .mark => { k.push s with afterBlank := false }
  | .char c _ =>
    let separates := c == parameterEnd || separators.contains c
    let isBlank := separates && (c == parameterEnd || Context.usualSeparators.contains c)
    if k.left == some 0 then k.addToLast s separates isBlank
    else if k.afterBlank then
      if isBlank then k
      else if separates then { k with afterBlank := false }
      else { k.push s with afterBlank := false }
    else if separates then k.separate s (isBlank && !(k.afterParameters || k.inParameters))
    else k.push s

/-- one segment more -/
def addSegment (separators : List Char) (k : Cutter) (s : Segment) : Cutter :=
  match s.kind with
  | .whole => { k with current := s.symbols.reverse ++ k.current }
  | .value =>
    s.symbols.foldl (add separators)
      { k with afterBlank := false, afterParameters := k.inParameters, inParameters := false }
  | .parameters =>
    s.symbols.foldl (add [])
      { k with afterBlank := false, afterParameters := k.inParameters, inParameters := true }

/-- the fields when nothing more comes; the last of parameters is one even if it is empty -/
def finish (k : Cutter) : List (List Symbol) :=
  let last := k.keep.getD k.current
  (if last.isEmpty && !k.inParameters then k.fields else last.reverse :: k.fields).reverse

end Cutter

/-- the fields of an expanded word -/
def fieldsOf (separators : List Char) (ss : List Segment) : List (List Symbol) :=
  (ss.foldl (Cutter.addSegment separators) (.start none)).finish

/-- the texts of a line for as many variables -/
def partsOf (separators : List Char) (count : Nat) (ss : List Segment) : List OctetText :=
  ((ss.foldl (Cutter.addSegment separators) (.start (some count))).finish).map symbolsText

end ShellWorkers.Script

/-!
## What can be asked of a value

The uses of a parameter in the extended language as functions on texts: a part of it, the text
with something replaced, its letters in another case, or the text in a form in which a shell reads
it back.
-/

namespace ShellWorkers.Script

open Text (OctetText)

/-! ### forms that a shell reads back -/

/-- whether a character cannot be shown -/
def isHidden (c : Char) : Bool := c.toNat < 32 || 126 < c.toNat

def hasHidden (text : OctetText) : Bool := text.toList.any isHidden

/-- whether some character means something to a shell at its place; `before` is the one before -/
def hasSignsFrom : (before : Option Char) → List Char → Bool
  | _, [] => false
  | before, c :: cs =>
    [' ', '\t', '\n', '\'', '"', '\\', '|', '&', ';', '(', ')', '<', '>', '!', '{', '}', '*', '[',
      ']', '?', '^', '$', '\x60'].contains c
      || (c = '~' && (before.isNone || before == some '=' || before == some ':'))
      || (c = '#' && before.isNone) || hasSignsFrom (some c) cs

def hasSigns (text : OctetText) : Bool := hasSignsFrom none text.toList

/-- a text between single quotes -/
def singleQuotes (text : OctetText) : OctetText :=
  if text = "'" then "\\'"
  else "'" ++ String.ofList (text.toList.flatMap fun c =>
    if c = '\'' then ['\'', '\\', '\'', '\''] else [c]) ++ "'"

/-- a text between double quotes -/
def doubleQuotes (text : OctetText) : OctetText :=
  "\"" ++ String.ofList (text.toList.flatMap fun c =>
    if ['"', '$', '\x60', '\\'].contains c then ['\\', c] else [c]) ++ "\""

/-- the letters that stand for hidden characters behind a backslash -/
def hiddenLetters : List (Nat × Char) :=
  [(27, 'E'), (7, 'a'), (11, 'v'), (8, 'b'), (12, 'f'), (10, 'n'), (13, 'r'), (9, 't')]

/-- a text between quotes in which escapes stand for hidden characters -/
def escapeQuotes (text : OctetText) : OctetText :=
  "$'" ++ String.ofList (text.toList.flatMap fun c =>
    match hiddenLetters.lookup c.toNat with
    | some letter => ['\\', letter]
    | none =>
      if c = '\\' || c = '\'' then ['\\', c]
      else if isHidden c then
        let n := c.toNat
        '\\' :: [n / 64, n / 8 % 8, n % 8].map fun d => Char.ofNat (48 + d)
      else [c]) ++ "'"

/-- a text with backslashes before the characters that mean something -/
def backslashed (text : OctetText) : OctetText := String.ofList (go none text.toList)
where
  go (before : Option Char) : List Char → List Char
    | [] => []
    | c :: cs =>
      let isSign := [' ', '\t', '!', '"', '$', '&', '\'', '(', ')', '*', ',', ';', '<', '>', '?',
        '[', '\\', ']', '^', '\x60', '{', '|', '}'].contains c
        || (c = '#' && before.isNone)
        || (c = '~' && (before.isNone || before == some '=' || before == some ':'))
      (if isSign then ['\\', c] else [c]) ++ go (some c) cs

/-- a text as a word, between quotes of any kind -/
def reusable (text : OctetText) : OctetText :=
  if text.isEmpty then "''" else if hasHidden text then escapeQuotes text else singleQuotes text

/-- a text as a word, with backslashes where they are enough -/
def reusableBackslashed (text : OctetText) : OctetText :=
  if text.isEmpty then "''" else if hasHidden text then escapeQuotes text else backslashed text

/-- a value as it is declared -/
def declaredValue (text : OctetText) : OctetText :=
  if hasHidden text then escapeQuotes text else doubleQuotes text

/-- a value as it is listed, between quotes if it needs them -/
def listedValue (text : OctetText) : OctetText :=
  if hasHidden text then escapeQuotes text
  else if hasSigns text then singleQuotes text
  else text

/-- a word as it is shown before a command is run -/
def shownWord (text : OctetText) : OctetText :=
  if text.isEmpty then "''"
  else if hasSigns text then singleQuotes text
  else if hasHidden text then escapeQuotes text
  else text

/-- a key as it is declared -/
def declaredKey (text : OctetText) : OctetText :=
  if hasSigns text then doubleQuotes text
  else if hasHidden text then escapeQuotes text
  else if text = "@" || text = "*" then doubleQuotes text
  else text

/-- the elements of an array as they are declared -/
def declaredItems (items : Items) : OctetText :=
  let body := items.entries.map fun e => "[" ++ declaredKey e.1 ++ "]=" ++ declaredValue e.2
  let close := if items.isTable && !body.isEmpty then " )" else ")"
  "(" ++ " ".intercalate body ++ close

/-- the letters of what is special about a variable -/
def variableLetters (v : Variable) : OctetText :=
  String.ofList
    ((match v.items with
      | .list _ => ['a']
      | .table _ => ['A']
      | .none => [])
    ++ (if v.traits.integer then ['i'] else []) ++ (if v.traits.isName then ['n'] else [])
    ++ (if v.readOnly then ['r'] else []) ++ (if v.exported then ['x'] else [])
    ++ (if v.traits.lower then ['l'] else []) ++ (if v.traits.upper then ['u'] else []))

/-- the declaration of a variable -/
def declaration (v : Variable) : OctetText :=
  let letters := variableLetters v
  let value :=
    if v.traits.bare then ""
    else if v.items.isArray then "=" ++ declaredItems v.items
    else match v.value? with
      | some text => "=" ++ declaredValue text
      | none => ""
  "declare -" ++ (if letters.isEmpty then "-" else letters) ++ " " ++ v.name ++ value

/-! ### parts -/

/-- the place that a number is in a list of a length, counted from the end if it is below zero -/
def placeIn (length : Nat) (n : Int) : Option Nat :=
  if 0 ≤ n then (if n ≤ length then some n.toNat else none)
  else if 0 ≤ n + length then some (n + length).toNat else none

/-- how far a part goes that begins at a place: as long as the number says, or up to the place
that it names from the end; nothing if that lies before the beginning -/
def partEnd (length start : Nat) (n : Int) : Option Nat :=
  if 0 ≤ n then some (start + n.toNat)
  else
    let last : Int := length + n
    if (start : Int) ≤ last then some last.toNat else none

/-! ### replacing -/

/-- the text of a replacement, in which a bare sign stands for what was matched -/
def replacementText (matched : List Char) (ss : List Symbol) : List Char :=
  ss.flatMap fun
    | .char '&' false => matched
    | .char c _ => [c]
    | .mark => []

/-- a text with what matches replaced, once or wherever it is -/
def replaceMatches (p : GroupPattern) (by_ : List Symbol) (all : Bool) :
    (fuel : Nat) → List Char → List Char
  | 0, cs => cs
  | _ + 1, [] => []
  | fuel + 1, c :: cs =>
    match p.startLength? true (c :: cs) with
    | none => c :: replaceMatches p by_ all fuel cs
    | some n =>
      let replaced := replacementText ((c :: cs).take n) by_
      if n = 0 then
        if all then replaced ++ c :: replaceMatches p by_ all fuel cs else replaced ++ c :: cs
      else
        replaced ++ (if all then replaceMatches p by_ all fuel ((c :: cs).drop n)
          else (c :: cs).drop n)

/-- a text with what matches at one of its ends replaced -/
def replaceAtEnd (p : GroupPattern) (by_ : List Symbol) (cs : List Char) : List Char :=
  match p.endLength? true cs with
  | some n =>
    let kept := cs.length - n
    cs.take kept ++ replacementText (cs.drop kept) by_
  | none => cs

/-- a text with what a pattern matches replaced -/
def replaceIn (place : ReplacedPlace) (p : GroupPattern) (by_ : List Symbol) (text : OctetText) :
    OctetText :=
  let cs := text.toList
  String.ofList (match place with
    | .first => if p.isEmpty then cs else replaceMatches p by_ false (cs.length + 1) cs
    | .all => if p.isEmpty then cs else replaceMatches p by_ true (cs.length + 1) cs
    | .atStart =>
      match p.startLength? true cs with
      | some n => replacementText (cs.take n) by_ ++ cs.drop n
      | none => cs
    | .atEnd => replaceAtEnd p by_ cs)

/-! ### cases -/

/-- a letter in another case -/
def changeCase (change : CaseChange) (c : Char) : Char :=
  match change with
  | .upper => c.toUpper
  | .lower => c.toLower
  | .other => if c.isUpper then c.toLower else c.toUpper

/-- a text with the case of its first or of all letters changed that a pattern describes; one
without symbols describes them all -/
def recase (change : CaseChange) (all : Bool) (p : GroupPattern) (text : OctetText) : OctetText :=
  let one (c : Char) : Char :=
    if p.isEmpty || GroupPattern.matchesText false p [c] then changeCase change c else c
  match text.toList with
  | [] => ""
  | c :: cs => String.ofList (one c :: (if all then cs.map one else cs))

/-! ### cutting ends off -/

/-- a text without the shortest or longest end that a pattern describes -/
def withoutDescribedEnd (longest : Bool) (p : GroupPattern) (cs : List Char) : List Char :=
  cs.take (cs.length - (p.endLength? longest cs).getD 0)

/-- a text without the shortest or longest beginning that a pattern describes -/
def withoutDescribedStart (longest : Bool) (p : GroupPattern) (cs : List Char) : List Char :=
  cs.drop ((p.startLength? longest cs).getD 0)

/-! ### forms -/

/-- a value in the form that a letter stands for; `v?` is the variable that it comes from -/
def transform (form : Char) (v? : Option Variable) (text : OctetText) : OctetText :=
  match form with
  | 'Q' => reusable text
  | 'K' => reusable text
  | 'k' => reusable text
  | 'U' => text.map Char.toUpper
  | 'L' => text.map Char.toLower
  | 'u' => recase .upper false [] text
  | 'E' => String.ofList (unescaped (text.length + 1) text.toList)
  | 'a' => (v?.map variableLetters).getD ""
  | 'A' =>
    match v? with
    | some v =>
      let letters := variableLetters v
      (if letters.isEmpty then "" else "declare -" ++ letters ++ " ") ++ v.name ++ "=" ++ reusable text
    | none => ""
  | _ => text

/-- the elements of an array with their keys, as they are read back -/
def keyedElements (v : Variable) : OctetText :=
  " ".intercalate (v.entries.map fun e => declaredKey e.1 ++ " " ++ declaredValue e.2)

end ShellWorkers.Script
