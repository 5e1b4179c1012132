import Std.Data.HashMap
import ShellWorkers.Machine.FileTree
import ShellWorkers.Text.Directive
import ShellWorkers.Text.Utf8
import ShellWorkers.Utility.Records.Scanner

/-!
# Values of programs for records

Numbers, texts and arrays, and what is found and replaced in texts.
-/

/-!
## Arrays of programs for records

An array has values at texts and at whole numbers; a number is the same key as its text.  The order
in which the keys come is that of two rows of lists: a key stands in the list that its hash, or the
number itself, tells, and whatever is asked for comes to the front of its list.  Numbers get places
among the texts only when texts are asked for.  There are twice as many lists whenever they have
become too long on average.  The parts of a text are the exception: they have no lists until a key
is asked for that is none of theirs.
-/

namespace ShellWorkers.Utility.Records

open Text (OctetText)

inductive Key where
  | number (n : Int)
  | text (text : OctetText)

def Key.shown : Key → OctetText
  | .number n => toString n
  | .text t => t

structure Table (α : Type) where
  values : Std.HashMap OctetText α
  /-- lists of texts -/
  texts : Array (List OctetText)
  /-- lists of numbers -/
  numbers : Array (List Int)
  /-- the numbers stand among the texts too -/
  hasTexts : Bool
  /-- the parts of a text -/
  isParts : Bool

namespace Table

/-- how many lists there are at first -/
def initialLists : Nat := 64

/-- how long lists are on average when there must be more of them -/
def averageLimit : Nat := 12

def empty {α : Type} : Table α :=
  ⟨∅, Array.replicate initialLists [], Array.replicate initialLists [], false, false⟩

def size {α : Type} (t : Table α) : Nat := t.values.size

/-- a number of 32 bits that tells texts apart -/
def hashOf (text : OctetText) : Nat :=
  (text.foldl (fun (h : UInt32) c => (h ^^^ c.toNat.toUInt32) * 16777619) 2166136261).toNat

/-- the list in which a number stands, out of so many -/
def placeOf (n : Int) (lists : Nat) : Nat := (n % (lists : Int)).toNat

/-- puts a text to the front of its list -/
def frontText (texts : Array (List OctetText)) (text : OctetText) : Array (List OctetText) :=
  texts.modify (hashOf text % texts.size) fun list => text :: list.erase text

/-- puts a number to the front of its list -/
def frontNumber (numbers : Array (List Int)) (n : Int) : Array (List Int) :=
  numbers.modify (placeOf n numbers.size) fun list => n :: list.erase n

/-- the number of lists for so many values; the fuel is more than the doublings -/
def listsFor (count : Nat) : (fuel : Nat) → (lists : Nat) → Nat
  | 0, lists => lists
  | fuel + 1, lists => if lists * averageLimit < count then listsFor count fuel (2 * lists) else lists

/-- the parts of a text get lists -/
def withLists {α : Type} (t : Table α) : Table α :=
  if t.isParts then
    let lists := listsFor t.size 64 initialLists
    let numbers := (List.range t.size).foldl (fun numbers (i : Nat) =>
      frontNumber numbers (Int.ofNat i + 1)) (Array.replicate lists [])
    { t with texts := Array.replicate lists [], numbers := numbers, isParts := false }
  else t

/-- the numbers get places among the texts -/
def withTexts {α : Type} (t : Table α) : Table α :=
  let t := t.withLists
  if t.hasTexts then t
  else
    { t with
      texts := t.numbers.toList.flatten.foldl (fun texts n => frontText texts (toString n)) t.texts
      hasTexts := true }

/-- lists cut in two: what belongs into one of the new ones goes there -/
def spread {β : Type} (lists : Array (List β)) (place : β → Nat) : Array (List β) :=
  let both := lists.toList.mapIdx fun i list => list.partition fun x => place x == i
  ((both.map Prod.fst) ++ (both.map Prod.snd)).toArray

/-- twice as many lists, if one value more would be too much -/
def withRoom {α : Type} (t : Table α) : Table α :=
  let lists := t.texts.size
  if t.size + 1 ≤ lists * averageLimit then t
  else
    { t with
      texts := spread t.texts fun text => hashOf text % (2 * lists)
      numbers := spread t.numbers fun n => placeOf n (2 * lists) }

/-- whether a table in which numbers are parts has a number without its lists -/
def hasPart {α : Type} (t : Table α) (n : Int) : Bool :=
  t.isParts && decide (1 ≤ n) && decide (n ≤ t.size)

/-- what is at a key, and the table in which it has been asked for -/
def find {α : Type} (t : Table α) (key : Key) : Option α × Table α :=
  if t.size = 0 then (none, t)
  else
    match key with
    | .text text =>
      let t := t.withTexts
      match t.values[text]? with
      | some v => (some v, { t with texts := frontText t.texts text })
      | none => (none, t)
    | .number n =>
      if t.hasPart n then (t.values[toString n]?, t)
      else
        let t := t.withLists
        match t.values[toString n]? with
        | none => (none, t)
        | some v =>
          let texts := if !t.hasTexts || (t.numbers.getD (placeOf n t.numbers.size) []).contains n
            then t.texts else frontText t.texts (toString n)
          (some v, { t with texts := texts, numbers := frontNumber t.numbers n })

/-- puts a value at a key -/
def insert {α : Type} (t : Table α) (key : Key) (value : α) : Table α :=
  let (known, t) := t.find key
  let put (t : Table α) : Table α := { t with values := t.values.insert key.shown value }
  if known.isSome then put t
  else
    match key with
    | .text text =>
      let t := t.withTexts.withRoom
      put { t with texts := frontText t.texts text }
    | .number n =>
      let t := t.withLists.withRoom
      let texts := if t.hasTexts then frontText t.texts (toString n) else t.texts
      put { t with texts := texts, numbers := frontNumber t.numbers n }

/-- takes a key away -/
def erase {α : Type} (t : Table α) (key : Key) : Table α :=
  match t.find key with
  | (none, t) => t
  | (some _, t) =>
    let t := t.withLists
    let text := key.shown
    let values := t.values.erase text
    if values.size = 0 then empty
    else
      { t with
        values := values
        texts := t.texts.modify (hashOf text % t.texts.size) (·.erase text)
        numbers := match text.toInt? with
          | some n => t.numbers.modify (placeOf n t.numbers.size) fun list =>
            list.filter fun n => toString n != text
          | none => t.numbers }

/-- the texts of all keys in their order -/
def keys {α : Type} (t : Table α) : List OctetText × Table α :=
  if t.size = 0 then ([], t)
  else
    let t := t.withTexts
    (t.texts.toList.flatten, t)

/-- the array of the parts of a text -/
def ofParts {α : Type} (parts : List α) : Table α :=
  if parts.isEmpty then empty
  else
    { (empty : Table α) with
      values := (parts.mapIdx fun i v => (toString (i + 1), v)).foldl
        (fun (m : Std.HashMap OctetText α) p => m.insert p.1 p.2) ∅
      isParts := true }

end Table

end ShellWorkers.Utility.Records

/-!
## Values of programs for records

A value is a number or a text, and each can be taken for the other.  A text that comes from outside
is compared as a number if it looks like one; what has not been set is nothing as a text and zero
as a number.  A whole number is written with all its digits, any other by a format.
-/

namespace ShellWorkers.Utility.Records

open Text (OctetText Directive)
open ShellWorkers.Decimal

inductive Value where
  | unset
  | number (x : Float)
  /-- what is no number, without a sign; with one it is a number that is none -/
  | noNumber
  | text (text : OctetText)
  /-- a text from outside -/
  | input (text : OctetText)

/-! ### numbers with a fraction -/

/-- what a number is made of -/
def floatingOf (x : Float) : Floating :=
  let bits := x.toBits.toNat
  let exponent := bits / Nat.pow 2 52 % 2048
  let fraction := bits % Nat.pow 2 52
  let magnitude : Magnitude :=
    if exponent = 2047 then (if fraction = 0 then .infinite else .notNumber)
    else if exponent = 0 then .finite fraction (-1074)
    else .finite (fraction + Nat.pow 2 52) ((exponent : Int) - 1075)
  ⟨Nat.pow 2 63 ≤ bits, magnitude⟩

/-- the number with which a text begins, zero if there is none -/
def numberIn (text : OctetText) : Float :=
  let cs := text.toList
  if !cs.isEmpty && cs.length < 16 && cs.all Char.isDigit then (Floating.digitsIn 10 cs).toFloat
  else
    match Floating.read? cs with
    | some r => Scanner.floatOf r
    | none => 0

/-- whether a text is a number with blanks around it, in decimal notation -/
def looksNumeric (text : OctetText) : Bool :=
  let isBlank (c : Char) : Bool := Scanner.isSpace c || c == '\n'
  let cs := text.toList.dropWhile isBlank
  let cs := if cs.head? == some '-' || cs.head? == some '+' then cs.drop 1 else cs
  match Floating.pointed Char.isDigit cs with
  | none => false
  | some (_, _, rest) => (Floating.exponent ['e', 'E'] rest).2.all isBlank

/-- a number without its fraction, within 32 bits on both sides of zero -/
def wholeOf (x : Float) : Int :=
  if 2147483647.0 ≤ x then 2147483647
  else if 0 ≤ x then x.toUInt64.toNat
  else if -2147483647.0 < x then -((-x).toUInt64.toNat : Int)
  else -2147483647

/-- a number without its fraction and not below zero, within 32 bits -/
def naturalOf (x : Float) : Nat :=
  if 4294967295.0 ≤ x then 4294967295 else if 0 ≤ x then x.toUInt64.toNat else 0

/-- whether a number is a whole one within 32 bits -/
def isWhole (x : Float) : Bool := x.floor == x && x.abs ≤ 2147483647.0

/-- the text of a number without fraction, if it is one and not too large -/
def wholeText? (x : Float) : Option OctetText :=
  if isWhole x then some (toString (wholeOf x)) else none

/-! ### formats -/

/-- why a format cannot be followed -/
inductive FormatFault where
  | tooFew
  | improper (number : Nat)

/-- what a format has given: text, last first, and what ended it -/
structure Formatted where
  text : List Char
  fault : Option FormatFault

/-- the number that a text is, or what is none -/
def numericText (text : OctetText) : Value :=
  let x := numberIn text
  if x.isNaN && (text.toList.dropWhile fun c => Scanner.isSpace c || c == '\n').head? != some '-' then
    .noNumber
  else .number x

/-- what a value is as a number, which may be none -/
def Value.toNumeric : Value → Value
  | .text t => numericText t
  | .input t => numericText t
  | .unset => .number 0
  | v => v

/-- a number as it is written by a directive -/
def directed (d : Directive) (v : Value) : List Char :=
  match v.toNumeric with
  | .number x =>
    if x.isNaN then d.floating .double ⟨true, .notNumber⟩ else d.floating .double (floatingOf x)
  | _ => d.floating .double ⟨false, .notNumber⟩

/-- the number that a width or a precision is, and the rest; an asterisk stands for a value -/
def extent (toNumber : Value → Float) (args : List Value) (cs : List Char) :
    Option Int × List Value × List Char :=
  match cs with
  | '*' :: rest =>
    match args with
    | v :: args => (some (wholeOf (toNumber v)), args, rest)
    | [] => (none, [], rest)
  | cs =>
    let ds := cs.takeWhile Char.isDigit
    (if ds.isEmpty then none else some (Floating.digitsIn 10 ds), args, cs.drop ds.length)

/-- the value that a directive writes, or nothing if there is no such conversion -/
def convert? (toNumber : Value → Float) (toText : Value → OctetText) (d : Directive) (v : Value) :
    Option (List Char) :=
  match d.conversion with
  | 's' => some (d.text (toText v).toList)
  | 'c' =>
    let code (x : Float) : Char := Char.ofNat (wholeOf x % 256).toNat
    let c : Char := match v with
      | .number x => code x
      | .noNumber => code (toNumber v)
      | .input t => if looksNumeric t then code (numberIn t) else t.toList.headD '\x00'
      | v => (toText v).toList.headD '\x00'
    some (d.pad [c])
  | 'd' => some (d.integer (wholeOf (toNumber v)))
  | 'i' => some (d.integer (wholeOf (toNumber v)))
  | 'e' => some (directed d v)
  | 'E' => some (directed d v)
  | 'f' => some (directed d v)
  | 'g' => some (directed d v)
  | 'G' => some (directed d v)
  | 'o' => some (natural v)
  | 'x' => some (natural v)
  | 'X' => some (natural v)
  | 'u' => some (natural v)
  | _ => none
where
  natural (v : Value) : List Char :=
    d.natural (naturalOf (toNumber v))

/-- goes through a format with its values; `number` counts its directives, and the fuel is more
than its length -/
def formatValues (toNumber : Value → Float) (toText : Value → OctetText) : (fuel : Nat) →
    (number : Nat) → (text : List Char) → List Value → List Char → Formatted
  | 0, _, text, _, _ => ⟨text, none⟩
  | _ + 1, _, text, _, [] => ⟨text, none⟩
  | fuel + 1, number, text, args, '%' :: '%' :: rest =>
    formatValues toNumber toText fuel number ('%' :: text) args rest
  | fuel + 1, number, text, args, '%' :: rest =>
    let flags := rest.takeWhile fun c => ['-', '+', ' ', '#', '0'].contains c
    let (width, args, rest) := extent toNumber args (rest.drop flags.length)
    let (precision, args, rest) : Option Int × List Value × List Char := match rest with
      | '.' :: rest =>
        let (precision, args, rest) := extent toNumber args rest
        (some (precision.getD 0), args, rest)
      | rest => (none, args, rest)
    let rest := rest.dropWhile fun c => c == 'l' || c == 'h'
    match args with
    | [] => ⟨text, some .tooFew⟩
    | v :: args =>
      let width := width.getD 0
      let d : Directive :=
        { left := flags.contains '-' || decide (width < 0), plus := flags.contains '+'
          space := flags.contains ' ', alternate := flags.contains '#'
          zeros := flags.contains '0', width := width.natAbs
          precision := match precision with
            | some p => if p < 0 then none else some p.toNat
            | none => none
          conversion := rest.headD ' ' }
      match convert? toNumber toText d v with
      | none => ⟨text, some (.improper (number + 1))⟩
      | some cs =>
        formatValues toNumber toText fuel (number + 1) (cs.reverse ++ text) args (rest.drop 1)
  | fuel + 1, number, text, args, c :: rest =>
    formatValues toNumber toText fuel number (c :: text) args rest

/-- what is a number or none, by a format of its own -/
def fractionText (format : OctetText) (v : Value) : OctetText :=
  if format = "%.6g" then
    String.ofList (directed { Directive.plain 'g' with precision := some 6 } v)
  else
    let toNumber : Value → Float
      | .number x => x
      | _ => 0.0 / 0.0
    let f := formatValues toNumber (fun _ => "") (format.length + 1) 0 [] [v] format.toList
    String.ofList f.text.reverse

/-- a number, by a format unless it is whole -/
def numberText (format : OctetText) (x : Float) : OctetText :=
  (wholeText? x).getD (fractionText format (.number x))

/-! ### values as numbers, texts, conditions and keys -/

namespace Value

def toNumber : Value → Float
  | .unset => 0
  | .number x => x
  | .noNumber => 0.0 / 0.0
  | .text t => numberIn t
  | .input t => numberIn t

/-- the text of a value; numbers are written by a format -/
def toText (format : OctetText) : Value → OctetText
  | .unset => ""
  | .number x => numberText format x
  | .noNumber => fractionText format .noNumber
  | .text t => t
  | .input t => t

def isTrue : Value → Bool
  | .unset => false
  | .number x => x != 0
  | .noNumber => true
  | .text t => !t.isEmpty
  | .input t => if looksNumeric t then numberIn t != 0 else !t.isEmpty

/-- the key that a value is in an array -/
def toKey (format : OctetText) : Value → Key
  | .number x => if isWhole x then .number (wholeOf x) else .text (numberText format x)
  | v => .text (v.toText format)

/-- the number that a value is compared as, if it is compared as one -/
def asNumber? : Value → Option Float
  | .unset => some 0
  | .number x => some x
  | .noNumber => some (0.0 / 0.0)
  | .text _ => none
  | .input t => if looksNumeric t then some (numberIn t) else none

/-- compares two texts by their characters -/
def orderOfTexts (a b : OctetText) : Ordering :=
  if a == b then .eq else if Machine.FileTree.precedes a.toList b.toList then .lt else .gt

/-- compares two values, as numbers if both are some -/
def order (format : OctetText) (a b : Value) : Ordering :=
  match a.asNumber?, b.asNumber? with
  | some x, some y => if x < y then .lt else if y < x then .gt else .eq
  | _, _ => orderOfTexts (a.toText format) (b.toText format)

def ofBool (b : Bool) : Value := .number (if b then 1 else 0)

def ofNat (n : Nat) : Value := .number n.toFloat

end Value

/-- whether a relation holds in an order -/
def Relation.holds (r : Relation) (o : Ordering) : Bool :=
  match r with
  | .less => o == .lt
  | .lessEqual => o != .gt
  | .equal => o == .eq
  | .different => o != .eq
  | .greater => o == .gt
  | .greaterEqual => o != .lt

end ShellWorkers.Utility.Records

/-!
## Replacing what is found in a text

What is found of a pattern is replaced, once or everywhere.  In a replacement a sign stands for what
has been found, unless a backslash stands before it.
-/

namespace ShellWorkers.Utility.Records

open Text (OctetText)

/-- a part of a replacement -/
inductive ReplacementPart where
  | char (c : Char)
  | found

/-- the parts of a replacement: backslashes are special only in front of a sign for what is found.
`slashes` counts those that have been read. -/
def replacementParts (slashes : Nat) : List Char → List ReplacementPart
  | [] => List.replicate slashes (.char '\\')
  | '\\' :: rest => replacementParts (slashes + 1) rest
  | '&' :: rest =>
    List.replicate (slashes / 2) (.char '\\')
      ++ (if slashes % 2 = 1 then .char '&' else .found) :: replacementParts 0 rest
  | c :: rest => List.replicate slashes (.char '\\') ++ .char c :: replacementParts 0 rest

/-- the text that takes the place of what is found -/
def replacementText (parts : List ReplacementPart) (found : List Char) : List Char :=
  parts.flatMap fun
    | .char c => [c]
    | .found => found

/-- a text in which what is found is replaced, last first, and how often that was done.  Nothing is
found behind something that has been found unless it is something, or `mayBeEmpty`. -/
def replaceFrom (r : Regex) (parts : List ReplacementPart) (everywhere : Bool) : (fuel : Nat) →
    (mayBeEmpty : Bool) → (passed : List Char) → (done : List Char) → (count : Nat) →
    List Char → List Char × Nat
  | 0, _, _, done, count, cs => (cs.reverse ++ done, count)
  | fuel + 1, mayBeEmpty, passed, done, count, cs =>
    let accepts (start stop : Regex.Place) : Bool :=
      mayBeEmpty || start.offset != 0 || stop.offset != 0
    match r.findAccepted? accepts passed cs with
    | none => (cs.reverse ++ done, count)
    | some m =>
      let done := (replacementText parts m.text).reverse
        ++ ((cs.take m.start.offset).reverse ++ done)
      if !everywhere then (m.stop.rest.reverse ++ done, count + 1)
      else if !m.isEmpty then
        replaceFrom r parts everywhere fuel false m.stop.passed done (count + 1) m.stop.rest
      else
        match m.stop.rest with
        | [] => (done, count + 1)
        | c :: rest =>
          replaceFrom r parts everywhere fuel true (c :: m.stop.passed) (c :: done) (count + 1) rest

/-- a text in which what is found of a pattern is replaced, and how often that was done -/
def replaceFound (r : Regex) (everywhere : Bool) (replacement text : OctetText) :
    OctetText × Nat :=
  let (done, count) := replaceFrom r (replacementParts 0 replacement.toList) everywhere
    (text.length + 2) true [] [] 0 text.toList
  (String.ofList done.reverse, count)

end ShellWorkers.Utility.Records
