import ShellWorkers.Text.CharKind
import ShellWorkers.Utility.Options

/-!
# Exchanging characters

`tr` replaces, removes and squeezes the characters of its input.  A set of characters is spelled
as a list of items: characters, ranges, classes and repetitions.
-/

namespace ShellWorkers.Utility

open Machine
open Text (OctetText)

/-- all octets as characters -/
def allChars : List Char := (List.range 256).map Char.ofNat

namespace Translation

/-! ## the spelling of sets -/

/-- a part of a set; a repetition without a number is as long as needed -/
inductive Item where
  | char (c : Char)
  | range (first last : Char)
  | members (name : OctetText)
  | equal (c : Char)
  | repeated (c : Char) (count : Option Nat)
  deriving DecidableEq

/-- a character of a spelling; one behind a backslash has no meaning of its own -/
structure Letter where
  char : Char
  escaped : Bool
  deriving DecidableEq

/-- the letters of a spelling, and warnings about it -/
def unescape : List Char → List Letter × List OctetText
  | [] => ([], [])
  | ['\\'] =>
    ([⟨'\\', false⟩], ["warning: an unescaped backslash at end of string is not portable"])
  | '\\' :: c :: cs =>
    let isOctal (c : Char) : Bool := 48 ≤ c.toNat && c.toNat ≤ 55
    let value (c : Char) : Nat := c.toNat - 48
    let plain (n : Nat) (r : List Letter × List OctetText) : List Letter × List OctetText :=
      (⟨Char.ofNat n, true⟩ :: r.1, r.2)
    if isOctal c then
      match cs with
      | d :: e :: cs =>
        if isOctal d && isOctal e then
          let n := value c * 64 + value d * 8 + value e
          if n < 256 then plain n (unescape cs)
          else
            let r := plain (value c * 8 + value d) (unescape (e :: cs))
            let spelled := String.ofList [c, d, e]
            (r.1, ("warning: the ambiguous octal escape \\" ++ spelled
              ++ " is being\n\tinterpreted as the 2-byte sequence \\0" ++ String.ofList [c, d]
              ++ ", " ++ String.ofList [e]) :: r.2)
        else if isOctal d then plain (value c * 8 + value d) (unescape (e :: cs))
        else plain (value c) (unescape (d :: e :: cs))
      | [d] =>
        if isOctal d then plain (value c * 8 + value d) ([], []) else plain (value c) (unescape [d])
      | [] => plain (value c) ([], [])
    else
      let letter := match c with
        | 'a' => '\x07'
        | 'b' => '\x08'
        | 'f' => '\x0c'
        | 'n' => '\n'
        | 'r' => '\r'
        | 't' => '\t'
        | 'v' => '\x0b'
        | c => c
      let r := unescape cs
      (⟨letter, true⟩ :: r.1, r.2)
  | c :: cs =>
    let r := unescape cs
    (⟨c, false⟩ :: r.1, r.2)

/-- a letter that has its meaning -/
def isPlain (c : Char) (l : Letter) : Bool := !l.escaped && l.char == c

/-- a letter in a message -/
def shownLetter (c : Char) : OctetText :=
  if c = '\\' then "\\\\"
  else if isPrintable c then String.ofList [c]
  else String.ofList (escapedChar c)

/-- what stands before a mark and a closing bracket, and what follows them -/
def untilClosing (mark : Char) : List Letter → Option (List Letter × List Letter)
  | [] => none
  | l :: ls =>
    match ls with
    | l' :: rest =>
      if isPlain mark l && isPlain ']' l' then some ([], rest)
      else (untilClosing mark ls).map fun (inner, rest) => (l :: inner, rest)
    | [] => none

/-- the letters of a text -/
def textOf (ls : List Letter) : OctetText := String.ofList (ls.map Letter.char)

/-- a repetition behind its bracket: the item and the rest -/
def readRepetition (ls : List Letter) : Option (Except OctetText (Item × List Letter)) :=
  match ls with
  | c :: star :: rest =>
    if !isPlain '*' star then none
    else
      let ds := rest.takeWhile fun l => !isPlain ']' l
      match rest.drop ds.length with
      | [] => none
      | _ :: rest =>
        let digits := ds.map Letter.char
        let isOctal := digits.head? == some '0'
        let valid := digits.all fun d => d.isDigit && (!isOctal || d.toNat < 56)
        let n := digits.foldl (fun n d => n * (if isOctal then 8 else 10) + (d.toNat - 48)) 0
        if ds.isEmpty || (valid && n = 0) then some (.ok (.repeated c.char none, rest))
        else if valid then some (.ok (.repeated c.char (some n), rest))
        else
          some (.error ("invalid repeat count " ++ quoted (textOf ds) ++ " in [c*n] construct"))
  | _ => none

/-- whether letters are a star, digits and a closing bracket -/
def isStarred (ls : List Letter) : Bool :=
  match ls with
  | star :: rest =>
    isPlain '*' star && ((rest.dropWhile (·.char.isDigit)).head?.map (isPlain ']')).getD false
  | [] => false

/-- a construct behind its bracket: the item and the rest -/
def readConstruct (ls : List Letter) : Option (Except OctetText (Item × List Letter)) :=
  match ls with
  | mark :: inside =>
    let kind? : Option Char :=
      if isPlain ':' mark then some ':' else if isPlain '=' mark then some '=' else none
    match kind?.bind fun kind => (untilClosing kind inside).map fun r => (kind, r) with
    | none => readRepetition ls
    | some (kind, [], _) =>
      some (.error (if kind = ':' then "missing character class name '[::]'"
        else "missing equivalence class character '[==]'"))
    | some (':', name, rest) =>
      if (Text.charKind? (textOf name)).isSome then some (.ok (.members (textOf name), rest))
      else if isStarred inside then readRepetition ls
      else some (.error ("invalid character class " ++ quoted (textOf name)))
    | some (_, [c], rest) => some (.ok (.equal c.char, rest))
    | some (_, operand, _) =>
      if isStarred inside then readRepetition ls
      else
        some (.error (textOf operand
          ++ ": equivalence class operand must be a single character"))
  | [] => none

/-- the items of a spelling; the fuel is more than its length -/
def readItems : (fuel : Nat) → List Letter → Except OctetText (List Item)
  | 0, _ => .ok []
  | _ + 1, [] => .ok []
  | fuel + 1, l :: ls => do
    let single : Except OctetText (List Item) := do
      match ls with
      | dash :: last :: rest =>
        if isPlain '-' dash then
          if l.char.toNat ≤ last.char.toNat then
            return .range l.char last.char :: (← readItems fuel rest)
          else
            .error ("range-endpoints of '" ++ shownLetter l.char ++ "-" ++ shownLetter last.char
              ++ "' are in reverse collating sequence order")
        else return .char l.char :: (← readItems fuel ls)
      | _ => return .char l.char :: (← readItems fuel ls)
    if isPlain '[' l && 2 ≤ ls.length then
      match readConstruct ls with
      | none => single
      | some (.error message) => .error message
      | some (.ok (item, rest)) => return item :: (← readItems fuel rest)
    else single

/-! ## what items stand for -/

namespace Item

/-- the characters of an item; a repetition of no length has none -/
def chars : Item → List Char
  | .char c => [c]
  | .range a b => (List.range (b.toNat - a.toNat + 1)).map fun n => Char.ofNat (a.toNat + n)
  | .members name => allChars.filter ((Text.charKind? name).getD fun _ => false)
  | .equal c => [c]
  | .repeated c count => List.replicate (count.getD 0) c

/-- a class that letters can be exchanged with -/
def isCase : Item → Bool
  | .members name => name == "upper" || name == "lower"
  | _ => false

def isClass : Item → Bool
  | .members _ => true
  | _ => false

def isEqual : Item → Bool
  | .equal _ => true
  | _ => false

def isOpen : Item → Bool
  | .repeated _ none => true
  | _ => false

end Item

/-- the characters of items in order -/
def charsOf (items : List Item) : List Char := items.flatMap Item.chars

/-- the characters that are not among some -/
def complement (cs : List Char) : List Char := allChars.filter fun c => !cs.contains c

/-! ## translations -/

/-- what is exchanged: a class of letters with the other one, or a character with another -/
inductive Exchange where
  | one (source target : Char)
  | raise
  | lower

/-- a place in items: the characters left of the first item, whether none of them has been used,
and the other items -/
structure Place where
  chars : List Char
  item? : Option Item
  isFresh : Bool
  items : List Item

namespace Place

/-- passes over items that are used up -/
def settle : (chars : List Char) → (item? : Option Item) → (isFresh : Bool) → List Item → Place
  | c :: cs, item?, isFresh, items => ⟨c :: cs, item?, isFresh, items⟩
  | [], _, _, [] => ⟨[], none, true, []⟩
  | [], _, _, item :: items => settle item.chars (some item) true items

def start (items : List Item) : Place := settle [] none true items

def next (p : Place) : Place := settle (p.chars.drop 1) p.item? false p.items

/-- behind the present item -/
def skip (p : Place) : Place := start p.items

def isCase (p : Place) : Bool := (p.item?.map Item.isCase).getD false

end Place

/-- the exchanges of two lists of items side by side; the fuel is more than their characters -/
def pairUp : (fuel : Nat) → Place → Place → Except OctetText (List Exchange)
  | 0, _, _ => .ok []
  | fuel + 1, p, q =>
    match p.chars.head?, q.chars.head? with
    | some a, some b =>
      if q.isFresh && q.isCase && !(p.isFresh && p.isCase) then
        .error "misaligned [:upper:] and/or [:lower:] construct"
      else if q.isCase then
        let here : Exchange := match p.item?, q.item? with
          | some (.members "lower"), some (.members "upper") => .raise
          | some (.members "upper"), some (.members "lower") => .lower
          | _, _ => .one a b
        (here :: ·) <$> pairUp fuel p.skip q.skip
      else (.one a b :: ·) <$> pairUp fuel p.next q.next
    | _, _ => .ok []

/-- the character that another becomes -/
def applyExchanges (exchanges : List Exchange) (c : Char) : Char :=
  exchanges.foldl (fun now e =>
    match e with
    | .one a b => if a = c then b else now
    | .raise => if c.isLower then c.toUpper else now
    | .lower => if c.isUpper then c.toLower else now) c

/-- the length of items in a translation, where a class of letters counts as one -/
def lengthOf (casesCount : Bool) (items : List Item) : Nat :=
  items.foldl (fun n item =>
    n + (if casesCount && item.isCase then 1 else item.chars.length)) 0

/-- a repetition without a number takes up the difference of lengths -/
def fill (length : Nat) (items : List Item) : List Item :=
  let short := length - (charsOf items).length
  items.map fun item =>
    match item with
    | .repeated c none => .repeated c (some short)
    | item => item

/-- the last character of items goes on to a length; no class can go on -/
def extend (length : Nat) (items : List Item) : Except OctetText (List Item) :=
  match items.getLast? with
  | none => .error "when not truncating set1, string2 must be non-empty"
  | some (.members _) =>
    .error ("when translating with string1 longer than string2,\n"
      ++ "the latter string must not end with a character class")
  | some (.char c) => .ok (items ++ [.repeated c (some length)])
  | some (.range _ c) => .ok (items ++ [.repeated c (some length)])
  | some (.repeated c _) => .ok (items ++ [.repeated c (some length)])
  | some (.equal c) => .ok (items ++ [.repeated c (some length)])

/-- what is done to characters, in tables by their numbers: what they become, which are removed, and
of which only one stays where several follow each other; what is not in a table is left alone -/
structure Change where
  becomes : Array Char
  removed : Array Bool
  squeezed : Array Bool

/-- the table of the characters that are in a set -/
def memberOf (cs : List Char) : Array Bool := (allChars.map cs.contains).toArray

/-- the table of the exchange of the characters of one set with those of another -/
def exchange (complemented truncated : Bool) (first second : List Item) :
    Except OctetText (Array Char) := do
  let chars := if complemented then complement (charsOf first) else charsOf first
  let cases := !complemented && second.any Item.isCase
  let second := fill chars.length second
  if second.any Item.isEqual then
    .error "[=c=] expressions may not appear in string2 when translating"
  if second.any fun item => item.isClass && !item.isCase then
    .error ("when translating, the only character classes that may appear in\n"
      ++ "string2 are 'upper' and 'lower'")
  if cases then
    let _ ← pairUp (2 * (chars.length + (charsOf second).length) + 2) (.start first) (.start second)
  let length := if cases then lengthOf true first else chars.length
  let had := lengthOf cases second
  let second ← if had < length && !truncated then extend (length - had) second else pure second
  let targets := charsOf second
  if complemented && first.any Item.isClass
      && !(targets.length == chars.length && targets.all fun c => some c == targets.head?) then
    .error ("when translating with complemented character classes,\n"
      ++ "string2 must map all characters in the domain to one")
  if complemented then
    let pairs := chars.zip targets
    return (allChars.map fun c => (pairs.lookup c).getD c).toArray
  else
    let exchanges ← pairUp (2 * (chars.length + targets.length) + 2) (.start first) (.start second)
    return (allChars.map (applyExchanges exchanges)).toArray

/-! ## the work -/

/-- a text with a change done to it, and the character that came last -/
def Change.apply (k : Change) (text : OctetText) (last : Option Char) : OctetText × Option Char :=
  text.foldl (fun (done, last) c =>
    if k.removed.getD c.toNat false then (done, last)
    else
      let c := k.becomes.getD c.toNat c
      if k.squeezed.getD c.toNat false && last == some c then (done, last)
      else (done.push c, some c)) ("", last)

/-- changes the input piece by piece -/
def passOver (k : Change) : (fuel : Nat) → (last : Option Char) → Work Unit
  | 0, _ => pure ()
  | fuel + 1, last => do
    match ← ask (.read 0 pieceSize) with
    | .error e => fail ("read error: " ++ faultText e)
    | .ok text =>
      if !text.isEmpty then
        let (text, last) := k.apply text last
        put text
        passOver k fuel last

/-- the items of an argument, or the end of the utility -/
def itemsOf (spelled : OctetText) : Work (List Item) := do
  let (letters, warnings) := unescape spelled.toList
  warnings.forM note
  match readItems (letters.length + 1) letters with
  | .ok items => pure items
  | .error message => fail message

/-- ends the utility with two messages about its operands -/
def misusedBecause {α : Type} (message reason : OctetText) : Work α := do
  note message
  if !reason.isEmpty then putMessage (reason ++ "\n")
  putMessage ("Try '" ++ (← get).name ++ " --help' for more information.\n")
  stop 1

def options : OptionTable where
  letters := "cCdst"
  names := [("complement", .nothing, "c"), ("delete", .nothing, "d"),
    ("squeeze-repeats", .nothing, "s"), ("truncate-set1", .nothing, "t")]
  strict := true

/-- as many operands as the options ask for, or the end of the utility -/
def checkOperands (deletes squeezes : Bool) (operands : List OctetText) : Work Unit := do
  let least := if deletes == squeezes then 2 else 1
  let most := if deletes && !squeezes then 1 else 2
  if operands.length < least then
    match operands.getLast? with
    | none => missingOperand
    | some operand =>
      misusedBecause ("missing operand after " ++ quoted operand)
        (if squeezes then
          "Two strings must be given when both deleting and squeezing repeats."
        else "Two strings must be given when translating.")
  match operands.drop most with
  | operand :: _ =>
    misusedBecause ("extra operand " ++ quoted operand)
      (if operands.length = 2 then
        "Only one string may be given when deleting without squeezing repeats."
      else "")
  | [] => pure ()

end Translation

open Translation in
def tr (args : List OctetText) : Work Unit := do
  let a ← readArguments Translation.options 1 args
  let deletes := a.has "d"
  let squeezes := a.has "s"
  let complemented := a.has "c" || a.has "C"
  checkOperands deletes squeezes a.operands
  let first ← itemsOf (a.operands.head?.getD "")
  let second? ← match a.operands with
    | [_, spelled] => some <$> itemsOf spelled
    | _ => pure none
  if first.any Item.isOpen then fail "the [c*] repeat construct may not appear in string1"
  let second := second?.getD []
  if 1 < (second.filter Item.isOpen).length then
    fail "only one [c*] repeat construct may appear in string2"
  let chars := if complemented then complement (charsOf first) else charsOf first
  if second?.isSome && !deletes then
    match exchange complemented (a.has "t") first second with
    | .error message => fail message
    | .ok f =>
      let targets := charsOf (fill chars.length second)
      passOver ⟨f, #[], if squeezes then memberOf targets else #[]⟩ streamFuel none
  else if second.any Item.isOpen then
    fail "the [c*] construct may appear in string2 only when translating"
  else
    let squeezed := if deletes then charsOf second else chars
    passOver ⟨#[], if deletes then memberOf chars else #[],
      if squeezes then memberOf squeezed else #[]⟩ streamFuel none

end ShellWorkers.Utility
