import ShellWorkers.Script.Syntax
import ShellWorkers.Text.CharKind

/-!
# Patterns

The patterns that every shell has, and those that only the extended language has.
-/

/-!
## Patterns of a shell

A pattern is a list of symbols: characters that stand for themselves, one or any number of
arbitrary characters, and classes.  It is read from characters that know whether they are quoted;
outside of quotes a backslash makes the next character stand for itself too.

* `Pattern.rests`         what is left of a text behind what a pattern describes;
* `Pattern.matchesText`   whether a text is described by a pattern;
* `Pattern.isProper`      whether characters are more than a text, as the part of a path.
-/

namespace ShellWorkers.Script

open Text (OctetText)

/-- what stands in the brackets of a class -/
inductive ClassItem where
  | range (first last : Char)
  /-- the characters of a kind -/
  | kind (holds : Char → Bool)

inductive PatternSymbol where
  | char (c : Char)
  | one
  | many
  /-- the characters of a class, or those outside of it -/
  | oneOf (negated : Bool) (items : List ClassItem)

abbrev Pattern := List PatternSymbol

/-- a character and whether it is quoted -/
abbrev MarkedChar := Char × Bool

namespace Pattern

/-! ### kinds of characters -/

/-- the kind that a text starts with behind its opening bracket, and the rest -/
def kind? (cs : List MarkedChar) : Option ((Char → Bool) × List MarkedChar) :=
  match cs with
  | (':', false) :: rest =>
    let name := rest.takeWhile (·.1 != ':')
    match rest.drop name.length with
    | (':', false) :: (']', false) :: after =>
      (Text.charKind? (String.ofList (name.map Prod.fst))).map (·, after)
    | _ => none
  | _ => none

/-! ### reading -/

/-- the character that comes next, a backslash outside of quotes taken away -/
def nextChar : List MarkedChar → Option (Char × List MarkedChar)
  | [] => none
  | ('\\', false) :: (c, _) :: rest => some (c, rest)
  | (c, _) :: rest => some (c, rest)

/-- the items of a class up to its closing bracket, which is an item when it comes first, and the
rest; nothing if the class is not closed -/
def classItems : (fuel : Nat) → (first : Bool) → List MarkedChar →
    Option (List ClassItem × List MarkedChar)
  | 0, _, _ => none
  | fuel + 1, first, cs =>
    let behind (item : ClassItem) (rest : List MarkedChar) :
        Option (List ClassItem × List MarkedChar) := do
      let (items, rest) ← classItems fuel false rest
      return (item :: items, rest)
    let single (_ : Unit) : Option (List ClassItem × List MarkedChar) := do
      let (c, rest) ← nextChar cs
      match rest with
      | ('-', false) :: after =>
        if after.head? == some (']', false) then behind (.range c c) rest
        else
          let (d, after) ← nextChar after
          behind (.range c d) after
      | rest => behind (.range c c) rest
    match cs with
    | [] => none
    | (']', false) :: rest => if first then single () else some ([], rest)
    | ('[', false) :: rest =>
      match kind? rest with
      | some (holds, rest) => behind (.kind holds) rest
      | none => single ()
    | _ => single ()

/-- the pattern of marked characters; `fuel` is at least their number -/
def compile : (fuel : Nat) → List MarkedChar → Pattern
  | 0, _ => []
  | _ + 1, [] => []
  | fuel + 1, (c, quoted) :: rest =>
    if quoted then .char c :: compile fuel rest
    else if c = '*' then .many :: compile fuel rest
    else if c = '?' then .one :: compile fuel rest
    else if c = '[' then
      let (negated, inner) := match rest with
        | ('!', false) :: r => (true, r)
        | r => (false, r)
      match classItems (rest.length + 1) true inner with
      | some (items, after) => .oneOf negated items :: compile fuel after
      | none => .char '[' :: compile fuel rest
    else if c = '\\' then
      match rest with
      | [] => [.char '\\']
      | (d, _) :: rest => .char d :: compile fuel rest
    else .char c :: compile fuel rest

def ofMarked (cs : List MarkedChar) : Pattern := compile cs.length cs

/-! ### matching -/

/-- the place of an octet in the order of ranges, where those above 127 come first -/
def rank (c : Char) : Nat := (c.toNat + 128) % 256

def ClassItem.holds (c : Char) : ClassItem → Bool
  | .range first last => rank first ≤ rank c && rank c ≤ rank last
  | .kind holds => holds c

/-- whether a symbol describes one character -/
def describes (s : PatternSymbol) (c : Char) : Bool :=
  match s with
  | .char d => c == d
  | .one => true
  | .many => true
  | .oneOf negated items => (items.any (ClassItem.holds c)) != negated

/-- what is left of a text, and how much of it has been passed -/
structure Rest where
  offset : Nat
  text : List Char

namespace Rest

/-- all that can be left from a place on, the most first; `found` has been found, last first -/
def onward (found : List Rest) (offset : Nat) : List Char → List Rest
  | [] => (⟨offset, []⟩ :: found).reverse
  | c :: cs => onward (⟨offset, c :: cs⟩ :: found) (offset + 1) cs

/-- what is left behind a character -/
def behind? (holds : Char → Bool) (r : Rest) : Option Rest :=
  match r.text with
  | [] => none
  | c :: cs => if holds c then some ⟨r.offset + 1, cs⟩ else none

/-- whether nothing is left in the end -/
def reachEnd (rests : List Rest) : Bool := rests.getLast?.any (·.text.isEmpty)

end Rest

/-- what can be left behind a symbol, where one of some rests has been left before it; the most
comes first -/
def behind (s : PatternSymbol) (rests : List Rest) : List Rest :=
  match s, rests with
  | .many, [] => []
  | .many, r :: _ => Rest.onward [] r.offset r.text
  | s, rests => rests.filterMap (Rest.behind? (describes s))

/-- what can be left of a text behind what a pattern describes, the most first -/
def rests (p : Pattern) (cs : List Char) : List Rest :=
  p.foldl (fun rests s => behind s rests) [⟨0, cs⟩]

/-- whether a text is described by a pattern -/
def matchesText (p : Pattern) (cs : List Char) : Bool := Rest.reachEnd (rests p cs)

/-- a text without the shortest or longest beginning that a pattern describes -/
def withoutStart (longest : Bool) (p : Pattern) (text : List Char) : List Char :=
  let all := rests p text
  ((if longest then all.getLast? else all.head?).map Rest.text).getD text

/-- a text without the shortest or longest end that a pattern describes -/
def withoutEnd (longest : Bool) (p : Pattern) (text : List Char) : List Char :=
  (withoutStart longest p.reverse text.reverse).reverse

/-! ### patterns of names

Utilities read patterns from texts; in these a circumflex negates a class like an exclamation
mark. -/

/-- marked characters in which classes are negated by exclamation marks only -/
def markedGlob : List Char → List MarkedChar
  | '\\' :: c :: cs => ('\\', false) :: (c, false) :: markedGlob cs
  | '[' :: '^' :: cs => ('[', false) :: ('!', false) :: markedGlob cs
  | c :: cs => (c, false) :: markedGlob cs
  | [] => []

/-- the pattern of a text -/
def ofGlob (text : List Char) : Pattern := ofMarked (markedGlob text)

/-! ### patterns in paths -/

/-- whether an opening bracket is closed before the component ends -/
def closes : (fuel : Nat) → List MarkedChar → Bool
  | 0, _ => false
  | fuel + 1, cs =>
    match nextChar cs with
    | none => false
    | some (_, rest) => rest.head? == some (']', false) || closes fuel rest

/-- whether a component of a path is more than a name; `fuel` is at least its length -/
def isProperFrom : (fuel : Nat) → List MarkedChar → Bool
  | 0, _ => false
  | _ + 1, [] => false
  | fuel + 1, (c, quoted) :: rest =>
    if quoted then isProperFrom fuel rest
    else if c = '*' || c = '?' then true
    else if c = '[' then
      closes (rest.length + 1) (if rest.head? == some ('!', false) then rest.drop 1 else rest)
        || isProperFrom fuel rest
    else if c = '\\' then isProperFrom fuel (rest.drop 1)
    else isProperFrom fuel rest

def isProper (cs : List MarkedChar) : Bool := isProperFrom cs.length cs

end Pattern

end ShellWorkers.Script

/-!
## Patterns of the extended language

Patterns in which a circumflex negates a class like an exclamation mark, and which can have groups:
a sign before parentheses says how often one of the patterns between them is to describe the text.

* `GroupPattern.rests`         what is left of a text behind what a pattern describes;
* `GroupPattern.matchesText`   whether a text is described by a pattern.
-/

namespace ShellWorkers.Script

open Text (OctetText)

/-- how often one of the patterns of a group describes a text -/
inductive GroupKind where
  | atMostOnce
  | anyNumber
  | atLeastOnce
  | once
  /-- none of them describes it -/
  | never
  deriving DecidableEq

inductive GroupSymbol where
  | single (s : PatternSymbol)
  | group (kind : GroupKind) (options : List (List GroupSymbol))

abbrev GroupPattern := List GroupSymbol

namespace GroupPattern

/-! ### reading -/

/-- what a sign says about the group behind it -/
def kindOf? : Char → Option GroupKind
  | '?' => some .atMostOnce
  | '*' => some .anyNumber
  | '+' => some .atLeastOnce
  | '@' => some .once
  | '!' => some .never
  | _ => none

/-- a group is opened behind a sign -/
def opensGroup (c : Char) (rest : List MarkedChar) : Bool :=
  (kindOf? c).isSome && rest.head? == some ('(', false)

/-- The patterns of a group up to its closing parenthesis, and the rest; nothing if it is not
closed.  It is inside of `depth` groups of its own. -/
def optionsOf : (depth : Nat) → List MarkedChar →
    Option (List (List MarkedChar) × List MarkedChar)
  | _, [] => none
  | depth, (c, quoted) :: rest =>
    let more (depth : Nat) : Option (List (List MarkedChar) × List MarkedChar) := do
      match ← optionsOf depth rest with
      | (first :: others, after) => some (((c, quoted) :: first) :: others, after)
      | ([], after) => some ([[(c, quoted)]], after)
    if quoted then more depth
    else if c = '(' then more (depth + 1)
    else if c = ')' then
      match depth with
      | 0 => some ([[]], rest)
      | depth + 1 => more depth
    else if c = '|' && depth = 0 then do
      let (options, after) ← optionsOf 0 rest
      some ([] :: options, after)
    else more depth

/-- the pattern of marked characters, with groups if they mean something; `fuel` is at least their
number -/
def compile (groups : Bool) : (fuel : Nat) → List MarkedChar → GroupPattern
  | 0, _ => []
  | _ + 1, [] => []
  | fuel + 1, (c, quoted) :: rest =>
    let single (s : PatternSymbol) (rest : List MarkedChar) : GroupPattern :=
      .single s :: compile groups fuel rest
    if quoted then single (.char c) rest
    else if groups && opensGroup c rest then
      match kindOf? c, optionsOf 0 (rest.drop 1) with
      | some kind, some (options, after) =>
        .group kind (options.map (compile groups fuel)) :: compile groups fuel after
      | _, _ => single (.char c) rest
    else if c = '*' then single .many rest
    else if c = '?' then single .one rest
    else if c = '[' then
      let (negated, inner) := match rest with
        | ('!', false) :: r => (true, r)
        | ('^', false) :: r => (true, r)
        | r => (false, r)
      match Pattern.classItems (rest.length + 1) true inner with
      | some (items, after) => single (.oneOf negated items) after
      | none => single (.char '[') rest
    else if c = '\\' then
      match rest with
      | [] => [.single (.char '\\')]
      | (d, _) :: rest => single (.char d) rest
    else single (.char c) rest

def ofMarked (groups : Bool) (cs : List MarkedChar) : GroupPattern := compile groups cs.length cs

/-! ### matching -/

open Pattern (Rest)

/-- the rests of two lists, each once and the most first -/
def union (a b : List Rest) : List Rest :=
  match a, b with
  | [], b => b
  | a, [] => a
  | a, b => onceFrom none (a.merge b fun x y => x.offset ≤ y.offset)
where
  /-- rests in order without those that are the same as the one before -/
  onceFrom : (last : Option Nat) → List Rest → List Rest
    | _, [] => []
    | last, r :: rs =>
      if last == some r.offset then onceFrom last rs else r :: onceFrom (some r.offset) rs

/-- the rests of the first list that are not in the second -/
def without : List Rest → List Rest → List Rest
  | [], _ => []
  | r :: rs, b =>
    let b := b.dropWhile (·.offset < r.offset)
    if b.head?.any (·.offset == r.offset) then without rs b else r :: without rs b

/-- whether a character is described, letters in another case as well with `folds` -/
def describesIn (folds : Bool) (s : PatternSymbol) (c : Char) : Bool :=
  Pattern.describes s c
    || (folds && (Pattern.describes s c.toLower || Pattern.describes s c.toUpper))

mutual

/-- what can be left of texts behind what a pattern describes, the most first; letters in another
case count as the same with `folds` -/
def rests (folds : Bool) : (fuel : Nat) → GroupPattern → List Rest → List Rest
  | 0, _, _ => []
  | _ + 1, [], texts => texts
  | fuel + 1, s :: p, texts => rests folds fuel p (behind folds fuel s texts)

/-- the same for one symbol -/
def behind (folds : Bool) : (fuel : Nat) → GroupSymbol → List Rest → List Rest
  | 0, _, _ => []
  | fuel + 1, s, texts =>
    match s with
    | .single .many => Pattern.behind .many texts
    | .single s => texts.filterMap (Rest.behind? (describesIn folds s))
    | .group kind options =>
      let one (texts : List Rest) : List Rest :=
        options.foldl (fun found p => union found (rests folds fuel p texts)) []
      match kind with
      | .once => one texts
      | .atMostOnce => union texts (one texts)
      | .anyNumber => repeated folds fuel options texts texts
      | .atLeastOnce =>
        let first := one texts
        repeated folds fuel options first first
      | .never =>
        texts.foldl (fun found r =>
          union found (without (Rest.onward [] r.offset r.text) (one [r]))) []

/-- what can be left when the patterns describe the texts again and again; `found` has been found,
and `fresh` has not been gone on from -/
def repeated (folds : Bool) : (fuel : Nat) → List GroupPattern → (found fresh : List Rest) →
    List Rest
  | 0, _, found, _ => found
  | fuel + 1, options, found, fresh =>
    let reached := options.foldl (fun found p => union found (rests folds fuel p fresh)) []
    let new := without reached found
    if new.isEmpty then found else repeated folds fuel options (union found new) new

end

/-- fuel for matching -/
def matchFuel : Nat := 1000000

/-- what can be left of a text, the most first -/
def restsOf (folds : Bool) (p : GroupPattern) (cs : List Char) : List Rest :=
  rests folds matchFuel p [⟨0, cs⟩]

/-- whether a text is described by a pattern -/
def matchesText (folds : Bool) (p : GroupPattern) (cs : List Char) : Bool :=
  Rest.reachEnd (restsOf folds p cs)

/-! ### ends of texts -/

mutual

/-- the pattern of the same texts backwards -/
def reversed : List GroupSymbol → GroupPattern
  | [] => []
  | s :: p => reversed p ++ [reversedSymbol s]

def reversedSymbol : GroupSymbol → GroupSymbol
  | .single s => .single s
  | .group kind options => .group kind (reversedOptions options)

def reversedOptions : List (List GroupSymbol) → List GroupPattern
  | [] => []
  | p :: ps => reversed p :: reversedOptions ps

end

/-- the length of the shortest or longest beginning of a text that a pattern describes -/
def startLength? (longest : Bool) (p : GroupPattern) (cs : List Char) : Option Nat :=
  let all := restsOf false p cs
  (if longest then all.getLast? else all.head?).map Rest.offset

/-- the length of the shortest or longest end of a text that a pattern describes -/
def endLength? (longest : Bool) (p : GroupPattern) (cs : List Char) : Option Nat :=
  startLength? longest (reversed p) cs.reverse

end GroupPattern

end ShellWorkers.Script
