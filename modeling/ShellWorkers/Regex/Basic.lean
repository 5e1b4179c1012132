import ShellWorkers.Text.CharKind

/-!
# Regular expressions

A regular expression describes texts.  Where several of the texts that start at a place are
described, either the longest is meant or the one that is described in the preferred way; and of
the ways in which a text is described, the one that prefers the first of two alternatives and one
more repetition to one less.

* `Regex.run`        the places at which a text that starts at a place can end, the preferred ways
                     first, one for every end;
* `Regex.longest?`   the longest text at a place that is described;
* `Regex.preferred?` the text at a place that is described in the preferred way;
* `Regex.find?`      the first text that is described, and the longest there.
-/

namespace ShellWorkers

open Text (OctetText)

/-- regular expressions -/
inductive Regex where
  /-- the empty text -/
  | empty
  /-- one character that passes a test -/
  | one (holds : Char → Bool)
  | sequence (first second : Regex)
  | either (first second : Regex)
  /-- so many times and more -/
  | repeated (least : Nat) (most : Option Nat) (body : Regex)
  /-- so many times and more, one less being preferred to one more or not; a repetition that goes
  nowhere counts, and is the last -/
  | ordered (fewest : Bool) (least : Nat) (most : Option Nat) (body : Regex)
  /-- in the preferred way only -/
  | only (body : Regex)
  /-- the empty text before or behind one that is described, or that is not -/
  | beside (ahead wanted : Bool) (body : Regex)
  /-- a group, whose text is kept -/
  | group (number : Nat) (body : Regex)
  /-- the text of a group once more -/
  | again (number : Nat) (same : Char → Char → Bool)
  /-- the empty text between two characters that pass a test -/
  | place (holds : Option Char → Option Char → Bool)

namespace Regex

/-! ## kinds of places -/

def isWord (c : Option Char) : Bool := c.any Text.isWordChar

/-- the beginning of the text, or of one of its lines -/
def atStart (lines : Bool) (before _after : Option Char) : Bool :=
  before.isNone || (lines && before == some '\n')

/-- the end of the text, or of one of its lines -/
def atEnd (lines : Bool) (_before after : Option Char) : Bool :=
  after.isNone || (lines && after == some '\n')

/-- the beginning of a word -/
def atWordStart (before after : Option Char) : Bool := !isWord before && isWord after

/-- the end of a word -/
def atWordEnd (before after : Option Char) : Bool := isWord before && !isWord after

/-- the beginning or the end of a word -/
def atWordEdge (before after : Option Char) : Bool := isWord before != isWord after

/-! ## places in a text -/

/-- the text of a group: where it starts and how long it is -/
structure Group where
  number : Nat
  start : List Char
  length : Nat

def Group.text (g : Group) : List Char := g.start.take g.length

/-- a place in a text, with the groups that have been read; what stands before it comes last
first -/
structure Place where
  passed : List Char
  rest : List Char
  offset : Nat
  groups : List Group

namespace Place

/-- the character before a place -/
def before (p : Place) : Option Char := p.passed.head?

/-- what makes two places different for what follows -/
def key (keepGroups : Bool) (p : Place) : Nat × List (Nat × Nat × Nat) :=
  (p.offset,
    if keepGroups then p.groups.map fun g => (g.number, g.start.length, g.length) else [])

/-- whether the offsets fall, so that no two places are the same -/
def areFalling : List Place → Bool
  | p :: q :: rest => decide (q.offset < p.offset) && areFalling (q :: rest)
  | _ => true

/-- the places without those that have come before; `seen` holds the keys of these -/
def distinctFrom (keepGroups : Bool) : (seen : List (Nat × List (Nat × Nat × Nat))) → List Place →
    List Place
  | _, [] => []
  | seen, p :: rest =>
    if seen.contains (p.key keepGroups) then distinctFrom keepGroups seen rest
    else p :: distinctFrom keepGroups (p.key keepGroups :: seen) rest

def distinct (keepGroups : Bool) (places : List Place) : List Place :=
  if areFalling places then places else distinctFrom keepGroups [] places

/-- the place behind one character -/
def next? (holds : Char → Bool) (p : Place) : Option Place :=
  match p.rest with
  | [] => none
  | c :: cs => if holds c then some ⟨c :: p.passed, cs, p.offset + 1, p.groups⟩ else none

/-- the places behind up to so many characters, the farthest first; `nearer` holds the places
that come before the one at hand -/
def span (holds : Char → Bool) (groups : List Group) : (most : Option Nat) →
    (passed : List Char) → (offset : Nat) → (nearer : List Place) → List Char → List Place
  | _, passed, offset, nearer, [] => ⟨passed, [], offset, groups⟩ :: nearer
  | some 0, passed, offset, nearer, rest => ⟨passed, rest, offset, groups⟩ :: nearer
  | most, passed, offset, nearer, c :: cs =>
    let here : List Place := ⟨passed, c :: cs, offset, groups⟩ :: nearer
    if holds c then span holds groups (most.map (· - 1)) (c :: passed) (offset + 1) here cs
    else here

/-- the place behind a text that comes next -/
def passText (same : Char → Char → Bool) : List Char → Place → Option Place
  | [], p => some p
  | c :: cs, p => (p.next? (same c)).bind (passText same cs)

/-- a group has been read from one place to another -/
def withGroup (number : Nat) (start stop : Place) : Place :=
  { stop with
    groups := ⟨number, start.rest, stop.offset - start.offset⟩
      :: stop.groups.filter (·.number != number) }

/-- so many characters back -/
def back (count : Nat) (p : Place) : Place :=
  ⟨p.passed.drop count, (p.passed.take count).reverse ++ p.rest, p.offset - count, p.groups⟩

end Place

/-! ## repetition -/

/-- the places behind `count` repetitions of a step -/
def iterate (keepGroups : Bool) (step : Place → List Place) : (count : Nat) → List Place →
    List Place
  | 0, places => places
  | count + 1, places =>
    iterate keepGroups step count (Place.distinct keepGroups (places.flatMap step))

/-- which repetitions are preferred -/
inductive Preference where
  /-- more of them; one that goes nowhere does not count -/
  | progress
  /-- more of them; one that goes nowhere counts, and is the last -/
  | more
  /-- fewer of them; one that goes nowhere counts, and is the last -/
  | fewer
  deriving DecidableEq

/-- the places behind up to `count` repetitions of a step -/
def upTo (keepGroups : Bool) (f : Preference) (step : Place → List Place) : (count : Nat) →
    Place → List Place
  | 0, p => [p]
  | count + 1, p =>
    let farther := (step p).flatMap fun q =>
      if p.offset < q.offset then upTo keepGroups f step count q
      else if f = .progress then [] else [q]
    Place.distinct keepGroups (if f = .fewer then p :: farther else farther ++ [p])

/-- places that have been reached by repetitions: their keys, and the places in order, last
first -/
structure Reached where
  keys : List (Nat × List (Nat × Nat × Nat))
  places : List Place

/-- one place more, unless it is there -/
def Reached.add (keepGroups : Bool) (r : Reached) (p : Place) : Reached :=
  let key := p.key keepGroups
  if r.places.any fun q => q.key keepGroups == key then r else ⟨r.keys, p :: r.places⟩

/-- adds the places behind any number of repetitions of a step, unless they have been reached; the
fuel is more than the length of the text -/
def reach (keepGroups : Bool) (f : Preference) (step : Place → List Place) : (fuel : Nat) →
    Reached → Place → Reached
  | 0, r, _ => r
  | fuel + 1, r, p =>
    if r.keys.contains (p.key keepGroups) then r
    else
      let start : Reached := ⟨p.key keepGroups :: r.keys, r.places⟩
      let r := (step p).foldl (fun r q =>
          if p.offset < q.offset then reach keepGroups f step fuel r q
          else if f = .progress then r else r.add keepGroups q)
        (if f = .fewer then start.add keepGroups p else start)
      match f with
      | .progress => ⟨r.keys, p :: r.places⟩
      | .more => r.add keepGroups p
      | .fewer => r

/-- the places behind any number of repetitions of a step -/
def anyNumber (keepGroups : Bool) (f : Preference) (step : Place → List Place) (p : Place) :
    List Place :=
  (reach keepGroups f step (p.rest.length + 1) ⟨[], []⟩ p).places.reverse

/-- the places behind so many repetitions of a step and more -/
def repeatStep (keepGroups : Bool) (f : Preference) (step : Place → List Place) (least : Nat)
    (most : Option Nat) (p : Place) : List Place :=
  let starts := iterate keepGroups step least [p]
  Place.distinct keepGroups (starts.flatMap (match most with
    | none => anyNumber keepGroups f step
    | some most => upTo keepGroups f step (most - least)))

/-- whether a step ends at a place when it starts at one of the places up to so many characters
before it; the first place at which it does so -/
def endsAt? (step : Place → List Place) (p : Place) : (count : Nat) → Option Place
  | 0 => (step p).find? fun q => q.rest.length == p.rest.length
  | count + 1 =>
    (endsAt? step p count).or
      ((step (p.back (count + 1))).find? fun q => q.rest.length == p.rest.length)

/-! ## matching -/

/-- whether the text of a group comes again -/
def hasAgain : Regex → Bool
  | .sequence a b => hasAgain a || hasAgain b
  | .either a b => hasAgain a || hasAgain b
  | .repeated _ _ a => hasAgain a
  | .ordered _ _ _ a => hasAgain a
  | .only a => hasAgain a
  | .beside _ _ a => hasAgain a
  | .group _ a => hasAgain a
  | .again .. => true
  | _ => false

/-- the places at which a text that starts at a place can end; `keepGroups` says that places are
different if their groups are -/
def run (keepGroups : Bool) : Regex → Place → List Place
  | .empty, p => [p]
  | .one holds, p => (p.next? holds).toList
  | .sequence a b, p =>
    match run keepGroups a p with
    | [q] => run keepGroups b q
    | qs => Place.distinct keepGroups (qs.flatMap (run keepGroups b))
  | .either a b, p => Place.distinct keepGroups (run keepGroups a p ++ run keepGroups b p)
  | .repeated 0 most (.one holds), p =>
    Place.span holds p.groups most p.passed p.offset [] p.rest
  | .repeated least most a, p => repeatStep keepGroups .progress (run keepGroups a) least most p
  | .ordered false 0 most (.one holds), p =>
    Place.span holds p.groups most p.passed p.offset [] p.rest
  | .ordered fewest least most a, p =>
    repeatStep keepGroups (if fewest then .fewer else .more) (run keepGroups a) least most p
  | .only a, p => (run keepGroups a p).take 1
  | .beside ahead wanted a, p =>
    let found := if ahead then (run keepGroups a p).head?
      else endsAt? (run keepGroups a) p p.passed.length
    match found with
    | some q => if wanted then [{ p with groups := q.groups }] else []
    | none => if wanted then [] else [p]
  | .group number a, p => (run keepGroups a p).map (Place.withGroup number p)
  | .again number same, p =>
    match p.groups.find? (·.number == number) with
    | some g => (Place.passText same g.text p).toList
    | none => []
  | .place holds, p => if holds p.before p.rest.head? then [p] else []

/-! ## searching -/

/-- a text that has been found: what stands before it, and the places around it -/
structure Match where
  skipped : List Char
  start : Place
  stop : Place

namespace Match

def text (m : Match) : List Char := m.start.rest.take (m.stop.offset - m.start.offset)

/-- the text of a group; a group that has not been read has none -/
def group? (m : Match) (number : Nat) : Option (List Char) :=
  if number = 0 then some m.text else (m.stop.groups.find? (·.number == number)).map Group.text

def isEmpty (m : Match) : Bool := m.start.offset == m.stop.offset

/-- what is left when all before a group does not count -/
def fromGroup (number : Nat) (m : Match) : Match :=
  match m.stop.groups.find? (·.number == number) with
  | none => m
  | some g =>
    let count := g.start.length - m.stop.rest.length
    let more := m.stop.offset - m.start.offset - count
    { m with skipped := m.skipped ++ m.start.rest.take more, start := m.stop.back count }

end Match

/-- the first of the places that are farthest -/
def farthest? : List Place → Option Place
  | [] => none
  | p :: ps =>
    match farthest? ps with
    | none => some p
    | some q => if p.offset < q.offset then some q else some p

/-- the longest text at a place that is described and accepted -/
def longest? (r : Regex) (accepts : Place → Place → Bool) (p : Place) : Option Place :=
  farthest? ((run r.hasAgain r p).filter (accepts p))

/-- the text at a place that is described in the preferred way and accepted -/
def preferred? (r : Regex) (accepts : Place → Place → Bool) (p : Place) : Option Place :=
  (run r.hasAgain r p).find? (accepts p)

/-- the first place from one on for which `stop?` finds an end; what has been passed on the way is
in `skipped`, last first -/
def findFrom (stop? : Place → Option Place) (offset : Nat) (passed skipped : List Char) :
    List Char → Option Match
  | [] => attempt []
  | c :: cs =>
    match attempt (c :: cs) with
    | some m => some m
    | none => findFrom stop? (offset + 1) (c :: passed) (c :: skipped) cs
where
  attempt (rest : List Char) : Option Match :=
    let p : Place := ⟨passed, rest, offset, []⟩
    (stop? p).map fun q => ⟨skipped.reverse, p, q⟩

/-- the first text that is described and accepted, in a text with something before it, and the
longest there -/
def findAccepted? (r : Regex) (accepts : Place → Place → Bool) (passed text : List Char) :
    Option Match :=
  findFrom (r.longest? accepts) 0 passed [] text

/-- the first text that is described in a text with something before it -/
def findBehind? (r : Regex) (passed text : List Char) : Option Match :=
  r.findAccepted? (fun _ _ => true) passed text

/-- the first text that is described, and the longest there -/
def find? (r : Regex) (text : List Char) : Option Match := r.findBehind? [] text

/-- whether a text that is described stands in a text -/
def isIn (r : Regex) (text : List Char) : Bool := (r.find? text).isSome

/-- the longest beginning of a text that is described -/
def atBeginning? (r : Regex) (text : List Char) : Option Match :=
  let p : Place := ⟨[], text, 0, []⟩
  (r.longest? (fun _ _ => true) p).map fun q => ⟨[], p, q⟩

/-! ## building -/

/-- one after the other -/
def ofList : List Regex → Regex
  | [] => .empty
  | [r] => r
  | r :: rs => .sequence r (ofList rs)

/-- characters that stand for themselves -/
def ofText (text : List Char) : Regex := ofList (text.map fun c => .one (· == c))

end Regex

end ShellWorkers
