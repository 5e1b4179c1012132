import ShellWorkers.Regex.Basic

/-!
# The texts of groups

When it is known which text an expression describes, the texts of its groups are read off a walk
through the expression.  For that it is laid out as numbered nodes, each behind the nodes of its
parts (`Regex.lay`).  A walk goes from node to node; where it can go on to two nodes, and the end
can be reached from both, it takes the one with the lower number, unless it has just been there
(`Walk.run`).

A repetition is laid out as copies: those that have to be there, and behind them a loop, or as
many nested copies as may be left out.  A group of such a copy that comes to nothing, after one
that has come to something, leaves all groups as they were.

* `Regex.lay`           the nodes of an expression;
* `Walk.run`            the walk, with what groups have been read;
* `Match.withGroups`    a text that has been found, with the texts of its groups.
-/

namespace ShellWorkers.Regex

/-! ## nodes -/

/-- what is done at a place of a walk, and where it goes on -/
inductive Node where
  | take (holds : Char → Bool) (next : Nat)
  | choose (first second : Nat)
  | opens (number next : Nat)
  /-- a group ends that may have been left out, if it is `free` -/
  | closes (number : Nat) (free : Bool) (next : Nat)
  | place (holds : Option Char → Option Char → Bool) (next : Nat)
  | again (number : Nat) (same : Char → Char → Bool) (next : Nat)
  | final

/-- a part that is laid out: its first node, if there is any, and all of them for the node that
comes behind it -/
structure Part where
  first : Option Nat
  nodes : Nat → List (Nat × Node)

namespace Part

def nothing : Part := ⟨none, fun _ => []⟩

/-- a part of one node -/
def ofNode (number : Nat) (node : Nat → Node) : Part :=
  ⟨some number, fun next => [(number, node next)]⟩

/-- one part behind another -/
def followedBy (a b : Part) : Part :=
  ⟨a.first.or b.first, fun next => a.nodes (b.first.getD next) ++ b.nodes next⟩

/-- the node at which a walk goes on to one of two, the lower one first -/
def choice (a b : Nat) : Node := if b < a then .choose b a else .choose a b

/-- one of two parts, chosen at a node -/
def orElse (number : Nat) (a b : Part) : Part :=
  ⟨some number, fun next =>
    a.nodes next ++ b.nodes next ++ [(number, choice (a.first.getD next) (b.first.getD next))]⟩

/-- a part any number of times, chosen at a node -/
def loop (number : Nat) (a : Part) : Part :=
  ⟨some number, fun next => a.nodes number ++ [(number, choice (a.first.getD next) next)]⟩

/-- so many copies behind a part; with the number of the next node -/
def copies (one : Nat → Part × Nat) : (count : Nat) → Part → Nat → Part × Nat
  | 0, p, free => (p, free)
  | count + 1, p, free =>
    let (q, free) := one free
    copies one count (p.followedBy q) free

/-- up to so many copies more behind a part that may be left out -/
def optionalCopies (one : Nat → Part × Nat) : (count : Nat) → Part → Nat → Part × Nat
  | 0, p, free => (p, free)
  | count + 1, p, free =>
    let (q, free) := one free
    optionalCopies one count ((p.followedBy q).orElse free nothing) (free + 1)

end Part

/-- Lays out an expression from a number on.  A group is `free` if it may be left out; of copies only
the first has groups that are free, and so `isCopy` says that there are none. -/
def lay (isCopy isFree : Bool) : Regex → (next : Nat) → Part × Nat
  | .empty, n => (.nothing, n)
  | .one holds, n => (.ofNode n (.take holds), n + 1)
  | .sequence a b, n =>
    let (p, n) := lay isCopy false a n
    let (q, n) := lay isCopy false b n
    (p.followedBy q, n)
  | .either a b, n =>
    let (p, n) := lay isCopy false a n
    let (q, n) := lay isCopy false b n
    (p.orElse n q, n + 1)
  | .repeated least most a, n =>
    let (p, n) :=
      if least = 0 then (.nothing, n)
      else
        let (p, n) := lay isCopy false a n
        Part.copies (lay true false a) (least - 1) p n
    let optional := lay (isCopy || least ≠ 0) (!isCopy) a
    match most with
    | none =>
      let (q, n) := optional n
      if q.first.isNone then (p, n) else (p.followedBy (q.loop n), n + 1)
    | some most =>
      if most ≤ least then (p, n)
      else
        let (q, n) := optional n
        let (q, n) :=
          Part.optionalCopies (lay true false a) (most - least - 1) (q.orElse n .nothing) (n + 1)
        (p.followedBy q, n)
  | .group number (.group _ a), n => layGroup isFree number (lay isCopy false a) n
  | .group number a, n => layGroup isFree number (lay isCopy false a) n
  | .again number same, n => (.ofNode n (.again number same), n + 1)
  | .place holds, n => (.ofNode n (.place holds), n + 1)
  | _, n => (.nothing, n)
where
  layGroup (isFree : Bool) (number : Nat) (body : Nat → Part × Nat) (n : Nat) : Part × Nat :=
    let opening := Part.ofNode n (.opens number)
    let (p, n) := body (n + 1)
    (opening.followedBy (p.followedBy (.ofNode n (.closes number isFree))), n + 1)

/-- the groups that have the text of the group around them: the inner number and the outer one -/
def innerGroups : Regex → List (Nat × Nat)
  | .sequence a b => innerGroups a ++ innerGroups b
  | .either a b => innerGroups a ++ innerGroups b
  | .repeated _ _ a => innerGroups a
  | .group number (.group inner a) => (inner, number) :: innerGroups a
  | .group _ a => innerGroups a
  | _ => []

/-- all nodes of an expression, by their numbers, and the first one -/
def nodesOf (r : Regex) : Array Node × Nat :=
  let (p, n) := lay false false r 0
  ((p.nodes n).foldl (fun nodes (i, node) => nodes.setIfInBounds i node)
    (Array.replicate (n + 1) .final), p.first.getD n)

/-! ## from where the end can be reached -/

/-- a text between two places, and the characters around it -/
structure Stretch where
  chars : Array Char
  before : Option Char
  after : Option Char

namespace Stretch

def charBefore (s : Stretch) (i : Nat) : Option Char := if i = 0 then s.before else s.chars[i - 1]?

def charAfter (s : Stretch) (i : Nat) : Option Char := s.chars[i]?.or s.after

end Stretch

/-- sets of nodes are numbers, with a digit of base two for every node -/
def holdsNode (set node : Nat) : Bool := set.testBit node

/-- a set with the nodes from which a step without a character leads into it, counted down -/
def withSteps (nodes : Array Node) (before after : Option Char) : (node : Nat) → (set : Nat) → Nat
  | 0, set => set
  | node + 1, set =>
    let leads := match nodes[node]? with
      | some (.choose a b) => holdsNode set a || holdsNode set b
      | some (.opens _ next) => holdsNode set next
      | some (.closes _ _ next) => holdsNode set next
      | some (.place holds next) => holds before after && holdsNode set next
      | _ => false
    withSteps nodes before after node
      (if leads && !holdsNode set node then set ||| (1 <<< node) else set)

/-- the same until nothing is added any more; the fuel is the number of nodes -/
def closed (nodes : Array Node) (before after : Option Char) : (fuel : Nat) → (set : Nat) → Nat
  | 0, set => set
  | fuel + 1, set =>
    let next := withSteps nodes before after nodes.size set
    if next = set then set else closed nodes before after fuel next

/-- the nodes from which a character leads into a set -/
def takers (nodes : Array Node) (c : Char) (later : Nat) : (node : Nat) → (set : Nat) → Nat
  | 0, set => set
  | node + 1, set =>
    let leads := match nodes[node]? with
      | some (.take holds next) => holdsNode later next && holds c
      | _ => false
    takers nodes c later node (if leads then set ||| (1 <<< node) else set)

/-- for every place from the first one on the nodes from which the end can be reached; `later` holds
those of the places behind the first `count` -/
def reaching (nodes : Array Node) (s : Stretch) : (count : Nat) → (later : List Nat) → List Nat
  | 0, later => later
  | i + 1, later =>
    let set := match s.chars[i]? with
      | some c => takers nodes c (later.headD 0) nodes.size 0
      | none => 0
    reaching nodes s i
      (closed nodes (s.charBefore i) (s.charAfter i) nodes.size set :: later)

/-! ## walks -/

/-- the groups that have been read: where they start and end -/
abbrev Spans := List (Nat × Nat × Option Nat)

/-- what groups have been read, and what there was when one had last come to something -/
structure Traced where
  spans : Spans
  settled : Spans

namespace Traced

def opened (t : Traced) (number i : Nat) : Traced :=
  { t with spans := (number, i, none) :: t.spans.filter (·.1 != number) }

def closed (t : Traced) (number : Nat) (free : Bool) (i : Nat) : Traced :=
  match t.spans.lookup number with
  | none => t
  | some (start, _) =>
    let spans := (number, start, some i) :: t.spans.filter (·.1 != number)
    if start < i then ⟨spans, spans⟩
    else if free && (t.settled.lookup number).isSome then ⟨t.settled, t.settled⟩
    else { t with spans := spans }

end Traced

structure Walk where
  nodes : Array Node
  stretch : Stretch
  /-- for every place the nodes from which the end can be reached; nothing if that is not known -/
  reaching : Option (Array Nat)

namespace Walk

/-- whether it makes sense to go on to a node -/
def canGo (w : Walk) (i node : Nat) : Bool :=
  match w.reaching with
  | none => true
  | some sets => holdsNode (sets.getD i 0) node

/-- whether a text stands at a place -/
def standsAt (w : Walk) (same : Char → Char → Bool) (start length i : Nat) : Bool :=
  (List.range length).all fun k =>
    match w.stretch.chars[start + k]?, w.stretch.chars[i + k]? with
    | some a, some b => same a b
    | _, _ => false

/-- the groups that have been read when a walk from a node and a place reaches the end; `via` holds
the nodes it has passed at this place -/
def run (w : Walk) : (fuel : Nat) → (node i : Nat) → (via : List Nat) → Traced → Option Traced
  | 0, _, _, _, _ => none
  | fuel + 1, node, i, via, t =>
    match w.nodes[node]? with
    | none => none
    | some .final => if i = w.stretch.chars.size then some t else none
    | some (.take holds next) =>
      if (w.stretch.chars[i]?.map holds).getD false then w.run fuel next (i + 1) [] t else none
    | some (.opens number next) => w.run fuel next i (node :: via) (t.opened number i)
    | some (.closes number free next) =>
      w.run fuel next i (node :: via) (t.closed number free i)
    | some (.place holds next) =>
      if holds (w.stretch.charBefore i) (w.stretch.charAfter i) then
        w.run fuel next i (node :: via) t
      else none
    | some (.again number same next) =>
      match t.spans.lookup number with
      | some (start, some stop) =>
        if w.standsAt same start (stop - start) i then
          w.run fuel next (i + (stop - start)) (if stop = start then node :: via else []) t
        else none
      | _ => none
    | some (.choose a b) =>
      let via := node :: via
      if !w.canGo i a || a = b then w.run fuel b i via t
      else if !w.canGo i b then w.run fuel a i via t
      else if via.contains a then w.run fuel b i via t
      else if w.reaching.isSome then w.run fuel a i via t
      else (w.run fuel a i via t).or (w.run fuel b i via t)

end Walk

/-! ## the groups of what was found -/

/-- whether there are groups -/
def hasGroups : Regex → Bool
  | .sequence a b => hasGroups a || hasGroups b
  | .either a b => hasGroups a || hasGroups b
  | .repeated _ _ a => hasGroups a
  | .group .. => true
  | _ => false

/-- the groups of an expression that describes the text between two places -/
def groupsBetween (r : Regex) (start stop : Place) : Option (List Group) :=
  let s : Stretch :=
    ⟨(start.rest.take (stop.offset - start.offset)).toArray, start.before, stop.rest.head?⟩
  let (nodes, first) := nodesOf r
  let sets : Option (Array Nat) :=
    if r.hasAgain then none
    else
      let last := closed nodes (s.charBefore s.chars.size) s.after nodes.size
        (1 <<< (nodes.size - 1))
      some (reaching nodes s s.chars.size [last]).toArray
  let w : Walk := ⟨nodes, s, sets⟩
  let inner := innerGroups r
  (w.run ((nodes.size + 1) * (s.chars.size + 1) + 1) first 0 [] ⟨[], []⟩).map fun t =>
    let own := t.spans.filterMap fun (number, begun, ended) =>
      ended.map fun stop => (⟨number, start.rest.drop begun, stop - begun⟩ : Group)
    own ++ inner.filterMap fun (number, outer) =>
      (own.find? (·.number == outer)).map fun g => { g with number := number }

/-- a text that has been found, with the texts of its groups -/
def Match.withGroups (r : Regex) (m : Match) : Match :=
  if r.hasGroups then
    match groupsBetween r m.start m.stop with
    | some groups => { m with stop := { m.stop with groups := groups } }
    | none => m
  else m

end ShellWorkers.Regex
