import ShellWorkers.Script.Syntax

/-!
# Braces that make several words of one

In the extended language a word with texts between braces, separated by commas, stands for as many
words, and so does one with the ends of a sequence.  This comes before all other expansions, so
that what a parameter stands for is not looked at: a part of a word that is no bare text is an atom
of its own.

* `Braces.expand`   the words that a word stands for.
-/

namespace ShellWorkers.Script

open Text (OctetText)

namespace Braces

/-! ## atoms -/

inductive Atom where
  | char (c : Char)
  | part (p : Part)

def Atom.isChar (c : Char) : Atom → Bool
  | .char d => c == d
  | .part _ => false

def atomsOf (w : Word) : List Atom :=
  w.flatMap fun
    | .text value false => value.toList.map .char
    | p => [.part p]

/-- the parameter with a longer name, where a name goes on behind it -/
def grown (name : OctetText) (quoted : Bool) (cs : List Char) : Part :=
  if isName name.toList then
    .parameter (name ++ String.ofList (cs.takeWhile isNameChar)) .plain false [] quoted
  else .parameter name .plain false [] quoted

/-- the characters of a name behind a parameter, and the atoms behind them -/
def nameBehind (atoms : List Atom) : List Char :=
  (atoms.takeWhile fun | .char c => isNameChar c | .part _ => false).filterMap fun
    | .char c => some c
    | .part _ => none

/-- the word of atoms; `text` is what precedes them, last character first -/
def wordFrom : (fuel : Nat) → (text : List Char) → List Atom → Word
  | 0, _, _ => []
  | _ + 1, text, [] => close text
  | fuel + 1, text, .char c :: rest => wordFrom fuel (c :: text) rest
  | fuel + 1, text, .part (.parameter name .plain false [] quoted) :: rest =>
    let behind := if isName name.toList then nameBehind rest else []
    close text ++ grown name quoted behind :: wordFrom fuel [] (rest.drop behind.length)
  | fuel + 1, text, .part p :: rest => close text ++ p :: wordFrom fuel [] rest
where
  close (text : List Char) : Word :=
    if text.isEmpty then [] else [.text (String.ofList text.reverse) false]

def wordOf (atoms : List Atom) : Word := wordFrom (atoms.length + 1) [] atoms

/-! ## sequences -/

/-- a whole number with an optional sign -/
def integer? (cs : List Char) : Option Int :=
  let number (ds : List Char) : Option Nat :=
    if ds.isEmpty || !ds.all Char.isDigit then none
    else some (ds.foldl (fun n d => n * 10 + (d.toNat - '0'.toNat)) 0)
  match cs with
  | '-' :: ds => (number ds).map fun n => -(n : Int)
  | '+' :: ds => (number ds).map fun n => (n : Int)
  | ds => (number ds).map fun n => (n : Int)

/-- whether a number is written with zeros before it -/
def isPadded (cs : List Char) : Bool :=
  match cs with
  | '-' :: '0' :: _ :: _ => true
  | '0' :: _ :: _ => true
  | _ => false

/-- the numbers from one to another in steps -/
def numbersFrom (first last step : Int) : List Int :=
  let size := if step = 0 then 1 else step.natAbs
  let count := (last - first).natAbs / size
  (List.range (count + 1)).map fun (n : Nat) =>
    if first ≤ last then first + (n * size : Nat) else first - (n * size : Nat)

/-- a number with zeros before it -/
def padded (width : Nat) (n : Int) : OctetText :=
  let digits := toString n.natAbs
  let sign := if n < 0 then "-" else ""
  sign ++ String.ofList (List.replicate (width - sign.length - digits.length) '0') ++ digits

/-- a text cut at pairs of dots -/
def cutAtDots : List Char → List (List Char)
  | [] => [[]]
  | '.' :: '.' :: cs => [] :: cutAtDots cs
  | c :: cs =>
    match cutAtDots cs with
    | [] => [[c]]
    | piece :: pieces => (c :: piece) :: pieces

/-- the atoms of the members of a sequence by its ends and its step -/
def sequence? (cs : List Char) : Option (List (List Atom)) :=
  let members (first last : List Char) (step : Int) : Option (List (List Atom)) :=
    match integer? first, integer? last with
    | some a, some b =>
      let width := if isPadded first || isPadded last then
          (if first.length < last.length then last.length else first.length) else 0
      some ((numbersFrom a b step).map fun n => (padded width n).toList.map .char)
    | _, _ =>
      match first, last with
      | [a], [b] =>
        if a.isAlpha && b.isAlpha then
          some ((numbersFrom a.toNat b.toNat step).map fun n =>
            let c := Char.ofNat n.toNat
            if c = '\\' then [.part (.text "" true)] else [.char c])
        else none
      | _, _ => none
  match cutAtDots cs with
  | [first, last] => members first last 1
  | [first, last, step] =>
    match integer? step with
    | some n => members first last n
    | none => none
  | _ => none

/-! ## braces -/

/-- What stands before the brace that closes one which has been passed, in pieces between commas,
and what stands behind it; nothing if it is not closed.  It is inside of `depth` braces of its
own. -/
def closed? : (depth : Nat) → List Atom → Option (List (List Atom) × List Atom)
  | _, [] => none
  | depth, a :: rest =>
    let more (depth : Nat) : Option (List (List Atom) × List Atom) := do
      match ← closed? depth rest with
      | (piece :: pieces, after) => some ((a :: piece) :: pieces, after)
      | ([], after) => some ([[a]], after)
    if a.isChar '{' then more (depth + 1)
    else if a.isChar '}' then
      match depth with
      | 0 => some ([[]], rest)
      | depth + 1 => more depth
    else if a.isChar ',' && depth = 0 then do
      let (pieces, after) ← closed? 0 rest
      some ([] :: pieces, after)
    else more depth

/-- the atoms as characters, if all of them are -/
def charsOf? (atoms : List Atom) : Option (List Char) :=
  atoms.mapM fun
    | .char c => some c
    | .part _ => none

/-- the words that atoms stand for, as atoms -/
def expandAtoms : (fuel : Nat) → List Atom → List (List Atom)
  | 0, atoms => [atoms]
  | fuel + 1, atoms =>
    let before := atoms.takeWhile fun a => !a.isChar '{'
    match atoms.drop before.length with
    | [] => [atoms]
    | brace :: rest =>
      let literal (_ : Unit) : List (List Atom) :=
        (expandAtoms fuel rest).map fun r => before ++ brace :: r
      let join (firsts : List (List Atom)) (after : List Atom) : List (List Atom) :=
        let lasts := expandAtoms fuel after
        firsts.flatMap fun f => lasts.map fun l => before ++ f ++ l
      match closed? 0 rest with
      | none => literal ()
      | some ([piece], after) =>
        match (charsOf? piece).bind sequence? with
        | some members => join members after
        | none => literal ()
      | some (pieces, after) => join (pieces.flatMap (expandAtoms fuel)) after

/-- the words that a word stands for -/
def expand (w : Word) : List Word :=
  let atoms := atomsOf w
  if atoms.any (Atom.isChar '{') then (expandAtoms (atoms.length + 1) atoms).map wordOf else [w]

end Braces

end ShellWorkers.Script
