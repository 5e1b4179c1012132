import ShellWorkers.Regex.Basic

/-!
# Reading regular expressions

There are two ways to write regular expressions.  In the basic one, `\(`, `\)`, `\{`, `\}`, `\|`,
`\+` and `\?` are operators; in the extended one the same characters are without a backslash.  A
`Dialect` says which, and what becomes of operators that have nothing to work on.
-/

namespace ShellWorkers.Regex

open Text (OctetText)

/-- what can be wrong with a regular expression -/
inductive Fault where
  | badPattern
  | openBracket
  | unknownKind
  | badName
  | badRange
  | badReference
  | openGroup
  | strayClose
  | openInterval
  | badInterval
  | nothingToRepeat
  | trailingBackslash
  | tooBig
  | bareKind
  deriving DecidableEq, Repr

def Fault.message : Fault → OctetText
  | .badPattern => "Invalid regular expression"
  | .openBracket => "Unmatched [, [^, [:, [., or [="
  | .unknownKind => "Invalid character class name"
  | .badName => "Invalid collation character"
  | .badRange => "Invalid range end"
  | .badReference => "Invalid back reference"
  | .openGroup => "Unmatched ( or \\("
  | .strayClose => "Unmatched ) or \\)"
  | .openInterval => "Unmatched \\\x7b"
  | .badInterval => "Invalid content of \\\x7b\\\x7d"
  | .nothingToRepeat => "Invalid preceding regular expression"
  | .trailingBackslash => "Trailing backslash"
  | .tooBig => "Regular expression too big"
  | .bareKind => "character class syntax is [[:space:]], not [:space:]"

/-- what becomes of a repetition that has nothing to repeat -/
inductive Idle where
  /-- its character stands for itself -/
  | literal
  /-- it is passed over -/
  | skipped
  | refused
  deriving DecidableEq

/-- how regular expressions are written -/
structure Dialect where
  extended : Bool
  /-- `+` and `?` are operators without a backslash -/
  bareRepeats : Bool
  idle : Idle
  /-- intervals cannot be idle, and repetitions not be repeated -/
  strict : Bool
  /-- what is no interval stands for itself -/
  looseIntervals : Bool
  /-- a closing parenthesis too many stands for itself -/
  looseClose : Bool
  /-- a range whose last character comes before its first one is empty -/
  emptyRanges : Bool
  /-- a class that is spelled like the name of a kind is refused -/
  guardsKinds : Bool
  /-- of an idle interval no more than its opening is passed over -/
  opensOnly : Bool
  /-- backslashes have a meaning in classes, and nothing else but characters behind them -/
  escapes : Bool
  intervals : Bool
  /-- letters of both cases are the same -/
  folds : Bool
  /-- anchors stand for the ends of lines, and classes leave them out -/
  lines : Bool

namespace Dialect

def basic : Dialect where
  extended := false
  bareRepeats := false
  idle := .literal
  strict := true
  looseIntervals := false
  looseClose := false
  emptyRanges := false
  guardsKinds := false
  opensOnly := false
  escapes := false
  intervals := true
  folds := false
  lines := false

def extendedForm : Dialect :=
  { basic with extended := true, bareRepeats := true, idle := .refused, strict := false }

end Dialect

/-! ## symbols -/

/-- a symbol of a regular expression -/
inductive Symbol where
  | done
  | char (c : Char)
  | test (holds : Char → Bool)
  | place (holds : Option Char → Option Char → Bool)
  | again (number : Nat)
  | opening
  | closing
  | bar
  /-- a repetition with its character -/
  | times (c : Char) (least : Nat) (most : Option Nat)
  | interval
  | bracket
  | backslash

/-- what stands behind a backslash -/
def escapedSymbol (d : Dialect) (c : Char) : Symbol :=
  if d.escapes then .char c
  else
    let basic := !d.extended
    match c with
    | '|' => if basic then .bar else .char c
    | '(' => if basic then .opening else .char c
    | ')' => if basic then .closing else .char c
    | '{' => if basic then .interval else .char c
    | '+' => if basic && !d.bareRepeats then .times c 1 none else .char c
    | '?' => if basic && !d.bareRepeats then .times c 0 (some 1) else .char c
    | '<' => .place atWordStart
    | '>' => .place atWordEnd
    | 'b' => .place atWordEdge
    | 'B' => .place fun before after => !atWordEdge before after
    | '`' => .place (atStart false)
    | '\'' => .place (atEnd false)
    | 'w' => .test Text.isWordChar
    | 'W' => .test fun c => !Text.isWordChar c
    | 's' => .test Text.isSpace
    | 'S' => .test fun c => !Text.isSpace c
    | _ => if '1' ≤ c && c ≤ '9' then .again (c.toNat - 48) else .char c

/-- a character that ends what stands before it, in the basic form the end of all -/
def endsBranch (d : Dialect) (rest : List Char) : Bool :=
  match rest with
  | [] => true
  | '\\' :: '|' :: _ => !d.extended
  | '\\' :: ')' :: _ => !d.extended
  | _ => d.extended

/-- the next symbol and the rest; `fresh` says that nothing stands before it -/
def nextSymbol (d : Dialect) (fresh : Bool) : List Char → Symbol × List Char
  | [] => (.done, [])
  | ['\\'] => (.backslash, [])
  | '\\' :: c :: rest => (escapedSymbol d c, rest)
  | c :: rest =>
    let symbol : Symbol := match c with
      | '*' => .times c 0 none
      | '.' => .test fun c => !(d.lines && c == '\n')
      | '[' => .bracket
      | '^' => if d.extended || fresh then .place (atStart d.lines) else .char c
      | '$' => if endsBranch d rest then .place (atEnd d.lines) else .char c
      | '+' => if d.bareRepeats then .times c 1 none else .char c
      | '?' => if d.bareRepeats then .times c 0 (some 1) else .char c
      | '|' => if d.extended then .bar else .char c
      | '(' => if d.extended then .opening else .char c
      | ')' => if d.extended then .closing else .char c
      | '{' => if d.extended && d.intervals then .interval else .char c
      | _ => .char c
    (symbol, rest)

/-! ## characters -/

/-- a test that does not tell letters of both cases apart, if the dialect does not -/
def folding (d : Dialect) (holds : Char → Bool) : Char → Bool :=
  if d.folds then fun c => holds c || holds c.toLower || holds c.toUpper else holds

def sameChar (d : Dialect) (c e : Char) : Bool :=
  if d.folds then c.toLower == e.toLower else c == e

def charRegex (d : Dialect) (c : Char) : Regex :=
  if d.folds then
    let c := c.toLower
    .one fun e => e.toLower == c
  else .one (· == c)

/-! ## classes -/

/-- an item of a class: a character, or a kind of them -/
inductive ClassPart where
  | char (c : Char)
  | kind (holds : Char → Bool)

/-- the name between two marks inside of a class, and the rest -/
def nameUpTo (mark : Char) : List Char → Except Fault (List Char × List Char)
  | c :: ']' :: rest =>
    if c == mark then .ok ([], rest)
    else (fun p => (c :: p.1, p.2)) <$> nameUpTo mark (']' :: rest)
  | c :: rest => (fun p => (c :: p.1, p.2)) <$> nameUpTo mark rest
  | [] => .error .openBracket

/-- the next part of a class; a hyphen is one at the beginning, at the end of a range, or before
the closing bracket -/
def nextPart (d : Dialect) (hyphen : Bool) : List Char → Except Fault (ClassPart × List Char)
  | [] => .error .openBracket
  | '[' :: ':' :: rest => do
    let (name, rest) ← nameUpTo ':' rest
    match Text.charKind? (String.ofList name) with
    | some holds => .ok (.kind holds, rest)
    | none => .error .unknownKind
  | '[' :: '=' :: rest => do
    match ← nameUpTo '=' rest with
    | ([c], rest) => .ok (.kind (· == c), rest)
    | _ => .error .badName
  | '[' :: '.' :: rest => do
    match ← nameUpTo '.' rest with
    | ([c], rest) => .ok (.char c, rest)
    | _ => .error .badName
  | '-' :: rest =>
    if hyphen || rest.head? == some ']' then .ok (.char '-', rest)
    else if rest.isEmpty then .error .openBracket
    else .error .badRange
  | '\\' :: c :: rest => if d.escapes then .ok (.char c, rest) else .ok (.char '\\', c :: rest)
  | c :: rest => .ok (.char c, rest)

/-- a test that one of two tests holds -/
def orHolds (p q : Char → Bool) : Char → Bool := fun c => p c || q c

/-- the parts of a class up to its closing bracket, and the rest; the fuel is more than the length
of the text -/
def classParts (d : Dialect) : (fuel : Nat) → (first : Bool) → (Char → Bool) → List Char →
    Except Fault ((Char → Bool) × List Char)
  | 0, _, _, _ => .error .openBracket
  | fuel + 1, first, holds, cs => do
    if cs.head? == some ']' && !first then .ok (holds, cs.drop 1)
    else
      match ← nextPart d first cs with
      | (.kind k, rest) => classParts d fuel false (orHolds holds k) rest
      | (.char c, rest) =>
        match rest with
        | [] => .error .openBracket
        | ['-'] => .error .openBracket
        | '-' :: e :: rest =>
          if e == ']' then classParts d fuel false (orHolds holds (· == c)) ('-' :: e :: rest)
          else
            match ← nextPart d true (e :: rest) with
            | (.kind _, _) => .error .badRange
            | (.char last, rest) =>
              if last.toNat < c.toNat && !d.emptyRanges then .error .badRange
              else
                let inRange (x : Char) : Bool := c.toNat ≤ x.toNat && x.toNat ≤ last.toNat
                classParts d fuel false (orHolds holds inRange) rest
        | rest => classParts d fuel false (orHolds holds (· == c)) rest

/-- whether the inside of a class is spelled like the name of a kind -/
def looksLikeKind (inner : List Char) : Bool :=
  match inner with
  | ':' :: cs =>
    let name := cs.takeWhile (· != ']')
    name.length < cs.length && 1 < name.length && name.getLast? == some ':'
      && !name.contains '-' && !name.contains '['
  | _ => false

/-- a class behind its opening bracket, and the rest -/
def readClass (d : Dialect) (cs : List Char) : Except Fault ((Char → Bool) × List Char) := do
  let (negated, inner) := match cs with
    | '^' :: inner => (true, inner)
    | inner => (false, inner)
  if inner.isEmpty then .error .badPattern
  else if d.guardsKinds && looksLikeKind inner then .error .bareKind
  else do
    let (holds, rest) ← classParts d (inner.length + 1) true (fun _ => false) inner
    let holds := folding d holds
    if negated then .ok ((fun c => !holds c && !(d.lines && c == '\n')), rest)
    else .ok (holds, rest)

/-! ## intervals -/

/-- the greatest number in an interval -/
def intervalLimit : Nat := 32767

/-- what a number in an interval ends with -/
inductive NumberEnd where
  | comma
  | closed
  | done
  deriving DecidableEq

/-- a number in an interval, none if there are no digits; `none` in front if there is something
else -/
structure IntervalNumber where
  valid : Bool
  value : Option Nat
  stop : NumberEnd
  rest : List Char

/-- reads a number up to a comma or the end of the interval -/
def intervalNumber (extended : Bool) : (valid : Bool) → (value : Option Nat) → List Char →
    IntervalNumber
  | _, _, [] => ⟨false, none, .done, []⟩
  | valid, value, c :: cs =>
    if c == ',' then ⟨valid, value, .comma, cs⟩
    else if extended && c == '}' then ⟨valid, value, .closed, cs⟩
    else if !extended && c == '\\' && cs.head? == some '}' then ⟨valid, value, .closed, cs.drop 1⟩
    else if c.isDigit then
      let n := value.getD 0 * 10 + (c.toNat - 48)
      intervalNumber extended valid (some (if intervalLimit < n then intervalLimit + 1 else n)) cs
    else intervalNumber extended false value cs

/-- an interval behind its opening, and the rest; nothing if it is none and stands for itself -/
def readInterval (d : Dialect) (cs : List Char) :
    Except Fault (Option (Nat × Option Nat × List Char)) := do
  let invalid (stop : NumberEnd) : Except Fault (Option (Nat × Option Nat × List Char)) :=
    if d.looseIntervals then .ok none
    else if stop = .done then .error .openInterval
    else .error .badInterval
  let least := intervalNumber d.extended true none cs
  if !least.valid then invalid least.stop
  else if least.value.isNone && least.stop != .comma then .error .badInterval
  else
    let low := least.value.getD 0
    let most : IntervalNumber :=
      if least.stop = .closed then least else intervalNumber d.extended true none least.rest
    if !most.valid then invalid most.stop
    else if most.stop = .comma || most.value.any (decide <| · < low) then .error .badInterval
    else if intervalLimit < most.value.getD low then .error .tooBig
    else .ok (some (low, most.value, most.rest))

/-! ## expressions -/

/-- where a reader stands -/
structure Reader where
  rest : List Char
  /-- nothing stands before what comes next -/
  fresh : Bool
  /-- how many groups have been opened -/
  groups : Nat
  /-- the groups that have been closed -/
  closed : List Nat
  /-- the repetitions that have been passed over, last first -/
  idle : List OctetText

abbrev Reading := StateT Reader (Except Fault)

def refuse {α : Type} (fault : Fault) : Reading α := StateT.lift (.error fault)

/-- what comes next, and the rest behind it -/
def peek (d : Dialect) : Reading (Symbol × List Char) := do
  let s ← get
  return nextSymbol d s.fresh s.rest

/-- goes on behind a symbol -/
def advance (rest : List Char) : Reading Unit := modify fun s => { s with rest, fresh := false }

/-- as before, at a place where an anchor can stand -/
def advanceFresh (rest : List Char) : Reading Unit :=
  modify fun s => { s with rest, fresh := true }

/-- reads the repetitions behind an expression -/
def repetitions (d : Dialect) : (fuel : Nat) → Regex → Reading Regex
  | 0, r => pure r
  | fuel + 1, r => do
    let again (r : Regex) : Reading Regex := do
      if d.strict then
        match (← peek d).1 with
        | .times '*' _ _ => refuse .nothingToRepeat
        | .interval => refuse .nothingToRepeat
        | _ => repetitions d fuel r
      else repetitions d fuel r
    match ← peek d with
    | (.times _ least most, rest) => do
      advance rest
      again (.repeated least most r)
    | (.interval, rest) => do
      match ← StateT.lift (readInterval d rest) with
      | none => pure r
      | some (least, most, rest) => do
        advance rest
        again (if most = some 0 then .empty else .repeated least most r)
    | _ => pure r

/-- alternatives up to the end, or up to the end of a group -/
def alternatives (d : Dialect) : (fuel : Nat) → (nested : Bool) → Reading Regex
  | 0, _ => refuse .tooBig
  | fuel + 1, nested => do
    let before := (← get).closed
    let first ← branch fuel nested []
    others fuel nested before first
where
  /-- the alternatives behind those that have been read; one of them cannot use the groups of
  another, but those that were there `before` -/
  others : (fuel : Nat) → (nested : Bool) → (before : List Nat) → (done : Regex) → Reading Regex
    | 0, _, _, _ => refuse .tooBig
    | fuel + 1, nested, before, done => do
      match ← peek d with
      | (.bar, rest) => do
        advanceFresh rest
        let closed := (← get).closed
        modify ({ · with closed := before })
        let next ← branch fuel nested []
        modify fun s => { s with closed := s.closed ++ closed }
        others fuel nested before (.either done next)
      | _ => pure done
  /-- expressions one after the other; `done` holds those that have been read, last first -/
  branch : (fuel : Nat) → (nested : Bool) → (done : List Regex) → Reading Regex
    | 0, _, _ => refuse .tooBig
    | fuel + 1, nested, done => do
      let finished : Reading Regex := pure (ofList done.reverse)
      match ← peek d with
      | (.done, _) => finished
      | (.bar, _) => finished
      | (.closing, rest) =>
        if nested then finished
        else do
          let r ← expression fuel (.closing, rest)
          branch fuel nested (r :: done)
      | symbol => do
        let r ← expression fuel symbol
        branch fuel nested (r :: done)
  /-- one expression with its repetitions -/
  expression : (fuel : Nat) → Symbol × List Char → Reading Regex
    | 0, _ => refuse .tooBig
    | fuel + 1, (symbol, rest) => do
      let atom (r : Regex) : Reading Regex := do
        advance rest
        repetitions d (rest.length + 1) r
      let skip (operator : OctetText) (rest : List Char) : Reading Regex := do
        advance rest
        modify fun s => { s with idle := operator :: s.idle }
        match ← peek d with
        | (.done, _) => pure .empty
        | (.bar, _) => pure .empty
        | symbol => expression fuel symbol
      let idle (c : Char) : Reading Regex :=
        match d.idle with
        | .literal => atom (charRegex d c)
        | .refused => refuse .nothingToRepeat
        | .skipped => skip (String.ofList [c]) rest
      match symbol with
      | .done => pure .empty
      | .bar => pure .empty
      | .backslash => refuse .trailingBackslash
      | .char c => atom (charRegex d c)
      | .test holds => atom (.one holds)
      | .place holds => do
        advance rest
        pure (.place holds)
      | .again number => do
        if (← get).closed.contains number then atom (.again number (sameChar d))
        else refuse .badReference
      | .times c _ _ => idle c
      | .interval =>
        if d.strict then refuse .nothingToRepeat
        else if d.looseIntervals && d.idle = .skipped then
          match ← StateT.lift (readInterval d rest) with
          | none => atom (charRegex d '{')
          | some (_, _, behind) =>
            skip "\x7b...\x7d" (if d.opensOnly then rest else behind)
        else idle '{'
      | .closing => if d.looseClose then atom (charRegex d ')') else refuse .strayClose
      | .bracket => do
        let (holds, rest) ← StateT.lift (readClass d rest)
        advance rest
        repetitions d (rest.length + 1) (.one holds)
      | .opening => do
        let number := (← get).groups + 1
        modify ({ · with groups := number })
        advanceFresh rest
        let inner ← match ← peek d with
          | (.closing, _) => pure .empty
          | _ => alternatives d fuel true
        match ← peek d with
        | (.closing, rest) => do
          advance rest
          modify fun s => { s with closed := number :: s.closed }
          repetitions d (rest.length + 1) (.group number inner)
        | _ => refuse .openGroup

/-- a regular expression, how many groups it has, and the repetitions in it that have nothing to
repeat -/
structure Reading.Result where
  regex : Regex
  groups : Nat
  idle : List OctetText

/-- reads a regular expression -/
def read (d : Dialect) (text : List Char) : Except Fault Reading.Result := do
  let (regex, s) ← (alternatives d (3 * text.length + 3) false).run ⟨text, true, 0, [], []⟩
  return ⟨regex, s.groups, s.idle.reverse⟩

end ShellWorkers.Regex
