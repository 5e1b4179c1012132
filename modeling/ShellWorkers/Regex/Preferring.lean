import ShellWorkers.Regex.Basic

/-!
# Reading regular expressions with preferences

Of the ways in which a text can be described, the preferred one counts in this form, so there are
operators that say what is preferred: `??`, `*?` and `+?` take as little as they can, `?+`, `*+`
and `++` keep what they have taken.  A group that starts with a question mark is no group but says
what stands beside a place, names a group or changes how letters are read.  Behind a backslash
letters and digits gain a meaning, and all else loses it.

* `Preferring.read`   a regular expression; its group 0 marks where the text starts that counts.
-/

namespace ShellWorkers.Regex.Preferring

open Text (OctetText)

/-! ## faults -/

/-- what can be wrong with a regular expression -/
inductive Fault where
  | trailingBackslash
  | trailingControl
  | unknownEscape
  | unusedEscape
  | badInterval
  | bigInterval
  | openClass
  | classEscape
  | badRange
  | badRangeEnd
  | nothingToRepeat
  | unknownOption
  | bareKind
  | collation
  | startBeside
  | noGroup
  | openGroup
  | openComment
  | strayClose
  | openBehind
  | unknownKind
  | bigCode
  | noHex
  | noOctal
  | noName
  | openName
  | digitName
  | sameName
  | noProperty
  | openProperty
  | verb
  | tooDeep

def Fault.message : Fault → OctetText
  | .trailingBackslash => "\\ at end of pattern"
  | .trailingControl => "\\c at end of pattern"
  | .unknownEscape => "unrecognized character follows \\"
  | .unusedEscape => "PCRE2 does not support \\F, \\L, \\l, \\N\x7bname\x7d, \\U, or \\u"
  | .badInterval => "numbers out of order in \x7b\x7d quantifier"
  | .bigInterval => "number too big in \x7b\x7d quantifier"
  | .openClass => "missing terminating ] for character class"
  | .classEscape => "escape sequence is invalid in character class"
  | .badRange => "range out of order in character class"
  | .badRangeEnd => "invalid range in character class"
  | .nothingToRepeat => "quantifier does not follow a repeatable item"
  | .unknownOption => "unrecognized character after (? or (?-"
  | .bareKind => "POSIX named classes are supported only within a class"
  | .collation => "POSIX collating elements are not supported"
  | .startBeside =>
    "\\K is not allowed in lookarounds (but see PCRE2_EXTRA_ALLOW_LOOKAROUND_BSK)"
  | .noGroup => "reference to non-existent subpattern"
  | .openGroup => "missing closing parenthesis"
  | .openComment => "missing ) after (?# comment"
  | .strayClose => "unmatched closing parenthesis"
  | .openBehind => "lookbehind assertion is not fixed length"
  | .unknownKind => "unknown POSIX class name"
  | .bigCode => "character code point value in \\x\x7b\x7d or \\o\x7b\x7d is too large"
  | .noHex => "non-hex character in \\x\x7b\x7d (closing brace missing?)"
  | .noOctal => "non-octal character in \\o\x7b\x7d (closing brace missing?)"
  | .noName => "subpattern name expected"
  | .openName => "syntax error in subpattern name (missing terminator?)"
  | .digitName => "subpattern name must start with a non-digit"
  | .sameName => "two named subpatterns have the same name (PCRE2_DUPNAMES not set)"
  | .noProperty => "unknown property after \\P or \\p"
  | .openProperty => "malformed \\P or \\p sequence"
  | .verb => "(*VERB) not recognized or malformed"
  | .tooDeep => "parentheses are too deeply nested"

/-! ## where a reader stands -/

/-- how characters are read -/
structure Manner where
  /-- letters of both cases are the same -/
  folds : Bool
  /-- anchors stand for the ends of lines -/
  lines : Bool
  /-- a point stands for the end of a line too -/
  allChars : Bool
  /-- blanks and comments between expressions do not count -/
  spaced : Bool
  /-- what takes much takes little and the other way round -/
  modest : Bool

/-- what is looked at again when all groups have been read -/
inductive Pending where
  /-- a group comes again -/
  | again (number : Nat)
  /-- the text that counts is to start beside a place -/
  | startBeside

/-- where a reader stands -/
structure Reader where
  rest : List Char
  /-- how many groups have been opened -/
  groups : Nat
  names : List (OctetText × Nat)
  manner : Manner
  /-- what is to be looked at again, last first -/
  pending : List Pending
  /-- what is to stand behind a place, last first -/
  behinds : List Regex
  /-- characters stand for themselves up to the end of a quotation -/
  isQuoted : Bool
  /-- in how many groups what is read stands beside a place -/
  beside : Nat

abbrev Reading := StateT Reader (Except Fault)

def refuse {α : Type} (fault : Fault) : Reading α := StateT.lift (.error fault)

/-- goes on with a text -/
def goOn (rest : List Char) : Reading Unit := modify ({ · with rest })

/-! ## escapes -/

/-- what an escape stands for -/
inductive Escape where
  | char (c : Char)
  | kind (holds : Char → Bool)
  | place (holds : Option Char → Option Char → Bool)
  | again (number : Nat)
  /-- the end of a line in one of its forms -/
  | lineEnd
  /-- the text that counts starts here -/
  | start
  /-- a quotation starts, or one ends -/
  | quotation
  | nothing

def isAcross (c : Char) : Bool := c == '\t' || c == ' ' || c.toNat == 160

def isDown (c : Char) : Bool := (10 ≤ c.toNat && c.toNat ≤ 13) || c.toNat == 133

/-- the kinds of characters that letters stand for -/
def letterKind? (letter : Char) : Option (Char → Bool) :=
  match letter with
  | 'd' => some Char.isDigit
  | 'w' => some Text.isWordChar
  | 's' => some Text.isSpace
  | 'h' => some isAcross
  | 'v' => some isDown
  | 'D' => some fun c => !c.isDigit
  | 'W' => some fun c => !Text.isWordChar c
  | 'S' => some fun c => !Text.isSpace c
  | 'H' => some fun c => !isAcross c
  | 'V' => some fun c => !isDown c
  | _ => none

/-- whether a character is one of a text, or its code is in one of some ranges -/
def among (text : String) (ranges : List (Nat × Nat)) (c : Char) : Bool :=
  text.toList.contains c || ranges.any fun r => r.1 ≤ c.toNat && c.toNat ≤ r.2

def isCapital (c : Char) : Bool := among "" [(65, 90), (192, 214), (216, 222)] c

def isSmall (c : Char) : Bool := among "" [(97, 122), (181, 181), (223, 246), (248, 255)] c

/-- the properties of characters that have names; octets from 128 on count as those of the western
European alphabet -/
def properties : List (OctetText × (Char → Bool)) :=
  let isLetter (c : Char) : Bool := isCapital c || isSmall c || among "" [(170, 170), (186, 186)] c
  let isControl : Char → Bool := among "" [(0, 31), (127, 159)]
  let isBlank : Char → Bool := among " " [(160, 160)]
  [("L", isLetter), ("Lu", isCapital), ("Ll", isSmall), ("L&", fun c => isCapital c || isSmall c),
    ("N", fun c => c.isDigit || among "" [(178, 179), (185, 185), (188, 190)] c),
    ("Nd", Char.isDigit),
    ("P", among "!\"#%&'()*,-./:;?@[\\]_\x7b\x7d"
      [(161, 161), (167, 167), (171, 171), (182, 183), (187, 187), (191, 191)]),
    ("S", among "$+<=>^\x60|~"
      [(162, 166), (168, 169), (172, 172), (174, 177), (180, 180), (184, 184), (215, 215),
        (247, 247)]),
    ("Z", isBlank), ("Zs", isBlank), ("C", fun c => isControl c || c.toNat == 173),
    ("Cc", isControl), ("Any", fun _ => true)]

/-- the property behind its letter: a letter, or a name between braces, negated or not -/
def readProperty (negated : Bool) (cs : List Char) : Except Fault ((Char → Bool) × List Char) := do
  let (name, rest) ← match cs with
    | [] => .error .openProperty
    | '{' :: cs =>
      let name := cs.takeWhile (· != '}')
      if name.length < cs.length then .ok (name, cs.drop (name.length + 1))
      else .error .openProperty
    | c :: cs => .ok ([c], cs)
  let (negated, name) := match name with
    | '^' :: name => (!negated, name)
    | name => (negated, name)
  match properties.lookup (String.ofList name) with
  | some holds => .ok ((fun c => holds c != negated), rest)
  | none => .error .noProperty

/-- the characters that letters stand for -/
def letterChar? (letter : Char) : Option Char :=
  [('a', '\x07'), ('e', '\x1b'), ('f', '\x0c'), ('n', '\n'), ('r', '\r'), ('t', '\t')].lookup letter

def isOctal (c : Char) : Bool := '0' ≤ c && c ≤ '7'

def isHex (c : Char) : Bool := c.isDigit || ('a' ≤ c && c ≤ 'f') || ('A' ≤ c && c ≤ 'F')

/-- the value of a digit of a base of at most 16 -/
def digitValue (c : Char) : Nat :=
  if c.isDigit then c.toNat - 48 else c.toLower.toNat - 87

def numberFrom (base : Nat) (digits : List Char) : Nat :=
  digits.foldl (fun n c => if 1000000 < n then n else n * base + digitValue c) 0

/-- a character with a code -/
def coded (code : Nat) (rest : List Char) : Except Fault (Escape × List Char) :=
  if code < 256 then .ok (.char (Char.ofNat code), rest) else .error .bigCode

/-- a code between braces, behind the opening one -/
def bracedCode (base : Nat) (isDigit : Char → Bool) (fault : Fault) (cs : List Char) :
    Except Fault (Escape × List Char) :=
  let digits := cs.takeWhile isDigit
  match digits.isEmpty, cs.drop digits.length with
  | false, '}' :: rest => coded (numberFrom base digits) rest
  | _, _ => .error fault

/-- a character by up to three octal digits -/
def octalCode (cs : List Char) : Except Fault (Escape × List Char) :=
  let digits := (cs.take 3).takeWhile isOctal
  coded (numberFrom 8 digits) (cs.drop digits.length)

/-- a name up to its closing mark, and the rest -/
def nameUpTo (mark : Char) (cs : List Char) : Except Fault (OctetText × List Char) :=
  let name := cs.takeWhile Text.isWordChar
  match name, cs.drop name.length with
  | [], _ => .error .noName
  | c :: _, next :: rest =>
    if c.isDigit then .error .digitName
    else if next == mark then .ok (String.ofList name, rest) else .error .openName
  | _, [] => .error .openName

/-- the group with a name comes again -/
def namedGroup (s : Reader) (named : Except Fault (OctetText × List Char)) :
    Except Fault (Escape × List Char) := do
  let (name, rest) ← named
  match s.names.lookup name with
  | some number => .ok (.again number, rest)
  | none => .error .noGroup

/-- a group that comes again by its number, which can count back from the last one opened -/
def numberedGroup (s : Reader) (cs : List Char) : Except Fault (Escape × List Char) :=
  let (back, cs) := match cs with
    | '-' :: cs => (true, cs)
    | cs => (false, cs)
  let digits := cs.takeWhile Char.isDigit
  let n := numberFrom 10 digits
  if digits.isEmpty || n = 0 || (back && s.groups < n) then .error .noGroup
  else .ok (.again (if back then s.groups + 1 - n else n), cs.drop digits.length)

/-- what stands behind a backslash -/
def readEscape (s : Reader) : List Char → Except Fault (Escape × List Char)
  | [] => .error .trailingBackslash
  | c :: rest =>
    match letterKind? c, letterChar? c with
    | some holds, _ => .ok (.kind holds, rest)
    | none, some e => .ok (.char e, rest)
    | none, none =>
      match c, rest with
      | 'b', _ => .ok (.place atWordEdge, rest)
      | 'B', _ => .ok (.place fun before after => !atWordEdge before after, rest)
      | 'A', _ => .ok (.place (atStart false), rest)
      | 'G', _ => .ok (.place (atStart false), rest)
      | 'z', _ => .ok (.place (atEnd false), rest)
      | 'Z', _ => .ok (.place (atEnd false), rest)
      | 'K', _ => .ok (.start, rest)
      | 'Q', _ => .ok (.quotation, rest)
      | 'E', _ => .ok (.nothing, rest)
      | 'R', _ => .ok (.lineEnd, rest)
      | 'N', '{' :: _ => .error .unusedEscape
      | 'N', _ => .ok (.kind (· != '\n'), rest)
      | 'X', _ => .ok (.kind fun _ => true, rest)
      | 'x', '{' :: cs => bracedCode 16 isHex .noHex cs
      | 'x', cs =>
        let digits := (cs.take 2).takeWhile isHex
        coded (numberFrom 16 digits) (cs.drop digits.length)
      | 'o', '{' :: cs => bracedCode 8 isOctal .noOctal cs
      | 'o', _ => .error .noOctal
      | 'c', [] => .error .trailingControl
      | 'c', e :: rest => .ok (.char (Char.ofNat (e.toUpper.toNat ^^^ 64)), rest)
      | 'g', '{' :: cs => do
        match cs with
        | [] => .error .noName
        | d :: _ =>
          if d.isDigit || d == '-' then
            match ← numberedGroup s cs with
            | (e, '}' :: rest) => .ok (e, rest)
            | _ => .error .openName
          else namedGroup s (nameUpTo '}' cs)
      | 'g', cs => numberedGroup s cs
      | 'k', '{' :: cs => namedGroup s (nameUpTo '}' cs)
      | 'k', '<' :: cs => namedGroup s (nameUpTo '>' cs)
      | 'k', '\'' :: cs => namedGroup s (nameUpTo '\'' cs)
      | 'k', _ => .error .openName
      | 'p', cs => do
        let (holds, rest) ← readProperty false cs
        .ok (.kind holds, rest)
      | 'P', cs => do
        let (holds, rest) ← readProperty true cs
        .ok (.kind holds, rest)
      | _, _ =>
        if c == '0' then octalCode (c :: rest)
        else if c.isDigit then
          let digits := (c :: rest).takeWhile Char.isDigit
          let n := numberFrom 10 digits
          if n < 10 || n ≤ s.groups then .ok (.again n, (c :: rest).drop digits.length)
          else if isOctal c then octalCode (c :: rest)
          else .error .noGroup
        else if ['F', 'L', 'l', 'U', 'u'].contains c then .error .unusedEscape
        else if c.isAlpha then .error .unknownEscape
        else .ok (.char c, rest)

/-! ## classes -/

/-- an item of a class -/
inductive ClassPart where
  | char (c : Char)
  | kind (holds : Char → Bool)
  | nothing

/-- whether a mark between an opening bracket and a name is one that ends the name too -/
def isNameMark (c : Char) : Bool := c == ':' || c == '.' || c == '='

/-- the name up to a mark and a closing bracket, and the rest; no bracket stands in it -/
def markedName? (mark : Char) : List Char → Option (List Char × List Char)
  | '\\' :: c :: rest =>
    if c == ']' || c == '\\' then (markedName? mark rest).map fun n => ('\\' :: c :: n.1, n.2)
    else (markedName? mark (c :: rest)).map fun n => ('\\' :: n.1, n.2)
  | ']' :: _ => none
  | c :: d :: rest =>
    if c == '[' && d == mark then none
    else if c == mark && d == ']' then some ([], rest)
    else (markedName? mark (d :: rest)).map fun n => (c :: n.1, n.2)
  | _ => none

/-- a name behind an opening bracket, with its mark, and the rest -/
def bracketName? (cs : List Char) : Option (Char × List Char × List Char) :=
  match cs with
  | mark :: cs =>
    if isNameMark mark then (markedName? mark cs).map fun n => (mark, n.1, n.2) else none
  | [] => none

/-- the kind with a name, negated or not -/
def namedKind? (folds : Bool) (name : List Char) : Option (Char → Bool) :=
  let (negated, name) := match name with
    | '^' :: name => (true, name)
    | name => (false, name)
  let kind := match String.ofList name with
    | "word" => some Text.isWordChar
    | "upper" => if folds then some Char.isAlpha else Text.charKind? "upper"
    | "lower" => if folds then some Char.isAlpha else Text.charKind? "lower"
    | name => Text.charKind? name
  kind.map fun holds c => holds c != negated

/-- the next part of a class and the rest -/
def nextPart (s : Reader) : List Char → Except Fault (ClassPart × List Char)
  | [] => .error .openClass
  | '[' :: cs =>
    match bracketName? cs with
    | none => .ok (.char '[', cs)
    | some (':', name, rest) =>
      match namedKind? s.manner.folds name with
      | none => .error .unknownKind
      | some holds => .ok (.kind holds, rest)
    | some _ => .error .collation
  | '\\' :: 'b' :: rest => .ok (.char '\x08', rest)
  | '\\' :: cs => do
    match ← readEscape { s with groups := 0 } cs with
    | (.char c, rest) => .ok (.char c, rest)
    | (.kind holds, rest) =>
      if cs.head? == some 'N' || cs.head? == some 'X' then .error .classEscape
      else .ok (.kind holds, rest)
    | (.nothing, rest) => .ok (.nothing, rest)
    | (.quotation, rest) => .ok (.nothing, rest)
    | (.again _, _) => octal cs
    | _ => .error .classEscape
  | c :: rest => .ok (.char c, rest)
where
  octal (cs : List Char) : Except Fault (ClassPart × List Char) := do
    match ← octalCode cs with
    | (.char c, rest) => .ok (.char c, rest)
    | _ => .error .classEscape

/-- a test that one of two tests holds -/
def orHolds (p q : Char → Bool) : Char → Bool := fun c => p c || q c

/-- a test that does not tell letters of both cases apart, if they are the same -/
def folding (m : Manner) (holds : Char → Bool) : Char → Bool :=
  if m.folds then fun c => holds c || holds c.toLower || holds c.toUpper else holds

/-- the parts of a class up to its closing bracket, and the rest; the fuel is more than the length
of the text -/
def classParts (s : Reader) : (fuel : Nat) → (isFirst : Bool) → (Char → Bool) → List Char →
    Except Fault ((Char → Bool) × List Char)
  | 0, _, _, _ => .error .openClass
  | fuel + 1, isFirst, holds, cs => do
    if cs.head? == some ']' && !isFirst then .ok (holds, cs.drop 1)
    else
      match ← nextPart s cs with
      | (.nothing, rest) => classParts s fuel false holds rest
      | (.kind k, rest) =>
        match rest with
        | '-' :: e :: _ =>
          if e == ']' then classParts s fuel false (orHolds holds k) rest
          else .error .badRangeEnd
        | rest => classParts s fuel false (orHolds holds k) rest
      | (.char c, rest) =>
        match rest with
        | '-' :: e :: behind =>
          if e == ']' then classParts s fuel false (orHolds holds (· == c)) rest
          else
            match ← nextPart s (e :: behind) with
            | (.char last, rest) =>
              if last.toNat < c.toNat then .error .badRange
              else
                let inRange (x : Char) : Bool := c.toNat ≤ x.toNat && x.toNat ≤ last.toNat
                classParts s fuel false (orHolds holds inRange) rest
            | _ => .error .badRangeEnd
        | rest => classParts s fuel false (orHolds holds (· == c)) rest

/-- a class behind its opening bracket, and the rest -/
def readClass (s : Reader) (cs : List Char) : Except Fault ((Char → Bool) × List Char) := do
  let (negated, inner) := match cs with
    | '^' :: inner => (true, inner)
    | inner => (false, inner)
  let (holds, rest) ← classParts s (inner.length + 1) true (fun _ => false) inner
  let holds := folding s.manner holds
  .ok (if negated then fun c => !holds c else holds, rest)

/-! ## repetitions -/

/-- the greatest number in an interval -/
def intervalLimit : Nat := 65535

/-- an interval behind its opening brace, and the rest; nothing if it is none -/
def interval? (cs : List Char) : Option (Nat × Option Nat × List Char) :=
  let low := cs.takeWhile Char.isDigit
  match low.isEmpty, cs.drop low.length with
  | false, '}' :: rest => some (numberFrom 10 low, some (numberFrom 10 low), rest)
  | false, ',' :: rest =>
    let high := rest.takeWhile Char.isDigit
    match rest.drop high.length with
    | '}' :: rest =>
      some (numberFrom 10 low, if high.isEmpty then none else some (numberFrom 10 high), rest)
    | _ => none
  | _, _ => none

/-- a repetition, and the rest; nothing if there is none -/
def repetition? (cs : List Char) : Except Fault (Option (Nat × Option Nat × List Char)) :=
  match cs with
  | '*' :: rest => .ok (some (0, none, rest))
  | '+' :: rest => .ok (some (1, none, rest))
  | '?' :: rest => .ok (some (0, some 1, rest))
  | '{' :: rest =>
    match interval? rest with
    | none => .ok none
    | some (least, most, rest) =>
      if intervalLimit < least || most.any (intervalLimit < ·) then .error .bigInterval
      else if most.any (· < least) then .error .badInterval
      else .ok (some (least, most, rest))
  | _ => .ok none

/-- the text without the blanks and the comments that do not count -/
def skipSpaces (m : Manner) : (inComment : Bool) → List Char → List Char
  | _, [] => []
  | true, c :: cs => skipSpaces m (c != '\n') cs
  | false, c :: cs =>
    if m.spaced && Text.isSpace c then skipSpaces m false cs
    else if m.spaced && c == '#' then skipSpaces m true cs
    else c :: cs

/-- an expression with the repetition behind it -/
def withRepetition (mayRepeat : Bool) (r : Regex) : Reading Regex := do
  let s ← get
  match ← StateT.lift (repetition? (skipSpaces s.manner false s.rest)) with
  | none => pure r
  | some (least, most, rest) =>
    if !mayRepeat then refuse .nothingToRepeat
    else
      let often (fewest : Bool) : Regex := .ordered fewest least most r
      match rest with
      | '?' :: rest => do
        goOn rest
        pure (often !s.manner.modest)
      | '+' :: rest => do
        goOn rest
        pure (.only (often false))
      | rest => do
        goOn rest
        pure (often s.manner.modest)

/-! ## what stands behind a place -/

/-- whether an expression describes no more than a place, however often -/
def isLook : Regex → Bool
  | .beside .. => true
  | _ => false

/-- how long the texts are that are described, if they are all as long; `groups` is the number of
groups -/
def lengthOf (groups : Nat) : Regex → Except Fault Nat
  | .empty => .ok 0
  | .one _ => .ok 1
  | .sequence a b => do
    let n ← lengthOf groups a
    return n + (← lengthOf groups b)
  | .either a b => do
    let n ← lengthOf groups a
    if n = (← lengthOf groups b) then .ok n else .error .openBehind
  | .repeated least most a => do
    let n ← lengthOf groups a
    if isLook a then .ok 0 else if most = some least then .ok (least * n) else .error .openBehind
  | .ordered _ least most a => do
    let n ← lengthOf groups a
    if isLook a then .ok 0 else if most = some least then .ok (least * n) else .error .openBehind
  | .only a => lengthOf groups a
  | .group _ a => lengthOf groups a
  | .again number _ => .error (if groups < number then .noGroup else .openBehind)
  | .beside .. => .ok 0
  | .place _ => .ok 0

/-- each of the alternatives describes texts of one length -/
def checkLengths (groups : Nat) : Regex → Except Fault Unit
  | .either a b => do
    checkLengths groups a
    checkLengths groups b
  | r => do
    let _ ← lengthOf groups r
    .ok ()

/-! ## expressions -/

/-- the end of a line in one of its forms, which is not taken apart -/
def lineEnd : Regex :=
  .only (.either (Regex.ofText ['\r', '\n']) (.one isDown))

def charRegex (m : Manner) (c : Char) : Regex :=
  if m.folds then
    let c := c.toLower
    .one fun e => e.toLower == c
  else .one (· == c)

/-- changes of the manner: letters, those behind a hyphen taken away -/
def changeManner : (on : Bool) → Manner → List Char → Option (Manner × List Char)
  | _, _, [] => none
  | on, m, c :: cs =>
    match c with
    | '-' => changeManner false m cs
    | '^' => changeManner on ⟨false, false, false, false, m.modest⟩ cs
    | 'i' => changeManner on { m with folds := on } cs
    | 'm' => changeManner on { m with lines := on } cs
    | 's' => changeManner on { m with allChars := on } cs
    | 'x' => changeManner on { m with spaced := on } cs
    | 'U' => changeManner on { m with modest := on } cs
    | 'J' => changeManner on m cs
    | ':' => some (m, c :: cs)
    | ')' => some (m, c :: cs)
    | _ => none

/-- the number of a group that opens here, with a name or without -/
def openGroup (name : Option OctetText) : Reading Nat := do
  let s ← get
  let number := s.groups + 1
  match name with
  | none => modify ({ · with groups := number })
  | some name =>
    if (s.names.lookup name).isSome then refuse .sameName
    else modify ({ · with groups := number, names := (name, number) :: s.names })
  pure number

/-- what a group is for -/
inductive Purpose where
  | plain
  | kept (name : Option OctetText)
  | atomic
  | look (ahead wanted : Bool)
  /-- no group: the manner changes up to the end of the group around it -/
  | change (m : Manner)
  /-- a group in which the manner is another one -/
  | within (m : Manner)
  | comment
  | again (number : Nat)

/-- the purpose of a group behind its opening parenthesis, and the rest -/
def readPurpose (s : Reader) (cs : List Char) : Except Fault (Purpose × List Char) := do
  let named (mark : Char) (cs : List Char) : Except Fault (Purpose × List Char) := do
    let (name, rest) ← nameUpTo mark cs
    .ok (.kept (some name), rest)
  match cs with
  | '*' :: _ => .error .verb
  | '?' :: [] => .error .openGroup
  | '?' :: '#' :: rest =>
    let rest := rest.dropWhile (· != ')')
    if rest.isEmpty then .error .openComment else .ok (.comment, rest.drop 1)
  | '?' :: ':' :: rest => .ok (.plain, rest)
  | '?' :: '|' :: rest => .ok (.plain, rest)
  | '?' :: '>' :: rest => .ok (.atomic, rest)
  | '?' :: '=' :: rest => .ok (.look true true, rest)
  | '?' :: '!' :: rest => .ok (.look true false, rest)
  | '?' :: '<' :: '=' :: rest => .ok (.look false true, rest)
  | '?' :: '<' :: '!' :: rest => .ok (.look false false, rest)
  | '?' :: '<' :: rest => named '>' rest
  | '?' :: '\'' :: rest => named '\'' rest
  | '?' :: 'P' :: [] => .error .openGroup
  | '?' :: 'P' :: '<' :: rest => named '>' rest
  | '?' :: 'P' :: '=' :: rest => do
    match ← namedGroup s (nameUpTo ')' rest) with
    | (.again number, rest) => .ok (.again number, rest)
    | _ => .error .noGroup
  | '?' :: rest =>
    match changeManner true s.manner rest with
    | some (m, ':' :: rest) => .ok (.within m, rest)
    | some (m, ')' :: rest) => .ok (.change m, rest)
    | _ => .error (if rest.all Char.isAlpha then .openGroup else .unknownOption)
  | rest => .ok (.kept none, rest)

/-- a group that comes again -/
def againRegex (number : Nat) : Reading Regex := do
  modify fun s => { s with pending := .again number :: s.pending }
  let folds := (← get).manner.folds
  pure (.again number fun c e => if folds then c.toLower == e.toLower else c == e)

/-- what an escape describes, with the repetition behind it -/
def escapeRegex (e : Escape) : Reading Regex := do
  match e with
  | .char c => do
    let m := (← get).manner
    withRepetition true (charRegex m c)
  | .kind holds => withRepetition true (.one holds)
  | .place holds => withRepetition false (.place holds)
  | .again number => do
    let r ← againRegex number
    withRepetition true r
  | .lineEnd => withRepetition true lineEnd
  | .start => do
    if 0 < (← get).beside then modify fun s => { s with pending := .startBeside :: s.pending }
    withRepetition false (.group 0 .empty)
  | .quotation => do
    modify ({ · with isQuoted := true })
    pure .empty
  | .nothing => pure .empty

/-- alternatives up to the end, or up to the end of a group -/
def alternatives : (fuel : Nat) → (depth : Nat) → Reading Regex
  | 0, _ => refuse .tooDeep
  | fuel + 1, depth => do
    let first ← branch fuel depth []
    match (← get).rest with
    | '|' :: rest => do
      goOn rest
      let others ← alternatives fuel depth
      pure (.either first others)
    | _ => pure first
where
  /-- expressions one after the other; `done` holds those that have been read, last first -/
  branch : (fuel : Nat) → (depth : Nat) → (done : List Regex) → Reading Regex
    | 0, _, _ => refuse .tooDeep
    | fuel + 1, depth, done => do
      let s ← get
      if s.isQuoted then
        match s.rest with
        | [] => pure (ofList done.reverse)
        | '\\' :: 'E' :: rest => do
          set { s with rest, isQuoted := false }
          branch fuel depth done
        | c :: rest => do
          goOn rest
          let r := charRegex s.manner c
          let r ← if rest.take 2 == ['\\', 'E'] then do
              set { s with rest := rest.drop 2, isQuoted := false }
              withRepetition true r
            else pure r
          branch fuel depth (r :: done)
      else
        match skipSpaces s.manner false s.rest with
        | [] => do
          goOn []
          pure (ofList done.reverse)
        | '|' :: rest => do
          goOn ('|' :: rest)
          pure (ofList done.reverse)
        | ')' :: rest =>
          if depth = 0 then refuse .strayClose
          else do
            goOn (')' :: rest)
            pure (ofList done.reverse)
        | c :: rest => do
          goOn rest
          let r ← expression fuel depth c
          branch fuel depth (r :: done)
  termination_by structural fuel => fuel
  /-- an expression that starts with a character, behind it, with its repetition -/
  expression : (fuel : Nat) → (depth : Nat) → Char → Reading Regex
    | 0, _, _ => refuse .tooDeep
    | fuel + 1, depth, c => do
      let s ← get
      let m := s.manner
      match c with
      | '\\' => do
        let (e, rest) ← StateT.lift (readEscape s s.rest)
        goOn rest
        escapeRegex e
      | '.' => withRepetition true (.one fun c => m.allChars || c != '\n')
      | '^' => withRepetition false (.place (atStart m.lines))
      | '$' => withRepetition false (.place (atEnd m.lines))
      | '[' =>
        match bracketName? s.rest with
        | some (':', _) => refuse .bareKind
        | some _ => refuse .collation
        | none => do
          let (holds, rest) ← StateT.lift (readClass s s.rest)
          goOn rest
          withRepetition true (.one holds)
      | '(' => group fuel depth
      | c =>
        match ← StateT.lift (repetition? (c :: s.rest)) with
        | some _ => refuse .nothingToRepeat
        | none => withRepetition true (charRegex m c)
  /-- a group behind its opening parenthesis, with its repetition -/
  group : (fuel : Nat) → (depth : Nat) → Reading Regex
    | 0, _ => refuse .tooDeep
    | fuel + 1, depth => do
      let s ← get
      let (purpose, rest) ← StateT.lift (readPurpose s s.rest)
      goOn rest
      let inner (m : Manner) : Reading Regex := do
        modify ({ · with manner := m })
        let r ← alternatives fuel (depth + 1)
        match (← get).rest with
        | ')' :: rest => do
          goOn rest
          modify ({ · with manner := s.manner })
          pure r
        | _ => refuse .openGroup
      match purpose with
      | .comment => pure .empty
      | .change m => do
        modify ({ · with manner := m })
        pure .empty
      | .again number => do
        let r ← againRegex number
        withRepetition true r
      | .plain => do
        let r ← inner s.manner
        withRepetition true r
      | .within m => do
        let r ← inner m
        withRepetition true r
      | .atomic => do
        let r ← inner s.manner
        withRepetition true (.only r)
      | .kept name => do
        let number ← openGroup name
        let r ← inner s.manner
        withRepetition true (.group number r)
      | .look ahead wanted => do
        modify fun s => { s with beside := s.beside + 1 }
        let r ← inner s.manner
        modify fun s => { s with beside := s.beside - 1 }
        if !ahead then modify fun s => { s with behinds := r :: s.behinds }
        withRepetition true (.beside ahead wanted r)

/-- reads a regular expression -/
def read (folds : Bool) (text : List Char) : Except Fault Regex := do
  let manner : Manner := ⟨folds, false, false, false, false⟩
  let (r, s) ← (alternatives (4 * text.length + 4) 0).run ⟨text, 0, [], manner, [], [], false, 0⟩
  s.behinds.reverse.forM (checkLengths s.groups)
  s.pending.reverse.forM fun
    | .startBeside => .error .startBeside
    | .again number => if s.groups < number then .error .noGroup else .ok ()
  .ok r

end ShellWorkers.Regex.Preferring
