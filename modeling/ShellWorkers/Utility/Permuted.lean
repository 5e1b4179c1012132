import ShellWorkers.Regex.Reader
import ShellWorkers.Utility.Chance

/-!
# Permuted indexes

`ptx` lists every word of texts in the order of the words, each with what stands before and behind
it.  A text is cut into contexts, which are sentences or lines, and words are looked for in each.
A line of the index has four fields around its middle: what comes before the word, the word with
what follows, and at the margins what did not fit there; marks show where something is left out.

* `WordRule.words`      the words of a part of a text;
* `Survey.file`         the occurrences in a text;
* `IndexPlan.fields`    the fields of a line of the index.
-/

namespace ShellWorkers.Utility

open Text (OctetText)

/-! ## words and contexts -/

/-- a part of a text, by the places where it begins and ends -/
structure Stretch where
  start : Nat
  stop : Nat

def Stretch.length (e : Stretch) : Nat := e.stop - e.start

/-- a text, character by character -/
abbrev Passage := Array Char

namespace Passage

def part (t : Passage) (e : Stretch) : List Char := (t.extract e.start e.stop).toList

/-- whether a character that a property holds for stands at a place -/
def holdsAt (t : Passage) (holds : Char → Bool) (place : Nat) : Bool := (t[place]?).any holds

/-- the first place from one on, but no later than a limit, where a property does not hold -/
def pass (t : Passage) (holds : Char → Bool) (limit : Nat) : (fuel : Nat) → Nat → Nat
  | 0, place => place
  | fuel + 1, place =>
    if place < limit && t.holdsAt holds place then pass t holds limit fuel (place + 1) else place

/-- the last place up to one, but no earlier than a limit, before which a blank does not stand -/
def passBack (t : Passage) (limit : Nat) : Nat → Nat
  | 0 => 0
  | place + 1 =>
    if limit < place + 1 && t.holdsAt Text.isSpace place then passBack t limit place else place + 1

def passSpace (t : Passage) (limit place : Nat) : Nat := t.pass Text.isSpace limit t.size place

def passText (t : Passage) (limit place : Nat) : Nat :=
  t.pass (fun c => !Text.isSpace c) limit t.size place

end Passage

/-- what words are: what an expression describes, or characters of a table -/
inductive WordRule where
  | described (regex : Regex)
  | made (table : Array Bool)

namespace WordRule

/-- the words that are made of the characters for which a property holds -/
def ofChars (holds : Char → Bool) : WordRule :=
  .made ((List.range 256).map fun n => holds (Char.ofNat n)).toArray

def isLetter (table : Array Bool) (c : Char) : Bool := table.getD c.toNat false

/-- the words from a place up to a limit -/
def words (rule : WordRule) (t : Passage) (limit : Nat) : (fuel : Nat) → Nat → List Stretch
  | 0, _ => []
  | fuel + 1, place =>
    match rule with
    | .described regex =>
      match regex.find? (t.part ⟨place, limit⟩) with
      | none => []
      | some m =>
        let start := place + m.start.offset
        let stop := place + m.stop.offset
        if stop = start then words rule t limit fuel (start + 1)
        else ⟨start, stop⟩ :: words rule t limit fuel stop
    | .made table =>
      let start := t.pass (fun c => !isLetter table c) limit t.size place
      if limit ≤ start then []
      else
        let stop := t.pass (isLetter table) limit t.size start
        ⟨start, stop⟩ :: words rule t limit fuel stop

/-- the place behind a word, or behind a character that begins none -/
def skip (rule : WordRule) (t : Passage) (limit place : Nat) : Nat :=
  match rule with
  | .described regex =>
    match regex.atBeginning? (t.part ⟨place, limit⟩) with
    | some m => place + m.stop.offset
    | none => place + 1
  | .made table =>
    if t.holdsAt (isLetter table) place then t.pass (isLetter table) limit t.size place
    else place + 1

end WordRule

/-- the contexts of a text: where each begins, where it ends without the blanks there, and where the
next one begins; the fault if an expression describes the beginning of one -/
def contexts (ending : Option Regex) (t : Passage) : (fuel : Nat) → (place : Nat) → List Char →
    Except Unit (List (Stretch × Nat))
  | 0, _, _ => .ok []
  | _ + 1, _, [] => .ok []
  | fuel + 1, place, rest => do
    let next ← match ending.bind (·.find? rest) with
      | none => pure t.size
      | some m => if m.start.offset = 0 then throw () else pure (place + m.stop.offset)
    let others ← contexts ending t fuel next (rest.drop (next - place))
    pure ((⟨place, t.passBack place next⟩, next) :: others)

/-! ## occurrences -/

/-- a word at its place -/
structure Occurrence where
  file : Nat
  word : Stretch
  context : Stretch
  /-- the number of its line, or the place where its line begins -/
  reference : Nat

/-- where references come from, and which words are listed -/
structure SurveyRule where
  word : WordRule
  ending : Option Regex
  /-- references are names of files and numbers of lines -/
  counts : Bool
  /-- references begin lines -/
  reads : Bool
  accepts : List Char → Bool

/-- what has been found in texts -/
structure Survey where
  /-- the lines up to the last word, over all texts -/
  lines : Nat := 0
  /-- the length of the longest word -/
  longest : Nat := 0
  /-- the length of the longest reference that begins a line -/
  widest : Nat := 0
  /-- the occurrences, last first -/
  found : List Occurrence := []
  /-- the lines after each text, last first -/
  counts : List Nat := []

/-- a line of a text, and how far it has been looked through for its end -/
structure LineMark where
  start : Nat
  seen : Nat
  /-- the length of its reference -/
  length : Nat

namespace LineMark

/-- goes on to the line in which a place stands; the number of lines passed -/
def advance (t : Passage) (place : Nat) : (fuel : Nat) → (lines : Nat) → LineMark → Nat × LineMark
  | 0, lines, l => (lines, l)
  | fuel + 1, lines, l =>
    if place ≤ l.seen then (lines, l)
    else if t[l.seen]? == some '\n' then
      let seen := t.passText t.size (l.seen + 1)
      advance t place fuel (lines + 1) ⟨l.seen + 1, seen, seen - (l.seen + 1)⟩
    else advance t place fuel lines { l with seen := l.seen + 1 }

end LineMark

namespace Survey

/-- a word is looked at; `start` is where its context starts, which may be behind a reference -/
def word (rule : SurveyRule) (file : Nat) (t : Passage) (context : Stretch)
    (r : Survey × LineMark × Nat) (w : Stretch) : Survey × LineMark × Nat :=
  let (s, l, start) := r
  let s := { s with longest := if s.longest < w.length then w.length else s.longest }
  let (lines, l) := if rule.reads then l.advance t w.start (t.size + 1) s.lines else (s.lines, l)
  let s := { s with lines := lines }
  if rule.reads && w.start < l.seen then (s, l, start)
  else if !rule.accepts (t.part w) then (s, l, start)
  else
    let (lines, l) := if rule.counts then l.advance t w.start (t.size + 1) s.lines else (s.lines, l)
    let widest := if rule.reads && !rule.counts && s.widest < l.length then l.length else s.widest
    let start := if rule.reads && l.start = start then
        t.passSpace context.stop (t.passText context.stop start)
      else start
    let reference := if rule.counts then lines else l.start
    let found := ⟨file, w, ⟨start, context.stop⟩, reference⟩ :: s.found
    ({ s with lines := lines, widest := widest, found := found }, l, start)

/-- the words of a text are looked at -/
def file (rule : SurveyRule) (s : Survey) (number : Nat) (t : Passage) : Except Unit Survey := do
  let parts ← contexts rule.ending t (t.size + 1) 0 t.toList
  let seen := t.passText t.size 0
  let first : LineMark := if rule.reads then ⟨0, t.passSpace t.size seen, seen⟩ else ⟨0, 0, 0⟩
  let (s, _) := parts.foldl (fun (s, l) (context, _) =>
    let words := rule.word.words t context.stop (t.size + 1) context.start
    let (s, l, _) := words.foldl (word rule number t context) (s, l, context.start)
    (s, l)) (s, first)
  pure { s with lines := s.lines + 1, counts := (s.lines + 1) :: s.counts }

end Survey

/-! ## lines of the index -/

/-- how the index is written -/
inductive IndexForm where
  | plain
  | roff
  | tex
  deriving DecidableEq

/-- how lines are made -/
structure IndexPlan where
  rule : WordRule
  form : IndexForm
  /-- whether there are references, and whether they stand at the right -/
  refers : Bool
  counts : Bool
  atRight : Bool
  /-- the mark of what is left out, and the word before the fields -/
  mark : List Char
  macroName : OctetText
  gap : Int
  /-- the greatest widths -/
  half : Int
  before : Int
  after : Int
  reference : Int
  longest : Nat

/-- the fields of a line, and whether something is left out beside them -/
structure IndexFields where
  tail : Stretch
  before : Stretch
  after : Stretch
  head : Stretch
  tailCut : Bool
  beforeCut : Bool
  afterCut : Bool
  headCut : Bool

namespace IndexPlan

/-- goes on by words as long as a limit is not reached and the place is in reach; the last place
in reach, and the place after it -/
def stretch (p : IndexPlan) (t : Passage) (limit : Nat) (inReach : Nat → Bool) :
    (fuel : Nat) → (last place : Nat) → Nat × Nat
  | 0, last, place => (last, place)
  | fuel + 1, last, place =>
    if place < limit && inReach place then
      stretch p t limit inReach fuel place (p.rule.skip t limit place)
    else (last, place)

/-- goes on by words until what is left is no wider than a width -/
def narrow (p : IndexPlan) (t : Passage) (stop : Nat) (width : Int) : (fuel : Nat) → Nat → Nat
  | 0, place => place
  | fuel + 1, place =>
    if (place : Int) + width < stop then narrow p t stop width fuel (p.rule.skip t stop place)
    else place

/-- the fields of the line of an occurrence -/
def fields (p : IndexPlan) (t : Passage) (o : Occurrence) : IndexFields :=
  let fuel := t.size + 2
  let marks := !p.mark.isEmpty
  let key := o.word.start
  let isNear (place : Nat) : Bool := (place : Int) ≤ key + p.after
  let (last, place) := p.stretch t o.context.stop isNear fuel o.word.stop o.word.stop
  let afterStop := if isNear place then place else last
  let afterCut := marks && afterStop < o.context.stop
  let after : Stretch := ⟨key, t.passBack key afterStop⟩
  let reach := p.half + p.longest
  let left := if reach < (key : Int) - o.context.start then
      p.rule.skip t key ((key : Int) - reach).toNat
    else o.context.start
  let beforeStop := t.passBack left key
  let beforeStart := p.narrow t beforeStop p.before fuel left
  let beforeCut := marks && o.context.start < t.passBack 0 beforeStart
  let before : Stretch := ⟨t.passSpace t.size beforeStart, beforeStop⟩
  let tailWidth := p.before - ((before.stop : Int) - before.start) - p.gap
  let tailStart := t.passSpace t.size after.stop
  let isClose (place : Nat) : Bool := (place : Int) < tailStart + tailWidth
  let (last, place) := p.stretch t o.context.stop isClose fuel tailStart tailStart
  let tailStop := if isClose place then place else last
  let hasTail := 0 < tailWidth && tailStart < tailStop
  let headWidth := p.after - ((after.stop : Int) - after.start) - p.gap
  let headStop := t.passBack 0 before.start
  let headStart := p.narrow t headStop headWidth fuel left
  let hasHead := 0 < headWidth && headStart < headStop
  { tail := if 0 < tailWidth then ⟨tailStart, t.passBack tailStart tailStop⟩ else ⟨0, 0⟩
    before, after
    head := if 0 < headWidth then ⟨t.passSpace headStop headStart, headStop⟩ else ⟨0, 0⟩
    tailCut := hasTail && marks && tailStop < o.context.stop
    beforeCut := beforeCut && !hasHead
    afterCut := afterCut && !hasTail
    headCut := hasHead && marks && o.context.start < headStart }

/-- a character as it is written -/
def spelled (form : IndexForm) (c : Char) : List Char :=
  if Text.isSpace c then [' ']
  else match form with
    | .plain => [c]
    | .roff => if c = '"' then ['"', '"'] else [c]
    | .tex =>
      if ['$', '%', '&', '#', '_'].contains c then ['\\', c]
      else if c = '{' || c = '}' then ['$', '\\', c, '$']
      else if c = '\\' then "\\backslash\x7b\x7d".toList
      else [c]

def write (p : IndexPlan) (cs : List Char) : List Char := cs.flatMap (spelled p.form)

def spaces (n : Int) : List Char := List.replicate n.toNat ' '

/-- the mark if something is left out -/
def markIf (p : IndexPlan) (isCut : Bool) : List Char := if isCut then p.mark else []

/-- a line without markup -/
def plainLine (p : IndexPlan) (t : Passage) (f : IndexFields) (reference : List Char) : List Char :=
  let field (e : Stretch) : List Char := p.write (t.part e)
  let size (e : Stretch) (isCut : Bool) : Int :=
    ((e.stop : Int) - e.start) + (p.markIf isCut).length
  let hasTail := f.tail.start < f.tail.stop
  let hasHead := f.head.start < f.head.stop
  let label :=
    if p.atRight then []
    else if p.counts then
      p.write reference ++ ':' :: spaces (p.reference + p.gap - reference.length - 1)
    else p.write reference ++ spaces (p.reference + p.gap - reference.length)
  let tail := if hasTail then field f.tail ++ p.markIf f.tailCut else []
  let space := p.half - p.gap - size f.before f.beforeCut
    - (if hasTail then size f.tail f.tailCut else 0)
  let head :=
    if hasHead then
      spaces (p.half - size f.after f.afterCut - size f.head f.headCut)
        ++ p.markIf f.headCut ++ field f.head
    else if p.refers && p.atRight then spaces (p.half - size f.after f.afterCut)
    else []
  let ending := if p.refers && p.atRight then spaces p.gap ++ p.write reference else []
  label ++ tail ++ spaces space ++ p.markIf f.beforeCut ++ field f.before ++ spaces p.gap
    ++ field f.after ++ p.markIf f.afterCut ++ head ++ ending

/-- a line for a formatter of texts, whose fields stand between quotes -/
def roffLine (p : IndexPlan) (t : Passage) (f : IndexFields) (reference : List Char) : List Char :=
  let field (cs : List Char) : List Char := ' ' :: '"' :: cs ++ ['"']
  '.' :: p.macroName.toList ++ field (p.write (t.part f.tail) ++ p.markIf f.tailCut)
    ++ field (p.markIf f.beforeCut ++ p.write (t.part f.before))
    ++ field (p.write (t.part f.after) ++ p.markIf f.afterCut)
    ++ field (p.markIf f.headCut ++ p.write (t.part f.head))
    ++ (if p.refers then field (p.write reference) else [])

/-- a line for a formatter of texts, whose fields stand between braces; the word has its own -/
def texLine (p : IndexPlan) (t : Passage) (f : IndexFields) (reference : List Char) : List Char :=
  let field (cs : List Char) : List Char := '{' :: p.write cs ++ ['}']
  let middle := p.rule.skip t f.after.stop f.after.start
  '\\' :: p.macroName.toList ++ ' ' :: field (t.part f.tail) ++ field (t.part f.before)
    ++ field (t.part ⟨f.after.start, middle⟩) ++ field (t.part ⟨middle, f.after.stop⟩)
    ++ field (t.part f.head) ++ (if p.refers then field reference else [])

def line (p : IndexPlan) (t : Passage) (f : IndexFields) (reference : List Char) : OctetText :=
  String.ofList (match p.form with
    | .plain => p.plainLine t f reference
    | .roff => p.roffLine t f reference
    | .tex => p.texLine t f reference)

end IndexPlan

/-! ## the utility -/

def ptxOptions : OptionTable where
  letters := "AF:GM:ORS:TW:b:i:fg:o:trw:"
  names := [("auto-reference", .nothing, "A"), ("break-file", .value, "b"),
    ("flag-truncation", .value, "F"), ("ignore-case", .nothing, "f"), ("gap-size", .value, "g"),
    ("ignore-file", .value, "i"), ("macro-name", .value, "M"), ("only-file", .value, "o"),
    ("references", .nothing, "r"), ("right-side-refs", .nothing, "R"), ("format", .value, "form"),
    ("sentence-regexp", .value, "S"), ("traditional", .nothing, "G"),
    ("typeset-mode", .nothing, "t"), ("width", .value, "w"), ("word-regexp", .value, "W")]
  strict := false

/-- a text in which marks behind backslashes stand for characters; `c` ends it -/
def withoutBackslashes : (fuel : Nat) → List Char → List Char
  | 0, cs => cs
  | _ + 1, [] => []
  | fuel + 1, '\\' :: cs =>
    let digits (holds : Char → Bool) (base : Nat) (cs : List Char) : Nat × Char × List Char :=
      let ds := (cs.take 3).takeWhile holds
      (ds.length, Char.ofNat (Decimal.Floating.digitsIn base ds % 256), cs.drop ds.length)
    match cs with
    | [] => []
    | 'x' :: cs =>
      match digits Decimal.Floating.isHexDigit 16 cs with
      | (0, _, _) => '\\' :: 'x' :: withoutBackslashes fuel cs
      | (_, c, cs) => c :: withoutBackslashes fuel cs
    | '0' :: cs =>
      let (_, c, cs) := digits (fun c => '0' ≤ c && c ≤ '7') 8 cs
      c :: withoutBackslashes fuel cs
    | 'c' :: _ => []
    | c :: cs =>
      match [('a', '\x07'), ('b', '\x08'), ('f', '\x0c'), ('n', '\n'), ('r', '\r'), ('t', '\t'),
          ('v', '\x0b')].lookup c with
      | some d => d :: withoutBackslashes fuel cs
      | none => '\\' :: c :: withoutBackslashes fuel cs
  | fuel + 1, c :: cs => c :: withoutBackslashes fuel cs

/-- the end of an argument that is a text, up to an octet of zero -/
def unescaped (text : OctetText) : List Char :=
  (withoutBackslashes (text.length + 1) text.toList).takeWhile (· ≠ '\x00')

/-- an expression, or the end of the utility -/
def indexRegex (folds : Bool) (text : List Char) : Work Regex := do
  let d : Regex.Dialect :=
    { Regex.Dialect.basic with
      strict := false, bareRepeats := true, intervals := false, folds := folds, lines := true }
  match Regex.read d text with
  | .ok r => pure r.regex
  | .error fault =>
    fail (fault.message ++ " (for regexp " ++ quoted (String.ofList text) ++ ")")

/-- a number of columns -/
def columnsOrFail (what : OctetText) (text : OctetText) : Work Nat := do
  match leadingNumber (withoutSign text.toList) with
  | (some n, []) =>
    if 0 < n && n ≤ integerLimit then pure n
    else fail ("invalid " ++ what ++ ": " ++ quoted text)
  | _ => fail ("invalid " ++ what ++ ": " ++ quoted text)

/-- a whole file, or the end of the utility -/
def swallow (path : OctetText) : Work OctetText := do
  match ← readOperand (if path.isEmpty then "-" else path) with
  | .ok text => pure text
  | .error e => fail (named path ++ ": " ++ faultText e)

/-- the words of a file, one on a line -/
def wordsOfFile (path? : Option OctetText) (key : List Char → List Char) :
    Work (List (List Char)) := do
  match path? with
  | none => pure []
  | some path => do
    let text ← swallow path
    pure ((bareLines text).filterMap fun l => if l.isEmpty then none else some (key l.toList))

/-- the characters that make words -/
def wordTable (traditional : Bool) (breaks? : Option OctetText) : Work WordRule := do
  let isGap (c : Char) : Bool := c == ' ' || c == '\t' || c == '\n'
  match breaks? with
  | none =>
    pure (WordRule.ofChars (if traditional then fun c => !isGap c else fun c => c.isAlpha))
  | some path => do
    let breaks := (← swallow path).toList
    pure (WordRule.ofChars fun c => !breaks.contains c && !(traditional && isGap c))

def ptx (args : List OctetText) : Work Unit := do
  let a ← readArguments ptxOptions 1 args
  let mut gap := 3
  let mut width := 72
  let mut form : Option IndexForm := none
  for (option, value?) in a.options do
    let value := value?.getD ""
    match option with
    | "g" => gap ← columnsOrFail "gap width" value
    | "w" => width ← columnsOrFail "line width" value
    | "O" => form := some .roff
    | "T" => form := some .tex
    | "form" => do
      let word ← chooseWord "--format" [["roff"], ["tex"]] value
      form := some (if word = "roff" then .roff else .tex)
    | _ => pure ()
  let traditional := a.has "G"
  let counts := a.has "A"
  let reads := a.has "r"
  let folds := a.has "f"
  let inputs := if a.operands.isEmpty then ["-"] else a.operands
  if traditional then
    (inputs.drop 1).head?.forM redirectOutput
    (inputs.drop 2).head?.forM extraOperand
  let inputs := if traditional then inputs.take 1 else inputs
  let ending := match a.value? "S" with
    | some text => unescaped text
    | none => if traditional || reads then ['\n']
      else "[.?!][]\"')\x7d]*\\($\\|\t\\|  \\)[ \t\n]*".toList
  let endingRegex ← if ending.isEmpty then pure none else some <$> indexRegex folds ending
  let described ← match (a.value? "W").map unescaped with
    | none => pure none
    | some [] => pure none
    | some text => some <$> indexRegex folds text
  let table ← wordTable traditional
    (if described.isSome && (a.value? "b").isNone then none else a.value? "b")
  let rule := (described.map WordRule.described).getD table
  let key (word : List Char) : List Char := if folds then word.map Char.toUpper else word
  let ignored ← wordsOfFile (a.value? "i") key
  let only ← wordsOfFile (a.value? "o") key
  let accepts (word : List Char) : Bool :=
    !ignored.contains (key word) && (only.isEmpty || only.contains (key word))
  let surveyRule : SurveyRule := ⟨rule, endingRegex, counts, reads, accepts⟩
  let mut survey : Survey := {}
  let mut texts : Array Passage := #[]
  for (path, number) in inputs.zipIdx do
    let t := (← swallow path).toList.toArray
    texts := texts.push t
    match survey.file surveyRule number t with
    | .ok s => survey := s
    | .error _ => fail ("error: regular expression has a match of length zero: "
        ++ quoted (String.ofList ending))
  let found := survey.found.reverse.map fun o => (key ((texts.getD o.file #[]).part o.word), o)
  let sorted := found.mergeSort fun x y => !Machine.FileTree.precedes y.1 x.1
  let fileNames := inputs.map fun path => if path.isEmpty || path = "-" then "" else path
  let linesBefore := 0 :: survey.counts.reverse
  let widest := if counts then
      1 + ((fileNames.zip (linesBefore.zip survey.counts.reverse)).map fun (name, before, after) =>
        name.length + (toString (after + 1 - before)).length).foldl Nat.max 0
    else survey.widest
  let refers := counts || reads
  let atRight := a.has "R"
  let lineWidth : Int := if refers && !atRight then (width : Int) - widest - gap else width
  let lineWidth := if lineWidth < 0 then 0 else lineWidth
  let half := lineWidth / 2
  let mark := ((a.value? "F").map unescaped).getD ['/']
  let before := half - gap - (if traditional then 0 else 2 * mark.length)
  let plan : IndexPlan :=
    { rule, refers, counts, atRight, mark, gap, half
      form := form.getD (if traditional then .roff else .plain)
      macroName := (a.value? "M").getD "xx"
      before := if !traditional && before < 0 then 0 else before
      after := half - 2 * mark.length - (if traditional then 1 else 0)
      reference := widest
      longest := survey.longest }
  for (_, o) in sorted do
    let t := texts.getD o.file #[]
    let f := plan.fields t o
    let reference :=
      if counts then
        (fileNames.getD o.file "").toList
          ++ ':' :: (toString (o.reference + 1 - linesBefore.getD o.file 0)).toList
      else if reads then t.part ⟨o.reference, t.passText o.context.stop o.reference⟩
      else []
    putLine (plan.line t f reference)

end ShellWorkers.Utility
