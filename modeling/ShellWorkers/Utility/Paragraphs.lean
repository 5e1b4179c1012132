import ShellWorkers.Utility.Amounts

/-!
# Paragraphs

`fmt` fills the lines of paragraphs.  Each way of breaking a paragraph into lines has a price: lines
should be as long as is aimed at and as long as the ones next to them, sentences should not be cut
behind their first or before their last word, and a line should not end behind a point that ends no
sentence.  The cheapest way is found from the last word on: `Break.ofSuffix` is the cheapest first
line of what is left, once those of all shorter rests are known.

* `Piece`             a word with the space behind it;
* `Break`             the first line of the cheapest way to break a rest of a paragraph;
* `Filler`            what has been written and the paragraph that is read;
* `Filler.fill`       a text with its paragraphs filled.
-/

namespace ShellWorkers.Utility

open Text (OctetText)

/-- how paragraphs are filled -/
structure FillPlan where
  /-- the second line sets how far the others stand in -/
  crown : Bool
  /-- the first line stands in farther or less far than the others -/
  tagged : Bool
  /-- lines are only made shorter -/
  splits : Bool
  /-- all spaces become equal -/
  uniform : Bool
  /-- lines are shorter than this -/
  width : Nat
  /-- the length that is aimed at -/
  goal : Nat
  /-- lines of paragraphs begin with so many blanks and with these characters -/
  lead : Nat
  mark : List Char
  /-- the characters with the blanks behind them -/
  markLength : Nat

/-- a word -/
structure Piece where
  text : List Char
  length : Nat
  /-- the blanks behind it -/
  space : Nat
  /-- it begins with a parenthesis or a quote -/
  opens : Bool
  /-- it ends with a point, maybe before closing marks -/
  pointed : Bool
  punctuated : Bool
  endsSentence : Bool

namespace Piece

def isClosing (c : Char) : Bool := [')', ']', '\'', '"'].contains c

def isPunctuation (c : Char) : Bool := isPrintable c && c != ' ' && !c.isAlphanum

/-- a word of characters, where the space behind it is not known yet -/
def ofChars (cs : List Char) : Piece :=
  let behind := match cs.reverse.dropWhile isClosing with
    | [] => cs.head?
    | c :: _ => some c
  { text := cs
    length := cs.length
    space := 0
    opens := cs.head?.any ['(', '[', '\'', '\x60', '"'].contains
    pointed := behind.any ['.', '?', '!'].contains
    punctuated := cs.getLast?.any isPunctuation
    endsSentence := false }

end Piece

/-! ## prices -/

/-- the first line of the cheapest way to break a rest of a paragraph -/
structure Break where
  /-- the price of the whole rest -/
  price : Int
  length : Nat
  /-- the words of the line -/
  count : Nat
  /-- nothing is left behind the line -/
  isLast : Bool

namespace Break

/-- the price of a line that is too long or too short -/
def lengthPrice (n : Int) : Int := (n * 10) * (n * 10)

/-- the price of two lines that are not of the same length -/
def raggedPrice (n : Int) : Int := lengthPrice n / 2

/-- a price above all others -/
def limit : Int := Nat.pow 2 63 - 1

/-- the price of a line of a length before another one -/
def linePrice (k : FillPlan) (length : Nat) (next : Break) : Int :=
  lengthPrice ((k.goal : Int) - length)
    + (if next.isLast then 0 else raggedPrice ((length : Int) - next.length))

/-- what it costs to begin a line with a word behind others, the nearest first -/
def startPrice (before : List Piece) (p : Piece) : Int :=
  let behind : Int := match before with
    | [] => 0
    | q :: others =>
      if q.pointed then (if q.endsSentence then -2500 else 360000)
      else if q.punctuated then -1600
      else
        match others with
        | [] => 0
        | r :: _ => if r.endsSentence then ((40000 / (q.length + 2) : Nat) : Int) else 0
  let itself : Int :=
    if p.opens then -1600
    else if p.endsSentence then ((22500 / (p.length + 2) : Nat) : Int)
    else 0
  4900 + behind + itself

/-- The cheapest line of at least `count` words, which has a length so far and ends behind a word.
What may follow are words with the breaks that begin with them; `extra` is the price of a length
that comes from the line before. -/
def extend (k : FillPlan) (extra : Nat → Int) :
    (length : Nat) → (last : Piece) → (count : Nat) → List (Piece × Break) → Break → Break
  | length, _, count, [], best =>
    let price := extra length
    if price < best.price then ⟨price, length, count, true⟩ else best
  | length, last, count, (p, next) :: rest, best =>
    let price := linePrice k length next + next.price + extra length
    let best := if price < best.price then ⟨price, length, count, false⟩ else best
    let longer := length + last.space + p.length
    if longer < k.width then extend k extra longer p (count + 1) rest best else best

/-- the cheapest first line of a rest that begins with a word, `indent` columns from the left -/
def ofSuffix (k : FillPlan) (extra : Nat → Int) (indent : Nat) (before : List Piece) (p : Piece)
    (later : List (Piece × Break)) : Break :=
  let best := extend k extra (indent + p.length) p 1 later ⟨limit, 0, 1, false⟩
  { best with price := best.price + startPrice before p }

/-- the rests of a paragraph with their breaks, from the words before them, the last first -/
def suffixes (k : FillPlan) (first : Nat → Int) (firstIndent indent : Nat) :
    List Piece → List (Piece × Break) → List (Piece × Break)
  | [], later => later
  | [p], later => (p, ofSuffix k first firstIndent [] p later) :: later
  | p :: before, later =>
    suffixes k first firstIndent indent before
      ((p, ofSuffix k (fun _ => 0) indent before p later) :: later)

/-- the words of a paragraph in lines; the fuel is at least their number -/
def lines : (fuel : Nat) → List (Piece × Break) → List (List (Piece × Break))
  | 0, _ => []
  | _ + 1, [] => []
  | fuel + 1, (p, b) :: rest =>
    ((p, b) :: rest.take (b.count - 1)) :: lines fuel (rest.drop (b.count - 1))

/-- How many of some lines are given away when the paragraph is too long to be kept: up to the line
break that is cheapest, where later ones are preferred. -/
def cheapestCut (lines : List (List (Piece × Break))) : Nat :=
  let price (l : List (Piece × Break)) : Int := (l.head?.map (·.2.price)).getD 0
  let steps := (lines.zip (lines.drop 1 ++ [[]])).zipIdx.drop 1
  (steps.foldl (fun (cut, best) ((line, next), i) =>
    let gain := price line - price next
    let (cut, best) := if gain < best then (i, gain) else (cut, best)
    (cut, if best ≤ limit - 9 then best + 9 else best)) (lines.length, limit)).1

end Break

/-! ## reading lines -/

/-- the beginning of a line -/
structure LineStart where
  /-- the column of the first character that is no blank -/
  column : Nat
  /-- the column where the mark begins -/
  margin : Nat
  rest : List Char
  /-- the line has an end -/
  ended : Bool

def fillTab : Nat := 8

/-- skips blanks; also whether one is a tab -/
def skipBlanks : (column : Nat) → (tabs : Bool) → List Char → Nat × Bool × List Char
  | column, tabs, ' ' :: cs => skipBlanks (column + 1) tabs cs
  | column, _, '\t' :: cs => skipBlanks ((column / fillTab + 1) * fillTab) true cs
  | column, tabs, cs => (column, tabs, cs)

/-- skips as much of a mark as there is; whether it was all of it -/
def skipMark : (mark : List Char) → (column : Nat) → List Char → Nat × Bool × List Char
  | [], column, cs => (column, true, cs)
  | m :: mark, column, c :: cs =>
    if m = c then skipMark mark (column + 1) cs else (column, false, c :: cs)
  | _ :: _, column, [] => (column, false, [])

/-- reads the beginning of a line; also whether there are tabs in it -/
def LineStart.read (k : FillPlan) (line : List Char) (ended : Bool) : LineStart × Bool :=
  let (column, tabs, cs) := skipBlanks 0 false line
  if k.mark.isEmpty then
    (⟨column, if k.lead < column then k.lead else column, cs, ended⟩, tabs)
  else
    match skipMark k.mark column cs with
    | (behind, false, cs) => (⟨behind, column, cs, ended⟩, tabs)
    | (behind, true, cs) =>
      let (behind, more, cs) := skipBlanks behind false cs
      (⟨behind, column, cs, ended⟩, tabs || more)

/-! ## filling -/

/-- which lines of the paragraph have been read -/
inductive Stage where
  | outside
  /-- the first line, so that it is open how far the others stand in -/
  | first
  | inside
  deriving DecidableEq

/-- what has been written, and the paragraph that is read -/
structure Filler where
  text : String
  /-- blanks can be written as tabs -/
  tabs : Bool
  stage : Stage
  margin : Nat
  firstIndent : Nat
  indent : Nat
  /-- the length of the line that was written last in the paragraph -/
  lastLength : Nat
  /-- the words that have been read, last first -/
  words : List Piece
  count : Nat
  /-- their characters -/
  size : Nat

namespace Filler

def start : Filler := ⟨"", false, .outside, 0, 0, 0, 0, [], 0, 0⟩

/-- how many words and characters of a paragraph are kept at most -/
def wordLimit : Nat := 998
def sizeLimit : Nat := 5000

/-- writes blanks behind a column, as tabs where that is shorter -/
def blanks (tabs : Bool) (column count : Nat) : String :=
  let target := column + count
  let stop := target / fillTab * fillTab
  if tabs && column + 1 < stop then
    String.ofList (List.replicate (stop / fillTab - column / fillTab) '\t'
      ++ List.replicate (target - stop) ' ')
  else String.ofList (List.replicate count ' ')

/-- writes one line of a paragraph -/
def putLine (k : FillPlan) (f : Filler) (indent : Nat) (line : List Piece) : Filler :=
  let behind := f.margin + k.mark.length
  let start := f.text ++ blanks f.tabs 0 f.margin ++ String.ofList k.mark
    ++ blanks f.tabs behind (indent - behind)
  let column := if behind < indent then indent else behind
  let last := line.length - 1
  let (text, column) := line.zipIdx.foldl (fun (text, column) (p, i) =>
    let text := text ++ String.ofList p.text
    let column := column + p.length
    if i < last then (text ++ blanks f.tabs column p.space, column + p.space)
    else (text, column)) (start, column)
  { f with text := text.push '\n', lastLength := column }

/-- the lines that a paragraph is broken into -/
def brokenLines (k : FillPlan) (f : Filler) : List (List (Piece × Break)) :=
  let first (length : Nat) : Int :=
    if 0 < f.lastLength then Break.raggedPrice ((length : Int) - f.lastLength) else 0
  Break.lines f.count (Break.suffixes k first f.firstIndent f.indent f.words [])

/-- writes some lines of a paragraph from its first on -/
def putLines (k : FillPlan) (f : Filler) (lines : List (List (Piece × Break))) : Filler :=
  lines.zipIdx.foldl (fun f (line, i) =>
    putLine k f (if i = 0 then f.firstIndent else f.indent) (line.map Prod.fst)) f

/-- writes the paragraph, whose last word ends a sentence -/
def finish (k : FillPlan) (f : Filler) : Filler :=
  let words := match f.words with
    | [] => []
    | p :: ps => { p with pointed := true, endsSentence := true } :: ps
  let f := { f with words := words }
  let f := putLines k f (brokenLines k f)
  { f with stage := .outside, words := [], count := 0, size := 0 }

/-- how far the lines behind the first one stand in; `column` is where the next one begins, and
`same` says that it belongs to the paragraph -/
def setIndent (k : FillPlan) (same : Bool) (column : Nat) (f : Filler) : Filler :=
  let indent :=
    if k.splits then f.firstIndent
    else if k.crown then (if same then column else f.firstIndent)
    else if k.tagged then
      if same && column ≠ f.firstIndent then column
      else if f.indent = f.firstIndent then (if f.firstIndent = 0 then 3 else 0)
      else f.indent
    else f.firstIndent
  { f with indent := indent }

/-- gives away the beginning of a paragraph that has grown too long, before a word of which some
characters have been read -/
def giveAway (k : FillPlan) (column : Nat) (current : List Char) (f : Filler) :
    Filler × List Char :=
  let f := setIndent k true column f
  if f.words.isEmpty then
    ({ f with text := f.text ++ String.ofList current, size := 0 }, [])
  else
    let lines := brokenLines k f
    let cut := Break.cheapestCut lines
    let f := putLines k f (lines.take cut)
    let kept := ((lines.drop cut).flatten.map Prod.fst).reverse
    let size := kept.foldl (fun n p => n + p.length) current.length
    ({ f with words := kept, count := kept.length, size := size }, current)

/-- reads the characters of a word behind those that have been read -/
def addChars (k : FillPlan) (column : Nat) :
    (fuel : Nat) → (current : List Char) → List Char → Filler → Filler × List Char
  | 0, current, _, f => (f, current)
  | fuel + 1, current, cs, f =>
    let room := sizeLimit - f.size
    if cs.length ≤ room then ({ f with size := f.size + cs.length }, current ++ cs)
    else
      let (f, current) := giveAway k column (current ++ cs.take room) { f with size := sizeLimit }
      addChars k column fuel current (cs.drop room) f

def isWordEnd (c : Char) : Bool := c == ' ' || (9 ≤ c.toNat && c.toNat ≤ 13)

/-- reads the words of a line from a column on; the fuel is at least the number of characters -/
def addWords (k : FillPlan) (ended : Bool) : (fuel : Nat) → (column : Nat) → List Char → Filler →
    Filler
  | 0, _, _, f => f
  | _ + 1, _, [], f => f
  | fuel + 1, column, c :: cs, f =>
    let word := c :: cs.takeWhile (!isWordEnd ·)
    let (f, word) := addChars k column (word.length + 1) [] word f
    let behind := column + word.length
    let (next, tabs, rest) := skipBlanks behind f.tabs (cs.dropWhile (!isWordEnd ·))
    let p := Piece.ofChars word
    let isEnd := rest.isEmpty
    let endsSentence := (isEnd && !ended) || (p.pointed && (isEnd || 1 < next - behind))
    let space := if isEnd || k.uniform then (if endsSentence then 2 else 1) else next - behind
    let p := { p with space := space, endsSentence := endsSentence }
    let f := { f with tabs := tabs }
    let f := if f.count = wordLimit then (giveAway k next word f).1 else f
    addWords k ended fuel next rest { f with words := p :: f.words, count := f.count + 1 }

/-- copies a line that belongs to no paragraph -/
def copyLine (k : FillPlan) (f : Filler) (l : LineStart) : Filler :=
  let isCopied := l.margin < l.column || !l.rest.isEmpty
  let mark := k.mark.take (l.column - l.margin)
  let behind := l.margin + mark.length
  let start := if !isCopied then ""
    else blanks f.tabs 0 l.margin ++ String.ofList mark
      ++ (if l.rest.isEmpty then "" else blanks f.tabs behind (l.column - behind))
  let isMark := isCopied && l.rest.isEmpty && !l.ended && l.margin + k.mark.length ≤ l.column
  { f with
    text := f.text ++ start ++ String.ofList l.rest
      ++ (if l.ended || isMark then "\n" else "") }

/-- whether a line belongs to the paragraph that is read -/
def continues (k : FillPlan) (f : Filler) (l : LineStart) : Bool :=
  let same := belongs k f l
  match f.stage with
  | .outside => false
  | .inside => same && l.column = f.indent
  | .first =>
    if k.splits then false
    else if k.crown then same
    else if k.tagged then same && l.column ≠ f.firstIndent
    else same && l.column = f.indent
where
  belongs (k : FillPlan) (f : Filler) (l : LineStart) : Bool :=
    l.margin = f.margin && l.margin + k.markLength ≤ l.column && !l.rest.isEmpty

/-- reads one line -/
def step (k : FillPlan) (f : Filler) (line : List Char × Bool) : Filler :=
  let (l, tabs) := LineStart.read k line.1 line.2
  let f := { f with tabs := f.tabs || tabs }
  let f := if f.stage = .first then setIndent k (continues.belongs k f l) l.column f else f
  if continues k f l then
    addWords k l.ended (l.rest.length + 1) l.column l.rest { f with stage := .inside }
  else
    let f := if f.stage = .outside then f else finish k f
    if l.rest.isEmpty || l.margin < k.lead || l.column < l.margin + k.markLength then
      copyLine k f l
    else
      addWords k l.ended (l.rest.length + 1) l.column l.rest
        { f with stage := .first, margin := l.margin, firstIndent := l.column, lastLength := 0 }

/-- a text with its paragraphs filled -/
def fill (k : FillPlan) (text : OctetText) : OctetText :=
  let parts := text.splitOn "\n"
  let lines := parts.dropLast.map (fun line => (line.toList, true))
    ++ [((parts.getLast?.getD "").toList, false), ([], false)]
  (lines.foldl (step k) start).text

end Filler

/-! ## arguments -/

def fmtOptions : OptionTable where
  letters := "0123456789cstuw:p:g:"
  names := [("crown-margin", .nothing, "c"), ("prefix", .value, "p"),
    ("split-only", .nothing, "s"), ("tagged-paragraph", .nothing, "t"),
    ("uniform-spacing", .nothing, "u"), ("width", .value, "w"), ("goal", .value, "g")]
  strict := false

/-- the longest lines that can be asked for -/
def widthLimit : Nat := 2500

/-- the width at the beginning of arguments, and the other arguments -/
def leadingWidth (args : List OctetText) : Option OctetText × List OctetText :=
  match args with
  | arg :: rest =>
    match arg.toList with
    | '-' :: c :: cs => if c.isDigit then (some (String.ofList (c :: cs)), rest) else (none, args)
    | _ => (none, args)
  | [] => (none, [])

def fillPlan (a : Arguments) (widthText : Option OctetText) : Work FillPlan := do
  let width? ← widthText.mapM (boundedOrFail "invalid width" widthLimit)
  let goal? ← (a.value? "g").mapM (boundedOrFail "invalid width" (width?.getD 75))
  let width := width?.getD ((goal?.map (· + 10)).getD 75)
  let goal := goal?.getD (width * 187 / 200)
  let mark := ((a.value? "p").getD "").toList
  let full := mark.dropWhile (· == ' ')
  pure { crown := a.has "c", tagged := a.has "t", splits := a.has "s", uniform := a.has "u"
         width := width, goal := goal, lead := mark.length - full.length
         mark := (full.reverse.dropWhile (· == ' ')).reverse, markLength := full.length }

def fmt (args : List OctetText) : Work Unit := do
  let (leading, args) := leadingWidth args
  let a ← readArguments fmtOptions 1 args
  match a.options.find? fun o => o.1.all Char.isDigit with
  | some o =>
    misused 1 ("invalid option -- " ++ o.1 ++ "; -WIDTH is recognized only when it is the first\n"
      ++ "option; use -w N instead")
  | none => pure ()
  let k ← fillPlan a ((a.value? "w").or leading)
  for path in inputOperands a.operands do
    match ← openOperand path with
    | .error e => warn ("cannot open " ++ shellQuoted path ++ " for reading: " ++ faultText e)
    | .ok fd => do
      match ← readAll fd with
      | .ok text => put (Filler.fill k text)
      | .error _ => warn "read error"
      closeOperand path fd

end ShellWorkers.Utility
