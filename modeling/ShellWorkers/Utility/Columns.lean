import ShellWorkers.Utility.Sorting

/-!
# Columns of lines

`cut` writes parts of lines, `paste` writes lines beside each other, `nl` puts numbers before them,
`fold` breaks them, `expand` and `unexpand` turn tabs to blanks and back, and `rev` turns each line
around.
-/

namespace ShellWorkers.Utility

open Machine
open Text (OctetText)

/-! ## cut -/

/-- positions from one to another, if there is another -/
structure Span where
  first : Nat
  last : Option Nat

def Span.has (s : Span) (n : Nat) : Bool :=
  s.first ≤ n && (match s.last with
    | some last => n ≤ last
    | none => true)

/-- what is cut, in messages -/
structure CutNames where
  fields : Bool

namespace CutNames

def zero (k : CutNames) : OctetText :=
  (if k.fields then "fields" else "byte/character positions") ++ " are numbered from 1"

def range (k : CutNames) : OctetText :=
  "invalid " ++ (if k.fields then "field" else "byte or character") ++ " range"

def value (k : CutNames) (text : OctetText) : OctetText :=
  "invalid " ++ (if k.fields then "field value " else "byte/character position ") ++ quoted text

def large (k : CutNames) (text : OctetText) : OctetText :=
  if k.fields then "field number " ++ quoted text ++ " is too large"
  else "byte/character offset " ++ quoted text ++ " is too large"

end CutNames

/-- a number of a list, which may be left out -/
def spanNumber (k : CutNames) (cs : List Char) : Except OctetText (Option Nat) :=
  if cs.isEmpty then .ok none
  else if cs.all Char.isDigit then
    let n := digitsValue cs
    if naturalLimit ≤ n then .error (k.large (String.ofList cs)) else .ok (some n)
  else .error (k.value (String.ofList (cs.dropWhile Char.isDigit)))

/-- one entry of a list -/
def readSpan (k : CutNames) (cs : List Char) : Except OctetText Span := do
  let before := cs.takeWhile (· != '-')
  match cs.drop before.length with
  | [] =>
    match ← spanNumber k before with
    | some 0 => .error k.zero
    | some n => .ok ⟨n, some n⟩
    | none => .error k.zero
  | _ :: after =>
    let first ← spanNumber k before
    if after.contains '-' && (after.takeWhile Char.isDigit).length
        = (after.takeWhile (· != '-')).length then .error k.range
    else
      let last ← spanNumber k after
      match first, last with
      | none, none => .error "invalid range with no endpoint: -"
      | some 0, _ => .error k.zero
      | first, last =>
        let start := first.getD 1
        match last with
        | some n => if n < start then .error "invalid decreasing range" else .ok ⟨start, some n⟩
        | none => .ok ⟨start, none⟩

/-- a list of positions; entries stand apart by commas or blanks -/
def readSpans (k : CutNames) (text : OctetText) : Except OctetText (List Span) :=
  ((text.map fun c => if c = ' ' || c = '\t' then ',' else c).splitOn ",").mapM fun entry =>
    readSpan k entry.toList

def cutOptions : OptionTable where
  letters := "b:c:d:f:nsz"
  names := [("bytes", .value, "b"), ("characters", .value, "c"), ("fields", .value, "f"),
    ("delimiter", .value, "d"), ("only-delimited", .nothing, "s"),
    ("output-delimiter", .value, "output-delimiter"), ("complement", .nothing, "complement"),
    ("zero-terminated", .nothing, "z")]
  strict := false

/-- the parts of a list that are wanted, with their numbers -/
def chosen {α : Type} (wanted : Nat → Bool) (xs : List α) : List (Nat × α) :=
  ((List.range xs.length).map (· + 1) |>.zip xs).filter fun x => wanted x.1

/-- the wanted characters of a line, with a text between those that do not touch -/
def cutChars (spans : List Span) (wanted : Nat → Bool) (between : Option (List Char))
    (line : List Char) : List Char :=
  match between with
  | none => (chosen wanted line).map Prod.snd
  | some text =>
    let starts (n : Nat) : Bool := spans.any (·.first == n)
    (chosen wanted line).zip (0 :: (chosen wanted line).map Prod.fst)
      |>.flatMap fun (x, before) =>
        (if before != 0 && (before + 1 != x.1 || startsAlone starts x.1) then text else [])
          ++ [x.2]
where
  startsAlone (starts : Nat → Bool) (n : Nat) : Bool :=
    starts n && !(spans.any fun s => s.first < n && s.has n)

def cut (args : List OctetText) : Work Unit := do
  let a ← readArguments cutOptions 1 args
  let lists := a.options.filter fun o => ["b", "c", "f"].contains o.1
  match lists with
  | _ :: _ :: _ => misused 1 "only one list may be specified"
  | _ => pure ()
  let delimiter? ← (a.value? "d").mapM fun text =>
    match text.toList with
    | [] => pure '\x00'
    | [c] => pure c
    | _ => misused 1 "the delimiter must be a single character"
  match lists with
  | [] => misused 1 "you must specify a list of bytes, characters, or fields"
  | list :: _ => do
    let fields := list.1 == "f"
    if delimiter?.isSome && !fields then
      misused 1 "an input delimiter may be specified only when operating on fields"
    if a.has "s" && !fields then
      misused 1 "suppressing non-delimited lines makes sense\n\tonly when operating on fields"
    let spans ← match readSpans ⟨fields⟩ (list.2.getD "") with
      | .ok spans => pure spans
      | .error message => misused 1 message
    let wanted (n : Nat) : Bool := (spans.any (·.has n)) != a.has "complement"
    let tab := delimiter?.getD '\t'
    let ending := if a.has "z" then '\x00' else '\n'
    let between := a.value? "output-delimiter"
    let part (line : List Char) : Option (List Char) :=
      if fields then
        if !line.contains tab then (if a.has "s" then none else some line)
        else
          let parts := (String.ofList line).splitOn (String.ofList [tab])
          some ((between.getD (String.ofList [tab])).intercalate
            ((chosen wanted parts).map Prod.snd)).toList
      else some (cutChars spans wanted (between.map String.toList) line)
    let paths := inputOperands a.operands
    for path in paths do
      foldOperand ending (fun _ line =>
        match part (splitEnd ending line).1 with
        | some cs => put (String.ofList (cs ++ [ending]))
        | none => pure ()) () path
    endInput "-" paths

/-! ## paste -/

/-- the delimiters of a list, where a backslash protects; nothing stands for none at all -/
def pasteDelimiters : List Char → Option (List (Option Char))
  | [] => some []
  | ['\\'] => none
  | '\\' :: c :: cs =>
    let d := match c with
      | '0' => none
      | 'b' => some '\x08'
      | 'f' => some '\x0c'
      | 'n' => some '\n'
      | 'r' => some '\r'
      | 't' => some '\t'
      | 'v' => some '\x0b'
      | c => some c
    (pasteDelimiters cs).map (d :: ·)
  | c :: cs => (pasteDelimiters cs).map (some c :: ·)

/-- texts with delimiters between them, which are taken in turn -/
def interleave (delimiters : List (Option Char)) : (turn : Nat) → List (List Char) → List Char
  | _, [] => []
  | _, [text] => text
  | turn, text :: texts =>
    let d := ((delimiters[turn % delimiters.length]?).getD none).toList
    text ++ d ++ interleave delimiters (turn + 1) texts

/-- a stream that is read line by line -/
structure LineSource where
  path : OctetText
  fd : Nat
  /-- lines that have been read, and the beginning of the one behind them -/
  lines : List (List Char)
  begun : OctetText
  isDone : Bool

namespace LineSource

/-- the next line; a fault ends the stream -/
def next (ending : Char) : (fuel : Nat) → LineSource → Work (Option (List Char) × LineSource)
  | 0, s => pure (none, s)
  | fuel + 1, s => do
    match s.lines, s.isDone with
    | line :: lines, _ => pure (some line, { s with lines := lines })
    | [], true => pure (none, s)
    | [], false => do
      let last := { s with lines := if s.begun.isEmpty then [] else [s.begun.toList], isDone := true }
      match ← ask (.read s.fd pieceSize) with
      | .error e => do
        warn (named s.path ++ ": " ++ faultText e)
        next ending fuel last
      | .ok text =>
        if text.isEmpty then next ending fuel last
        else
          let parts := (s.begun ++ text).splitOn (String.ofList [ending])
          next ending fuel { s with
            lines := parts.dropLast.map String.toList
            begun := parts.getLast?.getD "" }

/-- opens operands; the input is one stream however often it is named -/
def openAll : List LineSource → List OctetText → Work (List LineSource)
  | sources, [] => pure sources.reverse
  | sources, path :: paths => do
    if path = "-" && sources.any (·.path == "-") then openAll sources paths
    else
      match ← openOperand path with
      | .error e => fail (named path ++ ": " ++ faultText e)
      | .ok fd => openAll (⟨path, fd, [], "", false⟩ :: sources) paths

end LineSource

/-- the streams that columns are read from, by number; the input is one stream -/
def columnSources : (number : Nat) → (input : Option Nat) → List OctetText → List Nat
  | _, _, [] => []
  | number, input, path :: paths =>
    match path == "-", input with
    | true, some i => i :: columnSources number input paths
    | true, none => number :: columnSources (number + 1) (some number) paths
    | false, _ => number :: columnSources (number + 1) input paths

/-- one line of each column -/
def readRow (ending : Char) : List Nat → List LineSource →
    Work (List (Option (List Char)) × List LineSource)
  | [], sources => pure ([], sources)
  | i :: is, sources => do
    match sources[i]? with
    | none => readRow ending is sources
    | some source => do
      let (line, source) ← source.next ending streamFuel
      let (row, sources) ← readRow ending is (sources.set i source)
      pure (line :: row, sources)

/-- writes lines of several streams beside each other -/
def besideEachOther (delimiters : List (Option Char)) (ending : Char) (columns : List Nat) :
    (fuel : Nat) → List LineSource → Work (List LineSource)
  | 0, sources => pure sources
  | fuel + 1, sources => do
    let (row, sources) ← readRow ending columns sources
    if row.all Option.isNone || (← get).lost.isSome then pure sources
    else do
      put (String.ofList (interleave delimiters 0 (row.map (·.getD [])) ++ [ending]))
      besideEachOther delimiters ending columns fuel sources

def pasteOptions : OptionTable where
  letters := "d:sz"
  names := [("serial", .nothing, "s"), ("delimiters", .value, "d"),
    ("zero-terminated", .nothing, "z")]
  strict := false

def paste (args : List OctetText) : Work Unit := do
  let a ← readArguments pasteOptions 1 args
  let ending := if a.has "z" then '\x00' else '\n'
  let text := (a.value? "d").getD "\t"
  match pasteDelimiters text.toList with
  | none => fail ("delimiter list ends with an unescaped backslash: " ++ text)
  | some delimiters => do
    let delimiters := if delimiters.isEmpty then [none] else delimiters
    let paths := inputOperands a.operands
    if a.has "s" then
      for path in paths do
        match ← openOperand path with
        | .error e => warn (named path ++ ": " ++ faultText e)
        | .ok fd => do
          match ← readAll fd with
          | .error e => do
            put (String.ofList [ending])
            warn (named path ++ ": " ++ faultText e)
          | .ok text =>
            put (String.ofList (interleave delimiters 0 (recordsOf ending text) ++ [ending]))
          closeOperand path fd
    else
      let sources ← LineSource.openAll [] paths
      let sources ← besideEachOther delimiters ending (columnSources 0 none paths) streamFuel sources
      sources.forM fun s => closeOperand s.path s.fd
    endInput "-" paths

/-! ## lines one by one -/

/-- writes a line changed, with its end if it has one -/
def putChanged (f : List Char → List Char) (line : OctetText) : Work Unit :=
  let (cs, isEnded) := splitEnd '\n' line
  put (String.ofList (f cs ++ (if isEnded then ['\n'] else [])))

/-- writes each line of the operands changed -/
def mapLines (f : List Char → List Char) (operands : List OctetText) : Work Unit := do
  let paths := inputOperands operands
  for path in paths do
    foldOperand '\n' (fun _ line => putChanged f line) () path
  endInput "-" paths

/-! ## fold -/

/-- the column behind a character -/
def columnAfter (octets : Bool) (column : Nat) (c : Char) : Nat :=
  if octets then column + 1
  else
    match c with
    | '\x08' => column - 1
    | '\r' => 0
    | '\t' => (column / 8 + 1) * 8
    | _ => column + 1

/-- the column behind a text -/
def columnOf (octets : Bool) (cs : List Char) : Nat := cs.foldl (columnAfter octets) 0

/-- breaks a line; `held` is the part that has not been written, last first -/
def foldLine (octets spaces : Bool) (width : Nat) :
    (fuel : Nat) → (held : List Char) → (column : Nat) → List Char → List (List Char)
  | 0, held, _, _ => [held.reverse]
  | _ + 1, held, _, [] => [held.reverse]
  | fuel + 1, held, column, c :: cs =>
    let next := columnAfter octets column c
    if width < next && !held.isEmpty then
      let broken := if spaces then held.dropWhile fun d => !(d == ' ' || d == '\t') else []
      if spaces && !broken.isEmpty then
        let rest := held.take (held.length - broken.length)
        broken.reverse
          :: foldLine octets spaces width fuel rest (columnOf octets rest.reverse) (c :: cs)
      else held.reverse :: foldLine octets spaces width fuel [] 0 (c :: cs)
    else foldLine octets spaces width fuel (c :: held) next cs

def foldOptions : OptionTable where
  letters := "bsw:0::1::2::3::4::5::6::7::8::9::"
  names := [("bytes", .nothing, "b"), ("spaces", .nothing, "s"), ("width", .value, "w")]
  strict := false

/-- the width that options spell -/
def foldWidth (a : Arguments) : Work Nat := do
  let widths := a.options.filterMap fun o =>
    if o.1 = "w" then some (o.2.getD "")
    else if o.1.toList.all Char.isDigit then some (o.1 ++ o.2.getD "")
    else none
  match widths.getLast? with
  | none => pure 80
  | some text =>
    match amount? "" text with
    | .ok n => if n = 0 then fail ("invalid number of columns: " ++ quoted text) else pure n
    | .error _ => fail ("invalid number of columns: " ++ quoted text)

def fold (args : List OctetText) : Work Unit := do
  let a ← readArguments foldOptions 1 args
  let width ← foldWidth a
  mapLines (fun cs => "\n".toList.intercalate
    (foldLine (a.has "b") (a.has "s") width (2 * cs.length + 2) [] 0 cs)) a.operands

/-! ## tabs -/

/-- the tab stop behind a column: those of a list, and then multiples if there is one width, or
the next column -/
structure TabStops where
  stops : List Nat
  /-- the width between stops behind the list -/
  every : Option Nat

namespace TabStops

def after (t : TabStops) (column : Nat) : Nat :=
  match t.stops.find? (column < ·), t.every with
  | some stop, _ => stop
  | none, some width => (column / width + 1) * width
  | none, none => column + 1

/-- whether there are stops behind a column -/
def hasAfter (t : TabStops) (column : Nat) : Bool :=
  t.every.isSome || t.stops.any (column < ·)

end TabStops

/-- a list of tab stops -/
def readTabs (texts : List OctetText) : Work TabStops := do
  let entries := ((",".intercalate texts).map fun c =>
    if c = ' ' || c = '\t' then ',' else c).splitOn ","
  let numbers ← (entries.filter (!·.isEmpty)).mapM fun entry =>
    match decimal? entry with
    | some 0 => fail "tab size cannot be 0"
    | some n => pure n
    | none =>
      fail ("tab size contains invalid character(s): "
        ++ quoted (String.ofList (entry.toList.dropWhile Char.isDigit)))
  match numbers with
  | [] => pure ⟨[], some 8⟩
  | [width] => pure ⟨[], some width⟩
  | stops =>
    if (stops.zip (stops.drop 1)).all fun p => p.1 < p.2 then pure ⟨stops, none⟩
    else fail "tab sizes must be ascending"

/-- a line with blanks in place of its tabs; with `initial` only of those before its text -/
def expandLine (t : TabStops) (initial : Bool) : (column : Nat) → List Char → List Char
  | _, [] => []
  | column, c :: cs =>
    match c with
    | '\t' =>
      let next := t.after column
      List.replicate (next - column) ' ' ++ expandLine t initial next cs
    | '\x08' => c :: expandLine t initial (column - 1) cs
    | c =>
      if initial && c != ' ' then c :: cs else c :: expandLine t initial (column + 1) cs

/-- the options of a utility on tabs; digits spell a list of stops -/
def tabOptions (letters : String) (names : List (OctetText × Takes × OctetText)) : OptionTable where
  letters := letters ++ "t:0::1::2::3::4::5::6::7::8::9::"
  names := ("tabs", .value, "t") :: names
  strict := false

/-- the tab stops that options spell -/
def tabsOf (a : Arguments) : Work TabStops :=
  readTabs (a.options.filterMap fun o =>
    if o.1 = "t" then some (o.2.getD "")
    else if o.1.toList.all Char.isDigit then some (o.1 ++ o.2.getD "")
    else none)

def expand (args : List OctetText) : Work Unit := do
  let a ← readArguments (tabOptions "i" [("initial", .nothing, "i")]) 1 args
  let t ← tabsOf a
  mapLines (expandLine t (a.has "i") 0) a.operands

/-- a run of blanks from one column on as tabs and blanks -/
def tabbed (t : TabStops) : (fuel column : Nat) → (target : Nat) → List Char
  | 0, column, target => List.replicate (target - column) ' '
  | fuel + 1, column, target =>
    let next := t.after column
    if t.hasAfter column && next ≤ target then '\t' :: tabbed t fuel next target
    else List.replicate (target - column) ' '

/-- a line with tabs in place of blanks; with `all` also behind its first text -/
def unexpandLine (t : TabStops) (all : Bool) :
    (fuel : Nat) → (column : Nat) → List Char → List Char
  | 0, _, cs => cs
  | _ + 1, _, [] => []
  | fuel + 1, column, c :: cs =>
    if c = ' ' || c = '\t' then
      let blanks := (c :: cs).takeWhile fun d => d == ' ' || d == '\t'
      let rest := (c :: cs).drop blanks.length
      let target := blanks.foldl (fun n d => if d = '\t' then t.after n else n + 1) column
      let spelled :=
        if blanks.length = 1 && c = ' ' then [' '] else tabbed t (target + 1) column target
      spelled ++ unexpandLine t all fuel target rest
    else if !all then c :: cs
    else c :: unexpandLine t all fuel (if c = '\x08' then column - 1 else column + 1) cs

def unexpand (args : List OctetText) : Work Unit := do
  let a ← readArguments (tabOptions "a"
    [("all", .nothing, "a"), ("first-only", .nothing, "first-only")]) 1 args
  let t ← tabsOf a
  let all := (a.has "a" || a.options.any fun o => o.1 = "t" || o.1.toList.all Char.isDigit)
    && !a.has "first-only"
  mapLines (fun cs => unexpandLine t all (cs.length + 1) 0 cs) a.operands

/-! ## rev -/

def rev (args : List OctetText) : Work Unit := do
  let a ← readArguments (.ofLetters "") 1 args
  for path in inputOperands a.operands do
    match ← openOperand path with
    | .error e => warn ("cannot open " ++ path ++ ": " ++ faultText e)
    | .ok fd => do
      let _ ← foldLines '\n' fd (fun _ line => putChanged List.reverse line) streamFuel "" ()
      closeOperand path fd

end ShellWorkers.Utility
