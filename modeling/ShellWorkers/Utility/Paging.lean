import ShellWorkers.Utility.Dates
import ShellWorkers.Utility.Pages

/-!
# Paging

`pr` prints files on pages with columns.  Its options are read in their order, because some of them
hold only as long as another one has not been given: the digits of consecutive options make one
number of columns, the page range that was named first holds, and older options for the width and
the separator mean different things with columns and without them.

* `PageRequest`       what was asked for;
* `PageRequest.plan`  what pages look like for so many files;
* `PageRequest.print` one file, or some files side by side.
-/

namespace ShellWorkers.Utility

open Machine
open Text (OctetText)

/-- what was asked for -/
structure PageRequest where
  /-- the first and the last page -/
  range : Option (Nat × Nat)
  /-- the digits of the number of columns, last first, and whether more may follow -/
  digits : List Char
  counting : Bool
  columns : Option Nat
  across : Bool
  carets : Bool
  doubles : Bool
  dateFormat : Option OctetText
  expands : Bool
  inputTab : Char × Nat
  contracts : Bool
  outputTab : Char × Nat
  feeds : Bool
  title : Option OctetText
  joins : Bool
  length : Nat
  parallel : Bool
  numbers : Bool
  numberTab : Char × Nat
  start : Option Int
  margin : Nat
  /-- files that cannot be opened are not complained about -/
  silent : Bool
  /-- a separator was given for fields -/
  fields : Bool
  separates : Bool
  separator : List Char
  framed : Bool
  keepsFeeds : Bool
  escapes : Bool
  /-- a width was given for columns only -/
  columnsOnly : Bool
  truncates : Bool
  width : Nat
  files : List OctetText

namespace PageRequest

/-- what holds when nothing is asked for -/
def usual : PageRequest where
  range := none
  digits := []
  counting := false
  columns := none
  across := false
  carets := false
  doubles := false
  dateFormat := none
  expands := false
  inputTab := ('\t', 8)
  contracts := false
  outputTab := ('\t', 8)
  feeds := false
  title := none
  joins := false
  length := 66
  parallel := false
  numbers := false
  numberTab := ('\t', 5)
  start := none
  margin := 0
  silent := false
  fields := false
  separates := false
  separator := []
  framed := true
  keepsFeeds := false
  escapes := false
  columnsOnly := false
  truncates := false
  width := 72
  files := []

/-! ## values -/

/-- the greatest number of columns, lines or characters -/
def countLimit : Nat := 2147483647

/-- the pages of a range; nothing if the text is no range -/
def pageRange? (what : OctetText) (text : OctetText) : Work (Option (Nat × Nat)) := do
  let number (cs : List Char) : Work (Nat × List Char) := do
    let start := withoutSign cs
    let ds := start.takeWhile Char.isDigit
    if ds.isEmpty then fail ("invalid " ++ what ++ " argument '" ++ text ++ "'")
    else if naturalLimit < digitsValue ds then
      fail (what ++ " argument '" ++ text ++ "' too large")
    else pure (digitsValue ds, start.drop ds.length)
  let (first, rest) ← number text.toList
  match rest with
  | [] => pure (if first = 0 then none else some (first, naturalLimit))
  | ':' :: cs => do
    if first = 0 then pure none
    else do
      let (last, rest) ← number cs
      if !rest.isEmpty then
        fail ("invalid suffix in " ++ what ++ " argument '" ++ text ++ "'")
      else pure (if last < first then none else some (first, last))
  | _ => pure none

def countOf (what : OctetText) (least : Nat) (text : OctetText) : Work Nat :=
  Int.toNat <$> wholeOrFail what least countLimit text

/-- a character and a width, each of which can be left out -/
def tabOf (option : OctetText) (usual : Char × Nat) (text : OctetText) : Work (Char × Nat) := do
  let (c, digits) := match text.toList with
    | c :: cs => if c.isDigit then (usual.1, c :: cs) else (c, cs)
    | [] => (usual.1, [])
  let complain (reason : OctetText) : Work (Char × Nat) :=
    misused 1 ("'-" ++ option ++ "' extra characters or invalid number in the argument: "
      ++ quoted (String.ofList digits) ++ reason)
  if text.isEmpty then misused 1 ("'-" ++ option ++ "': Invalid argument: " ++ quoted text)
  else if digits.isEmpty then pure (c, usual.2)
  else match wholeNumber? (String.ofList digits) with
    | .ok n =>
      if n ≤ 0 then complain ""
      else if (countLimit : Int) < n then complain ": Value too large for defined data type"
      else pure (c, n.toNat)
    | .error .tooLarge => complain ": Value too large for defined data type"
    | .error .invalid => complain ""

/-! ## options -/

def options : OptionTable where
  letters := "0123456789D:FJN:S::TW:abcde::fh:i::l:mn::o:rs::tvw:"
  names := [("pages", .maybe, "pages"), ("columns", .value, "columns"), ("across", .nothing, "a"),
    ("show-control-chars", .nothing, "c"), ("double-space", .nothing, "d"),
    ("date-format", .value, "D"), ("expand-tabs", .maybe, "e"), ("form-feed", .nothing, "f"),
    ("header", .value, "h"), ("output-tabs", .maybe, "i"), ("join-lines", .nothing, "J"),
    ("length", .value, "l"), ("merge", .nothing, "m"), ("number-lines", .maybe, "n"),
    ("first-line-number", .value, "N"), ("indent", .value, "o"),
    ("no-file-warnings", .nothing, "r"), ("separator", .maybe, "s"), ("sep-string", .maybe, "S"),
    ("omit-header", .nothing, "t"), ("omit-pagination", .nothing, "T"),
    ("show-nonprinting", .nothing, "v"), ("width", .value, "w"), ("page-width", .value, "W")]
  strict := true

/-- one option more -/
def withOption (r : PageRequest) (option : OctetText) (value? : Option OctetText) :
    Work PageRequest := do
  let value := value?.getD ""
  match option with
  | "pages" =>
    match value? with
    | none => fail "'--pages=FIRST_PAGE[:LAST_PAGE]' missing argument"
    | some text =>
      match ← pageRange? "--pages" text with
      | none => fail ("invalid page range " ++ quoted text)
      | range => pure { r with range := range }
  | "columns" =>
    let n ← countOf "invalid number of columns" 1 value
    pure { r with columns := some n, digits := [] }
  | "a" => pure { r with across := true }
  | "b" => pure r
  | "c" => pure { r with carets := true }
  | "d" => pure { r with doubles := true }
  | "D" => pure { r with dateFormat := some value }
  | "e" =>
    let tab ← if value?.isSome then tabOf "e" r.inputTab value else pure r.inputTab
    pure { r with expands := true, inputTab := tab }
  | "h" => pure { r with title := some value }
  | "i" =>
    let tab ← if value?.isSome then tabOf "i" r.outputTab value else pure r.outputTab
    pure { r with contracts := true, outputTab := tab }
  | "J" => pure { r with joins := true }
  | "l" =>
    pure { r with length := ← countOf "'-l PAGE_LENGTH' invalid number of lines" 1 value }
  | "m" => pure { r with parallel := true }
  | "n" =>
    let tab ← if value?.isSome then tabOf "n" r.numberTab value else pure r.numberTab
    pure { r with numbers := true, numberTab := tab }
  | "N" =>
    let start ← wholeOrFail "'-N NUMBER' invalid starting line number" (-2147483648) countLimit value
    pure { r with start := some start }
  | "o" => pure { r with margin := ← countOf "'-o MARGIN' invalid line offset" 0 value }
  | "r" => pure { r with silent := true }
  | "s" =>
    pure { r with
      fields := true
      separator := if r.separates then r.separator else (value?.map (·.toList)).getD r.separator }
  | "S" => pure { r with fields := false, separates := true, separator := value.toList }
  | "t" => pure { r with framed := false, keepsFeeds := true }
  | "T" => pure { r with framed := false, keepsFeeds := false }
  | "v" => pure { r with escapes := true }
  | "w" =>
    let n ← countOf "'-w PAGE_WIDTH' invalid number of characters" 1 value
    pure { r with columnsOnly := true, width := if r.truncates then r.width else n }
  | "W" =>
    let n ← countOf "'-W PAGE_WIDTH' invalid number of characters" 1 value
    pure { r with columnsOnly := false, truncates := true, width := n }
  | _ => pure { r with feeds := true }

/-- an option; digits make the number of columns -/
def step (r : PageRequest) (option : OctetText × Option OctetText) : Work PageRequest :=
  match option.1.toList with
  | [c] =>
    if c.isDigit then
      pure { r with digits := c :: (if r.counting then r.digits else []), counting := true }
    else withOption { r with counting := false } option.1 option.2
  | _ => withOption { r with counting := false } option.1 option.2

/-- an operand between the options, which can name the pages -/
def withOperand (r : PageRequest) (operand : OctetText) : Work PageRequest := do
  let named := { r with files := operand :: r.files }
  match r.range, operand.toList with
  | none, '+' :: cs =>
    match ← pageRange? "+" (String.ofList cs) with
    | none => pure named
    | range => pure { r with range := range }
  | _, _ => pure named

/-- reads the arguments in their order -/
def readArguments : (fuel : Nat) → List OctetText → PageRequest → Work PageRequest
  | 0, _, r => pure r
  | fuel + 1, args, r => do
    let a ← Utility.readArguments options 1 args
    let r ← a.options.foldlM step r
    let r := { r with counting := r.counting && a.operands.isEmpty }
    if (args.take (args.length - a.operands.length)).getLast? == some "--" then
      pure { r with files := a.operands.reverse ++ r.files }
    else match a.operands with
      | [] => pure r
      | operand :: args => readArguments fuel args (← withOperand r operand)

/-- what the arguments ask for, where older options stand for newer ones -/
def ofArguments (args : List OctetText) : Work PageRequest := do
  let r ← readArguments (args.length + 1) args usual
  let columns ← if r.digits.isEmpty then pure r.columns
    else some <$> countOf "invalid number of columns" 1 (String.ofList r.digits.reverse)
  if r.parallel && columns.isSome then
    fail "cannot specify number of columns when printing in parallel"
  if r.parallel && r.across then
    fail "cannot specify both printing across and printing in parallel"
  let r := { r with columns := columns, files := r.files.reverse }
  let inColumns := r.parallel || columns.isSome
  pure <|
    if r.columnsOnly then
      if inColumns then { r with truncates := true, separates := r.separates || r.fields }
      else { r with joins := true }
    else if !r.separates && r.fields && inColumns then
      if r.truncates then { r with separates := true }
      else { r with joins := true, separates := !r.separator.isEmpty }
    else r

/-! ## plans -/

/-- what pages look like for so many files; nothing if there is no room for columns.  The date and
the title are left empty -/
def plan? (r : PageRequest) (files : Nat) : Option PagePlan :=
  let framed := r.framed && 10 < r.length
  let keepsFeeds := r.keepsFeeds || r.length ≤ 10
  let body := if framed then r.length - 10 else r.length
  let parallel := r.parallel && files ≠ 0
  let columns := if parallel then files else r.columns.getD 1
  let many := decide (1 < columns)
  let separator := if many && !r.separates then (if r.joins then ['\t'] else [' '])
    else if many && !r.joins && r.separator = ['\t'] then [' ']
    else r.separator
  let numberWidth := if r.numberTab.1 = '\t' then r.numberTab.2 + (8 - r.numberTab.2 % 8)
    else r.numberTab.2 + 1
  let used := (if parallel && r.numbers then numberWidth else 0) + (columns - 1) * separator.length
  let columnWidth := (r.width - used) / columns
  if columnWidth = 0 then none
  else some {
    body := if r.doubles then body / 2 else body
    framed, keepsFeeds, columns, parallel, separator, numberWidth, columnWidth
    feeds := r.feeds
    doubles := r.doubles
    stores := many && !r.across && !r.parallel
    truncates := (r.truncates || many) && !r.joins
    separates := r.separates || many
    expands := r.expands || (many && separator ≠ ['\t'])
    contracts := r.contracts || many
    inputTab := r.inputTab
    outputTab := r.outputTab
    margin := r.margin
    numbers := r.numbers
    digits := r.numberTab.2
    numberEnd := r.numberTab.1
    escapes := r.escapes
    carets := r.carets
    date := ""
    title := ""
    room := r.width }

/-- how wide a text is in the head -/
def widthOf (text : OctetText) : Nat :=
  (text.toList.filter fun c => isPrintable c || 128 ≤ c.toNat).length

/-- a plan with its head; the date is that of a file, or the present one -/
def withHead (r : PageRequest) (name : OctetText) (source : Option Nat) (k : PagePlan) :
    Work PagePlan := do
  let now ← ask .now
  let instant ← match source with
    | none => pure now
    | some fd => do
      match ← ask (.statusOpen fd) with
      | .ok status => pure status.modified
      | .error _ => pure now
  let vars := (← get).vars
  let usualFormat :=
    if (vars.lookup "POSIXLY_CORRECT").isSome then "%b %e %H:%M %Y" else "%Y-%m-%d %H:%M"
  let date := formatTime (← localZone) instant (r.dateFormat.getD usualFormat)
  let title := r.title.getD (if source.isNone then "" else name)
  pure { k with date := date, title := title, room := k.room - widthOf date - widthOf title }

/-! ## files -/

/-- opens a file; nothing, with a complaint, if that fails -/
def openFile (r : PageRequest) (name : OctetText) : Work (Option (OctetText × Nat)) := do
  match ← openOperand name with
  | .ok fd => pure (some (name, fd))
  | .error e => do
    if !r.silent then note (named name ++ ": " ++ faultText e)
    setCode 1
    pure none

/-- where each column begins -/
def starts (k : PagePlan) : List Nat :=
  let first := k.margin + k.separator.length
  let numbered := if k.parallel && k.numbers then k.numberWidth else 0
  (List.range k.columns).map fun i =>
    if i = 0 then first
    else if k.truncates then
      k.margin + numbered + i * (k.columnWidth + k.separator.length)
    else 0

/-- columns at the beginning of their files -/
def columnsOf (k : PagePlan) : Array PageColumn :=
  let columns := (starts k).zipIdx.map fun (start, i) =>
    { source := if k.parallel then i else 0
      status := .opened
      stored := 0
      left := 0
      current := 0
      start := start
      numbered := k.numbers && (!k.parallel || i == 0)
      isFull := false : PageColumn }
  columns.toArray

/-- a press before its first page; some of it lasts from file to file -/
def prepare (k : PagePlan) (sources : Nat) (p : Press) : Press :=
  { p with
    text := ""
    sources := Array.replicate sources []
    columns := columnsOf k
    lines := #[]
    ready := if k.parallel then k.columns else 1
    isLastLine := false
    page := 1
    skipped := 0 }

/-- a press that nothing has been printed with -/
def idle : Press where
  text := ""
  sources := #[]
  columns := #[]
  lines := #[]
  storing := []
  ready := 0
  outputAt := 0
  inputAt := 0
  spaces := 0
  separators := 0
  padding := 0
  padsDown := false
  showsHead := false
  showsFeed := false
  feedOnly := false
  isBlank := false
  aligns := false
  isLastLine := false
  page := 1
  number := 1
  skipped := 0

/-- whether a text has so many lines -/
def hasLines : Nat → List Char → Bool
  | 0, _ => true
  | _ + 1, [] => false
  | n + 1, c :: cs => if c = '\n' then hasLines n cs else hasLines (n + 1) cs

/-- reads on until there are enough lines for a page; a file that ends is left out -/
def supply (lines : Nat) (name : OctetText) (fd : Nat) : (fuel : Nat) → List Char →
    Work (List Char × Bool)
  | 0, held => pure (held, true)
  | fuel + 1, held => do
    if hasLines lines held then pure (held, true)
    else match ← ask (.read fd pieceSize) with
      | .error e => fail (named name ++ ": " ++ faultText e)
      | .ok "" => pure (held, false)
      | .ok text => supply lines name fd fuel (held ++ text.toList)

/-- a file that is read -/
structure Feed where
  name : OctetText
  fd : Nat
  source : Nat
  isOpen : Bool

/-- gives a press what it needs for a page -/
def supplyAll (k : PagePlan) : List Feed → Press → Work (List Feed × Press)
  | [], p => pure ([], p)
  | f :: feeds, p => do
    let need := k.body * k.columns + 2 * k.columns + 8
    let (held, more) ← if f.isOpen then
        supply need f.name f.fd streamFuel (p.sources.getD f.source [])
      else pure (p.sources.getD f.source [], false)
    let p := { p with sources := p.sources.setIfInBounds f.source held }
    let (feeds, p) ← supplyAll k feeds p
    pure ({ f with isOpen := more } :: feeds, p)

/-- prints pages as long as there are some -/
def printPages (k : PagePlan) (last : Nat) : (fuel : Nat) → List Feed → Press → Work Press
  | 0, _, p => pure p
  | fuel + 1, feeds, p => do
    let (feeds, p) ← supplyAll k feeds p
    let (goesOn, p) := (Press.printPage k last).run p
    put p.text
    let p := { p with text := "" }
    if goesOn then printPages k last fuel feeds p else pure p

/-- leaves out the pages before the first one; nothing if there are no others -/
def skipPages (k : PagePlan) (first : Nat) : (fuel : Nat) → List Feed → Press →
    Work (Option (List Feed × Press))
  | 0, feeds, p => pure (some (feeds, p))
  | fuel + 1, feeds, p => do
    if first ≤ p.page then pure (some (feeds, p))
    else do
      let (feeds, p) ← supplyAll k feeds p
      let (goesOn, p) := (Press.skipPage k).run p
      if goesOn then skipPages k first fuel feeds { p with page := p.page + 1 }
      else do
        note ("starting page number " ++ toString first ++ " exceeds page count "
          ++ toString p.page)
        pure none

/-- prints opened files with a plan -/
def printOpened (r : PageRequest) (k : PagePlan) (opened : List (OctetText × Nat)) (p : Press) :
    Work Press := do
  let isShared (i : Nat) (name : OctetText) : Bool :=
    name = "-" && (opened.take i).any (·.1 = "-")
  let sourceOf (i : Nat) (name : OctetText) : Nat :=
    if isShared i name then opened.findIdx (·.1 = "-") else i
  let p := prepare k opened.length p
  let p := { p with columns := p.columns.map fun column =>
    match opened[column.source]? with
    | some file => { column with source := sourceOf column.source file.1 }
    | none => column }
  let feeds := opened.zipIdx.filterMap fun (file, i) =>
    if isShared i file.1 then none else some ⟨file.1, file.2, i, true⟩
  let (first, last) := r.range.getD (1, naturalLimit)
  match ← skipPages k first streamFuel feeds p with
  | none => pure p
  | some (feeds, p) => do
    let start := r.start.getD (1 + p.skipped)
    let p ← printPages k last streamFuel feeds { p with number := start, page := first }
    opened.forM fun file => closeOperand file.1 file.2
    pure p

/-- prints one file, or some files side by side -/
def print (r : PageRequest) (p : Press) (names : List OctetText) : Work Press := do
  match r.plan? names.length with
  | none => fail "page width too narrow"
  | some k =>
    if names.isEmpty then
      let k ← r.withHead "" none k
      r.printOpened k [("-", 0)] p
    else
      match ← names.filterMapM r.openFile with
      | [] => pure p
      | (name, fd) :: others =>
        let k := { k with columns := if k.parallel then others.length + 1 else k.columns }
        let source := if k.parallel || name = "-" then none else some fd
        let k ← r.withHead name source k
        r.printOpened k ((name, fd) :: others) p

end PageRequest

open PageRequest in
def pr (args : List OctetText) : Work Unit := do
  let r ← PageRequest.ofArguments args
  if r.files.isEmpty || r.parallel then
    let _ ← r.print idle r.files
  else
    let _ ← r.files.foldlM (fun p name => r.print p [name]) idle

end ShellWorkers.Utility
