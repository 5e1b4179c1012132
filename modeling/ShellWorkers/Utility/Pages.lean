import ShellWorkers.Utility.Amounts

/-!
# Pages

Lines in columns on pages.  A page has a head, a body of so many lines and a foot.  The columns of
a page can hold one file, downwards or across, or each a file of its own.  Columns that are filled
downwards are stored before they are printed, and are made equally long.

A form feed ends a page early.  Blanks are held back until something follows them, so that they can
become tabs; separators are held back until something follows them in their line.

* `PagePlan`      what pages look like;
* `Press`         what is left to be read, and what has been printed;
* `skipPages`     leaves out the first pages;
* `printPage`     prints one page.
-/

namespace ShellWorkers.Utility

open Text (OctetText)

/-- what pages look like -/
structure PagePlan where
  /-- the lines of the body -/
  body : Nat
  /-- there are heads and feet -/
  framed : Bool
  /-- form feeds are printed -/
  keepsFeeds : Bool
  /-- a page ends with a form feed -/
  feeds : Bool
  doubles : Bool
  columns : Nat
  /-- each column holds a file of its own -/
  parallel : Bool
  /-- columns are filled downwards -/
  stores : Bool
  /-- lines are cut so that they fit into their columns -/
  truncates : Bool
  separates : Bool
  separator : List Char
  /-- tabs become blanks, and blanks become tabs -/
  expands : Bool
  contracts : Bool
  inputTab : Char × Nat
  outputTab : Char × Nat
  margin : Nat
  columnWidth : Nat
  /-- lines have numbers, with so many digits and a character behind them -/
  numbers : Bool
  digits : Nat
  numberEnd : Char
  /-- the columns that a number takes -/
  numberWidth : Nat
  /-- characters that are not printable are written in octal digits, or with a caret -/
  escapes : Bool
  carets : Bool
  /-- the date and the title of the head, and the columns that they leave free -/
  date : OctetText
  title : OctetText
  room : Int

/-- whether a column has something to print -/
inductive ColumnStatus where
  | opened
  /-- a form feed was found while columns were stored -/
  | feedFound
  /-- it waits for the next page -/
  | held
  | closed
  deriving DecidableEq

structure PageColumn where
  /-- the place of its file among the sources -/
  source : Nat
  status : ColumnStatus
  /-- how many lines are stored -/
  stored : Nat
  /-- how many lines are still to be printed -/
  left : Int
  /-- the stored line that is printed next -/
  current : Nat
  /-- the place on a line where it begins -/
  start : Nat
  numbered : Bool
  /-- it has filled the last page -/
  isFull : Bool

structure Press where
  /-- what has been printed -/
  text : String
  sources : Array (List Char)
  columns : Array PageColumn
  /-- stored lines, with the place where their text ends -/
  lines : Array (List Char × Nat)
  /-- the line that is stored, last first -/
  storing : List Char
  /-- how many files can still be read -/
  ready : Int
  outputAt : Int
  inputAt : Nat
  /-- blanks and separators that are held back -/
  spaces : Int
  separators : Nat
  /-- where the next column begins; zero stands for anywhere -/
  padding : Nat
  padsDown : Bool
  showsHead : Bool
  showsFeed : Bool
  /-- nothing but a form feed was read -/
  feedOnly : Bool
  isBlank : Bool
  /-- columns without text stand before the next one -/
  aligns : Bool
  isLastLine : Bool
  page : Nat
  number : Int
  /-- how many lines have been left out -/
  skipped : Nat

namespace Press

abbrev Printing := StateM Press

/-! ## reading and writing -/

/-- the next character of a source; nothing at its end -/
def next? (source : Nat) : Printing (Option Char) := do
  match (← get).sources.getD source [] with
  | [] => pure none
  | c :: cs => do
    modify fun s => { s with sources := s.sources.setIfInBounds source cs }
    pure (some c)

/-- skips the end of a line that follows at once -/
def skipLineEnd (source : Nat) : Printing Unit := do
  match (← get).sources.getD source [] with
  | '\n' :: cs => modify fun s => { s with sources := s.sources.setIfInBounds source cs }
  | _ => pure ()

def putChar (c : Char) : Printing Unit := modify fun s => { s with text := s.text.push c }

def putText (text : String) : Printing Unit := modify fun s => { s with text := s.text ++ text }

def closedColumn : PageColumn := ⟨0, .closed, 0, 0, 0, 0, false, false⟩

def column (i : Nat) : Printing PageColumn := return (← get).columns.getD i closedColumn

def setColumn (i : Nat) (f : PageColumn → PageColumn) : Printing Unit :=
  modify fun s => { s with columns := s.columns.modify i f }

def setColumns (f : PageColumn → PageColumn) : Printing Unit :=
  modify fun s => { s with columns := s.columns.map f }

/-- the place behind a tab -/
def afterTab (width place : Nat) : Nat := place + (width - place % width)

/-- tabs and blanks from a place to another -/
def whiteText (tab : Char × Nat) : (fuel : Nat) → (place goal : Nat) → List Char
  | 0, _, _ => []
  | fuel + 1, place, goal =>
    if place + 1 < goal && afterTab tab.2 place ≤ goal then
      tab.1 :: whiteText tab fuel (afterTab tab.2 place) goal
    else List.replicate (goal - place) ' '

/-- writes the blanks that were held back -/
def putSpaces (k : PagePlan) : Printing Unit :=
  modify fun s =>
    let goal := s.outputAt + s.spaces
    let text := whiteText k.outputTab (goal.toNat + 1) s.outputAt.toNat goal.toNat
    { s with text := s.text ++ String.ofList text, outputAt := goal, spaces := 0 }

/-- moves on to a place -/
def padTo (k : PagePlan) (place : Nat) : Printing Unit :=
  modify fun s =>
    if k.contracts then { s with spaces := place - s.outputAt }
    else
      { s with
        text := s.text ++ String.ofList (List.replicate ((place : Int) - s.outputAt).toNat ' ')
        outputAt := place }

/-- writes the separators that were held back, as one -/
def putSeparators (k : PagePlan) : Printing Unit := do
  if (← get).separators = 0 then
    if 0 < (← get).spaces then putSpaces k
  else do
    for c in k.separator do
      if c = ' ' then modify fun s => { s with spaces := s.spaces + 1 }
      else do
        if 0 < (← get).spaces then putSpaces k
        putChar c
        modify fun s => { s with outputAt := s.outputAt + 1 }
    if 0 < (← get).spaces then putSpaces k
    modify ({ · with separators := 0 })

/-- prints a character -/
def printChar (k : PagePlan) (c : Char) : Printing Unit := do
  if k.contracts && c = ' ' then modify fun s => { s with spaces := s.spaces + 1 }
  else do
    if k.contracts then
      if 0 < (← get).spaces then putSpaces k
      if isPrintable c then modify fun s => { s with outputAt := s.outputAt + 1 }
      else if c = '\x08' then modify fun s => { s with outputAt := s.outputAt - 1 }
    putChar c

/-- prints or stores a character -/
def emit (k : PagePlan) (c : Char) : Printing Unit :=
  if k.stores then modify fun s => { s with storing := c :: s.storing } else printChar k c

/-- the number of the next line -/
def putNumber (k : PagePlan) : Printing Unit := do
  let digits := (toString (← get).number).toList
  modify fun s => { s with number := s.number + 1 }
  let padded := List.replicate (k.digits - digits.length) ' ' ++ digits
  (padded.drop (padded.length - k.digits)).forM (emit k)
  if 1 < k.columns then
    if k.numberEnd = '\t' then (List.replicate (k.numberWidth - k.digits) ' ').forM (emit k)
    else emit k k.numberEnd
  else do
    emit k k.numberEnd
    if k.numberEnd = '\t' then
      modify fun s => { s with outputAt := afterTab k.outputTab.2 s.outputAt.toNat }
  if k.truncates && !k.parallel then
    modify fun s => { s with inputAt := s.inputAt + k.numberWidth }

/-- how a character is shown, and the place behind it -/
def shown (k : PagePlan) (place : Nat) (c : Char) : List Char × Nat :=
  let octal : List Char :=
    ['\\', digitChar (c.toNat / 64), digitChar (c.toNat / 8 % 8), digitChar (c.toNat % 8)]
  if c = k.inputTab.1 || c = '\t' then
    let behind := afterTab (if c = k.inputTab.1 then k.inputTab.2 else 8) place
    (if k.expands then List.replicate (behind - place) ' ' else [c], behind)
  else if isPrintable c then ([c], place + 1)
  else if k.escapes then (octal, place + 4)
  else if k.carets then
    if c.toNat < 128 then (['^', Char.ofNat (c.toNat ^^^ 64)], place + 2) else (octal, place + 4)
  else if c = '\x08' then (if place = 0 then [] else [c], place - 1)
  else ([c], place)

/-! ## columns -/

/-- how many columns have something to print -/
def readyColumns (k : PagePlan) : Printing Nat := do
  return ((← get).columns.toList.filter fun p =>
    p.status = .opened || p.status = .feedFound
      || (k.stores && 0 < p.stored && 0 < p.left)).length

/-- the file of a column has ended -/
def closeColumn (k : PagePlan) (i : Nat) : Printing Unit := do
  if (← column i).status ≠ .closed then
    if k.parallel then setColumn i ({ · with status := .closed, left := 0 })
    else
      setColumns fun p =>
        { p with status := .closed, left := if p.stored = 0 then 0 else p.left }
    modify fun s => { s with ready := s.ready - 1 }

/-- the file of a column waits for the next page -/
def holdColumn (k : PagePlan) (i : Nat) : Printing Unit := do
  let status : ColumnStatus := if k.stores then .feedFound else .held
  if k.parallel then setColumn i ({ · with status := .held })
  else setColumns ({ · with status := status })
  setColumn i ({ · with left := 0 })
  modify fun s => { s with ready := s.ready - 1 }

/-- a form feed in the file of a column -/
def endByFeed (k : PagePlan) (i : Nat) (keeps : Bool) : Printing Unit := do
  skipLineEnd (← column i).source
  if keeps then modify ({ · with showsFeed := true })
  holdColumn k i

/-- makes the columns that wait ready for a new page -/
def resetColumns (k : PagePlan) : Printing Unit := do
  let held := ((← get).columns.toList.filter (·.status = .held)).length
  setColumns fun p => if p.status = .held then { p with status := .opened } else p
  modify fun s => { s with ready := s.ready + held }
  if k.stores then
    let isClosed := (← column 0).status = .closed
    modify ({ · with ready := if isClosed then 0 else 1 })

/-- begins a column in which nothing may stand -/
def alignColumn (k : PagePlan) (i : Nat) : Printing Unit := do
  let p ← column i
  modify ({ · with padding := p.start })
  if k.separator.length < p.start then
    padTo k (p.start - k.separator.length)
    modify ({ · with padding := 0 })
  if k.separates then putSeparators k
  if p.numbered then putNumber k

/-- moves on to where a column begins -/
def padColumn (k : PagePlan) : Printing Unit := do
  let padding := (← get).padding
  if k.separator.length < padding then
    padTo k (padding - k.separator.length)
    modify ({ · with padding := 0 })
  if k.separates then putSeparators k

/-! ## lines -/

/-- prints the head of a page -/
def putHead (k : PagePlan) : Printing Unit := do
  modify ({ · with outputAt := 0 })
  padTo k k.margin
  putSpaces k
  let page := "Page " ++ toString (← get).page
  let free := (k.room - page.length).toNat
  let blanks (n : Nat) : String := String.ofList (List.replicate (if n = 0 then 1 else n) ' ')
  putText ("\n\n" ++ String.ofList (List.replicate k.margin ' ') ++ k.date ++ blanks (free / 2)
    ++ k.title ++ blanks (free - free / 2) ++ page ++ "\n\n\n")
  modify ({ · with showsHead := false, outputAt := 0 })

/-- reads what is left of a line and leaves it out -/
def skipRest (k : PagePlan) (i : Nat) : (fuel : Nat) → Printing Unit
  | 0 => pure ()
  | fuel + 1 => do
    match ← next? (← column i).source with
    | some '\n' => pure ()
    | some '\x0c' => endByFeed k i k.keepsFeeds
    | none => closeColumn k i
    | some _ => skipRest k i fuel

/-- reads and prints what is left of a line; false if it does not fit into its column -/
def readRest (k : PagePlan) (i : Nat) : (fuel : Nat) → Printing Bool
  | 0 => pure true
  | fuel + 1 => do
    match ← next? (← column i).source with
    | some '\n' => pure true
    | some '\x0c' => do
      endByFeed k i k.keepsFeeds
      pure true
    | none => do
      closeColumn k i
      pure true
    | some c => do
      let (text, behind) := shown k (← get).inputAt c
      if k.truncates && k.columnWidth < behind then pure false
      else do
        modify ({ · with inputAt := behind })
        text.forM (emit k)
        readRest k i fuel

/-- the columns before this one, in which nothing stands -/
def alignEmpty (k : PagePlan) (start : Nat) : Printing Unit := do
  let count := (← get).separators
  modify ({ · with separators := 0 })
  for i in List.range count do
    alignColumn k i
    modify fun s => { s with separators := s.separators + 1 }
  modify ({ · with
    padding := start
    spaces := if k.truncates then k.columnWidth else 0
    aligns := false })

/-- reads a line and prints or stores it; false if it does not fit into its column -/
def readLine (k : PagePlan) (i : Nat) : Printing Bool := do
  let p ← column i
  let first ← next? p.source
  let first ← if first = some '\x0c' && p.isFull then do
      match ← next? p.source with
      | some '\n' => next? p.source
      | c => pure c
    else pure first
  setColumn i ({ · with isFull := false })
  match first with
  | some '\x0c' => do
    modify ({ · with feedOnly := true })
    if (← get).showsHead && !k.stores then do
      modify ({ · with padsDown := true })
      putHead k
      endByFeed k i false
    else endByFeed k i k.keepsFeeds
    pure true
  | none => do
    closeColumn k i
    pure true
  | some c => do
    let place := (← get).inputAt
    let (text, behind) := if c = '\n' then ([], place) else shown k place c
    if k.truncates && k.columnWidth < behind then pure false
    else do
      modify ({ · with inputAt := behind })
      if !k.stores then
        modify ({ · with padsDown := true })
        if (← get).showsHead then putHead k
        if k.parallel && (← get).aligns then alignEmpty k p.start
        padColumn k
      if p.numbered then putNumber k
      modify ({ · with isBlank := false })
      if c = '\n' then pure true
      else do
        text.forM (emit k)
        readRest k i streamFuel

/-- reads a line, and leaves out what does not fit -/
def readWholeLine (k : PagePlan) (i : Nat) : Printing Unit := do
  if !(← readLine k i) then skipRest k i streamFuel

/-- prints a line that was stored -/
def printStored (k : PagePlan) (i : Nat) : Printing Unit := do
  let p ← column i
  let (text, behind) := (← get).lines.getD p.current ([], 0)
  setColumn i fun p => { p with current := p.current + 1 }
  modify ({ · with padsDown := true })
  if (← get).showsHead then putHead k
  let isHeadOnly ← if p.status = .feedFound then do
      setColumns ({ · with status := .held })
      pure (decide ((← column 0).left ≤ 0))
    else pure false
  if isHeadOnly then
    if !k.framed then modify ({ · with padsDown := false })
  else do
    padColumn k
    text.forM (printChar k)
    if (← get).spaces = 0 then
      let place : Int := p.start + behind
      let isFirst := p.start = k.margin + k.separator.length
      modify ({ · with outputAt := if isFirst then place - k.separator.length else place })

/-! ## pages -/

/-- stores the lines of a column -/
def storeLines (k : PagePlan) (i : Nat) : (fuel : Nat) → Printing Unit
  | 0 => pure ()
  | fuel + 1 => do
    if 0 < (← get).ready then
      if (← column i).status = .opened then
        modify ({ · with inputAt := 0, storing := [] })
        readWholeLine k i
        let isOpen := (← column i).status = .opened
        if isOpen || !(← get).storing.isEmpty then
          modify fun s => { s with lines := s.lines.push (s.storing.reverse, s.inputAt) }
      storeLines k i fuel

/-- stores the lines of a page and makes its columns equally long -/
def storeColumns (k : PagePlan) : Printing Unit := do
  modify ({ · with lines := #[] })
  setColumns ({ · with stored := 0 })
  for i in List.range k.columns do
    if 0 < (← get).ready then storeLines k i k.body
  let total := (← get).lines.size
  let _ ← (List.range k.columns).foldlM (fun first i => do
    let count := total / k.columns + (if i < total % k.columns then 1 else 0)
    setColumn i ({ · with stored := count, current := first, left := count })
    pure (first + count)) 0

/-- prints one line of some columns; false if there is nothing left to print -/
def printColumns (k : PagePlan) : List Nat → Printing Unit
  | [] => pure ()
  | i :: rest => do
    modify ({ · with inputAt := 0 })
    let p ← column i
    let goesOn ← if 0 < p.left || p.status = .feedFound then do
        modify ({ · with feedOnly := false, padding := p.start })
        if k.stores then printStored k i else readWholeLine k i
        setColumn i fun p => { p with left := p.left - 1 }
        if (← column i).left ≤ 0 && (← readyColumns k) = 0 then pure false
        else do
          let status := (← column i).status
          if k.parallel && status ≠ .opened then
            if (← get).isBlank then modify ({ · with aligns := true })
            else if status = .closed || (status = .held && (← get).feedOnly) then alignColumn k i
          pure true
      else do
        if k.parallel then
          if (← get).isBlank then modify ({ · with aligns := true }) else alignColumn k i
        pure true
    if goesOn then
      if k.separates then modify fun s => { s with separators := s.separators + 1 }
      printColumns k rest

/-- prints the lines of a page; answers how many are left, and whether any was printed -/
def printLines (k : PagePlan) : (fuel : Nat) → (left : Nat) → (printed : Bool) →
    Printing (Nat × Bool)
  | 0, left, printed => pure (left, printed)
  | fuel + 1, left, printed => do
    if left = 0 || (← readyColumns k) = 0 then pure (left, printed)
    else do
      modify ({ · with
        outputAt := 0, spaces := 0, separators := 0, padsDown := false, aligns := false
        isBlank := true })
      printColumns k (List.range k.columns)
      let padsDown := (← get).padsDown
      let printed := printed || padsDown
      if padsDown then putChar '\n'
      let left := if padsDown then left - 1 else left
      if (← readyColumns k) = 0 && !k.framed then pure (left, printed)
      else if k.doubles && printed then do
        putChar '\n'
        printLines k fuel (left - 1) printed
      else printLines k fuel left printed

/-- the lines of the foot -/
def footLines : Nat := 5

/-- prints one page; whether there may be more -/
def printPage (k : PagePlan) (lastPage : Nat) : Printing Bool := do
  if k.stores then storeColumns k
  else setColumns fun p => { p with left := if p.status = .opened then k.body else 0 }
  if (← readyColumns k) = 0 then pure false
  else do
    modify fun s => { s with showsHead := k.framed || s.showsHead, padsDown := false }
    let lines := if k.doubles then 2 * k.body else k.body
    let (left, printed) ← printLines k (lines + k.columns + 2) lines false
    if left = 0 then
      setColumns fun p => if p.status = .opened then { p with isFull := true } else p
    if printed && k.framed then
      putText (if k.feeds then "\x0c" else String.ofList (List.replicate (left + footLines) '\n'))
    else if k.keepsFeeds && (← get).showsFeed then do
      putChar '\x0c'
      modify ({ · with showsFeed := false })
    modify fun s => { s with page := s.page + 1 }
    if lastPage < (← get).page then pure false
    else do
      resetColumns k
      pure true

/-! ## leaving out pages -/

/-- reads up to the end of a line -/
def skipToEnd (k : PagePlan) (i : Nat) : (fuel : Nat) → Option Char → Printing Unit
  | 0, _ => pure ()
  | _ + 1, some '\n' => pure ()
  | _ + 1, none => closeColumn k i
  | _ + 1, some '\x0c' => do
    if (← get).isLastLine then
      if k.parallel then setColumn i ({ · with isFull := false })
      else setColumns ({ · with isFull := false })
    endByFeed k i false
  | fuel + 1, some _ => do skipToEnd k i fuel (← next? (← column i).source)

/-- leaves out a line of a column -/
def skipLine (k : PagePlan) (i : Nat) : Printing Unit := do
  let p ← column i
  if p.status = .opened then
    let first ← next? p.source
    let first ← if first = some '\x0c' && p.isFull then do
        match ← next? p.source with
        | some '\n' => next? p.source
        | c => pure c
      else pure first
    let isLast := (← get).isLastLine
    setColumn i ({ · with isFull := isLast })
    skipToEnd k i streamFuel first
    if (!k.parallel || i = 0) && first ≠ some '\x0c' then
      modify fun s => { s with skipped := s.skipped + 1 }

/-- leaves out a line of all columns, so many times -/
def skipLines (k : PagePlan) : (fuel : Nat) → Printing Unit
  | 0 => pure ()
  | fuel + 1 => do
    if 0 < (← get).ready then
      (List.range k.columns).forM (skipLine k)
      skipLines k fuel

/-- leaves out one page; whether there may be more -/
def skipPage (k : PagePlan) : Printing Bool := do
  skipLines k (k.body - 1)
  modify ({ · with isLastLine := true })
  (List.range k.columns).forM (skipLine k)
  if k.stores then
    setColumns fun p => if p.status ≠ .closed then { p with status := .held } else p
  resetColumns k
  modify ({ · with isLastLine := false })
  return decide (0 < (← get).ready)

end Press

end ShellWorkers.Utility
