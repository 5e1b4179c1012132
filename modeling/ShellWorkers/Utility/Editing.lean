import ShellWorkers.Regex.Groups
import ShellWorkers.Utility.Editor.Reader
import ShellWorkers.Utility.Removal
import ShellWorkers.Utility.Running

/-!
# The stream editor

Its commands are run on line after line of its files.
-/

/-!
## Editing lines

The lines of the input come one after the other into a space, on which the commands of a script
work.  At the end of the script the space is written, with what has been appended, and the next
line comes.  A second space holds text from line to line.
-/

namespace ShellWorkers.Utility.Editor

open Machine
open Text (OctetText)

/-! ### state -/

/-- a text in parts, the last first, with line ends between them, and whether the line that it comes
from has an end -/
structure Space where
  parts : List (List Char)
  ended : Bool

namespace Space

/-- a text in one part -/
def ofText (text : List Char) (ended : Bool) : Space := ⟨[text], ended⟩

def text (s : Space) : List Char :=
  match s.parts with
  | [only] => only
  | parts => ['\n'].intercalate parts.reverse

def withText (s : Space) (text : List Char) : Space := ofText text s.ended

/-- one text behind another; the end is that of the second -/
def followedBy (a b : Space) : Space := ⟨b.parts ++ a.parts, b.ended⟩

end Space

/-- an open file of the input: its lines that have been read, and the beginning of one more -/
structure OpenInput where
  fd : Nat
  name : OctetText
  lines : List OctetText
  rest : OctetText
  isDone : Bool

/-- what is written behind a line -/
inductive Appended where
  | text (text : OctetText)
  | file (path : OctetText)

/-- whether a command with two addresses is at work: nothing if not, else the line at which it
stops, if that is known -/
structure RangeState where
  active : Bool
  stop : Option Nat

/-- a file to which commands write -/
structure OpenOutput where
  path : OctetText
  fd : Nat
  unended : Bool

/-- how files are edited in place -/
structure Settings where
  /-- files are edited in place, with a suffix for what they were -/
  inPlace : Option OctetText
  /-- the line numbers of a file do not go on in the next one -/
  separate : Bool
  delimiter : Char
  quiet : Bool
  unbuffered : Bool
  width : Nat

structure State where
  files : List OctetText
  input : Option OpenInput
  line : Nat
  space : Space
  held : Space
  replaced : Bool
  /-- last first -/
  appended : List Appended
  ranges : Array RangeState
  lastRegex : Option Regex
  /-- the line that was written last has no end -/
  unended : Bool
  outputs : List OpenOutput
  /-- lines of files that are read one by one -/
  lineFiles : List (OctetText × List OctetText)
  /-- what a file that is edited in place gets, last first -/
  edited : List OctetText

/-- editing -/
abbrev Edit := StateT State Work

/-- editing with its settings and script -/
structure Plan where
  settings : Settings
  script : Script

/-! ### output -/

/-- writes to the output, or to the file that is edited in place -/
def putText (p : Plan) (text : OctetText) : Edit Unit := do
  if p.settings.inPlace.isSome && (← get).input.isSome then
    modify fun s => { s with edited := text :: s.edited }
  else do
    put text
    if p.settings.unbuffered then flush

/-- ends the line that was written last, if it has no end -/
def endOutput (p : Plan) : Edit Unit := do
  if (← get).unended then do
    putText p "\n"
    modify ({ · with unended := false })

/-- writes a text without care for ends of lines -/
def putRaw (p : Plan) (text : OctetText) : Edit Unit := do
  endOutput p
  putText p text

/-- a text with the end of a line, unless it has none -/
def endedText (p : Plan) (space : Space) : OctetText :=
  let text := String.ofList space.text
  if space.ended then text.push p.settings.delimiter else text

/-- writes a line -/
def putSpace (p : Plan) (space : Space) : Edit Unit := do
  putRaw p (endedText p space)
  if !space.ended then modify ({ · with unended := true })

/-- writes a line to where a command writes -/
def putTo (p : Plan) (target : Target) (space : Space) : Edit Unit := do
  match target with
  | .output => putSpace p space
  | .messages => do
    let _ ← ask (.write 2 (endedText p space))
  | .file path => do
    match (← get).outputs.find? (·.path == path) with
    | none => pure ()
    | some o => do
      let before := if o.unended then "\n" else ""
      let _ ← ask (.write o.fd (before ++ endedText p space))
      modify fun s => { s with
        outputs := s.outputs.map fun o =>
          if o.path == path then { o with unended := !space.ended } else o }

/-- writes what has been appended to a line -/
def putAppended (p : Plan) : Edit Unit := do
  let all := (← get).appended.reverse
  modify ({ · with appended := [] })
  all.forM fun a => do
    match a with
    | .text text => putRaw p text
    | .file path =>
      match ← readOperand (if path = "/dev/stdin" then "-" else path) with
      | .ok text => if text.isEmpty then pure () else putRaw p text
      | .error _ => pure ()

/-! ### input -/

/-- how much of a file is read at once -/
def readSize : Nat := 4096

/-- reads until a line is complete or the file ends -/
def fill (p : Plan) : (fuel : Nat) → OpenInput → Edit OpenInput
  | 0, i => pure i
  | fuel + 1, i => do
    if i.isDone || !i.lines.isEmpty then pure i
    else
      match ← ask (.read i.fd readSize) with
      | .error e => do
        noteAhead ("read error on " ++ (if i.name = "-" then "stdin" else i.name) ++ ": " ++ faultText e)
        stop 4
      | .ok text =>
        if text.isEmpty then pure { i with isDone := true }
        else
          let parts := (i.rest ++ text).splitOn (String.ofList [p.settings.delimiter])
          fill p fuel { i with lines := parts.dropLast, rest := parts.getLastD "" }

/-- writes the file that has been edited in place -/
def replaceFile (i : OpenInput) (suffix : OctetText) : Edit Unit := do
  let text := String.join (← get).edited.reverse
  modify ({ · with edited := [], unended := false })
  let directory := directoryOf i.name
  let place (name : OctetText) : OctetText :=
    if i.name.contains '/' then joinPath directory name else name
  let fresh := place "sedTmp0"
  let mode ← match ← ask (.statusOpen i.fd) with
    | .ok status => pure status.mode
    | .error _ => pure openPermissions
  match ← ask (.openFile fresh .write openPermissions) with
  | .error e => do
    note ("couldn't open temporary file " ++ place "sedTmp0" ++ ": " ++ faultText e)
    stop 4
  | .ok fd => do
    let _ ← ask (.write fd text)
    let _ ← ask (.close fd)
    let _ ← ask (.setMode fresh mode)
    if !suffix.isEmpty then do
      let base := baseOf i.name
      let backup := if suffix.contains '*' then suffix.replace "*" base else base ++ suffix
      let _ ← ask (.rename i.name (if backup.contains '/' then backup else place backup))
    let _ ← ask (.rename fresh i.name)

/-- closes the file of the input -/
def closeInput (p : Plan) : Edit Unit := do
  match (← get).input with
  | none => pure ()
  | some i => do
    match p.settings.inPlace with
    | some suffix => if i.name != "-" then replaceFile i suffix
    | none => pure ()
    modify ({ · with input := none })
    closeOperand i.name i.fd

/-- opens the next file of the input; the answer is false if there is none -/
def openInput (p : Plan) : (files : List OctetText) → Edit Bool
  | [] => do
    modify ({ · with files := [] })
    pure false
  | name :: files => do
    modify ({ · with files })
    let isPlace := p.settings.inPlace.isSome
    let status ← ask (.status name true)
    let isFile := match status with
      | .ok s => s.kind = .file
      | .error _ => true
    if isPlace && name == "-" then do
      noteAhead "couldn't edit -: not a regular file"
      setCode 4
      openInput p files
    else if isPlace && !isFile then do
      noteAhead ("couldn't edit " ++ name ++ ": not a regular file")
      setCode 4
      openInput p files
    else
      match ← openOperand name with
      | .error e => do
        noteAhead ("can't read " ++ name ++ ": " ++ faultText e)
        setCode 2
        openInput p files
      | .ok fd => do
        modify fun s => { s with
          input := some ⟨fd, name, [], "", false⟩
          line := if p.settings.separate then 0 else s.line
          ranges := if p.settings.separate then s.ranges.map fun _ => ⟨false, none⟩
            else s.ranges }
        pure true

/-- makes a line of the input ready; the answer is false if there is none.  Files are changed only
if that is wanted. -/
def ready (p : Plan) (changes : Bool) : (fuel : Nat) → Edit Bool
  | 0 => pure false
  | fuel + 1 => do
    match (← get).input with
    | none => do
      if !changes then pure false
      else if ← openInput p (← get).files then ready p changes fuel
      else pure false
    | some i => do
      let i ← fill p streamFuel i
      modify ({ · with input := some i })
      if !i.lines.isEmpty || !i.rest.isEmpty then pure true
      else if changes then do
        closeInput p
        ready p changes fuel
      else pure false

/-- whether a file that comes later holds something -/
def laterHolds : List OctetText → Work Bool
  | [] => pure false
  | path :: paths => do
    if path = "-" then pure true
    else
      match ← ask (.openFile path .read openPermissions) with
      | .error _ => laterHolds paths
      | .ok fd => do
        let answer ← ask (.read fd 1)
        let _ ← ask (.close fd)
        match answer with
        | .ok text => if text.isEmpty then laterHolds paths else pure true
        | .error _ => laterHolds paths

/-- whether the line in the space is the last one -/
def isLast (p : Plan) : Edit Bool := do
  if ← ready p false streamFuel then pure false
  else if p.settings.separate && (← get).input.isSome then pure true
  else
    let later ← laterHolds (← get).files
    pure !later

/-- takes the next line of the input; the answer is false if there is none -/
def takeLine (p : Plan) : Edit (Option Space) := do
  putAppended p
  modify ({ · with replaced := false })
  if !(← ready p true streamFuel) then pure none
  else
    match (← get).input with
    | none => pure none
    | some i => do
      modify fun s => { s with line := s.line + 1 }
      match i.lines with
      | line :: lines => do
        modify ({ · with input := some { i with lines } })
        pure (some (.ofText line.toList true))
      | [] => do
        modify ({ · with input := some { i with rest := "" } })
        pure (some (.ofText i.rest.toList false))

/-! ### addresses -/

/-- an expression, or the last one that was used -/
def regexFor (regex : Option Regex) : Edit Regex := do
  match regex <|> (← get).lastRegex with
  | some r => do
    modify ({ · with lastRegex := some r })
    pure r
  | none => do
    noteAhead "-e expression #1, char 0: no previous regular expression"
    stop 1

def isDescribed (regex : Option Regex) : Edit Bool := do
  let r ← regexFor regex
  return r.isIn (← get).space.text

/-- whether the line is at an address -/
def isAt (p : Plan) (spot : Spot) : Edit Bool := do
  match spot with
  | .line n => return n == (← get).line
  | .steps first step => do
    let line := (← get).line
    return first ≤ line && (line - first) % step == 0
  | .last => isLast p
  | .described r => isDescribed r

def setRange (i : Nat) (r : RangeState) : Edit Unit :=
  modify fun s => { s with ranges := s.ranges.setIfInBounds i r }

/-- whether a command begins to work on the line, or works on it alone -/
def beginRange (i : Nat) (stop : SpotEnd) : Edit Unit := do
  let line := (← get).line
  let untilLine (n : Nat) : Edit Unit :=
    if line < n then setRange i ⟨true, some n⟩ else pure ()
  match stop with
  | .line n => untilLine n
  | .plus n => untilLine (line + n)
  | .multiple n => if n = 0 then pure () else untilLine ((line / n + 1) * n)
  | _ => setRange i ⟨true, none⟩

/-- whether the command at a place works on the line -/
def works (p : Plan) (i : Nat) (g : Guard) : Edit Bool := do
  let inRange ← match g.first, g.second with
    | none, _ => pure true
    | some first, none => isAt p first
    | some first, some second => do
      let r := ((← get).ranges[i]?).getD ⟨false, none⟩
      if !r.active then do
        if ← isAt p first then do
          beginRange i second
          pure true
        else pure false
      else
        let line := (← get).line
        match r.stop with
        | some n => do
          if n ≤ line then setRange i ⟨false, none⟩
          pure (decide (line ≤ n))
        | none => do
          let ends ← match second with
            | .last => isLast p
            | .described regex => isDescribed regex
            | _ => pure false
          if ends then setRange i ⟨false, none⟩
          pure true
  pure (inRange != g.negated)

/-! ### substitution -/

/-- how the letters that come next change -/
structure CaseState where
  all : CaseChange
  next : Option CaseChange

/-- a text with its letters changed -/
def changeCase (c : CaseState) (text : List Char) : CaseState × List Char :=
  match text with
  | [] => (c, [])
  | first :: rest =>
    let whole (d : Char) : Char := match c.all with
      | .upper => d.toUpper
      | .lower => d.toLower
      | _ => d
    let first := match c.next with
      | some .upperNext => first.toUpper
      | some .lowerNext => first.toLower
      | _ => whole first
    (⟨c.all, none⟩, first :: rest.map whole)

/-- the text that takes the place of what was found -/
def replacementText (m : Regex.Match) : CaseState → List Piece → List Char
  | _, [] => []
  | c, piece :: rest =>
    match piece with
    | .char d =>
      let (c, text) := changeCase c [d]
      text ++ replacementText m c rest
    | .group n =>
      let (c, text) := changeCase c ((m.group? n).getD [])
      text ++ replacementText m c rest
    | .change how =>
      match how with
      | .upperNext => replacementText m { c with next := some how } rest
      | .lowerNext => replacementText m { c with next := some how } rest
      | _ => replacementText m ⟨how, none⟩ rest

/-- a text with the places from one on, or that one alone, replaced; nothing if there is none.
`place` counts the places that are still passed over; `behind` says that a place has ended where
the text starts.  The fuel is more than the length of the text. -/
def replaceIn (s : Substitution) (r : Regex) : (fuel : Nat) → (place : Nat) →
    (passed : List Char) → (behind : Bool) → List Char → Option (List Char)
  | 0, _, _, _, _ => none
  | fuel + 1, place, passed, behind, text =>
    match r.findBehind? passed text with
    | none => none
    | some m =>
      if m.isEmpty && m.skipped.isEmpty && behind then
        match m.start.rest with
        | [] => none
        | c :: cs =>
          ((m.skipped ++ [c]) ++ ·) <$> replaceIn s r fuel place (c :: m.start.passed) false cs
      else if 1 < place then
        if m.isEmpty then
          match m.start.rest with
          | [] => none
          | c :: cs =>
            ((m.skipped ++ [c]) ++ ·)
              <$> replaceIn s r fuel (place - 1) (c :: m.start.passed) false cs
        else
          ((m.skipped ++ m.text) ++ ·)
            <$> replaceIn s r fuel (place - 1) m.stop.passed true m.stop.rest
      else
        let m := if s.usesGroups then m.withGroups r else m
        let changed := m.skipped ++ replacementText m ⟨.none, none⟩ s.replacement
        if !s.isGlobal then some (changed ++ m.stop.rest)
        else if m.isEmpty then
          match m.start.rest with
          | [] => some changed
          | c :: cs =>
            some (changed
              ++ c :: (replaceIn s r fuel place (c :: m.start.passed) false cs).getD cs)
        else
          some (changed
            ++ (replaceIn s r fuel place m.stop.passed true m.stop.rest).getD m.stop.rest)

/-- carries out a substitution -/
def substitute (p : Plan) (s : Substitution) : Edit Unit := do
  let r ← regexFor s.regex
  let space := (← get).space
  let text := space.text
  match replaceIn s r (text.length + 2) s.place [] false text with
  | none => pure ()
  | some text => do
    modify fun t => { t with space := space.withText text, replaced := true }
    if s.evaluates then do
      if s.prints && s.printsBefore then putSpace p (← get).space
      let output ← outputOf (String.ofList text)
      let cs := output.toList
      let cs := if cs.getLast? == some '\n' then cs.dropLast else cs
      modify fun t => { t with space := t.space.withText cs }
    if s.prints && !s.printsBefore then putSpace p (← get).space
    match s.target with
    | some target => putTo p target (← get).space
    | none => pure ()

/-! ### commands -/

/-- a character as `l` shows it -/
def shownChar (c : Char) : List Char :=
  if c == '\\' then ['\\', '\\']
  else match escapeLetter? c with
    | some letter => ['\\', letter]
    | none => if isPrintable c then [c] else escapedChar c

/-- shown characters in lines of a width -/
def foldShown (width : Nat) : (column : Nat) → List (List Char) → List Char
  | _, [] => ['$', '\n']
  | column, c :: cs =>
    if width ≤ column + c.length then
      '\\' :: '\n' :: (c ++ foldShown width c.length cs)
    else c ++ foldShown width (column + c.length) cs

/-- the space as `l` shows it, in lines of a width if there is one -/
def shownSpace (width : Nat) (text : List Char) : OctetText :=
  let shown := text.map shownChar
  String.ofList (if width = 0 then shown.flatten ++ ['$', '\n'] else foldShown width 0 shown)

/-- where the work goes on -/
inductive Onward where
  | go (place : Nat)
  /-- the end of the script, at which the space is printed -/
  | done
  /-- the end without that -/
  | dropped
  /-- once more from the beginning, without another line -/
  | again
  | quit (code : Nat) (prints : Bool)

def firstLine (text : List Char) : List Char := text.takeWhile (· != '\n')

/-- one line of a file that is read line by line -/
def nextLineOf (path : OctetText) : Edit (Option OctetText) := do
  let lines ← match (← get).lineFiles.lookup path with
    | some lines => pure lines
    | none => do
      match ← readOperand (if path = "/dev/stdin" then "-" else path) with
      | .ok text => pure (bareLines text)
      | .error _ => pure []
  modify fun s => { s with
    lineFiles := (path, lines.drop 1) :: s.lineFiles.filter (·.1 != path) }
  pure lines.head?

/-- carries out the command at a place, which works on the line -/
def perform (p : Plan) (i : Nat) (c : Command) : Edit Onward := do
  let onward : Onward := .go (i + 1)
  let s ← get
  let setText (text : List Char) : Edit Unit :=
    modify fun s => { s with space := s.space.withText text }
  match c.action with
  | .block _ => pure onward
  | .nothing => pure onward
  | .append text => do
    modify fun s => { s with appended := .text text :: s.appended }
    pure onward
  | .insert text => do
    putRaw p text
    pure onward
  | .change text => do
    let active := ((s.ranges[i]?).map RangeState.active).getD false
    if c.guard.second.isNone || !active || c.guard.negated then putRaw p text
    pure .dropped
  | .branch kind name => do
    let taken ← match kind with
      | .always => pure true
      | .ifReplaced => do
        modify ({ · with replaced := false })
        pure s.replaced
      | .unlessReplaced => do
        modify ({ · with replaced := false })
        pure !s.replaced
    pure (if taken then
        match p.script.labels.lookup name with
        | some place => .go place
        | none => .done
      else onward)
  | .delete => pure .dropped
  | .deleteFirst =>
    if s.space.text.contains '\n' then do
      setText (s.space.text.drop ((firstLine s.space.text).length + 1))
      pure .again
    else pure .dropped
  | .execute command => do
    let output ← if command.isEmpty then outputOf (String.ofList s.space.text)
      else outputOf command
    if command.isEmpty then
      let cs := output.toList
      setText (if cs.getLast? == some '\n' then cs.dropLast else cs)
    else putRaw p output
    pure onward
  | .nameFile => do
    putRaw p (((s.input.map OpenInput.name).getD "-") ++ "\n")
    pure onward
  | .get => do
    set { s with space := s.held }
    pure onward
  | .getAppend => do
    set { s with space := s.space.followedBy s.held }
    pure onward
  | .hold => do
    set { s with held := s.space }
    pure onward
  | .holdAppend => do
    set { s with held := s.held.followedBy s.space }
    pure onward
  | .list width => do
    putRaw p (shownSpace (width.getD p.settings.width) s.space.text)
    pure onward
  | .next => do
    if ← isLast p then pure .done
    else do
      if !p.settings.quiet then putSpace p (← get).space
      match ← takeLine p with
      | some space => do
        modify ({ · with space })
        pure onward
      | none => pure .dropped
  | .nextAppend => do
    if ← isLast p then pure .done
    else
      match ← takeLine p with
      | some space => do
        modify fun s => { s with space := s.space.followedBy space }
        pure onward
      | none => pure .done
  | .print => do
    putSpace p s.space
    pure onward
  | .printFirst => do
    putSpace p (.ofText (firstLine s.space.text) true)
    pure onward
  | .quit code prints => pure (.quit code prints)
  | .readFile path => do
    modify fun s => { s with appended := .file path :: s.appended }
    pure onward
  | .readLine path => do
    match ← nextLineOf path with
    | some line => modify fun s => { s with appended := .text (line ++ "\n") :: s.appended }
    | none => pure ()
    pure onward
  | .substitute sub => do
    substitute p sub
    pure onward
  | .translate pairs => do
    setText (s.space.text.map fun c => (pairs.lookup c).getD c)
    pure onward
  | .write target => do
    putTo p target s.space
    pure onward
  | .writeFirst target => do
    putTo p target (.ofText (firstLine s.space.text) true)
    pure onward
  | .exchange => do
    set { s with space := s.held, held := s.space }
    pure onward
  | .zap => do
    setText []
    pure onward
  | .number => do
    putRaw p (toString s.line ++ "\n")
    pure onward

/-- the work of the script from a place on -/
def runFrom (p : Plan) : (fuel : Nat) → (place : Nat) → Edit Onward
  | 0, _ => pure .done
  | fuel + 1, place => do
    match p.script.commands[place]? with
    | none => pure .done
    | some c =>
      if ← works p place c.guard then
        match ← perform p place c with
        | .go next => runFrom p fuel next
        | onward => pure onward
      else
        match c.action with
        | .block past => runFrom p fuel past
        | _ => runFrom p fuel (place + 1)

/-- the end of the script on a line -/
def endCycle (p : Plan) (prints : Bool) : Edit Unit := do
  if prints && !p.settings.quiet then putSpace p (← get).space

/-- line after line, until the input ends; the answer is the code -/
def runCycles (p : Plan) : (fuel : Nat) → (fresh : Bool) → Edit Nat
  | 0, _ => pure 0
  | fuel + 1, fresh => do
    let going ← if fresh then do
        match ← takeLine p with
        | some space => do
          modify ({ · with space })
          pure true
        | none => pure false
      else do
        putAppended p
        pure true
    if !going then pure 0
    else
      match ← runFrom p streamFuel 0 with
      | .quit code prints => do
        endCycle p prints
        if prints then putAppended p
        pure code
      | .dropped => runCycles p fuel true
      | .again => runCycles p fuel false
      | _ => do
        endCycle p true
        runCycles p fuel true

/-- opens the files to which a script writes -/
def openOutputs (script : Script) : Work (List OpenOutput) := do
  let targets := script.commands.toList.filterMap fun c => match c.action with
    | .write t => some t
    | .writeFirst t => some t
    | .substitute s => s.target
    | _ => none
  let paths := (targets.filterMap fun t => match t with
    | .file path => some path
    | _ => none).eraseDups
  paths.mapM fun path => do
    match ← ask (.openFile path .write openPermissions) with
    | .ok fd => pure ⟨path, fd, false⟩
    | .error e => failWith 4 ("couldn't open file " ++ path ++ ": " ++ faultText e)

/-- puts what has been read of the input beyond the last line back -/
def giveBack (i : OpenInput) : Work Unit := do
  if i.fd = 0 then
    let size := i.lines.foldl (fun n l => n + l.length + 1) i.rest.length
    if 0 < size then
      let _ ← ask (.seek 0 (-(size : Int)))

/-- edits files; the answer is the code of a command that ended the work -/
def edit (settings : Settings) (script : Script) (files : List OctetText) : Work Nat := do
  let outputs ← openOutputs script
  let isZero (g : Guard) : Bool := match g.first with
    | some (.line 0) => true
    | _ => false
  let start : State := {
    files
    input := none
    line := 0
    space := .ofText [] true
    held := .ofText [] true
    replaced := false
    appended := []
    ranges := script.commands.map fun c => ⟨isZero c.guard && c.guard.second.isSome, none⟩
    lastRegex := none
    unended := false
    outputs
    lineFiles := []
    edited := [] }
  let plan : Plan := ⟨{ settings with quiet := settings.quiet || script.quiet }, script⟩
  let (code, _) ← (do
    let code ← runCycles plan streamFuel true
    putAppended plan
    match (← get).input with
    | some i => giveBack i
    | none => pure ()
    closeInput plan
    pure code : Edit Nat).run start
  outputs.forM fun o => closeFile o.fd
  pure code

end ShellWorkers.Utility.Editor

/-!
## The stream editor

`sed` edits the lines of its files by a script, and writes what becomes of them.
-/

namespace ShellWorkers.Utility

open Machine
open Text (OctetText)

namespace Editor

def options : OptionTable where
  letters := "bsnrzuEe:f:l:i::V:"
  names := [("binary", .nothing, "b"), ("regexp-extended", .nothing, "r"),
    ("debug", .nothing, "debug"), ("in-place", .maybe, "i"), ("expression", .value, "e"),
    ("file", .value, "f"), ("line-length", .value, "l"), ("null-data", .nothing, "z"),
    ("zero-terminated", .nothing, "z"), ("quiet", .nothing, "n"), ("posix", .nothing, "posix"),
    ("silent", .nothing, "n"), ("sandbox", .nothing, "sandbox"), ("separate", .nothing, "s"),
    ("unbuffered", .nothing, "u"), ("version", .nothing, "version"), ("help", .nothing, "help"),
    ("follow-symlinks", .nothing, "follow")]
  strict := false

def usage (name : OctetText) : OctetText :=
  "Usage: " ++ name
    ++ " [OPTION]... \x7bscript-only-if-no-other-script\x7d [input-file]...\n\n"
    ++ "  -n, --quiet, --silent\n"
    ++ "                 suppress automatic printing of pattern space\n"
    ++ "      --debug\n"
    ++ "                 annotate program execution\n"
    ++ "  -e script, --expression=script\n"
    ++ "                 add the script to the commands to be executed\n"
    ++ "  -f script-file, --file=script-file\n"
    ++ "                 add the contents of script-file to the commands to be executed\n"
    ++ "  --follow-symlinks\n"
    ++ "                 follow symlinks when processing in place\n"
    ++ "  -i[SUFFIX], --in-place[=SUFFIX]\n"
    ++ "                 edit files in place (makes backup if SUFFIX supplied)\n"
    ++ "  -l N, --line-length=N\n"
    ++ "                 specify the desired line-wrap length for the `l' command\n"
    ++ "  --posix\n"
    ++ "                 disable all GNU extensions.\n"
    ++ "  -E, -r, --regexp-extended\n"
    ++ "                 use extended regular expressions in the script\n"
    ++ "                 (for portability use POSIX -E).\n"
    ++ "  -s, --separate\n"
    ++ "                 consider files as separate rather than as a single,\n"
    ++ "                 continuous long stream.\n"
    ++ "      --sandbox\n"
    ++ "                 operate in sandbox mode (disable e/r/w commands).\n"
    ++ "  -u, --unbuffered\n"
    ++ "                 load minimal amounts of data from the input files and flush\n"
    ++ "                 the output buffers more often\n"
    ++ "  -z, --null-data\n"
    ++ "                 separate lines by NUL characters\n"
    ++ "      --help     display this help and exit\n"
    ++ "      --version  output version information and exit\n\n"
    ++ "If no -e, --expression, -f, or --file option is given, then the first\n"
    ++ "non-option argument is taken as the sed script to interpret.  All\n"
    ++ "remaining arguments are names of input files; if no input files are\n"
    ++ "specified, then the standard input is read.\n\n"
    ++ "GNU sed home page: <https://www.gnu.org/software/sed/>.\n"
    ++ "General help using GNU software: <https://www.gnu.org/gethelp/>.\n"

def misusedBy {α : Type} (message : OctetText) : Work α := do
  note message
  putMessage (usage (← get).name)
  stop 1

/-- the parts of a script that options give -/
def givenParts (a : Arguments) : Work (List (Source × List Char)) := do
  let given := a.options.filter fun o => o.1 == "e" || o.1 == "f"
  let numbered := given.mapIdx fun i o =>
    (((given.take (i + 1)).filter (·.1 == "e")).length, o.1, o.2.getD "")
  numbered.mapM fun (number, option, value) => do
    if option = "e" then pure (.argument number, value.toList)
    else
      match ← readOperand value with
      | .error e => failWith 4 ("couldn't open file " ++ value ++ ": " ++ faultText e)
      | .ok text => pure (.file value, text.toList)

end Editor

def sed (args : List OctetText) : Work Unit := do
  let a ← readArgumentsOr Editor.misusedBy Editor.options args
  if a.has "version" then do
    putLine "sed (GNU sed) 4.9"
    stop 0
  if a.has "help" then do
    put (Editor.usage (← get).name)
    stop 0
  let width := match a.value? "l" with
    | none => 70
    | some text => digitsValue (text.toList.takeWhile Char.isDigit)
  let given ← Editor.givenParts a
  let (parts, operands) ← match given, a.operands with
    | [], [] => do
      putMessage (Editor.usage (← get).name)
      stop 1
    | [], script :: operands => pure ([(Editor.Source.argument 1, script.toList)], operands)
    | parts, operands => pure (parts, operands)
  let script ← match Editor.readScript (a.has "E" || a.has "r") parts with
    | .ok script => pure script
    | .error (code, message) => failWith code message
  if a.has "i" && operands.isEmpty then failWith 4 "no input files"
  let settings : Editor.Settings := {
    inPlace := if a.has "i" then some ((a.value? "i").getD "") else none
    separate := a.has "s" || a.has "i"
    delimiter := if a.has "z" then '\x00' else '\n'
    quiet := a.has "n"
    unbuffered := a.has "u"
    width }
  let code ← Editor.edit settings script (inputOperands operands)
  flush
  if let some e := (← get).lost then do
    modify ({ · with lost := none })
    failWith 4 ("couldn't flush stdout: " ++ faultText e)
  if 0 < code then stop code

end ShellWorkers.Utility
