import ShellWorkers.Utility.Chance
import ShellWorkers.Utility.Sorting

/-!
# Sorting files

`sort` reads lines, puts them in order and writes them, or tells whether they are in order.

* `readKey`, `readOldKey?`     keys as they are spelled;
* `KeyReport.remarks`          what may be wrong with keys;
* `KeyReport.marks`            the parts of a line that keys name.
-/

namespace ShellWorkers.Utility

open Machine
open Text (OctetText)
open ShellWorkers.Decimal

/-! ## keys -/

/-- a number in a key, and the rest; a great one is as good as the greatest -/
def fieldCount? (cs : List Char) : Option (Nat × List Char) :=
  let ds := cs.takeWhile Char.isDigit
  if ds.isEmpty then none else some (digitsValue ds, cs.drop ds.length)

/-- a number in a key and the rest, or what is wrong -/
def fieldCount (what : OctetText) (cs : List Char) : Except OctetText (Nat × List Char) :=
  match fieldCount? cs with
  | some r => .ok r
  | none => .error (what ++ ": invalid count at start of " ++ quoted (String.ofList cs))

/-- a key as it is spelled, or what is wrong with it -/
def readKey (text : OctetText) : Except OctetText Key := do
  let wrong (what : OctetText) : Except OctetText Key :=
    .error (what ++ ": invalid field specification " ++ quoted text)
  let (field, rest) ← fieldCount "invalid number at field start" text.toList
  if field = 0 then wrong "field number is zero"
  else
    let (char, rest) ← match rest with
      | '.' :: rest => fieldCount "invalid number after '.'" rest
      | rest => .ok (1, rest)
    if char = 0 then wrong "character offset is zero"
    else
      let (style, rest) := KeyStyle.plain.withLetters true false rest
      let isWhole := field = 1 && char = 1
      match rest with
      | [] => .ok ⟨field - 1, char - 1, none, style, isWhole, false⟩
      | ',' :: rest => do
        let (last, rest) ← fieldCount "invalid number after ','" rest
        if last = 0 then wrong "field number is zero"
        else
          let (chars, rest) ← match rest with
            | '.' :: rest => fieldCount "invalid number after '.'" rest
            | rest => .ok (0, rest)
          let (style, rest) := style.withLetters false true rest
          if rest.isEmpty then
            .ok ⟨field - 1, char - 1, some (last - 1, chars), style, isWhole, false⟩
          else wrong "stray character in field spec"
      | _ => wrong "stray character in field spec"

/-- a field and a character of it behind a sign, counted from zero, and the rest -/
def oldPlace? (cs : List Char) : Option (Nat × Nat × List Char) :=
  match fieldCount? cs with
  | some (field, '.' :: rest) => (fieldCount? rest).map fun (char, rest) => (field, char, rest)
  | some (field, rest) => some (field, 0, rest)
  | none => none

/-- a key in the old way, where fields and characters are counted from zero: `+1.2 -3.4`; nothing
if the start is none -/
def readOldKey? (start : OctetText) (finish : Option OctetText) : Option (Except OctetText Key) :=
  match start.toList with
  | '+' :: cs =>
    match oldPlace? cs with
    | none => none
    | some (field, char, rest) =>
      let (style, rest) := KeyStyle.plain.withLetters true false rest
      let isWhole := field = 0 && char = 0
      if !rest.isEmpty then none
      else
        match finish with
        | none => some (.ok ⟨field, char, none, style, isWhole, true⟩)
        | some finish => some do
          let (last, rest) ← fieldCount "invalid number after '-'" (finish.toList.drop 1)
          let (chars, rest) ← match rest with
            | '.' :: rest => fieldCount "invalid number after '.'" rest
            | rest => .ok (0, rest)
          let (style, rest) := style.withLetters false true rest
          let place := if chars = 0 then (last - 1, 0) else (last, chars)
          if rest.isEmpty then .ok ⟨field, char, some place, style, isWhole, true⟩
          else .error ("stray character in field spec: invalid field specification "
            ++ quoted finish)
  | _ => none

/-! ## arguments -/

/-- what an old key is called among the options; nobody can spell it -/
def oldKeyOption : OctetText := "+"

def sortOptions : OptionTable where
  letters := "bcCdfghik:mMno:rRsS:t:T:uVy:z"
  names := [("ignore-leading-blanks", .nothing, "b"), ("check", .maybe, "check"),
    ("compress-program", .value, "compress"), ("debug", .nothing, "debug"),
    ("dictionary-order", .nothing, "d"), ("ignore-case", .nothing, "f"),
    ("files0-from", .value, "files0-from"), ("general-numeric-sort", .nothing, "g"),
    ("ignore-nonprinting", .nothing, "i"), ("key", .value, "k"), ("merge", .nothing, "m"),
    ("month-sort", .nothing, "M"), ("numeric-sort", .nothing, "n"),
    ("human-numeric-sort", .nothing, "h"), ("version-sort", .nothing, "V"),
    ("random-sort", .nothing, "R"), ("random-source", .value, "source"),
    ("sort", .value, "sort"), ("output", .value, "o"), ("reverse", .nothing, "r"),
    ("stable", .nothing, "s"), ("batch-size", .value, "batch"),
    ("buffer-size", .value, "buffer"), ("field-separator", .value, "t"),
    ("temporary-directory", .value, "T"), ("unique", .nothing, "u"),
    ("zero-terminated", .nothing, "z"), ("parallel", .value, "parallel"),
    (oldKeyOption, .value, oldKeyOption)]
  strict := false

/-- whether the value of an option is the argument behind this one -/
def takesNext (arg : OctetText) : Bool :=
  match arg.toList with
  | '-' :: '-' :: name =>
    !name.contains '='
      && (match sortOptions.candidates (String.ofList name) with
        | (_, takes, _) :: _ => takes == .value
        | [] => false)
  | '-' :: letters =>
    match letters.find? fun c => OptionTable.takes? c sortOptions.letters.toList == some .value with
    | some c => letters.getLast? == some c && (letters.takeWhile (· != c)).length + 1 = letters.length
    | none => false
  | _ => false

/-- arguments where old keys have become options; `isValue` says that the first one belongs to the
option before it -/
def withOldKeys : (isValue : Bool) → List OctetText → List OctetText
  | _, [] => []
  | true, arg :: args => arg :: withOldKeys false args
  | false, arg :: args =>
    let option (value : OctetText) : OctetText := "--" ++ oldKeyOption ++ "=" ++ value
    if arg = "--" then arg :: args
    else if (readOldKey? arg none).isSome then
      match args with
      | next :: rest =>
        match next.toList with
        | '-' :: d :: _ =>
          if d.isDigit then option (arg ++ " " ++ next) :: withOldKeys false rest
          else option arg :: withOldKeys (takesNext next) (next :: rest)
        | _ => option arg :: withOldKeys false (next :: rest)
      | [] => [option arg]
    else if arg = "-y" && (args.head?.any fun next => !next.toList.all Char.isDigit) then
      -- this option takes nothing but digits
      "-y0" :: withOldKeys false args
    else arg :: withOldKeys (takesNext arg) args

/-- the keys of the options in order, or what is wrong with one -/
def keyOf? (option : OctetText) (value : OctetText) : Option (Except OctetText Key) :=
  if option = "k" then some (readKey value)
  else if option = oldKeyOption then
    match value.splitOn " " with
    | [start, finish] => readOldKey? start (some finish)
    | _ => readOldKey? value none
  else none

def incompatible {α : Type} (options : OctetText) : Work α :=
  failWith 2 ("options '-" ++ options ++ "' are incompatible")

/-- what is wrong with an amount that an option was given -/
def wrongAmount {α : Type} (option : OctetText) (units text : OctetText) (fault : AmountFault) :
    Work α :=
  match fault with
  | .tooLarge => failWith 2 (option ++ " argument " ++ quoted text ++ " too large")
  | .invalid =>
    let cs := text.toList.dropWhile fun c => c == ' ' || (9 ≤ c.toNat && c.toNat ≤ 13)
    let cs := match cs with
      | '+' :: cs => cs
      | cs => cs
    let hasNumber := match cs.head? with
      | some c => c.isDigit || units.contains c
      | none => false
    failWith 2 ("invalid " ++ (if hasNumber then "suffix in " else "") ++ option ++ " argument "
      ++ quoted text)

/-- the units of the size of the memory -/
def memoryUnits : OctetText := "EgGkKmMPtTYZ"

/-- checks the value of an option that says how much memory to take, or how many files or
processes -/
def checkAmounts (option : OctetText) (value : OctetText) : Work Unit := do
  let size (title : OctetText) : Work Unit :=
    match amount? memoryUnits value with
    | .ok _ => pure ()
    | .error fault =>
      let ds := value.toList.takeWhile Char.isDigit
      let unit := value.toList.drop ds.length
      if !ds.isEmpty && (unit == ['b'] || unit == ['%']) then pure ()
      else wrongAmount title memoryUnits value fault
  match option with
  | "S" => size "-S"
  | "buffer" => size "--buffer-size"
  | "parallel" =>
    match amount? "" value with
    | .ok 0 => failWith 2 "number in parallel must be nonzero"
    | .ok _ => pure ()
    | .error .tooLarge => pure ()
    | .error fault => wrongAmount "--parallel" "" value fault
  | "batch" => do
    let limit := match (← ask (.limit .openFiles)).amount with
      | some n => n - 3
      | none => naturalLimit
    let tooLarge : Work Unit := do
      note ("--batch-size argument " ++ quoted value ++ " too large")
      failWith 2 ("maximum --batch-size argument with current rlimit is " ++ toString limit)
    match amount? "" value with
    | .ok n =>
      if n < 2 then do
        note ("invalid --batch-size argument " ++ quoted value)
        failWith 2 ("minimum --batch-size argument is " ++ quoted "2")
      else if limit < n then tooLarge
    | .error .tooLarge => tooLarge
    | .error fault => wrongAmount "--batch-size" "" value fault
  | _ => pure ()

/-- the character between fields -/
def separatorOf (text : OctetText) : Work Char := do
  match text.toList with
  | [c] => pure c
  | [] => failWith 2 "empty tab"
  | ['\\', '0'] => pure '\x00'
  | _ => failWith 2 ("multi-character tab " ++ quoted text)

/-- what arguments ask for besides the order -/
structure SortPlan where
  /-- the style of all lines -/
  global : KeyStyle
  keys : List Key
  tab : Option Char
  /-- the letter of the way to check whether lines are in order -/
  check : Option Char
  output : Option OctetText

namespace SortPlan

def start : SortPlan := ⟨.plain, [], none, none, none⟩

/-- the words for ways to compare, with their letters -/
def mannerWords : List (OctetText × Char) :=
  [("general-numeric", 'g'), ("human-numeric", 'h'), ("month", 'M'), ("numeric", 'n'),
    ("random", 'R'), ("version", 'V')]

/-- the words for ways to check -/
def checkWords : List (List OctetText) := [["quiet", "silent"], ["diagnose-first"]]

def withLetter (p : SortPlan) (letter : Char) : SortPlan :=
  { p with global := (p.global.withLetter? true true letter).getD p.global }

def withCheck (p : SortPlan) (letter : Char) : Work SortPlan :=
  if p.check.any (· != letter) then incompatible "cC" else pure { p with check := some letter }

/-- a plan with what an option asks for -/
def withOption (p : SortPlan) (option : OctetText) (value? : Option OctetText) :
    Work SortPlan := do
  let value := value?.getD ""
  match option, keyOf? option value with
  | _, some (.ok key) => pure { p with keys := p.keys ++ [key] }
  | _, some (.error message) => failWith 2 message
  | "sort", _ => do
    let word ← chooseWord "--sort" (mannerWords.map fun w => [w.1]) value
    pure (p.withLetter ((mannerWords.lookup word).getD 'n'))
  | "c", _ => p.withCheck 'c'
  | "C", _ => p.withCheck 'C'
  | "check", _ =>
    match value? with
    | none => p.withCheck 'c'
    | some word => do
      let word ← chooseWord "--check" checkWords word
      p.withCheck (if word = "quiet" then 'C' else 'c')
  | "o", _ =>
    if p.output.any (· != value) then failWith 2 "multiple output files specified"
    else pure { p with output := some value }
  | "t", _ => do
    let tab ← separatorOf value
    if p.tab.any (· != tab) then failWith 2 "incompatible tabs"
    pure { p with tab := some tab }
  | _, _ => do
    checkAmounts option value
    match option.toList with
    | [letter] => pure (p.withLetter letter)
    | _ => pure p

/-- the keys with the style of all lines where they have none; without keys the line is one -/
def fullKeys (p : SortPlan) : List Key :=
  let keys := p.keys.map fun k =>
    if k.style.isPlain && !k.style.reversed then { k with style := p.global } else k
  if keys.isEmpty && !p.global.isPlain then [⟨0, 0, none, p.global, true, false⟩] else keys

end SortPlan

/-! ## remarks on keys -/

namespace KeyReport

/-- what may be wrong with the key of a number -/
def keyRemarks (p : SortPlan) (number : Nat) (k : Key) : List OctetText :=
  let title := "key " ++ toString number
  let old : List OctetText :=
    if !k.isOld then []
    else
      let (before, behind) : OctetText × OctetText := match k.last with
        | some (last, chars) =>
          (" -" ++ toString (last + 1),
            "," ++ toString (if chars = 0 then last + 1 else last + 1))
        | none => ("", "")
      ["obsolescent key " ++ quoted ("+" ++ toString k.firstField ++ before)
        ++ " used; consider " ++ quoted ("-k " ++ toString (k.firstField + 1) ++ behind)
        ++ " instead"]
  let isVoid := !k.isWhole && k.last.any fun l => l.1 < k.firstField
  let void := if isVoid then [title ++ " has zero width and will be ignored"] else []
  let skips := k.style.isNumeric || k.style.asked.contains .month
  let inLine := k.last.any fun l => l.1 = 0 && l.2 ≠ 0
  let isGiven := !p.keys.isEmpty
  let endsInside := k.last.any (·.2 ≠ 0)
  let blanks :=
    if !isVoid && isGiven && p.tab.isNone && !inLine
        && ((!k.style.skipsAtStart && !skips) || (!k.style.skipsAtStart && k.firstChar ≠ 0)
          || (!k.style.skipsAtEnd && endsInside)) then
      ["leading blanks are significant in " ++ title ++ "; consider also specifying 'b'"]
    else []
  let spans :=
    if isGiven && spansFields k then [title ++ " is numeric and spans multiple fields"] else []
  old ++ void ++ blanks ++ spans
where
  /-- whether a number may go on in the next field -/
  spansFields (k : Key) : Bool :=
    k.style.isNumeric && (match k.last with
      | some (last, _) => (if k.isWhole then 1 else k.firstField + 1) < last + 1
      | none => true)

/-- the style of all lines without what some key has -/
def leftOver (p : SortPlan) (keys : List Key) : KeyStyle :=
  keys.foldl (fun s k =>
    let sameChoice := s.isPartial && s.dictionary = k.style.dictionary
      && s.printable = k.style.printable
    { s with
      asked := s.asked.filter (!k.style.asked.contains ·)
      dictionary := s.dictionary && !sameChoice
      printable := s.printable && !sameChoice
      folds := s.folds && !k.style.folds
      skipsAtStart := s.skipsAtStart && !k.style.skipsAtStart
      skipsAtEnd := s.skipsAtEnd && !k.style.skipsAtEnd
      reversed := s.reversed && !k.style.reversed }) p.global

/-- what may be wrong with the keys -/
def remarks (p : SortPlan) (keys : List Key) (isFinal : Bool) : List OctetText :=
  let each := (keys.zipIdx.map fun (k, n) => keyRemarks p (n + 1) k).flatten
  let spanning := keys.filter fun k => !p.keys.isEmpty && keyRemarks.spansFields k
  let isGeneral (k : Key) : Bool := k.style.asked.contains .general
  let basic := keys.any fun k => k.style.isNumeric && !isGeneral k
  let general := keys.any isGeneral
  let treated (sign : Char) (as : OctetText) : List OctetText :=
    ["field separator " ++ quoted (String.ofList [sign]) ++ " is treated as a " ++ as
      ++ " in numbers"]
  let separators : List OctetText :=
    if spanning.isEmpty then []
    else
      match p.tab with
      | some '.' => treated '.' "decimal point"
      | some '-' => treated '-' "minus sign"
      | some '+' => if spanning.any isGeneral then treated '+' "plus sign" else []
      | _ => []
  let point :=
    if (basic || general) && (p.tab ≠ some '.' || spanning.isEmpty) then
      [(if p.tab = some '.' then "" else "note ") ++ "numbers use " ++ quoted "."
        ++ " as a decimal point in this locale"]
    else []
  let left := leftOver p keys
  let ignored :=
    if !left.isPlain || (left.reversed && isFinal && !keys.isEmpty) then
      let letters := { left with reversed := left.reversed && isFinal }.letters
      ["option" ++ (if letters.length = 1 then "" else "s") ++ " '-" ++ letters ++ "' "
        ++ (if letters.length = 1 then "is" else "are") ++ " ignored"]
    else []
  let last := if left.reversed && !isFinal && !keys.isEmpty then
      ["option '-r' only applies to last-resort comparison"] else []
  each ++ separators ++ point ++ ignored ++ last

/-- how many places a text takes -/
def widthOf (cs : List Char) : Nat :=
  (cs.filter fun c => c == '\t' || (32 ≤ c.toNat && c.toNat ≠ 127)).length

/-- how much of a text is a number -/
def numberLength (withUnit : Bool) (cs : List Char) : Nat :=
  let (sign, rest) := match cs with
    | '-' :: rest => (1, rest)
    | rest => (0, rest)
  let whole := rest.takeWhile Char.isDigit
  let part := match rest.drop whole.length with
    | '.' :: more => 1 + (more.takeWhile Char.isDigit).length
    | _ => 0
  let hasDigits := !whole.isEmpty || 1 < part
  if !hasDigits then 0
  else
    let size := sign + whole.length + part
    let unit := (cs.drop size).take 1
    size + (if withUnit && unitRank unit ≠ 0 then 1 else 0)

/-- the place and the length of the part of a line that a key names -/
def partOf (k : Key) (tab : Option Char) (line : List Char) : Nat × Nat :=
  let part := k.part tab line
  let rest := Key.dropFields tab k.firstField line
  let rest := if k.style.skipsAtStart then rest.dropWhile isBlank else rest
  let start := line.length - (rest.drop k.firstChar).length
  if k.style.isNumeric || k.style.asked.contains .month then
    let inner := part.dropWhile isBlank
    let size := match k.style.manner with
      | .general =>
        match Floating.read? inner with
        | some r => inner.length - r.rest.length
        | none => 0
      | .month => if monthOf inner = 0 then 0 else 3
      | m => numberLength (m == .human) inner
    (start + (part.length - inner.length), size)
  else (start, part.length)

/-- marks under the parts of a line that the keys name, and under all of it where it counts last -/
def marks (keys : List Key) (tab : Option Char) (isFinal : Bool) (line : List Char) :
    List Char :=
  let parts := keys.map fun k => partOf k tab line
  let parts := if keys.isEmpty || !isFinal then parts ++ [(0, line.length)] else parts
  parts.flatMap fun (start, size) =>
    let width := widthOf ((line.drop start).take size)
    List.replicate (widthOf (line.take start)) ' '
      ++ (if width = 0 then "^ no match for key".toList else List.replicate width '_') ++ ['\n']

/-- a line with its marks -/
def marked (keys : List Key) (tab : Option Char) (isFinal : Bool) (line : List Char) :
    List Char :=
  line.map (fun c => if c = '\t' then '>' else c) ++ ['\n'] ++ marks keys tab isFinal line

end KeyReport

/-! ## sort -/

/-- the text of an operand, or the end of the utility; `measured` says that its size is asked for
first -/
def sortInput (measured : Bool) (path : OctetText) : Work OctetText := do
  match ← openOperand path with
  | .error e => failWith 2 ((if measured then "cannot read: " else "open failed: ") ++ named path
      ++ ": " ++ faultText e)
  | .ok fd => do
    match ← ask (.statusOpen fd) with
    | .ok _ => pure ()
    | .error e =>
      if measured then failWith 2 ("stat failed: " ++ named path ++ ": " ++ faultText e)
    match ← readAll fd with
    | .error e => failWith 2 ("read failed: " ++ named path ++ ": " ++ faultText e)
    | .ok text => do
      closeOperand path fd
      pure text

/-- complains about the first line that is out of order -/
def checkOrder (o : LineOrder) (path : OctetText) (quiet : Bool) (lines : List (List Char)) :
    Work Unit := do
  match o.firstDisorder 1 (lines.map o.keyed) with
  | none => pure ()
  | some (number, line) => do
    if quiet then setCode 1
    else
      warn (path ++ ":" ++ toString number ++ ": disorder: " ++ String.ofList line)

/-- the operands that a file holds, each of which ends with a zero octet -/
def listedOperands (a : Arguments) (path : OctetText) : Work (List OctetText) := do
  match a.operands with
  | extra :: _ => do
    note ("extra operand " ++ quoted extra)
    putMessage "file operands cannot be combined with --files0-from\n"
    putMessage ("Try '" ++ (← get).name ++ " --help' for more information.\n")
    stop 2
  | [] => pure ()
  match ← readOperand path with
  | .error e =>
    if e = .isDirectory then failWith 2 ("cannot read file names from " ++ quoted path)
    else failWith 2 ("open failed: " ++ named path ++ ": " ++ faultText e)
  | .ok text => do
    let names := (recordsOf '\x00' text).map String.ofList
    if names.isEmpty then failWith 2 ("no input from " ++ quoted path)
    for (name, n) in names.zipIdx do
      if name = "-" then
        failWith 2 ("when reading file names from stdin, no file name of " ++ quoted name
          ++ " allowed")
      if name.isEmpty then
        failWith 2 (named path ++ ":" ++ toString (n + 1) ++ ": invalid zero-length file name")
    pure names

/-- complains about the first operand that is not there -/
def checkInputs (paths : List OctetText) : Work Unit := do
  for path in paths do
    if path ≠ "-" then
      match ← ask (.status path true) with
      | .ok _ => pure ()
      | .error e => failWith 2 ("cannot read: " ++ named path ++ ": " ++ faultText e)

/-- makes the file for the output if it is not there -/
def checkOutput (path : OctetText) : Work Unit := do
  match ← ask (.openFile path ⟨false, true, false, true, false, false⟩ openPermissions) with
  | .ok fd => closeFile fd
  | .error e => failWith 2 ("open failed: " ++ named path ++ ": " ++ faultText e)

/-- writes lines to the output or a file -/
def putSorted (output : Option OctetText) (text : OctetText) : Work Unit := do
  match output with
  | none => put text
  | some path =>
    match ← ask (.openFile path .write openPermissions) with
    | .error e => failWith 2 ("open failed: " ++ named path ++ ": " ++ faultText e)
    | .ok fd => do
      let _ ← ask (.write fd text)
      let _ ← ask (.close fd)

/-- what stands before texts whose digests are compared: octets of a source, or the end of the
utility -/
def sortSalt (source : Option OctetText) : Work OctetText := do
  match ← Chance.start (source.getD Chance.usualSource) with
  | .ok chance => Prod.fst <$> (Chance.octets 2 16 []).run chance
  | .error e => failWith 2 ("open failed: " ++ named (source.getD "getrandom") ++ ": " ++ faultText e)

def sort (args : List OctetText) : Work Unit := do
  let a ← readArguments sortOptions 2 (withOldKeys false args)
  let p ← a.options.foldlM (fun p o => p.withOption o.1 o.2) SortPlan.start
  let paths ← match a.value? "files0-from" with
    | some path => listedOperands a path
    | none => pure (inputOperands a.operands)
  let keys := p.fullKeys
  match keys.find? (!·.style.isConsistent) with
  | some k =>
    incompatible { k.style with skipsAtStart := false, skipsAtEnd := false, reversed := false
                    }.letters
  | none => pure ()
  let isFinal := a.has "s" || a.has "u"
  let showsMarks := a.has "debug"
  if showsMarks then
    match p.check, p.output with
    | some letter, _ => incompatible (String.ofList [letter] ++ " --debug")
    | none, some _ => incompatible "o --debug"
    | none, none => do
      note "text ordering performed using simple byte comparison"
      (KeyReport.remarks p keys isFinal).forM note
  let salt ← if keys.any (·.style.manner == .random) then sortSalt (a.value? "source") else pure ""
  let o : LineOrder := ⟨keys, p.tab, a.has "s", a.has "u", p.global.reversed, salt.toList⟩
  let delimiter := if a.has "z" then '\x00' else '\n'
  match p.check, paths with
  | some letter, _ :: extra :: _ =>
    failWith 2 ("extra operand " ++ quoted extra ++ " not allowed with -"
      ++ String.ofList [letter])
  | some letter, paths => do
    if p.output.isSome then incompatible (String.ofList [letter, 'o'])
    let path := paths.head?.getD "-"
    checkOrder o path (letter == 'C') (recordsOf delimiter (← sortInput false path))
  | none, paths => do
    checkInputs paths
    p.output.forM checkOutput
    let texts ← paths.mapM (sortInput (!a.has "m"))
    let records := texts.map (recordsOf delimiter)
    let lines := if a.has "m" then o.merge records else o.sort records.flatten
    let written (line : List Char) : OctetText :=
      String.ofList (if showsMarks then KeyReport.marked keys p.tab isFinal line
        else line ++ [delimiter])
    putSorted p.output (String.join (lines.map written))

end ShellWorkers.Utility
