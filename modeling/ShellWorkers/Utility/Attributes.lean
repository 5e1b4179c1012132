import ShellWorkers.Utility.Dates
import ShellWorkers.Utility.Removal

/-!
# What is known of files

`stat` shows it, `chmod` changes permissions, `touch` times and `truncate` sizes; `mkfifo` and
`mknod` make queues and `mktemp` files with names of its own.
-/

namespace ShellWorkers.Utility

open Machine
open Text (OctetText)
open ShellWorkers.Clock (Zone Civil nanosPerSecond)

/-! ## stat -/

namespace FileDescription

/-- the bits that stand for a kind of file -/
def kindBits (kind : FileKind) : Nat :=
  match kind with
  | .file => 0o100000
  | .directory => 0o040000
  | .link => 0o120000
  | .device => 0o020000
  | .queue => 0o010000

def kindName (s : FileStatus) : OctetText :=
  match s.kind with
  | .queue => "fifo"
  | .file => if s.size = 0 then "regular empty file" else "regular file"
  | .directory => "directory"
  | .link => "symbolic link"
  | .device => "character special file"

/-- the letter of a kind -/
def kindLetter (kind : FileKind) : OctetText :=
  match kind with
  | .file => "-"
  | .directory => "d"
  | .link => "l"
  | .device => "c"
  | .queue => "p"

def octalText (n : Nat) : OctetText := String.ofList (Nat.toDigits 8 n)

def hexText (n : Nat) : OctetText := String.ofList (Nat.toDigits 16 n)

/-- the blocks of 512 octets that a file takes -/
def blocks (s : FileStatus) : Nat :=
  match s.kind with
  | .file => (s.size + 4095) / 4096 * 8
  | .directory => 8
  | _ => 0

def timeFormat : OctetText := "%Y-%m-%d %H:%M:%S.%N %z"

/-- seconds with as many places as the precision says -/
def secondsText (precision : Option Nat) (instant : Int) : OctetText :=
  let seconds := toString (Int.fdiv instant nanosPerSecond)
  match precision with
  | none => seconds
  | some places =>
    if places = 0 then seconds
    else
      let ds := (toString (Int.fmod instant nanosPerSecond)).toList
      let nanos := List.replicate (9 - ds.length) '0' ++ ds
      seconds ++ "." ++ String.ofList ((nanos ++ List.replicate 9 '0').take places)

/-- what a directive stands for: a number that can have zeros before it, or a text -/
def value (z : Zone) (path : OctetText) (target : Option OctetText) (s : FileStatus)
    (flags : List Char) (precision : Option Nat) (letter : Char) : OctetText × Bool :=
  let number (t : OctetText) : OctetText × Bool := (t, true)
  let text (t : OctetText) : OctetText × Bool := (t, false)
  let isAlternate := flags.contains '#'
  let parties (letter : Char) : OctetText :=
    if letter = 'U' || letter = 'G' then "root" else "0"
  match letter with
  | 'a' => number ((if isAlternate then "0" else "") ++ octalText s.mode)
  | 'A' => text (kindLetter s.kind ++ Mode.letters s.mode)
  | 'b' => number (toString (blocks s))
  | 'B' => number "512"
  | 'd' => number "64768"
  | 'D' => number "fd00"
  | 'f' => number ((if isAlternate then "0x" else "") ++ hexText (kindBits s.kind + s.mode))
  | 'F' => text (kindName s)
  | 'g' => number (parties letter)
  | 'G' => text (parties letter)
  | 'h' => number (toString s.nameCount)
  | 'i' => number (toString (s.id + 1))
  | 'm' => text "/"
  | 'n' => text path
  | 'N' => text (shellQuoted path
      ++ (match target with
        | some target => " -> " ++ shellQuoted target
        | none => ""))
  | 'o' => number "4096"
  | 'r' => number "0"
  | 'R' => number "0"
  | 's' => number (toString s.size)
  | 't' => number "0"
  | 'T' => number "0"
  | 'u' => number (parties letter)
  | 'U' => text (parties letter)
  | 'w' => text (formatTime z s.modified timeFormat)
  | 'W' => number (secondsText precision s.modified)
  | 'x' => text (formatTime z s.modified timeFormat)
  | 'X' => number (secondsText precision s.modified)
  | 'y' => text (formatTime z s.modified timeFormat)
  | 'Y' => number (secondsText precision s.modified)
  | 'z' => text (formatTime z s.modified timeFormat)
  | 'Z' => number (secondsText precision s.modified)
  | _ => text "?"

/-- the escape behind a backslash, and the rest -/
def escape (cs : List Char) : Char × List Char :=
  match cs with
  | [] => ('\\', [])
  | c :: rest =>
    let isOctal (c : Char) : Bool := 48 ≤ c.toNat && c.toNat < 56
    let ds := (cs.take 3).takeWhile isOctal
    if !ds.isEmpty then
      (Char.ofNat (ds.foldl (fun n d => n * 8 + (d.toNat - 48)) 0 % 256), cs.drop ds.length)
    else
      match c with
      | 'a' => ('\x07', rest)
      | 'b' => ('\x08', rest)
      | 'e' => ('\x1b', rest)
      | 'f' => ('\x0c', rest)
      | 'n' => ('\n', rest)
      | 'r' => ('\r', rest)
      | 't' => ('\t', rest)
      | 'v' => ('\x0b', rest)
      | c => (c, rest)

/-- a file as a format describes it; the fuel is more than the length of the format -/
def write (z : Zone) (escapes : Bool) (path : OctetText) (target : Option OctetText) (s : FileStatus) :
    (fuel : Nat) → List Char → OctetText
  | 0, _ => ""
  | _ + 1, [] => ""
  | fuel + 1, '%' :: cs =>
    let flags := cs.takeWhile fun c => ['-', '+', ' ', '#', '0', '\''].contains c
    let rest := cs.drop flags.length
    let width := rest.takeWhile Char.isDigit
    let rest := rest.drop width.length
    let (precision, rest) : Option Nat × List Char := match rest with
      | '.' :: r =>
        let ds := r.takeWhile Char.isDigit
        (some (if ds.isEmpty then 9 else digitsValue ds), r.drop ds.length)
      | r => (none, r)
    match rest with
    | [] => "%"
    | '%' :: after => "%" ++ write z escapes path target s fuel after
    | letter :: after =>
      let letter := if letter = 'H' || letter = 'L' then (after.head?.getD letter) else letter
      let (text, isNumber) := value z path target s flags precision letter
      let fill := digitsValue width - text.length
      let text :=
        if flags.contains '-' then text ++ String.ofList (List.replicate fill ' ')
        else if isNumber && flags.contains '0' then String.ofList (List.replicate fill '0') ++ text
        else String.ofList (List.replicate fill ' ') ++ text
      text ++ write z escapes path target s fuel after
  | fuel + 1, '\\' :: cs =>
    if escapes then
      let (c, rest) := escape cs
      String.ofList [c] ++ write z escapes path target s fuel rest
    else "\\" ++ write z escapes path target s fuel cs
  | fuel + 1, c :: cs => String.ofList [c] ++ write z escapes path target s fuel cs

/-- the format that is used when none is given -/
def usualFormat : OctetText :=
  "  File: %N\n  Size: %-10s\tBlocks: %-10b IO Block: %-6o %F\nDevice: 253,0\tInode: %-10i  Links: %h\n"
    ++ "Access: (%04a/%A)  Uid: (%5u/%8U)   Gid: (%5g/%8G)\nAccess: %x\nModify: %y\nChange: %z\n"
    ++ " Birth: %w"

def terseFormat : OctetText := "%n %s %b %f %u %g %D %i %h %t %T %X %Y %Z %W %o"

end FileDescription

def statOptions : OptionTable where
  letters := "c:fLt"
  names := [("format", .value, "c"), ("printf", .value, "printf"), ("dereference", .nothing, "L"),
    ("file-system", .nothing, "f"), ("terse", .nothing, "t"), ("cached", .value, "cached")]
  strict := false

/-- the format that the options ask for, and whether it has escapes -/
def statFormat (a : Arguments) : OctetText × Bool :=
  match a.options.reverse.find? fun o => o.1 == "c" || o.1 == "printf" with
  | some ("c", value?) => (value?.getD "", false)
  | some (_, value?) => (value?.getD "", true)
  | none => (if a.has "t" then FileDescription.terseFormat else FileDescription.usualFormat, false)

def stat (args : List OctetText) : Work Unit := do
  let a ← readArguments statOptions 1 args
  if a.operands.isEmpty then missingOperand
  let (format, escapes) := statFormat a
  let z ← localZone
  for path in a.operands do
    let found ← if path = "-" then ask (.statusOpen 0) else ask (.status path (a.has "L"))
    match found with
    | .error e => warn ("cannot statx " ++ shellQuoted path ++ ": " ++ faultText e)
    | .ok s => do
      let target ← if s.kind = .link then Except.toOption <$> ask (.readLink path)
        else pure none
      let text := FileDescription.write z escapes path target s (format.length + 1)
        format.toList
      put (if escapes then text else text ++ "\n")

/-! ## chmod -/

def chmodOptions : OptionTable where
  letters := "cfRv"
  names := [("changes", .nothing, "c"), ("quiet", .nothing, "f"), ("silent", .nothing, "f"),
    ("verbose", .nothing, "v"), ("recursive", .nothing, "R"), ("reference", .value, "reference"),
    ("preserve-root", .nothing, "root"), ("no-preserve-root", .nothing, "root")]
  strict := false

/-- the description among arguments that looks like options, and the other arguments -/
def takeDescription : List OctetText → List OctetText × List OctetText
  | [] => ([], [])
  | arg :: args =>
    match arg.toList with
    | ['-', '-'] => ([], arg :: args)
    | '-' :: c :: _ =>
      let r := takeDescription args
      if ['r', 'w', 'x', 'X', 's', 't', 'u', 'g', 'o', 'a', ',', '+', '='].contains c
          || c.isDigit then (arg :: r.1, r.2)
      else (r.1, arg :: r.2)
    | _ =>
      let r := takeDescription args
      (r.1, arg :: r.2)

/-- bits in octal digits and in letters -/
def modeText (mode : Nat) : OctetText :=
  let ds := FileDescription.octalText mode
  String.ofList (List.replicate (4 - ds.length) '0') ++ ds ++ " (" ++ Mode.letters mode ++ ")"

/-- says what has become of the permissions of a file -/
def sayMode (a : Arguments) (path : OctetText) (old new : Nat) : Work Unit := do
  if old = new then
    if a.has "v" then
      putLine ("mode of " ++ shellQuoted path ++ " retained as " ++ modeText old)
  else if a.has "v" || a.has "c" then
    putLine ("mode of " ++ shellQuoted path ++ " changed from " ++ modeText old ++ " to "
      ++ modeText new)

/-- changes the permissions of a file, and of all below it -/
def changeModes (a : Arguments) (change : Bool → Nat → Option Nat) :
    (fuel : Nat) → (isOperand : Bool) → (path : OctetText) → Work Unit
  | 0, _, _ => pure ()
  | fuel + 1, isOperand, path => do
    match ← ask (.status path true) with
    | .error e => do
      let isDangling := (← ask (.status path false)).isOk
      if isDangling && !isOperand then pure ()
      else if a.has "f" then setCode 1
      else if isDangling then
        warn ("cannot operate on dangling symlink " ++ shellQuoted path)
      else do
        warn ("cannot access " ++ shellQuoted path ++ ": " ++ faultText e)
        if a.has "v" then putLine (shellQuoted path ++ " could not be accessed")
    | .ok s => do
      let isLink := ((← ask (.status path false)).toOption.map (·.kind)) == some .link
      if isLink && !isOperand then
        if a.has "v" then
          putLine ("neither symbolic link " ++ shellQuoted path ++ " nor referent has been changed")
      else do
        let isDirectory := s.kind = .directory
        match change isDirectory s.mode with
        | none => pure ()
        | some mode => do
          match ← ask (.setMode path mode) with
          | .ok _ => sayMode a path s.mode mode
          | .error e => warn ("changing permissions of " ++ shellQuoted path ++ ": " ++ faultText e)
        if isDirectory && a.has "R" then
          for name in ← namesByAge path do
            changeModes a change fuel false (joinPath path name)

def chmod (args : List OctetText) : Work Unit := do
  let (descriptions, args) := takeDescription args
  let a ← readArguments chmodOptions 1 args
  let mask ← ask (.setMask none)
  let run (change : Bool → Nat → Option Nat) (paths : List OctetText) : Work Unit :=
    paths.forM (changeModes a change FileTree.pathLimit true)
  match a.value? "reference", descriptions, a.operands with
  | some path, _, paths => do
    if paths.isEmpty then missingOperand
    match ← ask (.status path true) with
    | .error e => fail ("failed to get attributes of " ++ shellQuoted path ++ ": " ++ faultText e)
    | .ok s => run (fun _ _ => some s.mode) paths
  | none, [], [] => missingOperand
  | none, [], [description] => missingAfter description
  | none, [], description :: paths => do
    if (Mode.change? false mask description 0).isNone then
      misused 1 ("invalid mode: " ++ quoted description)
    run (fun isDirectory mode => Mode.change? isDirectory mask description mode) paths
  | none, descriptions, paths => do
    let description := ",".intercalate descriptions
    if paths.isEmpty then missingAfter description
    if (Mode.change? false mask description 0).isNone then
      misused 1 ("invalid mode: " ++ quoted description)
    run (fun isDirectory mode => Mode.change? isDirectory mask description mode) paths

/-! ## touch -/

def touchOptions : OptionTable where
  letters := "acd:fhmr:t:"
  names := [("time", .value, "time"), ("no-create", .nothing, "c"), ("date", .value, "d"),
    ("reference", .value, "r"), ("no-dereference", .nothing, "h")]
  strict := false

/-- the instant that files get -/
def touchTime (a : Arguments) : Work Int := do
  let now ← ask .now
  let reference ← match a.value? "r" with
    | some path => do
      match ← ask (.status path (!a.has "h")) with
      | .ok s => pure (some s.modified)
      | .error e => fail ("failed to get attributes of " ++ shellQuoted path ++ ": " ++ faultText e)
    | none => pure none
  match reference, a.value? "d", a.value? "t" with
  | some instant, none, none => pure instant
  | some _, none, some _ => misused 1 "cannot specify times from more than one source"
  | _, some _, some _ => misused 1 "cannot specify times from more than one source"
  | reference, some text, none =>
    match Clock.read? (← localZone) (reference.getD now) text with
    | some instant => pure instant
    | none => fail ("invalid date format " ++ quoted text)
  | none, none, some text =>
    match stampInstant? (← localZone) now false text with
    | some instant => pure instant
    | none => fail ("invalid date format " ++ quoted text)
  | none, none, none => pure now

def touch (args : List OctetText) : Work Unit := do
  let a ← readArguments touchOptions 1 args
  let instant ← touchTime a
  if a.operands.isEmpty then misused 1 "missing file operand"
  let follows := !a.has "h"
  -- only the time of the last change is known of a file
  let changes := !a.has "a" || a.has "m"
  for path in a.operands do
    if path ≠ "-" then
      match ← ask (.status path follows) with
      | .ok _ =>
        if changes then
          match ← ask (.setModified path follows instant) with
          | .ok _ => pure ()
          | .error e => warn ("setting times of " ++ shellQuoted path ++ ": " ++ faultText e)
      | .error e =>
        if a.has "c" || !follows then
          if e ≠ .notFound then
            warn ("setting times of " ++ shellQuoted path ++ ": " ++ faultText e)
        else if path.endsWith "/" && e = .notFound then
          warn ("setting times of " ++ shellQuoted path ++ ": " ++ faultText e)
        else
          match ← ask (.openFile path ⟨false, true, false, true, false, false⟩ openPermissions) with
          | .error e => warn ("cannot touch " ++ shellQuoted path ++ ": " ++ faultText e)
          | .ok fd => do
            closeFile fd
            let _ ← ask (.setModified path true instant)

/-! ## truncate -/

def truncateOptions : OptionTable where
  letters := "cor:s:"
  names := [("no-create", .nothing, "c"), ("io-blocks", .nothing, "o"),
    ("reference", .value, "r"), ("size", .value, "s")]
  strict := false

/-- a size made of another one: the letter before an amount says how -/
def newSize (sign : Char) (amount old : Nat) : Nat :=
  match sign with
  | '+' => old + amount
  | '-' => old - amount
  | '<' => if old < amount then old else amount
  | '>' => if old < amount then amount else old
  | '/' => old / amount * amount
  | '%' => (old + amount - 1) / amount * amount
  | _ => amount

def truncate (args : List OctetText) : Work Unit := do
  let a ← readArguments truncateOptions 1 args
  let text := (a.value? "s").map fun t =>
    t.toList.dropWhile fun c => c == ' ' || (9 ≤ c.toNat && c.toNat ≤ 13)
  let (sign, digits) : Char × List Char := match text with
    | some (c :: cs) => if ['+', '-', '<', '>', '/', '%'].contains c then (c, cs) else ('=', c :: cs)
    | _ => ('=', [])
  let amount ← match a.value? "s" with
    | none => pure 0
    | some spelled =>
      match amount? "KMGTPEZYkmgt0" (String.ofList digits) with
      | .ok n =>
        if n = 0 && (sign = '/' || sign = '%') then fail "division by zero" else pure n
      | .error .invalid => fail ("Invalid number: " ++ quoted spelled)
      | .error .tooLarge =>
        fail ("Invalid number: " ++ quoted spelled
          ++ ": Value too large for defined data type")
  let reference ← match a.value? "r" with
    | none => pure none
    | some path => do
      match ← ask (.status path true) with
      | .ok s => pure (some s.size)
      | .error e => fail ("cannot stat " ++ shellQuoted path ++ ": " ++ faultText e)
  if !a.has "s" && reference.isNone then
    misused 1 "you must specify either '--size' or '--reference'"
  if a.operands.isEmpty then misused 1 "missing file operand"
  for path in a.operands do
    match ← ask (.openFile path ⟨false, true, false, !a.has "c", false, false⟩ openPermissions) with
    | .error e =>
      if !(a.has "c" && e = .notFound) then
        warn ("cannot open " ++ shellQuoted path ++ " for writing: " ++ faultText e)
    | .ok fd => do
      let own := ((← ask (.statusOpen fd)).toOption.map (·.size)).getD 0
      let old := reference.getD own
      let size := if a.has "s" then newSize sign amount old else old
      match ← ask (.setLength fd size) with
      | .ok _ => pure ()
      | .error e =>
        warn ("failed to truncate " ++ shellQuoted path ++ " at " ++ toString size ++ " bytes: "
          ++ faultText e)
      closeFile fd

/-! ## mkfifo and mknod -/

def mkfifoOptions : OptionTable where
  letters := "m:Z"
  names := [("mode", .value, "m")]
  strict := false

/-- makes a queue; its permissions are those that are asked for -/
def makeQueueAt (mode : Option Nat) (path : OctetText) : Work (Except SystemFault Unit) := do
  match ← ask (.makeQueue path (mode.getD openPermissions)), mode with
  | .ok _, some mode => ask (.setMode path mode)
  | r, _ => pure r

def queueMode (a : Arguments) : Work (Option Nat) := do
  match a.value? "m" with
  | none => pure none
  | some text =>
    match Mode.change? false (← ask (.setMask none)) text openPermissions with
    | some mode => pure (some mode)
    | none => fail "invalid mode"

def mkfifo (args : List OctetText) : Work Unit := do
  let a ← readArguments mkfifoOptions 1 args
  if a.operands.isEmpty then missingOperand
  let mode ← queueMode a
  for path in a.operands do
    match ← makeQueueAt mode path with
    | .ok _ => pure ()
    | .error e => warn ("cannot create fifo " ++ shellQuoted path ++ ": " ++ faultText e)

def mknod (args : List OctetText) : Work Unit := do
  let a ← readArguments mkfifoOptions 1 args
  let mode ← queueMode a
  match a.operands with
  | [] => missingOperand
  | [path] => missingAfter path
  | [path, "p"] =>
    match ← makeQueueAt mode path with
    | .ok _ => pure ()
    | .error e => fail (named path ++ ": " ++ faultText e)
  | _ :: "p" :: extra :: _ => extraOperand extra
  | path :: _ => fail (named path ++ ": " ++ faultText .notPermitted)

/-! ## mktemp -/

def mktempOptions : OptionTable where
  letters := "dp:qtuV"
  names := [("directory", .nothing, "d"), ("quiet", .nothing, "q"), ("dry-run", .nothing, "u"),
    ("suffix", .value, "suffix"), ("tmpdir", .maybe, "p")]
  strict := false

/-- a name of letters and digits that a number stands for -/
def nameOfNumber : (count : Nat) → Nat → List Char
  | 0, _ => []
  | count + 1, n =>
    let letters := "ABCDEFGHIJKLMNOPQRSTUVWXYZabcdefghijklmnopqrstuvwxyz0123456789".toList
    letters.getD (n % 62) 'A' :: nameOfNumber count (n / 62 + n % 62 * 7919)

/-- tries names until one is free -/
def makeTemporary (a : Arguments) (before behind : OctetText) (count : Nat) :
    (fuel : Nat) → (seed : Nat) → Work (Except SystemFault OctetText)
  | 0, _ => pure (.error .fileExists)
  | fuel + 1, seed => do
    let path := before ++ String.ofList (nameOfNumber count seed) ++ behind
    let result : Except SystemFault Unit ←
      if a.has "u" then
        match ← ask (.status path false) with
        | .ok _ => pure (.error .fileExists)
        | .error e => pure (if e = .notFound then .ok () else .error e)
      else if a.has "d" then ask (.makeDirectory path 0o700)
      else
        match ← ask (.openFile path .createNew 0o600) with
        | .error e => pure (.error e)
        | .ok fd => do
          closeFile fd
          pure (.ok ())
    match result with
    | .ok _ => pure (.ok path)
    | .error e =>
      if e = .fileExists then makeTemporary a before behind count fuel (seed * 31 + 17)
      else pure (.error e)

def mktemp (args : List OctetText) : Work Unit := do
  let a ← readArguments mktempOptions 1 args
  let template ← match a.operands with
    | [] => pure "tmp.XXXXXXXXXX"
    | [template] => pure template
    | _ => misused 1 "too many templates"
  let cs := template.toList.reverse
  let ending := match a.value? "suffix" with
    | some suffix => (suffix.toList.reverse, cs)
    | none =>
      let behind := cs.takeWhile (· != 'X')
      (behind, cs.drop behind.length)
  let marks := ending.2.takeWhile (· == 'X')
  let behind := String.ofList ending.1.reverse
  let before := String.ofList (ending.2.drop marks.length).reverse
  if a.has "suffix" && !template.endsWith "X" then
    fail ("with --suffix, template " ++ quoted template ++ " must end in X")
  if behind.contains '/' then
    fail ("invalid suffix " ++ quoted behind ++ ", contains directory separator")
  if marks.length < 3 then fail ("too few X's in template " ++ quoted template)
  let usesDirectory := a.has "p" || a.has "t" || a.operands.isEmpty
  if a.has "t" && template.contains '/' then
    fail ("invalid template, " ++ quoted template ++ ", contains directory separator")
  if usesDirectory && template.startsWith "/" then
    fail ("invalid template, " ++ quoted template
      ++ "; with --tmpdir, it may not be absolute")
  let vars := (← get).vars
  let told := ((vars.lookup "TMPDIR").filter (!·.isEmpty)).getD "/tmp"
  let directory := match a.value? "p" with
    | some "" => told
    | some directory => directory
    | none => told
  let before := if usesDirectory then joinPath directory before else before
  let seed := (← ask .now).toNat / 1000 + (← ask .self) * 104729
  match ← makeTemporary a before behind marks.length 1000 seed with
  | .ok path => putLine path
  | .error e =>
    if a.has "q" then setCode 1
    else
      let shown := before ++ String.ofList marks ++ behind
      warn ("failed to create " ++ (if a.has "d" then "directory" else "file")
        ++ " via template " ++ quoted shown ++ ": " ++ faultText e)

end ShellWorkers.Utility
