import ShellWorkers.Regex.Preferring
import ShellWorkers.Regex.Reader
import ShellWorkers.Script.Pattern
import ShellWorkers.Text.Utf8
import ShellWorkers.Utility.Amounts
import ShellWorkers.Utility.Removal

/-!
# Selecting lines

The lines of a text that match, and what the utility says of itself.
-/

/-!
## What is said of the selection of lines

The lines that describe the arguments of a utility which selects lines.
-/

namespace ShellWorkers.Utility.Selection

open Text (OctetText)

/-- the lines behind the first one -/
def helpLines : List String := [
    "Search for PATTERNS in each FILE.",
    "Example: grep -i 'hello world' menu.h main.c",
    "PATTERNS can contain multiple patterns separated by newlines.",
    "",
    "Pattern selection and interpretation:",
    "  -E, --extended-regexp     PATTERNS are extended regular expressions",
    "  -F, --fixed-strings       PATTERNS are strings",
    "  -G, --basic-regexp        PATTERNS are basic regular expressions",
    "  -P, --perl-regexp         PATTERNS are Perl regular expressions",
    "  -e, --regexp=PATTERNS     use PATTERNS for matching",
    "  -f, --file=FILE           take PATTERNS from FILE",
    "  -i, --ignore-case         ignore case distinctions in patterns and data",
    "      --no-ignore-case      do not ignore case distinctions (default)",
    "  -w, --word-regexp         match only whole words",
    "  -x, --line-regexp         match only whole lines",
    "  -z, --null-data           a data line ends in 0 byte, not newline",
    "",
    "Miscellaneous:",
    "  -s, --no-messages         suppress error messages",
    "  -v, --invert-match        select non-matching lines",
    "  -V, --version             display version information and exit",
    "      --help                display this help text and exit",
    "",
    "Output control:",
    "  -m, --max-count=NUM       stop after NUM selected lines",
    "  -b, --byte-offset         print the byte offset with output lines",
    "  -n, --line-number         print line number with output lines",
    "      --line-buffered       flush output on every line",
    "  -H, --with-filename       print file name with output lines",
    "  -h, --no-filename         suppress the file name prefix on output",
    "      --label=LABEL         use LABEL as the standard input file name prefix",
    "  -o, --only-matching       show only nonempty parts of lines that match",
    "  -q, --quiet, --silent     suppress all normal output",
    "      --binary-files=TYPE   assume that binary files are TYPE;",
    "                            TYPE is 'binary', 'text', or 'without-match'",
    "  -a, --text                equivalent to --binary-files=text",
    "  -I                        equivalent to --binary-files=without-match",
    "  -d, --directories=ACTION  how to handle directories;",
    "                            ACTION is 'read', 'recurse', or 'skip'",
    "  -D, --devices=ACTION      how to handle devices, FIFOs and sockets;",
    "                            ACTION is 'read' or 'skip'",
    "  -r, --recursive           like --directories=recurse",
    "  -R, --dereference-recursive  likewise, but follow all symlinks",
    "      --include=GLOB        search only files that match GLOB (a file pattern)",
    "      --exclude=GLOB        skip files that match GLOB",
    "      --exclude-from=FILE   skip files that match any file pattern from FILE",
    "      --exclude-dir=GLOB    skip directories that match GLOB",
    "  -L, --files-without-match  print only names of FILEs with no selected lines",
    "  -l, --files-with-matches  print only names of FILEs with selected lines",
    "  -c, --count               print only a count of selected lines per FILE",
    "  -T, --initial-tab         make tabs line up (if needed)",
    "  -Z, --null                print 0 byte after FILE name",
    "",
    "Context control:",
    "  -B, --before-context=NUM  print NUM lines of leading context",
    "  -A, --after-context=NUM   print NUM lines of trailing context",
    "  -C, --context=NUM         print NUM lines of output context",
    "  -NUM                      same as --context=NUM",
    "      --group-separator=SEP  print SEP on line between matches with context",
    "      --no-group-separator  do not print separator for matches with context",
    "      --color[=WHEN],",
    "      --colour[=WHEN]       use markers to highlight the matching strings;",
    "                            WHEN is 'always', 'never', or 'auto'",
    "  -U, --binary              do not strip CR characters at EOL (MSDOS/Windows)",
    "",
    "When FILE is '-', read standard input.  With no FILE, read '.' if",
    "recursive, '-' otherwise.  With fewer than two FILEs, assume -h.",
    "Exit status is 0 if any line is selected, 1 otherwise;",
    "if any error occurs and -q is not given, the exit status is 2.",
    ""]

/-- an address, put together from its parts -/
def address (before : OctetText) (parts : List OctetText) : OctetText := before ++ ".".intercalate parts

/-- where more is said -/
def helpPlaces : List OctetText :=
  let place := address ("https:" ++ "//") ["www", "gnu", "org"]
  ["Report bugs to: " ++ address ("bug-grep" ++ "@") ["gnu", "org"],
    "GNU grep home page: <" ++ place ++ "/software/grep/>",
    "General help using GNU software: <" ++ place ++ "/gethelp/>"]

/-- all that is said, where the utility has a name -/
def helpText (name : OctetText) : OctetText :=
  let first := "Usage: " ++ name ++ " [OPTION]... PATTERNS [FILE]..."
  String.join ((first :: (helpLines ++ helpPlaces)).map (· ++ "\n"))

end ShellWorkers.Utility.Selection

/-!
## Selecting lines

`grep` selects the lines of its files in which a text stands that one of its patterns describes.
The lines are read one after the other, so that the work ends as soon as nothing more can be
selected.
-/

namespace ShellWorkers.Utility

open Machine
open Text (OctetText)

namespace Selection

/-! ### what is selected -/

/-- how patterns are read -/
inductive Reading where
  | basic
  | extended
  /-- every character stands for itself -/
  | fixed
  /-- with preferences -/
  | preferring
  deriving DecidableEq

def dialect (extended folds : Bool) : Regex.Dialect where
  extended := extended
  bareRepeats := extended
  idle := if extended then .skipped else .literal
  strict := false
  looseIntervals := extended
  looseClose := extended
  emptyRanges := false
  guardsKinds := true
  opensOnly := false
  escapes := false
  intervals := true
  folds := folds
  lines := false

/-- a regular expression and which of the places that it describes are accepted -/
structure Finder where
  /-- decides whether a line is selected -/
  regex : Regex
  /-- finds the texts in lines that are selected -/
  exact : Regex
  words : Bool
  /-- the preferred way counts, not the length; and all before the group 0 does not count -/
  preferring : Bool

namespace Finder

/-- a whole word, if words are wanted -/
def accepts (f : Finder) (start stop : Regex.Place) : Bool :=
  !f.words || (!Regex.isWord start.before && !Regex.isWord stop.rest.head?)

/-- the first text that is described, in a line with something before it -/
def find? (f : Finder) (passed text : List Char) : Option Regex.Match :=
  if f.preferring then
    (Regex.findFrom (f.exact.preferred? f.accepts) 0 passed [] text).map (Regex.Match.fromGroup 0)
  else f.exact.findAccepted? f.accepts passed text

/-- whether a line holds a text that is described -/
def holds (f : Finder) (line : List Char) : Bool :=
  if f.words || f.preferring then (f.find? [] line).isSome
  else (f.regex.findAccepted? f.accepts [] line).isSome

/-- the texts of a line that are described, with their offsets and what stands before them; the
fuel is more than the length of the line -/
def findAll (f : Finder) : (fuel : Nat) → (offset : Nat) → (passed : List Char) → List Char →
    List (Nat × List Char × List Char)
  | 0, _, _, _ => []
  | fuel + 1, offset, passed, text =>
    match f.find? passed text with
    | none => []
    | some m =>
      if m.isEmpty then
        match m.start.rest with
        | [] => []
        | c :: cs => findAll f fuel (offset + m.start.offset + 1) (c :: m.start.passed) cs
      else (offset + m.start.offset, m.skipped, m.text)
        :: findAll f fuel (offset + m.stop.offset) m.stop.passed m.stop.rest

end Finder

/-- a finder of lines that one of some patterns describes, and warnings -/
def finderOf (reading : Reading) (folds words whole : Bool) (patterns : List (List Char)) :
    Except OctetText (Finder × List OctetText) := do
  let d := dialect (reading = .extended) folds
  -- texts are found where no more than the opening of an idle interval is passed over
  let narrow := { d with opensOnly := true }
  let read (p : List Char) : Except OctetText (Regex × Regex × List OctetText) :=
    match reading with
    | .fixed =>
      let r := Regex.ofList (p.map (Regex.charRegex d))
      .ok (r, r, [])
    | .preferring =>
      match Regex.Preferring.read folds p with
      | .ok r => .ok (r, r, [])
      | .error fault => .error fault.message
    | _ =>
      match Regex.read d p, Regex.read narrow p with
      | .ok r, .ok s => .ok (r.regex, s.regex, r.idle.map (· ++ " at start of expression"))
      | .ok _, .error fault => .error fault.message
      | .error fault, _ => .error fault.message
  if reading = .preferring && 1 < patterns.length then
    .error "the -P option only supports a single pattern"
  let all ← patterns.mapM read
  let wholeLine (r : Regex) : Regex :=
    if whole then .sequence (.place (Regex.atStart false)) (.sequence r (.place (Regex.atEnd false)))
    else r
  let joined (rs : List Regex) : Regex := match rs.map wholeLine with
    | [] => .place fun _ _ => false
    | r :: rs => rs.foldl Regex.either r
  return (⟨joined (all.map (·.1)), joined (all.map (·.2.1)), words && !whole,
    reading = .preferring⟩, (all.map (·.2.2)).flatten)

/-! ### what is written -/

/-- what is written of files in which lines are selected -/
inductive Report where
  | lines
  /-- the texts that are described only -/
  | texts
  | count
  /-- the names of files in which lines are selected, or in which none are -/
  | names (selected : Bool)
  | nothing
  deriving DecidableEq

structure Plan where
  finder : Finder
  inverted : Bool
  report : Report
  limit : Option Nat
  /-- lines before and behind, if any were asked for -/
  before : Option Nat
  after : Option Nat
  groupMark : Option OctetText
  named : Bool
  numbered : Bool
  offsets : Bool
  /-- a tab stands before lines, and numbers are as wide as those at the end of the file -/
  aligned : Bool
  /-- names end with a null octet -/
  nullNames : Bool
  delimiter : Char
  colored : Bool
  label : OctetText
  quietFaults : Bool
  /-- the first selected line ends the work -/
  quits : Bool
  /-- files that are no text are taken for text, or hold nothing -/
  binary : OctetText

namespace Plan

def selects (p : Plan) (line : List Char) : Bool := p.finder.holds line != p.inverted

/-- whether the first line that is selected settles what is written -/
def stopsAtFirst (p : Plan) : Bool :=
  match p.report with
  | .names _ => true
  | .nothing => true
  | _ => false

def writesLines (p : Plan) : Bool := p.report = .lines || p.report = .texts

/-- a text in a colour -/
def paint (p : Plan) (color text : OctetText) : OctetText :=
  if p.colored && !text.isEmpty then
    "\x1b[" ++ color ++ "m\x1b[K" ++ text ++ "\x1b[m\x1b[K"
  else text

/-- what stands before a line: the name, the number and the offset, each with a mark; numbers take
a width, and an empty line stands without a tab -/
def head (p : Plan) (name mark : OctetText) (width number offset : Nat) (isEmpty : Bool) :
    OctetText :=
  let part (wanted : Bool) (color : OctetText) (n : Nat) : OctetText :=
    let digits := toString n
    let text := String.ofList (List.replicate (width - digits.length) ' ') ++ digits
    if wanted then p.paint color text ++ p.paint "36" mark else ""
  let name := if !p.named then ""
    else if p.nullNames then p.paint "35" name ++ "\x00"
    else p.paint "35" name ++ p.paint "36" mark
  let parts := name ++ part p.numbered "32" number ++ part p.offsets "32" offset
  if p.aligned && !parts.isEmpty && !isEmpty then parts ++ "\t" else parts

/-- a line in which the texts that are described have a colour -/
def painted (p : Plan) (line : List Char) : OctetText :=
  if !p.colored then String.ofList line
  else
    let found := p.finder.findAll (line.length + 1) 0 [] line
    let pieces := found.foldl (fun (done, passed) (offset, _, text) =>
        (done ++ String.ofList ((line.drop passed).take (offset - passed))
          ++ p.paint "01;31" (String.ofList text), offset + text.length)) ("", 0)
    pieces.1 ++ String.ofList (line.drop pieces.2)

end Plan

/-- how the work on a file stands -/
structure Progress where
  /-- how many lines have been read, and how many octets -/
  lines : Nat
  offset : Nat
  /-- lines that may stand before the next one that is selected, last first: their numbers,
  offsets and texts -/
  waiting : List (Nat × Nat × List Char)
  /-- how many lines are still wanted behind the last one that was selected -/
  pending : Nat
  /-- the number of the line that was written last -/
  written : Nat
  count : Nat
  /-- the file holds what is no text -/
  isBinary : Bool
  /-- the offset behind the last line that was wanted -/
  wanted : Nat
  /-- how wide numbers are -/
  width : Nat

/-- whether nothing more can be selected -/
def Progress.isDone (p : Plan) (s : Progress) : Bool :=
  (0 < s.count && (p.stopsAtFirst || (s.isBinary && p.writesLines)))
    || (match p.limit with
      | some n => n ≤ s.count && (s.pending == 0 || !p.writesLines)
      | none => false)

/-- writes the mark between groups of lines that are not beside each other -/
def putGroupMark (p : Plan) (s : Progress) (first : Nat) (groups : Bool) : Work Unit := do
  if groups && (p.before.isSome || p.after.isSome) && s.written + 1 ≠ first then
    match p.groupMark with
    | some mark => putLine (p.paint "36" mark)
    | none => pure ()

/-- writes a line that stands beside a selected one -/
def putContext (p : Plan) (name : OctetText) (width : Nat) (line : Nat × Nat × List Char) :
    Work Unit := do
  if p.report = .lines then
    put (p.head name "-" width line.1 line.2.1 line.2.2.isEmpty ++ String.ofList (line.2.2 ++ [p.delimiter]))

/-- writes a line that is selected, or its texts -/
def putSelected (p : Plan) (name : OctetText) (width number offset : Nat) (line : List Char) :
    Work Unit := do
  match p.report with
  | .lines =>
    put (p.head name ":" width number offset line.isEmpty
      ++ (if p.inverted then String.ofList line else p.painted line)
      ++ String.ofList [p.delimiter])
  | .texts =>
    if !p.inverted then
      (p.finder.findAll (line.length + 1) 0 [] line).forM fun (at_, _, text) =>
        put (p.head name ":" width number (offset + at_) false ++ p.paint "01;31" (String.ofList text)
          ++ String.ofList [p.delimiter])
  | _ => pure ()

/-- the work on one line; `groups` says that lines have been written before -/
def takeLine (p : Plan) (name : OctetText) (groups : Bool) (s : Progress) (line : List Char) :
    Work (Progress × Bool) := do
  let number := s.lines + 1
  let next := s.offset + line.length + 1
  let limited := p.limit.any (· ≤ s.count)
  if !limited && p.selects line then
    let shows := p.writesLines && !s.isBinary
    if shows then do
      let first := (s.waiting.getLast?.map Prod.fst).getD number
      putGroupMark p s first groups
      s.waiting.reverse.forM (putContext p name s.width)
      putSelected p name s.width number s.offset line
    pure (⟨number, next, [], p.after.getD 0, number, s.count + 1, s.isBinary, next, s.width⟩,
      groups || shows)
  else if 0 < s.pending && p.writesLines then do
    if !s.isBinary then putContext p name s.width (number, s.offset, line)
    pure (⟨number, next, [], s.pending - 1, number, s.count, s.isBinary, next, s.width⟩, groups)
  else
    pure ({ s with
      lines := number
      offset := next
      waiting := ((number, s.offset, line) :: s.waiting).take (p.before.getD 0) }, groups)

/-- the work on lines, until nothing more can be selected -/
def takeLines (p : Plan) (name : OctetText) : (groups : Bool) → Progress → List (List Char) →
    Work (Progress × Bool)
  | groups, s, [] => pure (s, groups)
  | groups, s, line :: lines => do
    let (s, groups) ← takeLine p name groups s line
    if s.isDone p then pure (s, groups) else takeLines p name groups s lines

/-- how much of a file is read at once -/
def readSize : Nat := 98304

/-- the work on an open file; `rest` holds the beginning of a line that has been read -/
def takeFile (p : Plan) (name : OctetText) (fd : Nat) : (fuel : Nat) → (groups : Bool) →
    Progress → (rest : OctetText) → Work (Except SystemFault (Progress × Bool))
  | 0, groups, s, _ => pure (.ok (s, groups))
  | fuel + 1, groups, s, rest => do
    match ← ask (.read fd readSize) with
    | .error e => pure (.error e)
    | .ok text =>
      let binary := s.isBinary
        || (p.binary != "text" && p.delimiter != '\x00' && text.contains '\x00')
      let s := { s with isBinary := binary }
      if binary && p.binary == "without-match" then pure (.ok (s, groups))
      else if text.isEmpty then
        if rest.isEmpty then pure (.ok (s, groups))
        else .ok <$> takeLines p name groups s [rest.toList]
      else
        let parts := (rest ++ text).splitOn (String.ofList [p.delimiter])
        let (s, groups) ← takeLines p name groups s (parts.dropLast.map String.toList)
        if s.isDone p then pure (.ok (s, groups))
        else takeFile p name fd fuel groups s (parts.getLastD "")

/-! ### files -/

/-- what has become of the files so far -/
structure Outcome where
  selected : Bool
  failed : Bool
  /-- lines have been written -/
  groups : Bool

/-- a fault at a file -/
def fault (p : Plan) (message : OctetText) (o : Outcome) : Work Outcome := do
  if !p.quietFaults then note message
  return { o with failed := true }

/-- whether two descriptors stand for the same file, which is no device -/
def isOutputFile (fd : Nat) : Work Bool := do
  match ← ask (.statusOpen fd), ← ask (.statusOpen 1) with
  | .ok a, .ok b => return a.kind = .file && a.id = b.id
  | _, _ => return false

/-- how wide numbers of lines and offsets are in an open file, as far as its size tells -/
def numberWidth (numbered : Bool) (fd : Nat) : Work Nat := do
  match ← ask (.statusOpen fd) with
  | .ok s =>
    let most := if s.kind = .file then s.size + (if numbered then 1 else 0) else Nat.pow 2 63 - 1
    return (toString most).length
  | .error _ => return 0

/-- what is written behind a file -/
def reportFile (p : Plan) (name : OctetText) (s : Progress) : Work Unit := do
  match p.report with
  | .count =>
    let shown := if !p.named then ""
      else if p.nullNames then p.paint "35" name ++ "\x00"
      else p.paint "35" name ++ p.paint "36" ":"
    putLine (shown ++ toString s.count)
  | .names selected =>
    if decide (0 < s.count) == selected then
      put (p.paint "35" name ++ if p.nullNames then "\x00" else "\n")
  | _ => pure ()

/-- the work on an open file with a name -/
def searchOpen (p : Plan) (name : OctetText) (fd : Nat) (o : Outcome) : Work Outcome := do
  if p.writesLines && p.limit != some 1 && (← isOutputFile fd) then
    fault p (name ++ ": input file is also the output") o
  else
    let width ← if p.aligned then numberWidth p.numbered fd else pure 0
    let start : Progress := ⟨0, 0, [], 0, 0, 0, false, 0, width⟩
    match ← takeFile p name fd streamFuel o.groups start "" with
    | .error e => fault p (name ++ ": " ++ faultText e) o
    | .ok (s, groups) => do
      reportFile p name s
      if s.isBinary && 0 < s.count && p.writesLines then note (name ++ ": binary file matches")
      if fd = 0 && p.limit.any (· ≤ s.count) then
        if let .ok place ← ask (.seek 0 0) then
          let read := if place < s.wanted then 0 else place - s.wanted
          let _ ← ask (.seek 0 (-(read : Int)))
      if p.quits && 0 < s.count then stop 0
      return ⟨o.selected || 0 < s.count, o.failed, groups⟩

/-- which files are searched -/
structure Reach where
  recursive : Bool
  followsLinks : Bool
  skipsDirectories : Bool
  included : List OctetText
  excluded : List OctetText
  excludedDirectories : List OctetText

namespace Reach

def matchesAny (patterns : List OctetText) (name : OctetText) : Bool :=
  patterns.any fun p => (Script.Pattern.ofGlob p.toList).matchesText name.toList

def takesFile (r : Reach) (name : OctetText) : Bool :=
  (r.included.isEmpty || matchesAny r.included name) && !matchesAny r.excluded name

def takesDirectory (r : Reach) (name : OctetText) : Bool :=
  !matchesAny r.excludedDirectories name

end Reach

/-- how deep directories are searched -/
def depthFuel : Nat := 1000

/-- searches a file, or the files of a directory; `given` says that the path is an operand -/
def searchPath (p : Plan) (r : Reach) : (fuel : Nat) → (given : Bool) → (shown path : OctetText) →
    Outcome → Work Outcome
  | 0, _, _, _, o => pure o
  | fuel + 1, given, shown, path, o => do
    match ← ask (.status path (given || r.followsLinks)) with
    | .error e => fault p (shown ++ ": " ++ faultText e) o
    | .ok status =>
      if status.kind = .directory then
        if r.skipsDirectories then pure o
        else if r.recursive then
          if !r.takesDirectory (if given then path else baseOf path) then pure o
          else
            let names ← namesByAge path
            names.foldlM (fun o name => do
              let below := joinPath path name
              searchPath p r fuel false
                (if given && shown.isEmpty then name else joinPath shown name) below o) o
        else fault p (shown ++ ": Is a directory") o
      else if !given && status.kind ≠ .file then pure o
      else if !r.takesFile (baseOf path) then pure o
      else
        match ← ask (.openFile path .read openPermissions) with
        | .error e => fault p (shown ++ ": " ++ faultText e) o
        | .ok fd => do
          let o ← searchOpen p shown fd o
          closeFile fd
          pure o

/-! ### arguments -/

def options : OptionTable where
  letters := "0123456789A:B:C:D:EFGHILPTUVX:abcd:e:f:hiLlm:noqRrsuvwxyZz"
  names := [("basic-regexp", .nothing, "G"), ("extended-regexp", .nothing, "E"),
    ("fixed-regexp", .nothing, "F"), ("fixed-strings", .nothing, "F"),
    ("perl-regexp", .nothing, "P"), ("after-context", .value, "A"),
    ("before-context", .value, "B"), ("context", .value, "C"),
    ("group-separator", .value, "mark"), ("no-group-separator", .nothing, "nomark"),
    ("binary-files", .value, "binary"), ("line-buffered", .nothing, "buffered"),
    ("byte-offset", .nothing, "b"), ("color", .maybe, "color"), ("colour", .maybe, "color"),
    ("count", .nothing, "c"), ("devices", .value, "D"), ("directories", .value, "d"),
    ("exclude", .value, "exclude"), ("exclude-from", .value, "excludefrom"),
    ("exclude-dir", .value, "excludedir"), ("file", .value, "f"),
    ("files-with-matches", .nothing, "l"), ("files-without-match", .nothing, "L"),
    ("include", .value, "include"), ("ignore-case", .nothing, "i"),
    ("no-ignore-case", .nothing, "noi"), ("initial-tab", .nothing, "T"),
    ("label", .value, "label"), ("line-number", .nothing, "n"), ("line-regexp", .nothing, "x"),
    ("max-count", .value, "m"), ("no-filename", .nothing, "h"), ("no-messages", .nothing, "s"),
    ("null", .nothing, "Z"), ("null-data", .nothing, "z"), ("only-matching", .nothing, "o"),
    ("quiet", .nothing, "q"), ("recursive", .nothing, "r"),
    ("dereference-recursive", .nothing, "R"), ("regexp", .value, "e"),
    ("invert-match", .nothing, "v"), ("silent", .nothing, "q"), ("text", .nothing, "a"),
    ("binary", .nothing, "U"), ("unix-byte-offsets", .nothing, "u"), ("version", .nothing, "V"),
    ("with-filename", .nothing, "H"), ("word-regexp", .nothing, "w"), ("help", .nothing, "help")]
  strict := false

def usage (name : OctetText) : OctetText :=
  "Usage: " ++ name ++ " [OPTION]... PATTERNS [FILE]...\nTry '" ++ name
    ++ " --help' for more information.\n"

/-- arguments that are not understood -/
def misusedBy {α : Type} (message : OctetText) : Work α := do
  note message
  putMessage (usage (← get).name)
  stop 2

/-- a number of lines beside those that are selected -/
def contextLength (text : OctetText) : Work Nat := do
  match amount? "" text with
  | .ok n => pure n
  | .error .tooLarge => pure naturalLimit
  | .error .invalid => failWith 2 (text ++ ": invalid context length argument")

/-- the digits of the options that were given last one behind the other -/
def contextDigits (a : Arguments) : OctetText :=
  let isDigit (o : OctetText) : Bool := o.length == 1 && o.all Char.isDigit
  let run := ((a.options.map Prod.fst).reverse.dropWhile (!isDigit ·)).takeWhile isDigit
  String.join run.reverse

/-- the lines of a text of patterns -/
def patternLines (text : OctetText) : List (List Char) :=
  (text.splitOn "\n").map String.toList

/-- the patterns of options -/
def givenPatterns (a : Arguments) : Work (Option (List (List Char))) := do
  let given := a.options.filter fun o => o.1 == "e" || o.1 == "f"
  if given.isEmpty then pure none
  else
    let lists ← given.mapM fun (option, value) => do
      let value := value.getD ""
      if option = "e" then pure (patternLines value)
      else
        match ← readOperand value with
        | .error e => failWith 2 (value ++ ": " ++ faultText e)
        | .ok text => pure ((bareLines text).map String.toList)
    pure (some lists.flatten)

/-- the greatest of the kinds of reading that options name; others than one cannot be mixed with
that of another language -/
def readingOf (default : Reading) (a : Arguments) : Reading :=
  match a.last? ["E", "F", "G", "P"] with
  | some "E" => .extended
  | some "P" => .preferring
  | some "F" => .fixed
  | some _ => .basic
  | none => default

/-- the ways of reading that options name have to be one -/
def checkReadings (default : Reading) (a : Arguments) : Work Unit := do
  let first := match default with
    | .basic => []
    | .extended => ["E"]
    | .fixed => ["F"]
    | .preferring => ["P"]
  let named := first ++ ["E", "F", "G", "P"].filter a.has
  if named.any fun o => some o ≠ named.head? then failWith 2 "conflicting matchers specified"

/-- the ways to say when colours are shown -/
def colorWords : List OctetText :=
  ["always", "yes", "force", "never", "no", "none", "auto", "tty", "if-tty"]

/-- what is written -/
def reportOf (a : Arguments) (toNowhere : Bool) : Report :=
  if a.has "q" || toNowhere then .nothing
  else match a.last? ["l", "L"] with
    | some option => .names (option == "l")
    | none => if a.has "c" then .count else if a.has "o" then .texts else .lines

/-- whether the output is thrown away -/
def outputIsNowhere : Work Bool := do
  match ← ask (.statusOpen 1), ← ask (.status "/dev/null" true) with
  | .ok a, .ok b => return a.kind = .device && a.id = b.id
  | _, _ => return false

/-- selects lines; `default` says how patterns are read without an option -/
def search (default : Reading) (args : List OctetText) : Work Unit := do
  let a ← readArgumentsOr misusedBy options args
  checkReadings default a
  if a.has "V" then do
    putLine "grep (GNU grep) 3.8"
    stop 0
  let color := (a.value? "color").map fun word => word.map Char.toLower
  if a.has "help" || color.any (fun word => !word.isEmpty && !colorWords.contains word) then do
    put (helpText (← get).name)
    stop 0
  let context ← (a.value? "C").mapM contextLength
  let digits := contextDigits a
  let context ← if digits.isEmpty then pure context else some <$> contextLength digits
  let after ← (a.value? "A").mapM contextLength
  let before ← (a.value? "B").mapM contextLength
  let limit ← (a.value? "m").mapM fun text => do
    match amount? "kKMGTPEZY0" text with
    | .ok n => pure (some n)
    | .error .tooLarge => pure none
    | .error .invalid =>
      if text.startsWith "-" && (Option.isSome (decimal? (String.ofList (text.toList.drop 1)))) then
        pure none
      else failWith 2 "invalid max count"
  let binary := match a.last? ["binary", "a", "I"] with
    | some "a" => "text"
    | some "I" => "without-match"
    | some _ => (a.value? "binary").getD ""
    | none => "binary"
  if !(["binary", "text", "without-match"].contains binary) then
    failWith 2 "unknown binary-files type"
  let directories := match a.last? ["d", "r", "R"] with
    | some "d" => (a.value? "d").getD ""
    | some _ => "recurse"
    | none => "read"
  if !(["read", "recurse", "skip"].contains directories) then do
    note ("invalid argument " ++ quoted directories ++ " for '--directories'")
    putMessage "Valid arguments are:\n  - 'read'\n  - 'recurse'\n  - 'skip'\n"
    putMessage (usage (← get).name)
    stop 1
  if !(["read", "skip"].contains ((a.value? "D").getD "read")) then
    failWith 2 "unknown devices method"
  let (patterns, operands) ← match ← givenPatterns a with
    | some patterns => pure (patterns, a.operands)
    | none =>
      match a.operands with
      | pattern :: operands => pure (patternLines pattern, operands)
      | [] => do
        putMessage (usage (← get).name)
        stop 2
  let folds := (a.last? ["i", "y", "noi"]).any (· != "noi")
  let finder ← match finderOf (readingOf default a) folds (a.has "w") (a.has "x") patterns with
    | .error message => failWith 2 message
    | .ok (finder, warnings) => do
      warnings.forM fun w => note ("warning: " ++ w)
      pure finder
  let recursive := directories == "recurse"
  let several := 1 < operands.length || recursive
  let plan : Plan := {
    finder
    inverted := a.has "v"
    report := reportOf a (← outputIsNowhere)
    limit := limit.join
    before := before <|> context
    after := after <|> context
    groupMark := match a.last? ["mark", "nomark"] with
      | some "nomark" => none
      | _ => some ((a.value? "mark").getD "--")
    named := match a.last? ["h", "H"] with
      | some "h" => false
      | some _ => true
      | none => several
    numbered := a.has "n"
    offsets := a.has "b"
    aligned := a.has "T"
    nullNames := a.has "Z"
    delimiter := if a.has "z" then '\x00' else '\n'
    colored := color.any ["always", "yes", "force"].contains
    label := (a.value? "label").getD "(standard input)"
    quietFaults := a.has "s"
    quits := a.has "q"
    binary }
  if plan.limit == some 0 then stop 1
  let reach : Reach := {
    recursive
    followsLinks := a.has "R"
    skipsDirectories := directories == "skip"
    included := a.values "include"
    excluded := a.values "exclude"
    excludedDirectories := a.values "excludedir" }
  let start : Outcome := ⟨false, false, false⟩
  let searchOperand (o : Outcome) (path : OctetText) : Work Outcome :=
    if path = "-" then searchOpen plan plan.label 0 o
    else searchPath plan reach depthFuel true path path o
  let o ← if operands.isEmpty then
      if recursive then searchPath plan reach depthFuel true "" "." start
      else searchOpen plan plan.label 0 start
    else operands.foldlM searchOperand start
  setCode (if o.failed then 2 else if o.selected then 0 else 1)

end Selection

def grep (args : List OctetText) : Work Unit := Selection.search .basic args

/-- `grep` with extended expressions -/
def egrep (args : List OctetText) : Work Unit := do
  modify ({ · with name := "grep" })
  Selection.search .extended args

/-- `grep` with texts that stand for themselves -/
def fgrep (args : List OctetText) : Work Unit := do
  modify ({ · with name := "grep" })
  Selection.search .fixed args

end ShellWorkers.Utility
