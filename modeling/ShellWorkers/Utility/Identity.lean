import ShellWorkers.Script.Pattern
import ShellWorkers.Utility.Amounts
import ShellWorkers.Utility.Owners

/-!
# Who and where

Who runs a utility, on which machine and terminal.
-/

/-!
## Who and where

The utilities that tell the users, the machine and its terminal.  Nobody is logged in, so lists of
sessions have their headings at most.
-/

namespace ShellWorkers.Utility

open Machine
open Text (OctetText)

/-- the user that everything runs for -/
def userName : OctetText := "root"

def idOptions : OptionTable where
  letters := "agGnruzZ"
  names := [("group", .nothing, "g"), ("groups", .nothing, "G"), ("name", .nothing, "n"),
    ("context", .nothing, "Z"), ("real", .nothing, "r"), ("user", .nothing, "u"),
    ("zero", .nothing, "z")]
  strict := false

/-- a number with the name that it stands for -/
def numberedText (number : Nat) (name? : Option OctetText) : OctetText :=
  toString number ++ ((name?.map fun name => "(" ++ name ++ ")").getD "")

/-- all that is known of a user -/
def identityText (u : Account) : OctetText :=
  let group := numberedText u.party ((partyNumbered? u.party).map (·.name))
  "uid=" ++ numberedText u.number (some u.name) ++ " gid=" ++ group ++ " groups=" ++ group

/-- the user that a name or a number stands for -/
def accountOf? (text : OctetText) : Option Account :=
  (Ownership.userNumber? text).bind accountNumbered?

def identity (args : List OctetText) : Work Unit := do
  let a ← readArguments idOptions 1 args
  if a.has "Z" then fail "--context (-Z) works only on an SELinux-enabled kernel"
  let choices := ["u", "g", "G"].filter a.has
  if 1 < choices.length then fail "cannot print \"only\" of more than one choice"
  if choices.isEmpty && (a.has "n" || a.has "r") then
    fail "cannot print only names or real IDs in default format"
  if choices.isEmpty && a.has "z" then fail "option --zero not permitted in default format"
  let ending := if !a.has "z" then "\n"
    else if a.has "G" && 1 < a.operands.length then "\x00\x00" else "\x00"
  for text in (if a.operands.isEmpty then [userName] else a.operands) do
    match accountOf? text with
    | none => warn (quoted text ++ ": no such user")
    | some u =>
      if choices.isEmpty then put (identityText u)
      else if a.has "u" then put (if a.has "n" then u.name else toString u.number)
      else put (if a.has "n" then partyText u.party else toString u.party)
      put ending

/-- a utility that takes no operands and writes one line -/
def telling (line : OctetText) (args : List OctetText) : Work Unit := do
  let a ← readArguments ⟨"", [], false⟩ 1 args
  match a.operands with
  | operand :: _ => extraOperand operand
  | [] => putLine line

def whoami (args : List OctetText) : Work Unit := telling userName args

def arch (args : List OctetText) : Work Unit := telling "x86_64" args

def hostid (args : List OctetText) : Work Unit := telling "007f0100" args

def logname (args : List OctetText) : Work Unit := do
  let a ← readArguments ⟨"", [], false⟩ 1 args
  match a.operands with
  | operand :: _ => extraOperand operand
  | [] => fail "no login name"

def groups (args : List OctetText) : Work Unit := do
  let a ← readArguments ⟨"", [], false⟩ 1 args
  if a.operands.isEmpty then putLine userName
  for name in a.operands do
    match accountNamed? name with
    | some u => putLine (name ++ " : " ++ partyText u.party)
    | none => warn (quoted name ++ ": no such user")

def unameOptions : OptionTable where
  letters := "asnrvmpio"
  names := [("all", .nothing, "a"), ("kernel-name", .nothing, "s"), ("nodename", .nothing, "n"),
    ("kernel-release", .nothing, "r"), ("kernel-version", .nothing, "v"),
    ("machine", .nothing, "m"), ("processor", .nothing, "p"),
    ("hardware-platform", .nothing, "i"), ("operating-system", .nothing, "o")]
  strict := false

def hostName : OctetText := "localhost"

def uname (args : List OctetText) : Work Unit := do
  let a ← readArguments unameOptions 1 args
  match a.operands with
  | operand :: _ => extraOperand operand
  | [] => pure ()
  let parts : List (OctetText × OctetText) :=
    [("s", "Linux"), ("n", hostName), ("r", "6.1.0"), ("v", "#1 SMP"), ("m", "x86_64"),
      ("p", "unknown"), ("i", "unknown"), ("o", "GNU/Linux")]
  let shown := if a.has "a" then parts.filter fun p => p.1 != "p" && p.1 != "i"
    else if a.options.isEmpty then parts.take 1
    else parts.filter fun p => a.has p.1
  putLine (" ".intercalate (shown.map Prod.snd))

def hostname (args : List OctetText) : Work Unit := do
  let a ← readArguments ⟨"sfIid", [], false⟩ 1 args
  if a.operands.isEmpty then putLine hostName else fail "you must be root to change the host name"

def ttyOptions : OptionTable where
  letters := "s"
  names := [("silent", .nothing, "s"), ("quiet", .nothing, "s")]
  strict := false

def tty (args : List OctetText) : Work Unit := do
  let a ← readArguments ttyOptions 2 args
  match a.operands with
  | operand :: _ => misused 2 ("extra operand " ++ quoted operand)
  | [] => do
    if !a.has "s" then putLine "not a tty"
    setCode 1

/-- how many processors there are -/
def processorCount : Nat := 4

def nprocOptions : OptionTable where
  letters := ""
  names := [("all", .nothing, "all"), ("ignore", .value, "ignore")]
  strict := false

def nproc (args : List OctetText) : Work Unit := do
  let a ← readArguments nprocOptions 1 args
  match a.operands with
  | operand :: _ => extraOperand operand
  | [] => do
    let ignored ← match a.value? "ignore" with
      | none => pure 0
      | some text =>
        match decimal? text with
        | some n => pure n
        | none => fail ("invalid number: " ++ quoted text)
    putLine (toString (if ignored < processorCount then processorCount - ignored else 1))

def syncOptions : OptionTable where
  letters := "df"
  names := [("data", .nothing, "d"), ("file-system", .nothing, "f")]
  strict := false

def sync (args : List OctetText) : Work Unit := do
  let a ← readArguments syncOptions 1 args
  for path in a.operands do
    match ← ask (.openFile path .read 0) with
    | .ok fd => closeFile fd
    | .error e => warn ("error opening " ++ shellQuoted path ++ ": " ++ faultText e)

/-! ### sessions -/

/-- a text in a width -/
def inColumn (width : Nat) (text : OctetText) : OctetText :=
  text ++ String.ofList (List.replicate (width - text.length) ' ')

def whoOptions : OptionTable where
  letters := "abdlmpqrstuwHT"
  names := [("all", .nothing, "a"), ("boot", .nothing, "b"), ("count", .nothing, "q"),
    ("dead", .nothing, "d"), ("heading", .nothing, "H"), ("login", .nothing, "l"),
    ("lookup", .nothing, "lookup"), ("message", .nothing, "T"), ("mesg", .nothing, "T"),
    ("process", .nothing, "p"), ("runlevel", .nothing, "r"), ("short", .nothing, "s"),
    ("time", .nothing, "t"), ("users", .nothing, "u"), ("writable", .nothing, "T")]
  strict := false

/-- the names of the columns that options ask for -/
def whoHeading (a : Arguments) : OctetText :=
  let hasAny (letters : List OctetText) : Bool := letters.any a.has
  let isShort := !hasAny ["a", "d"] && (a.has "s" || !hasAny ["b", "l", "p", "r", "t", "u"])
  let text := "NAME    " ++ (if hasAny ["a", "T", "w"] then "  " else "") ++ " " ++ inColumn 12 "LINE"
    ++ " " ++ inColumn 12 "TIME"
    ++ (if !isShort && hasAny ["a", "d", "l", "r", "u"] then " IDLE  " else "")
    ++ (if isShort then "" else "        PID") ++ " COMMENT "
    ++ (if hasAny ["a", "d"] then " EXIT" else "")
  (text.dropEndWhile (· = ' ')).toString

def who (args : List OctetText) : Work Unit := do
  let a ← readArguments whoOptions 1 args
  match a.operands with
  | _ :: _ :: operand :: _ => extraOperand operand
  | _ => pure ()
  if a.has "q" then put "\n# users=0\n"
  else if a.has "H" then putLine (whoHeading a)

def users (args : List OctetText) : Work Unit := do
  let a ← readArguments ⟨"", [], false⟩ 1 args
  match a.operands with
  | _ :: operand :: _ => extraOperand operand
  | _ => pure ()

/-- what is known of a user, or would be -/
def pinkyEntry (withHome : Bool) (name : OctetText) : OctetText :=
  "Login name: " ++ inColumn 28 name ++ "In real life:  "
    ++ (match accountNamed? name with
      | none => "???\n"
      | some u =>
        u.description ++ "\n"
          ++ (if withHome then
              "Directory: " ++ inColumn 29 u.home ++ "Shell:  " ++ u.shell ++ "\n"
            else "")
          ++ "\n")

def pinky (args : List OctetText) : Work Unit := do
  let a ← readArguments ⟨"bfhilpqsw", [], false⟩ 1 args
  if a.last? ["l", "s"] == some "l" then
    if a.operands.isEmpty then
      misused 1 "no username specified; at least one must be specified when using -l"
    for name in a.operands do put (pinkyEntry (!a.has "b") name)
  else if !a.has "f" then
    let isBare := a.has "i" || a.has "q"
    putLine ("Login   " ++ (if isBare || a.has "w" then "" else " " ++ inColumn 19 "Name")
      ++ "  TTY     " ++ (if a.has "q" then "" else " Idle  ") ++ " " ++ inColumn 12 "When"
      ++ (if isBare then "" else " Where"))

end ShellWorkers.Utility

/-!
## Terminals

`dircolors` tells the colours in which a listing shows names, as a shell sets them.  They come from
lines of a keyword and a value; lines behind the names of terminals hold for these only.  `stty`
tells and sets how a terminal works; on a machine without one, it can do no more than understand
its arguments.

* `ColourReader.line`   what a line says;
* `TerminalMode.check`  whether arguments ask for something that terminals know.
-/

namespace ShellWorkers.Utility

open Machine
open Text (OctetText)

/-! ### colours -/

/-- the keywords of kinds of files, with the letters that stand for them -/
def kindKeywords : List (OctetText × OctetText) :=
  [("NORMAL", "no"), ("NORM", "no"), ("FILE", "fi"), ("RESET", "rs"), ("DIR", "di"), ("LNK", "ln"),
    ("LINK", "ln"), ("SYMLINK", "ln"), ("ORPHAN", "or"), ("MISSING", "mi"), ("FIFO", "pi"),
    ("PIPE", "pi"), ("SOCK", "so"), ("BLK", "bd"), ("BLOCK", "bd"), ("CHR", "cd"), ("CHAR", "cd"),
    ("DOOR", "do"), ("EXEC", "ex"), ("LEFT", "lc"), ("LEFTCODE", "lc"), ("RIGHT", "rc"),
    ("RIGHTCODE", "rc"), ("END", "ec"), ("ENDCODE", "ec"), ("SUID", "su"), ("SETUID", "su"),
    ("SGID", "sg"), ("SETGID", "sg"), ("STICKY", "st"), ("OTHER_WRITABLE", "ow"), ("OWR", "ow"),
    ("STICKY_OTHER_WRITABLE", "tw"), ("OWT", "tw"), ("CAPABILITY", "ca"), ("MULTIHARDLINK", "mh"),
    ("CLRTOEOL", "cl")]

/-- the terminals that show colours -/
def colourTerminals : List OctetText :=
  ["Eterm", "ansi", "*color*", "con[0-9]*x[0-9]*", "cons25", "console", "cygwin", "*direct*",
    "dtterm", "gnome", "hurd", "jfbterm", "konsole", "kterm", "linux", "linux-c", "mlterm", "putty",
    "rxvt*", "screen*", "st", "terminator", "tmux*", "vt100", "xterm*"]

/-- the colours of kinds of files -/
def kindColours : List (OctetText × OctetText) :=
  [("RESET", "0"), ("DIR", "01;34"), ("LINK", "01;36"), ("MULTIHARDLINK", "00"), ("FIFO", "40;33"),
    ("SOCK", "01;35"), ("DOOR", "01;35"), ("BLK", "40;33;01"), ("CHR", "40;33;01"),
    ("ORPHAN", "40;31;01"), ("MISSING", "00"), ("SETUID", "37;41"), ("SETGID", "30;43"),
    ("CAPABILITY", "00"), ("STICKY_OTHER_WRITABLE", "30;42"), ("OTHER_WRITABLE", "34;42"),
    ("STICKY", "37;44"), ("EXEC", "01;32")]

/-- the endings of names, and the colours that they have in common -/
def endingColours : List (OctetText × List OctetText) :=
  [("01;31", [".tar", ".tgz", ".arc", ".arj", ".taz", ".lha", ".lz4", ".lzh", ".lzma", ".tlz",
      ".txz", ".tzo", ".t7z", ".zip", ".z", ".dz", ".gz", ".lrz", ".lz", ".lzo", ".xz", ".zst",
      ".tzst", ".bz2", ".bz", ".tbz", ".tbz2", ".tz", ".deb", ".rpm", ".jar", ".war", ".ear",
      ".sar", ".rar", ".alz", ".ace", ".zoo", ".cpio", ".7z", ".rz", ".cab", ".wim", ".swm",
      ".dwm", ".esd"]),
    ("01;35", [".avif", ".jpg", ".jpeg", ".mjpg", ".mjpeg", ".gif", ".bmp", ".pbm", ".pgm", ".ppm",
      ".tga", ".xbm", ".xpm", ".tif", ".tiff", ".png", ".svg", ".svgz", ".mng", ".pcx", ".mov",
      ".mpg", ".mpeg", ".m2v", ".mkv", ".webm", ".webp", ".ogm", ".mp4", ".m4v", ".mp4v", ".vob",
      ".qt", ".nuv", ".wmv", ".asf", ".rm", ".rmvb", ".flc", ".avi", ".fli", ".flv", ".gl", ".dl",
      ".xcf", ".xwd", ".yuv", ".cgm", ".emf", ".ogv", ".ogx"]),
    ("00;36", [".aac", ".au", ".flac", ".m4a", ".mid", ".midi", ".mka", ".mp3", ".mpc", ".ogg",
      ".ra", ".wav", ".oga", ".opus", ".spx", ".xspf"]),
    ("00;90", ["*~", "*#", ".bak", ".old", ".orig", ".part", ".rej", ".swp", ".tmp", ".dpkg-dist",
      ".dpkg-old", ".ucf-dist", ".ucf-new", ".ucf-old", ".rpmnew", ".rpmorig", ".rpmsave"])]

/-- the lines that hold when no others are given -/
def usualColourLines : List OctetText :=
  "COLORTERM ?*" :: colourTerminals.map ("TERM " ++ ·)
    ++ kindColours.map (fun k => k.1 ++ " " ++ k.2)
    ++ endingColours.flatMap fun e => e.2.map (· ++ " " ++ e.1)

/-- whether lines hold for the terminal there is -/
inductive TerminalMatch where
  /-- no terminal has been named -/
  | unnamed
  /-- the terminal has just been named, by the last line or by those before it -/
  | named
  /-- the terminal was named before other lines -/
  | behind
  | other
  deriving DecidableEq

/-- what has been read of lines about colours -/
structure ColourReader where
  terminal : OctetText
  /-- what the terminal says about its colours -/
  hint : OctetText
  /-- entries are shown in their colours, each on a line -/
  shows : Bool
  state : TerminalMatch
  /-- the entries, last first -/
  entries : List OctetText
  /-- complaints about lines, last first -/
  faults : List OctetText

namespace ColourReader

def isSpace (c : Char) : Bool := c == ' ' || (9 ≤ c.toNat && c.toNat ≤ 13)

/-- the keyword and the value of a line, if it has them -/
def split (line : OctetText) : Option (OctetText × Option OctetText) :=
  let cs := line.toList.dropWhile isSpace
  let keyword := cs.takeWhile (!isSpace ·)
  let value := (cs.drop keyword.length).dropWhile isSpace
  let value := ((value.takeWhile (· != '#')).reverse.dropWhile isSpace).reverse
  if keyword.isEmpty || keyword.head? == some '#' then none
  else some (String.ofList keyword, if value.isEmpty then none else some (String.ofList value))

/-- a part of an entry between single quotes, where marks have a backslash unless one is there -/
def protect : (marked : Bool) → List Char → List Char
  | _, [] => []
  | marked, c :: cs =>
    if c = '\'' then ['\'', '\\', '\'', '\''] ++ protect false cs
    else if c = '\\' || c = '^' then c :: protect (!marked) cs
    else if c = ':' || c = '=' then (if marked then [c] else ['\\', c]) ++ protect false cs
    else c :: protect false cs

/-- one entry more -/
def add (r : ColourReader) (name value : OctetText) : ColourReader :=
  let text := if r.shows then "\x1b[" ++ value ++ "m" ++ name ++ "\t" ++ value ++ "\x1b[0m\n"
    else String.ofList (protect false name.toList ++ '=' :: protect false value.toList ++ [':'])
  { r with entries := text :: r.entries }

def fault (r : ColourReader) (text : OctetText) : ColourReader := { r with faults := text :: r.faults }

/-- whether a text has the form of a pattern -/
def fits (pattern text : OctetText) : Bool :=
  (Script.Pattern.ofMarked (pattern.toList.map fun c => (c, false))).matchesText text.toList

/-- a terminal is named -/
def withTerminal (r : ColourReader) (isThis : Bool) : ColourReader :=
  { r with state := if r.state = .named then .named else if isThis then .named else .other }

/-- what a line says, which is called by a label in complaints -/
def line (label : OctetText) (r : ColourReader) (text : OctetText) : ColourReader :=
  match split text with
  | none => r
  | some (_, none) => r.fault (label ++ ": invalid line;  missing second token")
  | some (keyword, some value) =>
    let upper := String.ofList (keyword.toList.map Char.toUpper)
    if upper = "TERM" then r.withTerminal (fits value r.terminal)
    else if upper = "COLORTERM" then r.withTerminal (fits value r.hint)
    else
      let r := if r.state = .named then { r with state := .behind } else r
      if r.state = .other then r
      else if keyword.startsWith "." then r.add ("*" ++ keyword) value
      else if keyword.startsWith "*" then r.add keyword value
      else if ["OPTIONS", "COLOR", "EIGHTBIT"].contains upper then r
      else match kindKeywords.lookup upper with
        | some letters => r.add letters value
        | none =>
          if r.state = .behind then r.fault (label ++ ": unrecognized keyword " ++ keyword) else r

end ColourReader

def dircolorsOptions : OptionTable where
  letters := "bcp"
  names := [("bourne-shell", .nothing, "b"), ("sh", .nothing, "b"), ("csh", .nothing, "c"),
    ("c-shell", .nothing, "c"), ("print-database", .nothing, "p"),
    ("print-ls-colors", .nothing, "show")]
  strict := false

/-- whether colours are set as the other kind of shells does it -/
def colourSyntax (a : Arguments) : Work Bool := do
  match a.last? ["b", "c"] with
  | some letter => pure (letter == "c")
  | none =>
    match (← get).vars.lookup "SHELL" with
    | none => fail "no SHELL environment variable, and no shell type option given"
    | some "" => fail "no SHELL environment variable, and no shell type option given"
    | some shell => pure (["csh", "tcsh"].contains ((shell.splitOn "/").getLast?.getD ""))

def dircolors (args : List OctetText) : Work Unit := do
  let a ← readArguments dircolorsOptions 1 args
  let shows := a.has "show"
  if (a.has "p" || shows) && (a.has "b" || a.has "c") then
    misused 1 "the options to output non shell syntax,\nand to select a shell syntax are mutually exclusive"
  if a.has "p" && shows then
    misused 1 "options --print-database and --print-ls-colors are mutually exclusive"
  match a.operands.drop (if a.has "p" then 0 else 1) with
  | extra :: _ => do
    note ("extra operand " ++ quoted extra)
    if a.has "p" then
      putMessage "file operands cannot be combined with --print-database (-p)\n"
    putMessage ("Try '" ++ (← get).name ++ " --help' for more information.\n")
    stop 1
  | [] => pure ()
  if a.has "p" then usualColourLines.forM putLine
  else
    let forC ← if shows then pure false else colourSyntax a
    let (label, lines) ← match a.operands with
      | [] => pure ("<internal>", usualColourLines)
      | path :: _ =>
        match ← readOperand path with
        | .error .isDirectory => fail (named path ++ ": read error: Is a directory")
        | .error e => fail (named path ++ ": " ++ faultText e)
        | .ok text => pure (named path, bareLines text)
    let vars := (← get).vars
    let terminal := match vars.lookup "TERM" with
      | some "" => "none"
      | some terminal => terminal
      | none => "none"
    let start : ColourReader := ⟨terminal, (vars.lookup "COLORTERM").getD "", shows, .unnamed, [], []⟩
    let r := lines.zipIdx.foldl (fun r (line, n) =>
      ColourReader.line (label ++ ":" ++ toString (n + 1)) r line) start
    r.faults.reverse.forM note
    if !r.faults.isEmpty then setCode 1
    else
      let text := String.join r.entries.reverse
      put (if shows then text
        else if forC then "setenv LS_COLORS '" ++ text ++ "'\n"
        else "LS_COLORS='" ++ text ++ "';\nexport LS_COLORS\n")

/-! ### modes of terminals -/

namespace TerminalMode

/-- modes that can be turned on and, behind a hyphen, off -/
def switches : List OctetText :=
  ["parenb", "parodd", "cmspar", "hupcl", "hup", "cstopb", "cread", "clocal", "crtscts", "ignbrk",
    "brkint", "ignpar", "parmrk", "inpck", "istrip", "inlcr", "igncr", "icrnl", "ixon", "ixoff",
    "tandem", "iuclc", "ixany", "imaxbel", "iutf8", "opost", "olcuc", "ocrnl", "onlcr", "onocr",
    "onlret", "ofill", "ofdel", "isig", "icanon", "iexten", "echo", "echoe", "crterase", "echok",
    "echonl", "noflsh", "xcase", "tostop", "echoprt", "prterase", "echoctl", "ctlecho", "echoke",
    "crtkill", "flusho", "extproc", "evenp", "parity", "oddp", "nl", "cooked", "raw", "pass8",
    "litout", "cbreak", "decctlq", "tabs", "lcase", "LCASE", "drain"]

/-- modes that can only be turned on -/
def settings : List OctetText :=
  ["cs5", "cs6", "cs7", "cs8", "nl0", "nl1", "cr0", "cr1", "cr2", "cr3", "tab0", "tab1", "tab2",
    "tab3", "bs0", "bs1", "vt0", "vt1", "ff0", "ff1", "ek", "sane", "crt", "dec", "size", "speed"]

/-- characters with a meaning -/
def characters : List OctetText :=
  ["intr", "quit", "erase", "kill", "eof", "eol", "eol2", "swtch", "start", "stop", "susp", "rprnt",
    "werase", "lnext", "flush", "discard"]

/-- numbers, the greatest of which are given -/
def numbers : List (OctetText × Nat) :=
  [("min", 255), ("time", 255), ("rows", 2147483647), ("cols", 2147483647),
    ("columns", 2147483647), ("line", 18446744073709551615)]

/-- the rates at which characters can come -/
def rates : List OctetText :=
  ["0", "50", "75", "110", "134", "134.5", "150", "200", "300", "600", "1200", "1800", "2400", "4800",
    "9600", "19200", "38400", "exta", "extb", "57600", "115200", "230400", "460800", "500000",
    "576000", "921600", "1000000", "1152000", "1500000", "2000000", "2500000", "3000000", "3500000",
    "4000000"]

/-- whether a text holds all that can be set -/
def isRecord (text : OctetText) : Bool :=
  let parts := text.splitOn ":"
  parts.length == 36 && parts.all fun p => !p.isEmpty && p.toList.all Decimal.Floating.isHexDigit

/-- ends the utility unless arguments ask for something that terminals know -/
def check : List OctetText → Work Unit
  | [] => pure ()
  | arg :: rest => do
    let isOff := arg.startsWith "-"
    let name := if isOff then String.ofList (arg.toList.drop 1) else arg
    if switches.contains name || (!isOff && (settings.contains arg || rates.contains arg
        || isRecord arg)) then check rest
    else if isOff then misused 1 ("invalid argument " ++ quoted arg)
    else
      let takes := characters.contains arg || (numbers.lookup arg).isSome
        || ["ispeed", "ospeed"].contains arg
      match takes, rest with
      | false, _ => misused 1 ("invalid argument " ++ quoted arg)
      | true, [] => misused 1 ("missing argument to " ++ quoted arg)
      | true, value :: rest => do
        let least := ["min", "time"].contains arg
        if characters.contains arg then
          let isName := value.length ≤ 1 || value = "^-" || value = "undef"
            || (value.startsWith "^" && value.length = 2)
          if !isName then
            let _ ← wholeOrFail "invalid integer argument" 0 255 value
        else if least then
          let _ ← wholeOrFail "invalid integer argument" 0 255 value
        else if arg.endsWith "speed" && !rates.contains value then
          misused 1 ("invalid " ++ arg ++ " " ++ quoted value)
        check rest

/-- what arguments ask for before a terminal is looked at -/
structure Request where
  styles : List OctetText := []
  devices : List OctetText := []
  /-- the arguments that are to be modes -/
  modes : List OctetText := []
  /-- the arguments from `--` on, which are modes too if there are others -/
  behind : List OctetText := []

namespace Request

def style (name : OctetText) (r : Request) : Request := { r with styles := name :: r.styles }
def device (path : OctetText) (r : Request) : Request := { r with devices := path :: r.devices }
def mode (arg : OctetText) (r : Request) : Request := { r with modes := arg :: r.modes }

end Request

/-- what the letters of an argument ask for; `onward` reads what is left of the arguments -/
def letters (onward : List OctetText → Request) (arg : OctetText) (rest : List OctetText) :
    List Char → Request
  | [] => onward rest
  | 'a' :: cs => (letters onward arg rest cs).style "all"
  | 'g' :: cs => (letters onward arg rest cs).style "save"
  | ['F'] =>
    match rest with
    | [] => Request.mode arg {}
    | path :: rest => (onward rest).device path
  | 'F' :: cs => (onward rest).device (String.ofList cs)
  | _ => (onward rest).mode arg

/-- what arguments ask for, of which there are at most as many as the fuel -/
def read : (fuel : Nat) → List OctetText → Request
  | 0, _ => {}
  | _, [] => {}
  | _, "--" :: rest => { behind := "--" :: rest }
  | fuel + 1, arg :: rest =>
    match arg.toList with
    | '-' :: '-' :: name =>
      let key := name.takeWhile (· != '=')
      let value := name.drop (key.length + 1)
      let hasValue := key.length < name.length
      if key.isEmpty then (read fuel rest).mode arg
      else if key.isPrefixOf "all".toList && !hasValue then (read fuel rest).style "all"
      else if key.isPrefixOf "save".toList && !hasValue then (read fuel rest).style "save"
      else if key.isPrefixOf "file".toList then
        if hasValue then (read fuel rest).device (String.ofList value)
        else match rest with
          | [] => Request.mode arg {}
          | path :: rest => (read fuel rest).device path
      else (read fuel rest).mode arg
    | '-' :: c :: cs => letters (read fuel) arg rest (c :: cs)
    | _ => (read fuel rest).mode arg

end TerminalMode

def stty (args : List OctetText) : Work Unit := do
  if args.contains OptionTable.version then tellVersion
  let request := TerminalMode.read args.length args
  if 1 < request.devices.length then fail "only one device may be specified"
  if request.styles.contains "all" && request.styles.contains "save" then
    fail "the options for verbose and stty-readable output styles are\nmutually exclusive"
  if !request.styles.isEmpty && !request.modes.isEmpty then
    fail "when specifying an output style, modes may not be set"
  if !request.modes.isEmpty then TerminalMode.check (request.modes ++ request.behind)
  match request.devices with
  | [] => fail (named "standard input" ++ ": Inappropriate ioctl for device")
  | path :: _ =>
    match ← ask (.openFile path .read 0) with
    | .error e => fail (named path ++ ": " ++ faultText e)
    | .ok _ => fail (named path ++ ": Inappropriate ioctl for device")

end ShellWorkers.Utility
