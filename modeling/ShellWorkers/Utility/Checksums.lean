import ShellWorkers.Digest
import ShellWorkers.Utility.Amounts

/-!
# Check sums of files

`md5sum` and its relatives write the digests of their operands, or check files against lines that
they have written.  Such a line holds the digest and the name of the file, or the name of the
method, the name of the file and the digest.  `cksum` and `sum` write numbers and sizes.

* `Method`            a digest with its name;
* `Listing.read?`     a line that says what the digest of a file is;
* `checkList`         the check of a list of lines.
-/

namespace ShellWorkers.Utility

open Machine
open Text (OctetText)

namespace Checksums

/-- a digest, the name of its method and how many octets it has -/
structure Method where
  tag : OctetText
  size : Nat
  /-- the digest can have fewer octets -/
  resizes : Bool
  /-- the digest with so many octets -/
  digest : (size : Nat) → List Nat → List Nat

namespace Method

def text (m : Method) (content : OctetText) : OctetText :=
  Digest.hexText (m.digest m.size (Digest.octetsOf content))

/-- a method whose digests have one size only -/
def fixed (tag : OctetText) (size : Nat) (digest : List Nat → List Nat) : Method :=
  ⟨tag, size, false, fun _ => digest⟩

end Method

def md5 : Method := .fixed "MD5" 16 Digest.md5
def sha1 : Method := .fixed "SHA1" 20 Digest.sha1
def sha224 : Method := .fixed "SHA224" 28 Digest.sha224
def sha256 : Method := .fixed "SHA256" 32 Digest.sha256
def sha384 : Method := .fixed "SHA384" 48 Digest.sha384
def sha512 : Method := .fixed "SHA512" 64 Digest.sha512
def blake2b : Method := ⟨"BLAKE2b", 64, true, Digest.blake⟩
def sm3 : Method := .fixed "SM3" 32 Digest.sm3

def methods : List Method := [md5, sha1, sha224, sha256, sha384, sha512, blake2b, sm3]

/-- the name of a method, with the bits of a digest that is shorter than others -/
def Method.fullTag (m : Method) : OctetText :=
  if m.resizes && m.size ≠ 64 then m.tag ++ "-" ++ toString (8 * m.size) else m.tag

/-! ## lines -/

/-- whether a name cannot stand in a line as it is -/
def needsEscape (name : OctetText) : Bool :=
  name.toList.any fun c => c == '\\' || c == '\n' || c == '\r'

def escapeName (name : OctetText) : OctetText :=
  String.ofList (name.toList.flatMap fun c =>
    if c = '\\' then ['\\', '\\'] else if c = '\n' then ['\\', 'n']
    else if c = '\r' then ['\\', 'r'] else [c])

/-- reads an escaped name -/
def unescapeName : List Char → Option (List Char)
  | [] => some []
  | '\\' :: 'n' :: cs => (unescapeName cs).map ('\n' :: ·)
  | '\\' :: 'r' :: cs => (unescapeName cs).map ('\r' :: ·)
  | '\\' :: '\\' :: cs => (unescapeName cs).map ('\\' :: ·)
  | '\\' :: _ => none
  | c :: cs => (unescapeName cs).map (c :: ·)

/-- how lines are written -/
structure LineForm where
  tagged : Bool
  /-- a star stands before the name -/
  starred : Bool
  /-- lines end with a null octet, and names are not escaped -/
  nullEnds : Bool

def LineForm.line (f : LineForm) (m : Method) (name digest : OctetText) : OctetText :=
  let escaped := !f.nullEnds && needsEscape name
  let shown := if escaped then escapeName name else name
  (if escaped then "\\" else "")
    ++ (if f.tagged then m.fullTag ++ " (" ++ shown ++ ") = " ++ digest
      else digest ++ (if f.starred then " *" else "  ") ++ shown)
    ++ (if f.nullEnds then "\x00" else "\n")

/-- what a line says: the method, the digest and the file -/
structure Listing where
  method : Method
  digest : OctetText
  name : OctetText

namespace Listing

def isHex (c : Char) : Bool :=
  c.isDigit || (97 ≤ c.toLower.toNat && c.toLower.toNat ≤ 102)

/-- the name behind a digest or before it -/
def finish (m : Method) (escaped : Bool) (digest name : List Char) : Option Listing := do
  let name ← if escaped then unescapeName name else some name
  if digest.length = 2 * m.size && digest.all isHex && !name.isEmpty then
    some ⟨m, String.ofList (digest.map Char.toLower), String.ofList name⟩
  else none

/-- a name in brackets and a digest -/
def tagged? (m : Method) (escaped : Bool) (cs : List Char) : Option Listing := do
  let behind := cs.reverse.takeWhile (· != ')')
  let name := cs.take (cs.length - behind.length - 1)
  if behind.length = cs.length then none
  else
    match behind.reverse.dropWhile (fun c => c == ' ' || c == '\t') with
    | '=' :: rest =>
      finish m escaped (rest.dropWhile fun c => c == ' ' || c == '\t') name
    | _ => none

/-- the size that stands behind the name of a method, and the rest -/
def sized? (m : Method) (cs : List Char) : Option (Method × List Char) :=
  match m.resizes, cs with
  | true, '-' :: cs =>
    match leadingNumber cs with
    | (some bits, rest) =>
      if bits ≠ 0 && bits % 8 = 0 && bits / 8 ≤ m.size then some ({ m with size := bits / 8 }, rest)
      else none
    | (none, _) => none
  | _, cs => some (m, cs)

/-- the method of a digest that stands first in a line; its digits tell its size -/
def measured? (m : Method) (cs : List Char) : Option Method :=
  if !m.resizes then some m
  else
    let count := (cs.takeWhile isHex).length
    if count < 2 || count % 2 ≠ 0 || 2 * m.size < count then none
    else some { m with size := count / 2 }

/-- a line; without a method it has to name one -/
def read? (known : Option Method) (line : List Char) : Option Listing := do
  let cs := line.dropWhile fun c => c == ' ' || c == '\t'
  let (escaped, cs) := match cs with
    | '\\' :: rest => (true, rest)
    | cs => (false, cs)
  let allowed := match known with
    | some m => [m]
    | none => methods
  match allowed.find? fun m => m.tag.toList.isPrefixOf cs with
  | some m => do
    let (m, rest) ← sized? m (cs.drop m.tag.length)
    match rest with
    | ' ' :: '(' :: rest => tagged? m escaped rest
    | '(' :: rest => tagged? m escaped rest
    | _ => none
  | none => do
    let m ← measured? (← known) cs
    let digest := cs.take (2 * m.size)
    match cs.drop (2 * m.size) with
    | blank :: mark :: name =>
      if blank != ' ' && blank != '\t' then none
      else if (mark = ' ' || mark = '*') && !name.isEmpty then finish m escaped digest name
      else finish m escaped digest (mark :: name)
    | _ => none

end Listing

/-! ## checking -/

structure CheckStyle where
  method : Option Method
  quiet : Bool
  status : Bool
  strict : Bool
  warns : Bool
  ignoresMissing : Bool

/-- how many lines were of each kind -/
structure Findings where
  proper : Nat
  improper : Nat
  unread : Nat
  different : Nat
  agreed : Nat

/-- a number of things and what is wrong with them -/
def countedText (n : Nat) (one several : OctetText) : OctetText :=
  "WARNING: " ++ toString n ++ " " ++ if n = 1 then one else several

/-- checks the file of a line -/
def checkFile (k : CheckStyle) (l : Listing) (f : Findings) : Work Findings := do
  let f := { f with proper := f.proper + 1 }
  let shown := if needsEscape l.name then "\\" ++ escapeName l.name else l.name
  match ← readOperand l.name with
  | .error e =>
    if k.ignoresMissing && e = .notFound then pure f
    else do
      note (named l.name ++ ": " ++ faultText e)
      if !k.status then putLine (shown ++ ": FAILED open or read")
      pure { f with unread := f.unread + 1 }
  | .ok content =>
    if l.method.text content == l.digest then do
      if !k.status && !k.quiet then putLine (shown ++ ": OK")
      pure { f with agreed := f.agreed + 1 }
    else do
      if !k.status then putLine (shown ++ ": FAILED")
      pure { f with different := f.different + 1 }

/-- checks the files of a list -/
def checkList (k : CheckStyle) (path : OctetText) : Work Unit := do
  let shown := if path = "-" then quoted "standard input" else named path
  match ← readOperand path with
  | .error e =>
    warn (shown ++ ": " ++ if e = .isDirectory then "read error" else faultText e)
  | .ok text => do
    let mut f : Findings := ⟨0, 0, 0, 0, 0⟩
    let mut number := 0
    for line in bareLines text do
      number := number + 1
      let cs := if line.endsWith "\r" then line.toList.dropLast else line.toList
      if cs.head? != some '#' && !cs.isEmpty then
        match Listing.read? k.method cs with
        | some l => f ← checkFile k l f
        | none => do
          f := { f with improper := f.improper + 1 }
          if k.warns then
            let tag := match k.method with
              | some m => m.tag ++ " "
              | none => ""
            note (shown ++ ": " ++ toString number ++ ": improperly formatted " ++ tag
              ++ "checksum line")
    if f.proper = 0 then warn (shown ++ ": no properly formatted checksum lines found")
    else do
      if !k.status then
        if f.improper ≠ 0 then
          note (countedText f.improper "line is improperly formatted" "lines are improperly formatted")
        if f.unread ≠ 0 then
          note (countedText f.unread "listed file could not be read" "listed files could not be read")
        if f.different ≠ 0 then
          note (countedText f.different "computed checksum did NOT match"
            "computed checksums did NOT match")
        if k.ignoresMissing && f.agreed = 0 then note (shown ++ ": no file was verified")
      if f.unread ≠ 0 || f.different ≠ 0 || (k.strict && f.improper ≠ 0)
          || (k.ignoresMissing && f.agreed = 0) then setCode 1

/-! ## arguments -/

def names : List (OctetText × Takes × OctetText) :=
  [("binary", .nothing, "b"), ("check", .nothing, "c"), ("ignore-missing", .nothing, "missing"),
    ("quiet", .nothing, "quiet"), ("status", .nothing, "status"), ("strict", .nothing, "strict"),
    ("tag", .nothing, "tag"), ("text", .nothing, "t"), ("warn", .nothing, "w"),
    ("zero", .nothing, "z")]

def options : OptionTable := ⟨"bctwz", names, false⟩

def sizedOptions : OptionTable := ⟨"bctwzl:", names ++ [("length", .value, "l")], false⟩

def cksumOptions : OptionTable where
  letters := "a:bctwzl:"
  names := names ++ [("algorithm", .value, "a"), ("untagged", .nothing, "untagged"),
    ("length", .value, "l"), ("debug", .nothing, "debug")]
  strict := false

/-- options that do not go together -/
def checkOptions (a : Arguments) (tagged : Bool) : Work Unit := do
  if a.has "tag" && a.has "t" then misused 1 "--tag does not support --text mode"
  if a.has "z" && a.has "c" then
    misused 1 "the --zero option is not supported when verifying checksums"
  if tagged && a.has "c" then
    misused 1 "the --tag option is meaningless when verifying checksums"
  if (a.has "b" || a.has "t") && a.has "c" then
    misused 1 "the --binary and --text options are meaningless when verifying checksums"
  for (option, name) in [("missing", "ignore-missing"), ("status", "status"), ("w", "warn"),
      ("quiet", "quiet"), ("strict", "strict")] do
    if a.has option && !a.has "c" then
      misused 1 ("the --" ++ name ++ " option is meaningful only when verifying checksums")

/-- does something with the content of each operand -/
def eachContent (paths : List OctetText) (body : OctetText → OctetText → Work Unit) : Work Unit := do
  for path in paths do
    match ← readOperand path with
    | .error e => warn (named path ++ ": " ++ faultText e)
    | .ok content => body path content

/-- writes digests, or checks them -/
def run (method : Method) (known : Option Method) (tagged : Bool) (a : Arguments) : Work Unit := do
  let paths := inputOperands a.operands
  if a.has "c" then
    let last := a.last? ["status", "quiet", "w"]
    let k : CheckStyle := ⟨known, last == some "quiet", last == some "status", a.has "strict",
      last == some "w", a.has "missing"⟩
    for path in paths do
      checkList k path
  else
    eachContent paths fun path content =>
      put ((LineForm.mk tagged (a.last? ["b", "t"] == some "b") (a.has "z")).line method path
        (method.text content))

/-- a method with the size that an option gives in bits -/
def sizedMethod (m : Method) (a : Arguments) : Work Method := do
  let sizes ← (a.values "l").mapM fun text => do
    match amount? "" text with
    | .error .invalid => fail ("invalid length: " ++ quoted text)
    | .error .tooLarge =>
      fail ("invalid length: " ++ quoted text ++ ": Value too large for defined data type")
    | .ok bits => do
      if bits % 8 ≠ 0 then do
        note ("invalid length: " ++ quoted text)
        fail "length is not a multiple of 8"
      pure (bits / 8, text)
  match sizes.getLast? with
  | none => pure m
  | some (size, text) => do
    if size ≠ 0 && !m.resizes then
      fail "--length is only supported with --algorithm=blake2b"
    if m.size < size then do
      note ("invalid length: " ++ quoted text)
      fail ("maximum digest length for " ++ quoted m.tag ++ " is " ++ toString (8 * m.size)
        ++ " bits")
    pure (if size = 0 then m else { m with size := size })

/-- the digests of a method -/
def digests (m : Method) (args : List OctetText) : Work Unit := do
  let a ← readArguments options 1 args
  checkOptions a (a.has "tag")
  run m (some m) (a.has "tag") a

/-! ## numbers -/

/-- how many units of a size a text fills -/
def unitsOf (size : Nat) (text : OctetText) : Nat := (text.length + size - 1) / size

/-- a number with characters before it, up to a width -/
def padWith (c : Char) (width : Nat) (n : Nat) : OctetText :=
  let digits := toString n
  String.ofList (List.replicate (width - digits.length) c) ++ digits

/-- the name of a file behind its numbers; the input has none when there are no operands -/
def nameBehind (a : Arguments) (path : OctetText) : OctetText :=
  if a.operands.isEmpty then "" else " " ++ path

def writeCyclic (a : Arguments) : Work Unit :=
  eachContent (inputOperands a.operands) fun path content =>
    putLine (toString (Digest.cyclicCheck (Digest.octetsOf content)) ++ " "
      ++ toString content.length ++ nameBehind a path)

def writeRotated (a : Arguments) : Work Unit :=
  eachContent (inputOperands a.operands) fun path content =>
    putLine (padWith '0' 5 (Digest.rotatedSum (Digest.octetsOf content)) ++ " "
      ++ padWith ' ' 5 (unitsOf 1024 content) ++ nameBehind a path)

def writeFolded (a : Arguments) : Work Unit :=
  eachContent (inputOperands a.operands) fun path content =>
    putLine (toString (Digest.foldedSum (Digest.octetsOf content)) ++ " "
      ++ toString (unitsOf 512 content) ++ nameBehind a path)

def sumOptions : OptionTable := ⟨"rs", [("sysv", .nothing, "s")], false⟩

/-- the names of all methods of `cksum` -/
def methodNames : List OctetText :=
  ["bsd", "sysv", "crc", "md5", "sha1", "sha224", "sha256", "sha384", "sha512", "blake2b", "sm3"]

end Checksums

open Checksums

def md5sum : List OctetText → Work Unit := digests md5
def sha1sum : List OctetText → Work Unit := digests sha1
def sha224sum : List OctetText → Work Unit := digests sha224
def sha256sum : List OctetText → Work Unit := digests sha256
def sha384sum : List OctetText → Work Unit := digests sha384
def sha512sum : List OctetText → Work Unit := digests sha512

def b2sum (args : List OctetText) : Work Unit := do
  let a ← readArguments sizedOptions 1 args
  let m ← sizedMethod blake2b a
  checkOptions a (a.has "tag")
  run m (some blake2b) (a.has "tag") a

def sum (args : List OctetText) : Work Unit := do
  let a ← readArguments sumOptions 1 args
  if a.last? ["r", "s"] == some "s" then writeFolded a else writeRotated a

def cksum (args : List OctetText) : Work Unit := do
  let a ← readArguments cksumOptions 1 args
  let name := (a.value? "a").getD "crc"
  if !methodNames.contains name then
    misused 1 ("invalid argument " ++ quoted name ++ " for '--algorithm'\nValid arguments are:"
      ++ String.join (methodNames.map fun n => "\n  - " ++ quoted n))
  let method := methods.find? fun m => m.tag.map Char.toLower == name
  let tagged := !a.has "untagged"
  checkOptions a (a.has "tag")
  if a.has "c" then
    if method.isNone && a.has "a" then
      fail "--check is not supported with --algorithm=\x7bbsd,sysv,crc\x7d"
    run (method.getD md5) method tagged a
  else
    match method, name with
    | some m, _ => do
      let m ← sizedMethod m a
      run m (some m) tagged a
    | none, "bsd" => writeRotated a
    | none, "sysv" => writeFolded a
    | none, _ => writeCyclic a

end ShellWorkers.Utility
