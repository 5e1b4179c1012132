import ShellWorkers.Script.Pattern
import ShellWorkers.Utility.Amounts
import ShellWorkers.Utility.Attributes
import ShellWorkers.Utility.Options

/-!
# What files take

`du` adds up the sizes of files.  A directory is told behind all that it holds, with their sizes;
a file that has several names counts once.  `df` tells how full the file system is that holds them.
-/

namespace ShellWorkers.Utility

open Machine
open Text (OctetText)
open ShellWorkers.Clock (Zone)

/-- what some files take together -/
structure Extent where
  size : Nat
  files : Nat
  /-- the latest change -/
  latest : Option Int

namespace Extent

def zero : Extent := ⟨0, 0, none⟩

def later (a b : Option Int) : Option Int :=
  match a, b with
  | some a, some b => some (if a < b then b else a)
  | a, b => a.or b

def add (a b : Extent) : Extent := ⟨a.size + b.size, a.files + b.files, later a.latest b.latest⟩

end Extent

/-- which sizes are told, and how -/
structure UsagePlan where
  scale : Scale
  /-- the length of files counts, and not the storage they take -/
  apparent : Bool
  /-- files are counted, and not what they take -/
  counts : Bool
  tellsAll : Bool
  depth : Nat
  /-- directories within a directory are left out of its size -/
  separate : Bool
  ending : OctetText
  /-- the least size that is told, or if it is negative the greatest -/
  threshold : Int
  /-- a file counts as often as it is found -/
  repeats : Bool
  /-- even a file with one name may be found twice -/
  suspects : Bool
  followsOperands : Bool
  followsAll : Bool
  excluded : List Script.Pattern
  /-- how the latest change is told -/
  time : Option (Zone × OctetText)

/-- what has been measured: the files seen and what they take, and of the last path what counts for
the directory around it, first its own part and then that of what is below -/
structure Measured where
  seen : List NodeId
  total : Extent
  own : Extent
  below : Extent

namespace UsagePlan

/-- the endings of a path that begin with a name in it, with the path -/
def endingsOf (path : List Char) : List (List Char) :=
  path :: go path
where
  go : List Char → List (List Char)
    | [] => []
    | '/' :: c :: cs => if c = '/' then go (c :: cs) else (c :: cs) :: go (c :: cs)
    | _ :: cs => go cs

def excludes (k : UsagePlan) (path : OctetText) : Bool :=
  (endingsOf path.toList).any fun cs => k.excluded.any fun p => p.matchesText cs

/-- what a file takes by itself -/
def extentOf (k : UsagePlan) (s : FileStatus) : Extent :=
  ⟨if k.apparent then s.size else FileDescription.blocks s * 512, 1, some s.modified⟩

/-- tells an extent under a name -/
def tell (k : UsagePlan) (e : Extent) (name : OctetText) : Work Unit := do
  let amount := if k.counts then e.files else e.size
  let isTold := if k.threshold < 0 then (amount : Int) ≤ -k.threshold
    else k.threshold ≤ (amount : Int)
  if isTold then
    let time := match k.time with
      | some (z, format) => "\t" ++ (e.latest.map (formatTime z · format)).getD ""
      | none => ""
    put (k.scale.write amount ++ time ++ "\t" ++ name ++ k.ending)

/-- measures a path `depth` levels below an operand -/
def measure (k : UsagePlan) : (fuel : Nat) → (depth : Nat) → (path : OctetText) → Measured →
    Work Measured
  | 0, _, _, m => pure { m with own := .zero, below := .zero }
  | fuel + 1, depth, path, m => do
    let nothing : Measured := { m with own := .zero, below := .zero }
    if k.excludes path then pure nothing
    else
      let follows := k.followsAll || (k.followsOperands && depth = 0)
      match ← ask (.status path follows) with
      | .error e => do
        let isDangling := follows && e = .notFound && (← ask (.status path false)).isOk
        warn ("cannot access " ++ shellQuoted path
          ++ (if isDangling then "" else ": " ++ faultText e))
        pure nothing
      | .ok s => do
        let isDirectory := s.kind = .directory
        let isWatched := !k.repeats && (k.suspects || (!isDirectory && 1 < s.nameCount))
        if isWatched && m.seen.contains s.id then pure nothing
        else
          let m := if isWatched then { m with seen := s.id :: m.seen } else m
          let e := k.extentOf s
          if !isDirectory then do
            if k.tellsAll && depth ≤ k.depth || depth = 0 then k.tell e path
            pure { m with total := m.total.add e, own := e, below := .zero }
          else
            let isReadable ← ask (.names path)
            match isReadable with
            | .ok _ => pure ()
            | .error e => warn ("cannot read directory " ++ shellQuoted path ++ ": " ++ faultText e)
            let names ← namesByAge path
            let (inner, m) ← names.foldlM (fun (held, m) name => do
              let m ← measure k fuel (depth + 1) (joinPath path name) m
              pure ((Extent.add held.1 m.own, Extent.add held.2 m.below), m))
              ((Extent.zero, Extent.zero), m)
            let around := e.add inner.1
            if depth ≤ k.depth then
              k.tell (if k.separate then around else around.add inner.2) path
            pure { m with
              total := m.total.add e
              own := if k.separate then .zero else e
              below := inner.1.add inner.2 }

end UsagePlan

/-! ## arguments -/

def duOptions : OptionTable where
  letters := "0abd:chHklmst:xB:DLPSX:"
  names := [("all", .nothing, "a"), ("apparent-size", .nothing, "apparent-size"),
    ("block-size", .value, "--block-size"), ("bytes", .nothing, "b"),
    ("count-links", .nothing, "l"), ("dereference", .nothing, "L"),
    ("dereference-args", .nothing, "D"), ("exclude", .value, "exclude"),
    ("exclude-from", .value, "X"), ("files0-from", .value, "files0-from"),
    ("human-readable", .nothing, "h"), ("inodes", .nothing, "inodes"), ("si", .nothing, "si"),
    ("max-depth", .value, "d"), ("null", .nothing, "0"), ("no-dereference", .nothing, "P"),
    ("one-file-system", .nothing, "x"), ("separate-dirs", .nothing, "S"),
    ("summarize", .nothing, "s"), ("total", .nothing, "c"), ("threshold", .value, "--threshold"),
    ("time", .maybe, "time"), ("time-style", .value, "time-style")]
  strict := false

/-- the scale that options ask for -/
def usageScale (a : Arguments) : Work Scale := do
  let start ← Scale.ofVariables ["DU_BLOCK_SIZE", "BLOCK_SIZE", "BLOCKSIZE"]
  a.options.foldlM (fun scale o => do
    match o.1 with
    | "b" => pure (.ofUnit 1)
    | "h" => pure (.automaticOf 1024)
    | "si" => pure (.automaticOf 1000)
    | "k" => pure (.ofUnit 1024)
    | "m" => pure (.ofUnit (1024 * 1024))
    | "B" => described "-B" (o.2.getD "")
    | "--block-size" => described "--block-size" (o.2.getD "")
    | _ => pure scale) start
where
  described (option text : OctetText) : Work Scale :=
    match Scale.read text with
    | .ok scale => pure scale
    | .error fault => fail (fault.message option text)

/-- a size that may be negative -/
def thresholdOf (option text : OctetText) : Work Int := do
  let (negative, cs) := match text.toList with
    | '-' :: cs => (true, cs)
    | cs => (false, cs)
  match (if negative && cs.head? == some '+' then .error .invalid else Scale.octets? cs) with
  | .error fault => fail (fault.message option text)
  | .ok n =>
    if integerLimit < n then fail (Scale.Fault.message option text .tooLarge)
    else if negative && n = 0 then fail ("invalid --threshold argument '" ++ text ++ "'")
    else pure (if negative then -(n : Int) else n)

/-- the patterns that the lines of a file are -/
def patternLines (text : OctetText) : List OctetText :=
  let isBlank (c : Char) : Bool := c == ' ' || (9 ≤ c.toNat && c.toNat ≤ 13)
  let trimmed (line : OctetText) : OctetText :=
    String.ofList (line.toList.reverse.dropWhile isBlank).reverse
  ((bareLines text).map trimmed).filter (!·.isEmpty)

/-- what options say that is found wrong only when all have been read -/
structure UsageLimits where
  depth : Option Int
  excluded : List OctetText
  isRight : Bool

def usageLimits (a : Arguments) : Work UsageLimits :=
  a.options.foldlM (fun l o => do
    let value := o.2.getD ""
    match o.1 with
    | "d" =>
      match wholeNumber? value with
      | .ok n => pure { l with depth := some n }
      | .error _ => do
        note ("invalid maximum depth " ++ quoted value)
        pure { l with isRight := false }
    | "exclude" => pure { l with excluded := l.excluded ++ [value] }
    | "X" =>
      match ← readOperand value with
      | .ok text => pure { l with excluded := l.excluded ++ patternLines text }
      | .error e => do
        note (named value ++ ": " ++ faultText e)
        pure { l with isRight := false }
    | _ => pure l) ⟨none, [], true⟩

/-- a word on where to find help, which ends the utility -/
def pointToHelp {α : Type} (code : Nat) : Work α := do
  putMessage ("Try '" ++ (← get).name ++ " --help' for more information.\n")
  stop code

/-- how the latest change is told -/
def usageTime (a : Arguments) : Work (Option (Zone × OctetText)) := do
  match (a.options.filter (·.1 == "time")).getLast? with
  | none => pure none
  | some o => do
    if let some word := o.2 then
      let _ ← chooseWord "--time" [["atime", "access", "use"], ["ctime", "status"]] word
    let style ← match a.value? "time-style" with
      | some style => pure style
      | none =>
        match (← get).vars.lookup "TIME_STYLE" with
        | none => pure "long-iso"
        | some style =>
          if style = "locale" then pure "long-iso"
          else if style.startsWith "+" then pure ((style.splitOn "\n").head?.getD style)
          else pure (((style.splitOn "posix-").getLast?).getD style)
    let format ← if style.startsWith "+" then pure (String.ofList (style.toList.drop 1))
      else
        match ← chooseWord "time style" [["full-iso"], ["long-iso"], ["iso"]] style with
        | "full-iso" => pure "%Y-%m-%d %H:%M:%S.%N %z"
        | "iso" => pure "%Y-%m-%d"
        | _ => pure "%Y-%m-%d %H:%M"
    pure (some (← localZone, format))

def usagePlan (a : Arguments) : Work UsagePlan := do
  let scale ← usageScale a
  let threshold ← a.options.foldlM (fun n o => do
    match o.1 with
    | "t" => thresholdOf "-t" (o.2.getD "")
    | "--threshold" => thresholdOf "--threshold" (o.2.getD "")
    | _ => pure n) (0 : Int)
  let limits ← usageLimits a
  if !limits.isRight then pointToHelp 1
  let summarizes := a.has "s"
  if summarizes && a.has "a" then misused 1 "cannot both summarize and show all entries"
  match limits.depth.filter fun _ => summarizes with
  | some 0 => note "warning: summarizing is the same as using --max-depth=0"
  | some n => misused 1 ("warning: summarizing conflicts with --max-depth=" ++ toString n)
  | none => pure ()
  let apparent := a.has "b" || a.has "apparent-size"
  if a.has "inodes" && apparent then
    note "warning: options --apparent-size and -b are ineffective with --inodes"
  let links := a.last? ["D", "H", "L", "P"]
  pure {
    scale := if a.has "inodes" then { scale with unit := 1 } else scale
    apparent := apparent
    counts := a.has "inodes"
    tellsAll := a.has "a"
    depth := if summarizes then 0
      else ((limits.depth.map Int.toNat).getD FileTree.pathLimit)
    separate := a.has "S"
    ending := if a.has "0" then "\x00" else "\n"
    threshold := threshold
    repeats := a.has "l"
    suspects := 1 < a.operands.length || a.has "files0-from" || links == some "L"
    followsOperands := links == some "D" || links == some "H"
    followsAll := links == some "L"
    excluded := limits.excluded.map fun text => Script.Pattern.ofGlob text.toList
    time := ← usageTime a }

def du (args : List OctetText) : Work Unit := do
  let a ← readArguments duOptions 1 args
  let k ← usagePlan a
  let paths ← match a.value? "files0-from" with
    | some path => namesListed a path
    | none => pure ((if a.operands.isEmpty then ["."] else a.operands).map fun path =>
      if path.isEmpty then .error "invalid zero-length file name" else .ok path)
  let m ← paths.foldlM (fun (m : Measured) path? =>
    match path? with
    | .error message => do
      warn message
      pure m
    | .ok path => k.measure FileTree.pathLimit 0 path m) ⟨[], .zero, .zero, .zero⟩
  if a.has "c" then k.tell m.total "total"

/-! ## file systems -/

/-- what a table of file systems tells -/
inductive SystemField where
  | source
  | kind
  | nodes
  | usedNodes
  | freeNodes
  | nodeShare
  | size
  | used
  | free
  | share
  | file
  | target
deriving DecidableEq

namespace SystemField

/-- the names of all fields -/
def names : List (OctetText × SystemField) :=
  [("source", .source), ("fstype", .kind), ("itotal", .nodes), ("iused", .usedNodes),
    ("iavail", .freeNodes), ("ipcent", .nodeShare), ("size", .size), ("used", .used),
    ("avail", .free), ("pcent", .share), ("file", .file), ("target", .target)]

/-- how wide a column is at least -/
def width (f : SystemField) : Nat :=
  match f with
  | .source => 14
  | .kind => 4
  | .nodeShare => 4
  | .share => 4
  | .file => 0
  | .target => 0
  | _ => 5

/-- whether texts stand at the left of a column -/
def isText (f : SystemField) : Bool := [source, kind, file, target].contains f

/-- the fields that a list names -/
def ofList (text : OctetText) : Work (List SystemField) :=
  (text.splitOn ",").foldlM (fun fields name =>
    match names.lookup name with
    | none => misused 1 ("option --output: field " ++ quoted name ++ " unknown")
    | some f =>
      if fields.contains f then
        misused 1 ("option --output: field " ++ quoted name ++ " used more than once")
      else pure (fields ++ [f])) []

end SystemField

/-- the octets that a file system has, and those that are taken -/
def systemSize : Nat := 62725623808
def systemUsed : Nat := 20480000000

/-- the files that a file system can hold, and those that it holds -/
def systemNodes : Nat := 3907584
def systemUsedNodes : Nat := 402653

/-- how a table of file systems is written -/
structure SystemTable where
  scale : Scale
  fields : List SystemField
  portable : Bool
  inodes : Bool
  named : Bool

namespace SystemTable

/-- the unit of sizes in the base that makes it short -/
def unitText (t : SystemTable) : OctetText :=
  let unit := t.scale.unit
  let rec reduce : (fuel q1000 q1024 : Nat) → Bool × Bool
    | 0, _, _ => (false, false)
    | fuel + 1, q1000, q1024 =>
      match q1000 % 1000 == 0, q1024 % 1024 == 0 with
      | true, true => reduce fuel (q1000 / 1000) (q1024 / 1024)
      | by1000, by1024 => (by1000, by1024)
  let base := match reduce 64 unit unit with
    | (false, true) => 1024
    | (true, false) => 1000
    | _ => if t.scale.showsUnit && t.scale.base = 1024 then 1024 else 1000
  let (digits, power) := Scale.automaticText base unit
  let digits := if digits.endsWith ".0" then String.ofList (digits.toList.take (digits.length - 2))
    else digits
  digits ++ Scale.letterText base power ++ (if base = 1000 then "B" else "")

def heading (t : SystemTable) (f : SystemField) : OctetText :=
  match f with
  | .source => "Filesystem"
  | .kind => "Type"
  | .nodes => "Inodes"
  | .usedNodes => "IUsed"
  | .freeNodes => "IFree"
  | .nodeShare => "IUse%"
  | .size =>
    if t.scale.automatic then "Size"
    else (if t.portable then toString t.scale.unit else t.unitText) ++ "-blocks"
  | .used => "Used"
  | .free => if t.scale.automatic || t.named then "Avail" else "Available"
  | .share => if t.portable && !t.scale.automatic then "Capacity" else "Use%"
  | .file => "File"
  | .target => "Mounted on"

/-- a part of a whole in hundredths, where what is over counts -/
def shareText (part whole : Nat) : OctetText := toString ((part * 100 + whole - 1) / whole) ++ "%"

/-- what is told of the file system that holds a file -/
def cell (t : SystemTable) (file : OctetText) (f : SystemField) : OctetText :=
  let count (n : Nat) : OctetText := if t.scale.automatic then t.scale.write n else toString n
  match f with
  | .source => "overlay"
  | .kind => "overlay"
  | .nodes => count systemNodes
  | .usedNodes => count systemUsedNodes
  | .freeNodes => count (systemNodes - systemUsedNodes)
  | .nodeShare => shareText systemUsedNodes systemNodes
  | .size => t.scale.write systemSize
  | .used => t.scale.write systemUsed
  | .free => t.scale.write (systemSize - systemUsed)
  | .share => shareText systemUsed systemSize
  | .file => file
  | .target => "/"

/-- what is told of all file systems together -/
def totalCell (t : SystemTable) (f : SystemField) : OctetText :=
  match f with
  | .source => "total"
  | .target => if t.fields.contains .source then "-" else "total"
  | .kind => "-"
  | .file => "-"
  | f => t.cell "-" f

/-- writes rows in columns that are wide enough -/
def write (t : SystemTable) (rows : List (List OctetText)) : Work Unit := do
  let widths := t.fields.zipIdx.map fun (f, i) =>
    (rows.map fun row => (row[i]?.map String.length).getD 0).foldl
      (fun n m => if n < m then m else n) f.width
  for row in rows do
    let cells := (row.zip (t.fields.zip widths)).zipIdx.map fun ((text, f, width), i) =>
      let fill := String.ofList (List.replicate (width - text.length) ' ')
      if !f.isText then fill ++ text
      else if i + 1 = t.fields.length then text
      else text ++ fill
    putLine (" ".intercalate cells)

end SystemTable

def dfOptions : OptionTable where
  letters := "aB:iF:hHklmPTt:vx:"
  names := [("all", .nothing, "a"), ("block-size", .value, "--block-size"),
    ("inodes", .nothing, "i"), ("human-readable", .nothing, "h"), ("si", .nothing, "H"),
    ("local", .nothing, "l"), ("output", .maybe, "output"), ("portability", .nothing, "P"),
    ("print-type", .nothing, "T"), ("sync", .nothing, "sync"), ("no-sync", .nothing, "sync"),
    ("total", .nothing, "total"), ("type", .value, "t"), ("exclude-type", .value, "x")]
  strict := false

/-- the scale of sizes -/
def systemScale (a : Arguments) : Work Scale := do
  let start ← if a.has "P" then
      pure (Scale.ofUnit (if ((← get).vars.lookup "POSIXLY_CORRECT").isSome then 512 else 1024))
    else Scale.ofVariables ["DF_BLOCK_SIZE", "BLOCK_SIZE", "BLOCKSIZE"]
  a.options.foldlM (fun scale o => do
    match o.1 with
    | "h" => pure (Scale.automaticOf 1024)
    | "H" => pure (Scale.automaticOf 1000)
    | "k" => pure (Scale.ofUnit 1024)
    | "m" => pure (Scale.ofUnit 1048576)
    | option =>
      if option = "B" || option = "--block-size" then
        match Scale.read (o.2.getD "") with
        | .ok scale => pure scale
        | .error fault =>
          fail (fault.message (if option = "B" then "-B" else option) (o.2.getD ""))
      else pure scale) start

def df (args : List OctetText) : Work Unit := do
  let a ← readArguments dfOptions 1 args
  let scale ← systemScale a
  if a.has "output" then
    for option in ["i", "P", "T"] do
      if a.has option then
        misused 1 ("options -" ++ option ++ " and --output are mutually exclusive")
  let named ← match a.values "output" with
    | [] => pure []
    | lists => SystemField.ofList (",".intercalate
        (lists.map fun list => if list.isEmpty then
          ",".intercalate (SystemField.names.map Prod.fst) else list))
  let chosen := a.values "t" ++ a.values "F"
  let both := chosen.filter (a.values "x").contains
  for kind in both do note ("file system type " ++ quoted kind ++ " both selected and excluded")
  if !both.isEmpty then stop 1
  let fields : List SystemField :=
    if a.has "output" then named
    else [.source] ++ (if a.has "T" then [.kind] else [])
      ++ (if a.has "i" then [.nodes, .usedNodes, .freeNodes, .nodeShare]
        else [.size, .used, .free, .share]) ++ [.target]
  let t : SystemTable := ⟨scale, fields, a.has "P" && !a.has "output", a.has "i", a.has "output"⟩
  let files ← a.operands.filterM fun path => do
    match ← ask (.status path true) with
    | .ok _ => pure true
    | .error e => do
      warn (Utility.named path ++ ": " ++ faultText e)
      pure false
  let fits := (chosen.isEmpty || chosen.contains "overlay")
    && !(a.values "x").contains "overlay"
  let files := if !fits then [] else if a.operands.isEmpty then ["-"] else files
  if files.isEmpty then
    if (← get).code = 0 then fail "no file systems processed"
  else
    t.write (fields.map t.heading :: files.map (fun file => fields.map (t.cell file))
      ++ (if a.has "total" then [fields.map t.totalCell] else []))

end ShellWorkers.Utility
