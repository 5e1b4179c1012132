import Std.Data.HashMap
import ShellWorkers.Script.Pattern
import ShellWorkers.Utility.Dates
import ShellWorkers.Utility.Differences.Report
import ShellWorkers.Utility.Removal

/-!
# Differences of files

Files and directories that are compared.
-/

/-!
## Comparing files

Two files are compared line by line, and two directories name by name.  Lines can be taken for the
same although they are not, for their letters or their blanks.

* `Sameness`        which lines are the same;
* `compareFiles`    two files;
* `compareTrees`    two directories.
-/

namespace ShellWorkers.Utility.Differences

open Machine
open Text (OctetText)

/-! ### lines that are the same -/

/-- which blanks do not count -/
inductive Blanks where
  | count
  | tabsAsSpaces
  /-- those at the ends of lines do not -/
  | notAtEnds
  /-- how many stand together does not -/
  | notTheirNumber
  | never
deriving DecidableEq

structure Sameness where
  folds : Bool
  blanks : Blanks
  /-- a carriage return at the end of a line does not count -/
  stripsReturns : Bool
  /-- changes of empty lines do not count -/
  dropsEmpty : Bool

namespace Sameness

def isBlank (c : Char) : Bool := c == ' ' || (9 ≤ c.toNat && c.toNat ≤ 13)

/-- a line without blanks at its end -/
def trimmed (cs : List Char) : List Char := (cs.reverse.dropWhile isBlank).reverse

/-- a line with one space for blanks that stand together; `inBlanks` says that one was written -/
def squeezed : (inBlanks : Bool) → List Char → List Char
  | _, [] => []
  | inBlanks, c :: cs =>
    if isBlank c then (if inBlanks then [] else [' ']) ++ squeezed true cs
    else c :: squeezed false cs

/-- a line with spaces for tabs -/
def expanded : (column : Nat) → List Char → List Char
  | _, [] => []
  | column, c :: cs =>
    if c = '\t' then
      let width := 8 - column % 8
      List.replicate width ' ' ++ expanded (column + width) cs
    else c :: expanded (column + 1) cs

/-- what is compared of a line -/
def key (k : Sameness) (line : OctetText) (ended : Bool) : OctetText :=
  let cs := line.toList
  let cs := if k.stripsReturns && cs.getLast? == some '\r' then cs.dropLast else cs
  let cs := match k.blanks with
    | .count => cs
    | .tabsAsSpaces => expanded 0 cs
    | .notAtEnds => trimmed cs
    | .notTheirNumber => squeezed false (trimmed cs)
    | .never => cs.filter (!isBlank ·)
  let cs := if k.folds then cs.map Char.toLower else cs
  let counts := k.blanks = .count || k.blanks = .tabsAsSpaces
  String.ofList (if counts && ended then cs ++ ['\n'] else cs)

/-- whether the lines of a change are all empty -/
def isEmptyChange (k : Sameness) (first second : Source) (c : Change) : Bool :=
  (first.range c.start1 c.count1 ++ second.range c.start2 c.count2).all fun l =>
    let cs := l.1.toList
    let cs := if k.blanks = .count || k.blanks = .tabsAsSpaces then cs else trimmed cs
    cs.isEmpty

/-- numbers of keys, so that equal keys have equal numbers, from one on -/
def number (numbers : Std.HashMap OctetText Nat) : List OctetText →
    List Nat × Std.HashMap OctetText Nat
  | [] => ([], numbers)
  | key :: keys =>
    match numbers[key]? with
    | some n =>
      let (ns, numbers) := number numbers keys
      (n :: ns, numbers)
    | none =>
      let n := numbers.size + 1
      let (ns, numbers) := number (numbers.insert key n) keys
      (n :: ns, numbers)

def keys (k : Sameness) (s : Source) : List OctetText :=
  (s.range 0 s.size).map fun l => k.key l.1 l.2

/-- how many elements at the beginning are the same -/
def commonLength : List (OctetText × Bool) → List (OctetText × Bool) → Nat
  | a :: as, b :: bs => if a == b then commonLength as bs + 1 else 0
  | _, _ => 0

/-- the changes between two texts.  Lines at the beginning and at the end that are the same are left
out, but for some of them. -/
def changes (k : Sameness) (minimal : Bool) (around : Nat) (first second : Source) : List Change :=
  let all1 := first.range 0 first.size
  let all2 := second.range 0 second.size
  let before := commonLength all1 all2 - around
  let rest1 := all1.drop before
  let rest2 := all2.drop before
  let behind :=
    if first.ended != second.ended then 0
    else commonLength rest1.reverse rest2.reverse - around
  let (numbers1, known) := number ∅ (k.keys first)
  let (numbers2, _) := number known (k.keys second)
  let part (ns : List Nat) : Lines := ((ns.drop before).take (ns.length - before - behind)).toArray
  (Differences.changes minimal (part numbers1) (part numbers2)).map fun c =>
    { c with start1 := c.start1 + before, start2 := c.start2 + before }

end Sameness

/-! ### two files -/

/-- what is done -/
structure Plan where
  form : Form
  same : Sameness
  minimal : Bool
  brief : Bool
  /-- files that are the same are told too -/
  tellsSame : Bool
  asText : Bool
  recursive : Bool
  /-- files that are missing are taken for empty -/
  takesMissing : Bool
  excluded : List OctetText
  labels : List OctetText
  /-- the options as they were given -/
  options : List OctetText

/-- a file that is compared; nothing when it is missing -/
structure Operand where
  path : OctetText
  status : Option FileStatus

def Operand.isDirectory (o : Operand) : Bool := o.status.any (·.kind == .directory)

/-- a failure of one comparison is code 2, a difference code 1 -/
def fault (path : OctetText) (e : SystemFault) : Work Nat := do
  note (path ++ ": " ++ faultText e)
  pure 2

/-- the content of a file that is compared -/
def Operand.content (o : Operand) : Work (Except SystemFault OctetText) :=
  if o.status.isNone then pure (.ok "") else readOperand o.path

/-- the status of an operand -/
def statusOf (path : OctetText) : Work (Except SystemFault FileStatus) :=
  if path = "-" then ask (.statusOpen 0) else ask (.status path true)

/-- how the time of a file is written behind its name -/
def labelTime : OctetText := "%Y-%m-%d %H:%M:%S.%N %z"

def labelOf (z : Clock.Zone) (o : Operand) (given : Option OctetText) : OctetText :=
  match given with
  | some label => label
  | none => o.path ++ "\t" ++ formatTime z ((o.status.map (·.modified)).getD 0) labelTime

/-- writes the changes between two texts and answers the code -/
def reportChanges (k : Plan) (nested : Bool) (a b : Operand) (first second : OctetText) : Work Nat := do
  let given1 := Source.ofContent first
  let given2 := Source.ofContent second
  -- the commands of an editor say nothing about ends of lines
  let complete (s : Source) : Source := if k.form.isEdit then { s with ended := true } else s
  let one := complete given1
  let two := complete given2
  let found := k.same.changes k.minimal k.form.around one two
  let counted := if k.same.dropsEmpty then found.filter (!k.same.isEmptyChange one two ·) else found
  if counted.isEmpty && !k.form.isBeside && !k.form.isEdit then pure 0
  else if k.brief then do
    if !counted.isEmpty then putLine ("Files " ++ a.path ++ " and " ++ b.path ++ " differ")
    pure (if counted.isEmpty then 0 else 1)
  else do
    if nested then
      putLine (" ".intercalate ("diff" :: k.options ++ [shellWord a.path, shellWord b.path]))
    let z ← localZone
    put (k.form.write (labelOf z a k.labels.head?, labelOf z b (k.labels[1]?)) one two counted)
    let code := if counted.isEmpty then 0 else 1
    let incomplete := if k.form.isEdit then [(a, given1), (b, given2)].filter (!·.2.ended) else []
    for (o, _) in incomplete do
      note (o.path ++ ": No newline at end of file\n")
    pure (if incomplete.isEmpty then code else 2)

/-- compares two files -/
def compareFiles (k : Plan) (nested : Bool) (a b : Operand) : Work Nat := do
  match ← a.content, ← b.content with
  | .error e, .error f => do
    let _ ← fault a.path e
    fault b.path f
  | .error e, _ => fault a.path e
  | _, .error e => fault b.path e
  | .ok first, .ok second => do
    let binary := !k.asText && (first.contains '\x00' || second.contains '\x00')
    let plain := k.same.blanks = .count && !k.same.folds && !k.same.stripsReturns
    let code ←
      if first == second then
        if k.form.isBeside && !binary then reportChanges k nested a b first second else pure 0
      else if binary || (k.brief && plain && !k.same.dropsEmpty) then do
        putLine ((if k.brief then "Files " else "Binary files ") ++ a.path ++ " and " ++ b.path
          ++ " differ")
        pure (if k.brief then 1 else 2)
      else reportChanges k nested a b first second
    if code = 0 && k.tellsSame then
      putLine ("Files " ++ a.path ++ " and " ++ b.path ++ " are identical")
    pure code

/-! ### directories -/

def kindWords (o : Operand) : OctetText := (o.status.map kindText).getD ""

/-- the names in a directory in order -/
def sortedNames (path : OctetText) : Work (Except SystemFault (List OctetText)) := do
  return (← ask (.names path)).map fun names => names.mergeSort fun a b => !FileTree.precedes b.toList a.toList

/-- names of two directories in order, each with where it is -/
def pairNames : (fuel : Nat) → List OctetText → List OctetText → List (OctetText × Bool × Bool)
  | 0, _, _ => []
  | _ + 1, [], bs => bs.map fun b => (b, false, true)
  | _ + 1, as, [] => as.map fun a => (a, true, false)
  | fuel + 1, a :: as, b :: bs =>
    if a == b then (a, true, true) :: pairNames fuel as bs
    else if FileTree.precedes a.toList b.toList then (a, true, false) :: pairNames fuel as (b :: bs)
    else (b, false, true) :: pairNames fuel (a :: as) bs

/-- the greater one of two codes -/
def worse (a b : Nat) : Nat := if a < b then b else a

/-- how deep directories are compared -/
def depthFuel : Nat := 1000

/-- compares what two paths name below directories -/
def comparePaths (k : Plan) : (fuel : Nat) → (nested : Bool) → Operand → Operand → Work Nat
  | 0, _, _, _ => pure 2
  | fuel + 1, nested, a, b => do
    let isSame := match a.status, b.status with
      | some s, some t => s.id == t.id
      | _, _ => false
    match a.isDirectory || (a.status.isNone && b.isDirectory),
        b.isDirectory || (b.status.isNone && a.isDirectory) with
    | true, true =>
      if isSame then pure 0
      else if nested && !k.recursive then do
        putLine ("Common subdirectories: " ++ a.path ++ " and " ++ b.path)
        pure 0
      else do
        let names (o : Operand) : Work (Except SystemFault (List OctetText)) :=
          if o.status.isNone then pure (.ok []) else sortedNames o.path
        match ← names a, ← names b with
        | .error e, _ => fault a.path e
        | _, .error e => fault b.path e
        | .ok as, .ok bs => do
          let operand (o : Operand) (name : OctetText) (isThere : Bool) :
              Work (Except SystemFault Operand) := do
            let path := joinPath o.path name
            if isThere then return (← ask (.status path true)).map fun s => ⟨path, some s⟩
            else pure (.ok ⟨path, none⟩)
          let compareName (name : OctetText) (inFirst inSecond : Bool) : Work Nat := do
            if (inFirst && inSecond) || k.takesMissing then do
              match ← operand a name inFirst, ← operand b name inSecond with
              | .error e, _ => fault (joinPath a.path name) e
              | _, .error e => fault (joinPath b.path name) e
              | .ok x, .ok y => comparePaths k fuel true x y
            else do
              putLine ("Only in " ++ (if inFirst then a.path else b.path) ++ ": " ++ name)
              pure 1
          let isExcluded (name : OctetText) : Bool :=
            k.excluded.any fun p => (Script.Pattern.ofGlob p.toList).matchesText name.toList
          let pairs := (pairNames (as.length + bs.length + 1) as bs).filter (!isExcluded ·.1)
          pairs.foldlM (fun code (name, inFirst, inSecond) => do
            return worse code (← compareName name inFirst inSecond)) 0
    | false, false =>
      if isSame && !k.tellsSame && !k.form.isBeside then pure 0 else compareFiles k nested a b
    | _, _ => do
      putLine ("File " ++ a.path ++ " is a " ++ kindWords a ++ " while file " ++ b.path ++ " is a "
        ++ kindWords b)
      pure 1

end ShellWorkers.Utility.Differences

/-!
## Differences of files

`diff` writes what has to be changed in one file, or in the files of one directory, to get another
one.
-/

namespace ShellWorkers.Utility

open Machine
open Text (OctetText)

namespace Differences

def options : OptionTable where
  letters := "0123456789BC:D:EF:HI:L:NPS:TU:W:Zabcdefhilnpqrstuvwx:y"
  names := [("normal", .nothing, "normal"), ("brief", .nothing, "q"),
    ("report-identical-files", .nothing, "s"), ("context", .maybe, "C"), ("unified", .maybe, "U"),
    ("ed", .nothing, "e"), ("rcs", .nothing, "n"), ("side-by-side", .nothing, "y"),
    ("width", .value, "W"), ("left-column", .nothing, "left"),
    ("suppress-common-lines", .nothing, "changed"), ("show-c-function", .nothing, "p"),
    ("label", .value, "L"), ("expand-tabs", .nothing, "t"), ("initial-tab", .nothing, "T"),
    ("recursive", .nothing, "r"), ("no-dereference", .nothing, "nofollow"),
    ("new-file", .nothing, "N"), ("exclude", .value, "x"), ("ignore-case", .nothing, "i"),
    ("ignore-tab-expansion", .nothing, "E"), ("ignore-trailing-space", .nothing, "Z"),
    ("ignore-space-change", .nothing, "b"), ("ignore-all-space", .nothing, "w"),
    ("ignore-blank-lines", .nothing, "B"), ("text", .nothing, "a"),
    ("strip-trailing-cr", .nothing, "cr"), ("minimal", .nothing, "d"),
    ("speed-large-files", .nothing, "H"), ("color", .maybe, "color"), ("version", .nothing, "v")]
  strict := false

def misusedBy {α : Type} (message : OctetText) : Work α := misusedTwice 2 message

/-- a number of lines around changes -/
def aroundOf (text : OctetText) : Work Nat := do
  match amount? "" text with
  | .ok n => pure n
  | .error .tooLarge => pure naturalLimit
  | .error .invalid => misusedBy ("invalid context length '" ++ text ++ "'")

/-- the forms that options name -/
def formOptions : List OctetText := ["normal", "c", "C", "u", "U", "e", "n", "y"]

/-- the form that the options ask for; they can name one only -/
def formOf (a : Arguments) : Work Form := do
  let named := a.options.filter fun o => formOptions.contains o.1
  let style (o : OctetText) : OctetText := String.ofList (o.toList.map Char.toLower)
  let digits := String.join ((a.options.map Prod.fst).filter fun o => o.toList.all Char.isDigit)
  let mut greatest := none
  for (option, value) in a.options do
    if ["u", "c", "U", "C"].contains option then
      let n ← match value with
        | some text => aroundOf text
        | none => pure 3
      greatest := some (worse (greatest.getD 0) n)
  let around := if digits.isEmpty then greatest else decimal? digits
  match named with
  | [] => pure .plain
  | (first, _) :: rest => do
    if rest.any fun o => style o.1 ≠ style first then misusedBy "conflicting output style options"
    match style first with
    | "u" => pure (.unified (around.getD 3))
    | "c" => pure (.context (around.getD 3))
    | "e" => pure .edit
    | "n" => if first = "n" then pure .revision else pure .plain
    | "y" => do
      let width ← match a.value? "W" with
        | none => pure 130
        | some text =>
          match decimal? text with
          | some n => if n = 0 then misusedBy ("invalid width '" ++ text ++ "'") else pure n
          | none => misusedBy ("invalid width '" ++ text ++ "'")
      pure (.beside (.ofWidth width (a.has "t")) (a.has "left") (a.has "changed"))
    | _ => pure .plain

/-- the blanks that do not count -/
def blanksOf (a : Arguments) : Blanks :=
  if a.has "w" then .never
  else if a.has "b" then .notTheirNumber
  else if a.has "Z" then .notAtEnds
  else if a.has "E" then .tabsAsSpaces
  else .count

/-- the arguments without operands -/
def givenOptions (args operands : List OctetText) : List OctetText :=
  (operands.foldl (fun (rest : List OctetText) o => rest.reverse.erase o |>.reverse) args).filter
    (· ≠ "--")

/-- the place of an operand below a directory, when the other one is a directory and it is not -/
def besideDirectory (a b : Operand) : Work (Except (OctetText × SystemFault) Operand) := do
  if a.path ≠ "-" && b.isDirectory && !a.isDirectory then do
    let path := joinPath b.path (baseOf a.path)
    return match ← ask (.status path true) with
      | .ok s => .ok ⟨path, some s⟩
      | .error e => .error (path, e)
  else return .ok b

end Differences

open Differences in
def diff (args : List OctetText) : Work Unit := do
  let a ← readArgumentsOr misusedBy Differences.options args
  if a.has "v" then do
    putLine "diff (GNU diffutils) 3.8"
    stop 0
  let form ← formOf a
  let (first, second) ← match a.operands with
    | [first, second] => pure (first, second)
    | [only] => misusedBy ("missing operand after '" ++ only ++ "'")
    | [] => misusedBy ("missing operand after '" ++ (args.getLast?.getD (← get).name) ++ "'")
    | _ :: _ :: extra :: _ => misusedBy ("extra operand '" ++ extra ++ "'")
  let k : Plan := {
    form
    same := ⟨a.has "i", blanksOf a, a.has "cr", a.has "B"⟩
    minimal := a.has "d"
    brief := a.has "q"
    tellsSame := a.has "s"
    asText := a.has "a"
    recursive := a.has "r"
    takesMissing := a.has "N"
    excluded := a.values "x"
    labels := a.values "L"
    options := (givenOptions args a.operands).map shellWord }
  let found1 ← statusOf first
  let found2 ← statusOf second
  let operand (path : OctetText) (found other : Except SystemFault FileStatus) :
      Work (Option Operand) := do
    match found with
    | .ok s => pure (some ⟨path, some s⟩)
    | .error e =>
      if k.takesMissing && e = .notFound && other.isOk then pure (some ⟨path, none⟩)
      else do
        let _ ← fault path e
        pure none
  match ← operand first found1 found2, ← operand second found2 found1 with
  | some x, some y => do
    match ← besideDirectory x y, ← besideDirectory y x with
    | .ok y', .ok x' => setCode (← comparePaths k depthFuel false x' y')
    | .error (path, e), _ => setCode (← fault path e)
    | _, .error (path, e) => setCode (← fault path e)
  | _, _ => setCode 2

end ShellWorkers.Utility
