import ShellWorkers.Utility.Work

/-!
# Options

The arguments of utilities, and lists of operands in files.
-/

/-!
## Options

Options are letters behind a hyphen, or names behind two.  Some take a value: for a letter the
rest of the argument or the next one, for a name what stands behind a sign or the next argument;
where a value can be left out it has to follow at once.  A name can be shortened as long as it
stands for one option only.  Options and operands may be mixed, unless a utility reads no options
behind its first operand; `--` ends the options.
-/

namespace ShellWorkers.Utility

open Text (OctetText)

/-- what an option takes -/
inductive Takes where
  | nothing
  | value
  /-- a value that can be left out -/
  | maybe
  deriving DecidableEq, Repr

/-- the options of a utility: letters, behind which a colon says that they take a value and two
that it can be left out; and names with what they take and the option they stand for -/
structure OptionTable where
  letters : String
  names : List (OctetText × Takes × OctetText)
  /-- operands end the options -/
  strict : Bool

namespace OptionTable

/-- letters alone -/
def ofLetters (letters : String) : OptionTable := ⟨letters, [], false⟩

/-- what a letter takes -/
def takes? (letter : Char) : List Char → Option Takes
  | [] => none
  | c :: ':' :: ':' :: cs => if c = letter then some .maybe else takes? letter cs
  | c :: ':' :: cs => if c = letter then some .value else takes? letter cs
  | c :: cs => if c = letter then some .nothing else takes? letter cs

/-- the option of every utility that asks for its version -/
def version : OctetText := "--version"

/-- the names that a name can stand for -/
def candidates (t : OptionTable) (name : OctetText) : List (OctetText × Takes × OctetText) :=
  let names :=
    if t.names.any (·.1 == "version") then t.names else t.names ++ [("version", .nothing, version)]
  match names.filter (·.1 == name) with
  | [] => names.filter fun n => n.1.startsWith name
  | exact => exact

/-- whether all of some names stand for the same option -/
def isOne (names : List (OctetText × Takes × OctetText)) : Bool :=
  names.all fun n => (names.head?.map (·.2.2)) == some n.2.2

end OptionTable

/-- options in their order with their values, and operands -/
structure Arguments where
  options : List (OctetText × Option OctetText)
  operands : List OctetText

namespace Arguments

def has (a : Arguments) (option : OctetText) : Bool := a.options.any (·.1 == option)

/-- the values of an option in order -/
def values (a : Arguments) (option : OctetText) : List OctetText :=
  (a.options.filter (·.1 == option)).map fun o => o.2.getD ""

/-- the value that was given last -/
def value? (a : Arguments) (option : OctetText) : Option OctetText := (a.values option).getLast?

/-- the last of some options that was given -/
def last? (a : Arguments) (options : List OctetText) : Option OctetText :=
  ((a.options.map Prod.fst).filter options.contains).getLast?

/-- one option more -/
def withOption (option : OctetText) (value? : Option OctetText) (a : Arguments) : Arguments :=
  { a with options := (option, value?) :: a.options }

/-- reads the letters of one argument; `next` reads what is left -/
def readLetters (t : OptionTable) (next : List OctetText → Except OctetText Arguments) :
    List Char → List OctetText → Except OctetText Arguments
  | [], args => next args
  | c :: cs, args =>
    let letter := String.ofList [c]
    match OptionTable.takes? c t.letters.toList with
    | none => .error ("invalid option -- '" ++ letter ++ "'")
    | some .nothing => withOption letter none <$> readLetters t next cs args
    | some .maybe =>
      withOption letter (if cs.isEmpty then none else some (String.ofList cs)) <$> next args
    | some .value =>
      match cs, args with
      | [], [] => .error ("option requires an argument -- '" ++ letter ++ "'")
      | [], value :: args => withOption letter (some value) <$> next args
      | cs, args => withOption letter (some (String.ofList cs)) <$> next args

/-- reads a named option -/
def readNamed (t : OptionTable) (next : List OctetText → Except OctetText Arguments)
    (arg : List Char) (args : List OctetText) : Except OctetText Arguments :=
  let name := String.ofList (arg.takeWhile (· != '='))
  let value? := match arg.drop name.length with
    | [] => none
    | _ :: value => some (String.ofList value)
  match t.candidates name with
  | [] => .error ("unrecognized option '--" ++ String.ofList arg ++ "'")
  | (full, takes, option) :: others =>
    if !OptionTable.isOne ((full, takes, option) :: others) then
      .error ("option '--" ++ String.ofList arg ++ "' is ambiguous; possibilities:"
        ++ String.join (((full, takes, option) :: others).map fun n => " '--" ++ n.1 ++ "'"))
    else
      if option = OptionTable.version && value?.isNone then .ok ⟨[(option, none)], []⟩
      else match takes, value? with
      | .nothing, some _ => .error ("option '--" ++ full ++ "' doesn't allow an argument")
      | .value, none =>
        match args with
        | [] => .error ("option '--" ++ full ++ "' requires an argument")
        | value :: args => withOption option (some value) <$> next args
      | _, value? => withOption option value? <$> next args

/-- reads at most `fuel` arguments -/
def readFrom (t : OptionTable) : (fuel : Nat) → List OctetText → Except OctetText Arguments
  | 0, args => .ok ⟨[], args⟩
  | _ + 1, [] => .ok ⟨[], []⟩
  | fuel + 1, arg :: args =>
    match arg.toList with
    | ['-', '-'] => .ok ⟨[], args⟩
    | '-' :: '-' :: name => readNamed t (readFrom t fuel) name args
    | '-' :: c :: cs => readLetters t (readFrom t fuel) (c :: cs) args
    | _ =>
      if t.strict then .ok ⟨[], arg :: args⟩
      else (fun a => { a with operands := arg :: a.operands }) <$> readFrom t fuel args

def read (t : OptionTable) (args : List OctetText) : Except OctetText Arguments :=
  readFrom t (args.length + 1) args

end Arguments

/-- the collection that a utility belongs to, with its version -/
def collectionOf (utility : OctetText) : OctetText :=
  match utility with
  | "cmp" => "(GNU diffutils) 3.8"
  | "diff" => "(GNU diffutils) 3.8"
  | "dd" => "(coreutils) 9.1"
  | "rev" => "from util-linux 2.38.1"
  | _ => "(GNU coreutils) 9.1"

/-- tells the version of a utility and ends it -/
def tellVersion {α : Type} : Work α := do
  let name := (((← get).name.splitOn "/").getLast?).getD ""
  putLine (name ++ " " ++ collectionOf name)
  stop 0

/-- reads arguments, or complains about them -/
def readArgumentsOr (complain : OctetText → Work Arguments) (t : OptionTable)
    (args : List OctetText) : Work Arguments :=
  match Arguments.read t args with
  | .ok a => if a.has OptionTable.version then tellVersion else pure a
  | .error message => complain message

/-- reads arguments, or ends the utility with a code -/
def readArguments (t : OptionTable) (code : Nat) (args : List OctetText) : Work Arguments :=
  readArgumentsOr (misused code) t args

/-- a word among some that an argument can be, where those of a group mean the same: the first one
of its group.  It can be shortened as long as it stands for one group only.  Complaints name what
the argument is for -/
def chooseWord (purpose : OctetText) (groups : List (List OctetText)) (word : OctetText) :
    Work OctetText := do
  let fitting := groups.filter fun names => names.any (·.startsWith word)
  match groups.find? (·.contains word), fitting with
  | some names, _ => pure (names.head?.getD word)
  | none, [names] => pure (names.head?.getD word)
  | none, fitting => do
    note ((if fitting.isEmpty then "invalid" else "ambiguous") ++ " argument " ++ quoted word
      ++ " for " ++ quoted purpose)
    putMessage "Valid arguments are:\n"
    groups.forM fun names => putMessage ("  - " ++ ", ".intercalate (names.map quoted) ++ "\n")
    putMessage ("Try '" ++ (← get).name ++ " --help' for more information.\n")
    stop 1

/-- an operand more than a utility takes -/
def extraOperand {α : Type} (operand : OctetText) : Work α :=
  misused 1 ("extra operand " ++ quoted operand)

def missingOperand {α : Type} : Work α := misused 1 "missing operand"

/-- one operand is missing behind another -/
def missingAfter {α : Type} (operand : OctetText) : Work α :=
  misused 1 ("missing operand after " ++ quoted operand)

end ShellWorkers.Utility

/-!
## Lists of operands in files

A utility can read the names of its operands from a file, in which each ends with a zero octet.
-/

namespace ShellWorkers.Utility

open Text (OctetText)

/-- the names that a file holds, in which what is no name is a complaint; there must be no
operands beside them -/
def namesListed (a : Arguments) (path : OctetText) : Work (List (Except OctetText OctetText)) := do
  match a.operands with
  | extra :: _ => do
    note ("extra operand " ++ quoted extra)
    putMessage "file operands cannot be combined with --files0-from\n"
    putMessage ("Try '" ++ (← get).name ++ " --help' for more information.\n")
    stop 1
  | [] => pure ()
  match ← openOperand path with
  | .error e => fail ("cannot open " ++ shellQuoted path ++ " for reading: " ++ faultText e)
  | .ok fd => do
    let content ← readAll fd
    closeOperand path fd
    match content with
    | .error e => pure [.error (named path ++ ": read error: " ++ faultText e)]
    | .ok text => do
      let parts := text.splitOn "\x00"
      let names := if text.endsWith "\x00" || text.isEmpty then parts.dropLast else parts
      pure (names.zipIdx.map fun (name, n) =>
        if name.isEmpty then
          .error (named path ++ ":" ++ toString (n + 1) ++ ": invalid zero-length file name")
        else if path = "-" && name = "-" then
          .error ("when reading file names from stdin, no file name of " ++ quoted name
            ++ " allowed")
        else .ok name)

end ShellWorkers.Utility
