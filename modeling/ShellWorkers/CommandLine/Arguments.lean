/-!
# The arguments of the command line

An argument is a word, or starts with a hyphen and sets switches: one by its long name, or several
by letters.  The value of a switch stands behind an equals sign, behind its letter, or in the next
argument, which then must not look like a switch.  `--` ends the switches.

Arguments are read from left to right, and the first that is refused decides: no switch may be
given twice, and each command takes one word, its recipe.
-/

namespace ShellWorkers.CommandLine

inductive Switch where
  | verbose
  | verify
  | dir
  | threads
  | timeout
  | help
  | version
  deriving DecidableEq, Repr

namespace Switch

def all : List Switch := [verbose, verify, dir, threads, timeout, help, version]

def longName : Switch → String
  | verbose => "verbose"
  | verify => "verify"
  | dir => "dir"
  | threads => "threads"
  | timeout => "timeout"
  | help => "help"
  | version => "version"

def letter? : Switch → Option Char
  | verbose => some 'v'
  | verify => none
  | dir => some 'd'
  | threads => some 'j'
  | timeout => none
  | help => some 'h'
  | version => some 'V'

def takesValue : Switch → Bool
  | dir => true
  | threads => true
  | timeout => true
  | _ => false

end Switch

/-- why arguments do not ask for work -/
inductive Stop where
  /-- they are not understood -/
  | usage
  | help
  | version
  deriving DecidableEq, Repr

/-! ## values -/

/-- the numbers that fit a word of the machine are below this one -/
def wordLimit : Nat := Nat.pow 2 64

/-- a decimal number, with or without a plus sign -/
def number? (text : String) : Option Nat :=
  let ds := match text.toList with
    | '+' :: ds => ds
    | ds => ds
  if ds.isEmpty || !ds.all Char.isDigit then none
  else
    let n := ds.foldl (fun n c => n * 10 + (c.toNat - 48)) 0
    if n < wordLimit then some n else none

/-- whether a switch can have a value -/
def Switch.accepts : Switch → String → Bool
  | .dir, value => !value.isEmpty
  | .threads, value => (number? value).isSome
  | .timeout, value => (number? value).isSome
  | _, _ => true

/-! ## reading -/

/-- what has been read so far -/
structure Given where
  switches : List (Switch × String)
  recipe : Option String
  /-- the switch whose value is the next argument -/
  pending : Option Switch

namespace Given

def empty : Given := ⟨[], none, none⟩

def has (g : Given) (s : Switch) : Bool := g.switches.any (·.1 == s)

def value? (g : Given) (s : Switch) : Option String := g.switches.lookup s

/-- sets a switch -/
def give (g : Given) (s : Switch) (value : String) : Except Stop Given :=
  match s with
  | .help => .error .help
  | .version => .error .version
  | s =>
    if g.has s || !s.accepts value then .error .usage
    else .ok { g with switches := (s, value) :: g.switches, pending := none }

/-- takes a word -/
def word (g : Given) (text : String) : Except Stop Given :=
  if g.recipe.isSome || text.isEmpty then .error .usage
  else .ok { g with recipe := some text }

/-- switches by their letters -/
def letters (allowed : List Switch) (g : Given) : List Char → Except Stop Given
  | [] => .ok g
  | c :: cs =>
    match allowed.find? (·.letter? == some c) with
    | none => .error .usage
    | some s =>
      if s.takesValue then
        match cs with
        | [] => .ok { g with pending := some s }
        | '=' :: value => g.give s (String.ofList value)
        | value => g.give s (String.ofList value)
      else do letters allowed (← g.give s "") cs

/-- a switch by its long name, with the value behind the equals sign if there is one -/
def long (allowed : List Switch) (g : Given) (text : List Char) : Except Stop Given :=
  let name := text.takeWhile (· != '=')
  match allowed.find? (·.longName == String.ofList name), text.drop name.length with
  | none, _ => .error .usage
  | some s, [] => if s.takesValue then .ok { g with pending := some s } else g.give s ""
  | some s, _ :: value =>
    if s.takesValue then g.give s (String.ofList value) else .error .usage

/-- an argument that starts with a hyphen and is not the end of the switches -/
def switch (allowed : List Switch) (g : Given) (text : List Char) : Except Stop Given :=
  match text with
  | '-' :: name => g.long allowed name
  | name => g.letters allowed name

/-- words only -/
def words (g : Given) : List String → Except Stop Given
  | [] => .ok g
  | arg :: args => do words (← g.word arg) args

/-- whether an argument cannot be the value of the switch before it -/
def looksLikeSwitch (arg : String) : Bool :=
  match arg.toList with
  | '-' :: _ :: _ => true
  | _ => false

/-- all arguments of a command -/
def read (allowed : List Switch) (g : Given) : List String → Except Stop Given
  | [] => if g.pending.isSome then .error .usage else .ok g
  | arg :: args =>
    match g.pending with
    | some s =>
      if looksLikeSwitch arg then .error .usage
      else do read allowed (← g.give s arg) args
    | none =>
      if arg = "--" then g.words args
      else if looksLikeSwitch arg then do read allowed (← g.switch allowed (arg.toList.drop 1)) args
      else do read allowed (← g.word arg) args

end Given

/-! ## commands -/

inductive Command where
  | build (recipe : String) (dir : Option String) (threads timeout : Option Nat)
      (verify verbose : Bool)
  | plan (recipe : String) (threads : Option Nat)
  deriving DecidableEq, Repr

def buildSwitches : List Switch := [.verbose, .verify, .dir, .threads, .timeout, .help]

def planSwitches : List Switch := [.verbose, .threads, .help]

/-- a number given for a switch -/
def Given.number? (g : Given) (s : Switch) : Option Nat :=
  (g.value? s).bind CommandLine.number?

def buildCommand (verbose : Bool) (args : List String) : Except Stop Command := do
  let g ← Given.empty.read buildSwitches args
  match g.recipe with
  | none => .error .usage
  | some recipe =>
    .ok (.build recipe (g.value? .dir) (g.number? .threads) (g.number? .timeout) (g.has .verify)
      (verbose || g.has .verbose))

def planCommand (args : List String) : Except Stop Command := do
  let g ← Given.empty.read planSwitches args
  match g.recipe with
  | none => .error .usage
  | some recipe => .ok (.plan recipe (g.number? .threads))

/-- help on the program, or on one command -/
def helpCommand (args : List String) : Stop :=
  match args with
  | [] => .help
  | [name] => if ["build", "plan", "help"].contains name then .help else .usage
  | _ => .usage

/-- switches before the name of a command, then the command -/
def readCommand (g : Given) : List String → Except Stop Command
  | [] => .error .usage
  | "build" :: args => buildCommand (g.has .verbose) args
  | "plan" :: args => planCommand args
  | "help" :: args => .error (helpCommand args)
  | arg :: args => do
    if arg = "--" || !Given.looksLikeSwitch arg then .error .usage
    else readCommand (← g.switch [.verbose, .help, .version] (arg.toList.drop 1)) args

/-- the command that arguments ask for -/
def Command.ofArguments (args : List String) : Except Stop Command := readCommand .empty args

end ShellWorkers.CommandLine
