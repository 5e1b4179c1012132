import ShellWorkers.Script.Builtin.Settings

/-!
# Commands on parameters

What marks, lists and unsets variables, what sets the settings and the positional parameters, and
what reads options from these.
-/

namespace ShellWorkers.Script.Builtin

open Text (OctetText)

/-! ## lists of variables -/

/-- variables that pass a test in the order of their names, as a shell would read them back -/
def listVariables (before : OctetText) (test : Variable → Bool) : Sh Nat := do
  let vars := ((← get).vars.filter test).mergeSort fun v w =>
    !Machine.FileTree.precedes w.name.toList v.name.toList
  for v in vars do
    let value := match v.value? with
      | some value => "=" ++ quotedValue value
      | none => ""
    say (before ++ v.name ++ value ++ "\n")
  pure 0

/-- marks variables, which get values where the arguments say so -/
def markAll (marks : Marks) (mark : Variable → Variable) : Builtin
  | [] => pure 0
  | arg :: args => do
    match splitAssignment arg, (← get).var? arg with
    | (_, none), some v => modify (·.putVariable (mark v))
    | (name, value), _ => assignMarked name value marks
    markAll marks mark args

/-- marks variables, or lists those that are marked -/
def markOrList (command : OctetText) (marks : Marks) (has : Variable → Bool)
    (mark : Variable → Variable) : Builtin := fun args => do
  let o ← readOptions "p" "" args
  if o.has 'p' || o.args.isEmpty then listVariables (command ++ " ") has
  else markAll marks mark o.args

def exportAll : Builtin :=
  markOrList "export" .ofExport (·.exported) ({ · with exported := true })

def protectAll : Builtin :=
  markOrList "readonly" .ofReadOnly (·.readOnly) ({ · with readOnly := true })

/-- makes variables those of the function that is run; a hyphen stands for the settings -/
def makeAllLocal : Builtin
  | [] => pure 0
  | arg :: args => do
    if arg = "-" then keepInFrame (.settings (← get).settings)
    else
      let (name, value) := splitAssignment arg
      makeLocal name value .none
    makeAllLocal args

def declareLocal : Builtin := fun args => do
  if (← get).frames.isEmpty then abort "not in a function"
  else makeAllLocal (← readOptions "" "" args).args

/-! ## unsetting -/

def unsetAll (functions : Bool) : Builtin
  | [] => pure 0
  | name :: names => do
    if functions then
      modify fun c => { c with functions := c.functions.filter (·.1 ≠ name) }
    else assignMarked name none .none
    unsetAll functions names

def unset : Builtin := fun args => do
  let o ← readOptions "vf" "" args
  unsetAll (o.given.getLast?.map Prod.fst == some 'f') o.args

/-! ## settings and positional parameters -/

def setPositional (values : List OctetText) : Sh Unit :=
  modify ({ · with positional := .ofList values })

/-- lists the settings, to be read by people or by a shell -/
def listSettings (readable : Bool) : Sh Unit := do
  let on := (← get).settings
  for row in Setting.all do
    let name := row.2.1
    let isOn := on.contains row.1
    if readable then
      let fill := String.ofList (List.replicate (16 - name.length) ' ')
      say (name ++ fill ++ (if isOn then "on" else "off") ++ "\n")
    else say ("set " ++ (if isOn then "-o " else "+o ") ++ name ++ "\n")

/-- turns a setting on or off; without a terminal there is no control of jobs -/
def turnSetting (s : Setting) (value : Bool) : Sh Unit := do
  if s = .monitor && value && !(← get).isChild then
    complain "can't access tty; job control turned off"
  else modify fun c => { c with settings := Setting.turn c.settings s value }

/-- a setting by its name -/
def turnNamed (name : OctetText) (value : Bool) : Sh Unit :=
  match Setting.ofName? name with
  | some s => turnSetting s value
  | none => abort ("Illegal option -o " ++ name)

/-- the settings of the letters of one argument; what is left of the arguments behind it -/
def setLetters (value : Bool) : List Char → List OctetText → Sh (List OctetText)
  | [], args => pure args
  | 'o' :: cs, args => do
    match args with
    | [] => do
      if value then say "Current option settings\n"
      listSettings value
      setLetters value cs []
    | name :: args => do
      turnNamed name value
      setLetters value cs args
  | c :: cs, args => do
    match Setting.ofLetter? c with
    | some s => turnSetting s value
    | none => abort ("Illegal option -" ++ String.ofList [c])
    setLetters value cs args

/-- reads the settings at the beginning of at most `fuel` arguments; the others become the
positional parameters -/
def setFrom : (fuel : Nat) → Builtin
  | 0, _ => pure 0
  | _ + 1, [] => pure 0
  | fuel + 1, arg :: args =>
    match arg.toList with
    | ['-'] => do
      turnSetting .trace false
      turnSetting .verbose false
      if !args.isEmpty then setPositional args
      pure 0
    | ['-', '-'] => do
      setPositional args
      pure 0
    | '-' :: letters => do setFrom fuel (← setLetters true letters args)
    | '+' :: letters => do setFrom fuel (← setLetters false letters args)
    | _ => do
      setPositional (arg :: args)
      pure 0

def set : Builtin
  | [] => listVariables "" (·.value?.isSome)
  | args => setFrom (args.length + 1) args

def shift : Builtin := fun args => do
  let n ← match args with
    | [] => pure 1
    | arg :: _ => numberOrFail arg
  let values := (← get).positional.values
  if values.length < n then abort "can't shift that many"
  else do
    setPositional (values.drop n)
    pure 0

/-! ## options of scripts -/

/-- what is known about an option letter: nothing, that it stands alone, or that it takes a
value -/
def optionKind? (letter : Char) : List Char → Option Bool
  | [] => none
  | c :: ':' :: cs => if c = letter then some true else optionKind? letter cs
  | c :: cs => if c = letter then some false else optionKind? letter cs

/-- the letters that are left of an argument being read, and how far the reading has come; nothing
when the options have ended, with the number of the argument behind them -/
def currentLetters (p : Positional) (args : List OctetText) :
    Except Nat (List Char × Nat) :=
  let left : List Char := match p.offset with
    | some offset =>
      if p.next ≤ 1 then [] else ((args[p.next - 2]?).getD "").toList.drop offset
    | none => []
  if !left.isEmpty then .ok (left, p.next)
  else
    match (args[p.next - 1]?).map String.toList with
    | some ['-', '-'] => .error (p.next + 1)
    | some ('-' :: c :: cs) => .ok (c :: cs, p.next + 1)
    | _ => .error p.next

/-- the next option of a script, whose options are those of `spec`, goes to the variable `name` -/
def nextOption (spec : List Char) (name : OctetText) (args : List OctetText) : Sh Nat := do
  let quiet := spec.head? == some ':'
  match currentLetters (← get).positional args with
  | .error next => finish name '?' next none 1
  | .ok ([], next) => finish name '?' next none 1
  | .ok (c :: cs, next) => do
    let read := ((args[next - 2]?).getD "").length - cs.length
    let rest := some read
    let letter := String.ofList [c]
    match optionKind? c spec with
    | none => do
      if quiet then assign "OPTARG" letter
      else do
        writeTo 2 ("Illegal option -" ++ letter ++ "\n")
        assignMarked "OPTARG" none .none
      finish name '?' next rest 0
    | some false => do
      assign "OPTARG" ""
      finish name c next rest 0
    | some true =>
      if !cs.isEmpty then do
        assign "OPTARG" (String.ofList cs)
        finish name c next none 0
      else
        match args[next - 1]? with
        | some value => do
          assign "OPTARG" value
          finish name c (next + 1) none 0
        | none =>
          if quiet then do
            assign "OPTARG" letter
            finish name ':' next rest 0
          else do
            writeTo 2 ("No arg for -" ++ letter ++ " option\n")
            assignMarked "OPTARG" none .none
            finish name '?' next rest 0
where
  finish (name : OctetText) (found : Char) (next : Nat) (offset : Option Nat) (status : Nat) :
      Sh Nat := do
    assign "OPTIND" (toString next)
    assign name (String.ofList [found])
    modify fun c => { c with positional := { c.positional with next := next, offset := offset } }
    pure status

def getOptions : Builtin := fun args => do
  match (← readOptions "" "" args).args with
  | spec :: name :: rest => do
    let p := (← get).positional
    let args := if rest.isEmpty then p.values else rest
    if args.length + 1 < p.next then
      modify fun c => { c with positional := { c.positional with next := 1, offset := none } }
    nextOption spec.toList name args
  | _ => abort "Usage: getopts optstring var [arg]"

end ShellWorkers.Script.Builtin
