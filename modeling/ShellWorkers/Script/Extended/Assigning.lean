import ShellWorkers.Script.Builtin.Settings
import ShellWorkers.Script.Condition
import ShellWorkers.Script.Expansion
import ShellWorkers.Script.Printing

/-!
# Arguments and assignments of the extended language

How its commands are told to be used, and how variables get values.
-/

/-!
## How the commands of the extended language are called

A command that is called in a wrong way says so, shows how it is called, and has the status `2`.
-/

namespace ShellWorkers.Script.Extended

open ShellWorkers.Script.Builtin (Options)
open Text (OctetText)

/-! ### usages -/

/-- how a variable is declared -/
def declareUsage : OctetText := "[-aAfFgiIlnrtux] [name[=value] ...] or "

def mapUsage : OctetText :=
  "[-d delim] [-n count] [-O origin] [-s count] [-t] [-u fd] [-C callback] [-c quantum] [array]"

/-- what stands behind the names of the commands -/
def usages : List (OctetText × OctetText) :=
  [(".", "filename [arguments]"), (":", ""), ("[", "arg... ]"),
    ("alias", "[-p] [name[=value] ... ]"), ("bg", "[job_spec ...]"), ("break", "[n]"),
    ("builtin", "[shell-builtin [arg ...]]"), ("caller", "[expr]"),
    ("cd", "[-L|[-P [-e]] [-@]] [dir]"), ("command", "[-pVv] command [arg ...]"),
    ("continue", "[n]"),
    ("declare", declareUsage ++ "declare -p [-aAfFilnrtux] [name ...]"),
    ("dirs", "[-clpv] [+N] [-N]"), ("disown", "[-h] [-ar] [jobspec ... | pid ...]"),
    ("echo", "[-neE] [arg ...]"), ("enable", "[-a] [-dnps] [-f filename] [name ...]"),
    ("eval", "[arg ...]"),
    ("exec", "[-cl] [-a name] [command [argument ...]] [redirection ...]"), ("exit", "[n]"),
    ("export", "[-fn] [name[=value] ...] or export -p"), ("false", ""), ("fg", "[job_spec]"),
    ("getopts", "optstring name [arg ...]"), ("hash", "[-lr] [-p pathname] [-dt] [name ...]"),
    ("help", "[-dms] [pattern ...]"),
    ("jobs", "[-lnprs] [jobspec ...] or jobs -x command [args]"),
    ("kill", "[-s sigspec | -n signum | -sigspec] pid | jobspec ... or kill -l [sigspec]"),
    ("let", "arg [arg ...]"), ("local", "[option] name[=value] ..."), ("mapfile", mapUsage),
    ("popd", "[-n] [+N | -N]"), ("printf", "[-v var] format [arguments]"),
    ("pushd", "[-n] [+N | -N | dir]"), ("pwd", "[-LP]"),
    ("read", "[-ers] [-a array] [-d delim] [-i text] [-n nchars] [-N nchars] [-p prompt] "
      ++ "[-t timeout] [-u fd] [name ...]"),
    ("readarray", mapUsage), ("readonly", "[-aAf] [name[=value] ...] or readonly -p"),
    ("return", "[n]"), ("set", "[-abefhkmnptuvxBCEHPT] [-o option-name] [--] [-] [arg ...]"),
    ("shift", "[n]"), ("shopt", "[-pqsu] [-o] [optname ...]"),
    ("source", "filename [arguments]"), ("suspend", "[-f]"), ("test", "[expr]"), ("times", ""),
    ("trap", "[-lp] [[arg] signal_spec ...]"), ("true", ""),
    ("type", "[-afptP] name [name ...]"),
    ("typeset", declareUsage ++ "typeset -p [-aAfFilnrtux] [name ...]"),
    ("ulimit", "[-SHabcdefiklmnpqrstuvxPRT] [limit]"), ("umask", "[-p] [-S] [mode]"),
    ("unalias", "[-a] name [name ...]"), ("unset", "[-f] [-v] [-n] [name ...]"),
    ("wait", "[-fn] [-p var] [id ...]")]

/-- how a command is called -/
def usageOf (name : OctetText) : OctetText :=
  match usages.lookup name with
  | some "" => name
  | some rest => name ++ " " ++ rest
  | none => name

/-! ### faults -/

/-- a command ends with a status, as one that was called in a wrong way -/
def fail {α : Type} (status : Nat) : Sh α := do
  setStatus status
  leave .failed

/-- shows how a command is called, which ends it -/
def showUsage {α : Type} : Sh α := do
  let name := (← get).command.getD ""
  writeTo 2 (name ++ ": usage: " ++ usageOf name ++ "\n")
  fail 2

/-- a command was called in a wrong way -/
def misuse {α : Type} (message : OctetText) : Sh α := do
  complain message
  showUsage

/-- a text is no name of a variable -/
def notIdentifier (text : OctetText) : OctetText := "\x60" ++ text ++ "': not a valid identifier"

/-- more arguments than a command takes -/
def refuseMore (args : List OctetText) : Sh Unit :=
  if args.isEmpty then pure ()
  else do
    complain "too many arguments"
    setStatus 1
    leave .abandoned

/-! ### options -/

/-- the letters of one argument, and what is left of the arguments behind it -/
def choiceLetters (plain valued : List Char) : List Char → List OctetText →
    Sh (List (Char × OctetText) × List OctetText)
  | [], args => pure ([], args)
  | c :: cs, args =>
    if plain.contains c then do
      let (given, args) ← choiceLetters plain valued cs args
      pure ((c, "") :: given, args)
    else if valued.contains c then
      match cs, args with
      | [], value :: args => pure ([(c, value)], args)
      | [], [] => misuse ("-" ++ String.ofList [c] ++ ": option requires an argument")
      | cs, args => pure ([(c, String.ofList cs)], args)
    else misuse ("-" ++ String.ofList [c] ++ ": invalid option")

/-- reads the options of at most `fuel` arguments -/
def choicesFrom (plain valued : List Char) : (fuel : Nat) → List OctetText → Sh Options
  | 0, args => pure ⟨[], args⟩
  | _ + 1, [] => pure ⟨[], []⟩
  | fuel + 1, arg :: args =>
    match arg.toList with
    | ['-', '-'] => pure ⟨[], args⟩
    | '-' :: c :: cs => do
      if arg = "--help" then do
        let name := (← get).command.getD ""
        say (name ++ ": " ++ usageOf name ++ "\n")
        fail 2
      let (given, args) ← choiceLetters plain valued (c :: cs) args
      let o ← choicesFrom plain valued fuel args
      pure ⟨given ++ o.given, o.args⟩
    | _ => pure ⟨[], arg :: args⟩

/-- the options of a command, letters that stand alone or have a value, and the other arguments -/
def readChoices (plain valued : String) (args : List OctetText) : Sh Options :=
  choicesFrom plain.toList valued.toList (args.length + 1) args

/-- the value of the last option with a letter -/
def valueOf? (o : Options) (letter : Char) : Option OctetText :=
  ((o.given.filter (·.1 == letter)).getLast?).map Prod.snd

/-! ### numbers -/

/-- a whole number with an optional sign and blanks around it, if it fits into 64 bits -/
def integer? (text : OctetText) : Option Int :=
  let cs := ((text.toList.dropWhile isNumberBlank).reverse.dropWhile isNumberBlank).reverse
  let bounded (n : Int) : Option Int :=
    if -9223372036854775808 ≤ n && n ≤ 9223372036854775807 then some n else none
  let digits (ds : List Char) : Option Int :=
    if ds.isEmpty || !ds.all Char.isDigit then none else some (digitsNat ds : Int)
  match cs with
  | '-' :: ds => (digits ds).bind fun n => bounded (-n)
  | '+' :: ds => (digits ds).bind bounded
  | ds => (digits ds).bind bounded

/-- a number that an argument has to be -/
def integerOrFail (text : OctetText) : Sh Int :=
  match integer? text with
  | some n => pure n
  | none => abort (text ++ ": numeric argument required")

end ShellWorkers.Script.Extended

/-!
## Assigning in the extended language

A variable or an element of an array gets a text, or a variable gets the elements of an array.  A
variable that holds numbers gets the values of expressions.  The words of an assignment are
expanded first (`Assigned.ofWord`), then the assignment is done (`Assigned.perform`).
-/

namespace ShellWorkers.Script

open Text (OctetText)

/-! ### what is assigned -/

/-- an element that an array gets -/
inductive Element where
  /-- behind the one before -/
  | next (value : OctetText)
  /-- with a subscript; the value may be put behind the one that is there -/
  | placed (subscript : OctetText) (append : Bool) (value : OctetText)

/-- an assignment whose words have been expanded -/
inductive Assigned where
  | text (name : OctetText) (subscript : Option OctetText) (append : Bool) (value : OctetText)
  /-- `source` is how the elements stand in the script -/
  | elements (name : OctetText) (append : Bool) (elements : List Element) (source : OctetText)

namespace Assigned

def name : Assigned → OctetText
  | .text name _ _ _ => name
  | .elements name _ _ _ => name

/-! ### expanding -/

/-- an element behind its subscript: whether it is put behind another one, and its value -/
def behindSubscriptPart? : Word → Option (Bool × Word)
  | .text value false :: rest => do
    let (append, after) ← assignmentSign? value.toList
    some (append, if after.isEmpty then rest else .text (String.ofList after) false :: rest)
  | _ => none

/-- the elements that words stand for -/
def elementsOf (runner : Runner) : List Word → Sh (List Element)
  | [] => pure []
  | w :: ws => do
    let first ← match w with
      | .subscript inner :: rest =>
        match behindSubscriptPart? rest with
        | some (append, value) => do
          let value ← expandValue runner value
          pure [Element.placed (← expandText runner inner) append value]
        | none => List.map Element.next <$> expandFields runner w
      | _ => List.map Element.next <$> expandFields runner w
    return first ++ (← elementsOf runner ws)

/-- an assignment with its words expanded -/
def ofAssignment (runner : Runner) (a : Assignment) : Sh Assigned := do
  match a.subscript, a.value with
  | none, [.elements words] =>
    return .elements a.name a.append (← elementsOf runner words)
      ("(" ++ wordsSource " " words ++ ")")
  | subscript, value => do
    let value ← expandValue runner value
    let subscript ← match subscript with
      | some w => some <$> expandSubscript runner a.name w
      | none => pure none
    pure (.text a.name subscript a.append value)
where
  /-- a subscript; one of a table must not be empty -/
  expandSubscript (runner : Runner) (name : OctetText) (w : Word) : Sh OctetText := do
    let text ← expandText runner w
    if !text.isEmpty then pure text
    else
      let c ← get
      let isTable := ((c.var? (c.meant name)).map fun v => v.items.isTable) == some true
      if w.isEmpty || isTable then
        abort (name ++ "[" ++ wordSource w ++ "]: bad array subscript")
      else pure "0"

/-- an assignment as it is shown before it is done -/
def shown : Assigned → OctetText
  | .text name subscript append value =>
    let target := match subscript with
      | some s => name ++ "[" ++ s ++ "]"
      | none => name
    target ++ (if append then "+=" else "=") ++ (if value.isEmpty then "" else shownWord value)
  | .elements name append _ source => name ++ (if append then "+=" else "=") ++ source

/-! ### assigning -/

/-- refuses to change a variable that must not be changed -/
def checkChangeable (name : OctetText) : Sh Unit := do
  match (← get).seen? name with
  | some v => if v.readOnly then refuseChange name
  | none => pure ()

/-- the key of an element that is to be changed -/
def keyToChange (name subscript : OctetText) : Sh OctetText := do
  let fault : OctetText := name ++ "[" ++ subscript ++ "]: bad array subscript"
  if subscript.isEmpty then abort fault
  else
    match ← keyOf name subscript with
    | some key => pure key
    | none => abort fault

/-- a value behind another one, or alone; numbers are added -/
def joinedValue (t : Traits) (old : Option OctetText) (append : Bool) (value : OctetText) :
    Sh OctetText := do
  if t.integer then do
    let n ← abandoning (compute value)
    let before ← if append then abandoning (compute (old.getD "")) else pure 0
    pure (toString (wrap (before + n)))
  else pure (if append then old.getD "" ++ value else value)
where
  wrap (n : Int) : Int := Int.bmod n 18446744073709551616

/-- a number that is new each time gets a value: random numbers start anew, and seconds are
counted on from it; the other ones stay as they are -/
def assignFresh (name value : OctetText) : Sh Unit := do
  if name = "RANDOM" then do
    let n ← compute value
    modify fun c => { c with extras := { c.extras with random := ((n % 4294967296).toNat, 0) } }
  else if name = "SECONDS" then do
    let present := Int.fdiv (← sys .now) 1000000000
    let n := (Condition.integer? value).getD 0
    modify fun c => { c with extras := { c.extras with secondsFrom := present - n } }

/-- gives a variable or an element a text -/
def assignText (name : OctetText) (subscript : Option OctetText) (append : Bool)
    (value : OctetText) : Sh Unit := do
  let c ← get
  let (name, subscript) := match subscript with
    | some s => (c.meant name, some s)
    | none => Context.splitSubscript (c.meant name)
  if c.isFresh name && subscript.isNone then do
    let old ← if append then freshNumber name else pure ""
    let value ← if append && name = "SECONDS" then do
        pure (toString ((← compute old) + (← compute value)))
      else pure (old ++ value)
    assignFresh name value
  else do
    checkChangeable name
    let key ← match subscript with
      | some s => some <$> keyToChange name s
      | none => pure none
    let v? := (← get).var? name
    let old := v?.bind fun v =>
      match key with
      | some key => v.element? key
      | none => v.value?
    let value ← joinedValue ((v?.map Variable.traits).getD .none) old append value
    storeResult name key value

/-- elements behind those of a list; `number` is that of the next one, and `fresh` are those that
belong at the end of the list, last first -/
def addToList (t : Traits) : (number : Nat) → (entries fresh : List (Nat × OctetText)) →
    List Element → Sh Items
  | _, entries, fresh, [] => pure (.list (entries ++ fresh.reverse))
  | number, entries, fresh, .next value :: rest => do
    let value ← joinedValue t none false value
    let value := t.inCase value
    let isLast : Bool := match fresh with
      | (n, _) :: _ => n < number
      | [] => Items.nextNumber entries ≤ number
    if isLast then addToList t (number + 1) entries ((number, value) :: fresh) rest
    else addToList t (number + 1) (Items.insertAt number value (entries ++ fresh.reverse)) [] rest
  | number, entries, fresh, .placed subscript append value :: rest => do
    let entries := entries ++ fresh.reverse
    match ← place? entries subscript with
    | none => do
      complainPlainly ("[" ++ subscript ++ "]=" ++ value ++ ": bad array subscript")
      addToList t number entries [] rest
    | some n => do
      let value ← joinedValue t (entries.lookup n) append value
      addToList t (n + 1) (Items.insertAt n (t.inCase value) entries) [] rest
where
  place? (entries : List (Nat × OctetText)) (subscript : OctetText) : Sh (Option Nat) := do
    if subscript.isEmpty then pure none
    else
      let n ← abandoningPlainly (compute subscript)
      let n := if n < 0 then n + Items.nextNumber entries else n
      pure (if n < 0 then none else some n.toNat)

/-- keys and values in turn as elements of a table -/
def addPairs (t : Traits) (entries : List (OctetText × OctetText)) : List OctetText → Sh Items
  | [] => pure (.table entries)
  | [key] => pure (.table (Items.insertKey key "" entries))
  | key :: value :: rest => do
    let value ← joinedValue t none false value
    addPairs t (Items.insertKey key (t.inCase value) entries) rest

/-- elements with subscripts behind those of a table -/
def addToTable (name : OctetText) (t : Traits) (entries : List (OctetText × OctetText)) :
    List Element → Sh Items
  | [] => pure (.table entries)
  | .next value :: rest => do
    complainPlainly (name ++ ": " ++ value
      ++ ": must use subscript when assigning associative array")
    addToTable name t entries rest
  | .placed key append value :: rest => do
    let value ← joinedValue t (entries.lookup key) append value
    addToTable name t (Items.insertKey key (t.inCase value) entries) rest

/-- an element as a key or a value -/
def elementText : Element → OctetText
  | .next value => value
  | .placed subscript _ value => "[" ++ subscript ++ "]=" ++ value

/-- elements behind those that there are; those of a table have subscripts, or are keys and values
in turn -/
def addElements (name : OctetText) (t : Traits) (start : Items) (given : List Element) :
    Sh Items :=
  match start with
  | .table entries =>
    match given with
    | .next _ :: _ => addPairs t entries (given.map elementText)
    | given => addToTable name t entries given
  | .list entries => addToList t (Items.nextNumber entries) entries [] given
  | .none => addToList t 0 [] [] given

/-- gives a variable the elements of an array -/
def assignElements (name : OctetText) (append : Bool) (given : List Element) : Sh Unit := do
  let c ← get
  let name := c.meant name
  checkChangeable name
  let v := (c.var? name).getD (.ofText name none (c.isOn .exportAll) false false)
  let start : Items := match v.items, append with
    | .table entries, true => .table entries
    | .table _, false => .table []
    | .list entries, true => .list entries
    | .none, true =>
      match v.value? with
      | some value => .list [(0, value)]
      | none => .list []
    | _, false => .list []
  let items ← addElements name v.traits start given
  let w := ((← get).var? name).getD v
  modify (·.putVariable (w.withItems items))

/-- does an assignment -/
def perform : Assigned → Sh Unit
  | .text name subscript append value => assignText name subscript append value
  | .elements name append given _ => assignElements name append given

end Assigned

end ShellWorkers.Script
