import ShellWorkers.Script.Extended.Assigning

/-!
# Declaring variables in the extended language

The commands that give variables their traits, make them local to a function, export or protect
them, and list them in the form in which they would be declared again.  Their arguments can be
assignments of whole arrays.
-/

namespace ShellWorkers.Script.Extended

open ShellWorkers.Script.Builtin (Options)
open Text (OctetText)

/-! ## arguments -/

/-- an argument of a command that declares -/
structure Argument where
  text : OctetText
  /-- the assignment of an array that it is -/
  array : Option Assigned

def Argument.ofText (text : OctetText) : Argument := ⟨text, none⟩

/-- what an argument declares: a name, maybe with a subscript, and a value behind a sign, which may
be put behind the one that is there -/
structure Declared where
  name : OctetText
  subscript : Option OctetText
  value : Option (Bool × OctetText)

/-- the declaration that a text is -/
def Declared.ofText (text : OctetText) : Declared :=
  let cs := text.toList
  let name := cs.takeWhile isNameChar
  let rest := cs.drop name.length
  let (subscript, rest) := match rest with
    | '[' :: inner =>
      match behindSubscript (inner.length + 1) 0 inner with
      | some after => (some (inner.take (inner.length - after.length)).dropLast, after)
      | none => (none, rest)
    | rest => (none, rest)
  let value (rest : List Char) : Option (Bool × OctetText) :=
    (assignmentSign? rest).map fun (append, value) => (append, String.ofList value)
  let name := if rest.isEmpty || (value rest).isSome then name else name ++ rest
  ⟨String.ofList name, subscript.map String.ofList, value rest⟩

/-! ## lists -/

/-- the computed variables that are listed -/
def computedNames : List OctetText :=
  ["BASH", "BASHOPTS", "BASH_LINENO", "BASH_SOURCE", "BASH_VERSINFO", "BASH_VERSION", "DIRSTACK",
    "EUID", "GROUPS", "HOSTTYPE", "MACHTYPE", "OSTYPE", "PIPESTATUS", "SHELLOPTS", "UID", "_"]

/-- names in the order of lists -/
def byName {α : Type} (name : α → OctetText) (xs : List α) : List α :=
  xs.mergeSort fun a b => !Machine.FileTree.precedes (name b).toList (name a).toList

/-- all variables in the order of their names -/
def allVariables (c : Context) : List Variable :=
  byName Variable.name (c.vars ++ (computedNames.filter fun n => (c.var? n).isNone).filterMap
    c.computed?)

/-- the functions in the order of their names -/
def allFunctions (c : Context) : List (OctetText × Command) := byName Prod.fst c.functions

/-- a variable with its value, as it is listed -/
def listedVariable (v : Variable) : OctetText :=
  v.name ++ "=" ++ (if v.items.isArray then declaredItems v.items
    else listedValue (v.value?.getD "")) ++ "\n"

/-- lists all variables with their values, and the functions -/
def listAll : Sh Unit := do
  let c ← get
  for v in allVariables c do
    if v.isSet || v.items.isArray then say (listedVariable v)
  for (name, body) in allFunctions c do
    say (functionSource name body)

/-- whether a variable has the trait that a letter stands for -/
def hasTrait (v : Variable) (letter : Char) : Bool :=
  match letter with
  | 'a' => v.items.isArray && !v.items.isTable
  | 'A' => v.items.isTable
  | 'i' => v.traits.integer
  | 'l' => v.traits.lower
  | 'n' => v.traits.isName
  | 'r' => v.readOnly
  | 'u' => v.traits.upper
  | 'x' => v.exported
  | _ => false

/-- lists the declarations of the variables that have one of some traits -/
def listDeclarations (letters : List Char) : Sh Unit := do
  for v in allVariables (← get) do
    if letters.isEmpty || letters.any (hasTrait v) then say (declaration v ++ "\n")

/-- the declaration of a function without what it does -/
def functionLine (c : Context) (name : OctetText) : OctetText :=
  "declare -f" ++ (if c.extras.sealed.contains name then "r" else "")
    ++ (if c.extras.shared.contains name then "x" else "") ++ " " ++ name ++ "\n"

/-- lists functions, or only their names -/
def listFunctions (namesOnly : Bool) : Sh Unit := do
  let c ← get
  for (name, body) in allFunctions c do
    say (if namesOnly then functionLine c name else functionSource name body)

/-- whether a function has the mark that a letter stands for -/
def isMarked (c : Context) (letter : Char) (name : OctetText) : Bool :=
  (if letter = 'x' then c.extras.shared else c.extras.sealed).contains name

/-- lists the functions that have one of some marks -/
def listMarked (letters : List Char) (namesOnly : Bool) : Sh Unit := do
  let c ← get
  for (name, body) in allFunctions c do
    if letters.any fun letter => isMarked c letter name then
      say ((if namesOnly then "" else functionSource name body) ++ functionLine c name)

/-- marks functions with letters, or takes these marks away: whether there are such functions -/
def markFunctions (on off : List Char) : List OctetText → (status : Nat) → Sh Nat
  | [], status => pure status
  | name :: names, status => do
    let without (listed : List OctetText) : List OctetText := listed.filter (· ≠ name)
    if ((← get).functions.lookup name).isSome then
      modify fun c =>
        let shared := if on.contains 'x' then name :: without c.extras.shared
          else if off.contains 'x' then without c.extras.shared else c.extras.shared
        let sealed := if on.contains 'r' then name :: without c.extras.sealed else c.extras.sealed
        { c with extras := { c.extras with shared := shared, sealed := sealed } }
      markFunctions on off names status
    else do
      complain (name ++ ": not a function")
      markFunctions on off names 1

/-- shows functions by their names; the status tells whether there are all -/
def showFunctions (namesOnly : Bool) : List OctetText → (status : Nat) → Sh Nat
  | [], status => pure status
  | name :: names, status => do
    match (← get).functions.lookup name with
    | some body => do
      say (if namesOnly then name ++ "\n" else functionSource name body)
      showFunctions namesOnly names status
    | none => showFunctions namesOnly names 1

/-- shows the declarations of variables by their names -/
def showVariables : List OctetText → (status : Nat) → Sh Nat
  | [], status => pure status
  | name :: names, status => do
    match (← get).seen? name with
    | some v => do
      say (declaration v ++ "\n")
      showVariables names status
    | none => do
      complain (name ++ ": not found")
      showVariables names 1

/-! ## local variables -/

/-- whether what is saved belongs to a name -/
def isSavedFor (name : OctetText) : Saved → Bool
  | .variable v => v.name == name
  | .absent n => n == name
  | .settings _ => false

/-- makes a variable one of the function that is run; it has no value then -/
def localize (name : OctetText) : Sh Unit := do
  let c ← get
  match c.frames with
  | frame :: _ =>
    if frame.any (isSavedFor name) then pure ()
    else do
      let old := c.var? name
      if (old.map Variable.readOnly) == some true then abort (name ++ ": readonly variable")
      else do
        keepInFrame (match old with
          | some v => .variable v
          | none => .absent name)
        modify (·.putVariable
          (.ofText name none ((old.map Variable.exported).getD false) false false))
        if name = "OPTIND" then
          modify fun c => { c with positional := { c.positional with next := 1, offset := none } }
  | [] => pure ()

/-! ## declaring -/

/-- the letters that were given, behind a hyphen and behind a plus sign -/
structure Letters where
  on : List Char
  off : List Char

/-- the kind of array that a variable is to be, for one that is none -/
def asArray (v : Variable) (isTable : Bool) : Variable :=
  if v.items.isArray then v
  else
    let bare := v.value?.isNone
    let items : Items := match v.value?, isTable with
      | some value, true => .table [("0", value)]
      | some value, false => .list [(0, value)]
      | none, true => .table []
      | none, false => .list []
    let w := v.withItems items
    { w with traits := { w.traits with bare := bare } }

/-- a variable with the traits that letters stand for, but those that come behind its value -/
def withTraits (k : Letters) (v : Variable) : Variable :=
  let t := v.traits
  let set (letter : Char) (now : Bool) : Bool :=
    if k.on.contains letter then true else if k.off.contains letter then false else now
  let lower := set 'l' t.lower && !(k.on.contains 'u' && !k.on.contains 'l')
  let upper := set 'u' t.upper && !(k.on.contains 'l' && !k.on.contains 'u')
  let t : Traits := ⟨set 'i' t.integer, lower, upper, set 'n' t.isName, t.bare⟩
  let v := { v with traits := t, exported := set 'x' v.exported }
  if k.on.contains 'A' then asArray v true else if k.on.contains 'a' then asArray v false else v

/-- what stands against a declaration of a variable -/
def obstacle? (k : Letters) (v : Variable) (assigns : Bool) : Option OctetText :=
  if v.readOnly && (assigns || k.off.contains 'r') then some "readonly variable"
  else if (k.off.contains 'a' && v.items.isArray && !v.items.isTable)
      || (k.off.contains 'A' && v.items.isTable) then
    some "cannot destroy array variables in this way"
  else if k.on.contains 'a' && v.items.isTable then
    some "cannot convert associative to indexed array"
  else if k.on.contains 'A' && v.items.isArray && !v.items.isTable then
    some "cannot convert indexed to associative array"
  else none

/-- declares a variable; whether that was possible -/
def declareOne (k : Letters) (isLocal : Bool) (arg : Argument) : Sh Bool := do
  let d : Declared := match arg.array with
    | some a => ⟨a.name, none, some (false, "")⟩
    | none => .ofText arg.text
  if !isName d.name.toList then do
    complain (notIdentifier arg.text)
    pure false
  else do
    if isLocal then localize d.name
    let c ← get
    let name := if k.on.contains 'n' || k.off.contains 'n' then d.name
      else (Context.splitSubscript (c.meant d.name)).1
    let v := (c.seen? name).getD (.ofText name none (c.isOn .exportAll) false false)
    match obstacle? k v d.value.isSome with
    | some message => do
      complain (name ++ ": " ++ message)
      pure false
    | none => do
      modify (·.putVariable (withTraits k v))
      let assigning : Sh Unit := match arg.array, d.value with
        | some (.elements _ append given _), _ => Assigned.assignElements name append given
        | _, some (append, value) =>
          if k.on.contains 'n' then modify (·.putVariable { withTraits k v with value? := some value })
          else Assigned.assignText name d.subscript append value
        | _, none =>
          if d.subscript.isSome then
            modify fun c => match c.var? name with
              | some v => c.putVariable (asArray v false)
              | none => c
          else pure ()
      assigning
      if k.on.contains 'r' then
        modify fun c => match c.var? name with
          | some v => c.putVariable { v with readOnly := true }
          | none => c
      pure true

/-- declares variables; the status tells whether that was possible -/
def declareEach (k : Letters) (isLocal : Bool) : List Argument → (status : Nat) → Sh Nat
  | [], status => pure status
  | arg :: args, status => do
    if isLocal && arg.text = "-" && arg.array.isNone then do
      keepInFrame (.settings (← get).settings)
      declareEach k isLocal args status
    else
      let isDone ← tryCatch (declareOne k isLocal arg) fun l =>
        match l with
        | .failed => pure false
        | l => leave l
      declareEach k isLocal args (if isDone then status else 1)

/-- the letters that a declaration knows -/
def declarationLetters : List Char :=
  ['a', 'A', 'f', 'F', 'g', 'i', 'I', 'l', 'n', 'p', 'r', 't', 'u', 'x']

/-- reads the letters before the names -/
def readLetters : (fuel : Nat) → Letters → List Argument → Sh (Letters × List Argument)
  | 0, k, args => pure (k, args)
  | _ + 1, k, [] => pure (k, [])
  | fuel + 1, k, arg :: args =>
    let checked (sign : OctetText) (letters : List Char) : Sh Unit :=
      match letters.find? fun c => !declarationLetters.contains c with
      | some c => misuse (sign ++ String.ofList [c] ++ ": invalid option")
      | none => pure ()
    match arg.text.toList with
    | ['-', '-'] => pure (k, args)
    | '-' :: c :: cs => do
      checked "-" (c :: cs)
      readLetters fuel { k with on := k.on ++ c :: cs } args
    | '+' :: c :: cs => do
      checked "+" (c :: cs)
      readLetters fuel { k with off := k.off ++ c :: cs } args
    | _ => pure (k, arg :: args)

/-- declares variables or functions, or lists them -/
def declare (isLocal : Bool) (args : List Argument) : Sh Nat := do
  let (k, args) ← readLetters (args.length + 1) ⟨[], []⟩ args
  let isFunction := k.on.contains 'f' || k.on.contains 'F'
  let names := args.map Argument.text
  let traits := k.on.filter fun c => c != 'p' && c != 'g' && c != 'I' && c != 'F'
  if isFunction then
    let marks := k.on.filter fun c => c = 'x' || c = 'r'
    let gone := k.off.filter (· = 'x')
    if args.isEmpty then do
      if marks.isEmpty then listFunctions (k.on.contains 'F')
      else listMarked marks (k.on.contains 'F')
      pure 0
    else if marks.isEmpty && gone.isEmpty then showFunctions (k.on.contains 'F') names 0
    else markFunctions marks gone names 0
  else if k.on.contains 'p' then
    if args.isEmpty then do
      listDeclarations traits
      pure 0
    else showVariables names 0
  else if args.isEmpty then do
    if traits.isEmpty then listAll else listDeclarations traits
    pure 0
  else declareEach k (isLocal && !k.on.contains 'g') args 0

def declareVariables (args : List Argument) : Sh Nat := do
  declare (0 < (← get).depth) args

/-- lists the variables of the function that is run -/
def listLocals : Sh Unit := do
  let c ← get
  let saved := (c.frames.head?).getD []
  for v in byName Variable.name (c.vars.filter fun v => saved.any (isSavedFor v.name)) do
    if v.isSet then say (declaration v ++ "\n")

def declareLocal (args : List Argument) : Sh Nat := do
  if (← get).depth = 0 then abort "can only be used in a function"
  else if args.isEmpty then do
    listLocals
    pure 0
  else declare true args

/-! ## exporting and protecting -/

/-- marks variables, or lists those that are marked; `letter` stands for the mark -/
def markEach (letter : Char) (remove : Bool) (k : Letters) :
    List Argument → (status : Nat) → Sh Nat
  | [], status => pure status
  | arg :: args, status => do
    let d : Declared := match arg.array with
      | some a => ⟨a.name, none, some (false, "")⟩
      | none => .ofText arg.text
    if !isName d.name.toList || d.subscript.isSome then do
      complain (notIdentifier arg.text)
      markEach letter remove k args 1
    else
      let set : Sh Bool := do
        let c ← get
        let name := (Context.splitSubscript (c.meant d.name)).1
        let v := (c.seen? name).getD (.ofText name none false false false)
        if v.readOnly && d.value.isSome then refuseChange name
        modify (·.putVariable (withTraits k v))
        let assigning : Sh Unit := match arg.array, d.value with
          | some (.elements _ append given _), _ => Assigned.assignElements name append given
          | _, some (append, value) => Assigned.assignText name none append value
          | _, none => pure ()
        assigning
        modify fun c => match c.var? name with
          | some v => c.putVariable (if letter = 'x' then { v with exported := !remove }
              else { v with readOnly := true })
          | none => c
        pure true
      let isDone ← tryCatch set fun l =>
        match l with
        | .failed => pure false
        | l => leave l
      markEach letter remove k args (if isDone then status else 1)

def mark (letter : Char) (plain : List Char) (args : List Argument) : Sh Nat := do
  let (k, args) ← readLetters (args.length + 1) ⟨[], []⟩ args
  match k.on.find? fun c => !plain.contains c with
  | some c => misuse ("-" ++ String.ofList [c] ++ ": invalid option")
  | none =>
    if k.on.contains 'f' then
      if args.isEmpty then do
        listMarked [letter] false
        pure 0
      else if k.on.contains 'n' then markFunctions [] [letter] (args.map Argument.text) 0
      else markFunctions [letter] [] (args.map Argument.text) 0
    else if args.isEmpty then do
      listDeclarations [letter]
      pure 0
    else
      let arrays : Letters := ⟨k.on.filter fun c => c = 'a' || c = 'A', []⟩
      markEach letter (k.on.contains 'n') arrays args 0

def exportEach : List Argument → Sh Nat := mark 'x' ['f', 'n', 'p']

def protectEach : List Argument → Sh Nat := mark 'r' ['a', 'A', 'f', 'p']

/-! ## unsetting -/

/-- takes an element out of an array -/
def unsetElement (v : Variable) (subscript : OctetText) : Sh Unit := do
  match v.items with
  | .table entries =>
    modify (·.putVariable (v.withItems (.table (entries.filter (·.1 ≠ subscript)))))
  | .list entries =>
    if subscript = "@" || subscript = "*" then modify (·.putVariable (v.withItems (.list [])))
    else
      match ← keyOf v.name subscript with
      | some key =>
        modify (·.putVariable (v.withItems (.list (entries.filter fun e => toString e.1 ≠ key))))
      | none => abort ("[" ++ subscript ++ "]: bad array subscript")
  | .none =>
    if (← compute subscript) = 0 then modify (·.dropVariable v.name)
    else abort (v.name ++ ": not an array variable")

/-- unsets a variable or an element; whether there was one -/
def unsetVariable (isReference : Bool) (text : OctetText) : Sh Bool := do
  let c ← get
  let text := if isReference then text else
    match Context.splitSubscript text with
    | (_, some _) => text
    | (name, none) => c.meant name
  let (name, subscript) := Context.splitSubscript text
  match c.var? name with
  | none =>
    if c.isFresh name || (c.seen? name).isSome then do
      if ((c.seen? name).map (·.readOnly)).getD false then
        abort (name ++ ": cannot unset: readonly variable")
      modify fun c => { c with extras := { c.extras with ordinary := name :: c.extras.ordinary } }
      pure true
    else pure false
  | some v =>
    if v.readOnly then abort (name ++ ": cannot unset: readonly variable")
    else do
      match subscript with
      | some s => unsetElement v s
      | none => do
        modify (·.dropVariable name)
        if name = "PATH" then modify ({ · with found := [] })
      pure true

def unsetFunction (name : OctetText) : Sh Unit := do
  if (← get).extras.sealed.contains name then
    abort (name ++ ": cannot unset: readonly function")
  else modify fun c => { c with
    functions := c.functions.filter (·.1 ≠ name)
    extras := { c.extras with shared := c.extras.shared.filter (· ≠ name) } }

def unsetEach (o : Options) : List OctetText → (status : Nat) → Sh Nat
  | [], status => pure status
  | name :: names, status => do
    let one : Sh Nat := do
      if o.has 'f' then unsetFunction name
      else
        let isDone ← unsetVariable (o.has 'n') name
        if !isDone && !o.has 'v' then unsetFunction name
      pure 0
    let result ← tryCatch one fun l =>
      match l with
      | .failed => pure 1
      | l => leave l
    unsetEach o names (if result = 0 then status else 1)

def unset (args : List OctetText) : Sh Nat := do
  let o ← readChoices "fvn" "" args
  if o.has 'f' && o.has 'v' then abort "cannot simultaneously unset a function and a variable"
  else unsetEach o o.args 0

end ShellWorkers.Script.Extended
