import ShellWorkers.Script.Builtin.Search
import ShellWorkers.Script.Extended.Settings

/-!
# What names stand for in the extended language

A name can be an alias, a reserved word, a function, a command of the shell, or a program.  The
commands here find that out, and change it for aliases and programs.
-/

namespace ShellWorkers.Script.Extended

open Machine
open Text (OctetText)

/-! ## names -/

/-- the commands of the shell -/
def builtinNames : List OctetText :=
  [".", ":", "[", "alias", "bg", "bind", "break", "builtin", "caller", "cd", "command", "compgen",
    "complete", "compopt", "continue", "declare", "dirs", "disown", "echo", "enable", "eval", "exec",
    "exit", "export", "false", "fc", "fg", "getopts", "hash", "help", "history", "jobs", "kill",
    "let", "local", "logout", "mapfile", "popd", "printf", "pushd", "pwd", "read", "readarray",
    "readonly", "return", "set", "shift", "shopt", "source", "suspend", "test", "times", "trap",
    "true", "type", "typeset", "ulimit", "umask", "unalias", "unset", "wait"]

/-- the reserved words -/
def reservedNames : List OctetText :=
  ["if", "then", "else", "elif", "fi", "case", "esac", "for", "select", "while", "until", "do",
    "done", "in", "function", "time", "\x7b", "\x7d", "!", "[[", "]]", "coproc"]

/-- what a name can stand for -/
inductive NameMeaning where
  | shorthand (value : OctetText)
  | reserved
  | function (body : Command)
  | builtin
  /-- a program that was found before -/
  | remembered (path : OctetText)
  | program (path : OctetText)

/-- the file of a name in one of some places, if it can be executed -/
def executableIn (name : OctetText) : List OctetText → Sh (List OctetText)
  | [] => pure []
  | place :: places => do
    let path := if place.isEmpty then "./" ++ name else place ++ "/" ++ name
    let rest ← executableIn name places
    match ← sys (.status path true) with
    | .ok s => pure (if s.kind == .file && s.isExecutable then path :: rest else rest)
    | .error _ => pure rest

/-- the places of the search path -/
def searchPlacesOf (c : Context) (places : Option OctetText) : List OctetText :=
  placesOf (if places.isSome then places else c.value? "PATH")

/-- the programs that a name stands for -/
def programsOf (places : Option OctetText) (name : OctetText) : Sh (List OctetText) := do
  if name.contains '/' then do
    match ← sys (.status name true) with
    | .ok s => pure (if s.kind == .file && s.isExecutable then [name] else [])
    | .error _ => pure []
  else executableIn name (searchPlacesOf (← get) places)

/-- the path that is remembered for a program -/
def rememberedPath? (c : Context) (name : OctetText) : Option OctetText :=
  (c.found.find? (·.name == name)).map fun f =>
    pathIn (((searchPlacesOf c none)[f.place]?).getD "") name

/-- all that a name stands for, the first being what it means; `functions` says whether functions
count -/
def meaningsOf (functions : Bool) (places : Option OctetText) (name : OctetText) :
    Sh (List NameMeaning) := do
  let c ← get
  let shorthand := if c.extras.features.contains "expand_aliases" then
      ((c.aliases.lookup name).map NameMeaning.shorthand).toList else []
  let reserved := if reservedNames.contains name then [NameMeaning.reserved] else []
  let function := if functions then
      ((c.functions.lookup name).map NameMeaning.function).toList else []
  let builtin := if builtinNames.contains name then [NameMeaning.builtin] else []
  let inner := shorthand ++ reserved ++ function ++ builtin
  let remembered := if places.isNone then (rememberedPath? c name).toList else []
  let programs ← programsOf places name
  pure (inner ++ (remembered.map .remembered) ++ programs.map .program)

/-! ## descriptions -/

/-- how a name is described -/
inductive Description where
  | words
  /-- a word for the kind -/
  | kind
  /-- only the paths of programs -/
  | path
  /-- what could be typed instead -/
  | reusable

/-- an alias as a shell would read it back -/
def aliasLine (name value : OctetText) : OctetText :=
  "alias " ++ name ++ "=" ++ singleQuotes value ++ "\n"

/-- describes one meaning of a name -/
def describeMeaning (d : Description) (name : OctetText) : NameMeaning → OctetText
  | .shorthand value =>
    match d with
    | .words => name ++ " is aliased to \x60" ++ value ++ "'\n"
    | .kind => "alias\n"
    | .path => ""
    | .reusable => aliasLine name value
  | .reserved => simple " is a shell keyword\n" "keyword\n"
  | .builtin => simple " is a shell builtin\n" "builtin\n"
  | .function body =>
    simple (" is a function\n" ++ functionSource name body) "function\n"
  | .remembered path => program path (name ++ " is hashed (" ++ path ++ ")\n")
  | .program path => program path (name ++ " is " ++ path ++ "\n")
where
  simple (words kind : OctetText) : OctetText :=
    match d with
    | .words => name ++ words
    | .kind => kind
    | .path => ""
    | .reusable => name ++ "\n"
  program (path words : OctetText) : OctetText :=
    match d with
    | .words => words
    | .kind => "file\n"
    | .path => path ++ "\n"
    | .reusable => path ++ "\n"

def isProgram : NameMeaning → Bool
  | .remembered _ => true
  | .program _ => true
  | _ => false

/-- describes names; the status tells whether all of them stand for something -/
def describeEach (d : Description) (all functions programsOnly : Bool) (places : Option OctetText) :
    List OctetText → (status : Nat) → Sh Nat
  | [], status => pure status
  | name :: names, status => do
    let meanings ← meaningsOf functions places name
    let meanings := if programsOnly then meanings.filter isProgram else meanings
    let meanings := if all then meanings.filter fun m => match m with
        | .remembered _ => false
        | _ => true
      else meanings.take 1
    if meanings.isEmpty then do
      match d with
      | .words => complain (name ++ ": not found")
      | _ => pure ()
      describeEach d all functions programsOnly places names 1
    else do
      for m in meanings do say (describeMeaning d name m)
      describeEach d all functions programsOnly places names status

def types : Builtin := fun args => do
  let o ← readChoices "afptP" "" args
  let d : Description := if o.has 't' then .kind
    else if o.has 'p' || o.has 'P' then .path else .words
  describeEach d (o.has 'a') (!o.has 'f') (o.has 'P') none o.args 0

/-! ## aliases -/

/-- whether a name can be that of an alias -/
def isAliasName (name : OctetText) : Bool :=
  !name.isEmpty && name.toList.all fun c =>
    !([' ', '\t', '\n', '/', '$', '\x60', '\\', '\'', '"', '|', '&', ';', '(', ')', '<', '>'].contains c)

def aliasEach : List OctetText → (status : Nat) → Sh Nat
  | [], status => pure status
  | arg :: args, status => do
    match Builtin.definition? arg with
    | some (name, value) =>
      if isAliasName name then do
        modify fun c => { c with aliases := Builtin.putAlias name value c.aliases }
        aliasEach args status
      else do
        complain ("\x60" ++ name ++ "': invalid alias name")
        aliasEach args 1
    | none =>
      match (← get).aliases.lookup arg with
      | some value => do
        say (aliasLine arg value)
        aliasEach args status
      | none => do
        complain (arg ++ ": not found")
        aliasEach args 1

def defineAliases : Builtin := fun args => do
  let o ← readChoices "p" "" args
  if o.has 'p' || o.args.isEmpty then
    for (name, value) in byName Prod.fst (← get).aliases do say (aliasLine name value)
  aliasEach o.args 0

def unaliasEach : List OctetText → (status : Nat) → Sh Nat
  | [], status => pure status
  | name :: names, status => do
    if (← get).aliases.any (·.1 == name) then do
      modify fun c => { c with aliases := c.aliases.filter (·.1 ≠ name) }
      unaliasEach names status
    else do
      complain (name ++ ": not found")
      unaliasEach names 1

def unalias : Builtin := fun args => do
  let o ← readChoices "a" "" args
  if o.has 'a' then do
    modify ({ · with aliases := [] })
    pure 0
  else if o.args.isEmpty then showUsage
  else unaliasEach o.args 0

/-! ## remembered programs -/

/-- forgets programs, or shows where they are -/
def hashNamed (o : Builtin.Options) : List OctetText → (status : Nat) → Sh Nat
  | [], status => pure status
  | name :: names, status => do
    let c ← get
    match rememberedPath? c name with
    | none => do
      complain (name ++ ": not found")
      hashNamed o names 1
    | some path => do
      if o.has 'd' then modify fun c => { c with found := c.found.filter (·.name ≠ name) }
      else say ((if 1 < o.args.length then name ++ "\t" else "") ++ path ++ "\n")
      hashNamed o names status

/-- looks programs up anew -/
def hashEach : List OctetText → (status : Nat) → Sh Nat
  | [], status => pure status
  | name :: names, status => do
    if name.contains '/' || builtinNames.contains name || ((← get).functions.lookup name).isSome then
      hashEach names status
    else do
      modify fun c => { c with found := c.found.filter (·.name ≠ name) }
      match ← searchPlaces name none .notFound 0 (searchPlacesOf (← get) none) with
      | .ok place => do
        remember name place
        hashEach names status
      | .error _ => do
        complain (name ++ ": not found")
        hashEach names 1

def hash : Builtin := fun args => do
  let o ← readChoices "lrdt" "p" args
  if o.has 'r' then modify ({ · with found := [] })
  if !o.args.isEmpty then
    if o.has 'd' || o.has 't' then hashNamed o o.args 0 else hashEach o.args 0
  else if o.has 'r' then pure 0
  else do
    let c ← get
    if c.found.isEmpty then do
      complainTable o
      pure 0
    else do
      if !o.has 'l' then say "hits\tcommand\n"
      for f in spreadIn 256 Found.name c.found do
        let path := (rememberedPath? c f.name).getD ""
        let count := toString f.runs
        say (if o.has 'l' then "builtin hash -p " ++ path ++ " " ++ f.name ++ "\n"
          else String.ofList (List.replicate (4 - count.length) ' ') ++ count ++ "\t" ++ path ++ "\n")
      pure 0
where
  complainTable (o : Builtin.Options) : Sh Unit :=
    if o.has 'l' then pure () else say "hash: hash table empty\n"

/-! ## commands of the shell -/

/-- lists the commands of the shell, or looks for some -/
def enable : Builtin := fun args => do
  let o ← readChoices "adnps" "f" args
  if o.args.isEmpty then do
    for name in builtinNames do say ("enable " ++ name ++ "\n")
    pure 0
  else
    let unknown := o.args.filter fun name => !builtinNames.contains name
    for name in unknown do complain (name ++ ": not a shell builtin")
    pure (if unknown.isEmpty then 0 else 1)

/-- tells from where the function that is run was called -/
def caller : Builtin := fun args => do
  let o ← readChoices "" "" args
  let calls := (← get).extras.calls
  let line (n : Nat) : OctetText := ((calls[n]?).map fun s => toString s.line).getD "0"
  match o.args with
  | [] =>
    match calls with
    | [] => pure 1
    | _ => do
      say (line 0 ++ " " ++ ((calls[1]?).map CallSite.source).getD "NULL" ++ "\n")
      pure 0
  | arg :: _ =>
    match number? arg with
    | none => misuse (arg ++ ": invalid number")
    | some n =>
      match calls[n + 1]? with
      | some site => do
        say (line n ++ " " ++ site.name ++ " " ++ site.source ++ "\n")
        pure 0
      | none => pure 1

end ShellWorkers.Script.Extended
