import ShellWorkers.Script.Builtin.Variables
import ShellWorkers.Script.Extended.Declarations

/-!
# Settings and parameters in the extended language

What turns settings and features on and off, and what sets, shifts and reads the positional
parameters.
-/

namespace ShellWorkers.Script.Extended

open ShellWorkers.Script.Builtin (Options setPositional)
open Text (OctetText)

/-! ## settings -/

def settingOfLetter? (letter : Char) : Option Setting :=
  (Setting.allExtended.find? fun s => s.2.2 == some letter).map Prod.fst

def settingOfName? (name : OctetText) : Option Setting :=
  (Setting.allExtended.find? fun s => s.2.1 == name).map Prod.fst

/-- turns a setting on or off -/
def turnSetting (s : Setting) (value : Bool) : Sh Unit :=
  modify fun c => { c with settings := Setting.turn c.settings s value }

def onOff (isOn : Bool) : OctetText := if isOn then "on" else "off"

/-- a name at the left of a column -/
def column (width : Nat) (name : OctetText) : OctetText :=
  name ++ String.ofList (List.replicate (width - name.length) ' ')

/-- lists the settings, to be read by people or by a shell -/
def listSettings (readable : Bool) : Sh Unit := do
  let on := (← get).settings
  for row in Setting.allExtended do
    let isOn := on.contains row.1
    say (if readable then column 15 row.2.1 ++ "\t" ++ onOff isOn ++ "\n"
      else "set " ++ (if isOn then "-o " else "+o ") ++ row.2.1 ++ "\n")

/-- applies the letters of one argument; what is left of the arguments behind it -/
def applyLetters (value : Bool) : List Char → List OctetText → Sh (List OctetText)
  | [], args => pure args
  | 'o' :: cs, args => do
    match args with
    | [] => do
      listSettings value
      applyLetters value cs []
    | name :: args => do
      match settingOfName? name with
      | some s => turnSetting s value
      | none => do
        complain (name ++ ": invalid option name")
        fail 2
      applyLetters value cs args
  | c :: cs, args => do
    match settingOfLetter? c with
    | some s => turnSetting s value
    | none => misuse ((if value then "-" else "+") ++ String.ofList [c] ++ ": invalid option")
    applyLetters value cs args

/-- the first letter of the arguments that no setting has, with its sign -/
def unknownLetter? : List OctetText → Option OctetText
  | [] => none
  | arg :: args =>
    let unknown (sign : OctetText) (letters : List Char) : Option OctetText :=
      match letters.find? fun c => c != 'o' && (settingOfLetter? c).isNone with
      | some c => some (sign ++ String.ofList [c])
      | none => unknownLetter? args
    match arg.toList with
    | ['-', '-'] => none
    | '-' :: c :: cs => unknown "-" (c :: cs)
    | '+' :: c :: cs => unknown "+" (c :: cs)
    | _ => none

/-- applies the settings at the beginning of the arguments; the others become the positional
parameters -/
def applySettings : (fuel : Nat) → List OctetText → Sh Nat
  | 0, _ => pure 0
  | _ + 1, [] => pure 0
  | fuel + 1, arg :: args =>
    match arg.toList with
    | ['-'] => do
      turnSetting .trace false
      turnSetting .verbose false
      if !args.isEmpty then setPositional args
      pure 0
    | ['-', '-'] => do
      setPositional args
      pure 0
    | '-' :: letters => do applySettings fuel (← applyLetters true letters args)
    | '+' :: letters => do applySettings fuel (← applyLetters false letters args)
    | _ => do
      setPositional (arg :: args)
      pure 0

def set : Builtin := fun args => do
  if args.isEmpty then do
    listAll
    pure 0
  else
    match unknownLetter? args with
    | some option => misuse (option ++ ": invalid option")
    | none => applySettings (args.length + 1) args

/-! ## features -/

/-- the features that are on when a shell begins -/
def usualFeatures : List OctetText :=
  ["checkwinsize", "cmdhist", "complete_fullquote", "extquote", "force_fignore", "globasciiranges",
    "globskipdots", "hostcomplete", "interactive_comments", "patsub_replacement", "progcomp",
    "promptvars", "sourcepath"]

/-- all features in the order of their names -/
def features : List OctetText :=
  ["autocd", "assoc_expand_once", "cdable_vars", "cdspell", "checkhash", "checkjobs",
    "checkwinsize", "cmdhist", "compat31", "compat32", "compat40", "compat41", "compat42",
    "compat43", "compat44", "complete_fullquote", "direxpand", "dirspell", "dotglob", "execfail",
    "expand_aliases", "extdebug", "extglob", "extquote", "failglob", "force_fignore",
    "globasciiranges", "globskipdots", "globstar", "gnu_errfmt", "histappend", "histreedit",
    "histverify", "hostcomplete", "huponexit", "inherit_errexit", "interactive_comments",
    "lastpipe", "lithist", "localvar_inherit", "localvar_unset", "login_shell", "mailwarn",
    "no_empty_cmd_completion", "nocaseglob", "nocasematch", "noexpand_translation", "nullglob",
    "patsub_replacement", "progcomp", "progcomp_alias", "promptvars", "restricted_shell",
    "shift_verbose", "sourcepath", "varredir_close", "xpg_echo"]

def turnFeature (name : OctetText) (value : Bool) : Sh Unit := modify fun c =>
  let on := if value then name :: c.extras.features
    else c.extras.features.filter (· ≠ name)
  { c with extras := { c.extras with features := features.filter on.contains } }

def hasFeature (name : OctetText) : Sh Bool := do return (← get).extras.features.contains name

/-- a feature or a setting as it is listed -/
def featureLine (forShell isSetting : Bool) (name : OctetText) (isOn : Bool) : OctetText :=
  if forShell then
    (if isSetting then "set " ++ (if isOn then "-o " else "+o ")
      else "shopt " ++ (if isOn then "-s " else "-u ")) ++ name ++ "\n"
  else column 15 name ++ "\t" ++ onOff isOn ++ "\n"

/-- turns features or settings on and off; whether all are known -/
def turnEach (isSetting value : Bool) : List OctetText → (status : Nat) → Sh Nat
  | [], status => pure status
  | name :: names, status => do
    if isSetting then
      match settingOfName? name with
      | some s => do
        turnSetting s value
        turnEach isSetting value names status
      | none => do
        complain (name ++ ": invalid option name")
        turnEach isSetting value names 1
    else if features.contains name then do
      turnFeature name value
      turnEach isSetting value names status
    else do
      complain (name ++ ": invalid shell option name")
      turnEach isSetting value names 1

/-- shows features or settings; whether all of them are on -/
def showEach (isSetting forShell quiet : Bool) : List OctetText → (status : Nat) → Sh Nat
  | [], status => pure status
  | name :: names, status => do
    let c ← get
    let isOn? : Option Bool :=
      if isSetting then (settingOfName? name).map c.settings.contains
      else if features.contains name then some (c.extras.features.contains name)
      else none
    match isOn? with
    | some isOn => do
      if !quiet then say (featureLine forShell isSetting name isOn)
      showEach isSetting forShell quiet names (if isOn then status else 1)
    | none => do
      complain (name ++ (if isSetting then ": invalid option name"
        else ": invalid shell option name"))
      showEach isSetting forShell quiet names 1

def shopt : Builtin := fun args => do
  let o ← readChoices "pqsuo" "" args
  let isSetting := o.has 'o'
  let turns := o.has 's' || o.has 'u'
  if o.has 's' && o.has 'u' then
    abort "cannot set and unset shell options simultaneously"
  else if turns && !o.args.isEmpty then turnEach isSetting (o.has 's') o.args 0
  else if !o.args.isEmpty then showEach isSetting (o.has 'p') (o.has 'q') o.args 0
  else do
    let c ← get
    let rows : List (OctetText × Bool) :=
      if isSetting then Setting.allExtended.map fun s => (s.2.1, c.settings.contains s.1)
      else features.map fun n => (n, c.extras.features.contains n)
    for (name, isOn) in rows do
      if !o.has 'q' && (!turns || isOn == o.has 's') then
        say (featureLine (o.has 'p') isSetting name isOn)
    pure 0

/-! ## positional parameters and expressions -/

def shift : Builtin := fun args => do
  let args := match args with
    | "--" :: rest => rest
    | args => args
  let n ← match args with
    | [] => pure 1
    | arg :: rest => do
      let n ← integerOrFail arg
      refuseMore rest
      pure n
  let values := (← get).positional.values
  let outside (isShown : Bool) : Sh Nat := do
    if isShown then
      complain ((args.head?.map fun a => a ++ ": ").getD "" ++ "shift count out of range")
    pure 1
  if n < 0 then outside true
  else if (values.length : Int) < n then outside (← hasFeature "shift_verbose")
  else do
    if n ≠ 0 then setPositional (values.drop n.toNat)
    pure 0

/-- computes expressions; the status tells whether the last one is not zero -/
def computeEach : List OctetText → (last : Int) → Sh Nat
  | [], last => pure (if last = 0 then 1 else 0)
  | text :: texts, _ => do computeEach texts (← compute text)

def letEach : Builtin := fun args => do
  let args := match args with
    | "--" :: rest => rest
    | args => args
  if args.isEmpty then abort "expression expected" else computeEach args 0

/-! ## options of scripts -/

/-- the options that a script is called with: nothing when they have ended, with the number of the
argument behind them, else the letters that are left of one, and its number -/
def optionLetters (p : Positional) (args : List OctetText) : Except Nat (List Char × Nat) :=
  let left : List Char := match p.offset with
    | some offset => ((args[p.next - 1]?).getD "").toList.drop offset
    | none => []
  if !left.isEmpty then .ok (left, p.next)
  else
    match (args[p.next - 1]?).map String.toList with
    | some ['-', '-'] => .error (p.next + 1)
    | some ('-' :: c :: cs) => .ok (c :: cs, p.next)
    | _ => .error (if args.length < p.next then args.length + 1 else p.next)

/-- takes a variable's value away -/
def clearValue (name : OctetText) : Sh Unit := modify (·.dropVariable name)

/-- the next option of a script, whose options are those of `spec`, goes to a variable -/
def nextOption (spec : List Char) (name : OctetText) (args : List OctetText) : Sh Nat := do
  let c ← get
  let quiet := spec.head? == some ':'
  let shown := !quiet && c.value? "OPTERR" != some "0"
  let finish (found : Char) (next : Nat) (offset : Option Nat) (status : Nat) : Sh Nat := do
    assign "OPTIND" (toString next)
    modify fun c => { c with positional := { c.positional with next := next, offset := offset } }
    if isName name.toList then do
      Assigned.assignText name none false (String.ofList [found])
      pure status
    else do
      complain (notIdentifier name)
      pure 1
  match optionLetters c.positional args with
  | .error next => do
    clearValue "OPTARG"
    finish '?' next none 1
  | .ok ([], next) => finish '?' next none 1
  | .ok (letter :: rest, number) => do
    let text := String.ofList [letter]
    let length := ((args[number - 1]?).getD "").length
    let (next, offset) := if rest.isEmpty then (number + 1, none)
      else (number, some (length - rest.length))
    match if letter = ':' then none else Builtin.optionKind? letter spec with
    | none => do
      if shown then writeTo 2 (c.name ++ ": illegal option -- " ++ text ++ "\n")
      if quiet then assign "OPTARG" text else clearValue "OPTARG"
      finish '?' next offset 0
    | some false => do
      clearValue "OPTARG"
      finish letter next offset 0
    | some true =>
      if !rest.isEmpty then do
        assign "OPTARG" (String.ofList rest)
        finish letter (number + 1) none 0
      else
        match args[number]? with
        | some value => do
          assign "OPTARG" value
          finish letter (number + 2) none 0
        | none => do
          if shown then
            writeTo 2 (c.name ++ ": option requires an argument -- " ++ text ++ "\n")
          if quiet then assign "OPTARG" text else clearValue "OPTARG"
          finish (if quiet then ':' else '?') (number + 1) none 0

def getOptions : Builtin := fun args => do
  match (← readChoices "" "" args).args with
  | spec :: name :: rest => do
    let values := (← get).positional.values
    nextOption spec.toList name (if rest.isEmpty then values else rest)
  | _ => showUsage

end ShellWorkers.Script.Extended
