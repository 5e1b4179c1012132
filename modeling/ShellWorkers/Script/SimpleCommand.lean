import ShellWorkers.Script.Builtin.Table

/-!
# Simple commands

A simple command has words, assignments and redirections.  The first word says what is run: a
function, a command of the shell, or a program; `command` before it passes over functions.  Then
the words are expanded, the redirections are done, and the variables are assigned: for as long as
the command runs, unless it is one of those that change the shell.
-/

namespace ShellWorkers.Script

open Machine
open Text (OctetText)

/-! ## words -/

/-- words, some of which have been expanded -/
structure PartlyExpanded where
  texts : List OctetText
  rest : List Word

/-- expands words until there is a text -/
def firstTexts (runner : Runner) : List Word → Sh PartlyExpanded
  | [] => pure ⟨[], []⟩
  | w :: ws => do
    let texts ← expandFields runner w
    if texts.isEmpty then firstTexts runner ws else pure ⟨texts, ws⟩

/-- expands one word at least -/
def PartlyExpanded.more (runner : Runner) (p : PartlyExpanded) :
    Sh PartlyExpanded :=
  if p.texts.isEmpty then firstTexts runner p.rest else pure p

/-- an argument that looks like an assignment -/
def expandAssignment (runner : Runner) (w : Word) : Sh (List OctetText) :=
  match assignment? w with
  | some (name, value) => do return [name ++ "=" ++ (← expandValue runner value)]
  | none => expandFields runner w

def expandAssignments (runner : Runner) : List Word → Sh (List OctetText)
  | [] => pure []
  | w :: ws => do
    let first ← expandAssignment runner w
    return first ++ (← expandAssignments runner ws)

/-! ## what is run -/

/-- what stands behind `command` -/
structure BehindCommand where
  /-- whether it is to be run; else `command` has its own work -/
  runs : Bool
  /-- places to search in place of the search path -/
  places : Option OctetText
  /-- the options -/
  passed : List OctetText
  words : PartlyExpanded

/-- more options than `command` has -/
def optionFuel : Nat := 1000000

/-- passes over the options of `command`; `passed` are those before, last first -/
def behindCommand (runner : Runner) :
    (fuel : Nat) → (places : Option OctetText) → (passed : List OctetText) → PartlyExpanded →
      Sh BehindCommand
  | 0, places, passed, words => pure ⟨false, places, passed.reverse, words⟩
  | fuel + 1, places, passed, words => do
    let words ← words.more runner
    match words.texts with
    | [] => pure ⟨false, places, passed.reverse, words⟩
    | arg :: args =>
      match arg.toList with
      | ['-', '-'] => do
        let behind ← PartlyExpanded.more runner ⟨args, words.rest⟩
        pure ⟨!behind.texts.isEmpty, places, (arg :: passed).reverse, behind⟩
      | '-' :: c :: cs =>
        if (c :: cs).all (· == 'p') then
          behindCommand runner fuel (some usualPlaces) (arg :: passed) ⟨args, words.rest⟩
        else pure ⟨false, places, passed.reverse, words⟩
      | _ => pure ⟨true, places, passed.reverse, words⟩

/-- the beginning of a command -/
structure Head where
  /-- what has been passed over -/
  passed : List OctetText
  words : PartlyExpanded
  /-- what the first word stands for, if no program has to be searched for -/
  meaning : Option Meaning
  functions : Bool
  places : Option OctetText
  /-- whether the first command of the shell is special, if there is one -/
  special : Option Bool

namespace Head

def ofWords (words : PartlyExpanded) : Head := ⟨[], words, none, true, none, none⟩

def isSpecial (h : Head) : Bool := h.special == some true

end Head

/-- finds out what the first word stands for, behind any `command` -/
def findHead (runner : Runner) : (fuel : Nat) → Head → Sh Head
  | 0, h => pure h
  | fuel + 1, h => do
    match h.words.texts with
    | [] => pure h
    | name :: args => do
      let meaning ← innerMeaning? h.functions name
      let h := { h with meaning := meaning }
      match meaning with
      | some (.builtin b) => do
        let h := { h with special := some (h.special.getD (isSpecialName b)) }
        if b ≠ "command" then pure h
        else do
          let behind ← behindCommand runner optionFuel h.places [] ⟨args, h.words.rest⟩
          if behind.runs then
            findHead runner fuel { h with
              passed := h.passed ++ name :: behind.passed, words := behind.words
              functions := false, places := behind.places }
          else
            pure { h with words :=
              ⟨name :: behind.passed ++ behind.words.texts, behind.words.rest⟩ }
      | _ => pure h

/-- the texts of all words behind a head -/
def expandRest (runner : Runner) (h : Head) : Sh (List OctetText) := do
  let assigns := match h.meaning with
    | some (.builtin b) => takesAssignments b
    | _ => false
  let rest ← if assigns then expandAssignments runner h.words.rest
    else expandAll runner h.words.rest
  pure (h.words.texts ++ rest)

/-! ## programs -/

/-- where a program can be, from the place where it was found on -/
def programPaths (c : Context) (places : Option OctetText) (place : Option Nat)
    (name : OctetText) : List OctetText :=
  match place with
  | none => [name]
  | some place =>
    let places := placesOf (if places.isSome then places else c.value? "PATH")
    (places.drop place).map fun p => pathIn p name

/-- whether a file is a text, as far as its first line tells -/
def isText (path : OctetText) : Sh Bool := do
  match ← sys (.openFile path .read openPermissions) with
  | .error _ => pure true
  | .ok fd => do
    let start ← readOn fd 256 waitFuel
    let _ ← sys (.close fd)
    pure (!(start.toList.takeWhile (· != '\n')).contains '\x00')

/-- the shell that runs scripts without an interpreter -/
def scriptShell : OctetText := "/bin/sh"

/-- executes the first file that can be executed, in place of the shell; a text without an
interpreter is a script -/
def executeFirst (args : List OctetText) (vars : Variables) (fault : SystemFault) :
    List OctetText → Sh SystemFault
  | [] => pure fault
  | path :: paths => do
    let e ← sys (.execute path args vars)
    let e ← if e = .noExec then do
        if ← isText path then sys (.execute scriptShell (scriptShell :: path :: args.drop 1) vars)
        else pure e
      else pure e
    executeFirst args vars (if e = .notFound || e = .notDirectory then fault else e) paths

/-- the status of a shell that could not execute a program -/
def executionStatus (e : SystemFault) : Nat :=
  if e = .notFound || e = .notDirectory || e = .tooManyLinks || e = .nameTooLong then 127 else 126

/-- executes a program in place of the shell, or ends the shell -/
def executeProgram {α : Type} (places : Option OctetText) (place : Option Nat)
    (args : List OctetText) : Sh α := do
  let c ← get
  let name := args.head?.getD ""
  let e ← executeFirst args c.exported .notFound (programPaths c places place name)
  complain (name ++ ": " ++ executionFault e)
  leave (.exit (executionStatus e))

/-- runs a program, in a process of its own unless nothing is left to do after it -/
def runProgram (evaluate : Evaluate) (mode : Mode) (places : Option OctetText)
    (place : Option Nat) (args : List OctetText) : Sh Nat := do
  let c ← get
  if mode.final && !(c.traps.any fun t => !t.2.isEmpty) then executeProgram places place args
  else
    let job ← openJob
    forked evaluate job false (executeProgram places place args)
    waitFor job

/-- executes a program in place of the shell, if one is named -/
def execute : Builtin := fun args => do
  match (← Builtin.readOptions "" "" args).args with
  | [] => pure 0
  | name :: args => executeProgram none (if name.contains '/' then none else some 0) (name :: args)

/-! ## functions -/

/-- how many functions can run in one another -/
def callLimit : Nat := 1000

def callFunction (evaluate : Evaluate) (mode : Mode) (body : Command) (args : List OctetText) :
    Sh Nat := do
  let before ← get
  if callLimit ≤ before.depth then
    abort ("Maximum function recursion depth (" ++ toString callLimit ++ ") reached")
  else
    set { before with positional := .ofList args, loops := 0, depth := before.depth + 1 }
    let run := tryCatch (evaluate mode.inner body) fun l =>
      match l with
      | .returned code _ => pure code
      | l => leave l
    restoring run (modify ({ · with
      positional := before.positional, loops := before.loops, depth := before.depth }))

/-! ## commands of the shell -/

/-- Runs a command of the shell.  What it has written is written when it ends; where that is not
possible, the status says so.  A failure of one that is not `special` is only a status. -/
def runBuiltin (special : Bool) (name : OctetText) (action : Sh Nat) : Sh Nat := do
  let before := (← get).command
  modify ({ · with command := some name })
  let failing (l : Leave) : Sh Nat := do
    flush
    modify ({ · with command := before, outputFault := none })
    match l, special with
    | .failed, false => return (← get).status
    | l, _ => leave l
  let ending : Sh Nat := do
    let status ← action
    flush
    let isLost := (← get).outputFault.isSome
    if isLost then complain (name ++ ": I/O error")
    pure (if isLost then status ||| 1 else status)
  let status ← tryCatch ending failing
  modify ({ · with command := before, outputFault := none })
  pure status

/-! ## traces -/

/-- the text of a prompt, in which parameters are expanded -/
def promptText (runner : Runner) (text : OctetText) : Sh OctetText := do
  let r := (grammar textFuel).reading .none
  let s := (Scanner.ofText text.toList 1 true []).inLanguage (← get).extended false
  match readParts r textFuel .document false (.empty 1) s with
  | .done b _ => expandDocument runner b.toWord
  | _ => pure text

/-- shows a command before it is run -/
def trace (runner : Runner) (fd : Nat) (texts : List OctetText) : Sh Unit := do
  let c ← get
  if c.isOn .trace && !c.showing then
    modify ({ · with showing := true })
    let start ← restoring (promptText runner ((c.value? "PS4").getD ""))
      (modify ({ · with showing := false }))
    writeTo fd (start ++ " ".intercalate texts ++ "\n")

/-! ## the whole -/

/-- assigns the variables of a command in order, those of its own when it is `isLocal`; the
assignments as they are shown -/
def assignAll (runner : Runner) (isLocal exports : Bool) :
    List Word → Sh (List OctetText)
  | [] => pure []
  | w :: ws => do
    let (name, word) := (assignment? w).getD ("", [])
    let value ← expandValue runner word
    if isLocal then makeLocal name (some value) .ofExport
    else assignMarked name (some value) (if exports then .ofExport else .none)
    return (name ++ "=" ++ value) :: (← assignAll runner isLocal exports ws)

/-- runs what the first word stands for -/
def runMeaning (evaluate : Evaluate) (mode : Mode) (h : Head) (args : List OctetText) :
    Sh Nat := do
  match args with
  | [] => return (← get).captured
  | name :: rest =>
    match h.meaning with
    | some (.builtin b) =>
      if b = "exec" then runBuiltin h.isSpecial name (execute rest)
      else
        match Builtin.find? evaluate mode b with
        | some action => runBuiltin h.isSpecial name (action rest)
        | none => pure 0
    | some (.function body) => callFunction evaluate mode body rest
    | some (.program place) => runProgram evaluate mode h.places place args
    | _ => do
      match ← findProgram h.places name with
      | .ok place => runProgram evaluate mode h.places (some place) args
      | .error e => do
        complain (name ++ ": " ++ executionFault e)
        pure 127

/-- whether the redirections of a command stay -/
def keepsRedirections (h : Head) : Bool :=
  match h.meaning with
  | some (.builtin b) => b == "exec"
  | _ => false

/-- runs a simple command -/
def runSimple (evaluate : Evaluate) (mode : Mode) (line : Nat) (assignments words : List Word)
    (rs : List Redirection) : Sh Nat := do
  modify fun c => { c with line := line, captured := 0 }
  let runner := runnerOf evaluate
  let h ← findHead runner optionFuel (.ofWords (← firstTexts runner words))
  let args ← expandRest runner h
  let keeps := keepsRedirections h
  let isLocal := !args.isEmpty && !h.isSpecial
  let run (kept : List Kept) : Sh Nat := do
    let shown ← assignAll runner isLocal (keeps && 1 < args.length) assignments
    trace runner (messagesOf kept) (shown ++ h.passed ++ args)
    runMeaning evaluate mode h args
  let redirected : Sh Nat := do
    match ← redirectAll runner [] (← resolveAll runner rs) with
    | none => do
      setStatus 2
      if h.isSpecial then leave .failed else pure 2
    | some kept =>
      if keeps then do
        let status ← run kept
        forget kept
        pure status
      else restoring (run kept) (putBack kept)
  if isLocal then inFrame redirected else redirected

/-- looks up the program that a command names, so that it is remembered -/
def lookAhead : Command → Sh Unit
  | .simple _ _ (w :: _) _ => do
    match bareText? w with
    | some name =>
      if isName name.toList then let _ ← meaning true none name
    | none => pure ()
  | _ => pure ()

end ShellWorkers.Script
