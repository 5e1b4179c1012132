import ShellWorkers.Machine.Permissions
import ShellWorkers.Script.Braces
import ShellWorkers.Script.Computation
import ShellWorkers.Script.References

/-!
# Parameters in words

What stands in a word for a parameter, a computation or a home directory.
-/

/-!
## Values in words

What a text or the value of a parameter becomes in an expanded word, by what the word is expanded
for.  What runs the commands inside words is a `Runner`, so that words can be understood without
knowing how commands are run.
-/

namespace ShellWorkers.Script

open Machine
open Text (OctetText)

/-- what runs the commands inside words -/
structure Runner where
  /-- what a command writes -/
  output : Command → Sh OctetText
  /-- a path under which the output of a command can be read, or its input written -/
  path : (isRead : Bool) → Command → Sh OctetText

/-- what a word is expanded for -/
structure Purpose where
  /-- it becomes fields -/
  fields : Bool
  /-- it is the value of an assignment: colons separate paths in it -/
  assignment : Bool
  /-- it stands for a parameter: its text is cut as a value would be -/
  cutsText : Bool

namespace Purpose

def text : Purpose := ⟨false, false, false⟩
def fieldsOf : Purpose := ⟨true, false, false⟩
def value : Purpose := ⟨false, true, false⟩

end Purpose

/-! ### tildes -/

/-- the directory that a tilde and a name stand for -/
def homeOf? (c : Context) (user : List Char) : Option OctetText :=
  if user.isEmpty then c.value? "HOME"
  else if c.extended && user = ['+'] then c.value? "PWD"
  else if c.extended && user = ['-'] then c.value? "OLDPWD"
  else (accountNamed? (String.ofList user)).map (·.home)

/-- the symbols of a text; a tilde that begins it stands for a home directory, if the name behind
it ends within the text or `isLast` -/
def tildeSymbols (c : Context) (isLast : Bool) (cs : List Char) : List Symbol :=
  let plain := cs.map (.char · false)
  match cs with
  | '~' :: rest =>
    let user := rest.takeWhile (· != '/')
    let after := rest.drop user.length
    if after.isEmpty && !isLast then plain
    else
      match homeOf? c user with
      | some home => symbolsOf true home ++ after.map (.char · false)
      | none => plain
  | _ => plain

/-- a text cut behind its colons -/
def cutAtColons : List Char → List (List Char)
  | [] => [[]]
  | c :: cs =>
    match cutAtColons cs with
    | [] => [[c]]
    | piece :: pieces => if c = ':' then [c] :: piece :: pieces else (c :: piece) :: pieces

/-- the same for the pieces of a text, the name behind a tilde ending at a colon too -/
def piecesSymbols (c : Context) (isLast tilde : Bool) : List (List Char) → List Symbol
  | [] => []
  | piece :: pieces =>
    let (body, colon) := if piece.getLast? == some ':' then (piece.dropLast, [Symbol.char ':' false])
      else (piece, [])
    (if tilde then tildeSymbols c (isLast || !pieces.isEmpty) body else body.map (.char · false))
      ++ colon ++ piecesSymbols c isLast true pieces

/-- the segment of a text outside of quotes -/
def textSegment (c : Context) (p : Purpose) (tilde isLast : Bool) (text : OctetText) : Segment :=
  let cs := text.toList
  let symbols :=
    if p.assignment then piecesSymbols c isLast tilde (cutAtColons cs)
    else if tilde then tildeSymbols c isLast cs
    else cs.map (.char · false)
  if !p.cutsText then ⟨.whole, symbols⟩
  else if symbols.any (fun s => match s with | .char _ q => q | .mark => false) then ⟨.whole, symbols⟩
  else ⟨.value, symbols⟩

/-! ### values -/

/-- the segment of a value -/
def valueSegment (quoted : Bool) (text : OctetText) : Segment :=
  ⟨if quoted then .whole else .value, symbolsOf quoted text⟩

/-- what a parameter is: texts with what stands between them, or nothing -/
structure ParameterValue where
  texts : List OctetText
  between : List Char

namespace ParameterValue

def text (v : ParameterValue) : OctetText := (String.ofList v.between).intercalate v.texts

end ParameterValue

/-- the value of a parameter; the positional ones together stand apart by zeros where they are to
become fields, else by the first separator -/
def parameterValue? (c : Context) (p : Purpose) (name : OctetText) (quoted : Bool) :
    Option ParameterValue :=
  if name = "@" || name = "*" then
    let between := if p.fields && (!quoted || name = "@") then [parameterEnd]
      else if c.extended && name = "@" then [' ']
      else c.separators.take 1
    some ⟨c.positional.values, if (c.value? "IFS").isNone && between.isEmpty then [' '] else between⟩
  else if c.extended && (name.toList.head?.map isNameStart) == some true then
    ((c.seen? (c.meant name)).bind Variable.value?).map fun value => ⟨[value], []⟩
  else (c.parameter? name).map fun value => ⟨[value], []⟩

/-- the segment of a parameter's value -/
def parameterSegment (c : Context) (name : OctetText) (quoted : Bool) (text : OctetText) : Segment :=
  ⟨if quoted then
      (if name = "@" && !c.positional.values.isEmpty then .parameters else .whole)
    else .value,
    symbolsOf quoted text⟩

/-! ### cutting ends off in the standard language -/

/-- applies a cut to a text up to the first parameter end, beyond which nothing is left -/
def cutText (cut : List Char → List Char) (text : OctetText) : OctetText :=
  String.ofList (cut (text.toList.takeWhile (· != parameterEnd)))

end ShellWorkers.Script

/-!
## Parameters in braces in the extended language

A reference has one text or a list of texts as its value, and its use makes other texts of them
(`referenceSegments`).
-/

namespace ShellWorkers.Script

open Machine
open Text (OctetText)

/-! ### unset parameters -/

/-- fails because a parameter is not set; this ends the shell -/
def abortUnset {α : Type} (name message : OctetText) : Sh α := do
  if (← get).extended then do
    complain (name ++ ": " ++ message)
    leave (.exit (if (← get).extras.source = "environment" then 127 else 1))
  else abort (name ++ ": " ++ message)

/-- how a message names a parameter -/
def parameterTitle (name : OctetText) : OctetText :=
  if (name.toList.head?.map isNameStart) == some true then name else "$" ++ name

/-! ### parameters of the extended language -/

/-- the value of a reference -/
structure Referred where
  /-- the texts; none if nothing is set -/
  texts : Option (List OctetText)
  /-- there can be any number of them -/
  isList : Bool
  /-- they are those of a star, which stand together between quotes -/
  isStar : Bool
  /-- the variable that it belongs to, if there is one -/
  owner : Option Variable
  /-- the name in messages -/
  title : OctetText

namespace Referred

def text (v : Referred) : OctetText := " ".intercalate (v.texts.getD [])

/-- whether there is a value; an empty one may not count -/
def isThere (v : Referred) (orEmpty : Bool) : Bool :=
  match v.texts with
  | none => false
  | some texts => !(v.isList && texts.isEmpty) && !(orEmpty && v.text.isEmpty)

end Referred

/-- the value of a name with the text of its subscript, if it has one -/
def refer (name : OctetText) (subscript : Option OctetText) : Sh Referred := do
  let c ← get
  let one (title : OctetText) (v? : Option Variable) (text : Option OctetText) : Referred :=
    ⟨text.map fun t => [t], false, false, v?, title⟩
  match subscript with
  | none =>
    if name = "@" || name = "*" then
      pure ⟨some c.positional.values, true, name == "*", none, "$" ++ name⟩
    else if (name.toList.head?.map isNameStart) == some true then
      if c.isFresh name then return one name none (some (← freshNumber name))
      else
        let target := c.meant name
        match Context.splitSubscript target with
        | (base, none) => pure (one name (c.seen? base) ((c.seen? base).bind Variable.value?))
        | (base, some inner) => do
          let key ← keyOf base inner
          pure (one name (c.seen? base) (key.bind fun key => (c.seen? base).bind (·.element? key)))
    else pure (one (parameterTitle name) none (c.parameter? name))
  | some subscript => do
    let name := c.meant name
    let v? := c.seen? name
    if subscript = "@" || subscript = "*" then
      pure ⟨v?.map fun v => v.entries.map Prod.snd, true, subscript == "*", v?,
        name ++ "[" ++ subscript ++ "]"⟩
    else
      let title := name ++ "[" ++ subscript ++ "]"
      if (subscript.toList.dropWhile isNumberBlank).isEmpty then pure (one title v? none)
      else
        match ← keyOf name subscript with
        | some key => pure (one title v? (v?.bind (·.element? key)))
        | none => do
          complain (name ++ ": bad array subscript")
          pure (one title v? none)

/-- the segments of texts that a reference has for its value -/
def listSegment (c : Context) (p : Purpose) (quoted isStar : Bool) (texts : List OctetText) :
    Segment :=
  let apart := p.fields && (!quoted || !isStar)
  let between : OctetText :=
    if apart then String.ofList [parameterEnd]
    else if isStar && (quoted || !p.fields) then
      (if (c.value? "IFS").isNone then " " else String.ofList (c.separators.take 1))
    else " "
  let text := between.intercalate texts
  if quoted then
    ⟨if isStar || texts.isEmpty then .whole else .parameters, symbolsOf true text⟩
  else ⟨.value, symbolsOf false text⟩

/-- the segments of a value of a reference, where each text has become another one -/
def referredSegments (c : Context) (p : Purpose) (quoted : Bool) (v : Referred)
    (change : OctetText → OctetText) : List Segment :=
  let texts := (v.texts.getD []).map change
  if v.isList then [listSegment c p quoted v.isStar texts]
  else [valueSegment quoted (" ".intercalate texts)]

/-- the part of a text that begins at a number and has a length -/
def sliceText (text : OctetText) (start : Int) (length : Option (OctetText × Int)) :
    Sh OctetText := do
  let cs := text.toList
  match placeIn cs.length start with
  | none => pure ""
  | some first =>
    match length with
    | none => pure (String.ofList (cs.drop first))
    | some (written, n) =>
      match partEnd cs.length first n with
      | some last => pure (String.ofList ((cs.drop first).take (last - first)))
      | none => abort (written ++ ": substring expression < 0")

/-- the part of the elements of a list that begins at a number and has a length -/
def sliceList (c : Context) (v : Referred) (start : Int) (length : Option (OctetText × Int)) :
    Sh (List OctetText) := do
  let all : List (Nat × OctetText) := match v.owner with
    | some owner =>
      match owner.items with
      | .list elements => elements
      | _ => ((v.texts.getD []).zipIdx).map fun (text, n) => (n, text)
    | none => ((c.name :: c.positional.values).zipIdx).map fun (text, n) => (n, text)
  let size : Int := Items.nextNumber all
  let first := if start < 0 then start + size else start
  let rest := if first < 0 then [] else all.filter fun e => first ≤ (e.1 : Int)
  match length with
  | none => pure (rest.map Prod.snd)
  | some (written, n) =>
    if n < 0 then abort (written ++ ": substring expression < 0")
    else pure ((rest.take n.toNat).map Prod.snd)

/-- the names of the variables that begin with a text -/
def namesFrom (c : Context) (start : OctetText) : List OctetText :=
  ((c.vars.map Variable.name).filter (·.startsWith start)).mergeSort fun a b =>
    !FileTree.precedes b.toList a.toList

/-- the pattern that expanded segments are in the extended language -/
def groupPatternOf (c : Context) (ss : List Segment) : GroupPattern :=
  GroupPattern.ofMarked (c.extras.features.contains "extglob") (symbolsMarked (segmentsSymbols ss))

/-- gives the value of an assignment inside of a reference -/
def assignReferred (name : OctetText) (subscript : Option OctetText) (value : OctetText) :
    Sh Unit := do
  if (name.toList.head?.map isNameStart) != some true then
    abort ("$" ++ name ++ ": cannot assign in this way")
  else
    match subscript with
    | none => Computation.store computationFuel name value
    | some subscript => Computation.store computationFuel (name ++ "[" ++ subscript ++ "]") value

/-- The segments of a reference with the text of its subscript.  Its words are expanded when their
values are needed. -/
def referenceSegments (p : Purpose) (r : Reference) (key : Option OctetText)
    (word : Purpose → (tilde : Bool) → Sh (List Segment)) (hasNoWord : Bool)
    (second : Purpose → (tilde : Bool) → Sh (List Segment)) : Sh (List Segment) := do
  let isReference := (((← get).var? r.name).map fun v => v.traits.isName) == some true
  if r.indirect && isReference && key.isNone then
    return [valueSegment r.quoted ((← get).meant r.name)]
  let (name, key) ← if r.indirect then do
      let v ← refer r.name key
      match v.texts with
      | none => abort (r.name ++ ": invalid indirect expansion")
      | some _ =>
        let (base, subscript) := Context.splitSubscript v.text
        let isParameter := isName base.toList || (!base.isEmpty && base.toList.all Char.isDigit)
          || (match base.toList with
            | [c] => isSpecialParameter c
            | _ => false)
        if isParameter then pure (base, subscript)
        else abort (v.text ++ ": invalid variable name")
    else pure (r.name, key)
  let c ← get
  let quoted := r.quoted
  match r.use with
  | .bad => abort (r.source ++ ": bad substitution")
  | .names => do
    let isStar := r.source.endsWith "*\x7d"
    pure [listSegment c p quoted isStar (namesFrom c name)]
  | .subscripts => do
    let isStar := key == some "*"
    let keys := ((c.seen? (c.meant name)).map fun v => v.entries.map Prod.fst).getD []
    pure [listSegment c p quoted isStar keys]
  | use => do
    let v ← refer name key
    let checkSet : Sh Unit :=
      if v.texts.isNone && !v.isList && c.isOn .noUnset then
        abortUnset v.title "unbound variable"
      else pure ()
    let isThere := v.isThere r.orEmpty
    let changed (f : OctetText → OctetText) : Sh (List Segment) :=
      pure (referredSegments c p quoted v f)
    let pattern : Sh GroupPattern := do return groupPatternOf c (← word .text true)
    let inWord : Purpose := { p with cutsText := true }
    let isAbsent := v.texts.isNone && !v.isList
    match use with
    | .length => do
      checkSet
      let n := if v.isList then (v.texts.getD []).length else v.text.length
      pure [valueSegment quoted (toString n)]
    | .default => if isThere then changed id else word inWord true
    | .alternative => if isThere then word inWord true else pure []
    | .assign =>
      if isThere then changed id
      else do
        assignReferred name key (segmentsText (← word .text true))
        let v ← refer name key
        pure (referredSegments (← get) p quoted v id)
    | .error =>
      if isThere then changed id
      else do
        let text := segmentsText (← word .text true)
        abortUnset v.title
          (if hasNoWord then
            (if r.orEmpty then "parameter null or not set" else "parameter not set") else text)
    | .withoutSuffix longest => do
      checkSet
      let pattern ← if isAbsent then pure [] else pattern
      changed fun text => String.ofList (withoutDescribedEnd longest pattern text.toList)
    | .withoutPrefix longest => do
      checkSet
      let pattern ← if isAbsent then pure [] else pattern
      changed fun text => String.ofList (withoutDescribedStart longest pattern text.toList)
    | .slice hasLength => do
      checkSet
      if isAbsent then pure [valueSegment quoted ""]
      else
        let start ← compute (segmentsText (← word .text false))
        let length ← if hasLength then do
            let written := segmentsText (← second .text false)
            pure (some (written, ← compute written))
          else pure none
        if v.isList then
          pure [listSegment c p quoted v.isStar (← sliceList c v start length)]
        else pure [valueSegment quoted (← sliceText v.text start length)]
    | .replaced place => do
      checkSet
      if isAbsent then pure [valueSegment quoted ""]
      else
        let pattern ← pattern
        let by_ := segmentsSymbols (← second .text true)
        changed (replaceIn place pattern by_)
    | .recased change all => do
      checkSet
      let pattern ← if isAbsent then pure [] else pattern
      changed (recase change all pattern)
    | .transformed form => do
      checkSet
      if v.texts.isNone && !(form = 'a' || form = 'A') then pure []
      else
        match v.isList, form, v.owner with
        | true, 'A', some owner => pure [valueSegment quoted (declaration owner)]
        | true, 'K', some owner => pure [valueSegment quoted (keyedElements owner)]
        | true, 'k', some owner =>
          pure [listSegment c p quoted v.isStar (owner.entries.flatMap fun e => [e.1, e.2])]
        | true, 'a', some owner => changed fun _ => variableLetters owner
        | _, 'a', owner =>
          pure [valueSegment quoted ((owner.map variableLetters).getD "")]
        | _, form, owner => changed (transform form owner)
    | _ => do
      checkSet
      changed id

end ShellWorkers.Script
