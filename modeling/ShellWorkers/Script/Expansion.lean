import ShellWorkers.Script.References
import ShellWorkers.Script.Referring

/-!
# Expansion

Words become fields, and fields that are patterns become file names.
-/

/-!
## File names for patterns

A field that is a pattern stands for the paths that it describes: each component of it for the
names in the directory before it.  In the extended language features say more about how names are
described (`PathRules`).
-/

namespace ShellWorkers.Script

open Machine
open Text (OctetText)

/-- the text that marked characters stand for as part of a path -/
def nameOf : (fuel : Nat) → List MarkedChar → List Char
  | 0, _ => []
  | fuel + 1, cs =>
    match Pattern.nextChar cs with
    | none => []
    | some (c, rest) => c :: nameOf fuel rest

def nameText (cs : List MarkedChar) : OctetText := String.ofList (nameOf cs.length cs)

/-- marked characters cut at separators, which a backslash may stand before -/
def splitPath : List MarkedChar → List (List MarkedChar)
  | [] => [[]]
  | ('\\', false) :: ('/', _) :: cs => [] :: splitPath cs
  | c :: cs =>
    if c.1 = '/' then [] :: splitPath cs
    else
      match splitPath cs with
      | [] => [[c]]
      | f :: fs => (c :: f) :: fs

/-- the names in a directory that a component describes -/
def namesDescribed (dir : OctetText) (component : List MarkedChar) : Sh (List OctetText) := do
  match ← sys (.names (if dir.isEmpty then "." else dir)) with
  | .error _ => pure []
  | .ok names =>
    let pattern := Pattern.ofMarked component
    let hidden := (Pattern.nextChar component).map Prod.fst == some '.'
    let names := if hidden then "." :: ".." :: names else names
    pure (names.filter fun name =>
      (hidden || name.toList.head? != some '.') && Pattern.matchesText pattern name.toList)

/-- the paths below a directory that components describe; `found` says that a component before
them was a pattern -/
def pathsDescribed (dir : OctetText) (found : Bool) : List (List MarkedChar) → Sh (List OctetText)
  | [] => pure []
  | component :: rest => do
    if Pattern.isProper component then
      let names ← namesDescribed dir component
      match rest with
      | [] => pure (names.map (dir ++ ·))
      | rest => do
        let paths ← names.mapM fun name => pathsDescribed (dir ++ name ++ "/") true rest
        pure paths.flatten
    else
      let path := dir ++ nameText component
      match rest with
      | [] =>
        if !found then pure []
        else
          match ← sys (.status path false) with
          | .ok _ => pure [path]
          | .error _ => pure []
      | rest => pathsDescribed (path ++ "/") found rest

/-! ### the extended language -/

/-- how names are described -/
structure PathRules where
  /-- patterns can have groups -/
  groups : Bool
  /-- names that begin with a dot are described like others -/
  hidden : Bool
  /-- the cases of letters are the same -/
  folds : Bool
  /-- two stars describe any number of directories -/
  deep : Bool

namespace PathRules

/-- whether a group begins somewhere in a component -/
def hasGroup : List MarkedChar → Bool
  | [] => false
  | (c, quoted) :: rest => (!quoted && GroupPattern.opensGroup c rest) || hasGroup rest

/-- whether a component of a path is more than a name -/
def isProper (k : PathRules) (component : List MarkedChar) : Bool :=
  Pattern.isProper component || (k.groups && hasGroup component)

/-- whether a name is one that a component can describe -/
def mayName (k : PathRules) (component : List MarkedChar) (name : OctetText) : Bool :=
  name ≠ "." && name ≠ ".."
    && (k.hidden || name.toList.head? != some '.'
      || (Pattern.nextChar component).map Prod.fst == some '.')

/-- the names in a directory that a component describes -/
def names (k : PathRules) (dir : OctetText) (component : List MarkedChar) :
    Sh (List OctetText) := do
  match ← sys (.names (if dir.isEmpty then "." else dir)) with
  | .error _ => pure []
  | .ok names =>
    let pattern := GroupPattern.ofMarked k.groups component
    pure (names.filter fun name =>
      k.mayName component name && GroupPattern.matchesText k.folds pattern name.toList)

/-- whether a component stands for any number of directories -/
def isDeep (k : PathRules) (component : List MarkedChar) : Bool :=
  k.deep && component == [('*', false), ('*', false)]

/-- what is in a directory and below it: paths, and whether they are directories -/
def below (k : PathRules) : (fuel : Nat) → (dir : OctetText) → Sh (List (OctetText × Bool))
  | 0, _ => pure []
  | fuel + 1, dir => do
    let names ← k.names dir [('*', false)]
    let parts ← names.mapM fun name => do
      match ← sys (.status (dir ++ name) false) with
      | .ok s =>
        if s.kind == .directory then do
          let inner ← below k fuel (dir ++ name ++ "/")
          pure ((dir ++ name, true) :: inner)
        else pure [(dir ++ name, false)]
      | .error _ => pure []
    pure parts.flatten

/-- how deep directories are in one another -/
def depthFuel : Nat := 4096

/-- the paths below a directory that components describe; `found` says that a component before
them was a pattern -/
def paths (k : PathRules) (dir : OctetText) (found : Bool) : List (List MarkedChar) →
    Sh (List OctetText)
  | [] => pure []
  | component :: rest => do
    if k.isDeep component then do
      let inside ← below k depthFuel dir
      match rest with
      | [] =>
        pure ((if dir.isEmpty then [] else [dir]) ++ inside.map Prod.fst)
      | rest => do
        let dirs := dir :: (inside.filter (·.2)).map fun d => d.1 ++ "/"
        let found ← dirs.mapM fun dir => paths k dir true rest
        pure found.flatten
    else if k.isProper component then do
      let names ← k.names dir component
      match rest with
      | [] => pure (names.map (dir ++ ·))
      | rest => do
        let found ← names.mapM fun name => paths k (dir ++ name ++ "/") true rest
        pure found.flatten
    else
      let path := dir ++ nameText component
      match rest with
      | [] =>
        if !found then pure []
        else if component.isEmpty then
          match ← sys (.status path true) with
          | .ok s => pure (if s.kind == .directory then [path] else [])
          | .error _ => pure []
        else
          match ← sys (.status path false) with
          | .ok _ => pure [path]
          | .error _ => pure []
      | rest => paths k (path ++ "/") found rest

end PathRules

end ShellWorkers.Script

/-!
## Expanding words

A word is expanded to segments of symbols (`wordSegments`).  Where a command takes arguments, the
segments become fields, and a field that is a pattern becomes the names of the files it describes
(`expandFields`); elsewhere they are a text (`expandText`).
-/

namespace ShellWorkers.Script

open Machine
open Text (OctetText)

/-! ### words -/

mutual

/-- the segments of one part; `tilde` says that a tilde may begin it, and `isLast` that no part
follows.  `runner` runs a command and answers what it writes. -/
def partSegments (runner : Runner) (p : Purpose) (tilde isLast : Bool) :
    Part → Sh (List Segment)
  | .subscript word => do
    let inner ← wordSegments runner p false word
    return ⟨.whole, symbolsOf false "["⟩ :: inner ++ [⟨.whole, symbolsOf false "]"⟩]
  | .elements _ => pure []
  | .source _ => pure []
  | .process isRead body => do return [valueSegment true (← runner.path isRead body)]
  | .reference r subscript word second => do
    let key ← wordSegments runner .text false subscript
    let key := if subscript.isEmpty then none else some (segmentsText key)
    referenceSegments p r key (fun q tilde => wordSegments runner q tilde word) word.isEmpty
      (fun q tilde => wordSegments runner q tilde second)
  | .text value true => pure [⟨.whole, if value.isEmpty then [.mark] else symbolsOf true value⟩]
  | .text value false => do return [textSegment (← get) p tilde isLast value]
  | .command body quoted => do return [valueSegment quoted (← runner.output body)]
  | .arithmetic expression quoted => do
    let text := segmentsText (← wordSegments runner .text false expression)
    let n ← if (← get).extended then compute text else Expression.value text
    return [valueSegment quoted (toString n)]
  | .parameter name use orEmpty word quoted => do
    let c ← get
    let value? ← if c.isFresh name then do
        pure (some ⟨[← freshNumber name], []⟩)
      else pure (parameterValue? c p name quoted)
    let text := ((value?.map ParameterValue.text).getD "")
    let isThere := value?.isSome && !(orEmpty && text.isEmpty)
    let here := [parameterSegment c name quoted text]
    let checkSet : Sh Unit :=
      if value?.isNone && c.isOn .noUnset then
        if c.extended then abortUnset (parameterTitle name) "unbound variable"
        else abortUnset name "parameter not set"
      else pure ()
    let inWord : Purpose := { p with cutsText := true }
    match use with
    | .bad => abort "Bad substitution"
    | .plain => do
      checkSet
      pure here
    | .length => do
      checkSet
      return [valueSegment quoted (toString text.length)]
    | .default => if isThere then pure here else wordSegments runner inWord true word
    | .alternative => if isThere then wordSegments runner inWord true word else pure []
    | .assign =>
      if isThere then pure here
      else do
        assign name (segmentsText (← wordSegments runner .text true word))
        let c ← get
        let text := ((parameterValue? c p name quoted).map ParameterValue.text).getD ""
        return [parameterSegment c name quoted text]
    | .error =>
      if isThere then pure here
      else do
        let text := segmentsText (← wordSegments runner .text true word)
        abortUnset name
          (if word.isEmpty then "parameter not set" ++ (if orEmpty then " or null" else "") else text)
    | .withoutSuffix longest => do
      checkSet
      let symbols := segmentsSymbols (← wordSegments runner .text true word)
      let cut := Pattern.withoutEnd longest (Pattern.ofMarked (symbolsMarked symbols))
      return [parameterSegment c name quoted (cutText cut text)]
    | .withoutPrefix longest => do
      checkSet
      let symbols := segmentsSymbols (← wordSegments runner .text true word)
      let cut := Pattern.withoutStart longest (Pattern.ofMarked (symbolsMarked symbols))
      return [parameterSegment c name quoted (cutText cut text)]
    | _ => pure here

/-- the segments of a word -/
def wordSegments (runner : Runner) (p : Purpose) (tilde : Bool) :
    List Part → Sh (List Segment)
  | [] => pure []
  | part :: rest => do
    let first ← partSegments runner p tilde rest.isEmpty part
    return first ++ (← wordSegments runner p false rest)

end

/-- the text of a word that is neither cut nor read as a pattern -/
def expandText (runner : Runner) (w : Word) : Sh OctetText := do
  return segmentsText (← wordSegments runner .text true w)

/-- the value of an assignment -/
def expandValue (runner : Runner) (w : Word) : Sh OctetText := do
  return segmentsText (← wordSegments runner .value true w)

/-- the text of a document -/
def expandDocument (runner : Runner) (w : Word) : Sh OctetText := do
  return segmentsText (← wordSegments runner .text false w)

def expandPattern (runner : Runner) (w : Word) : Sh Pattern := do
  return Pattern.ofMarked (symbolsMarked (segmentsSymbols (← wordSegments runner .text true w)))

/-- the pattern of the extended language that a word is -/
def expandGroupPattern (runner : Runner) (groups : Bool) (w : Word) : Sh GroupPattern := do
  let segments ← wordSegments runner .text true w
  pure (GroupPattern.ofMarked groups (symbolsMarked (segmentsSymbols segments)))

/-! ### fields -/

/-- paths in their order -/
def inOrder (paths : List OctetText) : List OctetText :=
  paths.mergeSort fun a b => !FileTree.precedes b.toList a.toList

/-- the texts that a field stands for in the extended language -/
def extendedFieldTexts (field : List Symbol) : Sh (List OctetText) := do
  let c ← get
  let has (feature : OctetText) : Bool := c.extras.features.contains feature
  let k : PathRules := ⟨has "extglob", has "dotglob", has "nocaseglob", has "globstar"⟩
  let components := splitPath (symbolsMarked field)
  if components.any k.isProper && !c.isOn .noPatterns then
    match ← k.paths "" false components with
    | [] =>
      if has "nullglob" then pure []
      else if has "failglob" then abort ("no match: " ++ symbolsText field)
      else pure [symbolsText field]
    | paths => pure (inOrder paths)
  else pure [symbolsText field]

/-- the texts that a field stands for -/
def fieldTexts (field : List Symbol) : Sh (List OctetText) := do
  let components := splitPath (symbolsMarked field)
  if components.any Pattern.isProper && !(← isOn .noPatterns) then
    match ← pathsDescribed "" false components with
    | [] => pure [symbolsText field]
    | paths => pure (inOrder paths)
  else pure [symbolsText field]

/-- a word that assigns, cut behind the sign -/
def cutAssignment? (w : Word) : Option (Word × Word) :=
  let cut (before : Word) (value : OctetText) (rest : Word) (name : List Char) :
      Option (Word × Word) := do
    let (append, after) ← assignmentSign? (value.toList.drop name.length)
    let sign := String.ofList name ++ (if append then "+=" else "=")
    some (before ++ [.text sign false],
      if after.isEmpty then rest else .text (String.ofList after) false :: rest)
  match w with
  | .text name false :: .subscript s :: .text value false :: rest =>
    if isName name.toList then cut [.text name false, .subscript s] value rest [] else none
  | .text value false :: rest =>
    let name := value.toList.takeWhile isNameChar
    if isName name then cut [] value rest name else none
  | _ => none

/-- the segments of an argument; tildes in what it would assign stand for directories too, in the
extended language -/
def argumentSegments (runner : Runner) (w : Word) : Sh (List Segment) := do
  match if (← get).extended then cutAssignment? w else none with
  | some (start, value) => do
    let first ← wordSegments runner .fieldsOf false start
    return first ++ (← wordSegments runner { Purpose.fieldsOf with assignment := true } true value)
  | none => wordSegments runner .fieldsOf true w

/-- the texts that words without braces stand for as arguments -/
def expandPlainFields (runner : Runner) (texts : List Symbol → Sh (List OctetText)) :
    List Word → Sh (List OctetText)
  | [] => pure []
  | w :: ws => do
    let segments ← argumentSegments runner w
    let first ← (fieldsOf (← get).separators segments).mapM texts
    return first.flatten ++ (← expandPlainFields runner texts ws)

/-- the texts that a word stands for as arguments -/
def expandFields (runner : Runner) (w : Word) : Sh (List OctetText) := do
  let c ← get
  if c.extended then
    expandPlainFields runner extendedFieldTexts (if c.isOn .braces then Braces.expand w else [w])
  else expandPlainFields runner fieldTexts [w]

/-- the texts that words stand for as arguments -/
def expandAll (runner : Runner) : List Word → Sh (List OctetText)
  | [] => pure []
  | w :: ws => do
    let first ← expandFields runner w
    return first ++ (← expandAll runner ws)

end ShellWorkers.Script
