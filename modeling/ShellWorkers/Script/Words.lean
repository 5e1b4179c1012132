import ShellWorkers.Script.Scanner

/-!
# Words

Words of the language, and what the extended language has in them.
-/

/-!
## What the extended language has in words

Quotations in which escapes stand for characters, and parameters in braces with all that can be
asked of them.  Some signs mean something only if the text behind them says so: they are looked
at before they are read.
-/

namespace ShellWorkers.Script

open Text (OctetText)
open ShellWorkers.Script.Parser

/-! ### quotations of the extended language -/

/-- the character that digits of a base stand for, at most `count` of them, and the rest -/
def escapedDigits (base count : Nat) (cs : List Char) : Option (Nat × List Char) :=
  let ds := (cs.take count).takeWhile fun c => (digitOf? c).isSome
  if ds.isEmpty then none
  else some (ds.foldl (fun n c => n * base + (digitOf? c).getD 0) 0, cs.drop ds.length)
where
  digitOf? (c : Char) : Option Nat :=
    let n := if c.isDigit then c.toNat - 48
      else if 'a' ≤ c && c ≤ 'f' then c.toNat - 87
      else if 'A' ≤ c && c ≤ 'F' then c.toNat - 55
      else base
    if n < base then some n else none

/-- what a letter behind a backslash stands for -/
def escapedLetters : List (Char × Nat) :=
  [('a', 7), ('b', 8), ('e', 27), ('E', 27), ('f', 12), ('n', 10), ('r', 13), ('t', 9), ('v', 11),
    ('\\', 92), ('\'', 39), ('"', 34), ('?', 63)]

/-- a character that is no octet, as it is written where it cannot be shown -/
def unshown (letter : Char) (width n : Nat) : List Char :=
  let digits := (Nat.toDigits 16 n).map Char.toUpper
  '\\' :: letter :: List.replicate (width - digits.length) '0' ++ digits

/-- the characters that stand behind a backslash, and the rest -/
def escapeMeaning : List Char → List Char × List Char
  | [] => (['\\'], [])
  | 'x' :: cs => numbered ['\\', 'x'] 16 2 cs
  | 'u' :: cs => wide 'u' 4 cs
  | 'U' :: cs => wide 'U' 8 cs
  | 'c' :: c :: cs => ([Char.ofNat (c.toUpper.toNat % 32)], cs)
  | c :: cs =>
    match escapedLetters.lookup c with
    | some n => ([Char.ofNat n], cs)
    | none => if '0' ≤ c && c ≤ '7' then numbered [] 8 3 (c :: cs) else (['\\', c], cs)
where
  numbered (otherwise : List Char) (base count : Nat) (cs : List Char) : List Char × List Char :=
    match escapedDigits base count cs with
    | some (n, rest) => ([Char.ofNat (n % 256)], rest)
    | none => (otherwise, cs)
  wide (letter : Char) (count : Nat) (cs : List Char) : List Char × List Char :=
    match escapedDigits 16 count cs with
    | some (n, rest) =>
      if n < 128 then ([Char.ofNat n], rest)
      else (if n < 65536 then unshown 'u' 4 n else unshown 'U' 8 n, rest)
    | none => (['\\', letter], cs)

/-- the text in which escapes stand for characters, up to a zero -/
def unescaped : (fuel : Nat) → List Char → List Char
  | 0, _ => []
  | _ + 1, [] => []
  | fuel + 1, '\\' :: cs =>
    let (meaning, rest) := escapeMeaning cs
    if meaning == ['\x00'] then [] else meaning ++ unescaped fuel rest
  | fuel + 1, c :: cs => c :: unescaped fuel cs

/-- the text up to the next single quote without a backslash before it -/
def escapeQuoted (line : Nat) : (fuel : Nat) → List Char → Parser (List Char)
  | 0, _ => exhausted
  | fuel + 1, read => do
    match ← peekRaw with
    | none => failUnclosed line "'" unterminated
    | some '\'' => do skip; pure read.reverse
    | some '\n' => do skipLineEnd; escapeQuoted line fuel ('\n' :: read)
    | some '\\' => do
      skip
      match ← peekRaw with
      | none => failUnclosed line "'" unterminated
      | some '\n' => do skipLineEnd; escapeQuoted line fuel ('\n' :: '\\' :: read)
      | some c => do skip; escapeQuoted line fuel (c :: '\\' :: read)
    | some c => do skip; escapeQuoted line fuel (c :: read)

/-! ### looking ahead -/

/-- the text behind a quoted part, whose opening quote has been passed -/
def behindQuote (quote : Char) : List Char → List Char
  | [] => []
  | '\\' :: c :: cs =>
    if quote = '"' then behindQuote quote cs
    else if c = quote then cs else behindQuote quote cs
  | c :: cs => if c = quote then cs else behindQuote quote cs

/-- the text behind the parenthesis that closes one that has been passed, inside of `depth` others;
nothing if it is not closed -/
def behindParenthesis : (fuel depth : Nat) → List Char → Option (List Char)
  | 0, _, _ => none
  | _ + 1, _, [] => none
  | fuel + 1, depth, c :: cs =>
    if c = '\\' then behindParenthesis fuel depth (cs.drop 1)
    else if c = '\'' || c = '"' then behindParenthesis fuel depth (behindQuote c cs)
    else if c = '(' then behindParenthesis fuel (depth + 1) cs
    else if c = ')' then
      match depth with
      | 0 => some cs
      | depth + 1 => behindParenthesis fuel depth cs
    else behindParenthesis fuel depth cs

/-- the text behind two parentheses that close together those that have been passed; nothing if
these are not closed together -/
def behindBoth : Parser (Option (List Char)) := fun s =>
  match behindParenthesis (s.chars.length + 1) 0 s.chars with
  | some (')' :: rest) => .done (some rest) s
  | some (_ :: _) => .done none s
  | _ => if s.atEnd then .done none s else .more

/-- the text behind the bracket that closes a subscript, whose opening bracket has been passed -/
def behindSubscript : (fuel depth : Nat) → List Char → Option (List Char)
  | 0, _, _ => none
  | _ + 1, _, [] => none
  | fuel + 1, depth, c :: cs =>
    if c = '\\' then behindSubscript fuel depth (cs.drop 1)
    else if c = '\'' || c = '"' then behindSubscript fuel depth (behindQuote c cs)
    else if c = '[' then behindSubscript fuel (depth + 1) cs
    else if c = ']' then
      match depth with
      | 0 => some cs
      | depth + 1 => behindSubscript fuel depth cs
    else if c = '\n' then none
    else behindSubscript fuel depth cs

/-- whether the subscript whose opening bracket comes next is closed in its line -/
def closesSubscript (s : Scanner) : Bool :=
  (behindSubscript (s.chars.length + 1) 0 (s.chars.drop 1)).isSome

/-- whether a subscript, whose opening bracket comes next, is assigned to -/
def isAssigned (s : Scanner) : Bool :=
  match behindSubscript (s.chars.length + 1) 0 (s.chars.drop 1) with
  | some rest => (assignmentSign? rest).isSome
  | none => false

/-- whether a sign begins a group of a pattern -/
def opensGroup (s : Scanner) (c : Char) : Bool :=
  s.groups && ['?', '*', '+', '@', '!'].contains c && (s.chars.drop 1).head? == some '('

/-- whether a process comes next whose input or output has a path -/
def opensProcess (s : Scanner) : Bool :=
  s.extended && (match s.chars with
    | '<' :: '(' :: _ => true
    | '>' :: '(' :: _ => true
    | _ => false)

/-! ### parameters in braces in the extended language -/

/-- the parameter that braces begin with -/
structure ReferenceHead where
  name : OctetText
  length : Bool
  indirect : Bool

/-- the parameter that braces begin with, or nothing if they begin with none -/
def referenceHead (fuel : Nat) : Parser (Option ReferenceHead) := do
  match ← peek with
  | some '#' => do
    let before ← get
    skip
    match ← behindSign fuel before with
    | some name => pure (some ⟨name, true, false⟩)
    | none => pure (some ⟨"#", false, false⟩)
  | some '!' => do
    let before ← get
    skip
    match ← behindSign fuel before with
    | some name => pure (some ⟨name, false, true⟩)
    | none => pure (some ⟨"!", false, false⟩)
  | some c =>
    if isNameStart c then
      return some ⟨String.ofList (← nameChars isNameChar fuel []), false, false⟩
    else if c.isDigit then
      return some ⟨String.ofList (← nameChars Char.isDigit fuel []), false, false⟩
    else if isSpecialParameter c then do
      skip
      pure (some ⟨String.ofList [c], false, false⟩)
    else pure none
  | none => pure none
where
  /-- the parameter behind a sign; nothing if the sign is the parameter -/
  behindSign (fuel : Nat) (before : Scanner) : Parser (Option OctetText) := do
    match ← peek with
    | some c =>
      if isNameStart c then return some (String.ofList (← nameChars isNameChar fuel []))
      else if c.isDigit then return some (String.ofList (← nameChars Char.isDigit fuel []))
      else if isSpecialParameter c then do
        skip
        if (← peek) = some '\x7d' then pure (some (String.ofList [c]))
        else do
          modify fun _ => before
          skip
          pure none
      else pure none
    | none => pure none

/-- the forms of a value that letters stand for -/
def transformations : List Char := ['Q', 'E', 'P', 'A', 'K', 'k', 'a', 'U', 'u', 'L']

/-- the sign behind a parameter in braces: the use that it asks for, and whether an empty value
counts as none; a sign that is none is not taken -/
def referenceSign : Parser (Use × Bool) := do
  match ← peek with
  | some '\x7d' => pure (.plain, false)
  | some ':' => do
    skip
    match ← peek with
    | some '-' => do skip; pure (.default, true)
    | some '=' => do skip; pure (.assign, true)
    | some '?' => do skip; pure (.error, true)
    | some '+' => do skip; pure (.alternative, true)
    | some '\x7d' => pure (.bad, false)
    | _ => pure (.slice false, false)
  | some '-' => do skip; pure (.default, false)
  | some '=' => do skip; pure (.assign, false)
  | some '?' => do skip; pure (.error, false)
  | some '+' => do skip; pure (.alternative, false)
  | some '#' => do
    skip
    return (.withoutPrefix (← doubled '#'), false)
  | some '%' => do
    skip
    return (.withoutSuffix (← doubled '%'), false)
  | some '/' => do
    skip
    match ← peek with
    | some '/' => do skip; pure (.replaced .all, false)
    | some '#' => do skip; pure (.replaced .atStart, false)
    | some '%' => do skip; pure (.replaced .atEnd, false)
    | _ => pure (.replaced .first, false)
  | some '^' => do
    skip
    return (.recased .upper (← doubled '^'), false)
  | some ',' => do
    skip
    return (.recased .lower (← doubled ','), false)
  | some '~' => do
    skip
    return (.recased .other (← doubled '~'), false)
  | some '@' => do
    skip
    match ← peek with
    | some c =>
      if transformations.contains c then do
        skip
        pure (if (← peek) = some '\x7d' then .transformed c else .bad, false)
      else pure (.bad, false)
    | none => pure (.bad, false)
  | _ => pure (.bad, false)
where
  doubled (sign : Char) : Parser Bool := do
    if (← peek) = some sign then do
      skip
      pure true
    else pure false

end ShellWorkers.Script

/-!
## Reading words

A word is read up to a blank, a line end or an operator outside of quotes.

What reads the commands of a substitution is an argument, so that words can be read without
knowing what commands are.
-/

namespace ShellWorkers.Script

open Text (OctetText)
open ShellWorkers.Script.Parser

/-! ### words -/

mutual

/-- Reads on at a place, up to what ends it.  `raw` says that the next character stands behind a
line end, where lines are not joined. -/
def readParts (r : Reading) : (fuel : Nat) → Place → (raw : Bool) → Building → Parser Building
  | 0, _, _, _ => exhausted
  | fuel + 1, place, raw, b => do
    match ← (if raw then peekRaw else peek) with
    | none => do
      match place, r.document with
      | .document, some d => warnUnended d
      | _, _ => pure ()
      atTextEnd place b
    | some c =>
      let plain := place.isPlain
      let ordinary : Parser Building := do
        skip
        readParts r fuel place false (b.push c place.isQuoted)
      if c = '\n' then
        if place.endsAtLine then pure b
        else do
          skipLineEnd
          if ← atDocumentEnd r then atTextEnd place (b.push c place.isQuoted)
          else readParts r fuel place true (b.push c place.isQuoted)
      else if c = '\\' then do
        skip
        match ← peekRaw with
        | none => readParts r fuel place false { b.push c true with hasQuotes := true }
        | some d => do
          skip
          readParts r fuel place false (escaped place d b)
      else if c = '$' then
        if r.isDelimiter then ordinary
        else do
          let s ← get
          skip
          if plain && s.extended && (← peek) = some '\'' then do
            skip
            let text ← escapeQuoted s.line fuel []
            readParts r fuel place false
              { b.mark with parts := .text (String.ofList (unescaped (text.length + 1) text)) true
                  :: b.mark.parts }
          else if plain && s.extended && (← peek) = some '"' then readParts r fuel place false b
          else
          match ← dollar r fuel place with
          | none => readParts r fuel place false (b.push c place.isQuoted)
          | some p => readParts r fuel place false (b.add p)
      else if c = '`' then
        if r.isDelimiter then ordinary
        else do
          skip
          let line := (← get).line
          let text ← backQuoted place.isQuoted line fuel []
          let body ← embedded line (r.commands false) text
          readParts r fuel place false (b.add (.command body place.isQuoted))
      else
        let s ← get
        if plain && c = '\'' then do
          skip
          let inner ← singleQuoted r fuel { b.mark with line := s.line }
          readParts r fuel place false { inner with line := b.line }
        else if plain && c = '"' then do
          skip
          let inner ← readParts r fuel .quotes false (.empty s.line)
          readParts r fuel place false (b.addQuoted inner.toWord)
        else
        match place, c with
        | .plain true, '}' => do skip; pure b
        | .quotes, '"' => do skip; pure b
        | .quotedBraces inner, '"' => do
          skip
          let b := if r.document.isSome then { b with hasQuotes := true } else b.mark
          readParts r fuel (.quotedBraces (!inner)) false b
        | .quotedBraces false, '}' => do skip; pure b
        | .arithmetic depth, '(' => do
          skip
          readParts r fuel (.arithmetic (depth + 1)) false (b.push c true)
        | .arithmetic (depth + 1), ')' => do
          skip
          readParts r fuel (.arithmetic depth) false (b.push c true)
        | .arithmetic 0, ')' => do
          skip
          if (← peek) = some ')' then do
            skip
            pure b
          else readParts r fuel place false (b.push c true)
        | .plain false, c =>
          if opensProcess s then do
            skip
            skip
            let body ← r.commands true
            readParts r fuel place false (b.add (.process (c == '<') body))
          else if isDelimiter c then pure b
          else if c = '[' && s.extended && b.bareName?.isSome && isAssigned s then do
            skip
            let inner ← readParts r fuel (.subscript 0) false (.empty s.line)
            readParts r fuel place false (b.add (.subscript inner.toWord))
          else if opensGroup s c then do
            skip
            skip
            let b ← readParts r fuel .group false ((b.push c false).push '(' false)
            readParts r fuel place false b
          else ordinary
        | .before sign, c => if c = sign || c = '}' then pure b else ordinary
        | .subscript depth, '[' => do
          skip
          readParts r fuel (.subscript (depth + 1)) false (b.push c false)
        | .subscript 0, ']' => do skip; pure b
        | .subscript (depth + 1), ']' => do
          skip
          readParts r fuel (.subscript depth) false (b.push c false)
        | .group, '(' => do
          skip
          let b ← readParts r fuel .group false (b.push c false)
          readParts r fuel place false b
        | .group, ')' => do skip; pure (b.push c false)
        | .expression, '(' => do
          skip
          let b ← readParts r fuel .group false (b.push c false)
          readParts r fuel place false b
        | .expression, '|' => ordinary
        | .expression, c => if isDelimiter c then pure b else ordinary
        | _, _ => ordinary
where
  /-- the text ends at a place -/
  atTextEnd (place : Place) (b : Building) : Parser Building :=
    match place with
    | .plain false => pure b
    | .plain true => failUnclosed b.line "\x7d" "Missing '\x7d'"
    | .quotes => failUnclosed b.line "\"" unterminated
    | .quotedBraces _ =>
      failUnclosed b.line "\x7d" (if r.document.isSome then "Missing '\x7d'" else unterminated)
    | .arithmetic _ => failUnclosed b.line ")" "Missing '))'"
    | .document => pure b
    | .before _ => failUnclosed b.line "\x7d" unterminated
    | .subscript _ => failUnclosed b.line "]" unterminated
    | .group => failUnclosed b.line ")" unterminated
    | .expression => pure b
  /-- a character behind a backslash -/
  escaped (place : Place) (d : Char) (b : Building) : Building :=
    let inBraces := match place with
      | .quotedBraces _ => true
      | _ => false
    let bare := place.isPlain || d = '\\' || d = '`' || d = '$'
      || (d = '"' && (r.document.isNone || inBraces)) || (d = '}' && inBraces)
    let b := if bare then b else b.push '\\' true
    { b.push d true with hasQuotes := true }

/-- the expansion behind a dollar sign; nothing when the sign stands for itself -/
def dollar (r : Reading) : (fuel : Nat) → Place → Parser (Option Part)
  | 0, _ => exhausted
  | fuel + 1, place => do
    let quoted := place.isQuoted
    let start ← get
    let word (at_ : Place) : Parser Word := do
      return (← readParts r fuel at_ false (.empty (← get).line)).toWord
    match ← peek with
    | none => pure none
    | some '(' => do
      skip
      let isDouble := (← peek) = some '('
      let behind ← get
      if isDouble then do
        skip
        if !start.extended || (← behindBoth).isSome then
          let inner ← readParts r fuel (.arithmetic 0) false (.empty start.line)
          return some (.arithmetic inner.toWord quoted)
        else do
          modify fun _ => behind
          return some (.command (← r.commands true) quoted)
      else return some (.command (← r.commands true) quoted)
    | some '{' => do
      skip
      if start.extended then return some (← reference r fuel place start)
      else
      match ← bracedName fuel with
      | .bad => return some (.parameter "" .bad false (← word (place.inBraces false)) quoted)
      | .name name true =>
        if (← peek) = some '}' then do
          skip
          return some (.parameter name .length false [] quoted)
        else return some (.parameter name .bad false (← word (place.inBraces false)) quoted)
      | .name name false => do
        match ← useSign with
        | (.plain, false) => return some (.parameter name .plain false [] quoted)
        | (use, orEmpty) =>
          let trims := match use with
            | .withoutSuffix _ => true
            | .withoutPrefix _ => true
            | _ => false
          return some (.parameter name use orEmpty (← word (place.inBraces trims)) quoted)
    | some c =>
      if isNameStart c then
        let name := String.ofList (← nameChars isNameChar fuel [])
        return some (.parameter name .plain false [] quoted)
      else if isSpecialParameter c then do
        skip
        return some (.parameter (String.ofList [c]) .plain false [] quoted)
      else pure none

/-- a parameter in braces in the extended language; `start` is before the opening brace -/
def reference (r : Reading) : (fuel : Nat) → Place → (start : Scanner) → Parser Part
  | 0, _, _ => exhausted
  | fuel + 1, place, start => do
    let word (at_ : Place) : Parser Word := do
      return (← readParts r fuel at_ false (.empty start.line)).toWord
    let finish (name : OctetText) (indirect : Bool) (subscript : Word) (use : Use) (orEmpty : Bool)
        (first second : Word) : Parser Part := do
      let s ← get
      let source := '$' :: start.chars.take (start.chars.length - s.chars.length)
      pure (.reference ⟨name, indirect, use, orEmpty, place.isQuoted, String.ofList source⟩
        subscript first second)
    let bad : Parser Part := do
      let first ← word (place.inBraces false)
      finish "" false [] .bad false first []
    match ← referenceHead fuel with
    | none => bad
    | some head => do
      let named := (head.name.toList.head?.map isNameStart) == some true
      let begins := named && (← peek) = some '['
      let isOpen := begins && !closesSubscript (← get)
      let subscript ← if begins && !isOpen then do
          skip
          word (.subscript 0)
        else pure []
      let isEmpty := begins && subscript.isEmpty
      let isAll := match subscript with
        | [.text text false] => text == "@" || text == "*"
        | _ => false
      let next ← peek
      if isEmpty then bad
      else if head.indirect && named && subscript.isEmpty && (next = some '*' || next = some '@') then do
        let before ← get
        skip
        if (← peek) = some '\x7d' then do
          skip
          finish head.name false [] .names false [] []
        else do
          modify fun _ => before
          uses word place finish bad head subscript
      else if head.indirect && isAll && next = some '\x7d' then do
        skip
        finish head.name false subscript .subscripts false [] []
      else if head.length then
        if next = some '\x7d' then do
          skip
          finish head.name false subscript .length false [] []
        else bad
      else uses word place finish bad head subscript
where
  uses (word : Place → Parser Word) (place : Place)
      (finish : OctetText → Bool → Word → Use → Bool → Word → Word → Parser Part)
      (bad : Parser Part) (head : ReferenceHead) (subscript : Word) : Parser Part := do
    let (use, orEmpty) ← referenceSign
    let with_ (use : Use) (first second : Word) : Parser Part :=
      finish head.name head.indirect subscript use orEmpty first second
    match use with
    | .bad => bad
    | .plain => do
      skip
      with_ .plain [] []
    | .transformed form => do
      skip
      with_ (.transformed form) [] []
    | .slice _ => do
      let first ← word (.before ':')
      if (← peek) = some ':' then do
        skip
        with_ (.slice true) first (← word (.plain true))
      else do
        skip
        with_ (.slice false) first []
    | .replaced p => do
      let first ← word (.before '/')
      if (← peek) = some '/' then do
        skip
        with_ (.replaced p) first (← word (.plain true))
      else do
        skip
        with_ (.replaced p) first []
    | .withoutPrefix longest => do with_ (.withoutPrefix longest) (← word (.plain true)) []
    | .withoutSuffix longest => do with_ (.withoutSuffix longest) (← word (.plain true)) []
    | .recased change all => do with_ (.recased change all) (← word (.plain true)) []
    | use => do with_ use (← word (place.inBraces false)) []

end

/-- fuel for whatever is read character by character -/
def textFuel : Nat := 1000000000000

/-- the word that a text is, as between double quotes -/
def wordOf (r : Reading) (text : List Char) : Parser Word := fun s =>
  let inner := { s with chars := text, atEnd := true, pushed := none }
  match readParts r textFuel .document false (.empty s.line) inner with
  | .done b rest =>
    .done b.toWord { s with documents := rest.documents, nextDocument := rest.nextDocument }
  | .more => .failed s.line ["out of text"]
  | .failed line messages => .failed line messages

/-- the word that the text starts with -/
def readWord (r : Reading) : Parser Building := do
  readParts r textFuel (.plain false) false (.empty (← get).line)

/-- the text of a document, from its first line on -/
def readDocument (r : Reading) (d : Awaited) : Parser Word :=
  if d.expanded then do
    joinLines
    if ← atDelimiter d then pure []
    else
      return (← readParts { r with document := some d } textFuel .document true
        (.empty (← get).line)).toWord
  else do
    let cs ← literalDocument d textFuel []
    pure (if cs.isEmpty then [] else [.text (String.ofList cs) true])

end ShellWorkers.Script
