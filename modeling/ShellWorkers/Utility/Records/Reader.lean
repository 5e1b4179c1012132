import ShellWorkers.Utility.Records.Scanner

/-!
# Reading programs for records

The tokens of a program are read by descent.  A statement that is none is reported and passed over
up to its end, so that more than one fault can be found; with five of them the reading ends.
Operators bind in the order

    = ?: || && in ~ < (concatenation) + * ! | ^ ++ $

from the loosest on.  A name is that of a variable, of an array or of a function, as its first use
tells.
-/

namespace ShellWorkers.Utility.Records

open Text (OctetText)

namespace Reader

inductive NameKind where
  | variable
  | array
  | function
  deriving DecidableEq

/-- what is used as something that it is not -/
def NameKind.title : NameKind → OctetText
  | .variable => "variable"
  | .array => "array"
  | .function => "function"

/-- a use of a function -/
structure Use where
  name : OctetText
  arguments : Nat
  line : Nat

/-- where a statement stands -/
inductive Place where
  | rule
  | edge
  | function
  deriving DecidableEq

structure State where
  scanner : Scanner
  /-- the token that comes next -/
  token : Token
  kinds : List (OctetText × NameKind)
  /-- the parameters of the function that is read, with their kinds -/
  parameters : List (OctetText × Option NameKind)
  uses : List Use
  place : Place
  loops : Nat

/-- why reading does not go on -/
inductive Halt where
  /-- the token that comes next cannot stand here -/
  | unexpected
  /-- there is no point in going on -/
  | stop

abbrev Reading := ExceptT Halt (StateM State)

/-- names that have a meaning before anything is read -/
def knownKinds : List (OctetText × NameKind) :=
  [("ENVIRON", .array), ("ARGV", .array)] ++
    ["NF", "NR", "FNR", "ARGC", "FILENAME", "FS", "OFS", "ORS", "RS", "CONVFMT", "OFMT", "RLENGTH",
      "RSTART", "SUBSEP"].map fun name => (name, .variable)

/-! ## tokens and faults -/

/-- with so many faults the reading ends -/
def faultLimit : Nat := 5

def checkFaults : Reading Unit := do
  let s := (← get).scanner
  if s.isFatal || faultLimit ≤ s.faults.length then throw .stop

def advance : Reading Unit := do
  modify fun s => let (token, scanner) := s.scanner.next; { s with token := token, scanner := scanner }
  checkFaults

/-- what is wrong with the program; the reading goes on -/
def complain (message : OctetText) : Reading Unit := do
  modify fun s => { s with scanner := s.scanner.withFault message }
  checkFaults

def unexpected {α : Type} : Reading α := throw .unexpected

def token : Reading Token := do return (← get).token

/-- whether a sign comes next -/
def isSign (sign : OctetText) : Reading Bool := do
  return match (← get).token with
    | .sign s => s == sign
    | _ => false

def isKeyword (word : OctetText) : Reading Bool := do
  return match (← get).token with
    | .keyword w => w == word
    | _ => false

/-- passes over a sign that comes next, if it does -/
def accept (sign : OctetText) : Reading Bool := do
  if ← isSign sign then do
    advance
    pure true
  else pure false

def expect (sign : OctetText) : Reading Unit := do
  if !(← accept sign) then unexpected

/-- passes over ends of lines behind the token that comes next -/
def passLines : Reading Unit := modify fun s => { s with scanner := s.scanner.passLines }

/-- passes over a sign and the ends of lines behind it -/
def expectOpen (sign : OctetText) : Reading Unit := do
  if !(← isSign sign) then unexpected
  passLines
  advance

/-- whether a statement ends with a token -/
def isSeparator : Token → Bool
  | .newline | .supplied => true
  | .sign s => s == ";"
  | _ => false

def separator : Reading Unit := do
  if isSeparator (← token) then advance else unexpected

/-- a token as it is shown -/
def shown : Token → OctetText
  | .number _ spelling => spelling
  | .text _ spelling => spelling
  | .pattern text => "/" ++ text ++ "/"
  | .name name _ => name
  | .keyword word => word
  | .sign sign => sign
  | .output .over => ">"
  | .output .behind => ">>"
  | .output .command => "|"
  | .field _ => "$"
  | .supplied => "\x7d"
  | .newline => "end of line"
  | .done => "end of file"
  | .stray c => String.singleton c

/-- reports a token that cannot stand where it does -/
def reportToken : Reading Unit := do
  let s ← get
  let near := shown s.token
  match s.token with
  | .stray c =>
    modify fun s => { s with scanner := { s.scanner with
      faults := (toString s.scanner.tokenLine ++ ": unexpected character '" ++ String.singleton c
        ++ "'") :: s.scanner.faults } }
    checkFaults
  | .done =>
    if s.scanner.braces ≠ 0 then complain ("missing \x7d near " ++ near)
    else complain ("syntax error at or near " ++ near)
  | t =>
    let ends := isSeparator t || (t matches .sign "\x7d")
    if ends && s.scanner.parens ≠ 0 then complain ("missing ) near " ++ near)
    else complain ("syntax error at or near " ++ near)

/-! ## names -/

/-- what a name is, if that is known -/
def kind? (name : OctetText) : Reading (Option NameKind) := do
  let s ← get
  return match s.parameters.lookup name with
    | some kind => some (kind.getD .variable)
    | none => s.kinds.lookup name

/-- a name is used as something -/
def useName (name : OctetText) (kind : NameKind) : Reading Unit := do
  let s ← get
  match s.parameters.lookup name with
  | some none =>
    let parameters := s.parameters.map fun (p : OctetText × Option NameKind) =>
      if p.1 == name then (name, some kind) else p
    set { s with parameters := parameters }
  | some (some known) => if known ≠ kind then complain ("illegal reference to local "
      ++ known.title ++ " " ++ name)
  | none =>
    match s.kinds.lookup name with
    | none => set { s with kinds := (name, kind) :: s.kinds }
    | some known =>
      if known ≠ kind then complain ("illegal reference to " ++ known.title ++ " " ++ name)

/-- whether a name that comes next is that of a function -/
def isFunction (name : OctetText) (isCalled : Bool) : Reading Bool := do
  return match ← kind? name with
    | some kind => kind == .function
    | none => isCalled

/-! ## patterns -/

/-- the expression of a pattern -/
def patternOf (text : OctetText) : Reading Expression := do
  match compile text with
  | .ok r => pure (.pattern r)
  | .error reason => do
    complain (compileFault text reason)
    pure (.pattern .empty)

/-- an expression where a pattern is asked for -/
def asPattern : Expression → Reading Expression
  | .text text => patternOf text
  | e => pure e

/-- an expression where a separator is asked for -/
def asSeparator : Expression → Reading Expression
  | .text text => if text.length < 2 then pure (.text text) else patternOf text
  | e => pure e

/-! ## operators -/

/-- an expression, and whether it is something to which a value can be assigned -/
structure Parsed where
  expression : Expression
  isPlace : Bool

def value (e : Expression) : Parsed := ⟨e, false⟩

/-- the target that an expression is -/
def Parsed.target? (p : Parsed) : Option Target :=
  match p.isPlace, p.expression with
  | true, .target t => some t
  | _, _ => none

/-- the operator of an assignment -/
def assignment? : Token → Option (Option Arithmetic)
  | .sign "=" => some none
  | .sign "+=" => some (some .add)
  | .sign "-=" => some (some .subtract)
  | .sign "*=" => some (some .multiply)
  | .sign "/=" => some (some .divide)
  | .sign "%=" => some (some .remainder)
  | .sign "^=" => some (some .power)
  | _ => none

def relation? : Token → Option Relation
  | .sign "<" => some .less
  | .sign "<=" => some .lessEqual
  | .sign "==" => some .equal
  | .sign "!=" => some .different
  | .sign ">" => some .greater
  | .sign ">=" => some .greaterEqual
  | _ => none

/-- the operators between sums, and those between products -/
def arithmetic? (isSum : Bool) : Token → Option Arithmetic
  | .sign "+" => if isSum then some .add else none
  | .sign "-" => if isSum then some .subtract else none
  | .sign "*" => if isSum then none else some .multiply
  | .sign "/" => if isSum then none else some .divide
  | .sign "%" => if isSum then none else some .remainder
  | _ => none

/-- whether an operand can start with a token -/
def startsOperand : Token → Bool
  | .number .. | .text .. | .pattern _ | .name .. | .field _ => true
  | .sign s => ["$", "!", "(", "++", "--", "-", "+"].contains s
  | .keyword w =>
    w == "getline" || w == "split" || w == "sub" || w == "gsub" || w == "match"
      || Builtin.table.any (·.name == w)
  | _ => false

/-- the loosest binary operators, from "or" to comparisons -/
inductive Level where
  | either
  | both
  | member
  | match
  | relation

def Level.tighter? : Level → Option Level
  | .either => some .both
  | .both => some .member
  | .member => some .match
  | .match => some .relation
  | .relation => none

/-! ## expressions -/

mutual

/-- an expression -/
def expression : (fuel : Nat) → Reading Parsed
  | 0 => throw .stop
  | fuel + 1 => do
    let condition ← operators fuel .either
    if ← accept "?" then
      let whenTrue ← expression fuel
      expect ":"
      let whenFalse ← expression fuel
      pure (value (.choice condition.expression whenTrue.expression whenFalse.expression))
    else pure condition

/-- operands with the operators of a level between them -/
def operators : (fuel : Nat) → Level → Reading Parsed
  | 0, _ => throw .stop
  | fuel + 1, level => do
    let first ← tighter fuel level
    moreOperators fuel level first

/-- an operand of the operators of a level -/
def tighter : (fuel : Nat) → Level → Reading Parsed
  | 0, _ => throw .stop
  | fuel + 1, level =>
    match level.tighter? with
    | some next => operators fuel next
    | none => assigned fuel

def moreOperators : (fuel : Nat) → Level → Parsed → Reading Parsed
  | 0, _, _ => throw .stop
  | fuel + 1, level, left => do
    let t ← token
    let first := left.expression
    match level, t with
    | .either, .sign "||" => do
      advance
      let second ← tighter fuel level
      moreOperators fuel level (value (.either first second.expression))
    | .both, .sign "&&" => do
      advance
      let second ← tighter fuel level
      moreOperators fuel level (value (.both first second.expression))
    | .member, .keyword "in" => do
      advance
      let array ← arrayName
      moreOperators fuel level (value (.isMember [first] array))
    | .match, .sign sign =>
      if sign == "~" || sign == "!~" then do
        advance
        let second ← tighter fuel level
        let pattern ← asPattern second.expression
        moreOperators fuel level (value (.isMatch (sign == "~") first pattern))
      else pure left
    | .relation, t =>
      match relation? t with
      | some relation => do
        advance
        let second ← tighter fuel level
        moreOperators fuel level (value (.compare relation first second.expression))
      | none => pure left
    | _, _ => pure left

/-- the name of an array -/
def arrayName : Reading OctetText := do
  match ← token with
  | .name name _ => do
    useName name .array
    advance
    pure name
  | _ => unexpected

/-- texts beside each other, or an assignment -/
def assigned : (fuel : Nat) → Reading Parsed
  | 0 => throw .stop
  | fuel + 1 => do
    let first ← sums fuel
    match first.target?, assignment? (← token) with
    | some target, some operator => do
      advance
      let second ← expression fuel
      pure (value (.assign target operator second.expression))
    | _, _ => beside fuel first

/-- what stands beside a text -/
def beside : (fuel : Nat) → Parsed → Reading Parsed
  | 0, _ => throw .stop
  | fuel + 1, left => do
    if startsOperand (← token) then
      let right ← sums fuel
      beside fuel (value (.concat left.expression right.expression))
    else pure left

def sums : (fuel : Nat) → Reading Parsed
  | 0 => throw .stop
  | fuel + 1 => do moreArithmetic fuel true (← products fuel)

def products : (fuel : Nat) → Reading Parsed
  | 0 => throw .stop
  | fuel + 1 => do moreArithmetic fuel false (← unary fuel)

/-- the rest of a sum, or of a product -/
def moreArithmetic : (fuel : Nat) → (isSum : Bool) → Parsed → Reading Parsed
  | 0, _, _ => throw .stop
  | fuel + 1, isSum, left => do
    match arithmetic? isSum (← token) with
    | some operator => do
      advance
      let right ← if isSum then products fuel else unary fuel
      moreArithmetic fuel isSum (value (.arithmetic operator left.expression right.expression))
    | none => pure left

def unary : (fuel : Nat) → Reading Parsed
  | 0 => throw .stop
  | fuel + 1 => do
    if ← accept "!" then return value (.not (← unary fuel).expression)
    else if ← accept "-" then return value (.negative (← unary fuel).expression)
    else if ← accept "+" then return value (.positive (← unary fuel).expression)
    else piped fuel (← powers fuel)

/-- records that are read from the output of a command -/
def piped : (fuel : Nat) → Parsed → Reading Parsed
  | 0, _ => throw .stop
  | fuel + 1, left => do
    if ← accept "|" then
      if ← isKeyword "getline" then
        advance
        let target ← optionalPlace fuel
        piped fuel (value (.read (.command left.expression) target))
      else unexpected
    else pure left

def powers : (fuel : Nat) → Reading Parsed
  | 0 => throw .stop
  | fuel + 1 => do
    let base ← postfixed fuel
    if ← accept "^" then
      let isSigned := (← isSign "-") || (← isSign "+") || (← isSign "!")
      let exponent ← if isSigned then unary fuel else powers fuel
      pure (value (.arithmetic .power base.expression exponent.expression))
    else pure base

/-- an operand with what is counted behind it -/
def postfixed : (fuel : Nat) → Reading Parsed
  | 0 => throw .stop
  | fuel + 1 => do
    let operand ← primary fuel
    match operand.target? with
    | none => pure operand
    | some target =>
      if ← accept "++" then pure (value (.step target true false))
      else if ← accept "--" then pure (value (.step target false false))
      else pure operand

/-- expressions between commas, up to a sign that is passed over -/
def list : (fuel : Nat) → (closing : OctetText) → Reading (List Expression)
  | 0, _ => throw .stop
  | fuel + 1, closing => do
    let first ← expression fuel
    if ← accept "," then return first.expression :: (← list fuel closing)
    else do
      expect closing
      pure [first.expression]

/-- arguments behind an opening parenthesis -/
def arguments : (fuel : Nat) → Reading (List Expression)
  | 0 => throw .stop
  | fuel + 1 => do
    expect "("
    if ← accept ")" then pure [] else list fuel ")"

/-- the arguments of a function of the program: a name may be that of an array -/
def callArguments : (fuel : Nat) → Reading (List Expression)
  | 0 => throw .stop
  | fuel + 1 => do
    let first ← bareName fuel
    if ← accept "," then return first :: (← callArguments fuel)
    else do
      expect ")"
      pure [first]

/-- a name that stands alone, or an expression -/
def bareName : (fuel : Nat) → Reading Expression
  | 0 => throw .stop
  | fuel + 1 => do
    let before ← get
    match ← token with
    | .name name isCalled => do
      if ← isFunction name isCalled then return (← expression fuel).expression
      else
        advance
        if (← isSign ",") || (← isSign ")") then pure (.target (.name name))
        else do
          set before
          return (← expression fuel).expression
    | _ => return (← expression fuel).expression

/-- what values can be assigned to -/
def place : (fuel : Nat) → Reading Target
  | 0 => throw .stop
  | fuel + 1 => do
    match ← token with
    | .name name isCalled => do
      if ← isFunction name isCalled then unexpected
      else do
        advance
        variableOrElement fuel name
    | .field x => do
      advance
      pure (.field (.number x))
    | .sign "$" => do
      advance
      field fuel
    | .sign "(" => do
      advance
      let target ← place fuel
      expect ")"
      pure target
    | _ => unexpected

def optionalPlace : (fuel : Nat) → Reading (Option Target)
  | 0 => throw .stop
  | fuel + 1 => do
    match ← token with
    | .name name isCalled => do
      if ← isFunction name isCalled then pure none else some <$> place fuel
    | .field _ => some <$> place fuel
    | .sign "$" => some <$> place fuel
    | _ => pure none

/-- a variable, or an element of an array if a bracket follows -/
def variableOrElement : (fuel : Nat) → OctetText → Reading Target
  | 0, _ => throw .stop
  | fuel + 1, name => do
    if ← isSign "[" then
      useName name .array
      advance
      return .element name (← list fuel "]")
    else do
      useName name .variable
      pure (.name name)

/-- the field behind a sign -/
def field : (fuel : Nat) → Reading Target
  | 0 => throw .stop
  | fuel + 1 => do
    match ← token with
    | .name name isCalled => do
      if ← isFunction name isCalled then return .field (← primary fuel).expression
      else do
        advance
        return .field (.target (← variableOrElement fuel name))
    | .sign sign => do
      if ["-", "+", "!"].contains sign then return .field (← unary fuel).expression
      else return .field (← primary fuel).expression
    | _ => return .field (← primary fuel).expression

def primary : (fuel : Nat) → Reading Parsed
  | 0 => throw .stop
  | fuel + 1 => do
    match ← token with
    | .number x spelling => do
      if x.isInf then complain (spelling ++ " : decimal overflow")
      if x == 0 && (spelling.toList.takeWhile fun c => c != 'e' && c != 'E').any
          (fun c => c.isDigit && c != '0') then
        complain (spelling ++ " : decimal underflow")
      advance
      pure (value (.number x))
    | .text text _ => do
      advance
      pure (value (.text text))
    | .pattern text => do
      let pattern ← patternOf text
      advance
      pure (value pattern)
    | .field x => do
      advance
      pure ⟨.target (.field (.number x)), true⟩
    | .name name isCalled => do
      if ← isFunction name isCalled then call fuel name
      else do
        advance
        return ⟨.target (← variableOrElement fuel name), true⟩
    | .sign "$" => do
      advance
      return ⟨.target (← field fuel), true⟩
    | .sign "(" => group fuel
    | .sign "++" => do
      advance
      return value (.step (← place fuel) true true)
    | .sign "--" => do
      advance
      return value (.step (← place fuel) false true)
    | .sign sign => if ["-", "+", "!"].contains sign then unary fuel else unexpected
    | .keyword word => ofKeyword fuel word
    | _ => unexpected

/-- an expression between parentheses, or several of them as the key of an array -/
def group : (fuel : Nat) → Reading Parsed
  | 0 => throw .stop
  | fuel + 1 => do
    expect "("
    let first ← expression fuel
    if ← accept "," then
      let others ← list fuel ")"
      if ← isKeyword "in" then
        advance
        return value (.isMember (first.expression :: others) (← arrayName))
      else unexpected
    else do
      expect ")"
      let isField := match first.target? with
        | some (.field _) => true
        | _ => false
      pure ⟨first.expression, isField⟩

/-- a use of a function of the program -/
def call : (fuel : Nat) → OctetText → Reading Parsed
  | 0, _ => throw .stop
  | fuel + 1, name => do
    let line := (← get).scanner.tokenLine
    useName name .function
    advance
    expect "("
    let args ← if ← accept ")" then pure [] else callArguments fuel
    modify fun s => { s with uses := s.uses ++ [⟨name, args.length, line⟩] }
    pure (value (.call name args))

/-- an expression that starts with a keyword -/
def ofKeyword : (fuel : Nat) → OctetText → Reading Parsed
  | 0, _ => throw .stop
  | fuel + 1, word => do
    match word with
    | "getline" => do
      advance
      let target ← optionalPlace fuel
      if ← accept "<" then
        let path ← powers fuel
        pure (value (.read (.file path.expression) target))
      else pure (value (.read .input target))
    | "split" => do
      advance
      expect "("
      let text ← expression fuel
      expect ","
      let array ← arrayName
      let separator ← if ← accept "," then
          some <$> (asSeparator (← expression fuel).expression)
        else pure none
      expect ")"
      pure (value (.split text.expression array separator))
    | "match" => do
      advance
      expect "("
      let text ← expression fuel
      expect ","
      let pattern ← asPattern (← expression fuel).expression
      expect ")"
      pure (value (.find text.expression pattern))
    | "length" => do
      advance
      if !(← isSign "(") then pure (value (.builtin .length []))
      else do
        advance
        if ← accept ")" then pure (value (.builtin .length []))
        else
          let operand ← bareName fuel
          expect ")"
          match operand with
          | .target (.name name) => pure (value (.size name))
          | operand => pure (value (.builtin .length [operand]))
    | word => do
      if word == "sub" || word == "gsub" then
        advance
        expect "("
        let pattern ← asPattern (← expression fuel).expression
        expect ","
        let replacement ← expression fuel
        let target ← if ← accept "," then some <$> place fuel else pure none
        expect ")"
        pure (value (.replace (word == "gsub") pattern replacement.expression target))
      else
        match Builtin.table.find? (·.name == word) with
        | none => unexpected
        | some entry => do
          advance
          let args ← arguments fuel
          if args.length < entry.least || entry.most < args.length then
            complain ("wrong number of arguments in call to " ++ word)
          pure (value (.builtin entry.function args))

end

/-! ## statements -/

/-- passes over a statement that is none; whether it was the rest of a block -/
def recover : (fuel : Nat) → (isFirst : Bool) → Reading Bool
  | 0, _ => throw .stop
  | fuel + 1, isFirst => do
    match ← token with
    | .done => throw .stop
    | t => do
      let endsBlock := match t with
        | .sign "\x7d" => isFirst
        | _ => false
      if endsBlock then pure true
      else do
        advance
        if isSeparator t then pure false else recover fuel isFirst

/-- what is open is forgotten -/
def reset : Reading Unit := modify fun s =>
  { s with scanner := { s.scanner with isPrinting := false, parens := 0 } }

/-- the expressions that an output statement writes -/
def printed (fuel : Nat) : Reading (List Expression) := do
  let before ← get
  let plain : Reading (List Expression) := do
    match ← token with
    | .output _ => pure []
    | t => if isSeparator t then pure [] else commaList fuel
  if ← isSign "(" then
    advance
    if ← accept ")" then pure []
    else
      let all ← list fuel ")"
      match ← token with
      | .output _ => pure all
      | t =>
        if isSeparator t then pure all
        else do
          set before
          plain
  else plain
where
  commaList : Nat → Reading (List Expression)
    | 0 => throw .stop
    | fuel + 1 => do
      let first ← expression fuel
      if ← accept "," then return first.expression :: (← commaList fuel)
      else pure [first.expression]

/-- where an output statement writes to -/
def direction (fuel : Nat) : Reading (Option (Direction × Expression)) := do
  match ← token with
  | .output d => do
    advance
    return some (d, (← expression fuel).expression)
  | _ => pure none

/-- the names in the head of a loop through an array, if that is what it is -/
def loopNames? : Reading (Option (OctetText × OctetText)) := do
  let before ← get
  match ← token with
  | .name name _ => do
    advance
    if ← isKeyword "in" then
      advance
      match ← token with
      | .name array _ => do
        advance
        if ← isSign ")" then
          useName name .variable
          useName array .array
          pure (some (name, array))
        else do
          set before
          pure none
      | _ => do
        set before
        pure none
    else do
      set before
      pure none
  | _ => pure none

/-- reads the body of a loop -/
def inLoop {α : Type} (body : Reading α) : Reading α := do
  modify fun s => { s with loops := s.loops + 1 }
  let result ← body
  modify fun s => { s with loops := s.loops - 1 }
  pure result

/-- a statement of one word, which must stand in its place -/
def oneWord (s : Statement) (allowed : State → Bool) (fault : OctetText) : Reading Statement := do
  if !allowed (← get) then complain fault
  advance
  separator
  pure s

mutual

/-- a statement, which is passed over if it is none; nothing if it was the rest of a block -/
def statement : (fuel : Nat) → (isFirst : Bool) → Reading (Option Statement)
  | 0, _ => throw .stop
  | fuel + 1, isFirst => do
    let loops := (← get).loops
    tryCatch (some <$> proper fuel) fun
      | .stop => throw .stop
      | .unexpected => do
        reportToken
        modify ({ · with loops := loops })
        let isRest ← recover fuel isFirst
        reset
        pure (if isRest then none else some .nothing)

/-- a statement that is part of another one -/
def inner : (fuel : Nat) → Reading Statement
  | 0 => throw .stop
  | fuel + 1 => do return (← statement fuel false).getD .nothing

/-- the statements of a block behind its brace -/
def statements : (fuel : Nat) → (isFirst : Bool) → Reading (List Statement)
  | 0, _ => throw .stop
  | fuel + 1, isFirst => do
    if ← accept "\x7d" then pure []
    else
      match ← statement fuel isFirst with
      | some s => return s :: (← statements fuel false)
      | none => do
        expect "\x7d"
        pure []

def block : (fuel : Nat) → Reading Statement
  | 0 => throw .stop
  | fuel + 1 => do
    expect "\x7b"
    return .block (← statements fuel true)

/-- a condition between parentheses, and the ends of lines behind it -/
def condition : (fuel : Nat) → Reading Expression
  | 0 => throw .stop
  | fuel + 1 => do
    expect "("
    let e ← expression fuel
    expectOpen ")"
    pure e.expression

/-- an expression up to a sign, if there is one -/
def optional : (fuel : Nat) → (isEnd : OctetText) → Reading (Option Expression)
  | 0, _ => throw .stop
  | fuel + 1, isEnd => do
    if ← isSign isEnd then pure none else return some (← expression fuel).expression

def proper : (fuel : Nat) → Reading Statement
  | 0 => throw .stop
  | fuel + 1 => do
    match ← token with
    | .sign "\x7b" => block fuel
    | .keyword word => keywordStatement fuel word
    | t =>
      if isSeparator t then do
        advance
        pure .nothing
      else simple fuel

/-- an expression as a statement -/
def simple : (fuel : Nat) → Reading Statement
  | 0 => throw .stop
  | fuel + 1 => do
    let e ← expression fuel
    separator
    pure (.expression e.expression)

def keywordStatement : (fuel : Nat) → OctetText → Reading Statement
  | 0, _ => throw .stop
  | fuel + 1, word => do
    match word with
    | "print" => do
      modify fun s => { s with scanner := { s.scanner with isPrinting := true } }
      advance
      let args ← printed fuel
      let place ← direction fuel
      separator
      modify fun s => { s with scanner := { s.scanner with isPrinting := false } }
      pure (.print args place)
    | "printf" => do
      modify fun s => { s with scanner := { s.scanner with isPrinting := true } }
      advance
      let args ← printed fuel
      let place ← direction fuel
      if args.isEmpty then complain "no arguments in call to printf"
      separator
      modify fun s => { s with scanner := { s.scanner with isPrinting := false } }
      pure (.printf args place)
    | "if" => do
      advance
      let c ← condition fuel
      let whenTrue ← inner fuel
      if ← isKeyword "else" then
        passLines
        advance
        return .branch c whenTrue (some (← inner fuel))
      else pure (.branch c whenTrue none)
    | "while" => do
      advance
      let c ← condition fuel
      return .while c (← inLoop (inner fuel))
    | "do" => do
      passLines
      advance
      let body ← inLoop (inner fuel)
      if !(← isKeyword "while") then unexpected
      advance
      expect "("
      let c ← expression fuel
      expect ")"
      separator
      pure (.doWhile body c.expression)
    | "for" => do
      advance
      expect "("
      match ← loopNames? with
      | some (name, array) => do
        expectOpen ")"
        return .forEach name array (← inLoop (inner fuel))
      | none => do
        let first ← optional fuel ";"
        expect ";"
        let c ← optional fuel ";"
        expect ";"
        let step ← optional fuel ")"
        expectOpen ")"
        return .for first c step (← inLoop (inner fuel))
    | "break" => oneWord .break (·.loops ≠ 0) "break statement outside of loop"
    | "continue" => oneWord .continue (·.loops ≠ 0) "continue statement outside of loop"
    | "next" => oneWord .next (·.place = .rule) "improper use of next"
    | "nextfile" => oneWord .nextFile (·.place = .rule) "improper use of nextfile"
    | "exit" => do
      advance
      let code ← untilSeparator fuel
      pure (.exit code)
    | "return" => do
      if (← get).place ≠ .function then complain "return outside function body"
      advance
      let result ← untilSeparator fuel
      pure (.return result)
    | "delete" => do
      advance
      let array ← arrayName
      let subscripts ← if ← accept "[" then some <$> list fuel "]" else pure none
      separator
      pure (.delete array subscripts)
    | _ => simple fuel

/-- an expression, if there is one before the end of the statement -/
def untilSeparator : (fuel : Nat) → Reading (Option Expression)
  | 0 => throw .stop
  | fuel + 1 => do
    if isSeparator (← token) then do
      advance
      pure none
    else do
      let e ← expression fuel
      separator
      pure (some e.expression)

end

/-! ## programs -/

/-- the names between the parentheses of a function -/
def parameterNames : (fuel : Nat) → (names : List OctetText) → Reading (List OctetText)
  | 0, _ => throw .stop
  | fuel + 1, names => do
    match ← token with
    | .name name _ => do
      if names.contains name then complain (name ++ " is duplicated in argument list")
      advance
      if ← accept "," then parameterNames fuel (names ++ [name])
      else pure (names ++ [name])
    | _ => unexpected

def function (fuel : Nat) (p : Program) : Reading Program := do
  advance
  match ← token with
  | .name name _ => do
    if p.functions.any (·.name == name) then complain ("redefinition of " ++ name)
    useName name .function
    advance
    expect "("
    let parameters ← if ← isSign ")" then pure [] else parameterNames fuel []
    expectOpen ")"
    modify fun s => { s with parameters := parameters.map fun name => (name, none)
                             place := .function, loops := 0 }
    let body ← block fuel
    modify ({ · with parameters := [] })
    pure { p with functions := p.functions ++ [⟨name, parameters, body⟩] }
  | _ => unexpected

/-- what is done for the records of a condition: they are written, if nothing is said -/
def action (fuel : Nat) : Reading Statement := do
  if isSeparator (← token) then do
    advance
    pure (.print [] none)
  else block fuel

/-- a part of a program -/
def part (fuel : Nat) (p : Program) : Reading Program := do
  modify ({ · with place := .rule, loops := 0, parameters := [] })
  match ← token with
  | .keyword "function" => function fuel p
  | .keyword "BEGIN" => do
    modify ({ · with place := .edge })
    advance
    return { p with before := p.before ++ [← block fuel] }
  | .keyword "END" => do
    modify ({ · with place := .edge })
    advance
    return { p with behind := p.behind ++ [← block fuel] }
  | .sign "\x7b" => return { p with rules := p.rules ++ [⟨.always, ← block fuel⟩] }
  | _ => do
    let first ← expression fuel
    if ← accept "," then
      let last ← expression fuel
      return { p with
        rules := p.rules ++ [⟨.range first.expression last.expression, ← action fuel⟩] }
    else return { p with rules := p.rules ++ [⟨.when first.expression, ← action fuel⟩] }

/-- passes over what is no part of a program, up to a block -/
def recoverPart : (fuel : Nat) → Reading Unit
  | 0 => throw .stop
  | fuel + 1 => do
    match ← token with
    | .done => throw .stop
    | .sign "\x7b" => pure ()
    | _ => do
      advance
      recoverPart fuel

/-- all parts of a program -/
def parts (size : Nat) : (fuel : Nat) → Program → Reading Program
  | 0, p => pure p
  | fuel + 1, p => do
    match ← token with
    | .done => pure p
    | _ => do
      let p ← tryCatch (part size p) fun
        | .stop => throw .stop
        | .unexpected => do
          reportToken
          recoverPart size
          pure p
      parts size fuel p

/-- the functions that are used exist and have as many parameters -/
def checkUses (p : Program) : Reading Unit := do
  for use in (← get).uses do
    match p.functions.find? (·.name == use.name) with
    | some f =>
      if f.parameters.length < use.arguments then
        modify fun s => { s with scanner := { s.scanner with tokenLine := use.line } }
        complain ("too many arguments in call to " ++ use.name)
    | none => complain ("function " ++ use.name ++ " never defined")

end Reader

/-- the program that a text is, or what is wrong with it -/
def readProgram (text : OctetText) : Except (List OctetText) Program :=
  let fuel := 60 * (text.length + 10)
  let start : Reader.State := ⟨(Scanner.start text).passLines, .newline, Reader.knownKinds, [], [],
    .rule, 0⟩
  let reading : Reader.Reading Program := do
    Reader.advance
    let p ← Reader.parts fuel fuel ⟨[], [], [], []⟩
    if (← get).scanner.faults.isEmpty then Reader.checkUses p
    pure p
  let (result, s) := reading.run.run start
  match s.scanner.faults, result with
  | [], .ok p => .ok p
  | faults, _ => .error faults.reverse

end ShellWorkers.Utility.Records
