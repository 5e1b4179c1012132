import ShellWorkers.Json.Number

/-!
# Reading a value from a text

`Json.read` reads a document.  Every reader answers with what it could read and the rest of the
text, and with no rest when it met a fault, which then stands in the value.  `room` is the
number of lists and objects that may still be opened inside one another; the fuel is the length
of the text, and every reader takes at least one character before it calls another.
-/

namespace ShellWorkers.Json

/-- the blanks between the parts of a value -/
def isGap (c : Char) : Bool := c = ' ' || c = '\t' || c = '\n' || c = '\r'

def skipGap (cs : List Char) : List Char := cs.dropWhile isGap

/-! ## strings -/

def hexDigit? (c : Char) : Option Nat :=
  if '0' ≤ c ∧ c ≤ '9' then some (c.toNat - '0'.toNat)
  else if 'a' ≤ c ∧ c ≤ 'f' then some (c.toNat - 'a'.toNat + 10)
  else if 'A' ≤ c ∧ c ≤ 'F' then some (c.toNat - 'A'.toNat + 10)
  else none

def hexFour? (a b c d : Char) : Option Nat := do
  return (((← hexDigit? a) * 16 + (← hexDigit? b)) * 16 + (← hexDigit? c)) * 16 + (← hexDigit? d)

/-- the fault of a number escape that is not four hexadecimal digits: the text ends too early
when fewer than four octets follow -/
def hexFault (cs : List Char) : Fault :=
  if (cs.take 4).foldl (fun n c => n + c.utf8Size) 0 < 4 then .endInString else .badEscape

/-- the character that a letter after a backslash stands for -/
def escaped? (c : Char) : Option Char :=
  if c = '"' || c = '\\' || c = '/' then some c
  else if c = 'b' then some '\x08'
  else if c = 'f' then some '\x0c'
  else if c = 'n' then some '\n'
  else if c = 'r' then some '\r'
  else if c = 't' then some '\t'
  else none

/-- the character of a surrogate pair -/
def pairChar (high low : Nat) : Char :=
  Char.ofNat (0x10000 + (high - 0xD800) * 0x400 + (low - 0xDC00))

/-- the rest of a string after its opening quote; `read` holds the characters before, last
first -/
def readStringFrom (read : List Char) : List Char → Except Fault (String × List Char)
  | [] => .error .endInString
  | '"' :: rest => .ok (String.ofList read.reverse, rest)
  | ['\\'] => .error .endInString
  | '\\' :: 'u' :: a :: b :: c :: d :: rest =>
    match hexFour? a b c d with
    | none => .error (hexFault (a :: b :: c :: d :: rest))
    | some n =>
      if 0xDC00 ≤ n ∧ n ≤ 0xDFFF then .error .loneSurrogate
      else if 0xD800 ≤ n ∧ n ≤ 0xDBFF then
        match rest with
        | '\\' :: 'u' :: e :: f :: g :: h :: rest =>
          match hexFour? e f g h with
          | none => .error (hexFault (e :: f :: g :: h :: rest))
          | some m =>
            if 0xDC00 ≤ m ∧ m ≤ 0xDFFF then readStringFrom (pairChar n m :: read) rest
            else .error .loneSurrogate
        | '\\' :: 'u' :: rest => .error (hexFault rest)
        | ['\\'] => .error .endInString
        | '\\' :: _ => .error .endOfPair
        | [] => .error .endInString
        | _ => .error .endOfPair
      else readStringFrom (Char.ofNat n :: read) rest
  | '\\' :: 'u' :: rest => .error (hexFault rest)
  | '\\' :: c :: rest =>
    match escaped? c with
    | some e => readStringFrom (e :: read) rest
    | none => .error .badEscape
  | c :: rest =>
    if c.toNat < 0x20 then .error .controlCharacter else readStringFrom (c :: read) rest

def readString (cs : List Char) : Except Fault (String × List Char) := readStringFrom [] cs

/-! ## words -/

/-- the rest of a word that must follow -/
def readWord (word : List Char) (cs : List Char) : Except Fault (List Char) :=
  match word, cs with
  | [], cs => .ok cs
  | _ :: _, [] => .error .endInValue
  | w :: word, c :: cs => if w = c then readWord word cs else .error .expectedWord

/-! ## values -/

/-- a value that no container surrounds -/
def ofScalar {α : Type} (make : α → Json) (r : Except Fault (α × List Char)) :
    Json × Option (List Char) :=
  match r with
  | .ok (a, rest) => (make a, some rest)
  | .error f => (.broken f, none)

/-- a word with a value -/
def ofWord (value : Json) (r : Except Fault (List Char)) : Json × Option (List Char) :=
  ofScalar (fun _ => value) (r.map fun rest => ((), rest))

mutual

/-- a value, after the blanks before it -/
def readValue : (fuel room : Nat) → List Char → Json × Option (List Char)
  | 0, _, _ => (.broken .endInValue, none)
  | fuel + 1, room, cs =>
    match skipGap cs with
    | [] => (.broken .endInValue, none)
    | 'n' :: r => ofWord .null (readWord ['u', 'l', 'l'] r)
    | 't' :: r => ofWord (.bool true) (readWord ['r', 'u', 'e'] r)
    | 'f' :: r => ofWord (.bool false) (readWord ['a', 'l', 's', 'e'] r)
    | '"' :: r => ofScalar .string (readString r)
    | '-' :: r => ofScalar .number (readNumber false r)
    | '[' :: r =>
      match room with
      | 0 => (.broken .tooDeep, none)
      | room + 1 =>
        let (items, rest) := readFirstItem fuel room r
        (.list items, rest)
    | '{' :: r =>
      match room with
      | 0 => (.broken .tooDeep, none)
      | room + 1 =>
        let (members, rest) := readFirstMember fuel room r
        (.object members, rest)
    | c :: r =>
      if c.isDigit then ofScalar .number (readNumber true (c :: r))
      else (.broken .expectedValue, none)
termination_by structural fuel => fuel

/-- the items of a list, after its bracket -/
def readFirstItem : (fuel room : Nat) → List Char → Items × Option (List Char)
  | 0, _, _ => (.broken .endInList, none)
  | fuel + 1, room, cs =>
    match skipGap cs with
    | [] => (.broken .endInList, none)
    | ']' :: r => (.closed, some r)
    | cs => readItem fuel room cs
termination_by structural fuel => fuel

/-- an item and those after it -/
def readItem : (fuel room : Nat) → List Char → Items × Option (List Char)
  | 0, _, _ => (.broken .endInList, none)
  | fuel + 1, room, cs =>
    match readValue fuel room cs with
    | (item, none) => (.next item .closed, none)
    | (item, some rest) =>
      let (items, rest) := readMoreItems fuel room rest
      (.next item items, rest)
termination_by structural fuel => fuel

/-- what follows an item -/
def readMoreItems : (fuel room : Nat) → List Char → Items × Option (List Char)
  | 0, _, _ => (.broken .endInList, none)
  | fuel + 1, room, cs =>
    match skipGap cs with
    | [] => (.broken .endInList, none)
    | ']' :: r => (.closed, some r)
    | ',' :: r =>
      match skipGap r with
      | ']' :: _ => (.next (.broken .trailingComma) .closed, none)
      | r => readItem fuel room r
    | _ => (.broken .expectedListEnd, none)
termination_by structural fuel => fuel

/-- the members of an object, after its brace -/
def readFirstMember : (fuel room : Nat) → List Char → Members × Option (List Char)
  | 0, _, _ => (.broken .endInObject, none)
  | fuel + 1, room, cs =>
    match skipGap cs with
    | [] => (.broken .endInObject, none)
    | '}' :: r => (.closed, some r)
    | '"' :: r => readMember fuel room r
    | _ => (.broken .keyNotString, none)
termination_by structural fuel => fuel

/-- a member after the quote of its key, and those after it -/
def readMember : (fuel room : Nat) → List Char → Members × Option (List Char)
  | 0, _, _ => (.broken .endInObject, none)
  | fuel + 1, room, cs =>
    match readString cs with
    | .error f => (.broken f, none)
    | .ok (key, rest) =>
      match skipGap rest with
      | [] => (.next key (.broken .endInObject) .closed, none)
      | ':' :: r =>
        match readValue fuel room r with
        | (value, none) => (.next key value .closed, none)
        | (value, some rest) =>
          let (members, rest) := readMoreMembers fuel room rest
          (.next key value members, rest)
      | _ => (.next key (.broken .expectedColon) .closed, none)
termination_by structural fuel => fuel

/-- what follows a member -/
def readMoreMembers : (fuel room : Nat) → List Char → Members × Option (List Char)
  | 0, _, _ => (.broken .endInObject, none)
  | fuel + 1, room, cs =>
    match skipGap cs with
    | [] => (.broken .endInObject, none)
    | '}' :: r => (.closed, some r)
    | ',' :: r =>
      match skipGap r with
      | [] => (.broken .endInValue, none)
      | '"' :: r => readMember fuel room r
      | '}' :: _ => (.broken .trailingComma, none)
      | _ => (.broken .keyNotString, none)
    | _ => (.broken .expectedObjectEnd, none)
termination_by structural fuel => fuel

end

/-! ## documents -/

/-- how many lists and objects may stand inside one another -/
def depthLimit : Nat := 127

/-- fuel for a text: two steps at most are taken between two characters -/
def fuelFor (cs : List Char) : Nat := 2 * cs.length + 4

/-- the document that a text holds -/
def read (s : String) : Document :=
  let cs := s.toList
  match readValue (fuelFor cs) depthLimit cs with
  | (value, none) => ⟨value, none⟩
  | (value, some rest) => ⟨value, if (skipGap rest).isEmpty then none else some .trailingText⟩

end ShellWorkers.Json
