/-!
# Values of the notation, as far as they can be read

A text that should hold a value is read from left to right, and what has been read before a
fault counts: a recipe with an unknown field is refused for the field even if the text breaks
off behind it.  So a value is a tree in which a fault may stand wherever reading stopped.

* `Fault`      why a text cannot be read on, with its wording;
* `Json`       a value; `Items` and `Members` are the entries of a list and of an object, in the
               order of the text, duplicates included;
* `Json.intact`  no fault stands in the value.
-/

namespace ShellWorkers

/-! ## faults -/

/-- why a text cannot be read on -/
inductive Json.Fault where
  | endInValue
  | endInList
  | endInObject
  | endInString
  | expectedColon
  | expectedListEnd
  | expectedObjectEnd
  | expectedWord
  | expectedValue
  | badEscape
  | badNumber
  | numberRange
  | controlCharacter
  | keyNotString
  | loneSurrogate
  | endOfPair
  | trailingComma
  | trailingText
  | tooDeep
  deriving DecidableEq, Repr

namespace Json.Fault

def message : Fault → String
  | endInValue => "EOF while parsing a value"
  | endInList => "EOF while parsing a list"
  | endInObject => "EOF while parsing an object"
  | endInString => "EOF while parsing a string"
  | expectedColon => "expected `:`"
  | expectedListEnd => "expected `,` or `]`"
  | expectedObjectEnd => "expected `,` or `\x7d`"
  | expectedWord => "expected ident"
  | expectedValue => "expected value"
  | badEscape => "invalid escape"
  | badNumber => "invalid number"
  | numberRange => "number out of range"
  | controlCharacter => "control character (\\u0000-\\u001F) found while parsing a string"
  | keyNotString => "key must be a string"
  | loneSurrogate => "lone leading surrogate in hex escape"
  | endOfPair => "unexpected end of hex escape"
  | trailingComma => "trailing comma"
  | trailingText => "trailing characters"
  | tooDeep => "recursion limit exceeded"

/-- whether more text could have mended it -/
def isTruncation : Fault → Bool
  | endInValue => true
  | endInList => true
  | endInObject => true
  | endInString => true
  | _ => false

end Json.Fault

/-! ## values -/

/-- numbers as they are told apart: whole numbers of 64 bits, and all others -/
inductive Json.Number where
  | natural (n : Nat)
  /-- the number `-n` -/
  | negative (n : Nat)
  | float (x : Float)

mutual

inductive Json where
  | broken (fault : Json.Fault)
  | null
  | bool (b : Bool)
  | number (n : Json.Number)
  | string (s : String)
  | list (items : Json.Items)
  | object (members : Json.Members)

/-- the items of a list; `broken` when the text is at fault between two of them -/
inductive Json.Items where
  | closed
  | broken (fault : Json.Fault)
  | next (item : Json) (rest : Json.Items)

/-- the members of an object; `broken` when the text is at fault where a key should stand -/
inductive Json.Members where
  | closed
  | broken (fault : Json.Fault)
  | next (key : String) (value : Json) (rest : Json.Members)

end

namespace Json

/-- the items in order -/
def Items.ofList : List Json → Items
  | [] => .closed
  | v :: vs => .next v (ofList vs)

/-- the members in order -/
def Members.ofList : List (String × Json) → Members
  | [] => .closed
  | (k, v) :: ms => .next k v (ofList ms)

mutual

def intact : Json → Bool
  | .broken _ => false
  | .list items => items.intact
  | .object members => members.intact
  | _ => true

def Items.intact : Items → Bool
  | .closed => true
  | .broken _ => false
  | .next item rest => item.intact && rest.intact

def Members.intact : Members → Bool
  | .closed => true
  | .broken _ => false
  | .next _ value rest => value.intact && rest.intact

end

/-! ## the first fault -/

mutual

/-- the first fault of a value, in the order of the text -/
def fault? : Json → Option Fault
  | .broken f => some f
  | .list items => items.fault?
  | .object members => members.fault?
  | _ => none

def Items.fault? : Items → Option Fault
  | .closed => none
  | .broken f => some f
  | .next item rest => item.fault? <|> rest.fault?

def Members.fault? : Members → Option Fault
  | .closed => none
  | .broken f => some f
  | .next _ value rest => value.fault? <|> rest.fault?

end

/-- a text: a value, and the fault behind it if anything but blanks follows -/
structure Document where
  value : Json
  trailing : Option Fault

end Json

end ShellWorkers
