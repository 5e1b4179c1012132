import ShellWorkers.Json.Number

/-!
# Writing a value

Values are written without blanks; in a string the quote, the backslash and the controls are
escaped and nothing else.  A fault has no text.
-/

namespace ShellWorkers.Json

def hexDigitChar (n : Nat) : Char := (Nat.digitChar n)

/-- one character of a string -/
def writtenChar (c : Char) : List Char :=
  if c = '"' then ['\\', '"']
  else if c = '\\' then ['\\', '\\']
  else if c = '\x08' then ['\\', 'b']
  else if c = '\x0c' then ['\\', 'f']
  else if c = '\n' then ['\\', 'n']
  else if c = '\r' then ['\\', 'r']
  else if c = '\t' then ['\\', 't']
  else if c.toNat < 0x20 then
    ['\\', 'u', '0', '0', hexDigitChar (c.toNat / 16), hexDigitChar (c.toNat % 16)]
  else [c]

def writtenString (s : String) : List Char := '"' :: s.toList.flatMap writtenChar ++ ['"']

mutual

def written : Json → List Char
  | .broken _ => []
  | .null => ['n', 'u', 'l', 'l']
  | .bool true => ['t', 'r', 'u', 'e']
  | .bool false => ['f', 'a', 'l', 's', 'e']
  | .number n => n.text.toList
  | .string s => writtenString s
  | .list items => '[' :: items.written ++ [']']
  | .object members => '{' :: members.written ++ ['}']

def Items.written : Items → List Char
  | .closed => []
  | .broken _ => []
  | .next item .closed => item.written
  | .next item rest => item.written ++ ',' :: rest.written

def Members.written : Members → List Char
  | .closed => []
  | .broken _ => []
  | .next key value .closed => writtenString key ++ ':' :: value.written
  | .next key value rest => writtenString key ++ ':' :: value.written ++ ',' :: rest.written

end

/-- the text of a value -/
def write (v : Json) : String := String.ofList v.written

end ShellWorkers.Json
