import ShellWorkers.Text.Unprintable

/-!
# Texts quoted for a reader

`quoted` writes a text between double quotes so that every character can be told from every
other: quotes and backslashes after a backslash, the usual controls by their letters, other
characters without a shape of their own by number.
-/

namespace ShellWorkers.Text

/-- a code point in lower-case hexadecimal digits -/
def numbered (c : Char) : List Char :=
  ['\\', 'u', '{'] ++ Nat.toDigits 16 c.toNat ++ ['}']

/-- one character between the quotes -/
def quotedChar (c : Char) : List Char :=
  if c = '"' then ['\\', '"']
  else if c = '\\' then ['\\', '\\']
  else if c = '\n' then ['\\', 'n']
  else if c = '\r' then ['\\', 'r']
  else if c = '\t' then ['\\', 't']
  else if c = '\x00' then ['\\', '0']
  else if c.toNat < 0x20 || c.toNat = 0x7F || isUnprintable c then numbered c
  else [c]

def quoted (s : String) : String :=
  String.ofList ('"' :: s.toList.flatMap quotedChar ++ ['"'])

end ShellWorkers.Text
