import ShellWorkers.Text.Utf8

/-!
# Kinds of characters

The kinds of characters that have names, as classes in patterns and in sets write them: `alpha`,
`digit`, `space` and so on.  Only octets below 128 are of a kind.
-/

namespace ShellWorkers.Text

/-- a character that leaves ink -/
def isGraphic (c : Char) : Bool := 33 ≤ c.toNat && c.toNat ≤ 126

/-- a character between words or lines -/
def isSpace (c : Char) : Bool := c == ' ' || (9 ≤ c.toNat && c.toNat ≤ 13)

/-- a character of which words of a text are made -/
def isWordChar (c : Char) : Bool := c.isAlphanum || c == '_'

/-- the kinds of characters that have names -/
def charKinds : List (OctetText × (Char → Bool)) :=
  [("alnum", Char.isAlphanum), ("alpha", Char.isAlpha),
    ("blank", fun c => c == ' ' || c == '\t'),
    ("cntrl", fun c => c.toNat < 32 || c.toNat == 127), ("digit", Char.isDigit),
    ("graph", isGraphic), ("lower", Char.isLower),
    ("print", fun c => isGraphic c || c == ' '),
    ("punct", fun c => isGraphic c && !c.isAlphanum), ("space", isSpace),
    ("upper", Char.isUpper),
    ("xdigit", fun c => c.isDigit || (97 ≤ c.toNat && c.toNat ≤ 102)
      || (65 ≤ c.toNat && c.toNat ≤ 70))]

/-- the kind with a name -/
def charKind? (name : OctetText) : Option (Char → Bool) := charKinds.lookup name

end ShellWorkers.Text
