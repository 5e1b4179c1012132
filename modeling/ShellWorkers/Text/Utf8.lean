/-!
# Octets read as text

UTF-8 as an automaton over octets: `Pending` is a character of which some octets are still to
come, with the range the next octet must lie in (overlong forms, surrogates and numbers past
the last code point are excluded by the range of the second octet).  The octets fall into
pieces, each a character or an ill-formed sequence that is as long as it can be:

* `decode?`       the text, when every piece is a character;
* `decodeLossy`   every ill-formed piece becomes the replacement character.
-/

namespace ShellWorkers.Text

/-! ## the automaton -/

/-- a character that has begun: the range of the next octet, how many follow that one, and the
bits read so far -/
structure Pending where
  low : Nat
  high : Nat
  more : Nat
  bits : Nat

/-- what a first octet says -/
inductive Lead where
  | char (c : Char)
  | pending (p : Pending)
  | illFormed

/-- the first octet of a sequence -/
def Lead.ofOctet (b : UInt8) : Lead :=
  let n := b.toNat
  if n < 0x80 then .char (Char.ofNat n)
  else if n < 0xC2 then .illFormed
  else if n < 0xE0 then .pending ⟨0x80, 0xBF, 0, n - 0xC0⟩
  else if n < 0xF0 then
    .pending ⟨if n = 0xE0 then 0xA0 else 0x80, if n = 0xED then 0x9F else 0xBF, 1, n - 0xE0⟩
  else if n < 0xF5 then
    .pending ⟨if n = 0xF0 then 0x90 else 0x80, if n = 0xF4 then 0x8F else 0xBF, 2, n - 0xF0⟩
  else .illFormed

/-- the pieces read so far, last first (`none` for an ill-formed one), and what has begun -/
structure Decoder where
  pieces : List (Option Char)
  pending : Option Pending

/-- an octet that begins a sequence -/
def Decoder.begin (pieces : List (Option Char)) (b : UInt8) : Decoder :=
  match Lead.ofOctet b with
  | .char c => ⟨some c :: pieces, none⟩
  | .pending p => ⟨pieces, some p⟩
  | .illFormed => ⟨none :: pieces, none⟩

/-- one octet; one that does not continue what has begun closes it as ill-formed and begins
anew -/
def Decoder.step (d : Decoder) (b : UInt8) : Decoder :=
  match d.pending with
  | none => .begin d.pieces b
  | some p =>
    let n := b.toNat
    if n < p.low || p.high < n then .begin (none :: d.pieces) b
    else
      let bits := p.bits * 64 + (n - 0x80)
      match p.more with
      | 0 => ⟨some (Char.ofNat bits) :: d.pieces, none⟩
      | more + 1 => ⟨d.pieces, some ⟨0x80, 0xBF, more, bits⟩⟩

/-- at the end, what has begun is ill-formed -/
def Decoder.close (d : Decoder) : List (Option Char) :=
  match d.pending with
  | none => d.pieces.reverse
  | some _ => (none :: d.pieces).reverse

/-! ## reading and writing -/

def piecesOf (bs : List UInt8) : List (Option Char) := (bs.foldl Decoder.step ⟨[], none⟩).close

/-- the text the octets spell, when they are well-formed -/
def decode? (bs : List UInt8) : Option String :=
  let pieces := piecesOf bs
  if pieces.all Option.isSome then some (String.ofList (pieces.filterMap id)) else none

/-- the text with a replacement character for every ill-formed piece -/
def decodeLossy (bs : List UInt8) : String :=
  String.ofList ((piecesOf bs).map (·.getD '\uFFFD'))

/-- the octets of a text -/
def encode (s : String) : List UInt8 := s.toList.flatMap String.utf8EncodeChar

/-! ## octets as characters -/

/-- octets held as a text whose characters are numbers below 256 -/
abbrev OctetText := String

def OctetText.ofOctets (bs : List UInt8) : OctetText :=
  String.ofList (bs.map fun b => Char.ofNat b.toNat)

def OctetText.toOctets (s : OctetText) : List UInt8 := s.toList.map fun c => UInt8.ofNat c.toNat

def OctetText.ofBytes (bs : ByteArray) : OctetText :=
  bs.foldl (fun s b => s.push (Char.ofNat b.toNat)) ""

def OctetText.toBytes (s : OctetText) : ByteArray :=
  s.foldl (fun bs c => bs.push (UInt8.ofNat c.toNat)) .empty

/-- the octets that spell a text -/
def OctetText.ofText (s : String) : OctetText := .ofOctets (encode s)

end ShellWorkers.Text
