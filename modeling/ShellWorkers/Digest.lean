import ShellWorkers.Text.Utf8

/-!
# Digests of messages

Messages are padded to blocks, and every hash is a compression of one block after another.
-/

/-!
## Messages in blocks

A digest reads a message in blocks of words.  Behind the message stands an octet with its highest
bit set, then as many zeros as fill the last block up to its end, where the number of bits of the
message stands.

* `Layout`            the width of words, and which octet of a number stands first;
* `Layout.blocks`     a message as blocks of 16 words;
* `Layout.octets`     the octets of words.
-/

namespace ShellWorkers.Digest

open Text (OctetText)

/-- how words are made of octets -/
structure Layout where
  /-- the octets of a word -/
  wordSize : Nat
  /-- the octet of the highest bits stands first -/
  highFirst : Bool

namespace Layout

/-- the bits of a word -/
def width (l : Layout) : Nat := 8 * l.wordSize

/-- the octets of a block -/
def blockSize (l : Layout) : Nat := 16 * l.wordSize

/-- the octets of the number of bits -/
def lengthSize (l : Layout) : Nat := 2 * l.wordSize

/-- a number as so many octets, the lowest first -/
def lowOctets : (count : Nat) → Nat → List Nat
  | 0, _ => []
  | count + 1, n => n % 256 :: lowOctets count (n / 256)

/-- a number as so many octets in the order of the layout -/
def numberOctets (l : Layout) (count n : Nat) : List Nat :=
  if l.highFirst then (lowOctets count n).reverse else lowOctets count n

/-- the number that octets in the order of the layout stand for -/
def number (l : Layout) (octets : List Nat) : Nat :=
  (if l.highFirst then octets else octets.reverse).foldl (fun n o => n * 256 + o) 0

/-- a message with what fills its last block -/
def padded (l : Layout) (message : List Nat) : List Nat :=
  let used := (message.length + 1 + l.lengthSize) % l.blockSize
  message ++ 0x80 :: List.replicate ((l.blockSize - used) % l.blockSize) 0
    ++ l.numberOctets l.lengthSize (8 * message.length)

/-- a list cut into pieces of a size; the fuel is at least the length -/
def pieces {α : Type} (size : Nat) : (fuel : Nat) → List α → List (List α)
  | 0, _ => []
  | _ + 1, [] => []
  | fuel + 1, xs => xs.take size :: pieces size fuel (xs.drop size)

/-- a message as blocks of words -/
def blocks (l : Layout) (message : List Nat) : List (List (BitVec l.width)) :=
  let octets := l.padded message
  (pieces l.blockSize octets.length octets).map fun block =>
    (pieces l.wordSize block.length block).map fun word => BitVec.ofNat l.width (l.number word)

/-- the octets of words -/
def octets (l : Layout) (words : List (BitVec l.width)) : List Nat :=
  words.flatMap fun w => l.numberOctets l.wordSize w.toNat

end Layout

/-- the octets of a text -/
def octetsOf (text : OctetText) : List Nat := text.toList.map Char.toNat

/-- a digit of a base of at most 16 -/
def hexDigit (n : Nat) : Char := if n < 10 then Char.ofNat (48 + n) else Char.ofNat (87 + n)

/-- octets by two digits each -/
def hexText (octets : List Nat) : OctetText :=
  String.ofList (octets.flatMap fun o => [hexDigit (o / 16), hexDigit (o % 16)])

end ShellWorkers.Digest

/-!
## Secure hashes

The hashes of the secure hash standard.  The family of 1995 mixes five words in eighty rounds; the
families of 2002 mix eight words, of 32 or of 64 bits.  Their constants are the first bits behind
the point of the roots of the first prime numbers, so they are computed and not listed.

* `rootBits`          bits behind the point of a root;
* `Family.digest`     the hash of a message by a family with eight words;
* `sha1`, `sha224`, `sha256`, `sha384`, `sha512`.
-/

namespace ShellWorkers.Digest

/-! ### roots of primes -/

def isPrime (n : Nat) : Bool :=
  2 ≤ n && (List.range n).all fun d => d < 2 || n % d ≠ 0

/-- the first eighty prime numbers -/
def primes : List Nat := ((List.range 410).filter isPrime)

/-- the product of so many factors that are the same -/
def product (factor : Nat) : (count : Nat) → Nat
  | 0 => 1
  | count + 1 => factor * product factor count

/-- the greatest number below `2 ^ bits` whose power is not above a number -/
def wholeRoot (degree bits n : Nat) : Nat :=
  (List.range bits).foldr (fun bit root =>
    let more := root + 1 <<< bit
    if product more degree ≤ n then more else root) 0

/-- the first bits behind the point of a root; the root is below `2 ^ 8` -/
def rootBits (degree count n : Nat) : Nat :=
  wholeRoot degree (count + 8) (n <<< (degree * count)) % 1 <<< count

/-! ### the family with five words -/

/-- numbers are read with the highest octet first -/
def Layout.high32 : Layout := ⟨4, true⟩
def Layout.high64 : Layout := ⟨8, true⟩

/-- the five words of the old family -/
structure FiveWords where
  a : BitVec 32
  b : BitVec 32
  c : BitVec 32
  d : BitVec 32
  e : BitVec 32

namespace FiveWords

def start : FiveWords := ⟨0x67452301, 0xefcdab89, 0x98badcfe, 0x10325476, 0xc3d2e1f0⟩

/-- what is mixed in a round, and the constant of the round -/
def mixed (s : FiveWords) (round : Nat) : BitVec 32 × BitVec 32 :=
  if round < 20 then ((s.b &&& s.c) ||| (~~~s.b &&& s.d), 0x5a827999)
  else if round < 40 then (s.b ^^^ s.c ^^^ s.d, 0x6ed9eba1)
  else if round < 60 then ((s.b &&& s.c) ||| (s.b &&& s.d) ||| (s.c &&& s.d), 0x8f1bbcdc)
  else (s.b ^^^ s.c ^^^ s.d, 0xca62c1d6)

def step (s : FiveWords) (round : Nat) (word : BitVec 32) : FiveWords :=
  let (mixed, constant) := s.mixed round
  ⟨s.a.rotateLeft 5 + mixed + s.e + constant + word, s.a, s.b.rotateLeft 30, s.c, s.d⟩

/-- the words of a block, and those that follow from them -/
def schedule (block : List (BitVec 32)) : Array (BitVec 32) :=
  (List.range 64).foldl (fun ws i =>
    let at_ (k : Nat) : BitVec 32 := ws.getD (i + 16 - k) 0
    ws.push ((at_ 3 ^^^ at_ 8 ^^^ at_ 14 ^^^ at_ 16).rotateLeft 1)) block.toArray

def add (s t : FiveWords) : FiveWords := ⟨s.a + t.a, s.b + t.b, s.c + t.c, s.d + t.d, s.e + t.e⟩

def block (s : FiveWords) (words : List (BitVec 32)) : FiveWords :=
  let ws := schedule words
  s.add ((List.range 80).foldl (fun t i => t.step i (ws.getD i 0)) s)

end FiveWords

/-- the hash of 160 bits -/
def sha1 (message : List Nat) : List Nat :=
  let s := (Layout.high32.blocks message).foldl FiveWords.block FiveWords.start
  Layout.high32.octets [s.a, s.b, s.c, s.d, s.e]

/-! ### the families with eight words -/

/-- a family: by how much words are rotated, and in the last place shifted, in the functions that
mix them -/
structure Family where
  layout : Layout
  rounds : Nat
  upper0 : Nat × Nat × Nat
  upper1 : Nat × Nat × Nat
  lower0 : Nat × Nat × Nat
  lower1 : Nat × Nat × Nat

def Family.short : Family :=
  ⟨.high32, 64, (2, 13, 22), (6, 11, 25), (7, 18, 3), (17, 19, 10)⟩
def Family.long : Family :=
  ⟨.high64, 80, (28, 34, 39), (14, 18, 41), (1, 8, 7), (19, 61, 6)⟩

namespace Family

abbrev Word (f : Family) : Type := BitVec f.layout.width

/-- three rotations of a word -/
def rotations {w : Nat} (by_ : Nat × Nat × Nat) (x : BitVec w) : BitVec w :=
  x.rotateRight by_.1 ^^^ x.rotateRight by_.2.1 ^^^ x.rotateRight by_.2.2

/-- two rotations of a word and a shift of it -/
def rotationsShift {w : Nat} (by_ : Nat × Nat × Nat) (x : BitVec w) : BitVec w :=
  x.rotateRight by_.1 ^^^ x.rotateRight by_.2.1 ^^^ x >>> by_.2.2

/-- the constants of the rounds: the cube roots of primes -/
def constants (f : Family) : Array f.Word :=
  ((primes.take f.rounds).map fun p => BitVec.ofNat f.layout.width (rootBits 3 f.layout.width p)).toArray

/-- the words of a block, and those that follow from them -/
def schedule (f : Family) (block : List f.Word) : Array f.Word :=
  (List.range (f.rounds - 16)).foldl (fun ws i =>
    let at_ (k : Nat) : f.Word := ws.getD (i + 16 - k) 0
    ws.push (rotationsShift f.lower1 (at_ 2) + at_ 7 + rotationsShift f.lower0 (at_ 15) + at_ 16))
    block.toArray

/-- one round over the eight words -/
def step (f : Family) (constant : f.Word) (s : List f.Word) : List f.Word :=
  match s with
  | [a, b, c, d, e, x, y, z] =>
    let first := z + rotations f.upper1 e + ((e &&& x) ^^^ (~~~e &&& y)) + constant
    let second := rotations f.upper0 a + ((a &&& b) ^^^ (a &&& c) ^^^ (b &&& c))
    [first + second, a, b, c, d + first, e, x, y]
  | s => s

def block (f : Family) (constants : Array f.Word) (s words : List f.Word) : List f.Word :=
  let ws := f.schedule words
  let mixed := (List.range f.rounds).foldl
    (fun t i => f.step (constants.getD i 0 + ws.getD i 0) t) s
  List.zipWith (· + ·) s mixed

/-- the hash of a message from the words at the start; so many octets of it are kept -/
def digest (f : Family) (start : List Nat) (size : Nat) (message : List Nat) : List Nat :=
  let constants := f.constants
  let start : List f.Word := start.map (BitVec.ofNat f.layout.width)
  (f.layout.octets ((f.layout.blocks message).foldl (f.block constants) start)).take size

end Family

/-- the square roots of eight primes -/
def squareRoots (bits skipped : Nat) : List Nat :=
  ((primes.drop skipped).take 8).map (rootBits 2 bits)

/-- the hash of 256 bits -/
def sha256 (message : List Nat) : List Nat := Family.short.digest (squareRoots 32 0) 32 message

/-- the hash of 224 bits; it starts from the second 32 bits of the roots -/
def sha224 (message : List Nat) : List Nat := Family.short.digest (squareRoots 64 8) 28 message

/-- the hash of 512 bits -/
def sha512 (message : List Nat) : List Nat := Family.long.digest (squareRoots 64 0) 64 message

/-- the hash of 384 bits -/
def sha384 (message : List Nat) : List Nat := Family.long.digest (squareRoots 64 8) 48 message

end ShellWorkers.Digest

/-!
## The hash of twelve rounds

A hash of up to 64 octets, whose length is part of what is mixed.  A block of sixteen words of 64
bits is mixed into a table of sixteen words in twelve rounds; a round mixes the four columns of the
table and then its four diagonals, each with two words of the block in the order of the round.

* `blake`   the hash of a message.
-/

namespace ShellWorkers.Digest

/-- the order of the words of a block in the rounds; the last two are the first two again -/
def blakeOrders : List (List Nat) :=
  let orders :=
    [[0, 1, 2, 3, 4, 5, 6, 7, 8, 9, 10, 11, 12, 13, 14, 15],
      [14, 10, 4, 8, 9, 15, 13, 6, 1, 12, 0, 2, 11, 7, 5, 3],
      [11, 8, 12, 0, 5, 2, 15, 13, 10, 14, 3, 6, 7, 1, 9, 4],
      [7, 9, 3, 1, 13, 12, 11, 14, 2, 6, 5, 10, 4, 0, 15, 8],
      [9, 0, 5, 7, 2, 4, 10, 15, 14, 1, 11, 12, 6, 8, 3, 13],
      [2, 12, 6, 10, 0, 11, 8, 3, 4, 13, 7, 5, 15, 14, 1, 9],
      [12, 5, 1, 15, 14, 13, 4, 10, 0, 7, 6, 3, 9, 2, 8, 11],
      [13, 11, 7, 14, 12, 1, 3, 9, 5, 0, 15, 4, 8, 6, 2, 10],
      [6, 15, 14, 9, 11, 3, 0, 8, 12, 2, 13, 7, 1, 4, 10, 5],
      [10, 2, 8, 4, 7, 6, 1, 5, 15, 11, 9, 14, 3, 12, 13, 0]]
  orders ++ orders.take 2

/-- the places of the columns and the diagonals of the table -/
def blakeLines : List (Nat × Nat × Nat × Nat) :=
  [(0, 4, 8, 12), (1, 5, 9, 13), (2, 6, 10, 14), (3, 7, 11, 15),
    (0, 5, 10, 15), (1, 6, 11, 12), (2, 7, 8, 13), (3, 4, 9, 14)]

/-- a word with its bits moved around to the right -/
def rotatedRight (x : UInt64) (n : UInt64) : UInt64 := (x >>> n) ||| (x <<< (64 - n))

/-- mixes two words of a block into a line of the table -/
def blakeMix (table : Array UInt64) (line : Nat × Nat × Nat × Nat) (x y : UInt64) :
    Array UInt64 :=
  let (i, j, k, l) := line
  let a := table.getD i 0
  let b := table.getD j 0
  let c := table.getD k 0
  let d := table.getD l 0
  let a := a + b + x
  let d := rotatedRight (d ^^^ a) 32
  let c := c + d
  let b := rotatedRight (b ^^^ c) 24
  let a := a + b + y
  let d := rotatedRight (d ^^^ a) 16
  let c := c + d
  let b := rotatedRight (b ^^^ c) 63
  (((table.setIfInBounds i a).setIfInBounds j b).setIfInBounds k c).setIfInBounds l d

/-- one round, with the words of the block in an order -/
def blakeRound (block : Array UInt64) (table : Array UInt64) (order : List Nat) : Array UInt64 :=
  let pairs := Layout.pieces 2 16 order
  (blakeLines.zip pairs).foldl (fun table (line, pair) =>
    blakeMix table line (block.getD (pair.headD 0) 0) (block.getD (pair.getLastD 0) 0)) table

/-- the words of a block of octets, with zeros behind them -/
def blakeBlock (octets : List Nat) : Array UInt64 :=
  let filled := octets ++ List.replicate (128 - octets.length) 0
  ((Layout.pieces 8 128 filled).map fun word =>
    UInt64.ofNat (word.foldr (fun o n => n * 256 + o) 0)).toArray

/-- the words that the hash starts from -/
def blakeStart : List UInt64 := (squareRoots 64 0).map UInt64.ofNat

/-- mixes a block into eight words; `count` is how many octets have been read with it -/
def blakeStep (words : List UInt64) (octets : List Nat) (count : Nat) (isLast : Bool) :
    List UInt64 :=
  let block := blakeBlock octets
  let start := blakeStart.toArray
  let start := start.modify 4 (· ^^^ UInt64.ofNat count)
  let start := if isLast then start.modify 6 (~~~·) else start
  let table := blakeOrders.foldl (blakeRound block) (words.toArray ++ start)
  words.zipIdx.map fun (w, i) => w ^^^ table.getD i 0 ^^^ table.getD (i + 8) 0

/-- mixes blocks one after the other; the last one may be short -/
def blakeBlocks : List (List Nat) → (count : Nat) → List UInt64 → List UInt64
  | [], count, words => blakeStep words [] count true
  | [block], count, words => blakeStep words block (count + block.length) true
  | block :: next :: rest, count, words =>
    blakeBlocks (next :: rest) (count + block.length)
      (blakeStep words block (count + block.length) false)

/-- the hash of a message in so many octets -/
def blake (size : Nat) (message : List Nat) : List Nat :=
  let start := match blakeStart with
    | [] => []
    | w :: ws => (w ^^^ UInt64.ofNat (0x01010000 + size)) :: ws
  let words := blakeBlocks (Layout.pieces 128 message.length message) 0 start
  (words.flatMap fun w => Layout.lowOctets 8 w.toNat).take size

end ShellWorkers.Digest

/-!
## The commercial hash

A hash of 256 bits that mixes eight words of 32 bits in 64 rounds.  A round takes a word of the
block, and its sum with the fourth word behind it.

* `sm3`   the hash of a message.
-/

namespace ShellWorkers.Digest.Commercial

def start : List (BitVec 32) :=
  [0x7380166f, 0x4914b2b9, 0x172442d7, 0xda8a0600, 0xa96f30bc, 0x163138aa, 0xe38dee4d, 0xb0fb0e4e]

/-- a word with two rotations of it -/
def spread (i j : Nat) (x : BitVec 32) : BitVec 32 := x ^^^ x.rotateLeft i ^^^ x.rotateLeft j

/-- the words of a block, and those that follow from them -/
def schedule (block : List (BitVec 32)) : Array (BitVec 32) :=
  (List.range 52).foldl (fun ws i =>
    let at_ (k : Nat) : BitVec 32 := ws.getD (i + 16 - k) 0
    ws.push (spread 15 23 (at_ 16 ^^^ at_ 9 ^^^ (at_ 3).rotateLeft 15)
      ^^^ (at_ 13).rotateLeft 7 ^^^ at_ 6)) block.toArray

/-- the constant of a round -/
def constant (round : Nat) : BitVec 32 :=
  (if round < 16 then (0x79cc4519 : BitVec 32) else 0x7a879d8a).rotateLeft (round % 32)

/-- one round over the eight words -/
def step (ws : Array (BitVec 32)) (s : List (BitVec 32)) (round : Nat) : List (BitVec 32) :=
  match s with
  | [a, b, c, d, e, x, y, z] =>
    let word := ws.getD round 0
    let sum := word ^^^ ws.getD (round + 4) 0
    let first := (a.rotateLeft 12 + e + constant round).rotateLeft 7
    let second := first ^^^ a.rotateLeft 12
    let upper := if round < 16 then a ^^^ b ^^^ c else (a &&& b) ||| (a &&& c) ||| (b &&& c)
    let lower := if round < 16 then e ^^^ x ^^^ y else (e &&& x) ||| (~~~e &&& y)
    [upper + d + second + sum, a, b.rotateLeft 9, c, spread 9 17 (lower + z + first + word), e,
      x.rotateLeft 19, y]
  | s => s

def block (s words : List (BitVec 32)) : List (BitVec 32) :=
  let ws := schedule words
  List.zipWith (· ^^^ ·) s ((List.range 64).foldl (step ws) s)

end Commercial

/-- the commercial hash of 256 bits -/
def sm3 (message : List Nat) : List Nat :=
  Layout.high32.octets
    ((Layout.high32.blocks message).foldl Commercial.block Commercial.start)

end ShellWorkers.Digest

/-!
## Message digests and check sums

`md5` mixes four words in 64 rounds, with constants from the sine.  `cyclicCheck` is the remainder
of a message by a polynomial over bits; `rotatedSum` and `foldedSum` add octets.
-/

namespace ShellWorkers.Digest

/-! ### four words -/

/-- numbers are read with the lowest octet first -/
def Layout.low32 : Layout := ⟨4, false⟩

/-- the bits behind the point of the sines of the first numbers -/
def sineBits : List Nat :=
  [0xd76aa478, 0xe8c7b756, 0x242070db, 0xc1bdceee, 0xf57c0faf, 0x4787c62a, 0xa8304613, 0xfd469501,
    0x698098d8, 0x8b44f7af, 0xffff5bb1, 0x895cd7be, 0x6b901122, 0xfd987193, 0xa679438e, 0x49b40821,
    0xf61e2562, 0xc040b340, 0x265e5a51, 0xe9b6c7aa, 0xd62f105d, 0x02441453, 0xd8a1e681, 0xe7d3fbc8,
    0x21e1cde6, 0xc33707d6, 0xf4d50d87, 0x455a14ed, 0xa9e3e905, 0xfcefa3f8, 0x676f02d9, 0x8d2a4c8a,
    0xfffa3942, 0x8771f681, 0x6d9d6122, 0xfde5380c, 0xa4beea44, 0x4bdecfa9, 0xf6bb4b60, 0xbebfbc70,
    0x289b7ec6, 0xeaa127fa, 0xd4ef3085, 0x04881d05, 0xd9d4d039, 0xe6db99e5, 0x1fa27cf8, 0xc4ac5665,
    0xf4292244, 0x432aff97, 0xab9423a7, 0xfc93a039, 0x655b59c3, 0x8f0ccc92, 0xffeff47d, 0x85845dd1,
    0x6fa87e4f, 0xfe2ce6e0, 0xa3014314, 0x4e0811a1, 0xf7537e82, 0xbd3af235, 0x2ad7d2bb, 0xeb86d391]

structure FourWords where
  a : BitVec 32
  b : BitVec 32
  c : BitVec 32
  d : BitVec 32

namespace FourWords

def start : FourWords := ⟨0x67452301, 0xefcdab89, 0x98badcfe, 0x10325476⟩

/-- what is mixed in a round, the word of the block and the rotations -/
def mixed (s : FourWords) (round : Nat) : BitVec 32 × Nat × List Nat :=
  if round < 16 then ((s.b &&& s.c) ||| (~~~s.b &&& s.d), round, [7, 12, 17, 22])
  else if round < 32 then
    ((s.d &&& s.b) ||| (~~~s.d &&& s.c), (5 * round + 1) % 16, [5, 9, 14, 20])
  else if round < 48 then (s.b ^^^ s.c ^^^ s.d, (3 * round + 5) % 16, [4, 11, 16, 23])
  else (s.c ^^^ (s.b ||| ~~~s.d), 7 * round % 16, [6, 10, 15, 21])

def step (words : List (BitVec 32)) (s : FourWords) (round : Nat × Nat) : FourWords :=
  let (mixed, place, rotations) := s.mixed round.1
  let sum := s.a + mixed + BitVec.ofNat 32 round.2 + words.getD place 0
  ⟨s.d, s.b + sum.rotateLeft (rotations.getD (round.1 % 4) 0), s.b, s.c⟩

def block (s : FourWords) (words : List (BitVec 32)) : FourWords :=
  let t := ((List.range 64).zip sineBits).foldl (step words) s
  ⟨s.a + t.a, s.b + t.b, s.c + t.c, s.d + t.d⟩

end FourWords

/-- the digest of 128 bits -/
def md5 (message : List Nat) : List Nat :=
  let s := (Layout.low32.blocks message).foldl FourWords.block FourWords.start
  Layout.low32.octets [s.a, s.b, s.c, s.d]

/-! ### sums -/

/-- one bit of a remainder -/
def cyclicBit (r : BitVec 32) : BitVec 32 :=
  if r.getMsbD 0 then (r <<< 1) ^^^ 0x04c11db7 else r <<< 1

/-- the remainders of single octets -/
def cyclicTable : Array (BitVec 32) :=
  ((List.range 256).map fun n =>
    (List.range 8).foldl (fun r _ => cyclicBit r) (BitVec.ofNat 32 (n <<< 24))).toArray

/-- the octets of a length, the lowest first, without zeros at the end -/
def lengthOctets : (fuel : Nat) → Nat → List Nat
  | 0, _ => []
  | fuel + 1, n => if n = 0 then [] else n % 256 :: lengthOctets fuel (n / 256)

/-- the remainder of a message with its length behind it, with all bits turned -/
def cyclicCheck (message : List Nat) : Nat :=
  let step (r : BitVec 32) (octet : Nat) : BitVec 32 :=
    (r <<< 8) ^^^ cyclicTable.getD ((r >>> 24).toNat ^^^ octet) 0
  (~~~((message ++ lengthOctets 64 message.length).foldl step 0)).toNat

/-- the sum of octets, rotated before each -/
def rotatedSum (message : List Nat) : Nat :=
  (message.foldl (fun (s : BitVec 16) o => s.rotateRight 1 + BitVec.ofNat 16 o) 0).toNat

/-- the sum of octets, with what is above 16 bits added to them -/
def foldedSum (message : List Nat) : Nat :=
  let sum := message.foldl (· + ·) 0 % 0x100000000
  let folded := sum % 0x10000 + sum / 0x10000
  folded % 0x10000 + folded / 0x10000

end ShellWorkers.Digest
