/-!
# One record of two streams

What a process writes to its two output streams is collected line by line: a line enters the
record when its end has been read, an unfinished last line when the stream ends.  So lines of the
two streams alternate in the record but never mix.
-/

namespace ShellWorkers

inductive Stream where
  | output
  | errors
  deriving DecidableEq, Repr

/-- the record, last octet first, and the line each stream has begun, last octet first -/
structure Capture where
  record : List UInt8
  outputLine : List UInt8
  errorLine : List UInt8

namespace Capture

def empty : Capture := ⟨[], [], []⟩

def line (c : Capture) : Stream → List UInt8
  | .output => c.outputLine
  | .errors => c.errorLine

def setLine (c : Capture) (s : Stream) (l : List UInt8) : Capture :=
  match s with
  | .output => { c with outputLine := l }
  | .errors => { c with errorLine := l }

/-- the octet that ends a line -/
def lineEnd : UInt8 := 10

/-- the line a stream has begun enters the record -/
def flush (c : Capture) (s : Stream) : Capture :=
  { c with record := c.line s ++ c.record }.setLine s []

/-- one octet read from a stream -/
def readOctet (s : Stream) (c : Capture) (b : UInt8) : Capture :=
  let c := c.setLine s (b :: c.line s)
  if b = lineEnd then c.flush s else c

/-- octets read from a stream -/
def read (c : Capture) (s : Stream) (bs : List UInt8) : Capture := bs.foldl (readOctet s) c

/-- the end of a stream -/
def close (c : Capture) (s : Stream) : Capture := c.flush s

/-- the octets recorded, in order -/
def octets (c : Capture) : List UInt8 := c.record.reverse

theorem read_nil (c : Capture) (s : Stream) : c.read s [] = c := rfl

theorem read_cons (c : Capture) (s : Stream) (b : UInt8) (bs : List UInt8) :
    c.read s (b :: bs) = (readOctet s c b).read s bs := rfl

theorem read_append (c : Capture) (s : Stream) (as bs : List UInt8) :
    c.read s (as ++ bs) = (c.read s as).read s bs := by
  simp [read, List.foldl_append]

end Capture

end ShellWorkers
