import ShellWorkers.Text.Blank

/-!
# The text of a status file

A worker's shell appends one line per command, the exit code in decimal.  `readCodes` reads the
text back: blank lines are skipped, the blanks around a code too, and a line that is no code of
32 bits stops the reading, with the number of codes before it.
-/

namespace ShellWorkers.StatusText

/-! ## lines -/

/-- the text cut after each line end; what follows the last one is a line unless it is empty -/
def linesOf : List Char → List (List Char)
  | [] => []
  | c :: cs =>
    if c = '\n' then [] :: linesOf cs
    else
      match linesOf cs with
      | [] => [[c]]
      | l :: ls => (c :: l) :: ls

/-! ## one code -/

/-- the value of a decimal digit -/
def digit? (c : Char) : Option Nat := if c.isDigit then some (c.toNat - '0'.toNat) else none

/-- the value of a text of digits that starts with the value `n` -/
def digitsFrom (n : Nat) : List Char → Option Nat
  | [] => some n
  | c :: cs => (digit? c).bind fun d => digitsFrom (n * 10 + d) cs

/-- the value of a nonempty text of digits -/
def natural? : List Char → Option Nat
  | [] => none
  | cs => digitsFrom 0 cs

/-- a code: digits after an optional sign, within 32 bits -/
def code? (cs : List Char) : Option Int :=
  match cs with
  | '-' :: ds => (natural? ds).bind fun n => if n ≤ 2147483648 then some (-(n : Int)) else none
  | '+' :: ds => (natural? ds).bind fun n => if n ≤ 2147483647 then some (n : Int) else none
  | ds => (natural? ds).bind fun n => if n ≤ 2147483647 then some (n : Int) else none

/-! ## the whole text -/

/-- the codes that were read, and whether the reading stopped at a line that is no code -/
structure Codes where
  codes : List Int
  stopped : Bool
  deriving DecidableEq, Repr

/-- the lines that count: trimmed, and not blank -/
def entries (text : List Char) : List (List Char) :=
  ((linesOf text).map Text.trimChars).filter (!·.isEmpty)

/-- the codes of the entries, up to the first that is none -/
def codesOf : List (List Char) → Codes
  | [] => ⟨[], false⟩
  | e :: es =>
    match code? e with
    | none => ⟨[], true⟩
    | some c => { codesOf es with codes := c :: (codesOf es).codes }

def readCodes (text : String) : Codes := codesOf (entries text.toList)

/-! ## what a shell writes -/

/-- a code as it is appended, before the line end `lineEnd` -/
def codeLine (lineEnd : List Char) (code : Int) : List Char := (toString code).toList ++ lineEnd

/-- the line end of the POSIX family -/
def posixEnd : List Char := ['\n']

/-- what the command prompt writes behind a code -/
def promptEnd : List Char := [' ', '\r', '\n']

theorem linesOf_nil : linesOf [] = [] := rfl

theorem linesOf_line (l rest : List Char) (h : '\n' ∉ l) :
    linesOf (l ++ '\n' :: rest) = l :: linesOf rest := by
  induction l with
  | nil => simp [linesOf]
  | cons c l ih =>
    have hc : c ≠ '\n' := fun e => h (by simp [e])
    have hl : '\n' ∉ l := fun e => h (List.mem_cons_of_mem _ e)
    simp [linesOf, hc, ih hl]

end ShellWorkers.StatusText
