/-!
# Blank characters

The characters with the Unicode property `White_Space`, and the three operations on text that
the library builds on them:

* `trim`, `trimEnd`   the text without the blanks at its ends (at its end);
* `words`             the maximal runs of other characters, in order.

`words_join` says that a list of words is read back from the words joined by single spaces.
-/

namespace ShellWorkers.Text

/-! ## the class -/

/-- the code points that Unicode calls white space -/
def isBlank (c : Char) : Bool :=
  let n := c.toNat
  (9 ≤ n && n ≤ 13) || n == 0x20 || n == 0x85 || n == 0xA0 || n == 0x1680
    || (0x2000 ≤ n && n ≤ 0x200A) || n == 0x2028 || n == 0x2029 || n == 0x202F
    || n == 0x205F || n == 0x3000

/-- core's own class is the ASCII part of it -/
theorem isBlank_of_isWhitespace (c : Char) (h : c.isWhitespace = true) : isBlank c = true := by
  simp only [Char.isWhitespace, Bool.or_eq_true, decide_eq_true_eq] at h
  obtain (((rfl | rfl) | rfl) | rfl) := h <;> decide

/-! ## trimming -/

/-- the text without the blanks it ends in -/
def trimEndChars (cs : List Char) : List Char := (cs.reverse.dropWhile isBlank).reverse

/-- the text without the blanks it starts and ends in -/
def trimChars (cs : List Char) : List Char := trimEndChars (cs.dropWhile isBlank)

def trimEnd (s : String) : String := String.ofList (trimEndChars s.toList)

def trim (s : String) : String := String.ofList (trimChars s.toList)

/-- whether the text holds nothing but blanks -/
def isBlankText (s : String) : Bool := s.toList.all isBlank

/-! ## words -/

/-- what reading a text from its end has found: the word that is still open, and the words
after it -/
structure Words where
  word : List Char
  after : List (List Char)

/-- the open word is closed, and dropped when it is empty -/
def Words.close (w : Words) : List (List Char) :=
  if w.word.isEmpty then w.after else w.word :: w.after

/-- one more character, read from the right -/
def Words.extend (c : Char) (w : Words) : Words :=
  if isBlank c then ⟨[], w.close⟩ else ⟨c :: w.word, w.after⟩

/-- the maximal runs of characters that are not blank -/
def wordsOf (cs : List Char) : List (List Char) := (cs.foldr Words.extend ⟨[], []⟩).close

def words (s : String) : List String := (wordsOf s.toList).map String.ofList

theorem wordsOf_nil : wordsOf [] = [] := rfl

theorem foldr_extend_word (w rest : List Char) (h : ∀ c ∈ w, isBlank c = false) :
    (w ++ rest).foldr Words.extend ⟨[], []⟩ =
      ⟨w ++ (rest.foldr Words.extend ⟨[], []⟩).word,
        (rest.foldr Words.extend ⟨[], []⟩).after⟩ := by
  induction w with
  | nil => rfl
  | cons c w ih =>
    rw [List.cons_append, List.foldr_cons, ih (fun x hx => h x (List.mem_cons_of_mem _ hx)),
      Words.extend, h c List.mem_cons_self]
    rfl

/-- a word followed by a blank comes off the front -/
theorem wordsOf_word_blank (w : List Char) (b : Char) (rest : List Char)
    (hw : ∀ c ∈ w, isBlank c = false) (hne : w ≠ []) (hb : isBlank b = true) :
    wordsOf (w ++ b :: rest) = w :: wordsOf rest := by
  cases w with
  | nil => exact absurd rfl hne
  | cons c w =>
    rw [wordsOf, foldr_extend_word _ _ hw]
    simp [List.foldr_cons, Words.extend, hb, Words.close, wordsOf]

/-- a word alone is read as itself -/
theorem wordsOf_word (w : List Char) (hw : ∀ c ∈ w, isBlank c = false) (hne : w ≠ []) :
    wordsOf w = [w] := by
  cases w with
  | nil => exact absurd rfl hne
  | cons c w =>
    have h := foldr_extend_word (c :: w) [] hw
    rw [List.append_nil] at h
    simp [wordsOf, h, Words.close]

/-- words joined by single spaces are read back -/
theorem words_join (ws : List (List Char)) (h : ∀ w ∈ ws, w ≠ [] ∧ ∀ c ∈ w, isBlank c = false) :
    wordsOf (List.intercalate [' '] ws) = ws := by
  induction ws with
  | nil => rfl
  | cons w ws ih =>
    obtain ⟨hne, hw⟩ := h w List.mem_cons_self
    have hws := fun v hv => h v (List.mem_cons_of_mem _ hv)
    cases ws with
    | nil => simpa [List.intercalate] using wordsOf_word w hw hne
    | cons v ws =>
      have e : List.intercalate [' '] (w :: v :: ws) =
          w ++ ' ' :: List.intercalate [' '] (v :: ws) := by simp [List.intercalate]
      rw [e, wordsOf_word_blank w ' ' _ hw hne (by decide), ih hws]

end ShellWorkers.Text
