import Mathlib.Data.List.Basic
import ShellWorkers.StatusText

/-!
# Status files are read back

Codes written one to a line, in decimal, are the codes that `readCodes` finds, for every line end
that is made of blanks and a newline.

* `natural?_repr`, `code?_toString`   one number, one code;
* `codesOf_entries_lines`             a whole file.
-/

namespace ShellWorkers

namespace StatusText

/-! ## one code -/

theorem digitsFrom_of_isDigit (ds : List Char) (n : Nat) (h : ∀ d ∈ ds, d.isDigit) :
    digitsFrom n ds = some (Nat.ofDigitChars 10 ds n) := by
  induction ds generalizing n with
  | nil => rw [digitsFrom, Nat.ofDigitChars_nil]
  | cons d ds ih =>
    rw [digitsFrom, digit?, if_pos (h d List.mem_cons_self), Option.bind_some,
      ih _ fun e he => h e (List.mem_cons_of_mem _ he), Nat.ofDigitChars_cons, Nat.mul_comm]

theorem isDigit_of_mem_repr {n : Nat} {d : Char} (h : d ∈ (toString n).toList) : d.isDigit := by
  rw [show (toString n).toList = Nat.toDigits 10 n from Nat.toList_repr] at h
  exact Nat.isDigit_of_mem_toDigits (by decide) (by decide) h

theorem repr_ne_nil (n : Nat) : (toString n).toList ≠ [] := by
  rw [show (toString n).toList = Nat.toDigits 10 n from Nat.toList_repr]
  exact Nat.toDigits_ne_nil

theorem natural?_repr (n : Nat) : natural? (toString n).toList = some n := by
  have hne := repr_ne_nil n
  have hdigits : digitsFrom 0 (toString n).toList = some n := by
    rw [digitsFrom_of_isDigit _ 0 fun d hd => isDigit_of_mem_repr hd,
      show (toString n).toList = Nat.toDigits 10 n from Nat.toList_repr,
      Nat.ofDigitChars_ten_toDigits]
  cases h : (toString n).toList with
  | nil => exact absurd h hne
  | cons d ds => rw [← hdigits, h]; rfl

/-- a text of digits has no sign -/
theorem code?_of_isDigit {ds : List Char} (h : ∀ d ∈ ds, d.isDigit) :
    code? ds = (natural? ds).bind fun n => if n ≤ 2147483647 then some (n : Int) else none := by
  unfold code?
  split
  · exact absurd (h '-' List.mem_cons_self) (by decide)
  · exact absurd (h '+' List.mem_cons_self) (by decide)
  · rfl

/-- the codes of 32 bits -/
def IsCode (c : Int) : Prop := -2147483648 ≤ c ∧ c ≤ 2147483647

theorem toString_negSucc (n : Nat) :
    (toString (Int.negSucc n)).toList = '-' :: (toString (n + 1)).toList := by
  show ("-" ++ toString (n + 1)).toList = _
  rw [String.toList_append]
  rfl

theorem code?_toString {c : Int} (h : IsCode c) : code? (toString c).toList = some c := by
  obtain ⟨hlow, hhigh⟩ := h
  cases c with
  | ofNat n =>
    have hn : n ≤ 2147483647 := Int.ofNat_le.mp hhigh
    show code? (toString n).toList = _
    rw [code?_of_isDigit fun d hd => isDigit_of_mem_repr hd, natural?_repr, Option.bind_some,
      if_pos hn]
    rfl
  | negSucc n =>
    rw [toString_negSucc, code?, natural?_repr, Option.bind_some, if_pos (by omega)]
    rfl

/-- the characters of a code -/
theorem mem_toString_code {c : Int} {d : Char} (h : d ∈ (toString c).toList) :
    d = '-' ∨ d.isDigit := by
  cases c with
  | ofNat n => exact Or.inr (isDigit_of_mem_repr h)
  | negSucc n =>
    rw [toString_negSucc] at h
    rcases List.mem_cons.mp h with rfl | h
    · exact Or.inl rfl
    · exact Or.inr (isDigit_of_mem_repr h)

theorem toString_code_ne_nil (c : Int) : (toString c).toList ≠ [] := by
  cases c with
  | ofNat n => exact repr_ne_nil n
  | negSucc n => rw [toString_negSucc]; exact List.cons_ne_nil _ _

theorem toNat_of_isDigit {d : Char} (h : d.isDigit) : 48 ≤ d.toNat ∧ d.toNat ≤ 57 :=
  Char.isDigit_iff_toNat.mp h

theorem isBlank_of_isDigit {d : Char} (h : d.isDigit) : Text.isBlank d = false := by
  obtain ⟨hlow, hhigh⟩ := toNat_of_isDigit h
  simp only [Text.isBlank, Bool.or_eq_false_iff, Bool.and_eq_false_iff, beq_eq_false_iff_ne,
    decide_eq_false_iff_not]
  omega

theorem isBlank_of_mem_toString_code {c : Int} {d : Char} (h : d ∈ (toString c).toList) :
    Text.isBlank d = false := by
  rcases mem_toString_code h with rfl | h
  · decide
  · exact isBlank_of_isDigit h

/-! ## lines -/

/-- a line end: blanks and a newline -/
def IsLineEnd (e : List Char) : Prop :=
  ∃ blanks, e = blanks ++ ['\n'] ∧ ∀ b ∈ blanks, Text.isBlank b ∧ b ≠ '\n'

theorem isLineEnd_posixEnd : IsLineEnd posixEnd := ⟨[], rfl, fun _ hb => absurd hb List.not_mem_nil⟩

theorem isLineEnd_promptEnd : IsLineEnd promptEnd := by
  refine ⟨[' ', '\r'], rfl, fun b hb => ?_⟩
  rcases List.mem_cons.mp hb with rfl | hb
  · decide
  · rw [List.mem_singleton.mp hb]
    decide

theorem dropWhile_append_of_all {p : Char → Bool} {as : List Char} (bs : List Char)
    (h : ∀ a ∈ as, p a) : (as ++ bs).dropWhile p = bs.dropWhile p := by
  induction as with
  | nil => rfl
  | cons a as ih =>
    rw [List.cons_append, List.dropWhile_cons, if_pos (h a List.mem_cons_self),
      ih fun b hb => h b (List.mem_cons_of_mem _ hb)]

theorem dropWhile_of_none {p : Char → Bool} {as : List Char} (h : ∀ a ∈ as, p a = false) :
    as.dropWhile p = as := by
  cases as with
  | nil => rfl
  | cons a as => rw [List.dropWhile_cons, if_neg (by rw [h a List.mem_cons_self]; decide)]

/-- blanks behind a text without blanks are trimmed off -/
theorem trimChars_append_blanks {cs blanks : List Char} (hne : cs ≠ [])
    (hcs : ∀ c ∈ cs, Text.isBlank c = false) (hb : ∀ b ∈ blanks, Text.isBlank b) :
    Text.trimChars (cs ++ blanks) = cs := by
  have hfront : (cs ++ blanks).dropWhile Text.isBlank = cs ++ blanks := by
    cases cs with
    | nil => exact absurd rfl hne
    | cons c cs =>
      rw [List.cons_append, List.dropWhile_cons,
        if_neg (by rw [hcs c List.mem_cons_self]; decide)]
  rw [Text.trimChars, hfront, Text.trimEndChars, List.reverse_append,
    dropWhile_append_of_all _ fun b h => hb b (List.mem_reverse.mp h),
    dropWhile_of_none fun c h => hcs c (List.mem_reverse.mp h), List.reverse_reverse]

theorem entries_codeLine {e : List Char} (he : IsLineEnd e) (c : Int) (rest : List Char) :
    entries (codeLine e c ++ rest) = (toString c).toList :: entries rest := by
  obtain ⟨blanks, rfl, hb⟩ := he
  have hline : codeLine (blanks ++ ['\n']) c ++ rest =
      ((toString c).toList ++ blanks) ++ '\n' :: rest := by
    simp [codeLine]
  have hnl : '\n' ∉ (toString c).toList ++ blanks := by
    intro h
    rcases List.mem_append.mp h with h | h
    · exact absurd (isBlank_of_mem_toString_code h) (by decide)
    · exact (hb _ h).2 rfl
  have htrim := trimChars_append_blanks (toString_code_ne_nil c)
    (fun d hd => isBlank_of_mem_toString_code hd) fun b h => (hb b h).1
  rw [hline, entries, linesOf_line _ _ hnl, List.map_cons, htrim, List.filter_cons, if_pos]
  · rfl
  · rw [Bool.not_eq_true', List.isEmpty_eq_false_iff]
    exact toString_code_ne_nil c

/-- **Codes written line by line are read back.** -/
theorem codesOf_entries_lines {e : List Char} (he : IsLineEnd e) (codes : List Int)
    (h : ∀ c ∈ codes, IsCode c) : codesOf (entries (codes.flatMap (codeLine e))) = ⟨codes, false⟩ := by
  induction codes with
  | nil => rfl
  | cons c codes ih =>
    rw [List.flatMap_cons, entries_codeLine he, codesOf, code?_toString (h c List.mem_cons_self),
      ih fun d hd => h d (List.mem_cons_of_mem _ hd)]

end StatusText

end ShellWorkers
