import ShellWorkers.Proofs.StatusFiles

/-!
# Status files that are cut off

A status file can end in the middle of what its shell wrote.  The codes that are read from such a
file are those that were written, but for the last one: it can be the beginning of a numeral.  A
beginning of a numeral that is not zero is not zero, so a file with enough codes names the same
first failure as the whole one.

* `ofDigitChars_ne_zero_of_prefix`      beginnings of numerals;
* `Worn`, `codesOf_entries_of_prefix`   beginnings of a text, line by line;
* `exists_of_prefix_encode`             beginnings of octets;
* `finish_of_torn`                      what a session reports on them.
-/

namespace ShellWorkers

open ShellWorkers.Action

namespace StatusText

/-! ## numerals -/

/-- one character has no other beginning -/
theorem eq_of_prefix_singleton {q : List Char} {d : Char} (h : q <+: [d]) (hne : q ≠ []) :
    q = [d] := by
  rcases List.prefix_cons_iff.mp h with rfl | ⟨ds, rfl, hds⟩
  · exact absurd rfl hne
  · rw [List.prefix_nil.mp hds]

/-- a beginning of the numeral of a number that is not zero is not zero -/
theorem ofDigitChars_ne_zero_of_prefix {n : Nat} (hn : n ≠ 0) {q : List Char} (hne : q ≠ [])
    (h : q <+: Nat.toDigits 10 n) : Nat.ofDigitChars 10 q 0 ≠ 0 := by
  induction n using Nat.strongRecOn generalizing q with
  | ind n ih =>
    have hwhole : q = Nat.toDigits 10 n → Nat.ofDigitChars 10 q 0 ≠ 0 := by
      rintro rfl
      rw [Nat.ofDigitChars_ten_toDigits]
      exact hn
    by_cases hlt : n < 10
    · rw [Nat.toDigits_of_lt_base hlt] at h hwhole
      exact hwhole (eq_of_prefix_singleton h hne)
    · rw [Nat.toDigits_of_base_le (by decide) (Nat.le_of_not_lt hlt)] at h hwhole
      rcases List.prefix_concat_iff.mp h with heq | hinit
      · exact hwhole heq
      · exact ih (n / 10) (by omega) (by omega) hne hinit

/-- a numeral that begins the numeral of `n` is zero exactly if `n` is -/
theorem natural?_of_prefix {n m : Nat} {q : List Char} (h : q <+: (toString n).toList)
    (hq : natural? q = some m) : m = 0 ↔ n = 0 := by
  obtain ⟨hne, _, hvalue⟩ := natural?_eq_some_iff.mp hq
  rw [show (toString n).toList = Nat.toDigits 10 n from Nat.toList_repr] at h
  constructor
  · rintro rfl
    exact Classical.byContradiction fun hn => ofDigitChars_ne_zero_of_prefix hn hne h hvalue
  · rintro rfl
    rw [Nat.toDigits_of_lt_base (by decide)] at h
    rw [← hvalue, eq_of_prefix_singleton h hne]
    rfl

/-- a code that begins another one is zero exactly if that one is -/
theorem code?_of_prefix {c c' : Int} {q : List Char} (h : q <+: (toString c).toList)
    (hq : code? q = some c') : c' = 0 ↔ c = 0 := by
  cases c with
  | ofNat n =>
    have hdigits : ∀ d ∈ q, d.isDigit := fun d hd => isDigit_of_mem_repr (h.subset hd)
    rw [code?_of_isDigit hdigits] at hq
    obtain ⟨m, hm, _, rfl⟩ := eq_of_bind_bounded hq
    have hzero := natural?_of_prefix h hm
    show (m : Int) = 0 ↔ (n : Int) = 0
    omega
  | negSucc n =>
    rw [toString_negSucc] at h
    rcases List.prefix_cons_iff.mp h with rfl | ⟨ds, rfl, hds⟩
    · exact nomatch hq
    · rw [code?] at hq
      obtain ⟨m, hm, _, rfl⟩ := eq_of_bind_bounded hq
      have hzero := natural?_of_prefix hds hm
      omega

/-! ## lines -/

/-- a line without its end still counts -/
theorem entries_unended {cs blanks : List Char} (hne : cs ≠ [])
    (hcs : ∀ c ∈ cs, Text.isBlank c = false) (hb : ∀ b ∈ blanks, Text.isBlank b ∧ b ≠ '\n') :
    entries (cs ++ blanks) = [cs] := by
  have htrim := trimChars_append_blanks hne hcs fun b h => (hb b h).1
  have hnl : ∀ c ∈ cs ++ blanks, (c == '\n') = false := by
    intro c hc
    rw [beq_eq_false_iff_ne]
    rintro rfl
    rcases List.mem_append.mp hc with hc | hc
    · exact absurd (hcs _ hc) (by decide)
    · exact (hb _ hc).2 rfl
  have hblank : ¬ IsBlankLine (cs ++ blanks) := by
    rw [← trimChars_eq_nil_iff, htrim]
    exact hne
  rw [entries_eq_counted, List.splitOn, List.splitOnP_eq_singleton hnl, counted_cons hblank, htrim]
  rfl

/-- the beginning of a line counts as nothing, or as a beginning of its code -/
theorem entries_of_prefix_codeLine {e : List Char} (he : IsLineEnd e) {c : Int} {cs : List Char}
    (h : cs <+: codeLine e c) :
    entries cs = [] ∨ ∃ q, q <+: (toString c).toList ∧ entries cs = [q] := by
  have hcode : ∀ d ∈ (toString c).toList, Text.isBlank d = false :=
    fun d hd => isBlank_of_mem_toString_code hd
  have hwhole := entries_codeLine he c []
  rw [List.append_nil] at hwhole
  obtain ⟨blanks, rfl, hb⟩ := he
  rw [codeLine, ← List.append_assoc] at h hwhole
  rcases List.prefix_concat_iff.mp h with rfl | hunended
  · exact Or.inr ⟨_, List.prefix_refl _, hwhole⟩
  rcases List.prefix_or_prefix_of_prefix hunended (List.prefix_append _ blanks) with hcut | hcut
  · -- the cut is in the code
    cases cs with
    | nil => exact Or.inl rfl
    | cons d ds =>
      have hentries := entries_unended (List.cons_ne_nil d ds) (fun b hb => hcode b (hcut.subset hb))
        fun b hb => absurd hb List.not_mem_nil
      rw [List.append_nil] at hentries
      exact Or.inr ⟨_, hcut, hentries⟩
  · -- the cut is behind it
    obtain ⟨behind, rfl⟩ := hcut
    have hbehind := (List.prefix_append_right_inj _).mp hunended
    exact Or.inr ⟨_, List.prefix_refl _, entries_unended (toString_code_ne_nil c) hcode
      fun b hb' => hb b (hbehind.subset hb')⟩

/-! ## a whole text -/

/-- The codes `read` are worn: they are `codes`, but the last one can be another code, which is
zero exactly if it was. -/
def Worn (codes read : List Int) : Prop :=
  read = codes ∨ ∃ before c c', codes = before ++ [c] ∧ read = before ++ [c'] ∧ (c' = 0 ↔ c = 0)

namespace Worn

variable {codes read : List Int}

theorem cons (h : Worn codes read) (c : Int) : Worn (c :: codes) (c :: read) := by
  rcases h with rfl | ⟨before, d, d', rfl, rfl, hzero⟩
  · exact Or.inl rfl
  · exact Or.inr ⟨c :: before, d, d', rfl, rfl, hzero⟩

theorem length (h : Worn codes read) : read.length = codes.length := by
  rcases h with rfl | ⟨before, c, c', rfl, rfl, _⟩
  · rfl
  · rw [List.length_append, List.length_append, List.length_singleton, List.length_singleton]

theorem dropLast (h : Worn codes read) : read.dropLast = codes.dropLast := by
  rcases h with rfl | ⟨before, c, c', rfl, rfl, _⟩
  · rfl
  · rw [List.dropLast_concat, List.dropLast_concat]

theorem getLast? (h : Worn codes read) : read.getLast? = some 0 ↔ codes.getLast? = some 0 := by
  rcases h with rfl | ⟨before, c, c', rfl, rfl, hzero⟩
  · rfl
  · rw [List.getLast?_concat, List.getLast?_concat, Option.some_inj, Option.some_inj]
    exact hzero

/-- the first code that is not zero stays in its place -/
theorem firstNonzero (h : Worn codes read) (index : Nat) :
    (firstNonzero index read).map Prod.fst = (firstNonzero index codes).map Prod.fst := by
  rcases h with rfl | ⟨before, c, c', rfl, rfl, hzero⟩
  · rfl
  induction before generalizing index with
  | nil =>
    show (if c' = 0 then none else some (index, c')).map Prod.fst =
      (if c = 0 then none else some (index, c)).map Prod.fst
    by_cases hc : c = 0
    · rw [if_pos hc, if_pos (hzero.mpr hc)]
    · rw [if_neg hc, if_neg (mt hzero.mp hc)]
      rfl
  | cons d before ih =>
    rw [List.cons_append, List.cons_append, ShellWorkers.firstNonzero, ShellWorkers.firstNonzero]
    split
    · exact ih (index + 1)
    · rfl

end Worn

/-- **Beginnings of a text.**  From the beginning of a text of codes too few codes are read, or the
reading stops, or the codes are worn. -/
theorem codesOf_entries_of_prefix {e : List Char} (he : IsLineEnd e) {codes : List Int}
    (hcodes : ∀ c ∈ codes, IsCode c) {cs : List Char} (h : cs <+: codes.flatMap (codeLine e)) :
    (codesOf (entries cs)).stopped = true ∨ (codesOf (entries cs)).codes.length < codes.length ∨
      Worn codes (codesOf (entries cs)).codes := by
  induction codes generalizing cs with
  | nil =>
    obtain rfl := List.prefix_nil.mp h
    exact Or.inr (Or.inr (Or.inl rfl))
  | cons c codes ih =>
    obtain ⟨hc, hcodes⟩ := List.forall_mem_cons.mp hcodes
    rw [List.flatMap_cons] at h
    rcases List.prefix_or_prefix_of_prefix h (List.prefix_append _ _) with hcut | ⟨rest, rfl⟩
    · -- the cut is in the first line
      rcases entries_of_prefix_codeLine he hcut with hentries | ⟨q, hq, hentries⟩
      · rw [hentries]
        exact Or.inr (Or.inl (Nat.succ_pos _))
      rw [hentries, codesOf]
      cases hread : code? q with
      | none => exact Or.inl rfl
      | some c' =>
        refine Or.inr ?_
        cases codes with
        | nil => exact Or.inr (Or.inr ⟨[], c, c', rfl, rfl, code?_of_prefix hq hread⟩)
        | cons d codes => exact Or.inl (Nat.succ_lt_succ (Nat.succ_pos _))
    · -- the first line is whole
      have hrest := (List.prefix_append_right_inj _).mp h
      rw [entries_codeLine he, codesOf, code?_toString hc]
      rcases ih hcodes hrest with hstopped | hshort | hworn
      · exact Or.inl hstopped
      · exact Or.inr (Or.inl (Nat.succ_lt_succ hshort))
      · exact Or.inr (Or.inr (hworn.cons c))

/-! ## octets -/

/-- what shells of a flavor write behind a code -/
def lineEnd : Flavor → List Char
  | .posix => posixEnd
  | .commandPrompt => promptEnd

theorem isLineEnd_lineEnd (flavor : Flavor) : IsLineEnd (lineEnd flavor) := by
  cases flavor with
  | posix => exact isLineEnd_posixEnd
  | commandPrompt => exact isLineEnd_promptEnd

/-- the text of a status file with one code for each command -/
def written (flavor : Flavor) (codes : List Int) : String :=
  String.ofList (codes.flatMap (codeLine (lineEnd flavor)))

theorem toNat_of_mem_written {flavor : Flavor} {codes : List Int} {d : Char}
    (h : d ∈ (written flavor codes).toList) : d.toNat < 128 := by
  have hend : (lineEnd flavor).all (fun d => decide (d.toNat < 128)) = true := by
    cases flavor with
    | posix => rfl
    | commandPrompt => rfl
  rw [written, String.toList_ofList] at h
  obtain ⟨c, _, hd⟩ := List.mem_flatMap.mp h
  rcases List.mem_append.mp hd with hd | hd
  · rcases mem_toString_code hd with rfl | hdigit
    · decide
    · have hrange := toNat_of_isDigit hdigit
      omega
  · exact of_decide_eq_true (List.all_eq_true.mp hend d hd)

/-- the octets of plain characters -/
theorem encode_of_plain {cs : List Char} (h : ∀ c ∈ cs, c.toNat < 128) :
    Text.encode (String.ofList cs) = cs.map fun c => UInt8.ofNat c.toNat := by
  have hchar : ∀ c ∈ cs, String.utf8EncodeChar c = [UInt8.ofNat c.toNat] := by
    intro c hc
    have hplain : c.val.toNat ≤ 0x7F := Nat.le_of_lt_succ (h c hc)
    simp only [String.utf8EncodeChar]
    rw [if_pos hplain]
    rfl
  rw [Text.encode, String.toList_ofList, List.map_eq_flatMap]
  exact List.flatMap_congr hchar

/-- beginnings of the octets of a plain text are the octets of its beginnings -/
theorem exists_of_prefix_encode {text : String} (htext : ∀ c ∈ text.toList, c.toNat < 128)
    {octets : List UInt8} (h : octets <+: Text.encode text) :
    ∃ cs, cs <+: text.toList ∧ octets = Text.encode (String.ofList cs) := by
  rw [← String.ofList_toList (s := text), encode_of_plain htext] at h
  obtain ⟨cs, hcs, rfl⟩ := List.prefix_map_iff.mp h
  exact ⟨cs, hcs, (encode_of_plain fun c hc => htext c (hcs.subset hc)).symm⟩

end StatusText

/-! ## sessions -/

open StatusText

namespace Session

/-- **A status file that is cut off never turns a failure into a success.**  From any beginning of
the octets of a file with one code for every command, the session reports a violation, or as many
codes, of which all but the last are those of the file, and the last is zero exactly if it was: so
the first failure, if there is one, is that of the same command.  From the whole file it reports
the codes. -/
theorem finish_of_torn {σ : Type} {env : Interaction.Environment Host.Answer σ} {s : Session} {w : σ}
    {output : String} {octets : List UInt8} {codes : List Int} (hcodes : ∀ c ∈ codes, IsCode c)
    (hlength : codes.length = s.submitted)
    (htorn : octets <+: Text.encode (written s.flavor codes))
    (hfinds : Finds env s w output (.ok octets)) :
    ((∃ recorded, (outcome env s.finish w).1 =
        .error (.error (.protocolViolation s.worker s.submitted recorded output))) ∨
      ∃ read, (outcome env s.finish w).1 = .ok ⟨output, read⟩ ∧ read.length = codes.length ∧
        read.dropLast = codes.dropLast ∧ (read.getLast? = some 0 ↔ codes.getLast? = some 0) ∧
        (SessionReport.firstFailure? ⟨output, read⟩).map Prod.fst =
          (SessionReport.firstFailure? ⟨output, codes⟩).map Prod.fst) ∧
    (octets = Text.encode (written s.flavor codes) →
      (outcome env s.finish w).1 = .ok ⟨output, codes⟩) := by
  have hend := isLineEnd_lineEnd s.flavor
  rw [outcome_finish_of_finds hfinds]
  constructor
  · obtain ⟨cs, hcs, rfl⟩ := exists_of_prefix_encode (fun _ => toNat_of_mem_written) htorn
    rw [written, String.toList_ofList] at hcs
    have hread := codesOf_entries_of_prefix hend hcodes hcs
    generalize hgot : codesOf (entries cs) = got at hread
    have hgot' : readCodes (String.ofList cs) = got := by
      rw [readCodes, String.toList_ofList, hgot]
    obtain ⟨read, stopped⟩ := got
    cases stopped with
    | true => exact Or.inl ⟨_, report_of_not_read hgot' (.inl rfl)⟩
    | false =>
      rcases hread with hstopped | hshort | hworn
      · exact nomatch hstopped
      · exact Or.inl ⟨_, report_of_not_read hgot' (.inr (by omega))⟩
      · exact Or.inr ⟨read, report_of_read hgot' (hworn.length.trans hlength), hworn.length,
          hworn.dropLast, hworn.getLast?, hworn.firstNonzero 0⟩
  · rintro rfl
    refine report_of_read ?_ hlength
    rw [readCodes, written, String.toList_ofList, codesOf_entries_lines hend codes hcodes]

end Session

/-- the second code is cut after its first digit -/
theorem finish_of_torn_digit :
    ∃ octets, octets <+: Text.encode (written .commandPrompt [0, -15]) ∧
      Session.Finds (Workshop.environment restingConduct) (restingSession .commandPrompt 2)
        (leftBehind octets) "ok" (.ok octets) ∧
      (outcome (Workshop.environment restingConduct) (restingSession .commandPrompt 2).finish
        (leftBehind octets)).1 = .ok ⟨"ok", [0, -1]⟩ ∧
      (SessionReport.firstFailure? ⟨"ok", [0, -1]⟩).map Prod.fst =
        (SessionReport.firstFailure? ⟨"ok", [0, -15]⟩).map Prod.fst := by
  have hcodes : ∀ c ∈ [0, -15], IsCode c := by
    intro c hc
    rw [List.mem_pair] at hc
    unfold IsCode
    omega
  have htorn : Text.encode "0 \r\n-1" <+: Text.encode (written .commandPrompt [0, -15]) := by
    decide +kernel
  have hfinds := finds_leftBehind .commandPrompt 2 (Text.encode "0 \r\n-1")
  have hfinish : (outcome (Workshop.environment restingConduct)
      (restingSession .commandPrompt 2).finish (leftBehind (Text.encode "0 \r\n-1"))).1 =
        .ok ⟨"ok", [0, -1]⟩ := by
    decide +kernel
  obtain ⟨⟨recorded, hviolation⟩ | ⟨read, hread, _, _, _, hfirst⟩, _⟩ :=
    Session.finish_of_torn (s := restingSession .commandPrompt 2) hcodes rfl htorn hfinds
  · rw [hfinish] at hviolation
    exact nomatch hviolation
  · rw [hfinish] at hread
    obtain ⟨_, rfl⟩ := SessionReport.mk.inj (Except.ok.inj hread)
    exact ⟨_, htorn, hfinds, hfinish, hfirst⟩

end ShellWorkers
