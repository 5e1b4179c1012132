import ShellWorkers.Proofs.SessionRuns
import ShellWorkers.Proofs.StatusCodes
import ShellWorkers.Proofs.Utf8

/-!
# What a status file says

A status file can hold any octets.  Once the shell has ended, the session reports the codes of the
file if it is text whose lines are blank or codes, one for every command; any other text is a
violation with the number of codes before the first line that is neither.  Octets that are no text
are a fault of reading instead.

* `Spells`, `IsCodeLine`      signed decimal numerals, between blanks;
* `code?_trimChars_iff`       the lines that are codes;
* `Holds`, `IsUnreadable`     text that is codes throughout, and the lines that end the reading;
* `Reported`                  what is to be reported on a file;
* `finish_reported_iff`       a session whose shell has ended reports this and nothing else.
-/

namespace ShellWorkers

open ShellWorkers.Action

namespace StatusText

/-! ## numerals -/

/-- `ds` is a decimal numeral of `n`; it may start with zeros -/
structure IsNumeral (ds : List Char) (n : Nat) : Prop where
  nonempty : ds ≠ []
  digits : ∀ d ∈ ds, d.isDigit
  value : Nat.ofDigitChars 10 ds 0 = n

/-- numerals behind an optional sign -/
inductive Spells : List Char → Int → Prop
  | unsigned {ds : List Char} {n : Nat} (h : IsNumeral ds n) : Spells ds n
  | plus {ds : List Char} {n : Nat} (h : IsNumeral ds n) : Spells ('+' :: ds) n
  | minus {ds : List Char} {n : Nat} (h : IsNumeral ds n) : Spells ('-' :: ds) (-n)

theorem digitsFrom_eq_some {ds : List Char} {n m : Nat} (h : digitsFrom n ds = some m) :
    (∀ d ∈ ds, d.isDigit) ∧ Nat.ofDigitChars 10 ds n = m := by
  have hdigits : ∀ d ∈ ds, d.isDigit := by
    induction ds generalizing n with
    | nil => exact fun _ hd => absurd hd List.not_mem_nil
    | cons d ds ih =>
      rw [digitsFrom, digit?] at h
      split at h
      · next hd => exact List.forall_mem_cons.mpr ⟨hd, ih h⟩
      · cases h
  rw [digitsFrom_of_isDigit ds n hdigits] at h
  exact ⟨hdigits, Option.some.inj h⟩

theorem natural?_eq_some_iff {ds : List Char} {n : Nat} : natural? ds = some n ↔ IsNumeral ds n := by
  cases ds with
  | nil => exact ⟨nofun, fun h => absurd rfl h.nonempty⟩
  | cons d ds =>
    constructor
    · intro h
      obtain ⟨hdigits, hvalue⟩ := digitsFrom_eq_some h
      exact ⟨List.cons_ne_nil _ _, hdigits, hvalue⟩
    · intro h
      rw [natural?, digitsFrom_of_isDigit _ 0 h.digits, h.value]
      exact fun h => nomatch h

/-- a value within a bound -/
theorem eq_of_bind_bounded {o : Option Nat} {bound : Nat} {f : Nat → Int} {c : Int}
    (h : (o.bind fun n => if n ≤ bound then some (f n) else none) = some c) :
    ∃ n, o = some n ∧ n ≤ bound ∧ f n = c := by
  obtain ⟨n, hn, hc⟩ := Option.bind_eq_some_iff.mp h
  split at hc
  · next hbound => exact ⟨n, hn, hbound, Option.some.inj hc⟩
  · exact nomatch hc

/-- **The codes are the numerals of 32 bits.** -/
theorem code?_eq_some_iff {cs : List Char} {c : Int} :
    code? cs = some c ↔ Spells cs c ∧ IsCode c := by
  unfold IsCode
  constructor
  · intro h
    unfold code? at h
    split at h
    · obtain ⟨n, hn, hbound, rfl⟩ := eq_of_bind_bounded h
      exact ⟨.minus (natural?_eq_some_iff.mp hn), by omega⟩
    · obtain ⟨n, hn, hbound, rfl⟩ := eq_of_bind_bounded h
      exact ⟨.plus (natural?_eq_some_iff.mp hn), by omega⟩
    · obtain ⟨n, hn, hbound, rfl⟩ := eq_of_bind_bounded h
      exact ⟨.unsigned (natural?_eq_some_iff.mp hn), by omega⟩
  · rintro ⟨hspells, hlow, hhigh⟩
    cases hspells with
    | unsigned h =>
      rw [code?_of_isDigit h.digits, natural?_eq_some_iff.mpr h, Option.bind_some,
        if_pos (by omega)]
    | plus h => rw [code?, natural?_eq_some_iff.mpr h, Option.bind_some, if_pos (by omega)]
    | minus h => rw [code?, natural?_eq_some_iff.mpr h, Option.bind_some, if_pos (by omega)]

theorem Spells.isBlank {cs : List Char} {c : Int} (h : Spells cs c) :
    ∀ d ∈ cs, Text.isBlank d = false := by
  cases h with
  | unsigned h => exact fun d hd => isBlank_of_isDigit (h.digits d hd)
  | plus h =>
    exact List.forall_mem_cons.mpr ⟨by decide, fun d hd => isBlank_of_isDigit (h.digits d hd)⟩
  | minus h =>
    exact List.forall_mem_cons.mpr ⟨by decide, fun d hd => isBlank_of_isDigit (h.digits d hd)⟩

theorem Spells.ne_nil {cs : List Char} {c : Int} (h : Spells cs c) : cs ≠ [] := by
  cases h with
  | unsigned h => exact h.nonempty
  | plus h => exact List.cons_ne_nil _ _
  | minus h => exact List.cons_ne_nil _ _

/-! ## one line -/

/-- a line of blanks -/
def IsBlankLine (line : List Char) : Prop := ∀ b ∈ line, Text.isBlank b

/-- a line that is a code of 32 bits, between blanks -/
def IsCodeLine (line : List Char) (c : Int) : Prop :=
  IsCode c ∧ ∃ front numeral back, line = front ++ (numeral ++ back) ∧ IsBlankLine front ∧
    IsBlankLine back ∧ Spells numeral c

/-- a line that is neither -/
def IsUnreadable (line : List Char) : Prop := ¬ IsBlankLine line ∧ ∀ c, ¬ IsCodeLine line c

/-- a line is its trimmed text between blanks -/
theorem exists_trimChars (line : List Char) :
    ∃ front back, line = front ++ (Text.trimChars line ++ back) ∧ IsBlankLine front ∧
      IsBlankLine back := by
  have hfront := List.takeWhile_append_dropWhile (p := Text.isBlank) (l := line)
  generalize hrest : line.dropWhile Text.isBlank = rest at hfront
  have hback := List.takeWhile_append_dropWhile (p := Text.isBlank) (l := rest.reverse)
  refine ⟨line.takeWhile Text.isBlank, (rest.reverse.takeWhile Text.isBlank).reverse, ?_,
    List.all_eq_true.mp List.all_takeWhile,
    fun b hb => List.all_eq_true.mp List.all_takeWhile b (List.mem_reverse.mp hb)⟩
  rw [Text.trimChars, hrest, Text.trimEndChars, ← List.reverse_append, hback, List.reverse_reverse,
    hfront]

theorem trimChars_eq_nil_iff {line : List Char} : Text.trimChars line = [] ↔ IsBlankLine line := by
  constructor
  · intro h
    obtain ⟨front, back, hline, hfront, hback⟩ := exists_trimChars line
    rw [h, List.nil_append] at hline
    rw [hline]
    exact fun b hb => (List.mem_append.mp hb).elim (hfront b) (hback b)
  · intro h
    have hnone : line.dropWhile Text.isBlank = [] := by
      rw [← List.append_nil line, dropWhile_append_of_all [] h, List.dropWhile_nil]
    rw [Text.trimChars, hnone]
    rfl

/-- **What is left of a line without its blanks is a code exactly if the line is one.** -/
theorem code?_trimChars_iff {line : List Char} {c : Int} :
    code? (Text.trimChars line) = some c ↔ IsCodeLine line c := by
  rw [code?_eq_some_iff]
  constructor
  · rintro ⟨hspells, hcode⟩
    obtain ⟨front, back, hline, hfront, hback⟩ := exists_trimChars line
    exact ⟨hcode, front, _, back, hline, hfront, hback, hspells⟩
  · rintro ⟨hcode, front, numeral, back, rfl, hfront, hback, hspells⟩
    have htrim : Text.trimChars (front ++ (numeral ++ back)) = numeral := by
      rw [Text.trimChars, dropWhile_append_of_all _ hfront]
      exact trimChars_append_blanks hspells.ne_nil hspells.isBlank hback
    rw [htrim]
    exact ⟨hspells, hcode⟩

/-! ## a text -/

/-- the lines that count among lines -/
def counted (lines : List (List Char)) : List (List Char) :=
  (lines.map Text.trimChars).filter (!·.isEmpty)

/-- the lines of a text are the pieces between its newlines, without an empty last one -/
theorem splitOn_newline (text : List Char) :
    text.splitOn '\n' = linesOf text ∨ text.splitOn '\n' = linesOf text ++ [[]] := by
  induction text with
  | nil => exact Or.inr (List.splitOn_nil _)
  | cons c cs ih =>
    by_cases hc : c = '\n'
    · subst hc
      have hsplit : ('\n' :: cs).splitOn '\n' = [] :: cs.splitOn '\n' := by
        rw [List.splitOn, List.splitOnP_cons_eq_if_modifyHead, if_pos (by decide)]
        rfl
      rw [hsplit, linesOf, if_pos rfl]
      exact ih.imp (congrArg _) (congrArg _)
    · have hsplit : (c :: cs).splitOn '\n' = (cs.splitOn '\n').modifyHead (c :: ·) := by
        rw [List.splitOn, List.splitOnP_cons_eq_if_modifyHead, if_neg (by simpa using hc)]
        rfl
      rw [hsplit, linesOf, if_neg hc]
      cases hlines : linesOf cs with
      | nil =>
        rw [hlines] at ih
        rcases ih with h | h
        · exact absurd h (List.splitOnP_ne_nil _ _)
        · rw [h]
          exact Or.inl rfl
      | cons l ls =>
        rw [hlines] at ih
        rcases ih with h | h
        · rw [h]
          exact Or.inl rfl
        · rw [h]
          exact Or.inr rfl

theorem entries_eq_counted (text : List Char) : entries text = counted (text.splitOn '\n') := by
  rcases splitOn_newline text with h | h
  · rw [h]
    rfl
  · rw [h, counted, List.map_append, List.filter_append]
    exact (List.append_nil _).symm

/-- the lines are codes, in order, and blank lines between them -/
inductive Holds : List (List Char) → List Int → Prop
  | done : Holds [] []
  | blank {line : List Char} {lines : List (List Char)} {codes : List Int}
      (hline : IsBlankLine line) (h : Holds lines codes) : Holds (line :: lines) codes
  | code {line : List Char} {c : Int} {lines : List (List Char)} {codes : List Int}
      (hline : IsCodeLine line c) (h : Holds lines codes) : Holds (line :: lines) (c :: codes)

theorem counted_blank {line : List Char} (h : IsBlankLine line) (lines : List (List Char)) :
    counted (line :: lines) = counted lines := by
  rw [counted, List.map_cons, trimChars_eq_nil_iff.mpr h]
  rfl

theorem counted_cons {line : List Char} (h : ¬ IsBlankLine line) (lines : List (List Char)) :
    counted (line :: lines) = Text.trimChars line :: counted lines := by
  rw [counted, List.map_cons, List.filter_cons_of_pos]
  · rfl
  · rw [Bool.not_eq_true', List.isEmpty_eq_false_iff]
    exact fun hnil => h (trimChars_eq_nil_iff.mp hnil)

theorem IsCodeLine.not_isBlankLine {line : List Char} {c : Int} (h : IsCodeLine line c) :
    ¬ IsBlankLine line := by
  intro hblank
  have hcode := code?_trimChars_iff.mpr h
  rw [trimChars_eq_nil_iff.mpr hblank] at hcode
  exact nomatch hcode

/-- codes are read before whatever follows them -/
theorem codesOf_counted_append {lines : List (List Char)} {codes : List Int} (h : Holds lines codes)
    (rest : List (List Char)) :
    codesOf (counted (lines ++ rest)) =
      ⟨codes ++ (codesOf (counted rest)).codes, (codesOf (counted rest)).stopped⟩ := by
  induction h with
  | done => rfl
  | blank hline _ ih => rw [List.cons_append, counted_blank hline, ih]
  | code hline _ ih =>
    rw [List.cons_append, counted_cons hline.not_isBlankLine, codesOf,
      code?_trimChars_iff.mpr hline, ih]
    rfl

theorem codesOf_counted_of_holds {lines : List (List Char)} {codes : List Int}
    (h : Holds lines codes) : codesOf (counted lines) = ⟨codes, false⟩ := by
  have happend := codesOf_counted_append h []
  rw [List.append_nil] at happend
  rw [happend]
  show Codes.mk (codes ++ []) false = _
  rw [List.append_nil]

/-- the reading ends at a line that is neither blank nor a code -/
theorem codesOf_counted_of_unreadable {before : List (List Char)} {codes : List Int}
    (h : Holds before codes) {line : List Char} (hline : IsUnreadable line)
    (after : List (List Char)) : codesOf (counted (before ++ line :: after)) = ⟨codes, true⟩ := by
  have hnone : code? (Text.trimChars line) = none :=
    Option.eq_none_iff_forall_ne_some.mpr fun c hc => hline.2 c (code?_trimChars_iff.mp hc)
  rw [codesOf_counted_append h, counted_cons hline.1, codesOf, hnone]
  show Codes.mk (codes ++ []) true = _
  rw [List.append_nil]

/-- lines are codes throughout, or up to the first line that is unreadable -/
theorem holds_or_unreadable (lines : List (List Char)) :
    (∃ codes, Holds lines codes) ∨ ∃ before codes line after,
      lines = before ++ line :: after ∧ Holds before codes ∧ IsUnreadable line := by
  induction lines with
  | nil => exact Or.inl ⟨[], .done⟩
  | cons line lines ih =>
    by_cases hblank : IsBlankLine line
    · rcases ih with ⟨codes, h⟩ | ⟨before, codes, stop, after, rfl, h, hstop⟩
      · exact Or.inl ⟨codes, .blank hblank h⟩
      · exact Or.inr ⟨line :: before, codes, stop, after, rfl, .blank hblank h, hstop⟩
    by_cases hcode : ∃ c, IsCodeLine line c
    · obtain ⟨c, hc⟩ := hcode
      rcases ih with ⟨codes, h⟩ | ⟨before, codes, stop, after, rfl, h, hstop⟩
      · exact Or.inl ⟨c :: codes, .code hc h⟩
      · exact Or.inr ⟨line :: before, c :: codes, stop, after, rfl, .code hc h, hstop⟩
    · exact Or.inr ⟨[], [], line, lines, rfl, .done, hblank, fun c hc => hcode ⟨c, hc⟩⟩

end StatusText

/-! ## a session -/

open StatusText

namespace Session

/-- What a session reports on an output and on what reading the status file gave.  The lines of a
text are what stands between its newlines; a blank line more or less makes no difference. -/
inductive Reported (s : Session) (output : String) :
    Except SystemFault (List UInt8) → Except Failure SessionReport → Prop
  | codes {text : String} {codes : List Int} (h : Holds (text.toList.splitOn '\n') codes)
      (hlength : codes.length = s.submitted) :
      Reported s output (.ok (Text.encode text)) (.ok ⟨output, codes⟩)
  | miscounted {text : String} {codes : List Int} (h : Holds (text.toList.splitOn '\n') codes)
      (hlength : codes.length ≠ s.submitted) :
      Reported s output (.ok (Text.encode text))
        (.error (.error (.protocolViolation s.worker s.submitted codes.length output)))
  | unreadable {text : String} {before : List (List Char)} {codes : List Int} {line : List Char}
      {after : List (List Char)} (hlines : text.toList.splitOn '\n' = before ++ line :: after)
      (h : Holds before codes) (hline : IsUnreadable line) :
      Reported s output (.ok (Text.encode text))
        (.error (.error (.protocolViolation s.worker s.submitted codes.length output)))
  | missing :
      Reported s output (.error .notFound)
        (.error (.error (.protocolViolation s.worker s.submitted 0 output)))
  | notText {octets : List UInt8} (h : ∀ text, octets ≠ Text.encode text) :
      Reported s output (.ok octets) (.error (.error (.io .notText)))
  | fault {cause : SystemFault} (h : cause ≠ .notFound) :
      Reported s output (.error cause) (.error (.error (.io cause)))

/-- a file with one code for every command -/
theorem report_of_read {s : Session} {output text : String} {codes : List Int}
    (h : readCodes text = ⟨codes, false⟩) (hlength : codes.length = s.submitted) :
    s.report output (.ok (Text.encode text)) = .ok ⟨output, codes⟩ := by
  simp only [report, statusVerdict, Text.decode?_encode, h]
  rw [verdict, if_neg (by simpa using hlength)]

/-- a file with a line that is no code, or with another number of codes -/
theorem report_of_not_read {s : Session} {output text : String} {read : Codes}
    (h : readCodes text = read) (hread : read.stopped = true ∨ read.codes.length ≠ s.submitted) :
    s.report output (.ok (Text.encode text)) =
      .error (.error (.protocolViolation s.worker s.submitted read.codes.length output)) := by
  simp only [report, statusVerdict, Text.decode?_encode, h]
  rw [verdict, if_pos (by simpa using hread)]
  rfl

theorem readCodes_eq (text : String) :
    readCodes text = codesOf (counted (text.toList.splitOn '\n')) :=
  congrArg codesOf (entries_eq_counted _)

theorem report_of_reported {s : Session} {output : String}
    {read : Except SystemFault (List UInt8)} {result : Except Failure SessionReport}
    (h : Reported s output read result) : s.report output read = result := by
  cases h with
  | codes h hlength =>
    exact report_of_read ((readCodes_eq _).trans (codesOf_counted_of_holds h)) hlength
  | miscounted h hlength =>
    exact report_of_not_read ((readCodes_eq _).trans (codesOf_counted_of_holds h)) (.inr hlength)
  | @unreadable _ _ _ _ after hlines h hline =>
    have hread := codesOf_counted_of_unreadable h hline after
    rw [← hlines] at hread
    exact report_of_not_read ((readCodes_eq _).trans hread) (.inl rfl)
  | missing => rfl
  | @notText octets h =>
    have hnone : Text.decode? octets = none :=
      Option.eq_none_iff_forall_ne_some.mpr fun text htext =>
        h text (Text.decode?_eq_some_iff.mp htext)
    rw [report, statusVerdict, hnone]
  | fault h => rw [report, statusVerdict, if_neg h]

/-- something is reported on whatever the reading gave -/
theorem exists_reported (s : Session) (output : String) (read : Except SystemFault (List UInt8)) :
    ∃ result, Reported s output read result := by
  rcases read with cause | octets
  · by_cases hcause : cause = .notFound
    · subst hcause
      exact ⟨_, .missing⟩
    · exact ⟨_, .fault hcause⟩
  by_cases htext : ∃ text, octets = Text.encode text
  · obtain ⟨text, rfl⟩ := htext
    rcases holds_or_unreadable (text.toList.splitOn '\n') with
      ⟨codes, h⟩ | ⟨before, codes, line, after, hlines, h, hline⟩
    · by_cases hlength : codes.length = s.submitted
      · exact ⟨_, .codes h hlength⟩
      · exact ⟨_, .miscounted h hlength⟩
    · exact ⟨_, .unreadable hlines h hline⟩
  · exact ⟨_, .notText fun text h => htext ⟨text, h⟩⟩

theorem report_eq_iff {s : Session} {output : String} {read : Except SystemFault (List UInt8)}
    {result : Except Failure SessionReport} :
    s.report output read = result ↔ Reported s output read result := by
  refine ⟨fun h => ?_, report_of_reported⟩
  obtain ⟨other, hother⟩ := s.exists_reported output read
  rwa [← h, report_of_reported hother]

variable {σ : Type} {env : Interaction.Environment Host.Answer σ}

/-- The shell of the session ends; then `output` is what both streams carried, and `read` is what
reading the status file gives. -/
def Finds (env : Interaction.Environment Host.Answer σ) (s : Session) (w : σ) (output : String)
    (read : Except SystemFault (List UInt8)) : Prop :=
  ∃ status w', outcome env s.await (env (.closeInput s.process) w).2 = (.ok (.ended status), w') ∧
    Text.decodeLossy (env (.output s.process) w').1 = output ∧
    (env (.readFile s.statusPath) (env (.output s.process) w').2).1 = read

/-- without a timeout the shell of a session in a workshop runs to its end -/
theorem finds_finished {φ : Type} {c : Conduct φ} {s : Session} (h : s.timeout = none)
    (w : Workshop φ) :
    Finds (Workshop.environment c) s w (Text.decodeLossy (c.output s.process.id))
      (((s.finished c w).files (place c.cwd s.statusPath)).elim (.error .notFound) .ok) :=
  ⟨_, _, outcome_await_none h _, rfl, rfl⟩

/-- a session whose shell has ended reports on its output and its status file -/
theorem outcome_finish_of_finds {s : Session} {w : σ} {output : String}
    {read : Except SystemFault (List UInt8)} (h : Finds env s w output read) :
    (outcome env s.finish w).1 = s.report output read := by
  obtain ⟨status, w', hawait, rfl, rfl⟩ := h
  rw [finish_eq, outcome_request_bind, outcome_bind_ok hawait, outcome_conclude]

/-- **What a finished session reports on its status file.**  Once the shell has ended, the session
reports the codes of the file exactly if its lines are codes, one for every command, and blank
lines.  It reports a violation, with its output and the number of codes before the first line that
cannot be read, for every other text and for a file that is missing.  Octets that are no text and
other faults of reading are reported as such. -/
theorem finish_reported_iff {s : Session} {w : σ} {output : String}
    {read : Except SystemFault (List UInt8)} (h : Finds env s w output read)
    (result : Except Failure SessionReport) :
    (outcome env s.finish w).1 = result ↔ Reported s output read result := by
  rw [outcome_finish_of_finds h]
  exact report_eq_iff

end Session

/-- shells that have nothing left to do -/
def restingConduct : Conduct Unit where
  read _ := []
  prepare _ _ := some 0
  run _ _ work := (some 0, work)
  moves _ := []
  clock tick := tick
  output _ := [111, 107]
  cwd := "/"

/-- a shell, and what its status file holds -/
def leftBehind (octets : List UInt8) : Workshop Unit :=
  ⟨(), fun path => if path = "/build/retcode_cpu0.txt" then some octets else none,
    [.fresh "/build"], 0⟩

/-- the session of that shell behind `n` commands -/
def restingSession (flavor : Flavor) (n : Nat) : Session :=
  ⟨0, ⟨0⟩, "/build/retcode_cpu0.txt", flavor, none, 0, n⟩

/-- what a shell without anything to do has left behind is found -/
theorem finds_leftBehind (flavor : Flavor) (n : Nat) (octets : List UInt8) :
    Session.Finds (Workshop.environment restingConduct) (restingSession flavor n)
      (leftBehind octets) "ok" (.ok octets) := by
  have houtput : Text.decodeLossy (restingConduct.output 0) = "ok" := by decide +kernel
  have hplace : place restingConduct.cwd (restingSession flavor n).statusPath =
      "/build/retcode_cpu0.txt" := by
    show place "/" "/build/retcode_cpu0.txt" = _
    decide
  have hfile : ((restingSession flavor n).finished restingConduct (leftBehind octets)).files
      "/build/retcode_cpu0.txt" = some octets := by
    show (leftBehind octets).files "/build/retcode_cpu0.txt" = _
    simp [leftBehind]
  have hfinds := Session.finds_finished (c := restingConduct) (s := restingSession flavor n) rfl
    (leftBehind octets)
  rwa [hplace, hfile, show (restingSession flavor n).process.id = 0 from rfl, houtput] at hfinds

/-- two codes, a line that is none, and another code -/
def strayText : String := "0\r\n +007\n\n-0x\n1\n"

/-- the line that is no code ends the reading -/
theorem finish_reported_iff_stray :
    Session.Finds (Workshop.environment restingConduct) (restingSession .posix 3)
        (leftBehind (Text.encode strayText)) "ok" (.ok (Text.encode strayText)) ∧
      Session.Reported (restingSession .posix 3) "ok" (.ok (Text.encode strayText))
        (.error (.error (.protocolViolation 0 3 2 "ok"))) := by
  have hfinds := finds_leftBehind .posix 3 (Text.encode strayText)
  exact ⟨hfinds, (Session.finish_reported_iff hfinds _).mp (by decide +kernel)⟩

/-- Two commands and one code, behind which there is an octet that is no text: the session reports
that it could not read, and no violation. -/
theorem finish_notText_not_violation :
    (outcome (Workshop.environment restingConduct) (restingSession .posix 2).finish
        (leftBehind [48, 10, 255, 48, 10])).1 = .error (.error (.io .notText)) ∧
      ∀ recorded output, (outcome (Workshop.environment restingConduct)
        (restingSession .posix 2).finish (leftBehind [48, 10, 255, 48, 10])).1 ≠
          .error (.error (.protocolViolation 0 2 recorded output)) := by
  have hfinish : (outcome (Workshop.environment restingConduct) (restingSession .posix 2).finish
      (leftBehind [48, 10, 255, 48, 10])).1 = .error (.error (.io .notText)) := by
    decide +kernel
  refine ⟨hfinish, fun recorded output => ?_⟩
  rw [hfinish]
  exact nofun

end ShellWorkers
