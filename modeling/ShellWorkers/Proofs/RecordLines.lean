import Mathlib.Data.List.Induction
import Mathlib.Data.List.TakeWhile
import ShellWorkers.Proofs.QuotedWords

/-!
# The line of the record

Behind every command stands the record of its status, on a line of its own.  Before, the blanks at
the end of the command are cut off, and so can be cut off what belongs to the command: a blank of
the text that is no separator for the shell, or one behind a backslash.  Then the command that is
run is another one, or the backslash joins its line with that of the record.

* `linesOf_append`                lines of tokens;
* `size_run`                      what has been read never gets less;
* `ignoresAll_iff`                which blanks can be cut off;
* `exists_close_run_recordText`   the record behind any text outside of quotes;
* `JoinsNext`                     texts that the next line goes on with;
* `standsAlone_of_isShellBlank`   commands that end in no backslash;
* `record_standsAlone_iff`        when the command and the record are read as two;
* `record_absorbed`               a command that its record becomes a part of.
-/

namespace ShellWorkers.Lexical

open State

/-! ## lines of tokens -/

/-- no line has begun behind these tokens -/
def AtLineStart (tokens : List Token) : Prop := ∀ t ∈ tokens.getLast?, t = .newline

instance (tokens : List Token) : Decidable (AtLineStart tokens) :=
  inferInstanceAs (Decidable (∀ t ∈ tokens.getLast?, t = .newline))

theorem linesOf_append {tokens : List Token} (h : AtLineStart tokens) (after : List Token) :
    linesOf (tokens ++ after) = linesOf tokens ++ linesOf after := by
  cases tokens using List.reverseRecOn with
  | nil => rfl
  | append_singleton before t =>
    obtain rfl : t = .newline := h t (by rw [List.getLast?_concat]; rfl)
    rw [List.append_assoc, List.singleton_append, linesOf_newline, linesOf_concat_newline]

/-- tokens are lines that have ended and a line that has not -/
theorem exists_line (tokens : List Token) :
    ∃ before line, tokens = before ++ line ∧ AtLineStart before ∧ .newline ∉ line := by
  induction tokens using List.reverseRecOn with
  | nil => exact ⟨[], [], rfl, by decide, List.not_mem_nil⟩
  | append_singleton tokens t ih =>
    by_cases ht : t = .newline
    · refine ⟨tokens ++ [t], [], (List.append_nil _).symm, fun u hu => ?_, List.not_mem_nil⟩
      rw [List.getLast?_concat, Option.mem_some_iff] at hu
      exact hu ▸ ht
    · obtain ⟨before, line, rfl, hbefore, hline⟩ := ih
      refine ⟨before, line ++ [t], List.append_assoc _ _ _, hbefore, fun h => ?_⟩
      rcases List.mem_append.mp h with h | h
      · exact hline h
      · exact ht (List.mem_singleton.mp h).symm

/-- the tokens of the lines are all tokens but the line ends -/
theorem flatten_linesOf (tokens : List Token) :
    (linesOf tokens).flatten = tokens.filter (· ≠ .newline) := by
  rw [linesOf, List.flatten_filter_ne_nil, List.splitOn]
  induction tokens with
  | nil => rfl
  | cons t tokens ih =>
    rw [List.splitOnP_cons_eq_if_modifyHead]
    by_cases ht : t = .newline
    · rw [if_pos (beq_iff_eq.mpr ht), List.flatten_cons, List.nil_append, ih,
        List.filter_cons_of_neg (by simpa using ht)]
    · rw [if_neg (by simpa using ht), List.filter_cons_of_pos (by simpa using ht), ← ih]
      cases hsplit : tokens.splitOnP (· == .newline) with
      | nil => exact absurd hsplit (List.splitOnP_ne_nil _ _)
      | cons line lines => rfl

/-! ## how much has been read -/

def Token.size : Token → Nat
  | .word w => w.length + 1
  | .operator o => o.length + 1
  | .newline => 0

def size : List Token → Nat
  | [] => 0
  | t :: tokens => t.size + size tokens

theorem size_append (before after : List Token) :
    size (before ++ after) = size before + size after := by
  induction before with
  | nil => exact (Nat.zero_add _).symm
  | cons t before ih =>
    rw [List.cons_append, size, size, ih, Nat.add_assoc]

theorem size_filter (tokens : List Token) : size (tokens.filter (· ≠ .newline)) = size tokens := by
  induction tokens with
  | nil => rfl
  | cons t tokens ih =>
    cases t with
    | newline => exact ih.trans (Nat.zero_add _).symm
    | word w => exact congrArg (w.length + 1 + ·) ih
    | operator o => exact congrArg (o.length + 1 + ·) ih

/-- equal lines are equally much -/
theorem size_eq_of_linesOf {tokens tokens' : List Token} (h : linesOf tokens = linesOf tokens') :
    size tokens = size tokens' := by
  rw [← size_filter tokens, ← size_filter tokens', ← flatten_linesOf, ← flatten_linesOf, h]

/-- tokens that are nothing are line ends -/
theorem eq_newline_of_size {tokens : List Token} (h : size tokens = 0) :
    ∀ t ∈ tokens, t = .newline := by
  induction tokens with
  | nil => exact fun t ht => absurd ht List.not_mem_nil
  | cons t tokens ih =>
    have hsum : t.size + size tokens = 0 := h
    refine List.forall_mem_cons.mpr ⟨?_, ih (by omega)⟩
    cases t with
    | newline => rfl
    | word w => exact absurd (Nat.eq_zero_of_add_eq_zero_right hsum) (Nat.succ_ne_zero _)
    | operator o => exact absurd (Nat.eq_zero_of_add_eq_zero_right hsum) (Nat.succ_ne_zero _)

namespace State

/-- how much has been read, the token that has begun included -/
def size (s : State) : Nat := Lexical.size s.close.tokens

section

variable (s : State)

theorem size_eq : s.size = Lexical.size s.tokens + Lexical.size s.begun.toList := size_append _ _

@[simp] theorem size_enter (mode : Mode) : (s.enter mode).size = s.size := rfl

@[simp] theorem size_close : s.close.size = s.size := size_append _ _

@[simp] theorem size_beginToken (t : Token) : (s.beginToken t).size = s.size + t.size :=
  size_append _ _

@[simp] theorem size_endLine : s.endLine.size = s.size :=
  (size_append _ _).trans (size_append _ _)

/-- the word gets a character more -/
theorem size_push (g : Glyph) : s.size < (s.push g).size := by
  unfold push
  split
  next w h =>
    rw [size_eq, size_eq, h]
    show Lexical.size s.tokens + (w.length + 1) < Lexical.size s.tokens + ((w ++ [g]).length + 1)
    rw [List.length_append, List.length_singleton]
    omega
  next =>
    rw [size_beginToken]
    exact Nat.lt_add_of_pos_right (Nat.succ_pos _)

theorem size_quote (mode : Mode) : s.size ≤ (s.quote mode).size := by
  unfold quote
  split
  next => exact Nat.le_refl _
  next =>
    rw [size_enter, size_beginToken]
    exact Nat.le_add_right _ _

theorem size_longer? {c : Char} {o : List Char} (h : s.longer? c = some o) :
    s.size ≤ size ⟨s.tokens, some (.operator o), .plain⟩ := by
  unfold longer? at h
  split at h
  next o' hbegun =>
    rw [size_eq, size_eq, hbegun]
    obtain ⟨_, ho⟩ := Option.ite_none_right_eq_some.mp h
    obtain rfl := Option.some.inj ho
    show Lexical.size s.tokens + (o'.length + 1) ≤ Lexical.size s.tokens + ((o' ++ [c]).length + 1)
    rw [List.length_append]
    omega
  next => exact nomatch h

theorem size_stepPlain (c : Char) : s.size ≤ (s.stepPlain c).size := by
  have hpush := fun g => Nat.le_of_lt (s.size_push g)
  have hquote := s.size_quote
  unfold stepPlain
  repeat' split
  all_goals simp [hpush, hquote]

/-- what has been read never gets less -/
theorem size_step (c : Char) : s.size ≤ (s.step c).size := by
  have hpush := fun g => Nat.le_of_lt (s.size_push g)
  cases hmode : s.mode with
  | plain =>
    simp only [step, hmode]
    split
    next h => exact s.size_longer? h
    next => exact s.size_stepPlain c
  | doubleEscaped =>
    have htwice := Nat.le_trans (hpush (.literal '\\')) (Nat.le_of_lt (size_push _ (.literal c)))
    simp only [step, hmode]
    repeat' split
    all_goals simp [hpush, htwice]
  | escaped | single | double | comment =>
    simp only [step, hmode]
    repeat' split
    all_goals simp [hpush]

theorem size_run (text : List Char) : s.size ≤ (s.run text).size := by
  induction text generalizing s with
  | nil => exact Nat.le_refl _
  | cons c text ih => exact Nat.le_trans (s.size_step c) (ih _)

end

/-! ## blanks that can be cut off -/

/-- a character is read here and nothing comes of it -/
def ignores (s : State) (c : Char) : Bool :=
  match s.mode with
  | .plain => isSeparator c || c == '\n'
  | .escaped => c == '\n'
  | .comment => true
  | _ => false

/-- all characters are ignored where they stand -/
def IgnoresAll : State → List Char → Prop
  | _, [] => True
  | s, c :: cs => s.ignores c ∧ (s.step c).IgnoresAll cs

instance decidableIgnoresAll : (s : State) → (text : List Char) → Decidable (s.IgnoresAll text)
  | _, [] => .isTrue trivial
  | s, c :: text =>
    haveI := decidableIgnoresAll (s.step c) text
    inferInstanceAs (Decidable (s.ignores c ∧ (s.step c).IgnoresAll text))

/-- neither between quotes -/
def IsUnquoted (s : State) : Prop := s.mode = .plain ∨ s.mode = .escaped ∨ s.mode = .comment

theorem IsComplete.isUnquoted {s : State} (h : s.IsComplete) : s.IsUnquoted :=
  h.imp_right Or.inr

/-- a blank outside of quotes ends something, or it is a character of a word -/
theorem step_blank_of_plain {s : State} (hmode : s.mode = .plain) {c : Char}
    (hc : Text.isBlank c = true) :
    s.step c = if s.ignores c then (if c = '\n' then s.endLine else s.close)
      else s.push (.literal c) := by
  have hmarks : c ∉ ['\\', '\'', '"', '#', '-'] := notMem_of_kind hc (by decide)
  have hsign : isSign c = false := decide_eq_false (notMem_of_kind hc (by decide))
  have hactive : isActive c = false := decide_eq_false (notMem_of_kind hc (by decide))
  simp only [List.mem_cons, List.not_mem_nil, or_false, not_or] at hmarks
  rw [step_of_plain hmode hsign hmarks.2.2.2.2]
  simp only [stepPlain, ignores, hmode, hmarks, hsign, hactive]
  by_cases hnl : c = '\n'
  · simp [hnl]
  · by_cases hseparator : isSeparator c = true <;> simp [hnl, hseparator]

@[simp] theorem mode_enter (s : State) (mode : Mode) : (s.enter mode).mode = mode := rfl

@[simp] theorem mode_close (s : State) : s.close.mode = s.mode := rfl

@[simp] theorem mode_endLine (s : State) : s.endLine.mode = .plain := rfl

@[simp] theorem mode_push (s : State) (g : Glyph) : (s.push g).mode = s.mode := by
  unfold push
  split <;> rfl

@[simp] theorem mode_beginToken (s : State) (t : Token) : (s.beginToken t).mode = s.mode := rfl

@[simp] theorem mode_quote (s : State) (mode : Mode) : (s.quote mode).mode = mode := by
  unfold quote
  split <;> rfl

/-- only a backslash leads behind a backslash -/
theorem mode_step_ne_escaped (s : State) {c : Char} (hc : c ≠ '\\') : (s.step c).mode ≠ .escaped := by
  cases hmode : s.mode with
  | plain =>
    simp only [step, hmode, stepPlain, if_neg hc]
    repeat' split
    all_goals simp [hmode]
  | escaped | single | double | doubleEscaped | comment =>
    simp only [step, hmode]
    repeat' split
    all_goals simp [hmode]

/-- blanks do not lead out of quotes or into them -/
theorem isUnquoted_step_iff (s : State) {c : Char} (hc : Text.isBlank c = true) :
    (s.step c).IsUnquoted ↔ s.IsUnquoted := by
  have hmarks : c ∉ ['\\', '\'', '"'] := notMem_of_kind hc (by decide)
  simp only [List.mem_cons, List.not_mem_nil, or_false, not_or] at hmarks
  cases hmode : s.mode with
  | plain =>
    rw [step_blank_of_plain hmode hc]
    repeat' split
    all_goals simp [IsUnquoted, hmode]
  | escaped | single | double | doubleEscaped | comment =>
    simp only [step, hmode, hmarks, if_false]
    repeat' split
    all_goals simp [IsUnquoted, hmode]

theorem IsUnquoted.isComplete {s : State} (h : s.IsUnquoted) (hmode : s.mode ≠ .escaped) :
    s.IsComplete := h.imp_right fun h => h.resolve_left hmode

theorem IsComplete.step {s : State} (h : s.IsComplete) {c : Char} (hc : Text.isBlank c = true) :
    (s.step c).IsComplete := by
  refine ((isUnquoted_step_iff s hc).mpr h.isUnquoted).isComplete (mode_step_ne_escaped s ?_)
  rintro rfl
  exact absurd hc (by decide)

/-- a separator or a line end -/
def isShellBlank (c : Char) : Bool := isSeparator c || c == '\n'

theorem isBlank_of_isShellBlank {c : Char} (h : isShellBlank c = true) : Text.isBlank c = true := by
  have hcases : (c = ' ' ∨ c = '\t') ∨ c = '\n' := by simpa [isShellBlank, isSeparator] using h
  rcases hcases with (rfl | rfl) | rfl <;> decide

/-- the blanks of the shell are ignored behind a text that is complete -/
theorem IsComplete.ignoresAll {s : State} (hs : s.IsComplete) {blanks : List Char}
    (hblanks : ∀ c ∈ blanks, isShellBlank c = true) : s.IgnoresAll blanks := by
  induction blanks generalizing s with
  | nil => trivial
  | cons c blanks ih =>
    obtain ⟨hc, hblanks⟩ := List.forall_mem_cons.mp hblanks
    refine ⟨?_, ih (hs.step (isBlank_of_isShellBlank hc)) hblanks⟩
    rcases hs with hmode | hmode
    · simp only [ignores, hmode]
      exact hc
    · simp only [ignores, hmode]

/-- what is ignored adds nothing to the lines -/
theorem linesOf_step_of_ignores {s : State} {c : Char} (h : s.ignores c = true) :
    linesOf (s.step c).close.tokens = linesOf s.close.tokens := by
  have hclose : linesOf s.close.close.tokens = linesOf s.close.tokens :=
    congrArg linesOf (List.append_nil s.close.tokens)
  have hend : linesOf s.endLine.close.tokens = linesOf s.close.tokens :=
    (congrArg linesOf (List.append_nil s.endLine.tokens)).trans (linesOf_concat_newline _)
  cases hmode : s.mode with
  | plain =>
    simp only [ignores, hmode, Bool.or_eq_true, beq_iff_eq] at h
    rcases h with h | rfl
    · rw [step_separator hmode h, hclose]
    · rw [step_newline hmode, hend]
  | escaped =>
    simp only [ignores, hmode, beq_iff_eq] at h
    simp only [step, hmode, if_pos h]
    rfl
  | comment =>
    simp only [step, hmode]
    split
    · exact hend
    · rfl
  | single | double | doubleEscaped => simp [ignores, hmode] at h

/-- a blank that is not ignored becomes a part of a word -/
theorem size_lt_step {s : State} (hs : s.IsUnquoted) {c : Char} (hc : Text.isBlank c = true)
    (h : s.ignores c = false) : s.size < (s.step c).size := by
  rcases hs with hmode | hmode | hmode
  · rw [step_blank_of_plain hmode hc, h]
    exact s.size_push _
  · have hnl : c ≠ '\n' := by simpa [ignores, hmode] using h
    simp only [step, hmode, if_neg hnl, size_enter]
    exact s.size_push _
  · simp [ignores, hmode] at h

/-- **Blanks that can be cut off.**  Outside of quotes blanks add nothing to the lines exactly if
each of them is ignored. -/
theorem ignoresAll_iff {s : State} (hs : s.IsUnquoted) {blanks : List Char}
    (hblanks : ∀ c ∈ blanks, Text.isBlank c = true) :
    s.IgnoresAll blanks ↔ linesOf (s.run blanks).close.tokens = linesOf s.close.tokens := by
  induction blanks generalizing s with
  | nil => exact ⟨fun _ => rfl, fun _ => trivial⟩
  | cons c blanks ih =>
    obtain ⟨hc, hblanks⟩ := List.forall_mem_cons.mp hblanks
    have hnext := ih ((isUnquoted_step_iff s hc).mpr hs) hblanks
    cases h : s.ignores c with
    | true =>
      rw [IgnoresAll, hnext, linesOf_step_of_ignores h, run_cons]
      exact and_iff_right h
    | false =>
      -- the blank makes what is read more, and nothing behind it makes it less again
      have hless := Nat.lt_of_lt_of_le (size_lt_step hs hc h) (size_run _ blanks)
      refine ⟨fun hall => absurd hall.1 (by rw [h]; decide), fun heq => ?_⟩
      exact absurd (size_eq_of_linesOf heq) (Nat.ne_of_gt hless)

/-- no line end has begun as a token -/
theorem begun_step_ne {s : State} (h : s.begun ≠ some .newline) (c : Char) :
    (s.step c).begun ≠ some .newline := by
  have hpush : ∀ (s : State) g, (s.push g).begun ≠ some .newline := by
    intro s g
    unfold push
    split <;> exact nofun
  have hquote : ∀ mode, (s.quote mode).begun ≠ some .newline := by
    intro mode
    unfold quote
    split
    · exact h
    · exact nofun
  unfold step stepPlain
  repeat' split
  all_goals first | exact hpush _ _ | exact hquote _ | exact h | exact nofun

end State

theorem begun_read_ne (text : List Char) : (read text).begun ≠ some .newline := by
  induction text using List.reverseRecOn with
  | nil => exact nofun
  | append_singleton text c ih =>
    rw [read_append]
    exact begun_step_ne ih c

/-- a text that ends behind a backslash ends in one -/
theorem mode_read_ne_escaped {text : List Char} (h : text.getLast? ≠ some '\\') :
    (read text).mode ≠ .escaped := by
  cases text using List.reverseRecOn with
  | nil => exact nofun
  | append_singleton text c =>
    rw [read_append]
    refine mode_step_ne_escaped _ fun hc => h ?_
    rw [List.getLast?_concat, hc]

/-! ## the record -/

/-- the first word of the record goes on with the word that has begun, if there is one -/
theorem exists_run_echo {s : State} (hmode : s.mode = .plain) (hbegun : s.begun ≠ some .newline) :
    ∃ line, .newline ∉ line ∧ line ≠ [] ∧
      s.run ['e', 'c', 'h', 'o', ' '] = ⟨s.tokens ++ line, none, .plain⟩ := by
  have hrest : ∀ tokens w, run ⟨tokens, some (.word w), .plain⟩ ['c', 'h', 'o', ' '] =
      ⟨tokens ++ [.word (w ++ [.literal 'c'] ++ [.literal 'h'] ++ [.literal 'o'])], none, .plain⟩ :=
    fun _ _ => rfl
  rw [run_cons, step_of_plain hmode (by decide) (by decide), stepPlain_of_isPlain _ (by decide), push]
  split
  next w hw =>
    rw [hmode, hrest]
    exact ⟨_, by simp, List.cons_ne_nil _ _, rfl⟩
  next hword =>
    rw [beginToken, hmode, hrest, List.append_assoc]
    refine ⟨_, fun h => ?_, List.append_ne_nil_of_right_ne_nil _ (List.cons_ne_nil _ _), rfl⟩
    rcases List.mem_append.mp h with h | h
    · exact hbegun (Option.mem_toList.mp h)
    · cases List.mem_singleton.mp h

/-- the record behind a token: all of it is on the line that has begun -/
theorem exists_close_run_recordText {s : State} (hmode : s.mode = .plain)
    (hbegun : s.begun ≠ some .newline) (path : String) :
    ∃ line, .newline ∉ line ∧ line ≠ [] ∧
      (s.run (recordText path)).close = ⟨s.tokens ++ line, none, .plain⟩ := by
  obtain ⟨line, hline, hne, hecho⟩ := exists_run_echo hmode hbegun
  have hrest : run ⟨s.tokens ++ line, none, .plain⟩ ['$', '?', ' ', '>', '>', ' '] =
      ⟨s.tokens ++ line ++ [.word [.active '$', .active '?'], .operator ['>', '>']], none, .plain⟩ := by
    rw [IsFresh.run ⟨rfl, rfl⟩]
    rfl
  have hhead : s.run ShellStep.recordHead = _ :=
    (run_append s ['e', 'c', 'h', 'o', ' '] _).trans ((congrArg (State.run · _) hecho).trans hrest)
  rw [recordText, run_append, hhead, spells_quoteChars path.toList _ ⟨rfl, rfl⟩, close]
  refine ⟨line ++ [.word [.active '$', .active '?'], .operator ['>', '>'], .literal path.toList],
    by simp [hline, Token.literal], List.append_ne_nil_of_left_ne_nil hne _, ?_⟩
  simp only [Option.toList_some, List.append_assoc]
  rfl

/-! ## the text that is sent -/

/-- the blanks that a text ends in -/
def trailingBlanks (text : List Char) : List Char := (text.reverse.takeWhile Text.isBlank).reverse

theorem trimEndChars_append (text : List Char) :
    Text.trimEndChars text ++ trailingBlanks text = text := by
  rw [Text.trimEndChars, trailingBlanks, ← List.reverse_append, List.takeWhile_append_dropWhile,
    List.reverse_reverse]

theorem isBlank_of_mem_trailingBlanks {text : List Char} :
    ∀ c ∈ trailingBlanks text, Text.isBlank c = true :=
  fun _ h => List.mem_takeWhile_imp (List.mem_reverse.mp h)

theorem isUnquoted_run_iff {blanks : List Char} (hblanks : ∀ c ∈ blanks, Text.isBlank c = true)
    (s : State) : (s.run blanks).IsUnquoted ↔ s.IsUnquoted := by
  induction blanks generalizing s with
  | nil => exact Iff.rfl
  | cons c blanks ih =>
    obtain ⟨hc, hblanks⟩ := List.forall_mem_cons.mp hblanks
    exact (ih hblanks (s.step c)).trans (isUnquoted_step_iff s hc)

/-- a line end behind a backslash joins two lines -/
theorem step_newline_of_escaped {s : State} (h : s.mode = .escaped) :
    s.step '\n' = s.enter .plain := by
  simp only [step, h]
  rfl

theorem step_newline_of_comment {s : State} (h : s.mode = .comment) : s.step '\n' = s.endLine := by
  simp only [step, h]
  rfl

theorem mode_step_newline {s : State} (hs : s.IsUnquoted) : (s.step '\n').mode = .plain := by
  rcases hs with h | h | h
  · rw [step_newline h, mode_endLine]
  · rw [step_newline_of_escaped h, mode_enter]
  · rw [step_newline_of_comment h, mode_endLine]

/-- The text ends behind a backslash, with something on the line that has begun: the next line is
joined to it. -/
def JoinsNext (text : List Char) : Prop :=
  (read text).mode = .escaped ∧ ¬ AtLineStart (tokensOf text)

instance (text : List Char) : Decidable (JoinsNext text) := inferInstanceAs (Decidable (_ ∧ _))

/-- the lines of the text that is sent, with the lexer at the end of the record -/
theorem commandLines_commandText {path command : String}
    (h : (read (Text.trimEndChars command.toList)).IsUnquoted) :
    commandLines (Session.commandText .posix path command) =
      linesOf (((read (Text.trimEndChars command.toList)).step '\n').run
        (recordText path)).close.tokens := by
  have htext : (Session.commandText .posix path command).toList =
      Text.trimEndChars command.toList ++ '\n' :: (recordText path ++ ['\n']) := by
    rw [ShellStep.toList_commandText, Text.trimEnd, String.toList_ofList]
    simp only [List.append_assoc, List.cons_append]
    rfl
  obtain ⟨line, -, -, hclose⟩ := exists_close_run_recordText (mode_step_newline h)
    (begun_step_ne (begun_read_ne _) _) path
  generalize hs : ((read (Text.trimEndChars command.toList)).step '\n').run (recordText path) = s at *
  have hmode : s.mode = .plain := congrArg State.mode hclose
  rw [commandLines, tokensOf, htext, read_append, run_cons, run_append, hs, run_cons, run_nil,
    step_newline hmode]
  exact (congrArg linesOf (List.append_nil _)).trans (linesOf_concat_newline _)

theorem atLineStart_concat_newline (tokens : List Token) : AtLineStart (tokens ++ [.newline]) := by
  intro t ht
  rw [List.getLast?_concat] at ht
  exact (Option.mem_some_iff.mp ht).symm

/-- a line end behind a text that does not join the next line -/
theorem step_newline_of_not_joinsNext {text : List Char} (h : (read text).IsUnquoted)
    (hjoins : ¬ JoinsNext text) :
    ((read text).step '\n').IsFresh ∧ AtLineStart ((read text).step '\n').tokens ∧
      linesOf ((read text).step '\n').tokens = linesOf (tokensOf text) := by
  have hend : (read text).endLine.IsFresh ∧ AtLineStart (read text).endLine.tokens ∧
      linesOf (read text).endLine.tokens = linesOf (tokensOf text) :=
    ⟨isFresh_endLine _, atLineStart_concat_newline _, linesOf_concat_newline _⟩
  rcases h with hmode | hmode | hmode
  · rw [step_newline hmode]
    exact hend
  · have hstart : AtLineStart (tokensOf text) := Classical.byContradiction fun h => hjoins ⟨hmode, h⟩
    have hbegun : (read text).begun = none := by
      refine Option.eq_none_iff_forall_ne_some.mpr fun t ht => ?_
      have htokens : tokensOf text = (read text).tokens ++ [t] := by
        rw [tokensOf, close, ht]
        rfl
      rw [htokens] at hstart
      obtain rfl : t = .newline := hstart t (by rw [List.getLast?_concat]; rfl)
      exact begun_read_ne text ht
    have htokens : tokensOf text = (read text).tokens := tokensOf_of_begun hbegun
    rw [step_newline_of_escaped hmode]
    rw [htokens] at hstart ⊢
    exact ⟨⟨rfl, hbegun⟩, hstart, rfl⟩
  · rw [step_newline_of_comment hmode]
    exact hend

/-- the command is read without the blanks at its end, and the record on a line of its own -/
theorem commandLines_of_not_joinsNext {path command : String}
    (h : (read (Text.trimEndChars command.toList)).IsUnquoted)
    (hjoins : ¬ JoinsNext (Text.trimEndChars command.toList)) :
    commandLines (Session.commandText .posix path command) =
      commandLines (Text.trimEnd command) ++ [recordLine path] := by
  obtain ⟨hfresh, hstart, hlines⟩ := step_newline_of_not_joinsNext h hjoins
  rw [commandLines_commandText h, close_run_recordText hfresh, linesOf_append hstart, hlines,
    linesOf_recordLine, commandLines, Text.trimEnd, String.toList_ofList]

/-- the record is read as a part of the line before -/
theorem commandLines_of_joinsNext {path command : String}
    (hjoins : JoinsNext (Text.trimEndChars command.toList)) :
    commandLines (Session.commandText .posix path command) ≠
      commandLines command ++ [recordLine path] := by
  intro heq
  rw [commandLines_commandText (.inr (.inl hjoins.1)), commandLines] at heq
  have hsize : (read (Text.trimEndChars command.toList)).size ≤ size (tokensOf command.toList) := by
    rw [tokensOf, ← trimEndChars_append command.toList, read_append, trimEndChars_append]
    exact size_run _ _
  generalize Text.trimEndChars command.toList = text at *
  obtain ⟨line, hline, hne, hclose⟩ := exists_close_run_recordText (s := (read text).enter .plain) rfl
    (begun_read_ne text) path
  obtain ⟨before, rest, htokens, hbefore, hrest⟩ := exists_line (read text).tokens
  -- all that is read behind `before` is on one line
  have hlines : linesOf ((read text).tokens ++ line) = linesOf before ++ [rest ++ line] := by
    rw [htokens, List.append_assoc, linesOf_append hbefore,
      linesOf_line (by simp [hline, hrest]) (List.append_ne_nil_of_right_ne_nil _ hne)]
  rw [step_newline_of_escaped hjoins.1, hclose] at heq
  have hfirst : linesOf before = linesOf (tokensOf command.toList) :=
    (List.append_inj' (hlines.symm.trans heq) rfl).1
  -- so the command would have been read in full before its last line has begun
  rw [← size_eq_of_linesOf hfirst, size_eq, htokens, size_append] at hsize
  have hnothing : size (rest ++ (read text).begun.toList) = 0 := by
    rw [size_append]
    omega
  have hnil : rest ++ (read text).begun.toList = [] := by
    refine List.eq_nil_iff_forall_not_mem.mpr fun t ht => ?_
    obtain rfl := eq_newline_of_size hnothing t ht
    rcases List.mem_append.mp ht with ht | ht
    · exact hrest ht
    · exact begun_read_ne text (Option.mem_toList.mp ht)
  refine hjoins.2 ?_
  rw [tokensOf, close, htokens, List.append_assoc, hnil, List.append_nil]
  exact hbefore

section

variable {command : String} (h : (read command.toList).IsComplete)

include h

theorem isUnquoted_trimEndChars : (read (Text.trimEndChars command.toList)).IsUnquoted := by
  rw [← isUnquoted_run_iff isBlank_of_mem_trailingBlanks, ← read_append, trimEndChars_append]
  exact h.isUnquoted

/-- where the line is not joined to the next, the command is itself if its blanks are ignored -/
theorem standsAlone_iff_ignoresAll (path : String)
    (hjoins : ¬ JoinsNext (Text.trimEndChars command.toList)) :
    commandLines (Session.commandText .posix path command) =
        commandLines command ++ [recordLine path] ↔
      (read (Text.trimEndChars command.toList)).IgnoresAll (trailingBlanks command.toList) := by
  have hunquoted := isUnquoted_trimEndChars h
  rw [commandLines_of_not_joinsNext hunquoted hjoins, List.append_left_inj,
    ignoresAll_iff hunquoted isBlank_of_mem_trailingBlanks, ← read_append, trimEndChars_append,
    commandLines, commandLines, Text.trimEnd, String.toList_ofList]
  exact eq_comm

/-- a command that ends in no backslash before the shell's own blanks -/
theorem standsAlone_of_isShellBlank (path : String)
    (hlast : (Text.trimEndChars command.toList).getLast? ≠ some '\\')
    (hblanks : ∀ c ∈ trailingBlanks command.toList, isShellBlank c = true) :
    commandLines (Session.commandText .posix path command) =
      commandLines command ++ [recordLine path] := by
  have hmode := mode_read_ne_escaped hlast
  have hcomplete := (isUnquoted_trimEndChars h).isComplete hmode
  exact (standsAlone_iff_ignoresAll h path fun hjoins => hmode hjoins.1).mpr
    (hcomplete.ignoresAll hblanks)

end

/-- **When the record stands on its own.**  A command that is complete and its record are read as
the lines of the command and one line more, exactly if the shell ignores each blank that is cut off
where it stands, and what is left does not join the next line. -/
theorem record_standsAlone_iff (path command : String) (h : (read command.toList).IsComplete) :
    (commandLines (Session.commandText .posix path command) =
        commandLines command ++ [recordLine path] ↔
      (read (Text.trimEndChars command.toList)).IgnoresAll (trailingBlanks command.toList) ∧
        ¬ JoinsNext (Text.trimEndChars command.toList)) := by
  by_cases hjoins : JoinsNext (Text.trimEndChars command.toList)
  · exact ⟨fun heq => absurd heq (commandLines_of_joinsNext hjoins), fun hand => absurd hjoins hand.2⟩
  · rw [standsAlone_iff_ignoresAll h path hjoins, and_iff_left hjoins]

/-- the blanks behind a comment are cut off -/
theorem record_standsAlone_commented :
    (read "test -e 'a b' # once\t\n".toList).IsComplete ∧
      commandLines (Session.commandText .posix "s" "test -e 'a b' # once\t\n") =
        commandLines "test -e 'a b' # once\t\n" ++ [recordLine "s"] := by
  have hcomplete : (read "test -e 'a b' # once\t\n".toList).IsComplete := by decide
  refine ⟨hcomplete, (record_standsAlone_iff "s" _ hcomplete).mpr ?_⟩
  decide

/-- A blank behind a backslash is cut off: the record becomes a part of the command.  A blank that
is no separator is cut off: another command is run. -/
theorem record_absorbed :
    (read "true a\\ ".toList).IsComplete ∧
      commandLines (Session.commandText .posix "s" "true a\\ ") =
        [[.literal "true".toList, .literal "aecho".toList, .word [.active '$', .active '?'],
          .operator ['>', '>'], .literal ['s']]] ∧
      commandLines (Session.commandText .posix "s" "true a\\ ") ≠
        commandLines "true a\\ " ++ [recordLine "s"] ∧
    (read "true a\u00a0".toList).IsComplete ∧
      commandLines (Session.commandText .posix "s" "true a\u00a0") =
        [[.literal "true".toList, .literal ['a']], recordLine "s"] ∧
      commandLines "true a\u00a0" = [[.literal "true".toList, .literal ['a', '\u00a0']]] := by
  decide

end ShellWorkers.Lexical
