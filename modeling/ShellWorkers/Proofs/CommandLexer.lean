import ShellWorkers.Quoting

/-!
# The tokens of a command text

A shell of the POSIX family cuts the text of a command into tokens.  What a character means
depends on where it stands: outside of quotes, behind a backslash there, between single quotes,
between double quotes, behind a backslash there, or in a comment.  The lexer here knows these six
places; documents and substitutions are not among what it reads.

* `Glyph`, `Token`, `Mode`      what is read, and the places;
* `State.step`, `State.run`     the lexer, character by character;
* `tokensOf`, `commandLines`    the tokens of a text, and its command lines;
* `run_behind`                  what was read before has no influence on what is read;
* `Spells`                      a text that is read as one token;
* `spells_quoteIfNeededChars`   a quoted text is one word, and the word is what was quoted;
* `tokensOf_append`             a token between separators.
-/

namespace ShellWorkers.Lexical

/-! ## tokens -/

/-- a character of a word -/
inductive Glyph where
  /-- stands for itself -/
  | literal (c : Char)
  /-- an expansion or a pattern can begin here -/
  | active (c : Char)
  deriving DecidableEq, Repr

inductive Token where
  | word (glyphs : List Glyph)
  | operator (sign : List Char)
  | newline
  deriving DecidableEq, Repr

/-- the word that is a text and nothing else -/
def Token.literal (text : List Char) : Token := .word (text.map .literal)

/-- the characters that operators are made of -/
def isSign (c : Char) : Bool := c ∈ ['&', '|', ';', '<', '>', '(', ')']

/-- the operators of more than one character -/
def longOperators : List (List Char) :=
  [['&', '&'], ['|', '|'], [';', ';'], ['<', '<'], ['>', '>'], ['<', '&'], ['>', '&'], ['<', '>'],
    ['>', '|'], ['<', '<', '-']]

/-- the characters that have a meaning outside of quotes, inside of words -/
def isActive (c : Char) : Bool :=
  c ∈ ['$', '`', '*', '?', '[', ']', '~', '!', '{', '}', '^', '%']

/-- the characters that have a meaning between double quotes -/
def isActiveQuoted (c : Char) : Bool := c ∈ ['$', '`']

/-- what separates tokens in a line -/
def isSeparator (c : Char) : Bool := c ∈ [' ', '\t']

/-! ## the lexer -/

/-- where a character stands -/
inductive Mode where
  | plain
  /-- behind a backslash outside of quotes -/
  | escaped
  | single
  | double
  /-- behind a backslash between double quotes -/
  | doubleEscaped
  | comment
  deriving DecidableEq, Repr

structure State where
  /-- the tokens that have ended, in order -/
  tokens : List Token
  /-- the token that has begun -/
  begun : Option Token
  mode : Mode
  deriving DecidableEq, Repr

namespace State

/-- before a text -/
def start : State := ⟨[], none, .plain⟩

/-- another place -/
def enter (s : State) (mode : Mode) : State := { s with mode := mode }

/-- the token that has begun ends -/
def close (s : State) : State := ⟨s.tokens ++ s.begun.toList, none, s.mode⟩

/-- a token begins, and the one that has begun ends -/
def beginToken (s : State) (t : Token) : State := ⟨s.tokens ++ s.begun.toList, some t, s.mode⟩

def endLine (s : State) : State := ⟨s.tokens ++ s.begun.toList ++ [.newline], none, .plain⟩

/-- a character more of a word, which begins if none has -/
def push (s : State) (g : Glyph) : State :=
  match s.begun with
  | some (.word w) => ⟨s.tokens, some (.word (w ++ [g])), s.mode⟩
  | _ => s.beginToken (.word [g])

/-- a quoted part of a word begins, and with it the word if none has -/
def quote (s : State) (mode : Mode) : State :=
  match s.begun with
  | some (.word _) => s.enter mode
  | _ => (s.beginToken (.word [])).enter mode

def inWord (s : State) : Bool :=
  match s.begun with
  | some (.word _) => true
  | _ => false

/-- the operator that has begun, with a character more -/
def longer? (s : State) (c : Char) : Option (List Char) :=
  match s.begun with
  | some (.operator o) => if o ++ [c] ∈ longOperators then some (o ++ [c]) else none
  | _ => none

/-- a character outside of quotes, where it does not go on with an operator -/
def stepPlain (s : State) (c : Char) : State :=
  if c = '\n' then s.endLine
  else if isSeparator c then s.close
  else if c = '\\' then s.enter .escaped
  else if c = '\'' then s.quote .single
  else if c = '"' then s.quote .double
  else if c = '#' && !s.inWord then s.close.enter .comment
  else if isSign c then s.beginToken (.operator [c])
  else s.push (if isActive c then .active c else .literal c)

def step (s : State) (c : Char) : State :=
  match s.mode with
  | .plain =>
    match s.longer? c with
    | some o => ⟨s.tokens, some (.operator o), .plain⟩
    | none => s.stepPlain c
  | .escaped => if c = '\n' then s.enter .plain else (s.push (.literal c)).enter .plain
  | .single => if c = '\'' then s.enter .plain else s.push (.literal c)
  | .double =>
    if c = '"' then s.enter .plain
    else if c = '\\' then s.enter .doubleEscaped
    else s.push (if isActiveQuoted c then .active c else .literal c)
  | .doubleEscaped =>
    if c = '\n' then s.enter .double
    else if isActiveQuoted c || c = '"' || c = '\\' then (s.push (.literal c)).enter .double
    else ((s.push (.literal '\\')).push (.literal c)).enter .double
  | .comment => if c = '\n' then s.endLine else s

def run (s : State) (text : List Char) : State := text.foldl step s

theorem run_nil (s : State) : s.run [] = s := rfl

theorem run_cons (s : State) (c : Char) (text : List Char) :
    s.run (c :: text) = (s.step c).run text := rfl

theorem run_append (s : State) (before text : List Char) :
    s.run (before ++ text) = (s.run before).run text := List.foldl_append

/-- the text does not end inside of quotes or behind a backslash -/
def IsComplete (s : State) : Prop := s.mode = .plain ∨ s.mode = .comment

instance (s : State) : Decidable s.IsComplete := inferInstanceAs (Decidable (_ ∨ _))

/-- the same with other tokens read before -/
def behind (s : State) (before : List Token) : State := { s with tokens := before ++ s.tokens }

end State

/-- the state behind a text -/
def read (text : List Char) : State := State.start.run text

theorem read_append (before text : List Char) : read (before ++ text) = (read before).run text :=
  State.run_append _ _ _

/-- the tokens of a text that ends here -/
def tokensOf (text : List Char) : List Token := (read text).close.tokens

/-- the lines of tokens that are not empty -/
def linesOf (tokens : List Token) : List (List Token) :=
  (tokens.splitOn .newline).filter (· ≠ [])

/-- the command lines of a text -/
def commandLines (text : String) : List (List Token) := linesOf (tokensOf text.toList)

/-! ## what was read before -/

namespace State

section

variable (s : State) (before : List Token)

@[simp] theorem begun_behind : (s.behind before).begun = s.begun := rfl

@[simp] theorem mode_behind : (s.behind before).mode = s.mode := rfl

@[simp] theorem inWord_behind : (s.behind before).inWord = s.inWord := rfl

@[simp] theorem longer?_behind (c : Char) : (s.behind before).longer? c = s.longer? c := rfl

@[simp] theorem enter_behind (mode : Mode) :
    (s.behind before).enter mode = (s.enter mode).behind before := rfl

@[simp] theorem close_behind : (s.behind before).close = s.close.behind before := by
  rw [close, close, behind, behind, List.append_assoc]

@[simp] theorem beginToken_behind (t : Token) :
    (s.behind before).beginToken t = (s.beginToken t).behind before := by
  rw [beginToken, beginToken, behind, behind, List.append_assoc]

@[simp] theorem endLine_behind : (s.behind before).endLine = s.endLine.behind before := by
  rw [endLine, endLine, behind, behind, List.append_assoc, List.append_assoc, List.append_assoc]

@[simp] theorem push_behind (g : Glyph) : (s.behind before).push g = (s.push g).behind before := by
  simp only [push, begun_behind, beginToken_behind]
  split <;> rfl

@[simp] theorem quote_behind (mode : Mode) :
    (s.behind before).quote mode = (s.quote mode).behind before := by
  simp only [quote, begun_behind, beginToken_behind, enter_behind]
  split <;> rfl

@[simp] theorem stepPlain_behind (c : Char) :
    (s.behind before).stepPlain c = (s.stepPlain c).behind before := by
  simp only [stepPlain, inWord_behind, enter_behind, close_behind, endLine_behind,
    beginToken_behind, push_behind, quote_behind]
  repeat' split
  all_goals rfl

theorem step_behind (c : Char) : (s.behind before).step c = (s.step c).behind before := by
  simp only [step, mode_behind, longer?_behind, stepPlain_behind, push_behind, endLine_behind,
    enter_behind]
  repeat' split
  all_goals rfl

/-- the tokens that were read before stay before those that are read -/
theorem run_behind (text : List Char) : (s.behind before).run text = (s.run text).behind before := by
  induction text generalizing s with
  | nil => rfl
  | cons c text ih => rw [run_cons, run_cons, step_behind, ih]

end

/-! ## where a token can begin -/

/-- a token can begin here -/
structure IsFresh (s : State) : Prop where
  mode : s.mode = .plain
  begun : s.begun = none

theorem isFresh_start : start.IsFresh := ⟨rfl, rfl⟩

theorem IsFresh.eq {s : State} (h : s.IsFresh) : s = ⟨s.tokens, none, .plain⟩ := by
  obtain ⟨tokens, begun, mode⟩ := s
  obtain ⟨rfl, rfl⟩ := h
  rfl

/-- where a token can begin, a text is read as it is alone -/
theorem IsFresh.run {s : State} (h : s.IsFresh) (text : List Char) :
    s.run text = (read text).behind s.tokens := by
  have hs : s = start.behind s.tokens := by
    rw [behind, start, List.append_nil]
    exact h.eq
  rw [read, ← run_behind, ← hs]

theorem IsFresh.tokens_run {s : State} (h : s.IsFresh) (text : List Char) :
    (s.run text).close.tokens = s.tokens ++ tokensOf text := by
  rw [h.run, close_behind]
  rfl

/-- no operator goes on with another character -/
theorem longer?_eq_none (s : State) {c : Char} (hsign : isSign c = false) (hdash : c ≠ '-') :
    s.longer? c = none := by
  have hlast : ∀ o ∈ longOperators, o.getLast?.all (fun c => isSign c || c == '-') = true := by
    decide
  unfold longer?
  split
  next o _ =>
    refine if_neg fun h => ?_
    have hc := hlast _ h
    rw [List.getLast?_concat, Option.all_some, hsign, Bool.false_or, beq_iff_eq] at hc
    exact hdash hc
  · rfl

variable {s : State} {c : Char}

theorem step_of_plain (h : s.mode = .plain) (hsign : isSign c = false) (hdash : c ≠ '-') :
    s.step c = s.stepPlain c := by
  simp only [step, h, longer?_eq_none s hsign hdash]

/-- a separator ends a token -/
theorem step_separator (h : s.mode = .plain) (hc : isSeparator c = true) : s.step c = s.close := by
  have hcases : c = ' ' ∨ c = '\t' := by simpa [isSeparator] using hc
  rcases hcases with rfl | rfl <;> exact step_of_plain h (by decide) (by decide)

theorem step_newline (h : s.mode = .plain) : s.step '\n' = s.endLine :=
  step_of_plain h (by decide) (by decide)

theorem isFresh_endLine (s : State) : s.endLine.IsFresh := ⟨rfl, rfl⟩

end State

/-- Where a token can begin, `text` is read as the token `t`, which has not ended. -/
def Spells (text : List Char) (t : Token) : Prop :=
  ∀ s : State, s.IsFresh → s.run text = { s with begun := some t }

/-! ## quoted words -/

open State

/-- between single quotes a character is written as itself, or as what leaves the quotes for a
quote behind a backslash -/
theorem run_escapeQuote (tokens : List Token) (w : List Glyph) (c : Char) :
    run ⟨tokens, some (.word w), .single⟩ (Flavor.escapeQuote c) =
      ⟨tokens, some (.word (w ++ [.literal c])), .single⟩ := by
  unfold Flavor.escapeQuote
  split
  next h =>
    subst h
    rfl
  next h => simp only [run_cons, run_nil, step, push, if_neg h]

theorem run_flatMap_escapeQuote (tokens : List Token) (w : List Glyph) (cs : List Char) :
    run ⟨tokens, some (.word w), .single⟩ (cs.flatMap Flavor.escapeQuote) =
      ⟨tokens, some (.word (w ++ cs.map .literal)), .single⟩ := by
  induction cs generalizing w with
  | nil => rw [List.flatMap_nil, List.map_nil, List.append_nil, run_nil]
  | cons c cs ih =>
    rw [List.flatMap_cons, run_append, run_escapeQuote, ih, List.append_assoc]
    rfl

/-- a quoted text is one word -/
theorem spells_quoteChars (cs : List Char) : Spells (Flavor.posix.quoteChars cs) (.literal cs) := by
  intro s hs
  rw [hs.eq, Flavor.quoteChars, List.cons_append, run_cons, run_append]
  show ((run ⟨s.tokens ++ [], some (.word []), .single⟩ (cs.flatMap Flavor.escapeQuote)).run ['\'']) = _
  rw [run_flatMap_escapeQuote, List.append_nil, List.nil_append]
  rfl

/-- a character of a kind is none of those that are not of the kind -/
theorem notMem_of_kind {kind : Char → Bool} {c : Char} (hc : kind c = true) {others : List Char}
    (hothers : others.all (!kind ·) = true) : c ∉ others := by
  intro h
  have hkind := List.all_eq_true.mp hothers c h
  rw [hc] at hkind
  exact Bool.noConfusion hkind

theorem stepPlain_of_isPlain (s : State) {c : Char} (hc : Flavor.posix.isPlain c = true) :
    s.stepPlain c = s.push (.literal c) := by
  have hmarks : c ∉ ['\n', '\\', '\'', '"', '#'] := notMem_of_kind hc (by decide)
  have hseparator : isSeparator c = false := decide_eq_false (notMem_of_kind hc (by decide))
  have hsign : isSign c = false := decide_eq_false (notMem_of_kind hc (by decide))
  have hactive : isActive c = false := decide_eq_false (notMem_of_kind hc (by decide))
  simp only [List.mem_cons, List.not_mem_nil, or_false, not_or] at hmarks
  simp [stepPlain, hmarks, hseparator, hsign, hactive]

/-- plain characters go on with a word -/
theorem run_of_isPlain (tokens : List Token) (w : List Glyph) {cs : List Char}
    (hcs : ∀ c ∈ cs, Flavor.posix.isPlain c = true) :
    run ⟨tokens, some (.word w), .plain⟩ cs = ⟨tokens, some (.word (w ++ cs.map .literal)), .plain⟩ := by
  induction cs generalizing w with
  | nil => rw [List.map_nil, List.append_nil, run_nil]
  | cons c cs ih =>
    obtain ⟨hc, hcs⟩ := List.forall_mem_cons.mp hcs
    rw [run_cons]
    show (stepPlain ⟨tokens, some (.word w), .plain⟩ c).run cs = _
    rw [stepPlain_of_isPlain _ hc, push, ih _ hcs, List.append_assoc]
    rfl

/-- plain characters are one word -/
theorem spells_of_isPlain {cs : List Char} (hne : cs ≠ [])
    (hcs : ∀ c ∈ cs, Flavor.posix.isPlain c = true) : Spells cs (.literal cs) := by
  intro s hs
  cases cs with
  | nil => exact absurd rfl hne
  | cons c cs =>
    obtain ⟨hc, hcs⟩ := List.forall_mem_cons.mp hcs
    rw [hs.eq, run_cons]
    show (stepPlain ⟨s.tokens, none, .plain⟩ c).run cs = _
    rw [stepPlain_of_isPlain _ hc]
    show run ⟨s.tokens ++ [], some (.word [.literal c]), .plain⟩ cs = _
    rw [run_of_isPlain _ _ hcs, List.append_nil]
    rfl

/-- a text that is quoted where it has to be is one word -/
theorem spells_quoteIfNeededChars (cs : List Char) :
    Spells (Flavor.posix.quoteIfNeededChars cs) (.literal cs) := by
  unfold Flavor.quoteIfNeededChars
  split
  next h =>
    simp only [Bool.and_eq_true, Bool.not_eq_true', List.isEmpty_eq_false_iff, List.all_eq_true] at h
    exact spells_of_isPlain h.1 h.2
  next => exact spells_quoteChars cs

/-! ## words between separators -/

/-- a separator ends a token that has been read -/
theorem Spells.run_separator {text : List Char} {t : Token} (ht : Spells text t) {s : State}
    (hs : s.IsFresh) {b : Char} (hb : isSeparator b = true) :
    s.run (text ++ [b]) = { s with tokens := s.tokens ++ [t] } := by
  have hmode : ({ s with begun := some t } : State).mode = .plain := hs.mode
  rw [run_append, ht s hs, run_cons, run_nil, step_separator hmode hb, close, hs.begun]
  rfl

/-- the tokens of a text behind which none has begun -/
theorem tokensOf_of_begun {text : List Char} (h : (read text).begun = none) :
    tokensOf text = (read text).tokens := by
  rw [tokensOf, close, h]
  exact List.append_nil _

theorem read_concat_separator {text : List Char} (h : (read text).mode = .plain) {b : Char}
    (hb : isSeparator b = true) : read (text ++ [b]) = (read text).close := by
  rw [read_append, run_cons, run_nil, step_separator h hb]

/-- a separator at the front adds nothing -/
theorem tokensOf_separator {b : Char} (hb : isSeparator b = true) (text : List Char) :
    tokensOf (b :: text) = tokensOf text := by
  rw [tokensOf, read, run_cons, step_separator rfl hb]
  rfl

/-- A token that begins where one can begin, and that nothing or a separator ends, is read as this
token; what stands before and behind it is read as it is alone. -/
theorem tokensOf_append {before text after : List Char} {t : Token} (hbefore : (read before).IsFresh)
    (ht : Spells text t) (hafter : after.head?.all isSeparator = true) :
    tokensOf (before ++ (text ++ after)) = tokensOf before ++ t :: tokensOf after := by
  have hclosed : tokensOf before = (read before).tokens := tokensOf_of_begun hbefore.begun
  cases after with
  | nil =>
    rw [List.append_nil, tokensOf, read_append, ht _ hbefore, hclosed]
    rfl
  | cons b after =>
    have hb : isSeparator b = true := hafter
    have hsplit : text ++ b :: after = text ++ [b] ++ after := List.append_cons _ _ _
    have hnext : ({ read before with tokens := (read before).tokens ++ [t] } : State).IsFresh :=
      ⟨hbefore.mode, hbefore.begun⟩
    rw [hsplit, tokensOf, read_append, run_append, ht.run_separator hbefore hb, hnext.tokens_run,
      tokensOf_separator hb, hclosed, List.append_assoc]
    rfl

/-- the same behind a separator -/
theorem tokensOf_between {before text after : List Char} {b b' : Char} {t : Token}
    (hbefore : (read before).mode = .plain) (hb : isSeparator b = true) (ht : Spells text t)
    (hb' : isSeparator b' = true) :
    tokensOf (before ++ b :: (text ++ b' :: after)) = tokensOf before ++ t :: tokensOf after := by
  have hread := read_concat_separator hbefore hb
  have hfresh : (read (before ++ [b])).IsFresh := by
    rw [hread]
    exact ⟨hbefore, rfl⟩
  have hclosed : tokensOf (before ++ [b]) = tokensOf before := by
    rw [tokensOf_of_begun hfresh.begun, hread]
    rfl
  have hafter : (b' :: after).head?.all isSeparator = true := hb'
  rw [List.append_cons, tokensOf_append hfresh ht hafter, hclosed, tokensOf_separator hb']

/-- words with a space between each two are read in order -/
theorem close_run_intercalate {α : Type} {f : α → List Char} {t : α → Token} {xs : List α}
    (ht : ∀ x ∈ xs, Spells (f x) (t x)) {s : State} (hs : s.IsFresh) :
    (s.run ([' '].intercalate (xs.map f))).close = { s with tokens := s.tokens ++ xs.map t } := by
  induction xs generalizing s with
  | nil =>
    show s.close = _
    rw [close, hs.begun, Option.toList_none, List.map_nil, List.append_nil]
  | cons x xs ih =>
    obtain ⟨hx, hxs⟩ := List.forall_mem_cons.mp ht
    cases xs with
    | nil =>
      rw [List.map_singleton, List.map_singleton, List.intercalate_singleton, hx s hs, close, hs.begun]
      rfl
    | cons y ys =>
      have hnext : ({ s with tokens := s.tokens ++ [t x] } : State).IsFresh := ⟨hs.mode, hs.begun⟩
      rw [List.map_cons, List.map_cons, List.intercalate_cons_cons, run_append,
        hx.run_separator hs (by decide)]
      refine (ih hxs hnext).trans ?_
      rw [List.map_cons, List.append_assoc]
      rfl

/-! ## lines of tokens -/

theorem linesOf_newline (before after : List Token) :
    linesOf (before ++ .newline :: after) = linesOf before ++ linesOf after := by
  rw [linesOf, List.splitOn, List.splitOnP_append_cons _ _ (by decide), List.filter_append]
  rfl

theorem linesOf_concat_newline (tokens : List Token) :
    linesOf (tokens ++ [.newline]) = linesOf tokens := by
  rw [linesOf_newline]
  exact List.append_nil _

theorem linesOf_line {line : List Token} (h : .newline ∉ line) (hne : line ≠ []) :
    linesOf line = [line] := by
  have hsplit : line.splitOn .newline = [line] := by
    refine List.splitOnP_eq_singleton fun t ht => ?_
    rw [beq_eq_false_iff_ne]
    rintro rfl
    exact h ht
  rw [linesOf, hsplit, List.filter_cons_of_pos (by simpa using hne), List.filter_nil]

end ShellWorkers.Lexical
