import ShellWorkers.Proofs.OnePass
import ShellWorkers.Proofs.QuotedWords

/-!
# Paths in a command

A path stands in a command as one word of the shell.  The passes behind the one that has put it
there read it too: a path that holds the name of a later pass is changed by it, inside of its
quotes, and another file is named.  All other paths reach the command as they are.

* `fillFrom_separator`              a pass does not see over a separator;
* `IsFrame.toList_substitute`       what the passes make of a template with two names;
* `Placeholder.standsIn_of_pathWord`   quoting makes no names;
* `IsFrame.of_isBare`               templates of plain words;
* `objectCommandFor_words`          the words of a compile command;
* `named_source_renamed`            a source that holds a name.
-/

namespace ShellWorkers

open Lexical

/-! ## passes and separators -/

theorem Placeholder.separator_notMem_text (p : Placeholder) {b : Char} (hb : isSeparator b = true) :
    b ∉ p.text.toList := by
  have hcases : b = ' ' ∨ b = '\t' := by simpa [isSeparator] using hb
  rcases hcases with rfl | rfl <;> cases p <;> decide

/-- a pattern does not reach over a character that it does not hold -/
theorem isPrefixOf_append_cons {pattern : List Char} {b : Char} (hb : b ∉ pattern)
    (before after : List Char) :
    pattern.isPrefixOf (before ++ b :: after) = pattern.isPrefixOf before := by
  induction pattern generalizing before with
  | nil => rfl
  | cons c pattern ih =>
    rw [List.mem_cons, not_or] at hb
    cases before with
    | nil =>
      show ((c == b) && _) = false
      rw [beq_eq_false_iff_ne.mpr (Ne.symm hb.1), Bool.false_and]
    | cons d before => exact congrArg ((c == d) && ·) (ih hb.2 before)

section

variable (values : List (Placeholder × String)) {b : Char} (hb : isSeparator b = true)

include hb

/-- a pass on both sides of a separator -/
theorem fillFrom_separator {skip : Nat} {before : List Char} (h : skip ≤ before.length)
    (after : List Char) :
    fillFrom values skip (before ++ b :: after) =
      fillFrom values skip before ++ b :: fillFrom values 0 after := by
  have hopen : b ≠ '{' := by
    rintro rfl
    exact absurd hb (by decide)
  induction before generalizing skip with
  | nil =>
    obtain rfl : skip = 0 := Nat.le_zero.mp h
    exact fillFrom_cons values hopen after
  | cons c before ih =>
    cases skip with
    | succ skip => exact ih (Nat.le_of_succ_le_succ h)
    | zero =>
      -- the same name is found with and without what stands behind the separator
      have htest : (fun v : Placeholder × String =>
          v.1.text.toList.isPrefixOf (c :: (before ++ b :: after))) =
            fun v => v.1.text.toList.isPrefixOf (c :: before) := by
        funext v
        exact isPrefixOf_append_cons (v.1.separator_notMem_text hb) (c :: before) after
      rw [List.cons_append, fillFrom, fillFrom, htest]
      cases hfind : values.find? fun v => v.1.text.toList.isPrefixOf (c :: before) with
      | none => exact congrArg (c :: ·) (ih (Nat.zero_le _))
      | some v =>
        have hbegins : v.1.text.toList <+: c :: before := by simpa using List.find?_some hfind
        have hlength : v.1.text.length - 1 ≤ before.length := by
          have hle := hbegins.length_le
          rw [String.length_toList, List.length_cons] at hle
          omega
        show v.2.toList ++ fillFrom values (v.1.text.length - 1) (before ++ b :: after) = _
        rw [ih hlength, ← List.append_assoc]

end

/-! ## templates with two names -/

/-- The text around two names in a template: it opens no brace, separators set the names off, and
where a name stands a word can begin. -/
structure IsFrame (before between after : List Char) : Prop where
  before_open : '{' ∉ before
  between_open : '{' ∉ between
  after_open : '{' ∉ after
  before_fresh : (read before).IsFresh
  between_fresh : (read between).IsFresh
  between_head : between.head?.any isSeparator = true
  after_head : after.head?.all isSeparator = true

/-- a pass on a text that a separator ends -/
theorem fillFrom_append_open (values : List (Placeholder × String)) {between : List Char}
    (hopen : '{' ∉ between) (hhead : between.head?.any isSeparator = true)
    (text after : List Char) :
    fillFrom values 0 (text ++ (between ++ after)) =
      fillFrom values 0 text ++ (between ++ fillFrom values 0 after) := by
  cases between with
  | nil => exact nomatch hhead
  | cons b between =>
    have hb : isSeparator b = true := hhead
    rw [List.mem_cons, not_or] at hopen
    rw [List.cons_append, fillFrom_separator values hb (Nat.zero_le _),
      fillFrom_append values hopen.2, List.cons_append]

section

variable {before between after : List Char} (hframe : IsFrame before between after)

include hframe

/-- a pass on each of two texts in a frame -/
theorem IsFrame.fillFrom (values : List (Placeholder × String)) (first second : List Char) :
    fillFrom values 0 (before ++ (first ++ (between ++ (second ++ after)))) =
      before ++ (fillFrom values 0 first ++ (between ++ (fillFrom values 0 second ++ after))) := by
  have hsecond : ShellWorkers.fillFrom values 0 (second ++ after) =
      ShellWorkers.fillFrom values 0 second ++ after := by
    cases after with
    | nil => rw [List.append_nil, List.append_nil]
    | cons b after =>
      have hend := fillFrom_append_open values hframe.after_open
        hframe.after_head second []
      rwa [List.append_nil, ShellWorkers.fillFrom, List.append_nil] at hend
  rw [fillFrom_append values hframe.before_open,
    fillFrom_append_open values hframe.between_open hframe.between_head, hsecond]

/-- all passes on each of two texts in a frame -/
theorem IsFrame.toList_substitute (values : List (Placeholder × String)) {template first second : String}
    (h : template.toList = before ++ (first.toList ++ (between ++ (second.toList ++ after)))) :
    (substitute values template).toList =
      before ++ ((substitute values first).toList ++
        (between ++ ((substitute values second).toList ++ after))) := by
  induction values generalizing template first second with
  | nil => exact h
  | cons v values ih =>
    obtain ⟨p, value⟩ := v
    rw [substitute_cons, substitute_cons, substitute_cons]
    refine ih ?_
    rw [toList_replace, toList_replace, toList_replace, h, hframe.fillFrom]

end

/-- a name alone becomes its value -/
theorem replace_text_self (p : Placeholder) (value : String) : Text.replace p.text value p.text = value := by
  have hname := fillFrom_group [(p, value)] p.notMem_name.1 p.notMem_name.2 []
  rw [← String.toList_inj, toList_replace, p.toList_text, hname]
  simp [fillGroup, fillFrom]

/-- another name is left alone -/
theorem replace_text_of_ne {p p' : Placeholder} (h : p.name ≠ p'.name) (value : String) :
    Text.replace p.text value p'.text = p'.text := by
  have hname := fillFrom_group [(p, value)] p'.notMem_name.1 p'.notMem_name.2 []
  have hne : (p.name.toList == p'.name.toList) = false :=
    beq_eq_false_iff_ne.mpr fun heq => h (String.toList_inj.mp heq)
  rw [← String.toList_inj, toList_replace, p'.toList_text, hname]
  simp [fillGroup, fillFrom, hne]

/-! ## texts without names -/

/-- the name stands in the text -/
def Placeholder.StandsIn (p : Placeholder) (text : List Char) : Prop := p.text.toList <:+: text

instance (p : Placeholder) (text : List Char) : Decidable (p.StandsIn text) :=
  inferInstanceAs (Decidable (_ <:+: _))

/-- a pass leaves a text alone in which its name does not stand -/
theorem fillFrom_of_not_standsIn {p : Placeholder} (value : String) {text : List Char}
    (h : ¬ p.StandsIn text) : fillFrom [(p, value)] 0 text = text := by
  induction text with
  | nil => rfl
  | cons c text ih =>
    rw [Placeholder.StandsIn, List.infix_cons_iff, not_or] at h
    have hbegins : p.text.toList.isPrefixOf (c :: text) = false := by
      simpa [← List.isPrefixOf_iff_prefix] using h.1
    rw [fillFrom, List.find?_cons, hbegins]
    exact congrArg (c :: ·) (ih h.2)

theorem substitute_of_not_standsIn {values : List (Placeholder × String)} {text : String}
    (h : ∀ v ∈ values, ¬ v.1.StandsIn text.toList) : substitute values text = text := by
  induction values with
  | nil => rfl
  | cons v values ih =>
    obtain ⟨p, value⟩ := v
    obtain ⟨hp, hvalues⟩ := List.forall_mem_cons.mp h
    have hreplace : Text.replace p.text value text = text := by
      rw [← String.toList_inj, toList_replace, fillFrom_of_not_standsIn value hp]
    rw [substitute_cons, hreplace, ih hvalues]

/-! ## quoting makes no names -/

/-- holds none of the characters that quoting writes -/
def IsUnquotable (pattern : List Char) : Prop := '\'' ∉ pattern ∧ '\\' ∉ pattern

theorem Placeholder.isUnquotable_text (p : Placeholder) : IsUnquotable p.text.toList := by
  cases p <;> exact ⟨by decide, by decide⟩

theorem IsUnquotable.eq_nil_of_prefix {pattern rest : List Char} (h : IsUnquotable pattern) {c : Char}
    (hc : c = '\'' ∨ c = '\\') (hbegins : pattern <+: c :: rest) : pattern = [] := by
  rcases List.prefix_cons_iff.mp hbegins with rfl | ⟨tail, rfl, -⟩
  · rfl
  · rcases hc with rfl | rfl
    · exact absurd List.mem_cons_self h.1
    · exact absurd List.mem_cons_self h.2

theorem IsUnquotable.of_cons {c : Char} {pattern : List Char} (h : IsUnquotable (c :: pattern)) :
    IsUnquotable pattern :=
  ⟨fun hmem => h.1 (List.mem_cons_of_mem _ hmem), fun hmem => h.2 (List.mem_cons_of_mem _ hmem)⟩

/-- what begins a quoted text begins the text -/
theorem IsUnquotable.prefix_of_escaped {pattern : List Char} (h : IsUnquotable pattern)
    {cs : List Char} (hbegins : pattern <+: cs.flatMap Flavor.escapeQuote ++ ['\'']) :
    pattern <+: cs := by
  induction cs generalizing pattern with
  | nil =>
    obtain rfl := h.eq_nil_of_prefix (.inl rfl) hbegins
    exact List.nil_prefix
  | cons c cs ih =>
    by_cases hc : c = '\''
    · subst hc
      obtain rfl := h.eq_nil_of_prefix (.inl rfl) hbegins
      exact List.nil_prefix
    · rw [List.flatMap_cons, Flavor.escapeQuote, if_neg hc] at hbegins
      rcases List.prefix_cons_iff.mp hbegins with rfl | ⟨tail, rfl, htail⟩
      · exact List.nil_prefix
      · exact List.cons_prefix_cons.mpr ⟨rfl, ih h.of_cons htail⟩

/-- what stands in a quoted text stands in the text -/
theorem IsUnquotable.infix_of_escaped {pattern : List Char} (h : IsUnquotable pattern)
    {cs : List Char} (hwithin : pattern <:+: cs.flatMap Flavor.escapeQuote ++ ['\'']) :
    pattern <:+: cs := by
  have hquote : ∀ {c rest}, c = '\'' ∨ c = '\\' → pattern <:+: c :: rest → pattern <:+: rest := by
    intro c rest hc hwithin
    rcases List.infix_cons_iff.mp hwithin with hbegins | hwithin
    · obtain rfl := h.eq_nil_of_prefix hc hbegins
      exact List.nil_infix
    · exact hwithin
  induction cs with
  | nil => exact hquote (.inl rfl) hwithin
  | cons c cs ih =>
    by_cases hc : c = '\''
    · subst hc
      -- all four characters that stand for a quote are passed over
      have hrest := hquote (.inl rfl) (hquote (.inl rfl) (hquote (.inr rfl) (hquote (.inl rfl) hwithin)))
      exact List.infix_cons (ih hrest)
    · rw [List.flatMap_cons, Flavor.escapeQuote, if_neg hc] at hwithin
      rcases List.infix_cons_iff.mp hwithin with hbegins | hwithin
      · refine (h.prefix_of_escaped ?_).isInfix
        rwa [List.flatMap_cons, Flavor.escapeQuote, if_neg hc]
      · exact List.infix_cons (ih hwithin)

/-- a name that stands in the word of a path stands in the path -/
theorem Placeholder.standsIn_of_pathWord {p : Placeholder} {path : String}
    (h : p.StandsIn (pathWord path).toList) : p.StandsIn path.toList := by
  rw [pathWord, toList_quoteIfNeeded, Flavor.quoteIfNeededChars] at h
  split at h
  · exact h
  · rcases List.infix_cons_iff.mp h with hbegins | hwithin
    · have hnil := p.isUnquotable_text.eq_nil_of_prefix (.inl rfl) hbegins
      rw [p.toList_text] at hnil
      exact absurd hnil (List.cons_ne_nil _ _)
    · exact p.isUnquotable_text.infix_of_escaped hwithin

/-- a word stays as it is if the path holds none of the names -/
theorem substitute_pathWord (values : List (Placeholder × String)) {path : String}
    (h : ∀ p ∈ values.map Prod.fst, ¬ p.StandsIn path.toList) :
    substitute values (pathWord path) = pathWord path :=
  substitute_of_not_standsIn fun v hv hstands =>
    h v.1 (List.mem_map_of_mem hv) (Placeholder.standsIn_of_pathWord hstands)

/-! ## templates of plain words -/

/-- plain characters and separators -/
def IsBare (text : List Char) : Prop :=
  ∀ c ∈ text, Flavor.posix.isPlain c = true ∨ isSeparator c = true

instance (text : List Char) : Decidable (IsBare text) :=
  List.decidableBAll _ text

theorem IsBare.notMem_open {text : List Char} (h : IsBare text) : '{' ∉ text :=
  fun hmem => absurd (h _ hmem) (by decide)

/-- bare characters lead neither into quotes nor into a comment -/
theorem IsBare.mode_run {text : List Char} (h : IsBare text) {s : State} (hs : s.mode = .plain) :
    (s.run text).mode = .plain := by
  induction text generalizing s with
  | nil => exact hs
  | cons c text ih =>
    obtain ⟨hc, htext⟩ := List.forall_mem_cons.mp h
    refine ih htext ?_
    rcases hc with hc | hc
    · simp only [State.step, hs]
      split
      · rfl
      · rw [stepPlain_of_isPlain _ hc, State.push]
        split <;> exact hs
    · rw [State.step_separator hs hc]
      exact hs

/-- behind a bare text that a separator ends, a token can begin -/
theorem IsBare.isFresh_read {text : List Char} (h : IsBare text)
    (hlast : text.getLast?.all isSeparator = true) : (read text).IsFresh := by
  cases text using List.reverseRecOn with
  | nil => exact State.isFresh_start
  | append_singleton text b =>
    have hb : isSeparator b = true := by rwa [List.getLast?_concat] at hlast
    have hmode : (read text).mode = .plain :=
      IsBare.mode_run (fun c hc => h c (List.mem_append_left _ hc)) rfl
    rw [read_concat_separator hmode hb]
    exact ⟨hmode, rfl⟩

/-- bare texts with separators around the names are a frame -/
theorem IsFrame.of_isBare {before between after : List Char} (hbefore : IsBare before)
    (hbetween : IsBare between) (hafter : IsBare after)
    (hbeforeLast : before.getLast?.all isSeparator = true)
    (hbetweenHead : between.head?.any isSeparator = true)
    (hbetweenLast : between.getLast?.all isSeparator = true)
    (hafterHead : after.head?.all isSeparator = true) : IsFrame before between after where
  before_open := hbefore.notMem_open
  between_open := hbetween.notMem_open
  after_open := hafter.notMem_open
  before_fresh := hbefore.isFresh_read hbeforeLast
  between_fresh := hbetween.isFresh_read hbetweenLast
  between_head := hbetweenHead
  after_head := hafterHead

/-! ## compile commands -/

/-- the names that are replaced behind that of the object -/
def namesBehindObject : List Placeholder := [.objects, .target, .objectExt, .libraryExt, .library]

/-- **The words of a compile command.**  In a frame each path stands as far as the passes behind it
leave it alone.  A source and an object in which no name of these passes stands are one word each,
whatever else is in them, between the words of the frame. -/
theorem objectCommandFor_words (t : Template) {before between after : List Char}
    (hframe : IsFrame before between after)
    (htemplate : t.objectCommand.toList = before ++ (Placeholder.source.text.toList ++
      (between ++ (Placeholder.object.text.toList ++ after))))
    {source object : String} (hobject : objectPath source t.objectExt = .ok object) :
    ∃ command, t.objectCommandFor source = .ok command ∧
      command.toList = before ++
        ((substitute ((.object, pathWord object) :: t.sharedValues "" t.target)
          (pathWord source)).toList ++
        (between ++ ((substitute (t.sharedValues "" t.target) (pathWord object)).toList ++ after))) ∧
      ((∀ p ∈ .object :: namesBehindObject, ¬ p.StandsIn source.toList) →
        (∀ p ∈ namesBehindObject, ¬ p.StandsIn object.toList) →
          tokensOf command.toList = tokensOf before ++ .literal source.toList ::
            (tokensOf between ++ .literal object.toList :: tokensOf after)) := by
  let shared := t.sharedValues "" t.target
  have hcommand := hframe.toList_substitute
    ((.source, pathWord source) :: (.object, pathWord object) :: shared) htemplate
  have hfirst : substitute ((.source, pathWord source) :: (.object, pathWord object) :: shared)
      Placeholder.source.text = substitute ((.object, pathWord object) :: shared) (pathWord source) := by
    rw [substitute_cons, replace_text_self]
  have hsecond : substitute ((.source, pathWord source) :: (.object, pathWord object) :: shared)
      Placeholder.object.text = substitute shared (pathWord object) := by
    rw [substitute_cons, replace_text_of_ne (by decide), substitute_cons, replace_text_self]
  rw [hfirst, hsecond] at hcommand
  refine ⟨_, by rw [Template.objectCommandFor, hobject]; rfl, hcommand, fun hsource hobj => ?_⟩
  have hafter : (between ++ ((pathWord object).toList ++ after)).head?.all isSeparator = true := by
    have hhead := hframe.between_head
    cases between with
    | nil => exact absurd hhead Bool.false_ne_true
    | cons b between => exact hhead
  rw [hcommand, substitute_pathWord ((.object, pathWord object) :: shared) hsource,
    substitute_pathWord shared hobj, tokensOf_append hframe.before_fresh (spells_pathWord source) hafter,
    tokensOf_append hframe.between_fresh (spells_pathWord object) hframe.after_head]

/-- a recipe of bare words with one source -/
def bareRecipe (source : String) : Template :=
  ⟨.standard, "", "cc -c \x7bsource\x7d -o \x7bobject\x7d", "ld \x7bobjects\x7d -o \x7blibrary\x7d",
    "predictor", ".o", ".so", [source]⟩

/-- a name with blanks, a quote, a line end, a group that is no name, and the name that is replaced
before it -/
theorem objectCommandFor_words_unusual :
    IsFrame "cc -c ".toList " -o ".toList [] ∧
      objectPath "it's \x7ba\x7d\n\x7bsource\x7d.c" ".o" = .ok "it's \x7ba\x7d\n\x7bsource\x7d.o" ∧
      ∃ command, (bareRecipe "it's \x7ba\x7d\n\x7bsource\x7d.c").objectCommandFor
          "it's \x7ba\x7d\n\x7bsource\x7d.c" = .ok command ∧
        tokensOf command.toList = [.literal "cc".toList, .literal "-c".toList,
          .literal "it's \x7ba\x7d\n\x7bsource\x7d.c".toList, .literal "-o".toList,
          .literal "it's \x7ba\x7d\n\x7bsource\x7d.o".toList] := by
  have hframe : IsFrame "cc -c ".toList " -o ".toList [] :=
    .of_isBare (by decide) (by decide) (by decide) (by decide) (by decide) (by decide) (by decide)
  have hobject : objectPath "it's \x7ba\x7d\n\x7bsource\x7d.c" ".o" =
      .ok "it's \x7ba\x7d\n\x7bsource\x7d.o" := by decide +kernel
  obtain ⟨command, hcommand, -, hwords⟩ := objectCommandFor_words
    (bareRecipe "it's \x7ba\x7d\n\x7bsource\x7d.c") hframe (by decide +kernel) hobject
  refine ⟨hframe, hobject, command, hcommand, ?_⟩
  rw [hwords (by decide +kernel) (by decide +kernel)]
  decide

/-- **A source that holds a name.**  In both words the name is replaced, and another file is
compiled into another object. -/
theorem named_source_renamed :
    (bareRecipe "\x7btarget\x7d.c").recipe.validate = .ok () ∧
      objectPath "\x7btarget\x7d.c" ".o" = .ok "\x7btarget\x7d.o" ∧
      (bareRecipe "\x7btarget\x7d.c").objectCommandFor "\x7btarget\x7d.c" =
        .ok "cc -c 'predictor.c' -o 'predictor.o'" ∧
      tokensOf "cc -c 'predictor.c' -o 'predictor.o'".toList =
        [.literal "cc".toList, .literal "-c".toList, .literal "predictor.c".toList,
          .literal "-o".toList, .literal "predictor.o".toList] := by
  refine ⟨by decide, ?_, ?_, by decide⟩
  · decide +kernel
  · decide +kernel

end ShellWorkers
