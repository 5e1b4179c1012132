import Mathlib.Data.List.Basic
import Mathlib.Data.List.Chain
import Mathlib.Data.List.TakeWhile
import ShellWorkers.Recipe.Template

/-!
# One pass over a template

The names of a template are replaced in as many passes as there are kinds of them, and each pass
also reads what the passes before it have written.  Where no value opens a brace, and the braces
of the template are not nested, all passes together do what one pass does that replaces every
name by its value and leaves all other text alone.

* `fillFrom`, `fillOnce`   the one pass;
* `Piece`                  a template as characters and groups in braces;
* `fillFrom_pieces`        the one pass, piece by piece;
* `toList_substitute`      the passes one after the other;
* `commands_filled_once`   the two commands of a recipe.
-/

namespace ShellWorkers

/-! ## the pass -/

/-- The name that stands at the front of a text is replaced, and the pass goes on behind it; `skip`
more characters belong to a name that has been replaced. -/
def fillFrom (values : List (Placeholder × String)) : (skip : Nat) → List Char → List Char
  | _, [] => []
  | skip + 1, _ :: cs => fillFrom values skip cs
  | 0, c :: cs =>
    match values.find? fun v => v.1.text.toList.isPrefixOf (c :: cs) with
    | some (p, value) => value.toList ++ fillFrom values (p.text.length - 1) cs
    | none => c :: fillFrom values 0 cs

/-- one pass from left to right that replaces names by their values -/
def fillOnce (values : List (Placeholder × String)) (template : String) : String :=
  String.ofList (fillFrom values 0 template.toList)

theorem Placeholder.toList_text (p : Placeholder) :
    p.text.toList = '{' :: (p.name.toList ++ ['}']) := by
  cases p <;> decide

/-- names have no braces -/
theorem Placeholder.notMem_name (p : Placeholder) : '{' ∉ p.name.toList ∧ '}' ∉ p.name.toList := by
  cases p <;> decide

theorem after?_isSome (p cs : List Char) : (Text.after? p cs).isSome = p.isPrefixOf cs := by
  induction p generalizing cs with
  | nil => rfl
  | cons x p ih =>
    cases cs with
    | nil => rfl
    | cons c cs =>
      rw [Text.after?, List.isPrefixOf, ← ih]
      by_cases h : x = c <;> simp [h]

/-- the replacement of one name is a pass with one value -/
theorem replaceFrom_eq_fillFrom (p : Placeholder) (value : String) (skip : Nat) (cs : List Char) :
    Text.replaceFrom p.text.toList value.toList skip cs = fillFrom [(p, value)] skip cs := by
  induction cs generalizing skip with
  | nil => cases skip <;> rfl
  | cons c cs ih =>
    cases skip with
    | succ skip => exact ih skip
    | zero =>
      rw [Text.replaceFrom, fillFrom, after?_isSome, List.find?_cons, List.find?_nil, ih, ih,
        String.length_toList]
      cases p.text.toList.isPrefixOf (c :: cs) <;> rfl

theorem toList_replace (p : Placeholder) (value text : String) :
    (Text.replace p.text value text).toList = fillFrom [(p, value)] 0 text.toList := by
  rw [Text.replace, String.toList_ofList, Text.replaceChars, replaceFrom_eq_fillFrom]

/-! ## the pass over characters and groups -/

section

variable (values : List (Placeholder × String))

theorem fillFrom_cons {c : Char} (h : c ≠ '{') (cs : List Char) :
    fillFrom values 0 (c :: cs) = c :: fillFrom values 0 cs := by
  have hnone : (values.find? fun v => v.1.text.toList.isPrefixOf (c :: cs)) = none := by
    refine List.find?_eq_none.mpr fun v _ => ?_
    rw [v.1.toList_text, List.isPrefixOf, beq_eq_false_iff_ne.mpr h.symm, Bool.false_and]
    exact Bool.false_ne_true
  rw [fillFrom, hnone]

/-- a text that opens no brace is kept -/
theorem fillFrom_append {cs : List Char} (h : '{' ∉ cs) (rest : List Char) :
    fillFrom values 0 (cs ++ rest) = cs ++ fillFrom values 0 rest := by
  induction cs with
  | nil => rfl
  | cons c cs ih =>
    rw [List.mem_cons, not_or] at h
    rw [List.cons_append, fillFrom_cons values (Ne.symm h.1), ih h.2, List.cons_append]

theorem fillFrom_skip (cs rest : List Char) :
    fillFrom values cs.length (cs ++ rest) = fillFrom values 0 rest := by
  induction cs with
  | nil => rfl
  | cons c cs ih => exact ih

/-- a name stands at the front of a group exactly if it is the group's -/
theorem isPrefixOf_group {name group : List Char} (hname : '}' ∉ name) (hgroup : '}' ∉ group)
    (rest : List Char) : (name ++ ['}']).isPrefixOf (group ++ '}' :: rest) = (name == group) := by
  induction name generalizing group with
  | nil =>
    cases group with
    | nil => rfl
    | cons d group =>
      rw [List.mem_cons, not_or] at hgroup
      show (('}' == d) && _) = false
      rw [beq_eq_false_iff_ne.mpr hgroup.1, Bool.false_and]
  | cons c name ih =>
    rw [List.mem_cons, not_or] at hname
    cases group with
    | nil =>
      show ((c == '}') && _) = false
      rw [beq_eq_false_iff_ne.mpr (Ne.symm hname.1), Bool.false_and]
    | cons d group =>
      rw [List.mem_cons, not_or] at hgroup
      show ((c == d) && (name ++ ['}']).isPrefixOf (group ++ '}' :: rest)) = _
      rw [ih hname.2 hgroup.2]
      rfl

/-- what a group in braces becomes -/
def fillGroup (group : List Char) : List Char :=
  match values.find? fun v => v.1.name.toList == group with
  | some v => v.2.toList
  | none => '{' :: (group ++ ['}'])

theorem fillFrom_group {group : List Char} (hopen : '{' ∉ group) (hclose : '}' ∉ group)
    (rest : List Char) :
    fillFrom values 0 ('{' :: (group ++ '}' :: rest)) =
      fillGroup values group ++ fillFrom values 0 rest := by
  have htest : (fun v : Placeholder × String =>
      v.1.text.toList.isPrefixOf ('{' :: (group ++ '}' :: rest))) =
        fun v => v.1.name.toList == group := by
    funext v
    rw [v.1.toList_text]
    exact isPrefixOf_group v.1.notMem_name.2 hclose rest
  have hgroup : '{' ∉ group ++ ['}'] := by simpa using hopen
  have hrest : group ++ '}' :: rest = group ++ ['}'] ++ rest := List.append_cons _ _ _
  rw [fillFrom, htest, fillGroup, hrest]
  cases hfind : values.find? fun v => v.1.name.toList == group with
  | none => exact congrArg ('{' :: ·) (fillFrom_append values hgroup rest)
  | some v =>
    have hname : v.1.name.toList = group := by simpa using List.find?_some hfind
    have hlength : v.1.text.length - 1 = (group ++ ['}']).length := by
      rw [← String.length_toList, v.1.toList_text, hname]
      rfl
    show v.2.toList ++ fillFrom values (v.1.text.length - 1) (group ++ ['}'] ++ rest) = _
    rw [hlength, fillFrom_skip]

/-- a brace that is not closed is kept -/
theorem fillFrom_unclosed {cs : List Char} (hopen : '{' ∉ cs) (hclose : '}' ∉ cs) :
    fillFrom values 0 ('{' :: cs) = '{' :: cs := by
  have hnone : (values.find? fun v => v.1.text.toList.isPrefixOf ('{' :: cs)) = none := by
    refine List.find?_eq_none.mpr fun v _ h => ?_
    rw [v.1.toList_text, List.isPrefixOf_iff_prefix] at h
    have hmem : '}' ∈ '{' :: cs := h.subset (by simp)
    simp [hclose] at hmem
  have hcs := fillFrom_append values hopen []
  rw [List.append_nil] at hcs
  rw [fillFrom, hnone]
  exact congrArg ('{' :: ·) (hcs.trans (List.append_nil _))

end

/-! ## templates in pieces -/

/-- a part of a template -/
inductive Piece where
  | other (c : Char)
  | group (name : List Char)

namespace Piece

def chars : Piece → List Char
  | .other c => [c]
  | .group name => '{' :: (name ++ ['}'])

/-- a piece opens no brace but its own -/
def IsSound : Piece → Prop
  | .other c => c ≠ '{'
  | .group name => '{' ∉ name ∧ '}' ∉ name

/-- what a piece becomes in the one pass -/
def filled (values : List (Placeholder × String)) : Piece → List Char
  | .other c => [c]
  | .group name => fillGroup values name

/-- what a piece becomes in the pass that replaces one name -/
def replaced (p : Placeholder) (value : String) : Piece → List Piece
  | .other c => [.other c]
  | .group name => if p.name.toList == name then value.toList.map .other else [.group name]

end Piece

theorem Piece.isSound_of_mem_replaced {p : Placeholder} {value : String} (hvalue : '{' ∉ value.toList)
    {origin piece : Piece} (horigin : origin.IsSound) (h : piece ∈ origin.replaced p value) :
    piece.IsSound := by
  cases origin with
  | other c => exact List.mem_singleton.mp h ▸ horigin
  | group name =>
    rw [replaced] at h
    split at h
    · obtain ⟨c, hc, rfl⟩ := List.mem_map.mp h
      rintro rfl
      exact hvalue hc
    · exact List.mem_singleton.mp h ▸ horigin

/-- the end of a template: nothing, or a brace that is not closed -/
def IsEnd (tail : List Char) : Prop := tail = [] ∨ ∃ cs, tail = '{' :: cs ∧ '{' ∉ cs ∧ '}' ∉ cs

/-- the one pass, piece by piece -/
theorem fillFrom_pieces (values : List (Placeholder × String)) {pieces : List Piece}
    (hpieces : ∀ piece ∈ pieces, piece.IsSound) {tail : List Char} (htail : IsEnd tail) :
    fillFrom values 0 (pieces.flatMap Piece.chars ++ tail) =
      pieces.flatMap (Piece.filled values) ++ tail := by
  induction pieces with
  | nil =>
    rcases htail with rfl | ⟨cs, rfl, hopen, hclose⟩
    · rfl
    · exact fillFrom_unclosed values hopen hclose
  | cons piece pieces ih =>
    obtain ⟨hpiece, hpieces⟩ := List.forall_mem_cons.mp hpieces
    rw [List.flatMap_cons, List.flatMap_cons, List.append_assoc, List.append_assoc, ← ih hpieces]
    cases piece with
    | other c => exact fillFrom_cons values hpiece _
    | group name =>
      show fillFrom values 0 ('{' :: ((name ++ ['}']) ++ _)) = _
      rw [List.append_assoc]
      exact fillFrom_group values hpiece.1 hpiece.2 _

/-- the pass that replaces one name, piece by piece -/
theorem flatMap_replaced (p : Placeholder) (value : String) (pieces : List Piece) :
    (pieces.flatMap (Piece.replaced p value)).flatMap Piece.chars =
      pieces.flatMap (Piece.filled [(p, value)]) := by
  rw [List.flatMap_assoc]
  refine List.flatMap_congr fun piece _ => ?_
  cases piece with
  | other c => rfl
  | group name =>
    rw [Piece.replaced, Piece.filled, fillGroup, List.find?_cons, List.find?_nil]
    cases p.name.toList == name with
    | true => simp [Piece.chars, List.flatMap_map]
    | false => simp [Piece.chars]

/-- the passes after the first find what it left, as the one pass does -/
theorem filled_replaced (p : Placeholder) (value : String) (values : List (Placeholder × String))
    (piece : Piece) :
    (piece.replaced p value).flatMap (Piece.filled values) = piece.filled ((p, value) :: values) := by
  cases piece with
  | other c => rfl
  | group name =>
    rw [Piece.replaced, Piece.filled, fillGroup, List.find?_cons]
    cases p.name.toList == name with
    | true => simp [Piece.filled, List.flatMap_map]
    | false => simp [Piece.filled, fillGroup]

/-! ## braces that are not nested -/

def isBrace (c : Char) : Bool := c == '{' || c == '}'

/-- the next brace behind one that opens, if there is one, closes it -/
def Unnested (text : List Char) : Prop :=
  (text.filter isBrace).IsChain fun b b' => b = '{' → b' = '}'

instance (text : List Char) : Decidable (Unnested text) :=
  inferInstanceAs (Decidable (List.IsChain _ _))

/-- a text up to its first brace -/
theorem exists_beforeBrace (text : List Char) :
    ∃ before rest, text = before ++ rest ∧ (∀ c ∈ before, isBrace c = false) ∧
      ∀ b ∈ rest.head?, isBrace b = true := by
  refine ⟨text.takeWhile (!isBrace ·), text.dropWhile (!isBrace ·),
    List.takeWhile_append_dropWhile.symm, fun c hc => ?_, fun b hb => ?_⟩
  · simpa using List.mem_takeWhile_imp hc
  · have hstop := List.head?_dropWhile_not (!isBrace ·) text
    rw [Option.mem_def.mp hb] at hstop
    simpa using hstop

theorem Unnested.of_append {before text : List Char} (h : Unnested (before ++ text)) :
    Unnested text := by
  rw [Unnested, List.filter_append] at h
  exact h.right_of_append

/-- the first brace behind one that opens closes it -/
theorem Unnested.closed {group rest : List Char} {b : Char}
    (hgroup : ∀ c ∈ group, isBrace c = false) (hb : isBrace b = true)
    (h : Unnested ('{' :: (group ++ b :: rest))) : b = '}' := by
  have hfilter : ('{' :: (group ++ b :: rest)).filter isBrace = '{' :: b :: rest.filter isBrace := by
    have hnil : group.filter isBrace = [] :=
      List.filter_eq_nil_iff.mpr fun c hc => by rw [hgroup c hc]; exact Bool.false_ne_true
    rw [List.filter_cons_of_pos rfl, List.filter_append, hnil, List.filter_cons_of_pos hb]
    rfl
  rw [Unnested, hfilter, List.isChain_cons_cons] at h
  exact h.1 rfl

/-- a template whose braces are not nested, in pieces -/
theorem exists_pieces {text : List Char} (h : Unnested text) :
    ∃ (pieces : List Piece) (tail : List Char), text = pieces.flatMap Piece.chars ++ tail ∧
      (∀ piece ∈ pieces, piece.IsSound) ∧ IsEnd tail := by
  induction hlength : text.length using Nat.strongRecOn generalizing text with
  | ind n ih =>
    have hshorter : ∀ before rest, text = before ++ rest → before ≠ [] →
        ∃ (pieces : List Piece) (tail : List Char), rest = pieces.flatMap Piece.chars ++ tail ∧
          (∀ piece ∈ pieces, piece.IsSound) ∧ IsEnd tail := by
      rintro before rest rfl hne
      have hpos := List.length_pos_iff.mpr hne
      rw [List.length_append] at hlength
      exact ih rest.length (by omega) h.of_append rfl
    cases text with
    | nil => exact ⟨[], [], rfl, nofun, .inl rfl⟩
    | cons c text =>
      by_cases hc : c = '{'
      · subst hc
        obtain ⟨group, rest, rfl, hgroup, hrest⟩ := exists_beforeBrace text
        have hopen : '{' ∉ group := fun hmem => Bool.noConfusion (hgroup _ hmem)
        have hclose : '}' ∉ group := fun hmem => Bool.noConfusion (hgroup _ hmem)
        cases rest with
        | nil =>
          rw [List.append_nil]
          exact ⟨[], _, rfl, nofun, .inr ⟨group, rfl, hopen, hclose⟩⟩
        | cons b rest =>
          obtain rfl := h.closed hgroup (hrest b rfl)
          obtain ⟨pieces, tail, rfl, hpieces, htail⟩ :=
            hshorter ('{' :: (group ++ ['}'])) rest (by simp) (List.cons_ne_nil _ _)
          exact ⟨.group group :: pieces, tail, by simp [Piece.chars],
            List.forall_mem_cons.mpr ⟨⟨hopen, hclose⟩, hpieces⟩, htail⟩
      · obtain ⟨pieces, tail, rfl, hpieces, htail⟩ :=
          hshorter [c] text rfl (List.cons_ne_nil _ _)
        exact ⟨.other c :: pieces, tail, by simp [Piece.chars],
          List.forall_mem_cons.mpr ⟨hc, hpieces⟩, htail⟩

/-- all passes, one after the other -/
theorem toList_substitute {values : List (Placeholder × String)}
    (hvalues : ∀ v ∈ values, '{' ∉ v.2.toList) {pieces : List Piece}
    (hpieces : ∀ piece ∈ pieces, piece.IsSound) {tail : List Char} (htail : IsEnd tail)
    {text : String} (htext : text.toList = pieces.flatMap Piece.chars ++ tail) :
    (substitute values text).toList = pieces.flatMap (Piece.filled values) ++ tail := by
  -- each pass makes pieces of pieces: what it puts in is none of the later passes' concern
  induction values generalizing pieces text with
  | nil =>
    have hfilled : ∀ piece ∈ pieces, Piece.chars piece = piece.filled [] := fun piece _ => by
      cases piece <;> rfl
    rw [substitute_nil, htext, List.flatMap_congr hfilled]
  | cons v values ih =>
    obtain ⟨p, value⟩ := v
    obtain ⟨hvalue, hvalues⟩ := List.forall_mem_cons.mp hvalues
    have hreplaced : ∀ piece ∈ pieces.flatMap (Piece.replaced p value), piece.IsSound := by
      intro piece hpiece
      obtain ⟨origin, horigin, hpiece⟩ := List.mem_flatMap.mp hpiece
      exact Piece.isSound_of_mem_replaced hvalue (hpieces origin horigin) hpiece
    have hnext : (Text.replace p.text value text).toList =
        (pieces.flatMap (Piece.replaced p value)).flatMap Piece.chars ++ tail := by
      rw [toList_replace, htext, fillFrom_pieces _ hpieces htail, flatMap_replaced]
    rw [substitute_cons, ih hvalues hreplaced hnext, List.flatMap_assoc]
    exact congrArg (· ++ tail) (List.flatMap_congr fun piece _ => filled_replaced p value values piece)

/-- **One pass.** -/
theorem substitute_eq_fillOnce {values : List (Placeholder × String)}
    (hvalues : ∀ v ∈ values, '{' ∉ v.2.toList) {template : String}
    (h : Unnested template.toList) : substitute values template = fillOnce values template := by
  obtain ⟨pieces, tail, htext, hpieces, htail⟩ := exists_pieces h
  rw [← String.toList_inj, fillOnce, String.toList_ofList,
    toList_substitute hvalues hpieces htail htext, htext, fillFrom_pieces values hpieces htail]

/-! ## the commands of a recipe -/

/-- **One pass is enough.**  Where the braces of the templates are not nested and no value opens
one, both commands are what one pass over their templates makes, with all values at once. -/
theorem commands_filled_once (t : Template) :
    (Unnested t.objectCommand.toList → ∀ source, '{' ∉ (pathWord source).toList →
      (∀ object, objectPath source t.objectExt = .ok object → '{' ∉ (pathWord object).toList) →
      '{' ∉ t.target.toList → '{' ∉ t.objectExt.toList → '{' ∉ t.libraryExt.toList →
        t.objectCommandFor source = (objectPath source t.objectExt).map fun object =>
          fillOnce [(.source, pathWord source), (.object, pathWord object), (.objects, ""),
            (.target, t.target), (.objectExt, t.objectExt), (.libraryExt, t.libraryExt),
            (.library, t.target ++ t.libraryExt)] t.objectCommand) ∧
    (Unnested t.libraryCommand.toList → ∀ (objects : List String) (target : String),
      '{' ∉ (" ".intercalate (objects.map pathWord)).toList → '{' ∉ target.toList →
      '{' ∉ t.objectExt.toList → '{' ∉ t.libraryExt.toList →
        t.libraryCommandFor objects target =
          fillOnce [(.objects, " ".intercalate (objects.map pathWord)), (.target, target),
            (.objectExt, t.objectExt), (.libraryExt, t.libraryExt),
            (.library, target ++ t.libraryExt)] t.libraryCommand) := by
  constructor
  · intro hnested source hsource hobject htarget hobjectExt hlibraryExt
    rw [Template.objectCommandFor]
    cases h : objectPath source t.objectExt with
    | error e => rfl
    | ok object =>
      refine congrArg Except.ok (substitute_eq_fillOnce ?_ hnested)
      simp [Template.sharedValues, hsource, hobject object h, htarget, hobjectExt, hlibraryExt]
  · intro hnested objects target hobjects htarget hobjectExt hlibraryExt
    refine substitute_eq_fillOnce (List.forall_mem_cons.mpr ⟨hobjects, ?_⟩) hnested
    simp [htarget, hobjectExt, hlibraryExt]

/-- names side by side, a name twice, and groups that are no names -/
def groupedTemplate : Template :=
  ⟨.standard, "", "cc \x7bsource\x7d -o\x7bobject\x7d\x7bobjects\x7d -D\x7btarget\x7d \x7bnote\x7d",
    "ld \x7bobjects\x7d -o \x7blibrary\x7d \x7btarget\x7d\x7btarget\x7d \x7bsource\x7d", "it",
    ".o", ".so", ["a b.c"]⟩

theorem commands_filled_once_grouped :
    Unnested groupedTemplate.objectCommand.toList ∧
      groupedTemplate.objectCommandFor "a b.c" = .ok "cc 'a b.c' -o'a b.o' -Dit \x7bnote\x7d" ∧
      Unnested groupedTemplate.libraryCommand.toList ∧
      groupedTemplate.libraryCommandFor ["a b.o", "c.o"] "it" =
        "ld 'a b.o' c.o -o it.so itit \x7bsource\x7d" := by
  have hobject : objectPath "a b.c" groupedTemplate.objectExt = .ok "a b.o" := by decide +kernel
  have hobjectCommand : Unnested groupedTemplate.objectCommand.toList := by decide +kernel
  have hlibraryCommand : Unnested groupedTemplate.libraryCommand.toList := by decide +kernel
  refine ⟨hobjectCommand, ?_, hlibraryCommand, ?_⟩
  · rw [(commands_filled_once groupedTemplate).1 hobjectCommand "a b.c" (by decide +kernel) ?_
      (by decide +kernel) (by decide +kernel) (by decide +kernel), hobject]
    · decide +kernel
    · intro object h
      obtain rfl := Except.ok.inj (hobject.symm.trans h)
      decide +kernel
  · rw [(commands_filled_once groupedTemplate).2 hlibraryCommand ["a b.o", "c.o"] "it"
      (by decide +kernel) (by decide +kernel) (by decide +kernel) (by decide +kernel)]
    decide +kernel

end ShellWorkers
