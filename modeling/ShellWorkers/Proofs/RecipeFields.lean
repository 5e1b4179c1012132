import Mathlib.Data.List.Forall2
import Mathlib.Data.List.Nodup
import ShellWorkers.Recipe.Format

/-!
# What the fields of a recipe spell

A value spells something for a field without being read: a line of words is a shell, a list of
paths and of objects with one path is a list of sources, and for every other field a string is
itself.  The readers of fields, of the members of an object and of the items of a list find what
is spelled and accept nothing else.

* `Field.Spells`               what a value spells for a field;
* `Draft.get_of_put`           reading a field, and `Draft.put_of_spells`, when it can be read;
* `Draft.readMembers_sound`    what has been read behind the members of an object, and
                               `Draft.readMembers_complete`, which members are read;
* `Draft.readItems_sound`, `Draft.readItems_complete`  the same for a list with an item for each
                               field.
-/

namespace ShellWorkers

/-! ## entries in the order of the text -/

namespace Json

def Items.toList : Items → List Json
  | .closed => []
  | .broken _ => []
  | .next item rest => item :: rest.toList

def Members.toList : Members → List (String × Json)
  | .closed => []
  | .broken _ => []
  | .next key value rest => (key, value) :: rest.toList

theorem Items.toList_ofList (items : List Json) : (Items.ofList items).toList = items := by
  induction items with
  | nil => rfl
  | cons item items ih => rw [Items.ofList, Items.toList, ih]

theorem Members.toList_ofList (members : List (String × Json)) :
    (Members.ofList members).toList = members := by
  induction members with
  | nil => rfl
  | cons member members ih => rw [Members.ofList, Members.toList, ih]

mutual

/-- a value without faults has no first one -/
theorem fault?_of_intact : (v : Json) → v.intact = true → v.fault? = none
  | .broken _, h => nomatch h
  | .null, _ => rfl
  | .bool _, _ => rfl
  | .number _, _ => rfl
  | .string _, _ => rfl
  | .list items, h => Items.fault?_of_intact items h
  | .object members, h => Members.fault?_of_intact members h

theorem Items.fault?_of_intact : (items : Items) → items.intact = true → items.fault? = none
  | .closed, _ => rfl
  | .broken _, h => nomatch h
  | .next item rest, h => by
    obtain ⟨hitem, hrest⟩ := Bool.and_eq_true_iff.mp h
    rw [Items.fault?, Json.fault?_of_intact item hitem, Items.fault?_of_intact rest hrest]
    rfl

theorem Members.fault?_of_intact :
    (members : Members) → members.intact = true → members.fault? = none
  | .closed, _ => rfl
  | .broken _, h => nomatch h
  | .next key value rest, h => by
    obtain ⟨hvalue, hrest⟩ := Bool.and_eq_true_iff.mp h
    rw [Members.fault?, Json.fault?_of_intact value hvalue, Members.fault?_of_intact rest hrest]
    rfl

end

end Json

/-! ## words of a line -/

namespace Text

theorem close_eq_nil_iff (w : Words) : w.close = [] ↔ w.word = [] ∧ w.after = [] := by
  unfold Words.close
  cases w.word with
  | nil => simp
  | cons c cs => simp

/-- a line has no words exactly if it is blank -/
theorem wordsOf_eq_nil_iff (cs : List Char) : wordsOf cs = [] ↔ cs.all isBlank = true := by
  unfold wordsOf
  induction cs with
  | nil => simp [Words.close]
  | cons c cs ih =>
    rw [List.foldr_cons, List.all_cons, Words.extend]
    by_cases hc : isBlank c = true
    · rw [if_pos hc, hc, Bool.true_and, ← ih]
      simp [Words.close]
    · rw [if_neg hc, close_eq_nil_iff]
      simp [hc]

/-- the words of a line are not empty and hold no blanks -/
theorem wordsOf_spec (cs : List Char) :
    ∀ w ∈ wordsOf cs, w ≠ [] ∧ ∀ c ∈ w, isBlank c = false := by
  -- the open word holds no blanks either, and only words that are not empty are closed
  have hopen : ∀ cs : List Char, (∀ c ∈ (cs.foldr Words.extend ⟨[], []⟩).word, isBlank c = false) ∧
      ∀ w ∈ (cs.foldr Words.extend ⟨[], []⟩).close, w ≠ [] ∧ ∀ c ∈ w, isBlank c = false := by
    intro cs
    induction cs with
    | nil => simp [Words.close]
    | cons c cs ih =>
      obtain ⟨hword, hclosed⟩ := ih
      rw [List.foldr_cons, Words.extend]
      by_cases hc : isBlank c = true
      · rw [if_pos hc]
        exact ⟨by simp, by simpa [Words.close] using hclosed⟩
      · rw [if_neg hc]
        have hafter : ∀ w ∈ (cs.foldr Words.extend ⟨[], []⟩).after,
            w ≠ [] ∧ ∀ c ∈ w, isBlank c = false := by
          intro w hw
          refine hclosed w ?_
          unfold Words.close
          split
          · exact hw
          · exact List.mem_cons_of_mem _ hw
        have hnew : ∀ e ∈ c :: (cs.foldr Words.extend ⟨[], []⟩).word, isBlank e = false :=
          List.forall_mem_cons.mpr ⟨Bool.eq_false_iff.mpr hc, hword⟩
        exact ⟨hnew, List.forall_mem_cons.mpr ⟨⟨by simp, hnew⟩, hafter⟩⟩
  exact (hopen cs).2

theorem words_eq_nil_iff (s : String) : words s = [] ↔ isBlankText s = true := by
  rw [words, List.map_eq_nil_iff, wordsOf_eq_nil_iff, isBlankText]

end Text

/-! ## what a value spells -/

theorem exists_of_bind_eq_ok {ε α β : Type} {x : Except ε α} {f : α → Except ε β} {b : β}
    (h : x >>= f = .ok b) : ∃ a, x = .ok a ∧ f a = .ok b := by
  cases x with
  | error e => exact nomatch h
  | ok a => exact ⟨a, rfl, h⟩

theorem eq_ok_of_toOption {ε α : Type} {x : Except ε α} {a : α} (h : x.toOption = some a) :
    x = .ok a := by
  cases x with
  | error e => exact nomatch h
  | ok b => exact congrArg Except.ok (Option.some.inj h)

/-- each entry has a partner in which both relations meet -/
theorem exists_of_forall₂ {α β : Type} {r s : α → β → Prop} {as : List α} {bs : List β}
    (hr : List.Forall₂ r as bs) (hs : List.Forall₂ s as bs) : ∀ a ∈ as, ∃ b, r a b ∧ s a b := by
  induction hr with
  | nil => simp
  | @cons a b as bs hab _ ih =>
    cases hs with
    | cons hab' hs =>
      intro c hc
      rcases List.mem_cons.mp hc with rfl | hc
      · exact ⟨b, hab, hab'⟩
      · exact ih hs c hc

theorem readText_eq_ok_iff (v : Json) (text : String) :
    readText v = .ok text ↔ v = .string text := by
  cases v <;> simp [readText, refuse]

/-- the value is a line with these words, and they are the shell -/
def SpellsShell (v : Json) (s : Shell) : Prop :=
  ∃ line, v = .string line ∧ Text.words line = s.program :: s.args

theorem ofLine?_eq_some_iff (line : String) (s : Shell) :
    Shell.ofLine? line = some s ↔ Text.words line = s.program :: s.args := by
  obtain ⟨program, args⟩ := s
  unfold Shell.ofLine?
  cases Text.words line with
  | nil => simp
  | cons first rest => simp

theorem ofJson_shell_eq_ok_iff (v : Json) (s : Shell) :
    Shell.ofJson v = .ok s ↔ SpellsShell v s := by
  unfold SpellsShell
  cases v with
  | string line =>
    have hline : Shell.ofJson (.string line) = .ok s ↔ Shell.ofLine? line = some s := by
      cases hfound : Shell.ofLine? line with
      | none => simp [Shell.ofJson, hfound]
      | some found => simp [Shell.ofJson, hfound]
    rw [hline, ofLine?_eq_some_iff]
    simp
  | _ => simp [Shell.ofJson, refuse]

/-- a source: a path, or an object with exactly one member `path`, a string, whatever else it
holds -/
inductive SpellsSource : Json → String → Prop where
  | path (path : String) : SpellsSource (.string path) path
  | detailed (members : Json.Members) (path : String)
      (once : members.toList.filter (·.1 = "path") = [("path", .string path)]) :
      SpellsSource (.object members) path

/-- the values that are judged are those of the members called `path` -/
theorem pathsOf_eq (members : Json.Members) :
    pathsOf members = (members.toList.filter (·.1 = "path")).map Prod.snd := by
  fun_induction pathsOf members with
  | case1 => rfl
  | case2 fault => rfl
  | case3 value rest ih => simp [Json.Members.toList, ih]
  | case4 key value rest hkey ih => simp [Json.Members.toList, ih, hkey]

theorem pathsOf_eq_iff (members : Json.Members) (path : String) :
    pathsOf members = [.string path] ↔
      members.toList.filter (·.1 = "path") = [("path", .string path)] := by
  rw [pathsOf_eq]
  constructor
  · intro h
    obtain ⟨member, hmember, hvalue⟩ := List.map_eq_singleton_iff.mp h
    have hkey : member.1 = "path" := by
      have hmem : member ∈ members.toList.filter (·.1 = "path") := by simp [hmember]
      simpa using (List.mem_filter.mp hmem).2
    rw [hmember, ← hvalue, ← hkey]
  · intro h
    rw [h]
    rfl

/-- a source that is read is spelled -/
theorem spells_of_sourceOf {v : Json} {path : String} (h : sourceOf v = .ok path) :
    SpellsSource v path := by
  unfold sourceOf at h
  split at h
  · exact nomatch h
  · split at h
    · obtain rfl := Except.ok.inj h
      exact .path _
    · split at h
      · next hpaths =>
        obtain rfl := Except.ok.inj h
        exact .detailed _ _ ((pathsOf_eq_iff _ _).mp hpaths)
      · exact nomatch h
    · exact nomatch h

theorem sourceOf_of_spells {v : Json} {path : String} (hv : v.intact = true)
    (h : SpellsSource v path) : sourceOf v = .ok path := by
  have hfault := Json.fault?_of_intact v hv
  cases h with
  | path path => simp [sourceOf, hfault]
  | detailed members path once =>
    have hpaths := (pathsOf_eq_iff members path).mpr once
    simp [sourceOf, hfault, hpaths]

/-- the value is a list in which each item spells a source -/
def SpellsSources (v : Json) (paths : List String) : Prop :=
  ∃ items, v = .list items ∧ List.Forall₂ SpellsSource items.toList paths

theorem spells_of_sourcesOf {items : Json.Items} {paths : List String}
    (h : sourcesOf items = .ok paths) : List.Forall₂ SpellsSource items.toList paths := by
  fun_induction sourcesOf items generalizing paths with
  | case1 =>
    obtain rfl := Except.ok.inj h
    exact .nil
  | case2 fault => exact nomatch h
  | case3 item rest ih =>
    obtain ⟨path, hpath, h⟩ := exists_of_bind_eq_ok h
    obtain ⟨more, hmore, h⟩ := exists_of_bind_eq_ok h
    obtain rfl := Except.ok.inj h
    exact .cons (spells_of_sourceOf hpath) (ih hmore)

theorem sourcesOf_of_spells {items : Json.Items} {paths : List String}
    (hitems : items.intact = true) (h : List.Forall₂ SpellsSource items.toList paths) :
    sourcesOf items = .ok paths := by
  fun_induction sourcesOf items generalizing paths with
  | case1 =>
    cases h
    rfl
  | case2 fault => exact nomatch hitems
  | case3 item rest ih =>
    obtain ⟨hitem, hrest⟩ := Bool.and_eq_true_iff.mp hitems
    cases h with
    | cons hpath hmore => rw [sourceOf_of_spells hitem hpath, ih hrest hmore]; rfl

theorem spells_of_readSources {v : Json} {paths : List String} (h : readSources v = .ok paths) :
    SpellsSources v paths := by
  cases v with
  | list items => exact ⟨items, rfl, spells_of_sourcesOf h⟩
  | _ => exact nomatch h

theorem readSources_of_spells {v : Json} {paths : List String} (hv : v.intact = true)
    (h : SpellsSources v paths) : readSources v = .ok paths := by
  obtain ⟨items, rfl, hitems⟩ := h
  exact sourcesOf_of_spells hv hitems

/-! ## what a field spells -/

namespace Field

/-- the values of a field -/
def Value : Field → Type
  | .shell => Shell
  | .sources => List String
  | _ => String

/-- the value spells `x` for the field: a shell, sources, or text for every other field -/
def Spells : (f : Field) → Json → f.Value → Prop
  | .shell, v, x => SpellsShell v x
  | .initCommand, v, x => v = .string x
  | .objectCommand, v, x => v = .string x
  | .libraryCommand, v, x => v = .string x
  | .target, v, x => v = .string x
  | .objectExt, v, x => v = .string x
  | .libraryExt, v, x => v = .string x
  | .sources, v, x => SpellsSources v x

/-- what a recipe has that leaves the field out, if it may -/
def default? (standard : Shell) : (f : Field) → Option f.Value
  | .shell => some standard
  | .initCommand => some ""
  | .objectCommand => none
  | .libraryCommand => none
  | .target => none
  | .objectExt => some ".o"
  | .libraryExt => some ".so"
  | .sources => none

/-- the fields that have a default -/
theorem isSome_default? (standard : Shell) (f : Field) :
    (f.default? standard).isSome = f.hasDefault := by cases f <;> rfl

theorem name_injective {f g : Field} (h : f.name = g.name) : f = g := by
  cases f <;> cases g <;> first | rfl | exact absurd h (by decide)

theorem mem_all (f : Field) : f ∈ all := by cases f <;> decide

theorem ofName?_name (f : Field) : ofName? f.name = some f := by cases f <;> decide

theorem name_of_ofName? {name : String} {f : Field} (h : ofName? name = some f) :
    f.name = name := by
  have := List.find?_some h
  simpa using this

end Field

/-- the value of a field in a recipe -/
def Template.get (t : Template) : (f : Field) → f.Value
  | .shell => t.shell
  | .initCommand => t.initCommand
  | .objectCommand => t.objectCommand
  | .libraryCommand => t.libraryCommand
  | .target => t.target
  | .objectExt => t.objectExt
  | .libraryExt => t.libraryExt
  | .sources => t.sources

/-- the recipe with given values -/
def Template.ofValues (value : (f : Field) → f.Value) : Template :=
  ⟨value .shell, value .initCommand, value .objectCommand, value .libraryCommand, value .target,
    value .objectExt, value .libraryExt, value .sources⟩

theorem Template.get_ofValues (value : (f : Field) → f.Value) (f : Field) :
    (ofValues value).get f = value f := by cases f <;> rfl

/-! ## fields that have been read -/

namespace Draft

/-- the value of a field, if it has been read -/
def get (d : Draft) : (f : Field) → Option f.Value
  | .shell => d.shell
  | .initCommand => d.initCommand
  | .objectCommand => d.objectCommand
  | .libraryCommand => d.libraryCommand
  | .target => d.target
  | .objectExt => d.objectExt
  | .libraryExt => d.libraryExt
  | .sources => d.sources

theorem get_empty (f : Field) : empty.get f = none := by cases f <;> rfl

theorem has_eq (d : Draft) (f : Field) : d.has f = (d.get f).isSome := by cases f <;> rfl

/-- a field that has been put is read from its value, and the others are as they were -/
theorem get_of_put {d d' : Draft} {f : Field} {v : Json} (h : d.put f v = .ok d') :
    (∃ x, f.Spells v x ∧ d'.get f = some x) ∧ ∀ g, g ≠ f → d'.get g = d.get g := by
  cases f with
  | shell =>
    obtain ⟨x, hx, h⟩ := exists_of_bind_eq_ok h
    obtain rfl := Except.ok.inj h
    refine ⟨⟨x, (ofJson_shell_eq_ok_iff v x).mp hx, rfl⟩, fun g hg => ?_⟩
    cases g <;> first | rfl | exact absurd rfl hg
  | sources =>
    obtain ⟨x, hx, h⟩ := exists_of_bind_eq_ok h
    obtain rfl := Except.ok.inj h
    refine ⟨⟨x, spells_of_readSources hx, rfl⟩, fun g hg => ?_⟩
    cases g <;> first | rfl | exact absurd rfl hg
  | _ =>
    obtain ⟨x, hx, h⟩ := exists_of_bind_eq_ok h
    obtain rfl := Except.ok.inj h
    refine ⟨⟨x, (readText_eq_ok_iff v x).mp hx, rfl⟩, fun g hg => ?_⟩
    cases g <;> first | rfl | exact absurd rfl hg

/-- a spelled field can be put -/
theorem put_of_spells (d : Draft) {f : Field} {v : Json} (hv : v.intact = true)
    {x : f.Value} (h : f.Spells v x) : ∃ d', d.put f v = .ok d' := by
  cases f with
  | shell =>
    have hx : Shell.ofJson v = .ok x := (ofJson_shell_eq_ok_iff v x).mpr h
    exact ⟨_, by rw [put, hx]; rfl⟩
  | sources =>
    have hx : readSources v = .ok x := readSources_of_spells hv h
    exact ⟨_, by rw [put, hx]; rfl⟩
  | _ =>
    have hx : readText v = .ok x := (readText_eq_ok_iff v x).mpr h
    exact ⟨_, by rw [put, hx]; rfl⟩

theorem required_eq_ok_iff {α : Type} (f : Field) (o : Option α) (a : α) :
    required f o = .ok a ↔ o = some a := by
  cases o <;> simp [required]

/-- the recipe of the fields that have been read has them, and the defaults of the others -/
theorem template_eq_ok_iff (d : Draft) (standard : Shell) (t : Template) :
    d.template standard = .ok t ↔ ∀ f, (d.get f).or (f.default? standard) = some (t.get f) := by
  constructor
  · intro h f
    obtain ⟨object, hobject, h⟩ := exists_of_bind_eq_ok h
    obtain ⟨library, hlibrary, h⟩ := exists_of_bind_eq_ok h
    obtain ⟨name, hname, h⟩ := exists_of_bind_eq_ok h
    obtain ⟨paths, hpaths, h⟩ := exists_of_bind_eq_ok h
    obtain rfl := Except.ok.inj h
    rw [required_eq_ok_iff] at hobject hlibrary hname hpaths
    cases f with
    | objectCommand => exact Option.or_none.trans hobject
    | libraryCommand => exact Option.or_none.trans hlibrary
    | target => exact Option.or_none.trans hname
    | sources => exact Option.or_none.trans hpaths
    | _ => exact Option.or_some
  · intro h
    have hobject : required .objectCommand d.objectCommand = .ok t.objectCommand :=
      (required_eq_ok_iff _ _ _).mpr (Option.or_none.symm.trans (h .objectCommand))
    have hlibrary : required .libraryCommand d.libraryCommand = .ok t.libraryCommand :=
      (required_eq_ok_iff _ _ _).mpr (Option.or_none.symm.trans (h .libraryCommand))
    have hname : required .target d.target = .ok t.target :=
      (required_eq_ok_iff _ _ _).mpr (Option.or_none.symm.trans (h .target))
    have hpaths : required .sources d.sources = .ok t.sources :=
      (required_eq_ok_iff _ _ _).mpr (Option.or_none.symm.trans (h .sources))
    have hshell : d.shell.getD standard = t.shell :=
      Option.some.inj (Option.or_some.symm.trans (h .shell))
    have hinit : d.initCommand.getD "" = t.initCommand :=
      Option.some.inj (Option.or_some.symm.trans (h .initCommand))
    have hobjectExt : d.objectExt.getD ".o" = t.objectExt :=
      Option.some.inj (Option.or_some.symm.trans (h .objectExt))
    have hlibraryExt : d.libraryExt.getD ".so" = t.libraryExt :=
      Option.some.inj (Option.or_some.symm.trans (h .libraryExt))
    rw [template, hobject, hlibrary, hname, hpaths, hshell, hinit, hobjectExt, hlibraryExt]
    rfl

/-! ## the members of an object -/

/-- what has been read behind members: they are known fields, none read before and none twice,
and each field has what its member spells, or what it had -/
theorem readMembers_sound {d d' : Draft} {members : Json.Members}
    (h : d.readMembers members = .ok d') :
    (∀ m ∈ members.toList, ∃ f : Field, m.1 = f.name ∧ d.get f = none) ∧
      (members.toList.map Prod.fst).Nodup ∧
      ∀ f : Field,
        (∃ v x, (f.name, v) ∈ members.toList ∧ f.Spells v x ∧ d'.get f = some x) ∨
          f.name ∉ members.toList.map Prod.fst ∧ d'.get f = d.get f := by
  fun_induction readMembers d members with
  | case1 d =>
    obtain rfl := Except.ok.inj h
    simp [Json.Members.toList]
  | case2 => exact nomatch h
  | case3 => exact nomatch h
  | case4 => exact nomatch h
  | case5 => exact nomatch h
  | case6 d key value rest f hf hfresh d₁ hput ih =>
    obtain ⟨hknown, honce, hfields⟩ := ih h
    obtain ⟨⟨x, hspells, hx⟩, hothers⟩ := get_of_put hput
    have hkey : f.name = key := Field.name_of_ofName? hf
    have hnone : d.get f = none := by simpa [has_eq] using hfresh
    -- the field is taken now, so no later member may have its name
    have hlater : f.name ∉ rest.toList.map Prod.fst := by
      intro hmem
      obtain ⟨m, hm, hname⟩ := List.mem_map.mp hmem
      obtain ⟨g, hg, hgnone⟩ := hknown m hm
      obtain rfl := Field.name_injective (hname.symm.trans hg)
      rw [hx] at hgnone
      exact nomatch hgnone
    subst hkey
    refine ⟨?_, ?_, ?_⟩
    · intro m hm
      rw [Json.Members.toList, List.mem_cons] at hm
      rcases hm with rfl | hm
      · exact ⟨f, rfl, hnone⟩
      · obtain ⟨g, hg, hgnone⟩ := hknown m hm
        have hne : g ≠ f := by
          rintro rfl
          rw [hx] at hgnone
          exact nomatch hgnone
        exact ⟨g, hg, (hothers g hne).symm.trans hgnone⟩
    · rw [Json.Members.toList, List.map_cons, List.nodup_cons]
      exact ⟨hlater, honce⟩
    · intro g
      rw [Json.Members.toList, List.map_cons]
      by_cases hg : g = f
      · subst hg
        rcases hfields g with ⟨v, y, hmem, -⟩ | ⟨-, hsame⟩
        · exact absurd (List.mem_map_of_mem hmem) hlater
        · exact .inl ⟨value, x, List.mem_cons_self, hspells, hsame.trans hx⟩
      · rcases hfields g with ⟨v, y, hmem, hv, hy⟩ | ⟨habsent, hsame⟩
        · exact .inl ⟨v, y, List.mem_cons_of_mem _ hmem, hv, hy⟩
        · refine .inr ⟨?_, hsame.trans (hothers g hg)⟩
          rw [List.mem_cons]
          rintro (hname | hname)
          · exact hg (Field.name_injective hname)
          · exact habsent hname

/-- members are read when each spells a field, none read before and none twice -/
theorem readMembers_complete {d : Draft} {members : Json.Members} (hv : members.intact = true)
    (hfields : ∀ m ∈ members.toList, ∃ f : Field, m.1 = f.name ∧ d.get f = none ∧
      ∃ x, f.Spells m.2 x)
    (honce : (members.toList.map Prod.fst).Nodup) : ∃ d', d.readMembers members = .ok d' := by
  fun_induction readMembers d members with
  | case1 d => exact ⟨d, rfl⟩
  | case2 => exact nomatch hv
  | case3 d key value rest hf =>
    obtain ⟨f, hname, -⟩ := hfields (key, value) List.mem_cons_self
    obtain rfl : key = f.name := hname
    rw [Field.ofName?_name] at hf
    exact nomatch hf
  | case4 d key value rest f hf hhas =>
    obtain ⟨g, hname, hnone, -⟩ := hfields (key, value) List.mem_cons_self
    obtain rfl := Field.name_injective ((Field.name_of_ofName? hf).trans hname)
    rw [has_eq, hnone] at hhas
    exact nomatch hhas
  | case5 d key value rest f hf hfresh e hput =>
    obtain ⟨g, hname, -, x, hx⟩ := hfields (key, value) List.mem_cons_self
    obtain rfl := Field.name_injective ((Field.name_of_ofName? hf).trans hname)
    obtain ⟨d', hd'⟩ := put_of_spells d (Bool.and_eq_true_iff.mp hv).1 hx
    rw [hput] at hd'
    exact nomatch hd'
  | case6 d key value rest f hf hfresh d₁ hput ih =>
    rw [Json.Members.toList, List.map_cons, List.nodup_cons] at honce
    refine ih (Bool.and_eq_true_iff.mp hv).2 (fun m hm => ?_) honce.2
    obtain ⟨g, hname, hnone, hx⟩ := hfields m (List.mem_cons_of_mem _ hm)
    have hne : g ≠ f := by
      rintro rfl
      refine honce.1 (List.mem_map.mpr ⟨m, hm, ?_⟩)
      exact hname.trans (Field.name_of_ofName? hf)
    exact ⟨g, hname, ((get_of_put hput).2 g hne).trans hnone, hx⟩

/-! ## the items of a list -/

/-- a list that ends before the sources is too short -/
theorem readItems_closed (d : Draft) (index : Nat) {fs : List Field} (h : .sources ∈ fs) :
    ∃ e, d.readItems index fs .closed = .error e := by
  induction fs generalizing index with
  | nil => exact nomatch h
  | cons f fs ih =>
    rw [readItems]
    by_cases hf : f.hasDefault = true
    · rw [if_pos hf]
      rcases List.mem_cons.mp h with rfl | h
      · exact nomatch hf
      · exact ih (index + 1) h
    · exact ⟨_, if_neg hf⟩

/-- what has been read behind items: each spells its field, and there is one for every field -/
theorem readItems_sound {d d' : Draft} {index : Nat} {fs : List Field} {items : Json.Items}
    (honce : fs.Nodup) (hlast : ∀ f ∈ fs.getLast?, f = .sources)
    (h : d.readItems index fs items = .ok d') :
    List.Forall₂ (fun f v => ∃ x, f.Spells v x ∧ d'.get f = some x) fs items.toList ∧
      ∀ g, g ∉ fs → d'.get g = d.get g := by
  fun_induction readItems d index fs items with
  | case1 d =>
    obtain rfl := Except.ok.inj h
    exact ⟨.nil, fun g _ => rfl⟩
  | case2 => exact nomatch h
  | case3 => exact nomatch h
  | case4 => exact nomatch h
  | case5 d index f fs hf ih =>
    -- the sources are among the fields that are left, and they have no default
    have hmem : .sources ∈ f :: fs := by
      have hlast' := List.getLast?_eq_some_getLast (List.cons_ne_nil f fs)
      rw [← hlast _ hlast']
      exact List.mem_of_getLast? hlast'
    rcases List.mem_cons.mp hmem with rfl | hmem
    · exact nomatch hf
    · obtain ⟨e, he⟩ := readItems_closed d (index + 1) hmem
      rw [he] at h
      exact nomatch h
  | case6 => exact nomatch h
  | case7 => exact nomatch h
  | case8 => exact nomatch h
  | case9 d index f fs item rest d₁ hput ih =>
    rw [List.nodup_cons] at honce
    have hlast' : ∀ g ∈ fs.getLast?, g = .sources := by
      intro g hg
      refine hlast g ?_
      cases fs with
      | nil => exact nomatch hg
      | cons e fs => rwa [List.getLast?_cons_cons]
    obtain ⟨hitems, hrest⟩ := ih honce.2 hlast' h
    obtain ⟨⟨x, hx, hget⟩, hothers⟩ := get_of_put hput
    refine ⟨.cons ⟨x, hx, (hrest f honce.1).trans hget⟩ hitems, fun g hg => ?_⟩
    rw [List.mem_cons, not_or] at hg
    rw [hrest g hg.2, hothers g hg.1]

theorem readItems_complete (d : Draft) (index : Nat) {fs : List Field} {items : Json.Items}
    (hv : items.intact = true)
    (h : List.Forall₂ (fun f v => ∃ x, Field.Spells f v x) fs items.toList) :
    ∃ d', d.readItems index fs items = .ok d' := by
  fun_induction readItems d index fs items with
  | case1 d => exact ⟨d, rfl⟩
  | case2 => exact nomatch hv
  | case3 => exact nomatch hv
  | case4 => exact nomatch h
  | case5 => exact nomatch h
  | case6 => exact nomatch h
  | case7 => exact nomatch hv
  | case8 d index f fs item rest e hput =>
    cases h with
    | cons hitem hrest =>
      obtain ⟨x, hx⟩ := hitem
      obtain ⟨d', hd'⟩ := put_of_spells d (Bool.and_eq_true_iff.mp hv).1 hx
      rw [hput] at hd'
      exact nomatch hd'
  | case9 d index f fs item rest d₁ hput ih =>
    cases h with
    | cons hitem hrest => exact ih (Bool.and_eq_true_iff.mp hv).2 hrest

end Draft

end ShellWorkers
