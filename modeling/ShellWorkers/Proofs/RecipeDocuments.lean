import ShellWorkers.Proofs.RecipeFields
import ShellWorkers.Proofs.WrittenJson

/-!
# Which documents are recipes

A document is a recipe when it spells one: an object of known fields, none twice, with those that
have no default, or a list of all eight in their order.  `SpellsRecipe` says so without reading
anything, and says which recipe it is.

* `spells_of_ofJson`, `ofJson_of_spells`  a recipe is read exactly if it is spelled;
* `IsRecipe`            the recipe format, field by field, and `exists_ofJson_iff`, that its
                        documents are the ones that are accepted;
* `SpelledBy.perm`      the order of the members does not matter;
* `ofText_accepts`      which texts are accepted, what they give, and when that is valid.
-/

namespace ShellWorkers

/-! ## what a document spells -/

theorem SpellsSource.unique {v : Json} {x y : String} (hx : SpellsSource v x)
    (hy : SpellsSource v y) : x = y := by
  cases hx with
  | path => cases hy; rfl
  | detailed members x once =>
    cases hy with
    | detailed _ y once' =>
      rw [once] at once'
      simpa using once'

/-- a value spells one thing for a field -/
theorem Field.Spells.unique {f : Field} {v : Json} {x y : f.Value} (hx : f.Spells v x)
    (hy : f.Spells v y) : x = y := by
  cases f with
  | shell =>
    obtain ⟨line, rfl, hline⟩ := hx
    obtain ⟨line', hv, hline'⟩ := hy
    obtain rfl := Json.string.inj hv
    exact Option.some.inj
      (((ofLine?_eq_some_iff line x).mpr hline).symm.trans
        ((ofLine?_eq_some_iff line y).mpr hline'))
  | sources =>
    obtain ⟨items, rfl, hitems⟩ := hx
    obtain ⟨items', hv, hitems'⟩ := hy
    obtain rfl := Json.list.inj hv
    have hunique : Relator.RightUnique SpellsSource := fun _ _ _ hx hy => hx.unique hy
    exact List.right_unique_forall₂' hunique hitems hitems'
  | _ => exact Json.string.inj (hx.symm.trans hy)

/-- the members of an object spell a recipe: they are fields, none twice, and each field of the
recipe has what its member spells, or its default when there is none -/
structure SpelledBy (standard : Shell) (members : List (String × Json)) (t : Template) : Prop where
  known : ∀ m ∈ members, ∃ f : Field, m.1 = f.name
  once : (members.map Prod.fst).Nodup
  fields : ∀ f : Field, (∃ v, (f.name, v) ∈ members ∧ f.Spells v (t.get f)) ∨
    f.name ∉ members.map Prod.fst ∧ f.default? standard = some (t.get f)

/-- the value spells a recipe, as an object or as a list of all fields in order -/
def SpellsRecipe (standard : Shell) : Json → Template → Prop
  | .object members, t => SpelledBy standard members.toList t
  | .list items, t => List.Forall₂ (fun f v => Field.Spells f v (t.get f)) Field.all items.toList
  | _, _ => False

/-- a recipe that is read is spelled -/
theorem spells_of_ofJson {standard : Shell} {v : Json} {t : Template}
    (h : Template.ofJson standard v = .ok t) : SpellsRecipe standard v t := by
  cases v with
  | object members =>
    obtain ⟨d, hd, h⟩ := exists_of_bind_eq_ok h
    rw [Draft.template_eq_ok_iff] at h
    obtain ⟨hknown, honce, hfields⟩ := Draft.readMembers_sound hd
    refine ⟨fun m hm => ?_, honce, fun f => ?_⟩
    · obtain ⟨f, hf, -⟩ := hknown m hm
      exact ⟨f, hf⟩
    · have hf := h f
      rcases hfields f with ⟨v, x, hmem, hx, hget⟩ | ⟨habsent, hget⟩
      · rw [hget, Option.some_or] at hf
        obtain rfl := Option.some.inj hf
        exact .inl ⟨v, hmem, hx⟩
      · rw [hget, Draft.get_empty, Option.none_or] at hf
        exact .inr ⟨habsent, hf⟩
  | list items =>
    obtain ⟨d, hd, h⟩ := exists_of_bind_eq_ok h
    rw [Draft.template_eq_ok_iff] at h
    obtain ⟨hitems, -⟩ := Draft.readItems_sound (by decide) (by simp [Field.all]) hd
    refine hitems.imp fun f v hv => ?_
    obtain ⟨x, hx, hget⟩ := hv
    have hf := h f
    rw [hget, Option.some_or] at hf
    obtain rfl := Option.some.inj hf
    exact hx
  | _ => exact nomatch h

/-- a recipe that is spelled is read -/
theorem ofJson_of_spells {standard : Shell} {v : Json} {t : Template} (hv : v.intact = true)
    (h : SpellsRecipe standard v t) : Template.ofJson standard v = .ok t := by
  cases v with
  | object members =>
    obtain ⟨hknown, honce, hfields⟩ := h
    have hspelled : ∀ m ∈ members.toList, ∃ f : Field, m.1 = f.name ∧ Draft.empty.get f = none ∧
        ∃ x, f.Spells m.2 x := by
      intro m hm
      obtain ⟨f, hf⟩ := hknown m hm
      rcases hfields f with ⟨v, hmem, hv⟩ | ⟨habsent, -⟩
      · obtain rfl := List.inj_on_of_nodup_map honce hm hmem hf
        exact ⟨f, rfl, Draft.get_empty f, _, hv⟩
      · exact absurd (hf ▸ List.mem_map_of_mem hm) habsent
    obtain ⟨d, hd⟩ := Draft.readMembers_complete hv hspelled honce
    obtain ⟨-, -, hread⟩ := Draft.readMembers_sound hd
    rw [Template.ofJson, hd]
    refine (Draft.template_eq_ok_iff d standard t).mpr fun f => ?_
    rcases hfields f with ⟨v, hmem, hv⟩ | ⟨habsent, hdefault⟩
    · rcases hread f with ⟨v', x, hmem', hx, hget⟩ | ⟨habsent, -⟩
      · obtain rfl := (Prod.mk.inj (List.inj_on_of_nodup_map honce hmem hmem' rfl)).2
        rw [hget, Option.some_or, hx.unique hv]
      · exact absurd (List.mem_map_of_mem hmem) habsent
    · rcases hread f with ⟨v', x, hmem', -⟩ | ⟨-, hget⟩
      · exact absurd (List.mem_map_of_mem hmem') habsent
      · rw [hget, Draft.get_empty, Option.none_or, hdefault]
  | list items =>
    obtain ⟨d, hd⟩ := Draft.readItems_complete Draft.empty 0 hv
      (h.imp fun f v hx => ⟨_, hx⟩)
    rw [Template.ofJson, hd]
    refine (Draft.template_eq_ok_iff d standard t).mpr fun f => ?_
    obtain ⟨hitems, -⟩ := Draft.readItems_sound (by decide) (by simp [Field.all]) hd
    obtain ⟨v, hv, x, hx, hget⟩ := exists_of_forall₂ h hitems f (Field.mem_all f)
    rw [hget, Option.some_or, hx.unique hv]
  | _ => exact h.elim

/-! ## which documents are accepted -/

theorem requiredNames_eq :
    ["object_command", "library_command", "target", "sources"] =
      (Field.all.filter fun f => !f.hasDefault).map Field.name := rfl

/-- what a field may have -/
def Field.Admits : Field → Json → Prop
  | .shell, v => ∃ line, v = .string line ∧ ∃ c ∈ line.toList, Text.isBlank c = false
  | .sources, v => ∃ items, v = .list items ∧ ∀ item ∈ items.toList, ∃ path, SpellsSource item path
  | _, v => ∃ text, v = .string text

/-- members of known names, none twice, with those that have no default, each of a value that
its field may have -/
structure AdmittedMembers (members : List (String × Json)) : Prop where
  known : ∀ m ∈ members, m.1 ∈ FormatError.fieldNames
  once : (members.map Prod.fst).Nodup
  required : ∀ name ∈ ["object_command", "library_command", "target", "sources"],
    name ∈ members.map Prod.fst
  values : ∀ f : Field, ∀ v, (f.name, v) ∈ members → f.Admits v

/-- the recipe format: such an object, or a list with a value for each of the eight fields -/
def IsRecipe : Json → Prop
  | .object members => AdmittedMembers members.toList
  | .list items => List.Forall₂ Field.Admits Field.all items.toList
  | _ => False

theorem isBlankText_eq_false_iff (s : String) :
    Text.isBlankText s = false ↔ ∃ c ∈ s.toList, Text.isBlank c = false := by
  simp [Text.isBlankText]

theorem exists_forall₂_iff {α β : Type} {r : α → β → Prop} (as : List α) :
    (∃ bs, List.Forall₂ r as bs) ↔ ∀ a ∈ as, ∃ b, r a b := by
  induction as with
  | nil => simp
  | cons a as ih =>
    constructor
    · rintro ⟨_, hr⟩
      cases hr with
      | cons hab hr =>
        intro c hc
        rcases List.mem_cons.mp hc with rfl | hc
        · exact ⟨_, hab⟩
        · exact ih.mp ⟨_, hr⟩ c hc
    · intro h
      obtain ⟨b, hb⟩ := h a List.mem_cons_self
      obtain ⟨bs, hbs⟩ := ih.mpr fun c hc => h c (List.mem_cons_of_mem _ hc)
      exact ⟨b :: bs, .cons hb hbs⟩

/-- a field may have what spells a value for it -/
theorem Field.admits_iff (f : Field) (v : Json) : f.Admits v ↔ ∃ x, f.Spells v x := by
  cases f with
  | shell =>
    constructor
    · rintro ⟨line, rfl, hline⟩
      rw [← isBlankText_eq_false_iff] at hline
      cases hwords : Text.words line with
      | nil =>
        rw [(Text.words_eq_nil_iff line).mp hwords] at hline
        exact nomatch hline
      | cons program args => exact ⟨(⟨program, args⟩ : Shell), line, rfl, hwords⟩
    · rintro ⟨x, line, rfl, hline⟩
      refine ⟨line, rfl, (isBlankText_eq_false_iff line).mp (Bool.eq_false_iff.mpr ?_)⟩
      intro hblank
      rw [(Text.words_eq_nil_iff line).mpr hblank] at hline
      exact nomatch hline
  | sources =>
    constructor
    · rintro ⟨items, rfl, hitems⟩
      obtain ⟨paths, hpaths⟩ := (exists_forall₂_iff items.toList).mpr hitems
      exact ⟨paths, items, rfl, hpaths⟩
    · rintro ⟨paths, items, rfl, hpaths⟩
      exact ⟨items, rfl, (exists_forall₂_iff items.toList).mp ⟨paths, hpaths⟩⟩
  | _ => exact Iff.rfl

/-- a draft in which no field without a default is missing has a recipe -/
theorem Draft.exists_template {d : Draft} {standard : Shell}
    (h : ∀ f, (∃ x, d.get f = some x) ∨ f.hasDefault = true) :
    ∃ t, d.template standard = .ok t := by
  have hvalue : ∀ f, ∃ x, (d.get f).or (f.default? standard) = some x := by
    intro f
    rcases h f with ⟨x, hx⟩ | hdefault
    · exact ⟨x, by rw [hx, Option.some_or]⟩
    · rw [← Field.isSome_default? standard f, Option.isSome_iff_exists] at hdefault
      obtain ⟨y, hy⟩ := hdefault
      exact ⟨(d.get f).getD y, by rw [hy, Option.or_some]⟩
  choose value hvalue using hvalue
  refine ⟨.ofValues value, (template_eq_ok_iff d standard _).mpr fun f => ?_⟩
  rw [hvalue, Template.get_ofValues]

/-- the documents that are accepted are those in the recipe format -/
theorem exists_ofJson_iff {v : Json} (hv : v.intact = true) (standard : Shell) :
    (∃ t, Template.ofJson standard v = .ok t) ↔ IsRecipe v := by
  constructor
  · rintro ⟨t, ht⟩
    have hspells := spells_of_ofJson ht
    cases v with
    | object members =>
      obtain ⟨hknown, honce, hfields⟩ := hspells
      refine ⟨fun m hm => ?_, honce, fun name hname => ?_, fun f v hmem => ?_⟩
      · obtain ⟨f, hf⟩ := hknown m hm
        rw [fieldNames_eq, hf]
        exact List.mem_map_of_mem (Field.mem_all f)
      · rw [requiredNames_eq, List.mem_map] at hname
        obtain ⟨f, hf, rfl⟩ := hname
        have hnone : f.hasDefault = false := by simpa using (List.mem_filter.mp hf).2
        rcases hfields f with ⟨v, hmem, -⟩ | ⟨-, hdefault⟩
        · exact List.mem_map_of_mem hmem
        · rw [← Field.isSome_default? standard f, hdefault] at hnone
          exact nomatch hnone
      · rcases hfields f with ⟨v', hmem', hv'⟩ | ⟨habsent, -⟩
        · obtain rfl := (Prod.mk.inj (List.inj_on_of_nodup_map honce hmem hmem' rfl)).2
          exact (Field.admits_iff f v).mpr ⟨_, hv'⟩
        · exact absurd (List.mem_map_of_mem hmem) habsent
    | list items => exact hspells.imp fun f v hx => (Field.admits_iff f v).mpr ⟨_, hx⟩
    | _ => exact hspells
  · intro h
    cases v with
    | object members =>
      obtain ⟨hknown, honce, hrequired, hvalues⟩ := h
      have hspelled : ∀ m ∈ members.toList, ∃ f : Field, m.1 = f.name ∧
          Draft.empty.get f = none ∧ ∃ x, f.Spells m.2 x := by
        intro m hm
        obtain ⟨f, -, hf⟩ := List.mem_map.mp (fieldNames_eq ▸ hknown m hm)
        exact ⟨f, hf.symm, Draft.get_empty f, (Field.admits_iff f m.2).mp (hvalues f m.2 (hf ▸ hm))⟩
      obtain ⟨d, hd⟩ := Draft.readMembers_complete hv hspelled honce
      obtain ⟨-, -, hread⟩ := Draft.readMembers_sound hd
      rw [Template.ofJson, hd]
      refine Draft.exists_template fun f => ?_
      rcases hread f with ⟨v, x, -, -, hget⟩ | ⟨habsent, -⟩
      · exact .inl ⟨x, hget⟩
      · refine .inr (by_contra fun hdefault => habsent (hrequired f.name ?_))
        rw [requiredNames_eq]
        exact List.mem_map_of_mem (List.mem_filter.mpr ⟨Field.mem_all f, by simpa using hdefault⟩)
    | list items =>
      obtain ⟨d, hd⟩ := Draft.readItems_complete Draft.empty 0 hv
        (h.imp fun f v => (Field.admits_iff f v).mp)
      obtain ⟨hitems, -⟩ := Draft.readItems_sound (by decide) (by simp [Field.all]) hd
      rw [Template.ofJson, hd]
      refine Draft.exists_template fun f => .inl ?_
      obtain ⟨v, ⟨x, -, hget⟩, -⟩ := exists_of_forall₂ hitems hitems f (Field.mem_all f)
      exact ⟨x, hget⟩
    | _ => exact h.elim

/-- the order of the members does not matter for what they spell -/
theorem SpelledBy.perm {standard : Shell} {members members' : List (String × Json)} {t : Template}
    (hperm : members.Perm members') (h : SpelledBy standard members t) :
    SpelledBy standard members' t := by
  obtain ⟨hknown, honce, hfields⟩ := h
  have hkeys := hperm.map Prod.fst
  refine ⟨fun m hm => hknown m (hperm.mem_iff.mpr hm), hkeys.nodup_iff.mp honce, fun f => ?_⟩
  rcases hfields f with ⟨v, hmem, hv⟩ | ⟨habsent, hdefault⟩
  · exact .inl ⟨v, hperm.mem_iff.mp hmem, hv⟩
  · exact .inr ⟨fun hmem => habsent (hkeys.mem_iff.mpr hmem), hdefault⟩

/-! ## the shells of recipes -/

theorem program_ne_empty_of_spells {v : Json} {s : Shell} (h : SpellsShell v s) :
    s.program ≠ "" := by
  obtain ⟨line, rfl, hline⟩ := h
  intro hempty
  have hmem : s.program ∈ Text.words line := by simp [hline]
  obtain ⟨w, hw, hprogram⟩ := List.mem_map.mp hmem
  refine (Text.wordsOf_spec line.toList w hw).1 ?_
  rw [hempty] at hprogram
  exact String.ofList_eq_empty_iff.mp hprogram

/-- the shell of recipes that name none has a program, if a search that finds one names it -/
theorem program_default_ne_empty {named found : Option String} (hfound : found ≠ some "") :
    (Shell.default named found).program ≠ "" := by
  unfold Shell.default
  split
  · next s hs =>
    obtain ⟨line, -, hline⟩ := Option.bind_eq_some_iff.mp hs
    exact program_ne_empty_of_spells ⟨line, rfl, (ofLine?_eq_some_iff line s).mp hline⟩
  · split
    · next program => exact fun hempty => hfound (congrArg some hempty)
    · decide

theorem SpellsRecipe.program_ne_empty {standard : Shell} {v : Json} {t : Template}
    (hstandard : standard.program ≠ "") (h : SpellsRecipe standard v t) : t.shell.program ≠ "" := by
  cases v with
  | object members =>
    rcases h.fields .shell with ⟨v, -, hv⟩ | ⟨-, hdefault⟩
    · exact program_ne_empty_of_spells hv
    · obtain rfl : standard = t.shell := Option.some.inj hdefault
      exact hstandard
  | list items =>
    obtain ⟨v, hv, -⟩ := exists_of_forall₂ h h .shell (Field.mem_all _)
    exact program_ne_empty_of_spells hv
  | _ => exact h.elim

/-- a recipe with a shell is valid if its target is not blank and its library extension is not
empty -/
theorem validate_recipe_iff {t : Template} (ht : t.shell.program ≠ "") :
    t.recipe.validate = .ok () ↔
      (∃ c ∈ t.target.toList, Text.isBlank c = false) ∧ t.libraryExt ≠ "" := by
  rw [Recipe.validate_eq_ok_iff, ← isBlankText_eq_false_iff]
  have hprogram : t.recipe.shell.program.isEmpty = false := by
    simpa [Template.recipe] using ht
  have hext : t.recipe.libraryExt.isEmpty = false ↔ t.libraryExt ≠ "" := by
    simp [Template.recipe]
  rw [hprogram, hext]
  simp [Template.recipe]

/-! ## texts that are recipes -/

theorem ofText_of_read {standard : Shell} {text : String} {v : Json}
    (hread : Json.read text = ⟨v, none⟩) :
    Template.ofText standard text = Template.ofJson standard v := by
  have hend : Template.ofText standard text = atEnd ⟨v, none⟩ (Template.ofJson standard v) := by
    rw [Template.ofText, hread]
  rw [hend]
  cases Template.ofJson standard v with
  | error e => rfl
  | ok t => rfl

/-- A document without faults is accepted exactly if it is in the recipe format.  The recipe has
what the document gives and the defaults of what it leaves out, whatever the order of its
members is, and it is valid exactly if its target is not blank and its library extension is not
empty. -/
theorem ofText_accepts (named found : Option String) (text : String) (v : Json)
    (hfound : found ≠ some "") (hread : Json.read text = ⟨v, none⟩) (hv : v.intact = true) :
    ((∃ t, Template.ofText (.default named found) text = .ok t) ↔ IsRecipe v) ∧
      ∀ t, Template.ofText (.default named found) text = .ok t →
        SpellsRecipe (.default named found) v t ∧
          (∀ text' members members', v = .object members →
            Json.read text' = ⟨.object members', none⟩ → members'.intact = true →
            members.toList.Perm members'.toList →
              Template.ofText (.default named found) text' = .ok t) ∧
          (t.recipe.validate = .ok () ↔
            (∃ c ∈ t.target.toList, Text.isBlank c = false) ∧ t.libraryExt ≠ "") := by
  rw [ofText_of_read hread]
  refine ⟨exists_ofJson_iff hv _, fun t ht => ?_⟩
  have hspells := spells_of_ofJson ht
  refine ⟨hspells, ?_, ?_⟩
  · rintro text' members members' rfl hread' hv' hperm
    rw [ofText_of_read hread']
    exact ofJson_of_spells (v := .object members') hv' (SpelledBy.perm hperm hspells)
  · exact validate_recipe_iff (hspells.program_ne_empty (program_default_ne_empty hfound))

/-- members of a recipe that leaves three fields out and has a source in each spelling -/
def sampleMembers : List (String × Json) :=
  [("sources", .list (.ofList [.string "a.c",
      .object (.ofList [("comment", .null), ("path", .string "é.c")])])),
    ("target", .string "demo"), ("shell", .string " bash \t-l"), ("object_command", .string "cc"),
    ("library_command", .string "ld")]

def sampleTemplate : Template :=
  ⟨⟨"bash", ["-l"]⟩, "", "cc", "ld", "demo", ".o", ".so", ["a.c", "é.c"]⟩

/-- it is accepted and valid, and read alike from the reversed members -/
theorem ofText_accepts_sample :
    IsRecipe (.object (.ofList sampleMembers)) ∧
      Template.ofText (.default none none) (Json.object (.ofList sampleMembers)).write =
        .ok sampleTemplate ∧
      Template.ofText (.default none none) (Json.object (.ofList sampleMembers.reverse)).write =
        .ok sampleTemplate ∧
      sampleTemplate.recipe.validate = .ok () := by
  have hread : Json.read (Json.object (.ofList sampleMembers)).write = ⟨_, none⟩ :=
    Json.read_write rfl (by decide)
  have hread' : Json.read (Json.object (.ofList sampleMembers.reverse)).write = ⟨_, none⟩ :=
    Json.read_write rfl (by decide)
  have hsample : Template.ofText (.default none none)
      (Json.object (.ofList sampleMembers)).write = .ok sampleTemplate :=
    eq_ok_of_toOption (by decide +kernel)
  obtain ⟨hiff, hall⟩ := ofText_accepts none none _ _ (by decide) hread rfl
  obtain ⟨-, hperm, hvalid⟩ := hall _ hsample
  refine ⟨hiff.mp ⟨_, hsample⟩, hsample, ?_, hvalid.mpr ⟨⟨'d', ?_, ?_⟩, ?_⟩⟩
  · refine hperm _ _ _ rfl hread' rfl ?_
    rw [Json.Members.toList_ofList, Json.Members.toList_ofList]
    exact (List.reverse_perm _).symm
  · simp [sampleTemplate]
  · decide
  · decide

end ShellWorkers
