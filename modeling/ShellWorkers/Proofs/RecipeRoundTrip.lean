import ShellWorkers.Proofs.RecipeDocuments

/-!
# Recipes that are written and read again

A recipe is written in one way and read in many: with its shell behind any blanks, with sources
in two spellings, with fields left out.  What was read from a text that names a shell is written
so that it is read as the same recipe, and then written as the same text.

A shell comes back from its line exactly if its parts are words: `ofText_toText_iff`.  The parts
of a shell that was read are words (`isWords_of_spells`); those of a default shell need not be.
-/

namespace ShellWorkers

/-! ## lines of shells -/

/-- the program and the arguments hold no blanks, and none is empty -/
def Shell.IsWords (s : Shell) : Prop :=
  ∀ w ∈ s.program :: s.args, w ≠ "" ∧ ∀ c ∈ w.toList, Text.isBlank c = false

/-- the line of a shell is its parts joined by single spaces -/
theorem Shell.toList_toLine (s : Shell) :
    s.toLine.toList = List.intercalate [' '] ((s.program :: s.args).map String.toList) := by
  obtain ⟨program, args⟩ := s
  show (args.foldl (fun line arg => line ++ " " ++ arg) program).toList = _
  induction args generalizing program with
  | nil => simp [List.intercalate]
  | cons arg args ih =>
    rw [List.foldl_cons, ih]
    cases args with
    | nil => simp [List.intercalate]
    | cons next args => simp [List.intercalate]

theorem words_toLine {s : Shell} (h : s.IsWords) :
    Text.words s.toLine = s.program :: s.args := by
  have hwords : ∀ w ∈ (s.program :: s.args).map String.toList,
      w ≠ [] ∧ ∀ c ∈ w, Text.isBlank c = false := by
    intro w hw
    obtain ⟨part, hpart, rfl⟩ := List.mem_map.mp hw
    obtain ⟨hne, hblank⟩ := h part hpart
    exact ⟨fun hnil => hne (String.toList_eq_nil_iff.mp hnil), hblank⟩
  rw [Text.words, Shell.toList_toLine, Text.words_join _ hwords, List.map_map]
  simp

theorem isWords_of_words {line : String} {s : Shell}
    (h : Text.words line = s.program :: s.args) : s.IsWords := by
  intro w hw
  rw [← h] at hw
  obtain ⟨cs, hcs, rfl⟩ := List.mem_map.mp hw
  obtain ⟨hne, hblank⟩ := Text.wordsOf_spec line.toList cs hcs
  rw [String.toList_ofList]
  exact ⟨fun hempty => hne (String.ofList_eq_empty_iff.mp hempty), hblank⟩

/-- a line spells the shell that it was written for exactly if the shell is made of words -/
theorem spellsShell_toLine_iff (s : Shell) : SpellsShell (.string s.toLine) s ↔ s.IsWords := by
  constructor
  · rintro ⟨line, -, hline⟩
    exact isWords_of_words hline
  · intro h
    exact ⟨s.toLine, rfl, words_toLine h⟩

/-! ## what a written recipe spells -/

theorem spellsSource_sourceJson (path : String) : SpellsSource (Template.sourceJson path) path :=
  .detailed _ path rfl

theorem spellsSources_sourceJson (paths : List String) :
    SpellsSources (.list (.ofList (paths.map Template.sourceJson))) paths := by
  refine ⟨_, rfl, ?_⟩
  rw [Json.Items.toList_ofList]
  induction paths with
  | nil => exact .nil
  | cons path paths ih => exact .cons (spellsSource_sourceJson path) ih

/-- a value of a field as it is written -/
def Field.written : (f : Field) → f.Value → Json
  | .shell, s => .string s.toLine
  | .initCommand, text => .string text
  | .objectCommand, text => .string text
  | .libraryCommand, text => .string text
  | .target, text => .string text
  | .objectExt, text => .string text
  | .libraryExt, text => .string text
  | .sources, paths => .list (.ofList (paths.map Template.sourceJson))

theorem Template.toJson_eq (t : Template) :
    t.toJson = .object (.ofList (Field.all.map fun f => (f.name, f.written (t.get f)))) := rfl

/-- what is written for a field spells it, but for a shell that is not made of words -/
theorem spells_written {t : Template} (h : t.shell.IsWords) (f : Field) :
    f.Spells (f.written (t.get f)) (t.get f) := by
  cases f with
  | shell => exact (spellsShell_toLine_iff t.shell).mpr h
  | sources => exact spellsSources_sourceJson t.sources
  | _ => rfl

/-- a written recipe spells itself if its shell is made of words -/
theorem spells_toJson {t : Template} (h : t.shell.IsWords) (standard : Shell) :
    SpellsRecipe standard t.toJson t := by
  rw [Template.toJson_eq]
  show SpelledBy standard (Json.Members.toList (.ofList _)) t
  rw [Json.Members.toList_ofList]
  refine ⟨fun m hm => ?_, ?_, fun f => .inl ⟨_, ?_, spells_written h f⟩⟩
  · obtain ⟨f, -, rfl⟩ := List.mem_map.mp hm
    exact ⟨f, rfl⟩
  · rw [List.map_map]
    show (Field.all.map Field.name).Nodup
    decide
  · exact List.mem_map.mpr ⟨f, Field.mem_all f, rfl⟩

/-! ## the text of a written recipe -/

theorem plain_sources (paths : List String) :
    (Json.Items.ofList (paths.map Template.sourceJson)).plain = true ∧
      (Json.Items.ofList (paths.map Template.sourceJson)).depth ≤ 1 := by
  induction paths with
  | nil => exact ⟨rfl, Nat.zero_le 1⟩
  | cons path paths ih => exact ⟨ih.1, Nat.max_le.mpr ⟨Nat.le_refl 1, ih.2⟩⟩

theorem plain_written (f : Field) (x : f.Value) :
    (f.written x).plain = true ∧ (f.written x).depth ≤ 2 := by
  cases f with
  | sources =>
    obtain ⟨hplain, hdepth⟩ := plain_sources x
    exact ⟨hplain, Nat.succ_le_succ hdepth⟩
  | _ => exact ⟨rfl, Nat.zero_le 2⟩

theorem plain_members {members : List (String × Json)} {bound : Nat}
    (h : ∀ m ∈ members, m.2.plain = true ∧ m.2.depth ≤ bound) :
    (Json.Members.ofList members).plain = true ∧ (Json.Members.ofList members).depth ≤ bound := by
  induction members with
  | nil => exact ⟨rfl, Nat.zero_le bound⟩
  | cons m members ih =>
    obtain ⟨hm, hmembers⟩ := List.forall_mem_cons.mp h
    obtain ⟨hplain, hdepth⟩ := ih hmembers
    exact ⟨Bool.and_eq_true_iff.mpr ⟨hm.1, hplain⟩, Nat.max_le.mpr ⟨hm.2, hdepth⟩⟩

theorem plain_toJson (t : Template) : t.toJson.plain = true ∧ t.toJson.depth ≤ 3 := by
  have hwritten : ∀ m ∈ Field.all.map fun f => (f.name, f.written (t.get f)),
      m.2.plain = true ∧ m.2.depth ≤ 2 := by
    intro m hm
    obtain ⟨f, -, rfl⟩ := List.mem_map.mp hm
    exact plain_written f (t.get f)
  obtain ⟨hplain, hdepth⟩ := plain_members hwritten
  exact ⟨hplain, Nat.succ_le_succ hdepth⟩

/-- a written recipe is the document that its text holds -/
theorem read_toText (t : Template) : Json.read t.toText = ⟨t.toJson, none⟩ := by
  obtain ⟨hplain, hdepth⟩ := plain_toJson t
  exact Json.read_write hplain (Nat.le_trans hdepth (by decide))

/-! ## what was read is read again -/

/-- the document names a shell: it has a member of that name, or is a list, which has an item
for every field -/
def namesShell : Json → Bool
  | .object members => members.toList.any (·.1 = "shell")
  | .list _ => true
  | _ => false

/-- a shell that a document names is made of words -/
theorem isWords_of_spells {standard : Shell} {v : Json} {t : Template}
    (h : SpellsRecipe standard v t) (hshell : namesShell v = true) : t.shell.IsWords := by
  cases v with
  | object members =>
    obtain ⟨m, hm, hname⟩ := List.any_eq_true.mp hshell
    rcases h.fields .shell with ⟨v, -, line, -, hline⟩ | ⟨habsent, -⟩
    · exact isWords_of_words hline
    · refine absurd (List.mem_map.mpr ⟨m, hm, ?_⟩) habsent
      exact of_decide_eq_true hname
  | list items =>
    obtain ⟨v, ⟨line, -, hline⟩, -⟩ := exists_of_forall₂ h h .shell (Field.mem_all _)
    exact isWords_of_words hline
  | _ => exact h.elim

/-- a recipe is read back from its text exactly if its shell is made of words -/
theorem ofText_toText_iff (t : Template) (standard : Shell) :
    Template.ofText standard t.toText = .ok t ↔ t.shell.IsWords := by
  rw [ofText_of_read (read_toText t)]
  constructor
  · intro h
    exact isWords_of_spells (spells_of_ofJson h) rfl
  · intro h
    exact ofJson_of_spells (Json.intact_of_plain _ (plain_toJson t).1) (spells_toJson h standard)

theorem ofJson_of_ofText {standard : Shell} {text : String} {t : Template}
    (h : Template.ofText standard text = .ok t) :
    Template.ofJson standard (Json.read text).value = .ok t := by
  obtain ⟨u, hu, h⟩ := exists_of_bind_eq_ok h
  cases htrailing : (Json.read text).trailing with
  | some fault =>
    rw [htrailing] at h
    exact nomatch h
  | none =>
    rw [htrailing] at h
    obtain rfl := Except.ok.inj h
    exact hu

/-- What was read from a text that names a shell is written as a text from which the same recipe
is read, whatever the shell of recipes that name none is, and it is written as that text again. -/
theorem ofText_toText {standard : Shell} {text : String} {t : Template}
    (h : Template.ofText standard text = .ok t)
    (hshell : namesShell (Json.read text).value = true) (other : Shell) :
    Template.ofText other t.toText = .ok t ∧
      (Template.ofText other t.toText).map Template.toText = .ok t.toText := by
  have hwords := isWords_of_spells (spells_of_ofJson (ofJson_of_ofText h)) hshell
  have hread := (ofText_toText_iff t other).mpr hwords
  exact ⟨hread, by rw [hread]; rfl⟩

/-- a text with odd blanks in the line of the shell, escapes, and sources in both spellings -/
def spacedText : String :=
  "\x7b \"shell\": \"\\u3000bash\\t  -l\u00a0\", \"target\": \"d\\u00e9mo \u20ac\", \n" ++
    "\"sources\": [\"a.c\", \x7b\"path\": \"\\ud834\\udd1e.c\", \"flags\": []\x7d], " ++
    "\"object_command\": \"cc \\\"x\\\"\\u0001\", \"library_command\": \"ld\" \x7d"

def spacedTemplate : Template :=
  ⟨⟨"bash", ["-l"]⟩, "", "cc \"x\"\x01", "ld", "démo €", ".o", ".so", ["a.c", "𝄞.c"]⟩

theorem ofText_toText_spaced :
    Template.ofText .standard spacedText = .ok spacedTemplate ∧
      Template.ofText .standard spacedTemplate.toText = .ok spacedTemplate := by
  have hsample : Template.ofText .standard spacedText = .ok spacedTemplate :=
    eq_ok_of_toOption (by decide +kernel)
  have hshell : namesShell (Json.read spacedText).value = true := by decide +kernel
  exact ⟨hsample, (ofText_toText hsample hshell .standard).1⟩

end ShellWorkers
