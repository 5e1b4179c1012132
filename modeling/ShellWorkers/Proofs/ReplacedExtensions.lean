import Mathlib.Data.List.DropRight
import ShellWorkers.Proofs.ObjectPaths

/-!
# An object replaces the extension of its source

The object of a source has the text of the source up to its file name, then the stem of that name,
a dot, and the extension of objects without its leading dots.  Directories with dots in their names,
separators and single dots behind the file name, and names that begin with a dot make no difference.

* `last?_eq_none_iff`         the paths without a file name;
* `last?_append`              the parts of a path that is put together from them;
* `parent?_eq_leadDirectory`  the directory of a file depends on what stands before its name;
* `splitExtension_append`     a name is cut behind its stem again;
* `ReplacesExtension`         what an object has of its source;
* `object_replaces_extension` every object has it, and a path without a file name is its own object.
-/

namespace ShellWorkers

namespace Path

/-! ## separators and single dots at the end -/

/-- a reversed path at whose end nothing is skipped -/
def IsTrimmed (r : List Char) : Prop := (∀ t, r ≠ '/' :: t) ∧ ∀ t, r ≠ '.' :: '/' :: t

theorem isTrimmed_dropJunk (r : List Char) : IsTrimmed (dropJunk r) := by
  induction r using dropJunk.induct with
  | case1 r ih => rwa [dropJunk]
  | case2 r ih => rwa [dropJunk]
  | case3 r h h' =>
    have hr : dropJunk r = r := by rw [dropJunk] <;> assumption
    rw [hr]
    exact ⟨h, h'⟩

theorem IsTrimmed.dropJunk_eq {r : List Char} (h : IsTrimmed r) : dropJunk r = r := by
  rw [dropJunk]
  · exact h.1
  · exact h.2

/-- what is skipped at the end of a path holds no component that counts -/
theorem components_dropJunk (r : List Char) :
    components (dropJunk r).reverse = components r.reverse := by
  induction r using dropJunk.induct with
  | case1 r ih =>
    rw [dropJunk, ih, List.reverse_cons, components_append]
    exact (List.append_nil _).symm
  | case2 r ih =>
    rw [dropJunk, ih, List.reverse_cons, List.reverse_cons, List.append_assoc,
      List.singleton_append, components_append]
    exact (List.append_nil _).symm
  | case3 r h h' => rw [IsTrimmed.dropJunk_eq ⟨h, h'⟩]

/-- nothing is skipped behind a name -/
theorem isTrimmed_append {name : List Char} (hn : IsName name) (before : List Char) :
    IsTrimmed (before ++ name).reverse := by
  obtain ⟨start, c, rfl⟩ := (List.eq_nil_or_concat' name).resolve_left hn.nonempty
  have hc : c ≠ '/' := fun h => hn.separator (by simp [h])
  rw [List.reverse_append, List.reverse_concat, List.cons_append]
  refine ⟨fun t h => hc (List.cons.inj h).1, fun t h => ?_⟩
  obtain rfl := (List.cons.inj h).1
  rcases List.eq_nil_or_concat' start with rfl | ⟨start, d, rfl⟩
  · exact hn.dot rfl
  · rw [List.reverse_concat, List.cons_append] at h
    obtain rfl : d = '/' := by simpa using (List.cons.inj (List.cons.inj h).2).1
    exact hn.separator (by simp)

/-! ## the last component -/

theorem takeWhile_lead {before name : List Char} (hb : IsLead before) (hn : '/' ∉ name) :
    (before ++ name).reverse.takeWhile (· != '/') = name.reverse ∧
      (before ++ name).reverse.dropWhile (· != '/') = before.reverse := by
  have hname : ∀ c ∈ name.reverse, (c != '/') = true := by
    intro c hc
    rw [bne_iff_ne]
    rintro rfl
    exact hn (List.mem_reverse.mp hc)
  have hbefore : before.reverse.takeWhile (· != '/') = [] ∧
      before.reverse.dropWhile (· != '/') = before.reverse := by
    rcases hb with rfl | ⟨dir, rfl⟩
    · exact ⟨rfl, rfl⟩
    · rw [List.reverse_concat]
      exact ⟨rfl, rfl⟩
  rw [List.reverse_append, List.takeWhile_append_of_pos hname, List.dropWhile_append_of_pos hname,
    hbefore.1, hbefore.2, List.append_nil]
  exact ⟨rfl, rfl⟩

/-- the parts of a path that is put together from them -/
theorem last?_append {before name : List Char} (hb : IsLead before) (hn : IsName name)
    (hdots : name ≠ ['.', '.']) : last? (before ++ name) = some ⟨before, name⟩ := by
  obtain ⟨htake, hdrop⟩ := takeWhile_lead hb hn.separator
  rw [last?, (isTrimmed_append hn before).dropJunk_eq]
  simp only [htake, hdrop, List.reverse_reverse]
  simp [hn.nonempty, hn.dot, hdots]

/-- every path, without what is skipped at its end -/
theorem exists_lead (path : List Char) :
    ∃ before name, (dropJunk path.reverse).reverse = before ++ name ∧ IsLead before ∧
      '/' ∉ name ∧ (name = [] ∨ name = ['.'] → before = []) := by
  have htrimmed := isTrimmed_dropJunk path.reverse
  generalize dropJunk path.reverse = r at htrimmed
  have hstop := List.head?_dropWhile_not (· != '/') r
  have hsplit := List.takeWhile_append_dropWhile (p := (· != '/')) (l := r)
  refine ⟨(r.dropWhile (· != '/')).reverse, (r.takeWhile (· != '/')).reverse, ?_, ?_, ?_, ?_⟩
  · rw [← List.reverse_append, hsplit]
  · cases hbefore : r.dropWhile (· != '/') with
    | nil => exact Or.inl rfl
    | cons c before =>
      rw [hbefore] at hstop
      obtain rfl : c = '/' := by simpa using hstop
      exact Or.inr ⟨before.reverse, List.reverse_cons⟩
  · intro hmem
    have hsep := List.all_eq_true.mp List.all_takeWhile _ (List.mem_reverse.mp hmem)
    exact absurd hsep (by decide)
  · intro hname
    cases hbefore : r.dropWhile (· != '/') with
    | nil => rfl
    | cons c before =>
      rw [hbefore] at hstop hsplit
      obtain rfl : c = '/' := by simpa using hstop
      -- the separator would have been skipped
      rcases hname with hname | hname
      · rw [List.reverse_eq_nil_iff.mp hname] at hsplit
        exact absurd hsplit.symm (htrimmed.1 before)
      · rw [List.reverse_eq_iff.mp hname] at hsplit
        exact absurd hsplit.symm (htrimmed.2 before)

/-- The paths without a file name: no component counts, or the last one leads up. -/
theorem last?_eq_none_iff {path : List Char} :
    last? path = none ↔ ∀ name ∈ (components path).getLast?, name = ['.', '.'] := by
  obtain ⟨before, name, hpath, hb, hsep, hstart⟩ := exists_lead path
  have hcomponents : components path = components (before ++ name) := by
    rw [← hpath, components_dropJunk, List.reverse_reverse]
  have hr : dropJunk path.reverse = (before ++ name).reverse := by
    rw [← hpath, List.reverse_reverse]
  obtain ⟨htake, hdrop⟩ := takeWhile_lead hb hsep
  rw [last?, hr, hcomponents]
  simp only [htake, hdrop, List.reverse_reverse]
  by_cases hskipped : name = [] ∨ name = ['.']
  · have hnothing : components (before ++ name) = [] := by
      rw [hstart hskipped]
      rcases hskipped with rfl | rfl <;> rfl
    rw [hnothing]
    rcases hskipped with rfl | rfl <;> simp
  · rw [not_or] at hskipped
    have hname : IsName name := ⟨hsep, hskipped.1, hskipped.2⟩
    have hlast : components (before ++ name) = components before ++ [name] :=
      congrArg Steps.names (steps_append hb hname)
    rw [hlast, List.getLast?_concat]
    simp [hskipped.1, hskipped.2]

/-! ## the directory -/

/-- the directory that a path has whose file name stands behind `before` -/
def leadDirectory (before : List Char) : String :=
  let dir := (dropJunk before.reverse).reverse
  if dir.isEmpty && before.head? == some '/' then "/" else String.ofList dir

/-- the directory of a file depends on what stands before its name -/
theorem parent?_eq_leadDirectory {path : String} {l : Last} (h : last? path.toList = some l) :
    parent? path = some (leadDirectory l.before) := by
  obtain ⟨hlead, hname, junk, hpath⟩ := last?_eq_some h
  have habsolute : isAbsolute path = (l.before.head? == some '/') := by
    rw [isAbsolute, hpath]
    rcases hlead with hbefore | ⟨dir, hbefore⟩
    · have hhead : (l.name ++ junk).head? ≠ some '/' := by
        rw [List.head?_append_of_ne_nil _ hname.nonempty]
        exact fun hs => hname.separator (List.mem_of_mem_head? hs)
      rw [hbefore, List.nil_append, beq_eq_false_iff_ne.mpr hhead]
      rfl
    · have hne : l.before ≠ [] := by simp [hbefore]
      rw [List.head?_append_of_ne_nil _ hne]
  unfold last? at h
  simp only at h
  split at h
  · cases h
  next hfile =>
  obtain rfl := Option.some.inj h
  have hne : (dropJunk path.toList.reverse).isEmpty = false := by
    rw [List.isEmpty_eq_false_iff]
    intro hnil
    rw [hnil] at hfile
    exact hfile rfl
  rw [parent?, habsolute]
  simp only [hne, leadDirectory, List.reverse_reverse, Bool.false_eq_true, if_false]

/-! ## the extension -/

/-- a name is cut behind its stem again, if there is no dot in its extension -/
theorem splitExtension_append {stem ext : List Char} (hstem : stem ≠ []) (hext : '.' ∉ ext) :
    splitExtension (stem ++ '.' :: ext) = (stem, some ext) := by
  have hdots : ∀ c ∈ ext.reverse, (c != '.') = true := by
    intro c hc
    rw [bne_iff_ne]
    rintro rfl
    exact hext (List.mem_reverse.mp hc)
  have hdrop : (ext.reverse ++ '.' :: stem.reverse).dropWhile (· != '.') = '.' :: stem.reverse := by
    rw [List.dropWhile_append_of_pos hdots]
    rfl
  have htake : (ext.reverse ++ '.' :: stem.reverse).takeWhile (· != '.') = ext.reverse := by
    rw [List.takeWhile_append_of_pos hdots]
    exact List.append_nil _
  obtain ⟨c, rest, hreverse⟩ := List.exists_cons_of_ne_nil (List.reverse_ne_nil_iff.mpr hstem)
  rw [splitExtension, List.reverse_append, List.reverse_cons, List.append_assoc,
    List.singleton_append, hdrop, htake]
  simp only [hreverse]
  rw [← hreverse, List.reverse_reverse, List.reverse_reverse]

/-- the name of a file whose stem is not a single dot, with another extension -/
theorem replaceExtension?_of_stem {path ext : List Char} {l : Last} (hl : last? path = some l)
    (hstem : (splitExtension l.name).1 ≠ ['.']) (hsep : '/' ∉ ext) :
    replaceExtension? path ext =
      some (l.before ++ withExtension (splitExtension l.name).1 ext) := by
  obtain ⟨before, name⟩ := l
  rw [replaceExtension?, if_neg hsep]
  simp only [hl]
  split
  · next hsplit => exact absurd (congrArg Prod.fst hsplit) hstem
  · next hsplit => rw [hsplit]

theorem withExtension_of_ne_nil {ext : List Char} (hne : ext ≠ []) (stem : List Char) :
    withExtension stem ext = stem ++ '.' :: ext := by
  obtain ⟨c, ext, rfl⟩ := List.exists_cons_of_ne_nil hne
  exact withExtension_cons stem c ext

/-- the stem of a file and an extension make up a name, and it is the last one of its path -/
theorem last?_withExtension {path ext : List Char} {l : Last} (hl : last? path = some l)
    (hne : ext ≠ []) (hsep : '/' ∉ ext) :
    IsName ((splitExtension l.name).1 ++ '.' :: ext) ∧
      last? (l.before ++ ((splitExtension l.name).1 ++ '.' :: ext)) =
        some ⟨l.before, (splitExtension l.name).1 ++ '.' :: ext⟩ := by
  obtain ⟨hlead, hname, -⟩ := last?_eq_some hl
  obtain ⟨hbegins, hstem⟩ := splitExtension_stem hname.nonempty
  have hmade : MadeOf (splitExtension l.name).1 ext ((splitExtension l.name).1 ++ '.' :: ext) :=
    Or.inl (withExtension_of_ne_nil hne _).symm
  have hobject := hmade.isName ⟨hstem, fun _ => hne⟩
    (fun hs => hname.separator (hbegins.subset hs)) hsep
  have hdots : (splitExtension l.name).1 ++ '.' :: ext ≠ ['.', '.'] := by
    intro h
    have hlength := congrArg List.length h
    have hpos := List.length_pos_iff.mpr hstem
    have hpos' := List.length_pos_iff.mpr hne
    simp only [List.length_append, List.length_cons, List.length_nil] at hlength
    omega
  exact ⟨hobject, last?_append hlead hobject hdots⟩

end Path

/-! ## objects -/

/-- what an object has of its source -/
structure ReplacesExtension (ext source object : String) (l : Path.Last) : Prop where
  value : objectPath source ext = .ok object
  text : object.toList =
    l.before ++ ((Path.splitExtension l.name).1 ++ '.' :: bareExtension ext)
  name : Path.last? object.toList =
    some ⟨l.before, (Path.splitExtension l.name).1 ++ '.' :: bareExtension ext⟩
  parent : Path.parent? object = Path.parent? source
  /-- it does not end in a separator -/
  bare : object.toList.getLast? ≠ some '/'
  /-- the dots before the extension do not count -/
  dots : ∀ n, objectPath source (String.ofList (List.replicate n '.' ++ bareExtension ext)) =
    .ok object
  /-- it is its own object -/
  again : '.' ∉ bareExtension ext → objectPath object ext = .ok object

/-- an extension without the dots before it is the same with any -/
theorem bareExtension_replicate (n : Nat) (ext : String) :
    bareExtension (String.ofList (List.replicate n '.' ++ bareExtension ext)) =
      bareExtension ext := by
  have hdots : ∀ c ∈ List.replicate n '.', (c == '.') = true :=
    fun c hc => beq_iff_eq.mpr (List.eq_of_mem_replicate hc)
  rw [bareExtension, String.toList_ofList, List.dropWhile_append_of_pos hdots, bareExtension,
    List.dropWhile_idempotent]

/-- the object of a source whose stem is not a single dot -/
theorem objectPath_of_stem {source ext : String} {l : Path.Last}
    (hl : Path.last? source.toList = some l) (hstem : (Path.splitExtension l.name).1 ≠ ['.'])
    (hsep : '/' ∉ bareExtension ext) :
    objectPath source ext = .ok (String.ofList
      (l.before ++ Path.withExtension (Path.splitExtension l.name).1 (bareExtension ext))) := by
  rw [objectPath]
  have hreplace := Path.replaceExtension?_of_stem hl hstem hsep
  rw [bareExtension] at hreplace ⊢
  rw [hreplace]

theorem replacesExtension {ext source : String} {l : Path.Last}
    (hl : Path.last? source.toList = some l) (hstem : (Path.splitExtension l.name).1 ≠ ['.'])
    (hne : bareExtension ext ≠ []) (hsep : '/' ∉ bareExtension ext) :
    ∃ object, ReplacesExtension ext source object l := by
  obtain ⟨hobject, hlast⟩ := Path.last?_withExtension hl hne hsep
  have hwith := Path.withExtension_of_ne_nil hne (Path.splitExtension l.name).1
  refine ⟨String.ofList (l.before ++ ((Path.splitExtension l.name).1 ++ '.' :: bareExtension ext)),
    ?_, String.toList_ofList, ?_, ?_, ?_, fun n => ?_, fun hdot => ?_⟩
  · rw [objectPath_of_stem hl hstem hsep, hwith]
  · rw [String.toList_ofList, hlast]
  · have hfile := congrArg Path.last? (String.toList_ofList (l := l.before ++
      ((Path.splitExtension l.name).1 ++ '.' :: bareExtension ext)))
    exact (Path.parent?_eq_leadDirectory (hfile.trans hlast)).trans
      (Path.parent?_eq_leadDirectory hl).symm
  · rw [String.toList_ofList, List.getLast?_append_of_ne_nil _ hobject.nonempty]
    exact fun hs => hobject.separator (List.mem_of_getLast? hs)
  · rw [objectPath_of_stem hl hstem (by rwa [bareExtension_replicate]), bareExtension_replicate,
      hwith]
  · obtain ⟨-, hname, -⟩ := Path.last?_eq_some hl
    have hsplit := Path.splitExtension_append (Path.splitExtension_stem hname.nonempty).2 hdot
    rw [objectPath_of_stem (l := ⟨l.before, _⟩) (by rw [String.toList_ofList, hlast]) (by
      rwa [hsplit]) hsep, hsplit, hwith]

/-- **An object replaces exactly the extension of its source.**  It has the directory and the stem
of its source however the path is written, and is its own object; a path without a file name is its
own object, too. -/
theorem object_replaces_extension {ext : String} (hsep : '/' ∉ bareExtension ext)
    (source : String) :
    (∀ l, Path.last? source.toList = some l → (Path.splitExtension l.name).1 ≠ ['.'] →
      bareExtension ext ≠ [] → ∃ object, ReplacesExtension ext source object l) ∧
    ((∀ name ∈ (Path.components source.toList).getLast?, name = ['.', '.']) →
      objectPath source ext = .ok source) := by
  refine ⟨fun l hl hstem hne => replacesExtension hl hstem hne hsep, fun hnone => ?_⟩
  have hlast := Path.last?_eq_none_iff.mpr hnone
  rw [bareExtension] at hsep
  rw [objectPath, Path.replaceExtension?, if_neg hsep, hlast]
  simp only [String.ofList_toList]

/-- a hidden file with two extensions, in directories with dots in their names -/
theorem object_replaces_extension_hidden :
    (∃ object, ReplacesExtension "..o" "./a.b//.x.tar.gz/./" object
      ⟨"./a.b//".toList, ".x.tar.gz".toList⟩) ∧
    objectPath "./a.b//.x.tar.gz/./" "..o" = .ok "./a.b//.x.tar.o" ∧
    objectPath "a.b/../." "..o" = .ok "a.b/../." := by
  have hsep : '/' ∉ bareExtension "..o" := by decide
  refine ⟨?_, by decide, ?_⟩
  · exact (object_replaces_extension hsep "./a.b//.x.tar.gz/./").1 _ rfl (by decide)
      (by decide)
  · exact (object_replaces_extension hsep "a.b/../.").2 (by decide)

end ShellWorkers
