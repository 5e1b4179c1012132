import Mathlib.Data.List.TakeWhile
import ShellWorkers.Proofs.BuildPhases
import ShellWorkers.Proofs.RecipeFields
import ShellWorkers.Proofs.WorkingDirectories

/-!
# Objects of different sources

The object of a source has its directory and its stem; the extension of the source is lost.  So
sources that differ in directory or stem have different objects, and sources that differ in their
extension only share one.

* `Steps`, `Trunk`           what makes two paths the same, and what an object keeps of its source;
* `last?_eq_some`            the parts of a path that names a file;
* `MadeOf`                   the file names that replacing an extension makes;
* `steps_objectPath`         an object lies where its source does;
* `objects_distinct`         the objects of a build;
* `objects_clash`            sources without objects of their own.
-/

namespace ShellWorkers

open ShellWorkers.Action

/-! ## paths -/

namespace Path

/-- What a path says, step by step.  Two texts with the same steps are the same path. -/
structure Steps where
  /-- whether it starts at the root -/
  rooted : Bool
  /-- whether it starts with a single dot -/
  dotted : Bool
  names : List (List Char)
  deriving DecidableEq, Repr

def steps (path : List Char) : Steps :=
  ⟨path.head? == some '/', path.takeWhile (· != '/') == ['.'], components path⟩

/-- the steps to a name behind the steps to its directory -/
def Steps.down (s : Steps) (name : List Char) : Steps := { s with names := s.names ++ [name] }

theorem Steps.down_inj {s s' : Steps} {name name' : List Char} :
    s.down name = s'.down name' ↔ s = s' ∧ name = name' := by
  constructor
  · intro h
    obtain ⟨hrooted, hdotted, hnames⟩ := Steps.mk.inj h
    obtain ⟨hnames, hname⟩ := List.append_inj' hnames rfl
    refine ⟨?_, List.singleton_inj.mp hname⟩
    cases s
    cases s'
    rw [Steps.mk.injEq]
    exact ⟨hrooted, hdotted, hnames⟩
  · rintro ⟨rfl, rfl⟩
    rfl

/-- a path behind which a name can stand -/
def IsLead (before : List Char) : Prop := before = [] ∨ ∃ dir, before = dir ++ ['/']

theorem takeWhile_append_separator (dir rest : List Char) :
    (dir ++ '/' :: rest).takeWhile (· != '/') = dir.takeWhile (· != '/') := by
  induction dir with
  | nil => rfl
  | cons c dir ih => rw [List.cons_append, List.takeWhile_cons, List.takeWhile_cons, ih]

/-- a name behind the path of a directory is one step more -/
theorem steps_append {before name : List Char} (hb : IsLead before) (hn : IsName name) :
    steps (before ++ name) = (steps before).down name := by
  rcases hb with rfl | ⟨dir, rfl⟩
  · have hhead : name.head? ≠ some '/' := fun h => hn.separator (List.mem_of_mem_head? h)
    have htake : name.takeWhile (· != '/') = name :=
      List.takeWhile_eq_self_iff.mpr fun c hc => by
        rw [bne_iff_ne]
        rintro rfl
        exact hn.separator hc
    rw [List.nil_append, steps, htake, components_name hn, beq_eq_false_iff_ne.mpr hhead,
      beq_eq_false_iff_ne.mpr hn.dot]
    rfl
  · have hhead : (dir ++ ['/'] ++ name).head? = (dir ++ ['/']).head? :=
      List.head?_append_of_ne_nil _ (List.append_ne_nil_of_right_ne_nil _ (List.cons_ne_nil _ _))
    have htake : (dir ++ ['/'] ++ name).takeWhile (· != '/') =
        (dir ++ ['/']).takeWhile (· != '/') := by
      rw [List.append_assoc, List.singleton_append, takeWhile_append_separator,
        takeWhile_append_separator]
    have hnames : components (dir ++ ['/'] ++ name) = components (dir ++ ['/']) ++ [name] := by
      rw [List.append_assoc, List.singleton_append, components_append, components_append,
        components_name hn]
      simp [components, List.splitOn]
    rw [steps, hhead, htake, hnames]
    rfl

/-- the part of a path behind its last component is cut off -/
theorem dropJunk_suffix (r : List Char) : dropJunk r <:+ r := by
  induction r using dropJunk.induct with
  | case1 r ih => exact ih.trans (List.suffix_cons _ _)
  | case2 r ih => exact ih.trans ((List.suffix_cons _ _).trans (List.suffix_cons _ _))
  | case3 r h h' =>
    have hr : dropJunk r = r := by rw [dropJunk] <;> assumption
    exact ⟨[], hr⟩

/-- the parts of a path that names a file -/
theorem last?_eq_some {path : List Char} {l : Last} (h : last? path = some l) :
    IsLead l.before ∧ IsName l.name ∧ ∃ junk, path = l.before ++ (l.name ++ junk) := by
  obtain ⟨junk, hjunk⟩ := dropJunk_suffix path.reverse
  unfold last? at h
  generalize hr : dropJunk path.reverse = r at h hjunk
  simp only at h
  split at h
  · exact nomatch h
  next hname =>
  obtain rfl := Option.some.inj h
  simp only [Bool.or_eq_true, decide_eq_true_eq, not_or] at hname
  refine ⟨?_, ⟨?_, hname.1.1, hname.1.2⟩, junk.reverse, ?_⟩
  · have hstop := List.head?_dropWhile_not (· != '/') r
    cases hbefore : r.dropWhile (· != '/') with
    | nil => exact Or.inl rfl
    | cons c before =>
      rw [hbefore] at hstop
      obtain rfl : c = '/' := by simpa using hstop
      exact Or.inr ⟨before.reverse, List.reverse_cons⟩
  · intro hmem
    have hsep := List.all_eq_true.mp List.all_takeWhile _ (List.mem_reverse.mp hmem)
    exact absurd hsep (by decide)
  · have hsplit := List.takeWhile_append_dropWhile (p := (· != '/')) (l := r)
    rw [← List.append_assoc, ← List.reverse_append, hsplit, ← List.reverse_append, hjunk,
      List.reverse_reverse]

/-! ## stems -/

/-- the stem of a name begins it, and is not empty -/
theorem splitExtension_stem {name : List Char} (hne : name ≠ []) :
    (splitExtension name).1 <+: name ∧ (splitExtension name).1 ≠ [] := by
  have hsplit := List.takeWhile_append_dropWhile (p := (· != '.')) (l := name.reverse)
  unfold splitExtension
  simp only
  split
  · exact ⟨List.prefix_refl _, hne⟩
  · exact ⟨List.prefix_refl _, hne⟩
  · next dot stem hmany hdrop =>
    rw [hdrop] at hsplit
    have hname := congrArg List.reverse hsplit
    rw [List.reverse_append, List.reverse_cons, List.reverse_reverse, List.append_assoc] at hname
    exact ⟨⟨_, hname⟩, fun hnil => hmany (List.reverse_eq_nil_iff.mp hnil)⟩

/-- The file names that come of replacing the extension of a name with the stem `stem`.  A stem
that is a single dot can be lost. -/
def MadeOf (stem ext name : List Char) : Prop :=
  name = withExtension stem ext ∨ stem = ['.'] ∧ name = ['.', '.']

theorem replaceExtension?_eq_some {path ext object : List Char} {l : Last}
    (h : replaceExtension? path ext = some object) (hl : last? path = some l) :
    ∃ name, object = l.before ++ name ∧ MadeOf (splitExtension l.name).1 ext name := by
  obtain ⟨before, name⟩ := l
  unfold replaceExtension? at h
  split at h
  · exact nomatch h
  simp only [hl] at h
  split at h
  · next hstem =>
    rw [hstem]
    split at h
    · exact ⟨_, (Option.some.inj h).symm, Or.inl rfl⟩
    · exact ⟨_, (Option.some.inj h).symm, Or.inr ⟨rfl, rfl⟩⟩
  · next stem extension _ hstem =>
    rw [hstem]
    exact ⟨_, (Option.some.inj h).symm, Or.inl rfl⟩

/-- a stem that is a single dot needs an extension -/
def Stands (stem ext : List Char) : Prop := stem ≠ [] ∧ (stem = ['.'] → ext ≠ [])

theorem withExtension_cons (stem : List Char) (c : Char) (ext : List Char) :
    withExtension stem (c :: ext) = stem ++ '.' :: c :: ext := rfl

theorem MadeOf.isName {stem ext name : List Char} (h : MadeOf stem ext name)
    (hstands : Stands stem ext) (hstem : '/' ∉ stem) (hext : '/' ∉ ext) : IsName name := by
  obtain ⟨hne, hdot⟩ := hstands
  rcases h with rfl | ⟨rfl, rfl⟩
  · cases ext with
    | nil => exact ⟨hstem, hne, fun h => hdot h rfl⟩
    | cons c ext =>
      rw [withExtension_cons]
      refine ⟨?_, List.append_ne_nil_of_left_ne_nil hne _, fun h => ?_⟩
      · rw [List.mem_append, List.mem_cons]
        rintro (h | h | h)
        · exact hstem h
        · exact absurd h (by decide)
        · exact hext h
      · have hlength := congrArg List.length h
        rw [List.length_append, List.length_cons, List.length_cons, List.length_singleton] at hlength
        omega
  · exact ⟨by decide, by decide, by decide⟩

/-- different stems come to different names -/
theorem MadeOf.stem_inj {stem stem' ext name : List Char} (h : MadeOf stem ext name)
    (h' : MadeOf stem' ext name) (hstands : Stands stem ext) (hstands' : Stands stem' ext) :
    stem = stem' := by
  -- two dots are never a stem with an extension
  have hdots : ∀ s, Stands s ext → ext ≠ [] → withExtension s ext ≠ ['.', '.'] := by
    intro s hs hne heq
    cases ext with
    | nil => exact hne rfl
    | cons c ext =>
      have hlength := congrArg List.length heq
      have hpos := List.length_pos_iff.mpr hs.1
      rw [withExtension_cons, List.length_append, List.length_cons, List.length_cons,
        List.length_cons, List.length_singleton] at hlength
      omega
  rcases h with rfl | ⟨rfl, rfl⟩
  · rcases h' with heq | ⟨rfl, heq⟩
    · cases ext with
      | nil => exact heq
      | cons c ext => exact List.append_cancel_right heq
    · exact absurd heq (hdots stem hstands (hstands'.2 rfl))
  · rcases h' with heq | ⟨rfl, _⟩
    · exact absurd heq.symm (hdots stem' hstands' (hstands.2 rfl))
    · rfl

end Path

/-! ## objects -/

/-- the extension of objects without the dots before it -/
def bareExtension (ext : String) : List Char := ext.toList.dropWhile (· == '.')

theorem separator_mem_bareExtension {ext : String} :
    '/' ∈ bareExtension ext ↔ '/' ∈ ext.toList := by
  unfold bareExtension
  induction ext.toList with
  | nil => rfl
  | cons c cs ih =>
    rw [List.dropWhile_cons, List.mem_cons]
    split
    · next hc =>
      obtain rfl : c = '.' := beq_iff_eq.mp hc
      rw [ih]
      exact ⟨.inr, fun h => h.resolve_left (by decide)⟩
    · rw [List.mem_cons]

theorem bareExtension_ne_nil {ext : String} (h : ∃ c ∈ ext.toList, c ≠ '.') :
    bareExtension ext ≠ [] := by
  obtain ⟨c, hc, hdot⟩ := h
  intro hnil
  exact hdot (beq_iff_eq.mp (List.dropWhile_eq_nil_iff.mp hnil c hc))

theorem objectPath_eq_ok {source ext object : String} (h : objectPath source ext = .ok object) :
    Path.replaceExtension? source.toList (bareExtension ext) = some object.toList ∧
      '/' ∉ bareExtension ext := by
  unfold objectPath at h
  split at h
  · next path hpath =>
    obtain rfl := Except.ok.inj h
    rw [String.toList_ofList]
    refine ⟨hpath, fun hsep => ?_⟩
    have hnone := (Path.replaceExtension?_eq_none_iff source.toList (bareExtension ext)).mpr hsep
    exact nomatch hpath.symm.trans hnone
  · exact nomatch h

/-- all sources have objects unless the extension holds a separator -/
theorem exists_objectPath {ext : String} (h : '/' ∉ ext.toList) (source : String) :
    ∃ object, objectPath source ext = .ok object := by
  unfold objectPath
  cases hpath : Path.replaceExtension? source.toList (ext.toList.dropWhile (· == '.')) with
  | none =>
    exact absurd ((Path.replaceExtension?_eq_none_iff _ _).mp hpath)
      fun hsep => h (separator_mem_bareExtension.mp hsep)
  | some path => exact ⟨_, rfl⟩

/-- a source that names a file, and whose stem is not lost -/
def KeepsStem (ext source : String) (l : Path.Last) : Prop :=
  Path.last? source.toList = some l ∧
    ((Path.splitExtension l.name).1 = ['.'] → ∃ c ∈ ext.toList, c ≠ '.')

namespace KeepsStem

variable {ext source : String} {l : Path.Last}

theorem stands (h : KeepsStem ext source l) :
    Path.Stands (Path.splitExtension l.name).1 (bareExtension ext) :=
  ⟨(Path.splitExtension_stem (Path.last?_eq_some h.1).2.1.nonempty).2,
    fun hstem => bareExtension_ne_nil (h.2 hstem)⟩

/-- an object lies where its source does, under a name made of its stem -/
theorem object_parts (h : KeepsStem ext source l) {object : String}
    (hobject : objectPath source ext = .ok object) :
    ∃ name, object.toList = l.before ++ name ∧ Path.IsName name ∧
      Path.MadeOf (Path.splitExtension l.name).1 (bareExtension ext) name := by
  obtain ⟨hreplace, hext⟩ := objectPath_eq_ok hobject
  obtain ⟨_, hname, _⟩ := Path.last?_eq_some h.1
  obtain ⟨name, hpath, hmade⟩ := Path.replaceExtension?_eq_some hreplace h.1
  have hstem : '/' ∉ (Path.splitExtension l.name).1 := fun hsep =>
    hname.separator ((Path.splitExtension_stem hname.nonempty).1.subset hsep)
  exact ⟨name, hpath, hmade.isName h.stands hstem hext, hmade⟩

end KeepsStem

/-! ## what an object keeps of its source -/

/-- the directory of a source, and its name without the extension -/
structure Trunk where
  dir : Path.Steps
  stem : List Char
  deriving DecidableEq, Repr

/-- the trunk of a path that names a file -/
def trunk? (path : String) : Option Trunk :=
  (Path.last? path.toList).map fun l => ⟨Path.steps l.before, (Path.splitExtension l.name).1⟩

theorem KeepsStem.trunk?_eq {ext source : String} {l : Path.Last} (h : KeepsStem ext source l) :
    trunk? source = some ⟨Path.steps l.before, (Path.splitExtension l.name).1⟩ := by
  rw [trunk?, h.1]
  rfl

/-- sources with the same object have the same trunk -/
theorem trunk?_eq_of_steps {ext a b x y : String} {l m : Path.Last} (ha : KeepsStem ext a l)
    (hb : KeepsStem ext b m) (hx : objectPath a ext = .ok x) (hy : objectPath b ext = .ok y)
    (h : Path.steps x.toList = Path.steps y.toList) : trunk? a = trunk? b := by
  obtain ⟨name, hxpath, hname, hmade⟩ := ha.object_parts hx
  obtain ⟨name', hypath, hname', hmade'⟩ := hb.object_parts hy
  rw [hxpath, hypath, Path.steps_append (Path.last?_eq_some ha.1).1 hname,
    Path.steps_append (Path.last?_eq_some hb.1).1 hname', Path.Steps.down_inj] at h
  obtain ⟨hdir, rfl⟩ := h
  rw [ha.trunk?_eq, hb.trunk?_eq, hdir, hmade.stem_inj hmade' ha.stands hb.stands]

/-- sources with the same trunk have the same object, unless its stem is a single dot -/
theorem steps_eq_of_trunk? {ext a b x y : String} {l m : Path.Last} (ha : KeepsStem ext a l)
    (hb : KeepsStem ext b m) (hdot : (Path.splitExtension l.name).1 ≠ ['.'])
    (hx : objectPath a ext = .ok x) (hy : objectPath b ext = .ok y) (h : trunk? a = trunk? b) :
    Path.steps x.toList = Path.steps y.toList := by
  rw [ha.trunk?_eq, hb.trunk?_eq, Option.some_inj, Trunk.mk.injEq] at h
  obtain ⟨hdir, hstem⟩ := h
  obtain ⟨name, hxpath, hname, hmade⟩ := ha.object_parts hx
  obtain ⟨name', hypath, hname', hmade'⟩ := hb.object_parts hy
  have hmade := hmade.resolve_right fun h => hdot h.1
  have hmade' := hmade'.resolve_right fun h => hdot (hstem.trans h.1)
  rw [hxpath, hypath, Path.steps_append (Path.last?_eq_some ha.1).1 hname,
    Path.steps_append (Path.last?_eq_some hb.1).1 hname', hdir, hmade, hmade', hstem]

/-! ## files -/

namespace DirectoryTree

variable {Node : Type} (t : DirectoryTree Node) (cwd : Node)

/-- the directory in which the name behind `before` lies -/
def lead? (before : List Char) : Option Node :=
  (Path.components before).foldlM t.enter (if before.head? = some '/' then t.root else cwd)

/-- the directory of a source in the tree, and its name without the extension -/
def stem? (path : String) : Option (Node × List Char) :=
  (Path.last? path.toList).bind fun l =>
    (t.lead? cwd l.before).map (·, (Path.splitExtension l.name).1)

variable {t} {cwd}

/-- a name behind the path of a directory lies in this directory -/
theorem file?_append {path : String} {before name : List Char} (hb : Path.IsLead before)
    (hn : Path.IsName name) (hpath : path.toList = before ++ name) :
    t.file? cwd path = (t.lead? cwd before).map (·, name) := by
  have hsteps := Path.steps_append hb hn
  have hcomponents : Path.components path.toList = Path.components before ++ [name] := by
    rw [hpath]
    exact congrArg Path.Steps.names hsteps
  have hrooted : Path.isAbsolute path = (before.head? == some '/') := by
    rw [Path.isAbsolute, hpath]
    exact congrArg Path.Steps.rooted hsteps
  rw [file?, lead?, hcomponents, start, hrooted]
  simp only [List.getLast?_concat, List.dropLast_concat, beq_iff_eq]

/-- sources whose objects are the same file have their directory and their stem in common -/
theorem stem?_of_file? {ext a b x y : String} {l m : Path.Last} (ha : KeepsStem ext a l)
    (hb : KeepsStem ext b m) (hx : objectPath a ext = .ok x) (hy : objectPath b ext = .ok y)
    {file : Node × List Char} (hfile : t.file? cwd x = some file)
    (hfile' : t.file? cwd y = some file) :
    ∃ origin, t.stem? cwd a = some origin ∧ t.stem? cwd b = some origin := by
  obtain ⟨name, hxpath, hname, hmade⟩ := ha.object_parts hx
  obtain ⟨name', hypath, hname', hmade'⟩ := hb.object_parts hy
  rw [file?_append (Path.last?_eq_some ha.1).1 hname hxpath, Option.map_eq_some_iff] at hfile
  rw [file?_append (Path.last?_eq_some hb.1).1 hname' hypath, Option.map_eq_some_iff] at hfile'
  obtain ⟨dir, hdir, rfl⟩ := hfile
  obtain ⟨dir', hdir', heq⟩ := hfile'
  obtain ⟨rfl, rfl⟩ := Prod.mk.inj heq
  refine ⟨(dir', (Path.splitExtension l.name).1), ?_, ?_⟩
  · rw [stem?, ha.1, Option.bind_some, hdir]
    rfl
  · rw [stem?, hb.1, Option.bind_some, hdir', hmade.stem_inj hmade' ha.stands hb.stands]
    rfl

end DirectoryTree

/-! ## builds -/

/-- `f` does not come to the same for both -/
def Apart {α β : Type} (f : α → Option β) (a b : α) : Prop := ∀ x, f a = some x → f b ≠ some x

/-- the link session of a build is opened for the one command over the objects of all sources -/
theorem exists_link_course {r : Recipe} {dir : String} {c : Config} {events : List HostEvent}
    {result : Except Failure String} (h : Runs (build r dir c) events result)
    {objects : List String} (hobjects : r.objects = .ok objects) :
    ∃ (p : BuildPlan) (steps : List BuildStep), p.recipe = r ∧ p.config = c ∧
      p.rules.Course [] steps events ∧ ∀ task session, .opened .link task session ∈ steps →
        task.commands = [r.linkCommand objects] := by
  have hlink : ∀ (p : BuildPlan) (steps : List BuildStep), p.recipe = r →
      p.rules.Course [] steps events → ∀ task session, .opened .link task session ∈ steps →
        task.commands = [r.linkCommand objects] := by
    rintro p steps rfl hcourse task session hmem
    obtain ⟨before, behind, hsteps⟩ := List.append_of_mem hmem
    have hmay : p.MayOpen .link task before := hcourse.licensed hsteps
    have htasks : p.tasks .link = .ok [p.linkTask objects] := by
      rw [BuildPlan.tasks, hobjects]
      rfl
    obtain ⟨rest, hnext⟩ := hmay.next
    rw [htasks] at hnext
    have htask : task ∈ [p.linkTask objects] := by
      rw [Except.ok.inj hnext]
      exact List.mem_append_right _ List.mem_cons_self
    rw [List.mem_singleton.mp htask]
    rfl
  rw [build_eq] at h
  rcases runs_bind h with ⟨e, rfl, hprepare⟩ | ⟨p, first, second, rfl, hprepare, hrest⟩
  · have hcourse := course_looks ⟨r, dir, workerCount c.threads 1, c⟩
      (Interaction.Asks.of_runs (prepare_asks r dir c) hprepare) []
    exact ⟨_, _, rfl, rfl, hcourse, hlink _ _ rfl hcourse⟩
  · have hlooks := Interaction.Asks.of_runs (prepare_asks r dir c) hprepare
    obtain ⟨hrecipe, hconfig, -⟩ := runs_prepare hprepare
    obtain ⟨steps, hcourse, -⟩ := BuildPlan.goes_build _ second _
      (BuildPlan.onlyLooks_map first) hrest
    have hwhole := (course_looks p hlooks []).append hcourse
    exact ⟨p, _, hrecipe, hconfig, hwhole, hlink p _ hrecipe hwhole⟩

/-- the compile stage answers the objects of the recipe -/
theorem objects_of_runs {r : Recipe} {dir : String} {workers : Nat} {c : Config}
    {events : List HostEvent} {returned : List String}
    (h : Runs (compileObjects r dir workers c) events (.ok returned)) : r.objects = .ok returned := by
  rw [compileObjects] at h
  rcases runs_bind h with ⟨_, he, _⟩ | ⟨tasks, _, _, -, -, h⟩
  · cases he
  rcases runs_bind h with ⟨_, he, _⟩ | ⟨sessions, _, _, -, -, h⟩
  · cases he
  rcases runs_bind h with ⟨_, he, _⟩ | ⟨results, _, _, -, -, h⟩
  · cases he
  rcases runs_bind h with ⟨_, he, _⟩ | ⟨_, _, _, -, -, h⟩
  · cases he
  exact (runs_ofExcept h).2.symm

/-- **Different sources have different objects.**  If every source of a recipe names a file, no two
of them have their directory and their stem in common, and a stem is a single dot only where the
extension is not blank, then the list of objects that the compile stage answers and the link command
is made of has no duplicates.  And in every tree of directories in which no two sources have their
directory and their stem in common, no two objects are the same file. -/
theorem objects_distinct {r : Recipe}
    (hfiles : ∀ source ∈ r.sources, ∃ l, KeepsStem r.objectExt source l)
    (hdistinct : r.sources.Pairwise (Apart trunk?)) :
    ('/' ∉ r.objectExt.toList → ∃ objects, r.objects = .ok objects) ∧
      ∀ objects, r.objects = .ok objects →
        (objects.map fun object => Path.steps object.toList).Nodup ∧
        (∀ dir workers c events returned,
          Runs (compileObjects r dir workers c) events (.ok returned) → returned = objects) ∧
        (∀ dir c events result, Runs (build r dir c) events result →
          ∃ (p : BuildPlan) (steps : List BuildStep), p.recipe = r ∧ p.config = c ∧
            p.rules.Course [] steps events ∧ ∀ task session, .opened .link task session ∈ steps →
              task.commands = [r.linkCommand objects]) ∧
        ∀ (Node : Type) (t : DirectoryTree Node) (cwd : Node),
          r.sources.Pairwise (Apart (t.stem? cwd)) → objects.Pairwise (Apart (t.file? cwd)) := by
  refine ⟨fun hext => ?_, fun objects hobjects => ⟨?_, ?_, ?_, ?_⟩⟩
  · exact exists_mapM_eq_ok fun source _ => exists_objectPath hext source
  · have : Inhabited String := ⟨""⟩
    obtain ⟨object, hobject, rfl⟩ := exists_of_mapM_eq_ok hobjects
    rw [List.map_map, List.Nodup, List.pairwise_map]
    refine hdistinct.imp_of_mem fun {a b} ha hb hapart heq => ?_
    obtain ⟨l, hl⟩ := hfiles a ha
    obtain ⟨m, hm⟩ := hfiles b hb
    have hsame := trunk?_eq_of_steps hl hm (hobject a ha) (hobject b hb) heq
    exact hapart _ hl.trunk?_eq (hsame ▸ hl.trunk?_eq)
  · intro dir workers c events returned hrun
    exact Except.ok.inj ((objects_of_runs hrun).symm.trans hobjects)
  · exact fun dir c events result hrun => exists_link_course hrun hobjects
  · intro Node t cwd hsources
    have : Inhabited String := ⟨""⟩
    obtain ⟨object, hobject, rfl⟩ := exists_of_mapM_eq_ok hobjects
    rw [List.pairwise_map]
    refine hsources.imp_of_mem fun {a b} ha hb hapart file hfile hfile' => ?_
    obtain ⟨l, hl⟩ := hfiles a ha
    obtain ⟨m, hm⟩ := hfiles b hb
    obtain ⟨origin, horigin, horigin'⟩ :=
      DirectoryTree.stem?_of_file? hl hm (hobject a ha) (hobject b hb) hfile hfile'
    exact hapart origin horigin horigin'

/-- sources in two directories, and one whose stem is a single dot -/
def scatteredSources : Recipe :=
  { threeSources with objectExt := ".o", sources := ["a.c", "sub/a.c", "sub//b.tar.gz", "..x"] }

/-- their objects are different paths -/
theorem objects_distinct_scattered :
    (∀ source ∈ scatteredSources.sources,
        ∃ l, KeepsStem scatteredSources.objectExt source l) ∧
      scatteredSources.sources.Pairwise (Apart trunk?) ∧
      scatteredSources.objects = .ok ["a.o", "sub/a.o", "sub//b.tar.o", ".."] ∧
      (["a.o", "sub/a.o", "sub//b.tar.o", ".."].map fun object => Path.steps object.toList).Nodup := by
  have hext : ∃ c ∈ scatteredSources.objectExt.toList, c ≠ '.' := ⟨'o', by decide, by decide⟩
  have hnamed : ∀ source ∈ scatteredSources.sources, (Path.last? source.toList).isSome := by
    decide +kernel
  have hfiles : ∀ source ∈ scatteredSources.sources,
      ∃ l, KeepsStem scatteredSources.objectExt source l := fun source hsource =>
    have ⟨l, hl⟩ := Option.isSome_iff_exists.mp (hnamed source hsource)
    ⟨l, hl, fun _ => hext⟩
  have htrunks : scatteredSources.sources.Pairwise fun a b => trunk? a ≠ trunk? b := by
    decide +kernel
  have hdistinct : scatteredSources.sources.Pairwise (Apart trunk?) :=
    htrunks.imp fun hne x ha hb => hne (ha.trans hb.symm)
  have hobjects : scatteredSources.objects = .ok ["a.o", "sub/a.o", "sub//b.tar.o", ".."] := by
    decide +kernel
  exact ⟨hfiles, hdistinct, hobjects, ((objects_distinct hfiles hdistinct).2 _ hobjects).1⟩

/-! ## sources without objects of their own -/

/-- sources that differ in their extension only -/
def twinText : String :=
  "\x7b\"object_command\": \"cc\", \"library_command\": \"ld\", \"target\": \"twin\", " ++
    "\"sources\": [\"a.c\", \"a.cpp\"]\x7d"

def twinTemplate : Template :=
  ⟨.standard, "", "cc", "ld", "twin", ".o", ".so", ["a.c", "a.cpp"]⟩

/-- a blank extension for objects, and a stem that is a single dot -/
def dottedText : String :=
  "\x7b\"object_command\": \"cc\", \"library_command\": \"ld\", \"target\": \"dotted\", " ++
    "\"object_ext\": \"\", \"sources\": [\"a.c\", \"a/..x/\"]\x7d"

def dottedTemplate : Template :=
  ⟨.standard, "", "cc", "ld", "dotted", "", ".so", ["a.c", "a/..x/"]⟩

/-- Two recipes that can be built, each with two sources at different paths and one object path for
both: in the first they have their stem in common, in the second the extension is blank. -/
theorem objects_clash :
    (Template.ofText .standard twinText = .ok twinTemplate ∧
      twinTemplate.recipe.validate = .ok () ∧
      (twinTemplate.sources.map fun source => Path.steps source.toList).Nodup ∧
      twinTemplate.recipe.objects = .ok ["a.o", "a.o"]) ∧
    Template.ofText .standard dottedText = .ok dottedTemplate ∧
      dottedTemplate.recipe.validate = .ok () ∧
      (dottedTemplate.sources.map trunk?).Nodup ∧
      dottedTemplate.recipe.objects = .ok ["a", "a/."] ∧
      Path.steps "a".toList = Path.steps "a/.".toList := by
  have htwin : Template.ofText .standard twinText = .ok twinTemplate :=
    eq_ok_of_toOption (by decide +kernel)
  have hdotted : Template.ofText .standard dottedText = .ok dottedTemplate :=
    eq_ok_of_toOption (by decide +kernel)
  exact ⟨⟨htwin, by decide, by decide +kernel, by decide +kernel⟩, hdotted, by decide,
    by decide +kernel, by decide +kernel, by decide +kernel⟩

end ShellWorkers
