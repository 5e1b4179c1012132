import ShellWorkers.Machine.Standard
import ShellWorkers.Proofs.RecipeRoundTrip
import ShellWorkers.Proofs.WorkingDirectories

/-!
# Recipes without a shell of their own

The shell of a recipe that names none is the line of the environment, cut into words, or else the
program that a search finds, or else `/bin/sh`.  When the recipe is written this shell is one line,
and that line is cut into words when it is read.  So the shell comes back if its words were cut from
a line before; a program that was found is not, and comes back only from a path without blanks.

* `Unnamed`                    the environment has no line for a shell;
* `Reloads`                    what was found, if it is used, holds no blank;
* `isWords_default_iff`        this is so exactly if the shell is made of words;
* `defaultShell_reloads_iff`   a default shell, and a recipe with it, comes back exactly then;
* `defaultShell_torn`          one that does not.
-/

namespace ShellWorkers

/-! ## what a search finds -/

namespace Path

theorem joinChars_ne_nil {dir name : List Char} (h : dir ≠ [] ∨ name ≠ []) :
    joinChars dir name ≠ [] := by
  unfold joinChars
  split
  · next hhead =>
    rintro rfl
    exact nomatch hhead
  · split
    · exact fun hnil => h.elim (fun hd => hd (List.append_eq_nil_iff.mp hnil).1)
        fun hn => hn (List.append_eq_nil_iff.mp hnil).2
    · simp

theorem foldl_joinChars_ne_nil {names : List (List Char)} (hnames : ∀ name ∈ names, name ≠ [])
    {start : List Char} (h : start ≠ [] ∨ names ≠ []) : names.foldl joinChars start ≠ [] := by
  induction names generalizing start with
  | nil => exact h.resolve_right fun hn => hn rfl
  | cons name names ih =>
    obtain ⟨hname, hnames⟩ := List.forall_mem_cons.mp hnames
    exact ih hnames (Or.inl (joinChars_ne_nil (Or.inr hname)))

/-- a path with a name in it stays one, seen from wherever -/
theorem absoluteChars_ne_nil {cwd path : List Char} (h : components path ≠ []) :
    absoluteChars cwd path ≠ [] := by
  have hnames : ∀ name ∈ components path, name ≠ [] := by
    intro name hname
    have hcounts := (List.mem_filter.mp hname).2
    simp only [Bool.and_eq_true, decide_eq_true_eq] at hcounts
    exact hcounts.1
  have hjoined : ∀ start, (components path).foldl joinChars start ≠ [] :=
    fun start => foldl_joinChars_ne_nil hnames (Or.inr h)
  unfold absoluteChars
  simp only
  split
  · exact joinChars_ne_nil (Or.inl (hjoined _))
  · exact hjoined _

end Path

namespace Machine

/-- what a machine finds when it looks for the program `sh` -/
def foundShell? (m : Machine) (path home : Option String) : Option String :=
  ((searchCandidates home (path.getD "") "sh").find? m.isExecutable).map m.fromRoot

theorem defaultShell_eq (m : Machine) (named path home : Option String) :
    m.defaultShell named path home = Shell.default named (m.foundShell? path home) := rfl

/-- what is found has a name -/
theorem foundShell?_ne_empty (m : Machine) (path home : Option String) :
    m.foundShell? path home ≠ some "" := by
  intro h
  obtain ⟨candidate, hfind, hroot⟩ := Option.map_eq_some_iff.mp h
  obtain ⟨entry, -, rfl⟩ := List.mem_map.mp (List.mem_of_find?_eq_some hfind)
  have hname : Path.IsName "sh".toList := ⟨by decide, by decide, by decide⟩
  have hcomponents : Path.components (Path.join (expandHome home entry) "sh").toList =
      Path.components (expandHome home entry).toList ++ ["sh".toList] := by
    rw [Path.join, String.toList_ofList]
    exact Path.components_joinChars _ hname
  rw [fromRoot] at hroot
  split at hroot
  · rw [hroot] at hcomponents
    exact absurd hcomponents.symm (by simp [Path.components, List.splitOn])
  · refine Path.absoluteChars_ne_nil ?_ (String.ofList_eq_empty_iff.mp hroot)
    rw [hcomponents]
    simp

end Machine

/-! ## shells that come back -/

/-- the environment names no shell: its variable is not set, no text, or blank -/
def Unnamed (named : Option String) : Prop := ∀ line ∈ named, Text.isBlankText line = true

/-- what was found holds no blank, if it is what a default shell is taken from -/
def Reloads (named found : Option String) : Prop :=
  Unnamed named → ∀ program ∈ found, ∀ c ∈ program.toList, Text.isBlank c = false

theorem unnamed_iff {named : Option String} : named.bind Shell.ofLine? = none ↔ Unnamed named := by
  cases named with
  | none => exact iff_of_true rfl fun _ h => nomatch h
  | some line =>
    have hline : Shell.ofLine? line = none ↔ Text.words line = [] := by
      unfold Shell.ofLine?
      split
      · next h => exact iff_of_true rfl h
      · next h => exact iff_of_false (fun h => nomatch h) fun hnil => nomatch h.symm.trans hnil
    rw [Option.bind_some, hline, Text.words_eq_nil_iff]
    exact ⟨fun h _ hmem => Option.some.inj hmem ▸ h, fun h => h line rfl⟩

/-- a shell is read back from its line exactly if it is made of words -/
theorem ofLine?_toLine_iff (s : Shell) : Shell.ofLine? s.toLine = some s ↔ s.IsWords := by
  rw [ofLine?_eq_some_iff]
  exact ⟨isWords_of_words, words_toLine⟩

/-- the default shell is made of words unless it was found behind a blank -/
theorem isWords_default_iff {named found : Option String} (hfound : found ≠ some "") :
    (Shell.default named found).IsWords ↔ Reloads named found := by
  unfold Shell.default
  split
  · next s hs =>
    obtain ⟨line, hline, hwords⟩ := Option.bind_eq_some_iff.mp hs
    have hnamed : ¬ Unnamed named := fun h => nomatch hs.symm.trans (unnamed_iff.mpr h)
    exact iff_of_true (isWords_of_words ((ofLine?_eq_some_iff line s).mp hwords))
      fun h => absurd h hnamed
  · next hnone =>
    have hnamed := unnamed_iff.mp hnone
    cases found with
    | none =>
      have hwords : Text.words "/bin/sh" = Shell.standard.program :: Shell.standard.args := by
        decide
      exact iff_of_true (isWords_of_words hwords) fun _ _ h => nomatch h
    | some program =>
      have hne : program ≠ "" := fun hempty => hfound (congrArg some hempty)
      constructor
      · intro h _ p hp
        rw [← Option.some.inj hp]
        exact (h program List.mem_cons_self).2
      · intro h w hw
        obtain rfl := List.mem_singleton.mp hw
        exact ⟨hne, h hnamed w rfl⟩

/-- a recipe that names no shell has the default shell -/
theorem shell_eq_of_ofText {standard : Shell} {text : String} {t : Template}
    (h : Template.ofText standard text = .ok t)
    (hshell : namesShell (Json.read text).value = false) : t.shell = standard := by
  have hspells := spells_of_ofJson (ofJson_of_ofText h)
  cases hv : (Json.read text).value with
  | object members =>
    rw [hv] at hspells hshell
    rcases hspells.fields .shell with ⟨v, hmem, -⟩ | ⟨-, hdefault⟩
    · exact (List.any_eq_false.mp hshell _ hmem rfl).elim
    · exact (Option.some.inj hdefault).symm
  | list items =>
    rw [hv] at hshell
    exact nomatch hshell
  | _ =>
    rw [hv] at hspells
    exact hspells.elim

/-- **A default shell comes back unless it was found in a directory with a blank in its name.**  It
always has a program; it is read back from its line, and a recipe that names no shell is read back
from its text, exactly if the environment has a line for a shell or what was found holds no
blank. -/
theorem defaultShell_reloads_iff (m : Machine) (named path home : Option String) :
    (m.defaultShell named path home).program ≠ "" ∧
    (Shell.ofLine? (m.defaultShell named path home).toLine =
        some (m.defaultShell named path home) ↔ Reloads named (m.foundShell? path home)) ∧
    ∀ text t, Template.ofText (m.defaultShell named path home) text = .ok t →
      namesShell (Json.read text).value = false →
        t.shell = m.defaultShell named path home ∧
        ∀ other, Template.ofText other t.toText = .ok t ↔
          Reloads named (m.foundShell? path home) := by
  have hfound := m.foundShell?_ne_empty path home
  rw [m.defaultShell_eq]
  refine ⟨program_default_ne_empty hfound, ?_, fun text t h hshell => ?_⟩
  · rw [ofLine?_toLine_iff, isWords_default_iff hfound]
  · have hdefault := shell_eq_of_ofText h hshell
    refine ⟨hdefault, fun other => ?_⟩
    rw [ofText_toText_iff, hdefault, isWords_default_iff hfound]

/-- a recipe that leaves its shell out -/
def shellessText : String :=
  "\x7b\"object_command\": \"cc\", \"library_command\": \"ld\", \"target\": \"demo\", " ++
    "\"sources\": [\"a.c\"]\x7d"

def shellessTemplate (shell : Shell) : Template :=
  ⟨shell, "", "cc", "ld", "demo", ".o", ".so", ["a.c"]⟩

/-- a machine without files -/
def bareMachine : Machine :=
  Machine.atRest (Machine.FileTree.empty 0) Machine.FileTree.root 1

/-- where a shell is named with an argument, the recipe comes back with both -/
theorem defaultShell_reloads_named :
    Template.ofText (bareMachine.defaultShell (some " bash -l") none none) shellessText =
        .ok (shellessTemplate ⟨"bash", ["-l"]⟩) ∧
      Template.ofText .standard (shellessTemplate ⟨"bash", ["-l"]⟩).toText =
        .ok (shellessTemplate ⟨"bash", ["-l"]⟩) := by
  have hshell : bareMachine.defaultShell (some " bash -l") none none = ⟨"bash", ["-l"]⟩ := rfl
  have hread : Template.ofText (bareMachine.defaultShell (some " bash -l") none none)
      shellessText = .ok (shellessTemplate ⟨"bash", ["-l"]⟩) := by
    rw [hshell]
    exact eq_ok_of_toOption (by decide +kernel)
  have hunnamed : namesShell (Json.read shellessText).value = false := by decide +kernel
  have hreloads : Reloads (some " bash -l") (bareMachine.foundShell? none none) :=
    fun h => absurd (h _ rfl) (by decide)
  obtain ⟨-, hother⟩ := (defaultShell_reloads_iff bareMachine (some " bash -l") none none).2.2
    shellessText _ hread hunnamed
  exact ⟨hread, (hother .standard).mpr hreloads⟩

/-- the program that a search finds on a host where only this one can be executed -/
def foundInTools? : Option String :=
  (searchCandidates none "/usr/bin:/opt/my tools" "sh").find? (· == "/opt/my tools/sh")

/-- Found in a directory with a blank in its name, a default shell comes back as another one, and
so does the shell of a recipe that names none. -/
theorem defaultShell_torn :
    Shell.default none foundInTools? = ⟨"/opt/my tools/sh", []⟩ ∧
      Shell.ofLine? (Shell.default none foundInTools?).toLine = some ⟨"/opt/my", ["tools/sh"]⟩ ∧
      Template.ofText (Shell.default none foundInTools?) shellessText =
        .ok (shellessTemplate (Shell.default none foundInTools?)) ∧
      Template.ofText (Shell.default none foundInTools?)
          (shellessTemplate (Shell.default none foundInTools?)).toText =
        .ok (shellessTemplate ⟨"/opt/my", ["tools/sh"]⟩) := by
  have hshell : Shell.default none foundInTools? = ⟨"/opt/my tools/sh", []⟩ := by decide +kernel
  rw [hshell]
  exact ⟨rfl, by decide +kernel, eq_ok_of_toOption (by decide +kernel),
    eq_ok_of_toOption (by decide +kernel)⟩

end ShellWorkers
