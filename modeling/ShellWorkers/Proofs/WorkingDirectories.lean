import Mathlib.Data.List.Basic
import ShellWorkers.Proofs.SessionTraces
import ShellWorkers.Proofs.StatusProtocol

/-!
# Paths seen from two working directories

A session names its status file by one text, and two processes look this text up: the one that
started the session, from its own working directory, and the shell, from the directory of the
session.  Where the directory is absolute both come to the same file; where it is relative they do
only if the directory leads from itself back to itself.

* `DirectoryTree`              directories, and where a component leads;
* `DirectoryTree.file?_join`   the file of a name inside a directory;
* `runSession_names`           the paths and texts of a session;
* `session_sameFile_iff`       when both processes mean one file.
-/

namespace ShellWorkers

open ShellWorkers.Action

/-! ## components -/

namespace Path

/-- a name that is one component -/
structure IsName (name : List Char) : Prop where
  separator : '/' ∉ name
  nonempty : name ≠ []
  dot : name ≠ ['.']

theorem components_append (dir name : List Char) :
    components (dir ++ '/' :: name) = components dir ++ components name := by
  rw [components, List.splitOn, List.splitOnP_append_cons _ _ (by decide), List.filter_append]
  rfl

theorem components_name {name : List Char} (h : IsName name) : components name = [name] := by
  have hsplit : name.splitOn '/' = [name] := by
    refine List.splitOnP_eq_singleton fun c hc => ?_
    rw [beq_eq_false_iff_ne]
    rintro rfl
    exact h.separator hc
  rw [components, hsplit, List.filter_singleton]
  simp [h.nonempty, h.dot]

/-- a name inside a directory is one component more -/
theorem components_joinChars (dir : List Char) {name : List Char} (h : IsName name) :
    components (joinChars dir name) = components dir ++ [name] := by
  have hhead : ¬ name.head? = some '/' := fun hs => h.separator (List.mem_of_mem_head? hs)
  rw [joinChars, if_neg hhead]
  split
  · next hend =>
    rcases List.eq_nil_or_concat' dir with rfl | ⟨before, c, rfl⟩
    · rw [List.nil_append, components_name h]
      rfl
    · -- the directory ends in a separator, behind which there is an empty component
      obtain rfl : c = '/' := by simpa using hend
      rw [List.append_assoc, List.singleton_append, components_append, components_append,
        components_name h]
      simp [components, List.splitOn]
  · rw [components_append, components_name h]

end Path

/-! ## looking a path up -/

/-- directories, and where a component leads from one of them: into a directory, up from it, or
along a link -/
structure DirectoryTree (Node : Type) where
  root : Node
  enter : Node → List Char → Option Node

namespace DirectoryTree

variable {Node : Type} (t : DirectoryTree Node) (cwd : Node)

/-- where the walk along a path starts, for a process with the working directory `cwd` -/
def start (path : String) : Node := if Path.isAbsolute path then t.root else cwd

/-- the directory that a path names; the empty path names none -/
def directory? (path : String) : Option Node :=
  if path.isEmpty then none else (Path.components path.toList).foldlM t.enter (t.start cwd path)

/-- the file that a path names: the directory in which it lies, and its name there -/
def file? (path : String) : Option (Node × List Char) :=
  let components := Path.components path.toList
  match components.getLast? with
  | none => none
  | some name => (components.dropLast.foldlM t.enter (t.start cwd path)).map (·, name)

variable {t} {cwd}

/-- a path that starts at the root does not depend on the working directory -/
theorem directory?_of_isAbsolute {path : String} (h : Path.isAbsolute path = true) (d : Node) :
    t.directory? d path = t.directory? cwd path := by
  rw [directory?, directory?, start, start, if_pos h, if_pos h]

theorem start_join {dir : String} (hdir : dir.isEmpty = false) {name : String}
    (hname : Path.IsName name.toList) : t.start cwd (Path.join dir name) = t.start cwd dir := by
  have hne : dir.toList ≠ [] := by
    intro hnil
    rw [String.toList_eq_nil_iff] at hnil
    rw [hnil] at hdir
    exact nomatch hdir
  have hhead : ¬ name.toList.head? = some '/' := fun h =>
    hname.separator (List.mem_of_mem_head? h)
  have habs : Path.isAbsolute (Path.join dir name) = Path.isAbsolute dir := by
    rw [Path.isAbsolute, Path.join, String.toList_ofList, Path.joinChars, if_neg hhead]
    split
    · rw [List.head?_append_of_ne_nil _ hne]
      rfl
    · rw [List.head?_append_of_ne_nil _ hne]
      rfl
  rw [start, start, habs]

/-- a name inside a directory lies where the directory is -/
theorem file?_join {dir : String} (hdir : dir.isEmpty = false) {name : String}
    (hname : Path.IsName name.toList) :
    t.file? cwd (Path.join dir name) = (t.directory? cwd dir).map (·, name.toList) := by
  have hcomponents : Path.components (Path.join dir name).toList =
      Path.components dir.toList ++ [name.toList] := by
    rw [Path.join, String.toList_ofList]
    exact Path.components_joinChars dir.toList hname
  rw [file?, hcomponents, directory?, hdir, start_join hdir hname]
  simp only [List.getLast?_append, List.getLast?_singleton, List.dropLast_concat,
    Option.some_or, Bool.false_eq_true, if_false]

end DirectoryTree

/-- the name of a status file is one component -/
theorem isName_statusFileName (worker : Nat) : Path.IsName (statusFileName worker).toList := by
  have hdigit : '/' ∉ (toString worker).toList := fun h =>
    absurd (StatusText.isDigit_of_mem_repr h) (by decide)
  refine ⟨?_, ?_, ?_⟩
  · rw [statusFileName, String.toList_append, String.toList_append, List.mem_append,
      List.mem_append]
    rintro ((h | h) | h)
    · exact absurd h (by decide)
    · exact hdigit h
    · exact absurd h (by decide)
  · rw [statusFileName, String.toList_append, String.toList_append, List.append_assoc]
    exact List.append_ne_nil_of_left_ne_nil (by decide) _
  · rw [statusFileName, String.toList_append, String.toList_append, List.append_assoc]
    intro h
    have hhead := congrArg List.head? h
    rw [List.head?_append_of_ne_nil _ (by decide)] at hhead
    exact absurd hhead (by decide)

/-! ## the paths of a session -/

/-- the texts by which a session has its status file made and written: the creation and the
commands with their records -/
def protocolTexts (worker : Nat) (spec : SessionSpec) (commands : List String) : List String :=
  Session.createText spec.flavor (statusFile spec.dir worker) ::
    commands.map (Session.commandText spec.flavor (statusFile spec.dir worker))

/-- The requests of a session: the files that it removes and reads are its status file, its shell
starts in its directory, and what it sends is the setup or one of the protocol's texts. -/
def Concerns (worker : Nat) (spec : SessionSpec) (commands : List String) : Host.Request → Prop
  | .removeFile path => path = statusFile spec.dir worker
  | .readFile path => path = statusFile spec.dir worker
  | .spawn _ _ dir => dir = spec.dir
  | .send _ text => Session.setupText spec.initCommand = some text ∨
      text ∈ protocolTexts worker spec commands
  | .writeFile _ _ => False
  | .load _ => False
  | _ => True

section

variable {worker : Nat} {spec : SessionSpec} {commands : List String}

theorem concerns_of_isEnding {s : Session} (hs : s.statusPath = statusFile spec.dir worker)
    (r : Host.Request) (h : s.IsEnding r) : Concerns worker spec commands r := by
  cases r with
  | readFile path =>
    obtain rfl : path = s.statusPath := h
    exact hs
  | removeFile path => exact h.elim
  | writeFile path text => exact h.elim
  | spawn program args dir => exact h.elim
  | send process text => exact h.elim
  | load path => exact h.elim
  | _ => trivial

theorem start_asks : Asks (Concerns worker spec commands) (Session.start worker spec) := by
  rw [Session.start_eq]
  refine asks_bind (asks_bind (asks_request rfl) fun answer => ?_) fun _ =>
    Session.startShell_asks rfl trivial (fun _ => trivial) (fun _ text htext => ?_)
      fun _ _ => concerns_of_isEnding rfl
  · cases answer with
    | ok _ => exact asks_pure _
    | error cause =>
      show Asks _ (if cause = .notFound then pure () else fail (.io cause))
      split
      · exact asks_pure _
      · exact asks_fail _
  · rcases List.mem_append.mp htext with hsetup | hcreate
    · exact Or.inl (Option.mem_toList.mp hsetup)
    · exact Or.inr (List.mem_singleton.mp hcreate ▸ List.mem_cons_self)

/-- the paths and texts of a session -/
theorem runSession_names {events : List HostEvent} {result : Except Failure SessionReport}
    (h : Runs (runSession worker spec commands) events result) :
    ∀ e ∈ events, Concerns worker spec commands e.1 := by
  rcases runs_bind h with ⟨_, _, hstart⟩ | ⟨s, first, rest, rfl, hstart, hrest⟩
  · exact Interaction.Asks.of_runs start_asks hstart
  have hstarts : Asks (Concerns worker spec commands) (Session.start worker spec) := start_asks
  have hfirst := Interaction.Asks.of_runs hstarts hstart
  obtain ⟨_, process, started, _, rfl, _⟩ := Session.runs_start hstart
  rcases runs_bind hrest with ⟨_, _, hsubmit⟩ | ⟨s, second, third, rfl, hsubmit, hfinish⟩
  · exact nomatch (Session.runs_submitAll hsubmit).2
  obtain ⟨rfl, hs⟩ := Session.runs_submitAll hsubmit
  obtain rfl := Except.ok.inj hs
  have hends : ∀ s : Session, s.statusPath = statusFile spec.dir worker →
      Asks (Concerns worker spec commands) s.finish := fun s hs =>
    s.finish_asks.mono (concerns_of_isEnding hs)
  have hthird := Interaction.Asks.of_runs (hends _ rfl) hfinish
  refine List.forall_mem_append.mpr ⟨hfirst, List.forall_mem_append.mpr ⟨?_, hthird⟩⟩
  intro e he
  obtain ⟨command, hcommand, rfl⟩ := List.mem_map.mp he
  exact Or.inr (List.mem_cons_of_mem _ (List.mem_map_of_mem hcommand))

/-- the file that the protocol's texts name, for a shell that reads them -/
theorem path_of_protocolTexts {read : String → List ShellStep}
    (hreads : Reads read spec.flavor (statusFile spec.dir worker)) {text : String}
    (h : text ∈ protocolTexts worker spec commands) :
    ∀ step ∈ read text, step.path? = some (statusFile spec.dir worker) := by
  rcases List.mem_cons.mp h with rfl | h
  · exact hreads.path_of_create
  · obtain ⟨command, _, rfl⟩ := List.mem_map.mp h
    exact hreads.path_of_command command

end

/-! ## one file or two -/

/-- **A session writes the file that it reads if and only if its directory leads from itself to
itself.**  The session removes and reads its status file from its own working directory `cwd`; its
shell works in the session's directory `d`, and makes and writes the file of the same name from
there.  An absolute directory leads to itself from everywhere. -/
theorem session_sameFile_iff {Node : Type} (t : DirectoryTree Node) {cwd d : Node} {worker : Nat}
    {spec : SessionSpec} {commands : List String} {events : List HostEvent}
    {result : Except Failure SessionReport} {read : String → List ShellStep}
    (hreads : Reads read spec.flavor (statusFile spec.dir worker))
    (hdir : t.directory? cwd spec.dir = some d)
    (h : Runs (runSession worker spec commands) events result) :
    (∀ e ∈ events, Concerns worker spec commands e.1) ∧
      ((∀ text ∈ protocolTexts worker spec commands, ∀ step ∈ read text, ∀ path,
          step.path? = some path →
            t.file? d path = t.file? cwd (statusFile spec.dir worker)) ↔
        t.directory? d spec.dir = some d) ∧
      (Path.isAbsolute spec.dir = true → t.directory? d spec.dir = some d) := by
  have hempty : spec.dir.isEmpty = false := by
    by_contra hne
    rw [DirectoryTree.directory?, if_pos (by simpa using hne)] at hdir
    exact nomatch hdir
  have hfile : ∀ node, t.file? node (statusFile spec.dir worker) =
      (t.directory? node spec.dir).map (·, (statusFileName worker).toList) := fun node =>
    DirectoryTree.file?_join hempty (isName_statusFileName worker)
  refine ⟨runSession_names h, ⟨fun hsame => ?_, fun hself text htext step hstep path hpath => ?_⟩,
    fun habs => ?_⟩
  · -- the creation of the file is one of the texts
    have heq := hsame _ List.mem_cons_self (.create (statusFile spec.dir worker))
      (by rw [hreads.create]; exact List.mem_cons_self) _ rfl
    rw [hfile, hfile, hdir, Option.map_some, Option.map_eq_some_iff] at heq
    obtain ⟨node, hnode, hpair⟩ := heq
    rw [hnode, (Prod.mk.inj hpair).1]
  · obtain rfl : statusFile spec.dir worker = path :=
      Option.some.inj ((path_of_protocolTexts hreads htext step hstep).symm.trans hpath)
    rw [hfile, hfile, hdir, hself]
  · exact (DirectoryTree.directory?_of_isAbsolute habs d).trans hdir

/-- a directory `build` with a directory `sub` in it, which is empty -/
def nestedTree : DirectoryTree Nat where
  root := 0
  enter node name :=
    match node, String.ofList name with
    | 0, "build" => some 1
    | 1, "sub" => some 2
    | _, _ => none

/-- a session in a directory, without a setup -/
def bareSpec (dir : String) : SessionSpec := ⟨dir, Shell.standard, "", .posix, none⟩

/-- shells that do at once what they are given, for a process that works in `/build` -/
def promptConduct : Conduct Unit where
  read := ShellStep.ofBlock
  prepare _ _ := some 0
  run _ _ work := (some 0, work)
  moves _ := [.perform 0, .perform 0]
  clock tick := tick
  output _ := []
  cwd := "/build"

/-- from `/build`, a session in `sub` has its shell write another file than the one it reads -/
theorem session_sameFile_iff_sub :
    nestedTree.directory? 1 "sub" = some 2 ∧
      ¬ ∀ text ∈ protocolTexts 0 (bareSpec "sub") ["true"], ∀ step ∈ ShellStep.ofBlock text,
        ∀ path, step.path? = some path →
          nestedTree.file? 2 path = nestedTree.file? 1 (statusFile "sub" 0) := by
  have hdir : nestedTree.directory? 1 "sub" = some 2 := by decide +kernel
  refine ⟨hdir, fun hsame => ?_⟩
  have hruns := runs_trace (Workshop.environment promptConduct)
    (runSession 0 (bareSpec "sub") ["true"]) ⟨(), fun _ => none, [], 0⟩
  obtain ⟨_, hiff, _⟩ := session_sameFile_iff nestedTree (reads_ofBlock _) hdir hruns
  have hself : nestedTree.directory? 2 "sub" = some 2 := hiff.mp hsame
  exact absurd hself (by decide +kernel)

/-- The same session reports its code when its directory is spelled from the root, and finds no
status file when it is spelled from the working directory. -/
theorem relative_session_reads_nothing :
    (outcome (Workshop.environment promptConduct) (runSession 0 (bareSpec "/build/sub") ["true"])
        ⟨(), fun _ => none, [], 0⟩).1.toOption = some ⟨"", [0]⟩ ∧
      (outcome (Workshop.environment promptConduct) (runSession 0 (bareSpec "sub") ["true"])
        ⟨(), fun _ => none, [], 0⟩).1 = .error (.error (.protocolViolation 0 1 0 "")) := by
  decide +kernel

end ShellWorkers
