import Mathlib.Data.Set.Insert
import ShellWorkers.Proofs.BuildSteps
import ShellWorkers.Proofs.Workshop

/-!
# Files that are settled before they are looked at

What a file holds is settled once the file has been removed or written, whatever was there before.
A program settles its files if every file that it reads, and every file that the shells are told to
write, is settled by then, and if it goes on alike whether or not there was a file to remove.

* `settledBy`               the files that an answered request settles;
* `Proper`                  the requests that concern settled files only;
* `Interaction.Settles`     the programs that settle their files, and what then holds;
* `settles_bind`            one action after another;
* `settles_start`           a session settles its status file when it starts;
* `build_settles`           a build settles its files.
-/

namespace ShellWorkers

open ShellWorkers.Action

/-! ## requests -/

/-- the files that a request settles when it is answered so -/
def settledBy {φ : Type} (c : Conduct φ) : (r : Host.Request) → Host.Answer r → Set String
  | .removeFile path, answer => {file | file = place c.cwd path ∧ IsRemoval answer}
  | .writeFile path _, answer => {file | file = place c.cwd path ∧ answer = .ok ()}
  | _, _ => ∅

/-- The requests that concern settled files only: those that are read or loaded, and those that a
shell is told to work on; `home` is where the shells work. -/
def Proper {φ : Type} (c : Conduct φ) (home : String) (settled : Set String) : Host.Request → Prop
  | .readFile path => place c.cwd path ∈ settled
  | .exists path => place c.cwd path ∈ settled
  | .load path => place c.cwd path ∈ settled
  | .spawn _ _ dir => place c.cwd dir = home
  | .send _ text =>
    ∀ step ∈ c.read text, ∀ path, step.path? = some path → place home path ∈ settled
  | _ => True

/-- the requests that do not tell whether there is a file -/
def IsBlind : Host.Request → Prop
  | .removeFile _ => False
  | _ => True

/-- answers that differ at most in whether there was a file to remove -/
def Alike : (r : Host.Request) → Host.Answer r → Host.Answer r → Prop
  | .removeFile _, a, b => a = b ∨ IsRemoval a ∧ IsRemoval b
  | _, a, b => a = b

/-- the answers that are to be expected: the working directory does not change -/
def Expected {φ : Type} (c : Conduct φ) : (r : Host.Request) → Host.Answer r → Prop
  | .currentDirectory, answer => ∀ cwd, answer = .ok cwd → cwd = c.cwd
  | _, _ => True

theorem Alike.refl (r : Host.Request) (a : Host.Answer r) : Alike r a a := by
  cases r with
  | removeFile path => exact Or.inl rfl
  | _ => rfl

theorem Alike.eq {r : Host.Request} (hr : IsBlind r) {a b : Host.Answer r} (h : Alike r a b) :
    a = b := by
  cases r with
  | removeFile path => exact hr.elim
  | _ => exact h

section

variable {φ : Type} {c : Conduct φ} {home : String} {settled more : Set String}

/-- answers that are alike settle the same files -/
theorem Alike.settledBy_eq {r : Host.Request} {a b : Host.Answer r} (h : Alike r a b) :
    settledBy c r a = settledBy c r b := by
  cases r with
  | removeFile path =>
    rcases h with rfl | ⟨ha, hb⟩
    · rfl
    · exact Set.ext fun file => and_congr_right fun _ => ⟨fun _ => hb, fun _ => ha⟩
  | writeFile path text => exact congrArg (settledBy c (.writeFile path text)) h
  | _ => rfl

theorem Proper.mono {r : Host.Request} (h : Proper c home settled r) (hsub : settled ⊆ more) :
    Proper c home more r := by
  cases r with
  | send process text => exact fun step hstep path hpath => hsub (h step hstep path hpath)
  | readFile path => exact hsub h
  | «exists» path => exact hsub h
  | load path => exact hsub h
  | _ => exact h

end

/-! ## programs -/

namespace Interaction

variable {φ α β : Type} {c : Conduct φ} {home : String} {settled : Set String}

/-- The program settles its files, starting from the `settled` ones; it ends with a result and with
settled files that satisfy `Q`. -/
def Settles (c : Conduct φ) (home : String) (Q : Set String → α → Prop) :
    Set String → Host.Program α → Prop
  | settled, .done a => Q settled a
  | settled, .ask r next => Proper c home settled r ∧
      (∀ a b, Alike r a b → next a = next b) ∧
      ∀ answer, Expected c r answer →
        Settles c home Q (settled ∪ settledBy c r answer) (next answer)

theorem Settles.mono {Q Q' : Set String → α → Prop} {x : Host.Program α}
    (h : Settles c home Q settled x)
    (hq : ∀ more a, settled ⊆ more → Q more a → Q' more a) : Settles c home Q' settled x := by
  induction x generalizing settled with
  | done a => exact hq settled a subset_rfl h
  | ask r next ih =>
    refine ⟨h.1, h.2.1, fun answer he => ih answer (h.2.2 answer he) fun more a hsub => ?_⟩
    exact hq more a (Set.subset_union_left.trans hsub)

theorem Settles.bind {Q : Set String → β → Prop} {x : Host.Program α} {f : α → Host.Program β}
    (h : Settles c home (fun more a => Settles c home Q more (f a)) settled x) :
    Settles c home Q settled (x.bind f) := by
  induction x generalizing settled with
  | done a => exact h
  | ask r next ih =>
    exact ⟨h.1, fun a b hab => congrArg (Interaction.bind · f) (h.2.1 a b hab),
      fun answer he => ih answer (h.2.2 answer he)⟩

theorem Settles.of_runs {Q : Set String → α → Prop} {P : α → Prop} {x : Host.Program α}
    (h : Settles c home Q settled x) (hp : ∀ events a, Runs x events a → P a) :
    Settles c home (fun more a => Q more a ∧ P a) settled x := by
  induction x generalizing settled with
  | done a => exact ⟨h, hp [] a (.done a)⟩
  | ask r next ih =>
    exact ⟨h.1, h.2.1, fun answer he => ih answer (h.2.2 answer he) fun events a hr =>
      hp _ a (.ask r next answer hr)⟩

/-- requests that are proper from the start and do not tell whether there is a file -/
theorem Settles.of_asks {x : Host.Program α}
    (h : x.Asks fun r => Proper c home settled r ∧ IsBlind r) :
    Settles c home (fun _ _ => True) settled x := by
  -- the answers on the way may settle more files, which does no harm
  have hgrow : ∀ more, settled ⊆ more → Settles c home (fun _ _ => True) more x := by
    induction x with
    | done a => exact fun _ _ => trivial
    | ask r next ih =>
      refine fun more hsub => ⟨h.1.1.mono hsub, fun a b hab => congrArg next (hab.eq h.1.2),
        fun answer _ => ih answer (h.2 answer) _ (hsub.trans Set.subset_union_left)⟩
  exact hgrow settled subset_rfl

end Interaction

/-! ## actions -/

namespace Action

variable {φ α β : Type} {c : Conduct φ} {home : String} {settled : Set String}

/-- the action settles its files; if it comes to an answer, this and the settled files satisfy
`Q` -/
abbrev Settles (c : Conduct φ) (home : String) (settled : Set String) (x : Action α)
    (Q : Set String → α → Prop) : Prop :=
  Interaction.Settles c home (fun more result => ∀ a, result = .ok a → Q more a) settled x.run

theorem settles_pure {Q : Set String → α → Prop} {a : α} (h : Q settled a) :
    Settles c home settled (pure a : Action α) Q :=
  fun _ ha => Except.ok.inj ha ▸ h

theorem settles_throw {Q : Set String → α → Prop} (e : Failure) :
    Settles c home settled (throw e : Action α) Q :=
  fun _ ha => nomatch ha

theorem settles_fail {Q : Set String → α → Prop} (e : BuildError) :
    Settles c home settled (fail e : Action α) Q := settles_throw _

theorem settles_ofExcept {x : Except Failure α} :
    Settles c home settled (ofExcept x : Action α) fun _ _ => True := by
  cases x with
  | error e => exact settles_throw e
  | ok a => exact settles_pure trivial

theorem settles_mono {Q Q' : Set String → α → Prop} {x : Action α}
    (h : Settles c home settled x Q) (hq : ∀ more a, settled ⊆ more → Q more a → Q' more a) :
    Settles c home settled x Q' :=
  Interaction.Settles.mono h fun more _ hsub hQ a ha => hq more a hsub (hQ a ha)

theorem settles_asks {x : Action α} (h : Asks (fun r => Proper c home settled r ∧ IsBlind r) x) :
    Settles c home settled x fun _ _ => True :=
  Interaction.Settles.mono (Interaction.Settles.of_asks h) fun _ _ _ _ _ _ => trivial

theorem settles_bind {Q : Set String → α → Prop} {R : Set String → β → Prop} {x : Action α}
    {f : α → Action β} (hx : Settles c home settled x Q)
    (hf : ∀ more a, settled ⊆ more → Q more a → Settles c home more (f a) R) :
    Settles c home settled (x >>= f) R := by
  refine Interaction.Settles.bind (Interaction.Settles.mono hx fun more result hsub hQ => ?_)
  cases result with
  | error e => exact settles_throw e
  | ok a => exact hf more a hsub (hQ a rfl)

theorem settles_request {r : Host.Request} (h : Proper c home settled r) (hr : IsBlind r) :
    Settles c home settled (request r) fun _ answer => Expected c r answer :=
  ⟨h, fun _ _ hab => congrArg _ (hab.eq hr), fun _ hexpected => settles_pure hexpected⟩

theorem settles_tryCatch {Q : Set String → α → Prop} {x : Action α} {f : Failure → Action α}
    (hx : Settles c home settled x Q)
    (hf : ∀ more e, settled ⊆ more → Settles c home more (f e) Q) :
    Settles c home settled (tryCatch x f) Q := by
  refine Interaction.Settles.bind (Interaction.Settles.mono hx fun more result hsub hQ => ?_)
  cases result with
  | error e => exact hf more e hsub
  | ok a => exact settles_pure (hQ a rfl)

/-- what every answer satisfies can be said of the answer -/
theorem settles_of_runs {Q : Set String → α → Prop} {P : α → Prop} {x : Action α}
    (h : Settles c home settled x Q) (hp : ∀ events a, Runs x events (.ok a) → P a) :
    Settles c home settled x fun more a => Q more a ∧ P a := by
  have hrun := Interaction.Settles.of_runs (P := fun result => ∀ a, result = .ok a → P a) h
    fun events result hr a ha => hp events a (ha ▸ hr)
  exact Interaction.Settles.mono hrun fun more result _ hQ a ha => ⟨hQ.1 a ha, hQ.2 a ha⟩

/-- a file is settled once it is removed, and whether it was there does not matter -/
theorem settles_removeIfExists (path : String) :
    Settles c home settled (removeIfExists path) fun more _ => place c.cwd path ∈ more := by
  refine ⟨trivial, fun a b hab => ?_, fun answer _ => ?_⟩
  · rcases hab with rfl | ⟨rfl | rfl, rfl | rfl⟩ <;> rfl
  · cases answer with
    | ok _ => exact settles_pure (Or.inr ⟨rfl, Or.inl rfl⟩)
    | error cause =>
      show Settles c home _ (if cause = .notFound then pure () else fail (.io cause)) _
      split
      · next hcause => exact settles_pure (Or.inr ⟨rfl, Or.inr (congrArg _ hcause)⟩)
      · exact settles_fail _

end Action

/-! ## sessions -/

/-- What the sessions of `spec` need: an absolute directory, shells that read their texts, and a
setup that works on settled files only. -/
structure Fits {φ : Type} (c : Conduct φ) (spec : SessionSpec) (settled : Set String) : Prop where
  absolute : Path.isAbsolute spec.dir = true
  reads : ∀ worker, Reads c.read spec.flavor (statusFile spec.dir worker)
  setup : ∀ step ∈ setupSteps c.read spec.initCommand, ∀ path, step.path? = some path →
    place spec.dir path ∈ settled

/-- a session whose status file is settled -/
structure Tracked {φ : Type} (c : Conduct φ) (settled : Set String) (s : Session) : Prop where
  absolute : Path.isAbsolute s.statusPath = true
  reads : Reads c.read s.flavor s.statusPath
  settled : s.statusPath ∈ settled

section

variable {φ : Type} {c : Conduct φ} {spec : SessionSpec} {settled more : Set String} {s : Session}

theorem Fits.mono (h : Fits c spec settled) (hsub : settled ⊆ more) : Fits c spec more :=
  ⟨h.absolute, h.reads, fun step hstep path hpath => hsub (h.setup step hstep path hpath)⟩

theorem Tracked.mono (h : Tracked c settled s) (hsub : settled ⊆ more) : Tracked c more s :=
  ⟨h.absolute, h.reads, hsub h.settled⟩

theorem Tracked.place_mem (h : Tracked c settled s) (dir : String) :
    place dir s.statusPath ∈ settled := by
  rw [place, Path.join_of_isAbsolute h.absolute]
  exact h.settled

/-- the requests that end a session -/
theorem Tracked.proper_of_isEnding (h : Tracked c settled s) {home : String} (r : Host.Request)
    (hr : s.IsEnding r) : Proper c home settled r ∧ IsBlind r := by
  cases r with
  | readFile path =>
    obtain rfl : path = s.statusPath := hr
    exact ⟨h.place_mem _, trivial⟩
  | removeFile path => exact hr.elim
  | «exists» path => exact hr.elim
  | load path => exact hr.elim
  | spawn program args dir => exact hr.elim
  | send process text => exact hr.elim
  | _ => exact ⟨trivial, trivial⟩

/-- the texts that are about its status file only -/
theorem Tracked.proper_send (h : Tracked c settled s) (home : String) (process : Host.Process)
    {text : String} (ht : ∀ step ∈ c.read text, step.path? = some s.statusPath) :
    Proper c home settled (.send process text) := by
  intro step hstep path hpath
  obtain rfl := Option.some.inj ((ht step hstep).symm.trans hpath)
  exact h.place_mem home

/-- a session settles its status file when it starts -/
theorem settles_start (h : Fits c spec settled) (worker : Nat) :
    Settles c spec.dir settled (Session.start worker spec) (Tracked c) := by
  have habs := isAbsolute_statusFile h.absolute worker
  have hsettled : Settles c spec.dir settled (Session.start worker spec) fun more _ =>
      statusFile spec.dir worker ∈ more := by
    rw [Session.start_eq]
    refine settles_bind (settles_removeIfExists _) fun known _ hknown hfile => ?_
    rw [place, Path.join_of_isAbsolute habs] at hfile
    have htracked : ∀ process started, Tracked c known (Session.fresh worker spec process started) :=
      fun _ _ => ⟨habs, h.reads worker, hfile⟩
    refine settles_mono (settles_asks (Session.startShell_asks
      ⟨Path.join_of_isAbsolute h.absolute _, trivial⟩ ⟨trivial, trivial⟩
      (fun _ => ⟨trivial, trivial⟩) (fun process text htext => ⟨?_, trivial⟩)
      fun process started r => (htracked process started).proper_of_isEnding r))
      fun _ _ hsub _ => hsub hfile
    rcases List.mem_append.mp htext with hsetup | hcreate
    · intro step hstep path hpath
      refine hknown (h.setup step ?_ path hpath)
      rw [setupSteps, Option.mem_toList.mp hsetup]
      exact hstep
    · rw [List.mem_singleton.mp hcreate]
      exact (htracked process 0).proper_send spec.dir process (h.reads worker).path_of_create
  have hfresh : ∀ events s, Runs (Session.start worker spec) events (.ok s) →
      ∃ process started, s = Session.fresh worker spec process started := by
    intro events s hr
    obtain ⟨_, process, started, _, hs, _⟩ := Session.runs_start hr
    exact ⟨process, started, hs⟩
  refine settles_mono (settles_of_runs hsettled hfresh) ?_
  rintro more _ _ ⟨hfile, process, started, rfl⟩
  exact ⟨habs, h.reads worker, hfile⟩

/-- a submitted command is recorded in a file that is settled -/
theorem settles_submit (h : Tracked c settled s) (home command : String) :
    Settles c home settled (s.submit command) (Tracked c) :=
  settles_bind
    (settles_request (h.proper_send home _ (h.reads.path_of_command command)) trivial)
    fun _ _ hsub _ => settles_pure ⟨h.absolute, h.reads, hsub h.settled⟩

theorem settles_submitAll (h : Tracked c settled s) (home : String) (commands : List String) :
    Settles c home settled (s.submitAll commands) (Tracked c) := by
  induction commands generalizing s settled with
  | nil => exact settles_pure h
  | cons command commands ih =>
    exact settles_bind (settles_submit h home command) fun _ _ _ hs => ih hs

/-- sessions whose status files are settled -/
abbrev AllTracked (c : Conduct φ) (settled : Set String) (sessions : List Session) : Prop :=
  ∀ s ∈ sessions, Tracked c settled s

theorem settles_finishWorkers {sessions : List Session} (h : AllTracked c settled sessions)
    (home : String) : Settles c home settled (finishWorkers sessions) fun _ _ => True :=
  settles_asks (finishWorkers_asks fun s hs r hr => (h s hs).proper_of_isEnding r hr)

theorem settles_abandonAll {sessions : List Session} (h : AllTracked c settled sessions)
    (home : String) : Settles c home settled (Session.abandonAll sessions) fun _ _ => True :=
  settles_asks (Session.abandonAll_asks fun s hs r hr => (h s hs).proper_of_isEnding r hr)

theorem settles_startWorkers (h : Fits c spec settled) {started : List Session}
    (hstarted : AllTracked c settled started) (tasks : List Task) :
    Settles c spec.dir settled (startWorkers spec started tasks) (AllTracked c) := by
  induction tasks generalizing started settled with
  | nil => exact settles_pure hstarted
  | cons task tasks ih =>
    have htracked : ∀ known, settled ⊆ known → AllTracked c known started := fun known hsub s hs =>
      (hstarted s hs).mono hsub
    refine settles_bind (settles_tryCatch (settles_start h task.worker) fun known failure hsub =>
      settles_bind (settles_abandonAll (htracked known hsub) _) fun _ _ _ _ => settles_throw _) ?_
    intro known fresh hknown hfresh
    refine settles_bind (settles_submitAll hfresh _ task.commands) fun more session hmore hs => ?_
    refine ih (h.mono (hknown.trans hmore)) (List.forall_mem_append.mpr ⟨?_, ?_⟩)
    · exact htracked more (hknown.trans hmore)
    · exact List.forall_mem_singleton.mpr hs

theorem settles_checkWorkers {dir home : String} (stage : Stage) (worker : Nat)
    (results : List (Except BuildError SessionReport)) :
    Settles c home settled (checkWorkers dir stage worker results) fun _ _ => True :=
  settles_asks (checkWorkers_asks (fun _ _ => ⟨trivial, trivial⟩) stage worker results)

end

/-! ## builds -/

section

variable {φ : Type} {c : Conduct φ} {r : Recipe} {dir : String} {config : Config}
  {settled : Set String}

/-- where the library lies that a recipe makes in an absolute directory -/
def libraryIn (r : Recipe) (dir : String) : String :=
  Path.join (Path.absolute "" dir) r.libraryFileName

theorem settles_compileObjects (h : Fits c (.ofRecipe r dir config) settled) (workers : Nat) :
    Settles c dir settled (compileObjects r dir workers config) fun _ _ => True := by
  refine settles_bind settles_ofExcept fun known tasks hknown _ => ?_
  have hnone : AllTracked c known [] := fun _ hs => absurd hs List.not_mem_nil
  refine settles_bind (settles_startWorkers (h.mono hknown) hnone tasks) ?_
  intro known sessions _ hsessions
  refine settles_bind (settles_finishWorkers hsessions dir) fun known results _ _ => ?_
  exact settles_bind (settles_checkWorkers .compile 0 results) fun _ _ _ _ => settles_ofExcept

theorem settles_linkLibrary (h : Fits c (.ofRecipe r dir config) settled) (objects : List String) :
    Settles c dir settled (linkLibrary r dir objects config) fun _ _ => True := by
  refine settles_bind (settles_start h linkWorker) fun known fresh _ hfresh => ?_
  refine settles_bind (settles_submit hfresh dir (r.linkCommand objects)) ?_
  intro known session _ hsession
  refine settles_bind (settles_finishWorkers (List.forall_mem_singleton.mpr hsession) dir) ?_
  intro known results _ _
  exact settles_checkWorkers .link linkWorker results

theorem settles_removeStatusFiles (home dir : String) (workers : Nat) :
    Settles c home settled (removeStatusFiles dir workers) fun _ _ => True := by
  have hall : ∀ (list : List Nat) (known : Set String), Settles c home known
      (list.forM fun worker => removeIfExists (statusFile dir worker)) fun _ _ => True := by
    intro list
    induction list with
    | nil => exact fun known => settles_pure trivial
    | cons worker list ih =>
      exact fun known => settles_bind (settles_removeIfExists _) fun more _ _ _ => ih more
  exact hall _ _

/-- the absolute form of a path is the one that the working directory gives -/
theorem settles_absolute (home path : String) :
    Settles c home settled (absolute path) fun _ result => result = Path.absolute c.cwd path := by
  unfold absolute
  split
  · exact settles_fail _
  · split
    · next habs => exact settles_pure (Path.absolute_of_isAbsolute habs "" c.cwd)
    · refine settles_bind (settles_request trivial trivial) fun _ answer _ hexpected => ?_
      cases answer with
      | error cause => exact settles_fail _
      | ok cwd =>
        refine settles_pure ?_
        rw [hexpected cwd rfl]

/-- an absolute directory is not looked up -/
theorem libraryPath_of_isAbsolute (h : Path.isAbsolute dir = true) (r : Recipe) :
    libraryPath r dir = pure (libraryIn r dir) := by
  have hne : ¬ dir.isEmpty = true := by
    intro hempty
    rw [String.isEmpty_iff] at hempty
    rw [hempty] at h
    exact nomatch h
  rw [libraryPath, absolute, if_neg hne, if_pos h, pure_bind]
  rfl

theorem settles_stages {p : BuildPlan} (h : Fits c p.spec settled) :
    Settles c p.dir settled p.stages fun _ library => library = libraryIn p.recipe p.dir := by
  refine settles_bind (settles_compileObjects h p.workers) fun known objects hknown _ => ?_
  rw [libraryPath_of_isAbsolute (show Path.isAbsolute p.dir = true from h.absolute), pure_bind]
  exact settles_bind (settles_linkLibrary (h.mono hknown) objects) fun _ _ _ _ => settles_pure rfl

theorem settles_cleanUp {p : BuildPlan} {library : String}
    (h : p.config.verify = true → place c.cwd library ∈ settled) :
    Settles c p.dir settled (p.cleanUp library) fun _ _ => True := by
  refine settles_bind (settles_removeStatusFiles _ _ _) fun known _ hknown _ => ?_
  by_cases hverify : p.config.verify = true
  · rw [if_pos hverify]
    have hload : Asks (fun r => Proper c p.dir known r ∧ IsBlind r) (verifyLibrary library) := by
      refine asks_bind (asks_request ⟨hknown (h hverify), trivial⟩) fun loaded => ?_
      split
      · exact asks_pure _
      · exact asks_fail _
    exact settles_bind (settles_asks hload) fun _ _ _ _ => settles_pure trivial
  · rw [if_neg hverify]
    exact settles_pure trivial

/-- what is asked to prepare a build touches no file -/
theorem settles_prepare (home : String) (r : Recipe) (dir : String) (config : Config) :
    Settles c home settled (prepare r dir config) fun _ p =>
      p.recipe = r ∧ p.dir = Path.absolute c.cwd dir ∧ p.config = config := by
  have hlook : ∀ request, IsLook request → Proper c home settled request ∧ IsBlind request := by
    intro request hr
    cases request with
    | removeFile path => exact hr.elim
    | readFile path => exact hr.elim
    | «exists» path => exact hr.elim
    | load path => exact hr.elim
    | spawn program args dir => exact hr.elim
    | send process text => exact hr.elim
    | _ => exact ⟨trivial, trivial⟩
  refine settles_bind (settles_asks ((checkInputs_asks r dir).mono hlook)) fun _ _ _ _ => ?_
  refine settles_bind (settles_absolute home dir) ?_
  rintro known _ _ rfl
  exact settles_bind (settles_request trivial trivial) fun _ _ _ _ => settles_pure ⟨rfl, rfl, rfl⟩

/-- **A build settles its files.**  Whatever it reads, loads or has its shells write is settled from
the start, or removed or written by the build before. -/
theorem build_settles (h : Fits c (.ofRecipe r (Path.absolute c.cwd dir) config) settled)
    (hlibrary : config.verify = true →
      place c.cwd (libraryIn r (Path.absolute c.cwd dir)) ∈ settled) :
    Settles c (Path.absolute c.cwd dir) settled (build r dir config) fun _ _ => True := by
  rw [build_eq]
  refine settles_bind (settles_prepare _ r dir config) ?_
  rintro known ⟨_, _, workers, _⟩ hknown ⟨rfl, rfl, rfl⟩
  refine settles_bind (settles_stages (p := ⟨_, _, workers, _⟩) (h.mono hknown)) ?_
  rintro more _ hmore rfl
  exact settles_cleanUp fun hverify => hmore (hknown (hlibrary hverify))

end

end ShellWorkers
