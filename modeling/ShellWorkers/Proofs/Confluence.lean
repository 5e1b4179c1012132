import ShellWorkers.Proofs.BuildSteps
import ShellWorkers.Proofs.FanOut
import ShellWorkers.Proofs.SerialWork

/-!
# Parallel compilation is confluent

When the commands of a build commute, the order in which the shells of the workers go on has no
say in what they make of the work, and neither has the number of workers.

* `Submitted`                 the open sessions are those of the shells, which have their queues;
* `outcome_finishWorkers_none`  without a timeout all shells get through;
* `compileStage_asks`         behind the last submission no text and no shell comes in;
* `compileObjects_confluent`  the work of a compile stage.
-/

namespace ShellWorkers

open ShellWorkers.Action

variable {φ : Type} {c : Conduct φ} {effect : String → φ → φ} {work : φ}
  {programs : List (List ShellStep)}

/-! ## starting the sessions -/

/-- all shells run, and the work is that of their commands -/
structure Underway (effect : String → φ → φ) (work : φ) (programs : List (List ShellStep))
    (w : Workshop φ) : Prop where
  serial : Serial effect work programs w
  live : Live 0 w

theorem underway_advance (h : Steady c effect) {w : Workshop φ}
    (hw : Underway effect work programs w) : Underway effect work programs (w.advance c) :=
  ⟨(later_advance w).preserves (fun _ _ e hs => serial_event h e hs) hw.serial,
    live_advance h hw.live⟩

/-- a new shell has nothing to do yet -/
theorem underway_spawn {w : Workshop φ} (hw : Underway effect work programs w) (dir : String) :
    Underway effect work (programs ++ [[]])
      { w with shells := w.shells ++ [WorkerShell.fresh dir] } := by
  refine ⟨⟨?_, fun hc => ?_⟩, ⟨fun i sh _ hi => ?_, fun i sh hi _ => absurd hi (Nat.not_lt_zero i)⟩⟩
  · show (w.shells ++ [WorkerShell.fresh dir]).map WorkerShell.program = programs ++ [[]]
    rw [List.map_append]
    exact congrArg (· ++ [[]]) hw.serial.given
  · have hdone : (w.shells ++ [WorkerShell.fresh dir]).flatMap
        (fun sh => commandTexts (sh.history.map Prod.fst)) = w.done := by
      rw [List.flatMap_append]
      exact List.append_nil _
    show w.work = runAll effect ((w.shells ++ [WorkerShell.fresh dir]).flatMap _) work
    rw [hdone]
    rw [List.flatMap_append] at hc
    exact hw.serial.work_eq (hc.mono (List.subset_append_left _ _))
  · rcases List.mem_append.mp (List.mem_of_getElem? hi) with hmem | hmem
    · obtain ⟨j, hj⟩ := List.mem_iff_getElem?.mp hmem
      exact hw.live.running j sh (Nat.zero_le j) hj
    · rw [List.mem_singleton.mp hmem]
      rfl

/-- the shell that came last gets more to do -/
theorem underway_enqueue {steps : List ShellStep} {w : Workshop φ}
    (hw : Underway effect work (programs ++ [steps]) w) (more : List ShellStep) :
    Underway effect work (programs ++ [steps ++ more])
      (w.mapShell programs.length (.enqueue more)) := by
  refine ⟨⟨?_, fun hc => ?_⟩,
    live_mapShell hw.live _ (fun _ => rfl) fun hi => absurd hi (Nat.not_lt_zero _)⟩
  · show (w.shells.modify programs.length (.enqueue more)).map WorkerShell.program = _
    rw [map_modify _ _ (· ++ more) fun sh => sh.program_enqueue more]
    show w.programs.modify programs.length (· ++ more) = _
    rw [hw.serial.given, modify_append_singleton]
  · rw [w.done_mapShell programs.length (f := .enqueue more) fun _ => rfl]
    refine hw.serial.work_eq (hc.mono fun text htext => ?_)
    rw [List.flatMap_append, List.mem_append] at htext ⊢
    refine htext.imp_right fun hlast => ?_
    rw [List.flatMap_singleton] at hlast ⊢
    rw [commandTexts_append]
    exact List.mem_append_left _ hlast

/-- the session of a new shell adds its queue to what the shells were given -/
theorem tracks_underway (h : Steady c effect) (work : φ) (programs : List (List ShellStep))
    (dir path : String) :
    Tracks c dir path programs.length (Underway effect work programs)
      (Underway effect work programs) (fun steps => Underway effect work (programs ++ [steps])) where
  remove w hw := by
    have hadvance := underway_advance h hw
    exact ⟨⟨hadvance.serial.given, hadvance.serial.work_eq⟩,
      ⟨hadvance.live.running, hadvance.live.through⟩⟩
  spawn w program args hw := by
    have hadvance := underway_advance h hw
    refine ⟨?_, underway_spawn hadvance _⟩
    have hlength : (w.advance c).shells.length = programs.length := by
      rw [← hadvance.serial.given, Workshop.programs, List.length_map]
    show (Except.ok ⟨(w.advance c).shells.length⟩ : Except SystemFault Host.Process) = _
    rw [hlength]
  now _ _ hw := underway_advance h hw
  attach _ _ _ hw := underway_advance h hw
  send _ _ _ hw := underway_enqueue (underway_advance h hw) _

/-- the queue of a session for a task -/
def taskSteps (c : Conduct φ) (spec : SessionSpec) (task : Task) : List ShellStep :=
  sessionSteps c.read spec.initCommand (statusFile spec.dir task.worker) task.commands

/-- the open sessions are those of the shells, which have their queues -/
structure Submitted (c : Conduct φ) (effect : String → φ → φ) (work : φ) (spec : SessionSpec)
    (opened : List OpenSession) (w : Workshop φ) : Prop where
  underway : Underway effect work (opened.map fun p => taskSteps c spec p.2) w
  process : ∀ i (s : Session), (opened.map Prod.fst)[i]? = some s → s.process = ⟨i⟩
  timeout : ∀ s ∈ opened.map Prod.fst, s.timeout = spec.timeout

theorem submitted_nil (spec : SessionSpec) {w : Workshop φ} (hw : w.shells = []) :
    Submitted c effect w.work spec [] w := by
  refine ⟨⟨⟨?_, fun _ => ?_⟩, ⟨fun i sh _ hi => ?_, fun i sh hi _ => absurd hi (Nat.not_lt_zero i)⟩⟩,
    fun i s hi => ?_, fun s hs => absurd hs List.not_mem_nil⟩
  · rw [Workshop.programs, hw]
    rfl
  · rw [Workshop.done, hw]
    rfl
  · simp [hw] at hi
  · simp at hi

theorem starts_submitted (h : Steady c effect) {spec : SessionSpec} (work : φ)
    (hread : ∀ worker, Reads c.read spec.flavor (statusFile spec.dir worker))
    (tasks : List Task) :
    Starts (Workshop.environment c) spec tasks (Submitted c effect work spec) := by
  intro opened task w _ hw
  have t := tracks_underway h work (opened.map fun p => taskSteps c spec p.2) spec.dir
    (statusFile spec.dir task.worker)
  obtain ⟨started, w₁, hstart, hinv⟩ := outcome_start t (hread task.worker) hw.underway
  obtain ⟨w₂, hsubmit, hinv₂⟩ := outcome_submitAll t ⟨task.worker, ⟨_⟩,
    statusFile spec.dir task.worker, spec.flavor, spec.timeout, started, 0⟩ rfl (hread task.worker)
    task.commands hinv
  refine ⟨_, w₁, _, w₂, hstart, hsubmit, ?_, fun i s hi => ?_, fun s hs => ?_⟩
  · rw [List.append_assoc, List.singleton_append] at hinv₂
    rw [List.map_append]
    exact hinv₂
  · rw [List.map_append, List.getElem?_append] at hi
    split at hi
    · exact hw.process i s hi
    · next hlt =>
      rw [List.map_singleton, List.getElem?_singleton] at hi
      split at hi
      · next hzero =>
        obtain rfl := Option.some.inj hi
        have hi : i = opened.length := by
          rw [List.length_map] at hlt hzero
          omega
        rw [hi, List.length_map]
      · exact nomatch hi
  · rw [List.map_append] at hs
    rcases List.mem_append.mp hs with hs | hs
    · exact hw.timeout s hs
    · rw [List.mem_singleton.mp hs]

/-! ## finishing them -/

/-- the shell of a finished session is through -/
theorem live_finished (h : Steady c effect) {k : Nat} {s : Session} (hk : s.process = ⟨k⟩)
    {w : Workshop φ} (hw : Live k w) : Live (k + 1) (s.finished c w) := by
  have hclosed : Live k (Workshop.environment c (.closeInput s.process) w).2 :=
    live_mapShell (live_advance h hw) s.process.id (fun _ => rfl) fun _ _ => rfl
  have hwaited : Live (k + 1) (Workshop.environment c (.wait s.process)
      (Workshop.environment c (.closeInput s.process) w).2).2 := by
    rw [hk] at hclosed ⊢
    exact live_runOut h (live_advance h hclosed)
  -- the output and the status file are only read
  exact live_advance h (live_advance h hwaited)

theorem exists_reportIn (s : Session) (w : Workshop φ) :
    ∃ result : Except BuildError SessionReport, s.reportIn c w = result.mapError Failure.error := by
  rw [Session.reportIn, Session.report]
  cases s.statusVerdict _ _ with
  | error e => exact ⟨.error e, rfl⟩
  | ok codes => exact ⟨.ok ⟨_, codes⟩, rfl⟩

/-- Without a timeout the shells get through one after another, whatever they report. -/
theorem outcome_finishWorkers_none (h : Steady c effect) {k : Nat} {sessions : List Session}
    (hprocess : ∀ i (s : Session), sessions[i]? = some s → s.process = ⟨k + i⟩)
    (htimeout : ∀ s ∈ sessions, s.timeout = none) {w : Workshop φ} (hw : Live k w) :
    ∃ results w', outcome (Workshop.environment c) (finishWorkers sessions) w = (.ok results, w') ∧
      Live (k + sessions.length) w' := by
  induction sessions generalizing k w with
  | nil => exact ⟨[], w, rfl, hw⟩
  | cons s sessions ih =>
    have hnext : ∀ i (s : Session), sessions[i]? = some s → s.process = ⟨k + 1 + i⟩ := by
      intro i s hi
      rw [hprocess (i + 1) s hi, Nat.add_assoc, Nat.add_comm 1]
    obtain ⟨results, w', hrest, hlive⟩ := ih hnext
      (fun s hs => htimeout s (List.mem_cons_of_mem _ hs)) (live_finished h (hprocess 0 s rfl) hw)
    obtain ⟨result, hresult⟩ := exists_reportIn (c := c) s (s.finished c w)
    have hfinish := Session.outcome_finish_none (c := c) (htimeout s List.mem_cons_self) w
    rw [hresult] at hfinish
    refine ⟨result :: results, w', ?_, ?_⟩
    · rw [outcome_finishWorkers_cons hfinish, outcome_bind_ok hrest]
      rfl
    · rw [List.length_cons, Nat.add_comm _ 1, ← Nat.add_assoc]
      exact hlive

/-! ## the stage -/

/-- what a compile stage does behind the last submission -/
def settle (r : Recipe) (dir : String) (sessions : List Session) : Action (List String) :=
  finishWorkers sessions >>= fun results =>
    checkWorkers dir .compile 0 results >>= fun _ => ofExcept r.objects

theorem compileObjects_eq {r : Recipe} {workers : Nat} {tasks : List Task}
    (h : tasksOf r workers = .ok tasks) (dir : String) (config : Config) :
    compileObjects r dir workers config =
      startWorkers (.ofRecipe r dir config) [] tasks >>= settle r dir := by
  rw [compileObjects, h]
  rfl

theorem serial_settle (h : Steady c effect) (r : Recipe) (dir : String) (sessions : List Session)
    {w : Workshop φ} (hw : Serial effect work programs w) :
    Serial effect work programs (outcome (Workshop.environment c) (settle r dir sessions) w).2 := by
  have hasks : Asks (fun r => IsQuiet r ∨ IsWrite r) (settle r dir sessions) :=
    asks_bind (finishWorkers_asks fun _ _ r hr => Or.inl (Session.isQuiet_of_isEnding r hr))
      fun results => asks_bind (checkWorkers_asks (fun _ _ => Or.inr ⟨_, _, rfl⟩) .compile 0 results)
        fun _ => asks_ofExcept _
  exact hasks.runState (fun _ _ hr hv => serial_environment h hr hv) hw

theorem live_settle (h : Steady c effect) (r : Recipe) (dir : String) {sessions : List Session}
    (hprocess : ∀ i (s : Session), sessions[i]? = some s → s.process = ⟨i⟩)
    (htimeout : ∀ s ∈ sessions, s.timeout = none) {w : Workshop φ} (hw : Live 0 w) :
    Live sessions.length (outcome (Workshop.environment c) (settle r dir sessions) w).2 := by
  have hzero : ∀ i (s : Session), sessions[i]? = some s → s.process = ⟨0 + i⟩ := by
    intro i s hi
    rw [Nat.zero_add]
    exact hprocess i s hi
  obtain ⟨results, w', hfinish, hlive⟩ := outcome_finishWorkers_none h hzero htimeout hw
  rw [Nat.zero_add] at hlive
  have hasks : Asks IsWrite (checkWorkers dir .compile 0 results >>= fun _ => ofExcept r.objects) :=
    asks_bind (checkWorkers_asks (fun _ _ => ⟨_, _, rfl⟩) .compile 0 results) fun _ =>
      asks_ofExcept _
  rw [settle, outcome_bind_ok hfinish]
  refine hasks.runState (fun r v hr hv => ?_) hlive
  obtain ⟨path, text, rfl⟩ := hr
  have hadvance := live_advance h hv
  exact ⟨hadvance.running, hadvance.through⟩

theorem commandTexts_taskSteps {spec : SessionSpec}
    (hsetup : commandTexts (setupSteps c.read spec.initCommand) = []) (task : Task) :
    commandTexts (taskSteps c spec task) = task.commands.map Text.trimEnd := by
  have hcreate : ∀ steps, commandTexts (.create (statusFile spec.dir task.worker) :: steps) =
      commandTexts steps := fun _ => rfl
  rw [taskSteps, sessionSteps, commandTexts_append, hsetup, List.nil_append, hcreate,
    commandTexts_commandSteps]

/-- the shells of a stage are given the command of every source once -/
theorem perm_commandTexts (spec : SessionSpec)
    (hsetup : commandTexts (setupSteps c.read spec.initCommand) = []) (commands : List String)
    (workers : Nat) :
    (((dealtTasks commands workers).map (taskSteps c spec)).flatMap commandTexts).Perm
      (commands.map Text.trimEnd) := by
  have hflat : ((dealtTasks commands workers).map (taskSteps c spec)).flatMap commandTexts =
      (partition commands workers).flatten.map Text.trimEnd := by
    rw [List.flatMap_map, funext (commandTexts_taskSteps hsetup), List.map_flatten, dealtTasks,
      List.flatMap_map, List.flatMap_def]
    congr 1
    conv_rhs => rw [← List.zipIdx_map_fst 0 (partition commands workers)]
    rw [List.map_map]
    rfl
  rw [hflat]
  exact (flatten_partition commands workers).map _

/-- when all shells are through, all they were given is done -/
theorem done_of_through {w : Workshop φ} (h : ∀ sh ∈ w.shells, sh.todo = []) :
    w.done = w.programs.flatMap commandTexts := by
  rw [Workshop.programs, List.flatMap_map, Workshop.done]
  refine List.flatMap_congr fun sh hsh => ?_
  rw [WorkerShell.program, h sh hsh, List.append_nil]

/-- **Parallel compilation is confluent.**  Without a timeout all shells get through; and when they
are through, the work is what the commands of the sources make of it one after the other, in the
order of the sources, whatever the number of workers and whoever went on when. -/
theorem compileObjects_confluent (h : Steady c effect) {r : Recipe} {dir : String} {workers : Nat}
    {config : Config} {commands : List String}
    (hcommands : r.sources.mapM r.objectCommand = .ok commands)
    (hread : ∀ worker, Reads c.read config.flavor (statusFile dir worker))
    (hsetup : commandTexts (setupSteps c.read r.initCommand) = [])
    (hc : PairwiseCommute effect (commands.map Text.trimEnd)) {w : Workshop φ} (hw : w.shells = []) :
    ∃ result final, outcome (Workshop.environment c) (compileObjects r dir workers config) w =
        (result, final) ∧
      (config.timeout = none → ∀ sh ∈ final.shells, sh.todo = []) ∧
      ((∀ sh ∈ final.shells, sh.todo = []) →
        final.work = runAll effect (commands.map Text.trimEnd) w.work) := by
  let spec : SessionSpec := .ofRecipe r dir config
  obtain ⟨opened, w₁, hstart, htasks, hopen⟩ := outcome_startWorkers (dealtTasks commands workers)
    (starts_submitted h w.work hread _) [] (submitted_nil spec hw)
  rw [List.nil_append] at hstart hopen
  have hrun : outcome (Workshop.environment c) (compileObjects r dir workers config) w =
      outcome (Workshop.environment c) (settle r dir (opened.map Prod.fst)) w₁ := by
    rw [compileObjects_eq (tasksOf_eq hcommands workers)]
    exact outcome_bind_ok hstart
  have hgiven : (opened.map fun p => taskSteps c spec p.2) =
      (dealtTasks commands workers).map (taskSteps c spec) := by
    rw [← htasks, List.map_map]
    rfl
  have hserial := serial_settle h r dir (opened.map Prod.fst) hopen.underway.serial
  have hlive := fun htimeout : config.timeout = none => live_settle h r dir hopen.process
    (fun s hs => (hopen.timeout s hs).trans htimeout) hopen.underway.live
  rcases hsettle : outcome (Workshop.environment c) (settle r dir (opened.map Prod.fst)) w₁ with
    ⟨result, final⟩
  rw [hsettle] at hrun hserial hlive
  refine ⟨result, final, hrun, fun htimeout sh hsh => ?_, fun hthrough => ?_⟩
  · obtain ⟨i, hi⟩ := List.mem_iff_getElem?.mp hsh
    refine (hlive htimeout).through i sh ?_ hi
    -- there is a shell for every session
    have hlength := congrArg List.length hserial.given
    rw [Workshop.programs, List.length_map, List.length_map] at hlength
    rw [List.length_map, ← hlength]
    exact (List.getElem?_eq_some_iff.mp hi).1
  · have hperm := perm_commandTexts spec hsetup commands workers
    rw [← hgiven] at hperm
    rw [hserial.work_eq (hc.mono hperm.subset), done_of_through hthrough, hserial.given]
    exact runAll_perm hperm (hc.mono hperm.subset) w.work

/-- what is left of a command is that it was run -/
def markRun (text : String) (made : String → Bool) : String → Bool := Function.update made text true

/-- the second shell is always a step ahead -/
def turnsConduct : Conduct (String → Bool) where
  read := ShellStep.ofBlock
  prepare _ _ := some 0
  run _ text made := (some 0, markRun text made)
  moves _ := [.perform 1, .perform 0]
  clock tick := tick
  output _ := []
  cwd := "/"

theorem steady_turns : Steady turnsConduct markRun where
  run _ _ _ := ⟨0, rfl⟩
  prepare _ _ := ⟨0, rfl⟩
  moves _ m hm := by
    rcases List.mem_cons.mp hm with rfl | hm
    · exact ⟨1, rfl⟩
    · exact ⟨0, List.mem_singleton.mp hm⟩

theorem pairwiseCommute_markRun (texts : List String) : PairwiseCommute markRun texts := by
  intro a _ b _ made
  by_cases hab : a = b
  · rw [hab]
  · exact Function.update_comm (Ne.symm hab) true true made

/-- two workers run the commands of three sources -/
theorem compileObjects_confluent_turns :
    ∃ result final, outcome (Workshop.environment turnsConduct)
        (compileObjects threeSources "/build" 2 sampleConfig) ⟨fun _ => false, fun _ => none, [], 0⟩ =
          (result, final) ∧
      final.work = runAll markRun ["cc a.c", "cc b.c", "cc c.c"] fun _ => false := by
  have hsetup : commandTexts (setupSteps turnsConduct.read threeSources.initCommand) = [] := by
    decide
  have hread : ∀ worker,
      Reads turnsConduct.read sampleConfig.flavor (statusFile "/build" worker) :=
    fun worker => reads_ofBlock (statusFile "/build" worker)
  obtain ⟨result, final, hout, hthrough, hwork⟩ := compileObjects_confluent steady_turns
    (r := threeSources) (w := ⟨fun _ => false, fun _ => none, [], 0⟩) rfl hread hsetup
    (pairwiseCommute_markRun _) rfl
  have htexts : ["cc a.c", "cc b.c", "cc c.c"].map Text.trimEnd = ["cc a.c", "cc b.c", "cc c.c"] := by
    decide
  refine ⟨result, final, hout, ?_⟩
  rw [hwork (hthrough rfl), ← htexts]
  rfl

end ShellWorkers
