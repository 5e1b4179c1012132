import ShellWorkers.Build
import ShellWorkers.Proofs.RoundRobin
import ShellWorkers.Proofs.SessionTraces

/-!
# The steps of a build

The trace of a build is a course of steps: sessions are started and given their queues, finished
or abandoned; a log is written; status files are removed; the library is loaded.  What must have
happened before a step is its license (`BuildPlan.Licensed`), and it is the same on every path,
whatever fails.

* `BuildStep`, `BuildPlan.rules`   the steps, the events of each, and its license;
* `openedIn`, `finishedIn`         the sessions that are started and finished in steps;
* `goes_looks`                     requests that touch nothing;
* `runs_startWorkers`              a session more, or none and those so far abandoned.
-/

namespace ShellWorkers

open ShellWorkers.Action

/-! ## steps -/

inductive BuildStep where
  /-- the machine is asked about itself -/
  | looked (request : Host.Request)
  /-- a session has been started for a task and given its whole queue -/
  | opened (stage : Stage) (task : Task) (session : Session)
  /-- a session for a task cannot be started -/
  | refused (stage : Stage) (task : Task) (failure : Failure)
  | finished (stage : Stage) (session : Session) (result : Except Failure SessionReport)
  | abandoned (session : Session)
  /-- the log of a worker is written -/
  | logged (stage : Stage) (worker : Nat)
  /-- the status file of a worker is removed -/
  | removed (worker : Nat) (answer : Except SystemFault Unit)
  | loaded (path : String) (answer : Bool)

/-- the requests that touch nothing -/
def IsLook : Host.Request → Prop
  | .isDirectory _ => True
  | .currentDirectory => True
  | .cores => True
  | _ => False

/-- what is asked when a session is started for a task and given its whole queue -/
def Opens (spec : SessionSpec) (task : Task) (session : Session) (events : List HostEvent) : Prop :=
  ∃ removal process started, IsRemoval removal ∧
    session = { Session.fresh task.worker spec process started with
      submitted := task.commands.length } ∧
    events = Session.startEvents task.worker spec removal process started ++
      task.commands.map fun command => Session.sent process
        (Session.commandText spec.flavor (statusFile spec.dir task.worker) command)

/-! ## what is past -/

section

variable (stage : Stage)

def openedBy : BuildStep → Option (Task × Session)
  | .opened st task session => if st = stage then some (task, session) else none
  | _ => none

/-- the sessions that a stage has started, each with its task -/
def openedIn (past : List BuildStep) : List (Task × Session) := past.filterMap (openedBy stage)

def finishedBy : BuildStep → Option (Session × Except Failure SessionReport)
  | .finished st session result => if st = stage then some (session, result) else none
  | _ => none

/-- the sessions that a stage has finished, each with its result -/
def finishedIn (past : List BuildStep) : List (Session × Except Failure SessionReport) :=
  past.filterMap (finishedBy stage)

/-- every session that the stage has started is finished -/
def AllFinished (past : List BuildStep) : Prop :=
  (finishedIn stage past).map Prod.fst = (openedIn stage past).map Prod.snd

end

def removedBy : BuildStep → Option (Nat × Except SystemFault Unit)
  | .removed worker answer => some (worker, answer)
  | _ => none

/-- the workers whose status files are removed, each with the answer -/
def removedIn (past : List BuildStep) : List (Nat × Except SystemFault Unit) :=
  past.filterMap removedBy

/-- a report in which every code is zero -/
def IsClean (result : Except Failure SessionReport) : Prop :=
  ∃ report, result = .ok report ∧ ∀ code ∈ report.codes, code = 0

/-- a session could not be started, or the wait for one was cut off -/
def Interrupted (past : List BuildStep) : Prop :=
  (∃ stage task failure, .refused stage task failure ∈ past) ∨
    ∃ stage session failure, .finished stage session (.error failure) ∈ past ∧
      session.CutOff failure

/-! ## plans -/

/-- what a build is to do, once its directory and the number of its workers are known -/
structure BuildPlan where
  recipe : Recipe
  dir : String
  workers : Nat
  config : Config

namespace BuildPlan

def spec (p : BuildPlan) : SessionSpec := .ofRecipe p.recipe p.dir p.config

/-- the task of the link stage -/
def linkTask (p : BuildPlan) (objects : List String) : Task :=
  ⟨linkWorker, [p.recipe.linkCommand objects]⟩

/-- the tasks of a stage: the sources dealt to the workers, and the one command over the objects of
all sources -/
def tasks (p : BuildPlan) : Stage → Except Failure (List Task)
  | .compile => tasksOf p.recipe p.workers
  | .link => p.recipe.objects.map fun objects => [p.linkTask objects]

/-- every task of the stage has its session -/
def AllOpen (p : BuildPlan) (stage : Stage) (past : List BuildStep) : Prop :=
  p.tasks stage = .ok ((openedIn stage past).map Prod.fst)

/-- every session of the stage has reported, and all codes are zero -/
structure Succeeded (p : BuildPlan) (stage : Stage) (past : List BuildStep) : Prop where
  allOpen : p.AllOpen stage past
  allFinished : AllFinished stage past
  clean : ∀ f ∈ finishedIn stage past, IsClean f.2

/-- the status file of every worker is gone -/
structure Cleared (p : BuildPlan) (past : List BuildStep) : Prop where
  all : (removedIn past).map Prod.fst = List.range p.workers
  gone : ∀ r ∈ removedIn past, IsRemoval r.2

/-- A session may be started for the next task of a stage of which none is finished yet; the link
stage has to wait for the compile stage. -/
structure MayOpen (p : BuildPlan) (stage : Stage) (task : Task) (past : List BuildStep) : Prop where
  next : ∃ rest, p.tasks stage = .ok ((openedIn stage past).map Prod.fst ++ task :: rest)
  unfinished : finishedIn stage past = []
  compiled : stage = .link → p.Succeeded .compile past

/-- what must have happened before a step -/
def Licensed (p : BuildPlan) (past : List BuildStep) : BuildStep → Prop
  | .looked _ => True
  | .opened stage task _ => p.MayOpen stage task past
  | .refused stage task _ => p.MayOpen stage task past
  | .finished stage session _ => p.AllOpen stage past ∧
      ∃ rest, (openedIn stage past).map Prod.snd =
        (finishedIn stage past).map Prod.fst ++ session :: rest
  | .abandoned session => Interrupted past ∧ ∃ stage task, (task, session) ∈ openedIn stage past
  | .logged stage _ => p.AllOpen stage past ∧ AllFinished stage past ∧ ¬ p.Succeeded stage past
  | .removed worker _ => p.Succeeded .link past ∧ worker < p.workers ∧
      (removedIn past).map Prod.fst = List.range worker ∧ ∀ r ∈ removedIn past, IsRemoval r.2
  | .loaded path _ => p.Succeeded .link past ∧ p.Cleared past ∧ p.config.verify = true ∧
      ∃ dir, path = Path.join dir p.recipe.libraryFileName

/-- the events of a step -/
def Spells (p : BuildPlan) : BuildStep → List HostEvent → Prop
  | .looked request, events => IsLook request ∧ ∃ answer, events = [⟨request, answer⟩]
  | .opened _ task session, events => Opens p.spec task session events
  | .refused _ task failure, events =>
    Runs (Session.start task.worker p.spec) events (.error failure)
  | .finished _ session result, events => Runs session.finish events result
  | .abandoned session, events => Runs session.abandon events (.ok ())
  | .logged _ worker, events =>
    ∃ text answer, events = [⟨.writeFile (logFile p.dir worker) text, answer⟩]
  | .removed worker answer, events => events = [⟨.removeFile (statusFile p.dir worker), answer⟩]
  | .loaded path answer, events => events = [⟨.load path, answer⟩]

def rules (p : BuildPlan) : Rules BuildStep := ⟨p.Spells, p.Licensed⟩

/-- the workers of the compile stage are those below the number of workers -/
theorem tasks_workers {p : BuildPlan} (hp : 0 < p.workers) {tasks : List Task}
    (h : p.tasks .compile = .ok tasks) : tasks.map Task.worker = List.range p.workers := by
  have hcount : bucketCount p.workers = p.workers := if_neg (Nat.ne_of_gt hp)
  have hworker : ∀ bucket task, taskOf p.recipe bucket = .ok task → task.worker = bucket.2 := by
    intro bucket task htask
    unfold taskOf at htask
    cases hcommands : bucket.1.mapM p.recipe.objectCommand with
    | error e =>
      rw [hcommands] at htask
      exact nomatch htask
    | ok commands =>
      rw [hcommands] at htask
      exact (congrArg Task.worker (Except.ok.inj htask)).symm
  have : Inhabited Task := ⟨⟨0, []⟩⟩
  obtain ⟨taskFor, htask, rfl⟩ := exists_of_mapM_eq_ok h
  have hsnd : ∀ bucket ∈ (partition p.recipe.sources p.workers).zipIdx,
      (Task.worker ∘ taskFor) bucket = bucket.2 := fun bucket hb =>
    hworker bucket _ (htask bucket hb)
  rw [List.map_map, List.map_congr_left hsnd, List.zipIdx_map_snd, length_partition, hcount,
    List.range_eq_range']

end BuildPlan

/-! ## steps that are added -/

section

variable {p : BuildPlan} {stage : Stage} {past : List BuildStep} {step : BuildStep}

theorem openedIn_concat (h : openedBy stage step = none) :
    openedIn stage (past ++ [step]) = openedIn stage past := by
  rw [openedIn, List.filterMap_append, List.filterMap_cons_none h, List.filterMap_nil,
    List.append_nil]
  rfl

theorem openedIn_opened (past : List BuildStep) (stage : Stage) (task : Task) (s : Session) :
    openedIn stage (past ++ [.opened stage task s]) = openedIn stage past ++ [(task, s)] := by
  have hstep : openedBy stage (.opened stage task s) = some (task, s) := if_pos rfl
  rw [openedIn, List.filterMap_append, List.filterMap_cons_some hstep]
  rfl

theorem finishedIn_concat (h : finishedBy stage step = none) :
    finishedIn stage (past ++ [step]) = finishedIn stage past := by
  rw [finishedIn, List.filterMap_append, List.filterMap_cons_none h, List.filterMap_nil,
    List.append_nil]
  rfl

theorem finishedIn_finished (past : List BuildStep) (stage : Stage) (s : Session)
    (result : Except Failure SessionReport) :
    finishedIn stage (past ++ [.finished stage s result]) =
      finishedIn stage past ++ [(s, result)] := by
  have hstep : finishedBy stage (.finished stage s result) = some (s, result) := if_pos rfl
  rw [finishedIn, List.filterMap_append, List.filterMap_cons_some hstep]
  rfl

theorem removedIn_concat (h : removedBy step = none) :
    removedIn (past ++ [step]) = removedIn past := by
  rw [removedIn, List.filterMap_append, List.filterMap_cons_none h, List.filterMap_nil,
    List.append_nil]
  rfl

/-- a step that is about the sessions of one stage, if about any, and does not refuse one -/
structure BuildStep.IsOf (stage : Stage) (step : BuildStep) : Prop where
  opened : ∀ other, other ≠ stage → openedBy other step = none
  finished : ∀ other, other ≠ stage → finishedBy other step = none
  removed : removedBy step = none
  started : ∀ other task failure, step ≠ .refused other task failure

theorem isOf_opened (stage : Stage) (task : Task) (s : Session) :
    (BuildStep.opened stage task s).IsOf stage :=
  ⟨fun _ h => if_neg h.symm, fun _ _ => rfl, rfl, fun _ _ _ h => nomatch h⟩

theorem isOf_finished (stage : Stage) (s : Session) (result : Except Failure SessionReport) :
    (BuildStep.finished stage s result).IsOf stage :=
  ⟨fun _ _ => rfl, fun _ h => if_neg h.symm, rfl, fun _ _ _ h => nomatch h⟩

theorem isOf_abandoned (stage : Stage) (s : Session) : (BuildStep.abandoned s).IsOf stage :=
  ⟨fun _ _ => rfl, fun _ _ => rfl, rfl, fun _ _ _ h => nomatch h⟩

theorem isOf_logged (stage : Stage) (worker : Nat) : (BuildStep.logged stage worker).IsOf stage :=
  ⟨fun _ _ => rfl, fun _ _ => rfl, rfl, fun _ _ _ h => nomatch h⟩

theorem isOf_looked (stage : Stage) (r : Host.Request) : (BuildStep.looked r).IsOf stage :=
  ⟨fun _ _ => rfl, fun _ _ => rfl, rfl, fun _ _ _ h => nomatch h⟩

namespace BuildPlan

theorem Succeeded.concat (h : p.Succeeded stage past) (ho : openedBy stage step = none)
    (hf : finishedBy stage step = none) : p.Succeeded stage (past ++ [step]) := by
  refine ⟨?_, ?_, ?_⟩
  · rw [AllOpen, openedIn_concat ho]
    exact h.allOpen
  · rw [AllFinished, openedIn_concat ho, finishedIn_concat hf]
    exact h.allFinished
  · rw [finishedIn_concat hf]
    exact h.clean

/-- no session has been refused -/
def Untroubled (past : List BuildStep) : Prop :=
  ∀ stage task failure, .refused stage task failure ∉ past

theorem Untroubled.concat (h : Untroubled past)
    (hs : ∀ stage task failure, step ≠ .refused stage task failure) :
    Untroubled (past ++ [step]) := by
  intro st task failure hmem
  rcases List.mem_append.mp hmem with hmem | hmem
  · exact h st task failure hmem
  · exact hs st task failure (List.mem_singleton.mp hmem).symm

/-- what holds before a stage starts, and as long as its sessions go on -/
def Before (p : BuildPlan) : Stage → List BuildStep → Prop
  | .compile, past => Untroubled past ∧ openedIn .link past = [] ∧ finishedIn .link past = [] ∧
      removedIn past = []
  | .link, past => Untroubled past ∧ p.Succeeded .compile past ∧ removedIn past = []

theorem Before.concat (h : p.Before stage past) (hs : step.IsOf stage) :
    p.Before stage (past ++ [step]) := by
  have huntroubled : Untroubled past → Untroubled (past ++ [step]) := fun hpast =>
    hpast.concat hs.started
  cases stage with
  | compile =>
    obtain ⟨hpast, hopened, hfinished, hremoved⟩ := h
    refine ⟨huntroubled hpast, ?_, ?_, ?_⟩
    · rw [openedIn_concat (hs.opened .link (fun h => nomatch h)), hopened]
    · rw [finishedIn_concat (hs.finished .link (fun h => nomatch h)), hfinished]
    · rw [removedIn_concat hs.removed, hremoved]
  | link =>
    obtain ⟨hpast, hcompiled, hremoved⟩ := h
    refine ⟨huntroubled hpast, ?_, ?_⟩
    · exact hcompiled.concat (hs.opened _ (fun h => nomatch h)) (hs.finished _ (fun h => nomatch h))
    · rw [removedIn_concat hs.removed, hremoved]

end BuildPlan

end

/-! ## what is asked besides -/

/-- requests that touch nothing are steps of their own -/
theorem course_looks (p : BuildPlan) {events : List HostEvent} (h : ∀ e ∈ events, IsLook e.1)
    (past : List BuildStep) :
    p.rules.Course past (events.map fun e => .looked e.1) events := by
  induction events generalizing past with
  | nil => exact .nil past
  | cons e events ih =>
    obtain ⟨he, hrest⟩ := List.forall_mem_cons.mp h
    have hspells : p.rules.Spells (.looked e.1) [e] := ⟨he, e.2, rfl⟩
    exact .cons trivial hspells (ih hrest _)

theorem goes_looks {p : BuildPlan} {P : List BuildStep → Prop} {α : Type} {x : Action α}
    (hx : Asks IsLook x) (hP : ∀ past r, P past → P (past ++ [.looked r])) :
    p.rules.Goes P x fun result steps => P steps ∧ ∃ events, Runs x events result := by
  intro past events result hp hr
  refine ⟨_, course_looks p (Interaction.Asks.of_runs hx hr) past, ?_, events, hr⟩
  clear hr
  induction events generalizing past with
  | nil =>
    rw [List.map_nil, List.append_nil]
    exact hp
  | cons e events ih =>
    rw [List.map_cons, List.append_cons]
    exact ih _ (hP past e.1 hp)

theorem absolute_asks (path : String) : Asks IsLook (absolute path) := by
  unfold absolute
  split
  · exact asks_fail _
  · split
    · exact asks_pure _
    · refine asks_bind (asks_request trivial) fun cwd => asks_bind ?_ fun _ => asks_pure _
      cases cwd with
      | error cause => exact asks_fail _
      | ok cwd => exact asks_pure _

theorem absolute_endsIn (path : String) : EndsIn Failure.IsReported (absolute path) := by
  unfold absolute
  split
  · exact endsIn_fail id
  · split
    · exact endsIn_pure _
    · refine endsIn_bind (endsIn_request _) fun cwd => endsIn_bind ?_ fun _ => endsIn_pure _
      cases cwd with
      | error cause => exact endsIn_fail id
      | ok cwd => exact endsIn_pure _

theorem checkInputs_asks (r : Recipe) (dir : String) : Asks IsLook (checkInputs r dir) := by
  unfold checkInputs
  split
  · exact asks_fail _
  · refine asks_bind (asks_request trivial) fun found => ?_
    split
    · exact asks_pure _
    · exact asks_fail _

theorem finishWorkers_asks {P : Host.Request → Prop} {sessions : List Session}
    (h : ∀ s ∈ sessions, ∀ r, s.IsEnding r → P r) : Asks P (finishWorkers sessions) := by
  induction sessions with
  | nil => exact asks_pure _
  | cons s sessions ih =>
    obtain ⟨hs, hsessions⟩ := List.forall_mem_cons.mp h
    refine asks_bind (asks_lift (s.finish_asks.mono hs)) fun result => ?_
    have hrest : ∀ result, Asks P (finishWorkers sessions >>= fun results =>
        pure ((result : Except BuildError SessionReport) :: results)) :=
      fun _ => asks_bind (ih hsessions) fun _ => asks_pure _
    split
    · exact hrest _
    · exact hrest _
    · exact asks_bind (Session.abandonAll_asks hsessions) fun _ => asks_throw _

section

variable {P : Host.Request → Prop} {dir : String}
  (h : ∀ worker text, P (.writeFile (logFile dir worker) text))

include h

theorem writeLog_asks (worker : Nat) (output : String) : Asks P (writeLog dir worker output) := by
  refine asks_bind (asks_request (h _ _)) fun answer => ?_
  cases answer with
  | ok a => exact asks_pure _
  | error cause => exact asks_bind (asks_fail _) fun _ => asks_pure _

/-- verdicts ask for logs -/
theorem checkWorkers_asks (stage : Stage) (worker : Nat)
    (results : List (Except BuildError SessionReport)) :
    Asks P (checkWorkers dir stage worker results) := by
  induction results generalizing worker with
  | nil => exact asks_pure _
  | cons result results ih =>
    refine asks_bind ?_ fun _ => ih (worker + 1)
    unfold checkWorker
    split
    · split
      · exact asks_bind (writeLog_asks h worker _) fun _ => asks_fail _
      · exact asks_fail _
    · split
      · exact asks_pure _
      · exact asks_bind (writeLog_asks h worker _) fun _ => asks_fail _

end

/-! ## the parts of a build -/

/-- what is found out before anything is started -/
def prepare (r : Recipe) (dir : String) (c : Config) : Action BuildPlan := do
  checkInputs r dir
  let dir ← absolute dir
  let cores ← request .cores
  pure ⟨r, dir, workerCount c.threads cores, c⟩

namespace BuildPlan

/-- both stages; answers where the library lies -/
def stages (p : BuildPlan) : Action String := do
  let objects ← compileObjects p.recipe p.dir p.workers p.config
  let library ← libraryPath p.recipe p.dir
  linkLibrary p.recipe p.dir objects p.config
  pure library

/-- what follows a successful link stage -/
def cleanUp (p : BuildPlan) (library : String) : Action String := do
  removeStatusFiles p.dir p.workers
  if p.config.verify then verifyLibrary library
  pure library

end BuildPlan

/-- a build prepares itself, goes through both stages, and cleans up -/
theorem build_eq (r : Recipe) (dir : String) (c : Config) :
    build r dir c = prepare r dir c >>= fun p => p.stages >>= p.cleanUp := by
  simp only [prepare, BuildPlan.stages, bind_assoc, pure_bind]
  rfl

theorem prepare_asks (r : Recipe) (dir : String) (c : Config) : Asks IsLook (prepare r dir c) :=
  asks_bind (checkInputs_asks r dir) fun _ => asks_bind (absolute_asks dir) fun _ =>
    asks_bind (asks_request trivial) fun _ => asks_pure _

/-- the directory is made absolute, and the cores are counted -/
theorem exists_of_runs_prepare {r : Recipe} {dir : String} {c : Config} {events : List HostEvent}
    {p : BuildPlan} (h : Runs (prepare r dir c) events (.ok p)) :
    ∃ found located cores, p = ⟨r, found, workerCount c.threads cores, c⟩ ∧
      Runs (absolute dir) located (.ok found) ∧ located ⊆ events ∧ ⟨.cores, cores⟩ ∈ events := by
  rcases runs_bind h with ⟨_, he, _⟩ | ⟨_, first, rest, rfl, _, habsolute⟩
  · exact nomatch he
  rcases runs_bind habsolute with ⟨_, he, _⟩ | ⟨found, second, rest, rfl, hfound, hcores⟩
  · exact nomatch he
  obtain ⟨cores, rest, rfl, hdone⟩ := runs_request_bind hcores
  obtain rfl := Except.ok.inj (runs_pure hdone).2
  exact ⟨found, second, cores, rfl, hfound,
    fun _ he => List.mem_append_right _ (List.mem_append_left _ he),
    List.mem_append_right _ (List.mem_append_right _ List.mem_cons_self)⟩

/-- what is found out is a plan for the recipe, with as many workers as the cores allow -/
theorem runs_prepare {r : Recipe} {dir : String} {c : Config} {events : List HostEvent}
    {p : BuildPlan} (h : Runs (prepare r dir c) events (.ok p)) :
    p.recipe = r ∧ p.config = c ∧
      ∃ cores, p.workers = workerCount c.threads cores ∧ ⟨.cores, cores⟩ ∈ events := by
  obtain ⟨_, _, cores, rfl, -, -, hcores⟩ := exists_of_runs_prepare h
  exact ⟨rfl, rfl, cores, rfl, hcores⟩

/-! ## one session more -/

theorem abandonAll_endsIn {P : Failure → Prop} (sessions : List Session) :
    EndsIn P (Session.abandonAll sessions) := by
  induction sessions with
  | nil => exact endsIn_pure _
  | cons s sessions ih => exact endsIn_bind s.abandon_endsIn fun _ => ih

theorem runs_abandonAll_throw {sessions : List Session} {failure : Failure} {α : Type}
    {events : List HostEvent} {result : Except Failure α}
    (h : Runs (Session.abandonAll sessions >>= fun _ => throw failure) events result) :
    result = .error failure ∧ Runs (Session.abandonAll sessions) events (.ok ()) := by
  rcases runs_bind h with ⟨e, _, he⟩ | ⟨_, first, second, rfl, habandon, hthrow⟩
  · exact (abandonAll_endsIn (P := fun _ => False) sessions _ _ he).elim
  · obtain ⟨rfl, rfl⟩ := runs_throw hthrow
    rw [List.append_nil]
    exact ⟨rfl, habandon⟩

/-- The session of the first task is started and given its queue, and the others follow; or it is
refused, and those that are started are abandoned. -/
theorem runs_startWorkers {spec : SessionSpec} {started : List Session} {task : Task}
    {tasks : List Task} {events : List HostEvent} {result : Except Failure (List Session)}
    (h : Runs (startWorkers spec started (task :: tasks)) events result) :
    (∃ failure first second, events = first ++ second ∧ result = .error failure ∧
        Runs (Session.start task.worker spec) first (.error failure) ∧
        Runs (Session.abandonAll started) second (.ok ())) ∨
      ∃ session first second, events = first ++ second ∧ Opens spec task session first ∧
        Runs (startWorkers spec (started ++ [session]) tasks) second result := by
  -- no session of its own comes from a refusal
  have hcatch : ∀ events result, Runs (tryCatch (Session.start task.worker spec) fun failure => do
      Session.abandonAll started
      throw failure) events result → (∃ s, result = .ok s ∧
        Runs (Session.start task.worker spec) events (.ok s)) ∨
      ∃ failure first second, events = first ++ second ∧ result = .error failure ∧
        Runs (Session.start task.worker spec) first (.error failure) ∧
        Runs (Session.abandonAll started) second (.ok ()) := by
    intro events result hr
    rcases runs_tryCatch hr with hok | ⟨failure, first, second, rfl, hstart, hhandle⟩
    · exact Or.inl hok
    · obtain ⟨rfl, habandon⟩ := runs_abandonAll_throw hhandle
      exact Or.inr ⟨failure, first, second, rfl, rfl, hstart, habandon⟩
  rcases runs_bind h with ⟨e, rfl, hr⟩ | ⟨s, first, rest, rfl, hr, hsubmit⟩
  · rcases hcatch _ _ hr with ⟨s, hs, _⟩ | ⟨failure, first, second, rfl, he, hstart, habandon⟩
    · exact nomatch hs
    · obtain rfl := Except.error.inj he
      exact Or.inl ⟨e, first, second, rfl, rfl, hstart, habandon⟩
  · rcases hcatch _ _ hr with ⟨s', hs, hstart⟩ | ⟨_, _, _, _, he, _⟩
    · obtain rfl := Except.ok.inj hs
      obtain ⟨removal, process, started, hgone, rfl, rfl⟩ := Session.runs_start hstart
      rcases runs_bind hsubmit with ⟨e, _, he⟩ | ⟨session, second, third, rfl, hsent, hnext⟩
      · exact nomatch (Session.runs_submitAll he).2
      · obtain ⟨rfl, hsession⟩ := Session.runs_submitAll hsent
        obtain rfl := Except.ok.inj hsession
        refine Or.inr ⟨_, _, third, (List.append_assoc _ _ _).symm,
          ⟨removal, process, started, hgone, ?_, rfl⟩, hnext⟩
        rw [show (Session.fresh task.worker spec process started).submitted = 0 from rfl,
          Nat.zero_add]
    · exact nomatch he

/-- the session of the link stage is started and given its command, or refused -/
theorem runs_linkLibrary {r : Recipe} {dir : String} {objects : List String} {c : Config}
    {events : List HostEvent} {result : Except Failure Unit}
    (h : Runs (linkLibrary r dir objects c) events result) :
    (∃ failure, result = .error failure ∧
        Runs (Session.start linkWorker (.ofRecipe r dir c)) events (.error failure)) ∨
      ∃ s first second, events = first ++ second ∧
        Opens (.ofRecipe r dir c) ⟨linkWorker, [r.linkCommand objects]⟩ s first ∧
        Runs (finishWorkers [s] >>= checkWorkers dir .link linkWorker) second result := by
  rcases runs_bind h with hrefused | ⟨fresh, first, rest, rfl, hstart, hsubmit⟩
  · exact Or.inl hrefused
  obtain ⟨removal, process, started, hgone, rfl, rfl⟩ := Session.runs_start hstart
  rcases runs_bind hsubmit with ⟨e, _, he⟩ | ⟨s, second, third, rfl, hsent, hend⟩
  · exact nomatch (Session.runs_submit he).2
  obtain ⟨rfl, hs⟩ := Session.runs_submit hsent
  obtain rfl := Except.ok.inj hs
  exact Or.inr ⟨_, _, third, (List.append_assoc _ _ _).symm,
    ⟨removal, process, started, hgone, rfl, rfl⟩, hend⟩

theorem runs_verifyLibrary {path : String} {events : List HostEvent} {result : Except Failure Unit}
    (h : Runs (verifyLibrary path) events result) :
    ∃ answer, events = [⟨.load path, answer⟩] ∧
      result = if answer then .ok () else .error (.error .libraryLoad) := by
  obtain ⟨answer, rest, rfl, hrest⟩ := runs_request_bind h
  cases answer with
  | true =>
    obtain ⟨rfl, rfl⟩ := runs_pure hrest
    exact ⟨true, rfl, rfl⟩
  | false =>
    obtain ⟨rfl, rfl⟩ := runs_fail hrest
    exact ⟨false, rfl, rfl⟩

/-- the result of a session that is kept for the verdict -/
abbrev keptResult (result : Except BuildError SessionReport) : Except Failure SessionReport :=
  result.mapError Failure.error

/-- The first session is finished, its result is kept, and the others follow; or the wait for it is
cut off, and the others are abandoned. -/
theorem runs_finishWorkers {s : Session} {sessions : List Session} {events : List HostEvent}
    {result : Except Failure (List (Except BuildError SessionReport))}
    (h : Runs (finishWorkers (s :: sessions)) events result) :
    (∃ kept first second, events = first ++ second ∧ Runs s.finish first (keptResult kept) ∧
        (∀ e, kept = .error e → ¬ e.IsRefusal) ∧
        Runs (finishWorkers sessions >>= fun more => pure (kept :: more)) second result) ∨
      ∃ failure first second, events = first ++ second ∧ result = .error failure ∧
        Runs s.finish first (.error failure) ∧ s.CutOff failure ∧
        Runs (Session.abandonAll sessions) second (.ok ()) := by
  rcases runs_bind h with ⟨e, rfl, hlift⟩ | ⟨answer, first, second, rfl, hlift, hrest⟩
  · obtain ⟨_, he, _⟩ := runs_lift hlift
    exact nomatch he
  obtain ⟨answer', he, hfinish⟩ := runs_lift hlift
  obtain rfl := Except.ok.inj he
  rcases answer with failure | report
  · have hreported := s.finish_endsIn _ _ hfinish
    cases failure with
    | error e =>
      have he : ¬ e.IsRefusal := hreported.resolve_right id
      exact Or.inl ⟨.error e, first, second, rfl, hfinish,
        fun own hown => Except.error.inj hown ▸ he, hrest⟩
    | separatorInExtension => exact (hreported.elim id id).elim
    | deadlineOverflow =>
      obtain ⟨rfl, habandon⟩ := runs_abandonAll_throw hrest
      exact Or.inr ⟨_, first, second, rfl, rfl, hfinish, hreported.resolve_left id, habandon⟩
    | clockStopped =>
      obtain ⟨rfl, habandon⟩ := runs_abandonAll_throw hrest
      exact Or.inr ⟨_, first, second, rfl, rfl, hfinish, hreported.resolve_left id, habandon⟩
  · exact Or.inl ⟨.ok report, first, second, rfl, hfinish, fun _ he => (nomatch he), hrest⟩

end ShellWorkers
