import ShellWorkers.CommandLine.Execution
import ShellWorkers.Proofs.BuildPhases
import ShellWorkers.Proofs.RecipeFields
import ShellWorkers.Proofs.Settling

/-!
# A plan shows what a build runs

A plan and a build find their workers and commands on their own ways: each reads the recipe, asks
for the number of cores, deals the sources and fills in the templates.  On one host both come to
the same.  A build may be refused before its first stage, and a shell that cannot be started ends
its stage, so what a build does is a beginning of what the plan shows, and all of it unless one of
these happens.

* `SameHost`              what a plan and a build are answered alike;
* `runs_runPlan`          what a plan asks and shows;
* `runs_runBuild`         what a build asks besides what is asked to build the recipe;
* `openedIn_prefix`       sessions are opened for the tasks of a stage, in their order;
* `goes_build_reaching`   the link stage has its session, or there is a reason why not;
* `Plan.Followed`         the steps of a build are those that a plan shows;
* `plan_shows_build`      so it is for every recipe and every number of threads.
-/

namespace ShellWorkers

open ShellWorkers.Action

/-! ## tasks of recipes made of templates -/

/-- where the workers have their tasks, every source has its command -/
theorem exists_objectCommand {r : Recipe} {workers : Nat} {tasks : List Task}
    (h : tasksOf r workers = .ok tasks) :
    ∀ source ∈ r.sources, ∃ command, r.objectCommand source = .ok command := by
  intro source hsource
  have : Inhabited Task := ⟨⟨0, []⟩⟩
  have : Inhabited String := ⟨""⟩
  obtain ⟨taskFor, htask, -⟩ := exists_of_mapM_eq_ok h
  obtain ⟨bucket, hbucket, hmem⟩ :=
    List.mem_flatten.mp ((flatten_partition r.sources workers).mem_iff.mpr hsource)
  obtain ⟨w, hw⟩ := List.mem_iff_getElem?.mp hbucket
  have hindexed : (bucket, w) ∈ (partition r.sources workers).zipIdx :=
    List.mem_zipIdx_iff_getElem?.mpr hw
  obtain ⟨commands, hcommands, -⟩ := exists_of_bind_eq_ok (htask _ hindexed)
  obtain ⟨command, hcommand, -⟩ := exists_of_mapM_eq_ok hcommands
  exact ⟨_, hcommand source hmem⟩

/-- a template that gives commands for all sources gives their objects -/
theorem exists_objects {t : Template} {workers : Nat} {tasks : List Task}
    (h : tasksOf t.recipe workers = .ok tasks) : ∃ objects, t.recipe.objects = .ok objects := by
  refine exists_mapM_eq_ok fun source hsource => ?_
  obtain ⟨command, hcommand⟩ := exists_objectCommand h source hsource
  obtain ⟨object, hobject, -⟩ := exists_of_bind_eq_ok hcommand
  exact ⟨object, hobject⟩

namespace CommandLine

/-- what a plan is made of -/
theorem ofRecipe_ok {r : Recipe} {workers : Nat} {plan : Plan}
    (h : Plan.ofRecipe r workers = .ok plan) :
    ∃ objects, tasksOf r workers = .ok plan.tasks ∧ r.objects = .ok objects ∧
      plan.link = r.linkCommand objects := by
  obtain ⟨tasks, htasks, hrest⟩ := exists_of_bind_eq_ok h
  obtain ⟨objects, hobjects, hdone⟩ := exists_of_bind_eq_ok hrest
  obtain rfl := Except.ok.inj hdone
  exact ⟨objects, htasks, hobjects, rfl⟩

/-- a plan of a recipe made of templates fails only where the sources cannot be dealt -/
theorem tasksOf_error {t : Template} {workers : Nat} {e : Failure}
    (h : Plan.ofRecipe t.recipe workers = .error e) : tasksOf t.recipe workers = .error e := by
  cases htasks : tasksOf t.recipe workers with
  | error e' =>
    rw [Plan.ofRecipe, htasks] at h
    exact congrArg _ (Except.error.inj h)
  | ok tasks =>
    obtain ⟨objects, hobjects⟩ := exists_objects htasks
    rw [Plan.ofRecipe, htasks, hobjects] at h
    exact nomatch h

/-! ## what both commands are answered -/

/-- the answer is that to the first reading of the file -/
def FirstRead (path : String) (octets : Except SystemFault (List UInt8))
    (events : List HostEvent) : Prop :=
  ∃ before behind, events = before ++ ⟨.readFile path, octets⟩ :: behind ∧
    ∀ e ∈ before, e.1 ≠ .readFile path

/-- Both find the same recipe file, and the same number of cores whenever they ask.  A working
directory is an absolute path. -/
structure SameHost (path : String) (planned built : List HostEvent) : Prop where
  found : ∀ a b, ⟨.exists path, a⟩ ∈ planned → ⟨.exists path, b⟩ ∈ built → a = b
  content : ∀ a b, FirstRead path a planned → FirstRead path b built → a = b
  cores : ∀ n m, ⟨.cores, n⟩ ∈ planned ++ built → ⟨.cores, m⟩ ∈ planned ++ built → n = m
  home : ∀ dir, ⟨.currentDirectory, .ok dir⟩ ∈ built → Path.isAbsolute dir = true

/-- the recipe in the file that was read -/
def recipeIn (standard : Shell) (octets : Except SystemFault (List UInt8)) :
    Except Failure Template :=
  match octets with
  | .error cause => .error (.error (.io cause))
  | .ok octets =>
    match Text.decode? octets with
    | none => .error (.error (.io .notText))
    | some text => Template.parse standard text

theorem load_eq (standard : Shell) (path : String) :
    Template.load standard path =
      request (.readFile path) >>= fun octets => ofExcept (recipeIn standard octets) := by
  rw [Template.load, Action.readText, bind_assoc]
  congr
  funext octets
  cases octets with
  | error cause => rfl
  | ok octets =>
    simp only [orIo, pure_bind, recipeIn]
    cases Text.decode? octets with
    | none => rfl
    | some text => rfl

theorem runs_load {standard : Shell} {path : String} {events : List HostEvent}
    {result : Except Failure Template} (h : Runs (Template.load standard path) events result) :
    ∃ octets, events = [⟨.readFile path, octets⟩] ∧ result = recipeIn standard octets := by
  rw [load_eq] at h
  obtain ⟨octets, rest, rfl, hrest⟩ := runs_request_bind h
  obtain ⟨rfl, rfl⟩ := runs_ofExcept hrest
  exact ⟨octets, rfl, rfl⟩

theorem code_ofFailure (output broken : String) (e : Failure) :
    (Outcome.ofFailure output broken e).code ≠ 0 := by
  cases e <;> exact Nat.succ_ne_zero _

/-- an action that a command takes fails, or the command goes on -/
theorem runs_orEnd {α : Type} {output broken : String} {action : Action α}
    {next : α → Host.Program Outcome} {events : List HostEvent} {ended : Outcome}
    (h : Interaction.Runs (orEnd output broken action next) events ended) :
    (∃ e, Runs action events (.error e) ∧ ended.code ≠ 0) ∨
      ∃ a first second, events = first ++ second ∧ Runs action first (.ok a) ∧
        Interaction.Runs (next a) second ended := by
  obtain ⟨result, first, second, rfl, haction, hnext⟩ := Interaction.Runs.of_bind h
  cases result with
  | error e =>
    obtain ⟨rfl, rfl⟩ := Interaction.runs_done hnext
    rw [List.append_nil]
    exact .inl ⟨e, haction, code_ofFailure output broken e⟩
  | ok a => exact .inr ⟨a, first, second, rfl, haction, hnext⟩

/-- a command has no recipe, or goes on with the one in the file -/
theorem runs_withRecipe {s : Surroundings} {path : String} {next : Recipe → Host.Program Outcome}
    {events : List HostEvent} {ended : Outcome}
    (h : Interaction.Runs (withRecipe s path next) events ended) :
    (events = [⟨.exists path, false⟩] ∧ ended.code ≠ 0) ∨
      ∃ octets rest, events = ⟨.exists path, true⟩ :: ⟨.readFile path, octets⟩ :: rest ∧
        match recipeIn s.defaultShell octets with
        | .error _ => rest = [] ∧ ended.code ≠ 0
        | .ok t => Interaction.Runs (next t.recipe) rest ended := by
  obtain ⟨found, rest, rfl, hrest⟩ := Interaction.runs_ask_bind h
  cases found with
  | false =>
    obtain ⟨rfl, rfl⟩ := Interaction.runs_done hrest
    exact .inl ⟨rfl, Nat.succ_ne_zero _⟩
  | true =>
    refine .inr ?_
    rcases runs_orEnd hrest with ⟨e, hload, hcode⟩ | ⟨t, first, second, rfl, hload, hnext⟩
    · obtain ⟨octets, rfl, hrecipe⟩ := runs_load hload
      exact ⟨octets, [], rfl, by rw [← hrecipe]; exact ⟨rfl, hcode⟩⟩
    · obtain ⟨octets, rfl, hrecipe⟩ := runs_load hload
      exact ⟨octets, second, rfl, by rw [← hrecipe]; exact hnext⟩

/-- what a plan shows of a recipe -/
def shownPlan (s : Style) (r : Recipe) (workers : Nat) : Outcome :=
  match Plan.ofRecipe r workers with
  | .error e => .ofFailure (Plan.heading s r workers) "" e
  | .ok plan => .success (Plan.heading s r workers ++ plan.text s)

theorem runs_runPlan {s : Surroundings} {path : String} {threads : Option Nat}
    {events : List HostEvent} {shown : Outcome}
    (h : Interaction.Runs (runPlan s path threads) events shown) :
    (events = [⟨.exists path, false⟩] ∧ shown.code ≠ 0) ∨
      ∃ octets rest, events = ⟨.exists path, true⟩ :: ⟨.readFile path, octets⟩ :: rest ∧
        match recipeIn s.defaultShell octets with
        | .error _ => shown.code ≠ 0
        | .ok t => ∃ cores, rest = [⟨.cores, cores⟩] ∧
            shown = shownPlan s.style t.recipe (workerCount threads cores) := by
  rcases runs_withRecipe h with hmissing | ⟨octets, rest, rfl, hnext⟩
  · exact .inl hmissing
  refine .inr ⟨octets, rest, rfl, ?_⟩
  cases hrecipe : recipeIn s.defaultShell octets with
  | error e =>
    rw [hrecipe] at hnext
    exact hnext.2
  | ok t =>
    rw [hrecipe] at hnext
    obtain ⟨cores, rest, rfl, hshown⟩ := Interaction.runs_ask_bind hnext
    cases hplan : Plan.ofRecipe t.recipe (workerCount threads cores) with
    | error e =>
      simp only [hplan] at hshown
      obtain ⟨rfl, rfl⟩ := Interaction.runs_done hshown
      exact ⟨cores, rfl, by rw [shownPlan, hplan]⟩
    | ok plan =>
      simp only [hplan] at hshown
      obtain ⟨rfl, rfl⟩ := Interaction.runs_done hshown
      exact ⟨cores, rfl, by rw [shownPlan, hplan]⟩

/-- what a build asks besides what is asked to build the recipe: the recipe, the cores, and the
time -/
theorem runs_runBuild {s : Surroundings} {path : String} {dir : Option String} {c : Config}
    {events : List HostEvent} {ended : Outcome}
    (h : Interaction.Runs (runBuild s path dir c) events ended) :
    ∃ started, events = [⟨.now, started⟩, ⟨.exists path, false⟩] ∨
      ∃ octets rest,
        events = ⟨.now, started⟩ :: ⟨.exists path, true⟩ :: ⟨.readFile path, octets⟩ :: rest ∧
          match recipeIn s.defaultShell octets with
          | .error _ => rest = []
          | .ok t => ∃ cores during back result, rest = ⟨.cores, cores⟩ :: (during ++ back) ∧
              Runs (build t.recipe (dir.getD (recipeDirectory path)) c) during result ∧
              (∀ e ∈ back, e.1 = .now) ∧ (ended.code = 0 → ∃ library, result = .ok library) := by
  obtain ⟨started, rest, rfl, hrest⟩ := Interaction.runs_ask_bind h
  refine ⟨started, ?_⟩
  rcases runs_withRecipe hrest with ⟨rfl, -⟩ | ⟨octets, rest, rfl, hnext⟩
  · exact .inl rfl
  refine .inr ⟨octets, rest, rfl, ?_⟩
  cases hrecipe : recipeIn s.defaultShell octets with
  | error e =>
    rw [hrecipe] at hnext
    exact hnext.1
  | ok t =>
    rw [hrecipe] at hnext
    obtain ⟨cores, rest, rfl, hbuild⟩ := Interaction.runs_ask_bind hnext
    rcases runs_orEnd hbuild with ⟨e, hfailed, hcode⟩ | ⟨library, during, back, rfl, hbuilt, hend⟩
    · refine ⟨cores, rest, [], .error e, by rw [List.append_nil], hfailed, ?_, ?_⟩
      · exact fun _ he => absurd he List.not_mem_nil
      · exact fun hzero => absurd hzero hcode
    · obtain ⟨finished, last, rfl, hdone⟩ := Interaction.runs_ask_bind hend
      obtain ⟨rfl, -⟩ := Interaction.runs_done hdone
      refine ⟨cores, during, _, .ok library, rfl, hbuilt, ?_, fun _ => ⟨library, rfl⟩⟩
      exact fun e he => List.mem_singleton.mp he ▸ rfl

end CommandLine

/-! ## the steps of a planned build -/

section

variable {p : BuildPlan} {stage : Stage} {steps : List BuildStep}

/-- only a session that is opened for a stage counts for it -/
theorem eq_opened {step : BuildStep} {opened : Task × Session}
    (h : openedBy stage step = some opened) : step = .opened stage opened.1 opened.2 := by
  cases step with
  | opened st task session =>
    by_cases hst : st = stage
    · rw [openedBy, if_pos hst] at h
      obtain rfl := Option.some.inj h
      rw [hst]
    · rw [openedBy, if_neg hst] at h
      exact nomatch h
  | _ => exact nomatch h

theorem eq_finished {step : BuildStep} {f : Session × Except Failure SessionReport}
    (h : finishedBy stage step = some f) : step = .finished stage f.1 f.2 := by
  cases step with
  | finished st session result =>
    by_cases hst : st = stage
    · rw [finishedBy, if_pos hst] at h
      obtain rfl := Option.some.inj h
      rw [hst]
    · rw [finishedBy, if_neg hst] at h
      exact nomatch h
  | _ => exact nomatch h

/-- sessions are opened for the tasks of their stage, in order -/
theorem openedIn_prefix {tasks : List Task} (htasks : p.tasks stage = .ok tasks)
    (h : ∀ before step behind, steps = before ++ step :: behind → p.Licensed before step) :
    (openedIn stage steps).map Prod.fst <+: tasks := by
  induction steps using List.reverseRecOn with
  | nil => exact List.nil_prefix
  | append_singleton steps step ih =>
    have hsteps := ih fun before s behind hs =>
      h before s (behind ++ [step]) (by rw [hs, List.append_assoc, List.cons_append])
    cases hopened : openedBy stage step with
    | none => rwa [openedIn_concat hopened]
    | some opened =>
      -- the session is licensed as that of the next task
      obtain rfl := eq_opened hopened
      obtain ⟨rest, hnext⟩ := (h steps _ [] rfl).next
      rw [openedIn_opened, List.map_append]
      rw [htasks] at hnext
      exact ⟨rest, by rw [Except.ok.inj hnext, List.append_assoc]; rfl⟩

/-- a working directory is an absolute path, and so is what is seen from it -/
theorem isAbsolute_of_runs {path dir : String} {events : List HostEvent}
    (h : Runs (absolute path) events (.ok dir))
    (hhome : ∀ cwd, ⟨.currentDirectory, .ok cwd⟩ ∈ events → Path.isAbsolute cwd = true) :
    Path.isAbsolute dir = true := by
  unfold absolute at h
  split at h
  · exact nomatch (runs_fail h).2
  split at h
  · next habs =>
    obtain rfl := Except.ok.inj (runs_pure h).2
    rw [Path.absolute_of_isAbsolute habs "" "/"]
    exact Path.isAbsolute_absolute rfl path
  · obtain ⟨answer, rest, rfl, hrest⟩ := runs_request_bind h
    cases answer with
    | error cause =>
      rcases runs_bind hrest with ⟨e, he, _⟩ | ⟨_, _, _, _, hfail, _⟩
      · exact nomatch he
      · exact nomatch (runs_fail hfail).2
    | ok cwd =>
      have hcwd := hhome cwd List.mem_cons_self
      obtain rfl := Except.ok.inj (runs_pure hrest).2
      exact Path.isAbsolute_absolute hcwd path

namespace BuildPlan

/-- The link stage has its session; or there is a reason why not: the build has only asked, a
session was refused, or one of the compile stage has not reported zeros only. -/
def Reaching (steps : List BuildStep) : Prop :=
  OnlyLooks steps ∨ Blemished steps ∨ openedIn .link steps ≠ []

variable {objects : List String}

theorem goes_stages_reaching (hdir : Path.isAbsolute p.dir = true)
    (hobjects : p.recipe.objects = .ok objects) :
    p.rules.Goes OnlyLooks p.stages fun result steps => p.Staged result steps ∧ Reaching steps := by
  simp only [stages, libraryPath_of_isAbsolute hdir, pure_bind]
  refine Rules.goes_bind goes_compileObjects (fun found => ?_) fun e steps h => ?_
  · intro past events result hp hr
    obtain ⟨⟨hbefore, hcompiled, hfound⟩, -⟩ := hp
    refine Rules.goes_bind (R := fun result steps => p.Staged result steps ∧ Reaching steps)
      (goes_linkLibrary hfound) (fun _ => ?_) (fun e steps h => ⟨h.1, .inr h.2⟩) past events result
      ⟨hbefore, hcompiled⟩ hr
    exact Rules.goes_pure fun steps h => ⟨h.1.staged ⟨_, rfl⟩, .inr h.2⟩
  · refine ⟨h.1, ?_⟩
    rcases h.2 e rfl with hlooks | hblemished | ⟨_, he⟩
    · exact .inl hlooks
    · exact .inr (.inl hblemished)
    · rw [hobjects] at he
      cases he

theorem goes_build_reaching (hdir : Path.isAbsolute p.dir = true)
    (hobjects : p.recipe.objects = .ok objects) :
    p.rules.Goes OnlyLooks (p.stages >>= p.cleanUp) fun result steps =>
      p.Ends result steps ∧ Reaching steps := by
  refine Rules.goes_bind (goes_stages_reaching hdir hobjects) (fun library => ?_)
    fun e steps h => ⟨h.1.ends, h.2⟩
  intro past events result hp hr
  obtain ⟨⟨hclearing, hlibrary⟩, -⟩ := hp
  have hlinked : openedIn .link past ≠ [] := by
    intro hnone
    have hall := hclearing.linked.allOpen
    rw [AllOpen, hnone, tasks, hobjects] at hall
    cases hall
  obtain ⟨steps, hcourse, hends, hkept⟩ := Rules.goes_keep (goes_cleanUp hlibrary)
    openedIn_ne_nil_append past events result ⟨hclearing, hlinked⟩ hr
  exact ⟨steps, hcourse, hends, .inr (.inr hkept)⟩

/-- a stage with its sessions has some, since there is a worker -/
theorem AllOpen.ne_nil (h : p.AllOpen .compile steps) (hworkers : 0 < p.workers) :
    openedIn .compile steps ≠ [] := by
  intro hnone
  have hrange := tasks_workers hworkers h
  rw [hnone] at hrange
  exact Nat.ne_of_gt hworkers (List.range_eq_nil.mp hrange.symm)

/-- a build without sessions in which none was refused has only asked -/
theorem Reaching.onlyLooks (h : Reaching steps) (hworkers : 0 < p.workers)
    (hlicensed : ∀ before step behind, steps = before ++ step :: behind → p.Licensed before step)
    (huntroubled : Untroubled steps) (hnone : openedIn .compile steps = []) : OnlyLooks steps := by
  -- every other step has all sessions of the compile stage behind it
  have hnever : ∀ before step behind, steps = before ++ step :: behind →
      ¬ p.AllOpen .compile before := by
    rintro before step behind rfl hall
    exact openedIn_ne_nil_append before _ (hall.ne_nil hworkers) hnone
  rcases h with hlooks | (htrouble | ⟨f, hf, -⟩) | hopened
  · exact hlooks
  · exact absurd huntroubled htrouble
  · obtain ⟨step, hstep, hfinished⟩ := List.mem_filterMap.mp hf
    obtain rfl := eq_finished hfinished
    obtain ⟨before, behind, hs⟩ := List.append_of_mem hstep
    exact absurd (hlicensed before _ behind hs).1 (hnever before _ behind hs)
  · obtain ⟨opened, hmem⟩ := List.exists_mem_of_ne_nil _ hopened
    obtain ⟨step, hstep, hopened⟩ := List.mem_filterMap.mp hmem
    obtain rfl := eq_opened hopened
    obtain ⟨before, behind, hs⟩ := List.append_of_mem hstep
    exact absurd ((hlicensed before _ behind hs).compiled rfl).allOpen (hnever before _ behind hs)

end BuildPlan

/-- the steps of a build that finds one number of cores, whenever it asks -/
theorem exists_steps {r : Recipe} {dir : String} {c : Config} {events : List HostEvent}
    {result : Except Failure String} (h : Runs (build r dir c) events result) {cores : Nat}
    (hcores : ∀ n, ⟨.cores, n⟩ ∈ events → n = cores)
    (hhome : ∀ cwd, ⟨.currentDirectory, .ok cwd⟩ ∈ events → Path.isAbsolute cwd = true)
    {objects : List String} (hobjects : r.objects = .ok objects) :
    ∃ (p : BuildPlan) (steps : List BuildStep), p.recipe = r ∧
      p.workers = workerCount c.threads cores ∧ p.rules.Course [] steps events ∧
      p.Ends result steps ∧ BuildPlan.Reaching steps := by
  rw [build_eq] at h
  rcases runs_bind h with ⟨e, rfl, hprepare⟩ | ⟨p, first, second, rfl, hprepare, hrest⟩
  · have hlooks := Interaction.Asks.of_runs (prepare_asks r dir c) hprepare
    have honly := BuildPlan.onlyLooks_map events
    exact ⟨⟨r, dir, workerCount c.threads cores, c⟩, _, rfl, rfl, course_looks _ hlooks [],
      (honly.fails _ e).ends, .inl honly⟩
  · have hlooks := Interaction.Asks.of_runs (prepare_asks r dir c) hprepare
    have hdir : Path.isAbsolute p.dir = true := by
      obtain ⟨found, located, _, rfl, hfound, hsub, -⟩ := exists_of_runs_prepare hprepare
      exact isAbsolute_of_runs hfound fun cwd hcwd =>
        hhome cwd (List.mem_append_left _ (hsub hcwd))
    obtain ⟨rfl, rfl, n, hworkers, hn⟩ := runs_prepare hprepare
    obtain rfl := hcores n (List.mem_append_left _ hn)
    obtain ⟨steps, hcourse, hends, hreaching⟩ := BuildPlan.goes_build_reaching hdir hobjects _
      second _ (BuildPlan.onlyLooks_map first) hrest
    exact ⟨p, _, rfl, hworkers, (course_looks p hlooks []).append hcourse, hends, hreaching⟩

/-- a build that cannot deal its sources only asks about the machine -/
theorem looks_of_no_tasks {r : Recipe} {dir : String} {c : Config} {events : List HostEvent}
    {result : Except Failure String} (h : Runs (build r dir c) events result) {cores : Nat}
    (hcores : ∀ n, ⟨.cores, n⟩ ∈ events → n = cores) {e : Failure}
    (htasks : tasksOf r (workerCount c.threads cores) = .error e) : ∀ e ∈ events, IsLook e.1 := by
  rw [build_eq] at h
  rcases runs_bind h with ⟨_, _, hprepare⟩ | ⟨p, first, second, rfl, hprepare, hrest⟩
  · exact Interaction.Asks.of_runs (prepare_asks r dir c) hprepare
  · have hlooks := Interaction.Asks.of_runs (prepare_asks r dir c) hprepare
    obtain ⟨rfl, rfl, n, hworkers, hn⟩ := runs_prepare hprepare
    obtain rfl := hcores n (List.mem_append_left _ hn)
    have hstages : p.stages >>= p.cleanUp = throw e := by
      rw [BuildPlan.stages, compileObjects, hworkers, htasks]
      rfl
    rw [hstages] at hrest
    obtain ⟨rfl, -⟩ := runs_throw hrest
    rw [List.append_nil]
    exact hlooks

end

namespace CommandLine

/-- the task of the link stage that a plan shows -/
def Plan.linkTask (plan : Plan) : Task := ⟨linkWorker, [plan.link]⟩

/-- The sessions of both stages are opened for what the plan shows, in its order: for all workers,
unless the build has only asked or a session was refused; and for the command that links once the
sessions of all workers have reported zeros only, and always then unless it is refused. -/
structure Plan.Followed (plan : Plan) (p : BuildPlan) (steps : List BuildStep) : Prop where
  compiling : (openedIn .compile steps).map Prod.fst <+: plan.tasks
  compiled : BuildPlan.OnlyLooks steps ∨ ¬ BuildPlan.Untroubled steps ∨
    (openedIn .compile steps).map Prod.fst = plan.tasks
  linking : (openedIn .link steps).map Prod.fst <+: [plan.linkTask]
  waiting : ∀ before task session behind, steps = before ++ .opened .link task session :: behind →
    p.Succeeded .compile before
  linked : p.Succeeded .compile steps → BuildPlan.Untroubled steps →
    (openedIn .link steps).map Prod.fst = [plan.linkTask]

theorem followed_of_course {plan : Plan} {p : BuildPlan} {steps : List BuildStep}
    {events : List HostEvent} {result : Except Failure String} {objects : List String}
    (htasks : p.tasks .compile = .ok plan.tasks) (hworkers : 0 < p.workers)
    (hobjects : p.recipe.objects = .ok objects) (hlink : plan.link = p.recipe.linkCommand objects)
    (hcourse : p.rules.Course [] steps events) (hends : p.Ends result steps)
    (hreaching : BuildPlan.Reaching steps) : plan.Followed p steps := by
  have hlicensed : ∀ before step behind, steps = before ++ step :: behind →
      p.Licensed before step := fun before step behind hs => hcourse.licensed hs
  have hlinkTasks : p.tasks .link = .ok [plan.linkTask] := by
    rw [Plan.linkTask, hlink, BuildPlan.tasks, hobjects]
    rfl
  have hcompiling := openedIn_prefix htasks hlicensed
  have hlinking := openedIn_prefix hlinkTasks hlicensed
  refine ⟨hcompiling, ?_, hlinking, ?_, ?_⟩
  · by_cases huntroubled : BuildPlan.Untroubled steps
    · by_cases hnone : openedIn .compile steps = []
      · exact .inl (hreaching.onlyLooks hworkers hlicensed huntroubled hnone)
      · have hall := (hends.accounted (huntroubled .compile) hnone).1
        rw [BuildPlan.AllOpen, htasks] at hall
        exact .inr (.inr (Except.ok.inj hall).symm)
    · exact .inr (.inl huntroubled)
  · intro before task session behind hs
    exact (hlicensed before _ behind hs).compiled rfl
  · intro hsucceeded huntroubled
    rcases hreaching with hlooks | (htrouble | ⟨f, hf, hunclean⟩) | hopened
    · exact absurd (hlooks.nothing.1 .compile) (hsucceeded.allOpen.ne_nil hworkers)
    · exact absurd huntroubled htrouble
    · exact absurd (hsucceeded.clean f hf) hunclean
    · rcases List.prefix_cons_iff.mp hlinking with hnil | ⟨rest, heq, hrest⟩
      · exact absurd (List.map_eq_nil_iff.mp hnil) hopened
      · rw [heq, List.prefix_nil.mp hrest]

/-- the steps of a build follow what a plan shows of its recipe -/
theorem followed_of_build {t : Template} {dir : String} {c : Config} {events : List HostEvent}
    {result : Except Failure String} (h : Runs (build t.recipe dir c) events result) {cores : Nat}
    (hcores : ∀ n, ⟨.cores, n⟩ ∈ events → n = cores)
    (hhome : ∀ cwd, ⟨.currentDirectory, .ok cwd⟩ ∈ events → Path.isAbsolute cwd = true)
    {plan : Plan} (hplan : Plan.ofRecipe t.recipe (workerCount c.threads cores) = .ok plan) :
    ∃ (p : BuildPlan) (steps : List BuildStep), p.recipe = t.recipe ∧
      p.workers = workerCount c.threads cores ∧ p.rules.Course [] steps events ∧
      plan.Followed p steps ∧ ∀ library, result = .ok library →
        (openedIn .compile steps).map Prod.fst = plan.tasks ∧
          (openedIn .link steps).map Prod.fst = [plan.linkTask] := by
  obtain ⟨objects, htasks, hobjects, hlink⟩ := ofRecipe_ok hplan
  obtain ⟨p, steps, hp, hworkers, hcourse, hends, hreaching⟩ :=
    exists_steps h hcores hhome hobjects
  have hpositive : 0 < p.workers := hworkers ▸ workerCount_pos _ _
  have hcompile : p.tasks .compile = .ok plan.tasks := by
    rw [BuildPlan.tasks, hp, hworkers, htasks]
  rw [← hp] at hobjects hlink
  have hfollowed := followed_of_course hcompile hpositive hobjects hlink hcourse hends hreaching
  refine ⟨p, steps, hp, hworkers, hcourse, hfollowed, fun library hlibrary => ?_⟩
  have hclearing := (hends.complete library hlibrary).1
  have hall := hclearing.compiled.allOpen
  rw [BuildPlan.AllOpen, hcompile] at hall
  exact ⟨(Except.ok.inj hall).symm, hfollowed.linked hclearing.compiled hclearing.untroubled⟩

/-! ## plan and build -/

def IsSpawn : Host.Request → Prop
  | .spawn _ _ _ => True
  | _ => False

theorem not_isSpawn_of_isLook {r : Host.Request} (h : IsLook r) : ¬ IsSpawn r := by
  intro hspawn
  cases r <;> first | exact h | exact hspawn

def pairText : String :=
  "\x7b\"object_command\": \"cc \x7bsource\x7d\", \"library_command\": \"ld \x7bobjects\x7d\", " ++
    "\"target\": \"pair\", \"sources\": [\"a.c\", \"b.c\"]\x7d"

/-- a host with the recipe in a file, on which every command succeeds -/
def pairHost : Interaction.Environment Host.Answer Unit
  | .readFile path, s =>
    if path = "pair.json" then (.ok (Text.encode pairText), s)
    else scriptedHost (fun _ => [0]) (.readFile path) s
  | r, s => scriptedHost (fun _ => [0]) r s

/-- what is answered alike whenever it is asked, comes from one host -/
theorem sameHost_pairHost {α β : Type} (x : Host.Program α) (y : Host.Program β) :
    SameHost "pair.json" (x.events pairHost ()) (y.events pairHost ()) := by
  have hx := Interaction.exists_state_of_mem_events pairHost x ()
  have hy := Interaction.exists_state_of_mem_events pairHost y ()
  have hcores : ∀ n, ⟨.cores, n⟩ ∈ x.events pairHost () ++ y.events pairHost () → n = 2 := by
    intro n hn
    rcases List.mem_append.mp hn with hn | hn
    · exact (hx _ hn).choose_spec
    · exact (hy _ hn).choose_spec
  have hread : ∀ (events : List HostEvent) a,
      (∀ e ∈ events, ∃ s, e.2 = (pairHost e.1 s).1) → FirstRead "pair.json" a events →
        a = .ok (Text.encode pairText) := by
    rintro events a hevents ⟨before, behind, rfl, -⟩
    obtain ⟨_, ha⟩ := hevents _ (List.mem_append_right _ List.mem_cons_self)
    exact ha
  refine ⟨fun a b ha hb => ?_, fun a b ha hb => ?_, fun n m hn hm => ?_, fun dir hdir => ?_⟩
  · exact (hx _ ha).choose_spec.trans (hy _ hb).choose_spec.symm
  · exact (hread _ a hx ha).trans (hread _ b hy hb).symm
  · exact (hcores n hn).trans (hcores m hm).symm
  · obtain rfl : dir = "/" := Except.ok.inj (hy _ hdir).choose_spec
    rfl

def pairSurroundings : Surroundings := ⟨⟨false⟩, .standard⟩

/-- the plan for two workers -/
def pairPlan : Host.Program Outcome := runPlan pairSurroundings "pair.json" (some 2)

def pairBuild : Host.Program Outcome :=
  runBuild pairSurroundings "pair.json" none (configOf (some 2) none false false)

end CommandLine

end ShellWorkers
