import ShellWorkers.Proofs.BuildPhases
import ShellWorkers.Proofs.Places

/-!
# What a build cleans up

A build that answers with a library leaves no status file of its sessions, and what it does behind
its link stage touches nothing else.

* `RemovesFiles`         what the removal of a file does to the files;
* `untilLinked`          a build up to the end of its link stage;
* `outcome_removeAll`    the status files of workers are gone, and nothing else is;
* `build_cleansUp`       the sessions of a build, its cleanup, and the files behind it.
-/

namespace ShellWorkers

open ShellWorkers.Action

variable {σ : Type} {env : Interaction.Environment Host.Answer σ} {files : σ → Files}
  {Still : σ → Prop}

/-- An environment in which, while nobody else is at work (`Still`), removing a file takes it away
and touches no other one, and loading a library touches none; `files` says what the files of a
state hold. -/
structure RemovesFiles (env : Interaction.Environment Host.Answer σ) (files : σ → Files)
    (Still : σ → Prop) : Prop where
  removed : ∀ path s, Still s → IsRemoval (env (.removeFile path) s).1 →
    files (env (.removeFile path) s).2 path = none
  spared : ∀ path s other, Still s → other ≠ path →
    files (env (.removeFile path) s).2 other = files s other
  loaded : ∀ path s, Still s → files (env (.load path) s).2 = files s
  still : ∀ path s, Still s → Still (env (.removeFile path) s).2

/-! ## the removal of files -/

theorem outcome_removeIfExists_ok {path : String} {s s' : σ}
    (h : outcome env (removeIfExists path) s = (.ok (), s')) :
    IsRemoval (env (.removeFile path) s).1 ∧ s' = (env (.removeFile path) s).2 := by
  rw [removeIfExists, outcome_request_bind] at h
  cases hanswer : (env (.removeFile path) s).1 with
  | ok _ =>
    rw [hanswer] at h
    exact ⟨Or.inl rfl, (Prod.mk.inj h).2.symm⟩
  | error cause =>
    rw [hanswer] at h
    replace h : outcome env (if cause = .notFound then pure () else fail (.io cause))
      (env (.removeFile path) s).2 = (.ok (), s') := h
    split at h
    · next hcause => exact ⟨Or.inr (congrArg _ hcause), (Prod.mk.inj h).2.symm⟩
    · exact nomatch (Prod.mk.inj h).1

/-- the requests that remove status files -/
def removals (dir : String) (workers : List Nat) : List Host.Request :=
  workers.map fun worker => .removeFile (statusFile dir worker)

/-- The status files of the workers are gone, and nothing else is. -/
theorem outcome_removeAll (h : RemovesFiles env files Still) (dir : String) (workers : List Nat)
    {s s' : σ} (hs : Still s)
    (hrun : outcome env (workers.forM fun worker => removeIfExists (statusFile dir worker)) s =
      (.ok (), s')) :
    Still s' ∧ (∀ w ∈ workers, files s' (statusFile dir w) = none) ∧
      (∀ path, (∀ w ∈ workers, path ≠ statusFile dir w) → files s' path = files s path) ∧
      (trace env (workers.forM fun worker => removeIfExists (statusFile dir worker)) s).map
        Sigma.fst = removals dir workers := by
  induction workers generalizing s with
  | nil =>
    obtain rfl : s = s' := (Prod.mk.inj hrun).2
    exact ⟨hs, fun _ hw => absurd hw List.not_mem_nil, fun _ _ => rfl, rfl⟩
  | cons worker workers ih =>
    obtain ⟨_, t, hfirst, hrest, htrace⟩ := exists_of_bind_ok hrun
    obtain ⟨hgone, rfl⟩ := outcome_removeIfExists_ok hfirst
    obtain ⟨hstill, hnone, hspared, hrequests⟩ := ih (h.still _ s hs) hrest
    refine ⟨hstill, fun w hw => ?_, fun path hpath => ?_, ?_⟩
    · by_cases hmem : w ∈ workers
      · exact hnone w hmem
      · -- the file of this worker goes now, and nobody brings it back
        obtain rfl : w = worker := (List.mem_cons.mp hw).resolve_right hmem
        have hother : ∀ v ∈ workers, statusFile dir w ≠ statusFile dir v := by
          intro v hv heq
          obtain rfl := statusFile_injective dir heq
          exact hmem hv
        rw [hspared _ hother]
        exact h.removed _ s hs hgone
    · obtain ⟨hne, hothers⟩ := List.forall_mem_cons.mp hpath
      rw [hspared path hothers]
      exact h.spared _ s path hs hne
    · obtain ⟨answer, hone, _⟩ := runs_removeIfExists
        (runs_trace env (removeIfExists (statusFile dir worker)) s)
      show (trace env (removeIfExists _ >>= fun _ => List.forM workers _) s).map Sigma.fst = _
      rw [htrace, List.map_append, hrequests, hone]
      rfl

/-! ## the cleanup -/

theorem outcome_verifyLibrary_ok {path : String} {s s' : σ}
    (h : outcome env (verifyLibrary path) s = (.ok (), s')) :
    s' = (env (.load path) s).2 ∧
      (trace env (verifyLibrary path) s).map Sigma.fst = [.load path] := by
  constructor
  · rw [verifyLibrary, outcome_request_bind] at h
    cases hanswer : (env (.load path) s).1 with
    | true =>
      rw [hanswer] at h
      exact (Prod.mk.inj h).2.symm
    | false =>
      rw [hanswer] at h
      exact nomatch (Prod.mk.inj h).1
  · obtain ⟨answer, hone, _⟩ := runs_verifyLibrary (runs_trace env (verifyLibrary path) s)
    rw [hone]
    rfl

/-- the requests of the cleanup, and of the verification if there is one -/
def BuildPlan.cleanupRequests (p : BuildPlan) (library : String) : List Host.Request :=
  removals p.dir (List.range p.workers) ++ if p.config.verify then [.load library] else []

/-- the status files of the workers are gone, and nothing else is -/
structure BuildPlan.Spares (p : BuildPlan) (before after : Files) : Prop where
  gone : ∀ w < p.workers, after (statusFile p.dir w) = none
  others : ∀ path, (∀ w < p.workers, path ≠ statusFile p.dir w) → after path = before path

theorem outcome_cleanUp (h : RemovesFiles env files Still) {p : BuildPlan} {library found : String}
    {s s' : σ} (hs : Still s) (hrun : outcome env (p.cleanUp library) s = (.ok found, s')) :
    found = library ∧ p.Spares (files s) (files s') ∧
      (trace env (p.cleanUp library) s).map Sigma.fst = p.cleanupRequests library := by
  obtain ⟨_, t, hremove, hrest, htrace⟩ := exists_of_bind_ok hrun
  obtain ⟨hstill, hnone, hspared, hrequests⟩ :=
    outcome_removeAll h p.dir (List.range p.workers) hs hremove
  have hfiles : p.Spares (files s) (files t) :=
    ⟨fun w hw => hnone w (List.mem_range.mpr hw), fun path hpath =>
      hspared path fun w hw => hpath w (List.mem_range.mp hw)⟩
  replace htrace : trace env (p.cleanUp library) s =
    trace env (removeStatusFiles p.dir p.workers) s ++ _ := htrace
  replace hrequests : (trace env (removeStatusFiles p.dir p.workers) s).map Sigma.fst =
    removals p.dir (List.range p.workers) := hrequests
  rw [htrace, List.map_append, hrequests, BuildPlan.cleanupRequests]
  by_cases hverify : p.config.verify = true
  · simp only [hverify, if_true] at hrest ⊢
    obtain ⟨_, u, hload, hdone, hload'⟩ := exists_of_bind_ok hrest
    obtain ⟨rfl, hloads⟩ := outcome_verifyLibrary_ok hload
    obtain ⟨hlibrary, rfl⟩ := Prod.mk.inj hdone
    refine ⟨(Except.ok.inj hlibrary).symm, ?_, ?_⟩
    · rw [h.loaded library t hstill]
      exact hfiles
    · rw [hload', List.map_append, hloads]
      rfl
  · simp only [hverify] at hrest ⊢
    obtain ⟨hlibrary, rfl⟩ := Prod.mk.inj hrest
    exact ⟨(Except.ok.inj hlibrary).symm, hfiles, rfl⟩

/-! ## the sessions of a build -/

/-- a build up to the end of its link stage -/
def untilLinked (r : Recipe) (dir : String) (c : Config) : Action (BuildPlan × String) := do
  let p ← prepare r dir c
  let library ← p.stages
  pure (p, library)

theorem build_eq_untilLinked (r : Recipe) (dir : String) (c : Config) :
    build r dir c = untilLinked r dir c >>= fun b => b.1.cleanUp b.2 := by
  rw [build_eq]
  simp only [untilLinked, bind_assoc, pure_bind]

/-- a session is started for a task of its stage -/
theorem mem_tasks_of_mayOpen {p : BuildPlan} {stage : Stage} {task : Task} {past : List BuildStep}
    (h : p.MayOpen stage task past) : ∃ tasks, p.tasks stage = .ok tasks ∧ task ∈ tasks := by
  obtain ⟨rest, htasks⟩ := h.next
  exact ⟨_, htasks, List.mem_append_right _ List.mem_cons_self⟩

/-- every session belongs to a worker that there is -/
theorem worker_lt_of_mem_tasks {p : BuildPlan} (hp : 0 < p.workers) {stage : Stage} {task : Task}
    {tasks : List Task} (h : p.tasks stage = .ok tasks) (ht : task ∈ tasks) :
    task.worker < p.workers := by
  cases stage with
  | compile =>
    rw [← List.mem_range, ← p.tasks_workers hp h]
    exact List.mem_map_of_mem ht
  | link =>
    rw [BuildPlan.tasks] at h
    cases hobjects : p.recipe.objects with
    | error e =>
      rw [hobjects] at h
      cases h
    | ok objects =>
      rw [hobjects] at h
      obtain rfl := Except.ok.inj h
      rw [List.mem_singleton.mp ht]
      exact hp

/-- what is left of the sessions of a build, and of the files that were there when the last of them
had ended -/
structure BuildPlan.CleansUp (p : BuildPlan) (steps : List BuildStep) (before after : Files) :
    Prop where
  started : Untroubled steps
  sessions : ∀ stage task session, .opened stage task session ∈ steps →
    session.worker < p.workers ∧ session.statusPath = statusFile p.dir session.worker ∧
      after session.statusPath = none
  logs : ∀ worker, after (logFile p.dir worker) = before (logFile p.dir worker)
  others : ∀ path, (∀ w < p.workers, path ≠ statusFile p.dir w) → after path = before path

/-- **A build that answers with a library leaves none of its status files, and its cleanup touches
nothing else.**  Every session that it has started belongs to a worker whose status file is gone;
what the cleanup asks for is the removal of the status files of the workers, in order, and the logs
and all other files are as they were when the link stage had ended. -/
theorem build_cleansUp (h : RemovesFiles env files Still) {r : Recipe} {dir : String} {c : Config}
    {library : String} {s s' : σ} (hrun : outcome env (build r dir c) s = (.ok library, s'))
    (hstill : ∀ b s₁, outcome env (untilLinked r dir c) s = (.ok b, s₁) → Still s₁) :
    ∃ (p : BuildPlan) (steps : List BuildStep) (s₁ : σ),
      p.recipe = r ∧ p.config = c ∧ (∃ cores, p.workers = workerCount c.threads cores) ∧
      outcome env (untilLinked r dir c) s = (.ok (p, library), s₁) ∧
      trace env (build r dir c) s =
        trace env (untilLinked r dir c) s ++ trace env (p.cleanUp library) s₁ ∧
      p.rules.Course [] steps (trace env (untilLinked r dir c) s) ∧
      p.CleansUp steps (files s₁) (files s') ∧
      (trace env (p.cleanUp library) s₁).map Sigma.fst = p.cleanupRequests library ∧
      Function.Injective (statusFile p.dir) ∧ Function.Injective (logFile p.dir) ∧
      ∀ v w, statusFile p.dir v ≠ logFile p.dir w := by
  rw [build_eq_untilLinked] at hrun ⊢
  obtain ⟨⟨p, found⟩, s₁, huntil, hclean, htrace⟩ := exists_of_bind_ok hrun
  obtain ⟨rfl, hspares, hrequests⟩ := outcome_cleanUp h (hstill _ s₁ huntil) hclean
  -- the trace up to the end of the link stage is a course of steps
  have huntil' := runs_trace env (untilLinked r dir c) s
  rw [huntil] at huntil'
  rcases runs_bind huntil' with ⟨_, he, _⟩ | ⟨plan, first, second, hsplit, hprepare, hstages⟩
  · exact nomatch he
  rcases runs_bind hstages with ⟨_, he, _⟩ | ⟨l, third, fourth, rfl, hstaged, hdone⟩
  · exact nomatch he
  obtain ⟨rfl, hp⟩ := runs_pure hdone
  obtain ⟨rfl, rfl⟩ := Prod.mk.inj (Except.ok.inj hp)
  rw [List.append_nil] at hsplit
  have hlooks := Interaction.Asks.of_runs (prepare_asks r dir c) hprepare
  obtain ⟨rfl, rfl, cores, hworkers, _⟩ := runs_prepare hprepare
  obtain ⟨steps, hcourse, hclearing, _⟩ := BuildPlan.goes_stages (p := p) _ third _
    (BuildPlan.onlyLooks_map first) hstaged
  have hall := (course_looks p hlooks []).append hcourse
  rw [← hsplit] at hall
  refine ⟨p, _, s₁, rfl, rfl, ⟨cores, hworkers⟩, huntil, htrace, hall,
    ⟨hclearing.untroubled, fun stage task session hopened => ?_, fun worker => ?_,
      hspares.others⟩, hrequests, statusFile_injective p.dir, logFile_injective p.dir,
    statusFile_ne_logFile p.dir⟩
  · obtain ⟨part, ⟨_, _, _, _, hsession, _⟩, _⟩ := hall.spelled hopened
    obtain ⟨before, behind, hstep⟩ := List.append_of_mem hopened
    obtain ⟨tasks, htasks, hmem⟩ := mem_tasks_of_mayOpen (hall.licensed hstep)
    have hworker : task.worker < p.workers :=
      worker_lt_of_mem_tasks (hworkers ▸ workerCount_pos _ _) htasks hmem
    rw [hsession]
    exact ⟨hworker, rfl, hspares.gone _ hworker⟩
  · exact hspares.others _ fun w _ => (statusFile_ne_logFile p.dir w worker).symm

/-! ## a directory with leftovers -/

/-- a directory in which earlier builds have left a status file and two logs -/
def leftoverFiles : Files
  | "/build/retcode_cpu0.txt" => some [55, 10]
  | "/build/log_cpu0.txt" => some [111, 108, 100]
  | "/build/log_cpu7.txt" => some []
  | _ => none

theorem removesFiles_environment {φ : Type} {c : Conduct φ} (hmoves : ∀ tick, c.moves tick = [])
    (hcwd : c.cwd = "") :
    RemovesFiles (Workshop.environment c) Workshop.files fun _ => True := by
  have hplace : ∀ path, place c.cwd path = path := fun path => hcwd ▸ Path.empty_join path
  refine ⟨fun path w _ _ => ?_, fun path w other _ hne => ?_, fun path w _ => ?_,
    fun _ _ _ => trivial⟩
  · show Function.update (w.advance c).files (place c.cwd path) none path = none
    rw [hplace, Function.update_self]
  · show Function.update (w.advance c).files (place c.cwd path) none other = _
    rw [hplace, Function.update_of_ne hne, advance_of_no_moves hmoves]
  · show (w.advance c).files = w.files
    rw [advance_of_no_moves hmoves]

/-- The status file of the only worker, which the link stage has used as well, is gone, and both
logs are there. -/
theorem build_cleansUp_leftovers :
    ∃ w', outcome (Workshop.environment idleConduct) (build threeSources "/build" sampleConfig)
        ⟨(), leftoverFiles, [], 0⟩ = (.ok "/build/sample.so", w') ∧
      ∃ p w₁, outcome (Workshop.environment idleConduct)
          (untilLinked threeSources "/build" sampleConfig) ⟨(), leftoverFiles, [], 0⟩ =
            (.ok (p, "/build/sample.so"), w₁) ∧
        ∀ worker, w'.files (logFile p.dir worker) = w₁.files (logFile p.dir worker) := by
  let start : Workshop Unit := ⟨(), leftoverFiles, [], 0⟩
  have hbuild : (outcome (Workshop.environment idleConduct)
      (build threeSources "/build" sampleConfig) start).1 = .ok "/build/sample.so" := by
    decide +kernel
  cases hrun : outcome (Workshop.environment idleConduct)
    (build threeSources "/build" sampleConfig) start with
  | mk result w' =>
    rw [hrun] at hbuild
    obtain rfl : result = .ok "/build/sample.so" := hbuild
    obtain ⟨p, steps, w₁, _, _, _, huntil, _, _, hclean, _⟩ :=
      build_cleansUp (removesFiles_environment (fun _ => rfl) rfl) hrun fun _ _ _ => trivial
    exact ⟨w', rfl, p, w₁, huntil, hclean.logs⟩

end ShellWorkers
