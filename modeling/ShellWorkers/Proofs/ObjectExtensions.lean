import ShellWorkers.Proofs.ObjectPaths
import ShellWorkers.Proofs.PlannedWork

/-!
# Object extensions that hold a separator

Everything that a plan and a build compute of a recipe made of templates has a value, with one
exception: an extension that holds a separator cannot replace the extension of a source.  Where
there are sources, such a recipe has no objects, no commands and no plan, and a build of it stops
without a report; what refuses unfit recipes does not see this.

* `Template.IsComputable`         the recipes without the exception;
* `IsComputable.exists_objects`   what there is of them;
* `objects_of_not_computable`     what there is of the others;
* `build_endsIn`                  nothing else in a build fails so;
* `template_values`               all of it together;
* `valid_template_aborts`         a recipe that is not refused and has no objects.
-/

namespace ShellWorkers

open ShellWorkers.Action

/-! ## recipes made of templates -/

theorem objectPath_of_separator {ext : String} (h : '/' ∈ ext.toList) (source : String) :
    objectPath source ext = .error .separatorInExtension := by
  have hnone := (Path.replaceExtension?_eq_none_iff source.toList (bareExtension ext)).mpr
    (separator_mem_bareExtension.mpr h)
  unfold bareExtension at hnone
  rw [objectPath, hnone]

theorem eq_error_of_bind {α β ε : Type} {x : Except ε α} {f : α → β} {e : ε}
    (h : (x >>= fun a => pure (f a)) = .error e) : x = .error e := by
  cases x with
  | error e' => exact congrArg _ (Except.error.inj h)
  | ok a => exact nomatch h

namespace Template

variable {t : Template}

/-- the recipe has no sources, or an extension that its objects can have -/
def IsComputable (t : Template) : Prop := t.sources = [] ∨ '/' ∉ t.objectExt.toList

theorem objectCommand_error {source : String} {e : Failure}
    (h : t.recipe.objectCommand source = .error e) : e = .separatorInExtension :=
  objectPath_error (eq_error_of_bind h)

/-- a computable recipe has an object and a command for every source -/
theorem IsComputable.exists_objects (h : t.IsComputable) :
    ∃ objects commands, t.recipe.objects = .ok objects ∧
      t.sources.mapM t.recipe.objectCommand = .ok commands := by
  have hobject : ∀ source ∈ t.sources, ∃ object, objectPath source t.objectExt = .ok object := by
    intro source hsource
    rcases h with hnone | hext
    · rw [hnone] at hsource
      exact absurd hsource List.not_mem_nil
    · exact exists_objectPath hext source
  have hcommand : ∀ source ∈ t.sources,
      ∃ command, t.recipe.objectCommand source = .ok command := by
    intro source hsource
    obtain ⟨object, hobject⟩ := hobject source hsource
    show ∃ command, t.objectCommandFor source = .ok command
    rw [objectCommandFor, hobject]
    exact ⟨_, rfl⟩
  obtain ⟨objects, hobjects⟩ := exists_mapM_eq_ok hobject
  obtain ⟨commands, hcommands⟩ := exists_mapM_eq_ok hcommand
  exact ⟨objects, commands, hobjects, hcommands⟩

/-- any other recipe has none for any source -/
theorem objects_of_not_computable (h : ¬ t.IsComputable) :
    t.recipe.objects = .error .separatorInExtension := by
  obtain ⟨hne, hext⟩ := not_or.mp h
  cases hobjects : t.recipe.objects with
  | error e => rw [objects_error hobjects]
  | ok objects =>
    have : Inhabited String := ⟨""⟩
    obtain ⟨object, hobject, -⟩ := exists_of_mapM_eq_ok hobjects
    obtain ⟨source, hsource⟩ := List.exists_mem_of_ne_nil _ hne
    have hnone := objectPath_of_separator (Classical.not_not.mp hext) source
    exact nomatch hnone.symm.trans (hobject source hsource)

theorem tasksOf_of_not_computable (h : ¬ t.IsComputable) (workers : Nat) :
    tasksOf t.recipe workers = .error .separatorInExtension := by
  cases htasks : tasksOf t.recipe workers with
  | error e =>
    obtain ⟨bucket, _, hbucket⟩ := exists_of_mapM_eq_error htasks
    obtain ⟨source, _, hsource⟩ := exists_of_mapM_eq_error (eq_error_of_bind hbucket)
    rw [objectCommand_error hsource]
  | ok tasks =>
    obtain ⟨objects, hobjects⟩ := ShellWorkers.exists_objects htasks
    rw [objects_of_not_computable h] at hobjects
    exact nomatch hobjects

end Template

/-! ## builds -/

/-- a failure that is not that of an extension -/
def Failure.IsOther (e : Failure) : Prop := e ≠ .separatorInExtension

theorem Failure.IsReported.isOther {e : Failure} (h : e.IsReported) : e.IsOther := by
  rintro rfl
  exact h

theorem isOther_error (e : BuildError) : Failure.IsOther (.error e) := fun h => nomatch h

theorem Session.CutOff.isOther {s : Session} {e : Failure} (h : s.CutOff e) : e.IsOther := by
  rintro rfl
  exact h

theorem orIo_endsIn {α : Type} (x : Except SystemFault α) : EndsIn Failure.IsOther (orIo x) := by
  cases x with
  | error cause => exact endsIn_fail (isOther_error _)
  | ok a => exact endsIn_pure a

theorem startWorkers_endsIn (spec : SessionSpec) (tasks : List Task) (started : List Session) :
    EndsIn Failure.IsOther (startWorkers spec started tasks) := by
  induction tasks generalizing started with
  | nil => exact endsIn_pure _
  | cons task tasks ih =>
    intro events e h
    rcases runs_startWorkers h with ⟨failure, first, second, -, he, hstart, -⟩ |
      ⟨session, first, second, -, -, hrest⟩
    · obtain rfl := Except.error.inj he
      exact (Session.start_endsIn _ _ _ _ hstart).isOther
    · exact ih _ _ _ hrest

theorem finishWorkers_endsIn (sessions : List Session) :
    EndsIn Failure.IsOther (finishWorkers sessions) := by
  induction sessions with
  | nil => exact endsIn_pure _
  | cons s sessions ih =>
    intro events e h
    rcases runs_finishWorkers h with ⟨kept, first, second, -, -, -, hrest⟩ |
      ⟨failure, first, second, -, he, -, hcut, -⟩
    · exact endsIn_bind ih (fun more => endsIn_pure (kept :: more)) _ _ hrest
    · obtain rfl := Except.error.inj he
      exact hcut.isOther

theorem checkWorker_endsIn (dir : String) (worker : Nat) (stage : Stage)
    (result : Except BuildError SessionReport) :
    EndsIn Failure.IsOther (checkWorker dir worker stage result) := by
  have hlog : ∀ output, EndsIn Failure.IsOther (writeLog dir worker output) := fun output =>
    endsIn_bind (endsIn_request _) fun answer => endsIn_bind (orIo_endsIn answer) fun _ =>
      endsIn_pure _
  unfold checkWorker
  split
  · split
    · exact endsIn_bind (hlog _) fun _ => endsIn_fail (isOther_error _)
    · exact endsIn_fail (isOther_error _)
  · split
    · exact endsIn_pure _
    · exact endsIn_bind (hlog _) fun _ => endsIn_fail (isOther_error _)

theorem checkWorkers_endsIn (dir : String) (stage : Stage) (worker : Nat)
    (results : List (Except BuildError SessionReport)) :
    EndsIn Failure.IsOther (checkWorkers dir stage worker results) := by
  induction results generalizing worker with
  | nil => exact endsIn_pure _
  | cons result results ih => exact endsIn_bind (checkWorker_endsIn _ _ _ _) fun _ => ih _

theorem linkLibrary_endsIn (r : Recipe) (dir : String) (objects : List String) (c : Config) :
    EndsIn Failure.IsOther (linkLibrary r dir objects c) := by
  intro events e h
  rcases runs_linkLibrary h with ⟨failure, he, hstart⟩ | ⟨s, first, second, -, -, hrest⟩
  · obtain rfl := Except.error.inj he
    exact (Session.start_endsIn _ _ _ _ hstart).isOther
  · exact endsIn_bind (finishWorkers_endsIn _) (fun _ => checkWorkers_endsIn _ _ _ _) _ _ hrest

theorem removeStatusFiles_endsIn (dir : String) (workers : Nat) :
    EndsIn Failure.IsOther (removeStatusFiles dir workers) := by
  have hone : ∀ worker, EndsIn Failure.IsOther (removeIfExists (statusFile dir worker)) :=
    fun worker => endsIn_mono (removeIfExists_endsIn _) fun _ h => h.isOther
  have hall : ∀ list : List Nat, EndsIn Failure.IsOther
      (list.forM fun worker => removeIfExists (statusFile dir worker)) := by
    intro list
    induction list with
    | nil => exact endsIn_pure _
    | cons worker list ih => exact endsIn_bind (hone worker) fun _ => ih
  exact hall _

/-- a compile stage whose tasks and objects there are does not fail for the want of them -/
theorem compileObjects_endsIn {r : Recipe} {workers : Nat} {tasks : List Task}
    {objects : List String} (htasks : tasksOf r workers = .ok tasks)
    (hobjects : r.objects = .ok objects) (dir : String) (c : Config) :
    EndsIn Failure.IsOther (compileObjects r dir workers c) := by
  have hgiven : ∀ {α : Type} {x : Except Failure α} {a : α}, x = .ok a →
      EndsIn Failure.IsOther (ofExcept x) := fun hx =>
    endsIn_ofExcept fun e he => nomatch hx.symm.trans he
  exact endsIn_bind (hgiven htasks) fun _ => endsIn_bind (startWorkers_endsIn _ _ _) fun _ =>
    endsIn_bind (finishWorkers_endsIn _) fun _ => endsIn_bind (checkWorkers_endsIn _ _ _ _)
      fun _ => hgiven hobjects

/-- nor does a build -/
theorem build_endsIn {r : Recipe} (htasks : ∀ workers, ∃ tasks, tasksOf r workers = .ok tasks)
    {objects : List String} (hobjects : r.objects = .ok objects) (dir : String) (c : Config) :
    EndsIn Failure.IsOther (build r dir c) := by
  have habsolute : ∀ path, EndsIn Failure.IsOther (absolute path) := fun path =>
    endsIn_mono (absolute_endsIn path) fun _ h => h.isOther
  have hinputs : EndsIn Failure.IsOther (checkInputs r dir) := by
    unfold checkInputs
    split
    · exact endsIn_fail (isOther_error _)
    · refine endsIn_bind (endsIn_request _) fun answer => ?_
      split
      · exact endsIn_pure _
      · exact endsIn_fail (isOther_error _)
  have hverify : ∀ path, EndsIn Failure.IsOther (verifyLibrary path) := by
    intro path
    refine endsIn_bind (endsIn_request _) fun answer => ?_
    split
    · exact endsIn_pure _
    · exact endsIn_fail (isOther_error _)
  refine endsIn_bind hinputs fun _ => endsIn_bind (habsolute dir) fun found =>
    endsIn_bind (endsIn_request _) fun cores => ?_
  obtain ⟨tasks, htasks⟩ := htasks (workerCount c.threads cores)
  refine endsIn_bind (compileObjects_endsIn htasks hobjects _ _) fun _ =>
    endsIn_bind (endsIn_bind (habsolute found) fun _ => endsIn_pure _) fun library =>
      endsIn_bind (linkLibrary_endsIn _ _ _ _) fun _ =>
        endsIn_bind (removeStatusFiles_endsIn _ _) fun _ => ?_
  split
  · exact endsIn_bind (hverify library) fun _ => endsIn_pure _
  · exact endsIn_pure _

/-! ## what there is of a recipe -/

/-- **What a plan and a build compute of a recipe.**  Where there are no sources, or the extension
of the objects holds no separator, there is an object and a command for every source, the tasks of
every number of workers and the plan, and no build fails for the want of one.  Otherwise there is
none of these, and the compile stage fails before it asks anything. -/
theorem template_values (t : Template) :
    (t.IsComputable → ∃ objects commands, t.recipe.objects = .ok objects ∧
      objects.length = t.sources.length ∧
      t.sources.mapM t.recipe.objectCommand = .ok commands ∧
      commands.length = t.sources.length ∧
      (∀ workers, tasksOf t.recipe workers = .ok (dealtTasks commands workers) ∧
        CommandLine.Plan.ofRecipe t.recipe workers =
          .ok ⟨dealtTasks commands workers, t.recipe.linkCommand objects⟩) ∧
      ∀ dir c, EndsIn Failure.IsOther (build t.recipe dir c)) ∧
    (¬ t.IsComputable → t.recipe.objects = .error .separatorInExtension ∧
      ∀ workers, tasksOf t.recipe workers = .error .separatorInExtension ∧
        CommandLine.Plan.ofRecipe t.recipe workers = .error .separatorInExtension ∧
        ∀ dir c events result, Runs (compileObjects t.recipe dir workers c) events result →
          events = [] ∧ result = .error .separatorInExtension) := by
  refine ⟨fun h => ?_, fun h => ⟨Template.objects_of_not_computable h, fun workers => ?_⟩⟩
  · obtain ⟨objects, commands, hobjects, hcommands⟩ := h.exists_objects
    have htasks : ∀ workers, tasksOf t.recipe workers = .ok (dealtTasks commands workers) :=
      fun workers => tasksOf_eq hcommands workers
    have hlength : ∀ {f : String → Except Failure String} {results : List String},
        t.sources.mapM f = .ok results → results.length = t.sources.length := by
      intro f results hresults
      have : Inhabited String := ⟨""⟩
      obtain ⟨g, -, rfl⟩ := exists_of_mapM_eq_ok hresults
      exact List.length_map _
    refine ⟨objects, commands, hobjects, hlength hobjects, hcommands, hlength hcommands,
      fun workers => ⟨htasks workers, ?_⟩, fun dir c => ?_⟩
    · rw [CommandLine.Plan.ofRecipe, htasks, hobjects]
      rfl
    · exact build_endsIn (fun workers => ⟨_, htasks workers⟩) hobjects dir c
  · have htasks := Template.tasksOf_of_not_computable h workers
    refine ⟨htasks, ?_, fun dir c events result hrun => ?_⟩
    · rw [CommandLine.Plan.ofRecipe, htasks]
      rfl
    · rw [compileObjects, htasks] at hrun
      exact runs_throw hrun

/-- an extension that holds a separator -/
def slashText : String :=
  "\x7b\"object_command\": \"cc\", \"library_command\": \"ld\", \"target\": \"slash\", " ++
    "\"object_ext\": \".d/o\", \"sources\": [\"a.c\"]\x7d"

def slashTemplate : Template :=
  ⟨.standard, "", "cc", "ld", "slash", ".d/o", ".so", ["a.c"]⟩

/-- A recipe that is read and not refused, and has neither objects nor commands nor a plan. -/
theorem valid_template_aborts :
    Template.ofText .standard slashText = .ok slashTemplate ∧
      slashTemplate.recipe.validate = .ok () ∧
      slashTemplate.recipe.objects = .error .separatorInExtension ∧
      slashTemplate.recipe.objectCommand "a.c" = .error .separatorInExtension ∧
      CommandLine.Plan.ofRecipe slashTemplate.recipe 2 = .error .separatorInExtension := by
  have hread : Template.ofText .standard slashText = .ok slashTemplate :=
    eq_ok_of_toOption (by decide +kernel)
  exact ⟨hread, by decide, by decide +kernel, by decide +kernel, by decide +kernel⟩

end ShellWorkers
