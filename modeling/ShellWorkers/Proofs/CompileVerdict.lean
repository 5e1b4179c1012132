import ShellWorkers.Proofs.FanIn
import ShellWorkers.Proofs.FanOut
import ShellWorkers.Proofs.RoundRobin

/-!
# The verdict of the compile stage

Which source a failure is blamed on, for every number of workers.  With `W` workers the command
of source `i` is command `i / W` of worker `i % W`, so a worker and the index of a command in its
queue name a source.

* `Fails`                     the command of a source returns a code that is not zero;
* `codes_getElem?`            where the codes of a worker's commands come from;
* `compileObjects_verdict`    success, and the worker and the command that are blamed.
-/

namespace ShellWorkers

open ShellWorkers.Action

variable {σ : Type} {env : Interaction.Environment Host.Answer σ}

/-! ## codes of sources -/

/-- the codes of the commands of a task, `code w k` being the codes of commands that worker `w`
has as number `k` -/
def taskCodes (code : Nat → Nat → String → Int) (task : Task) : List Int :=
  task.commands.mapIdx (code task.worker)

/-- the command of source `i` returns a code that is not zero, when there are `W` workers -/
def Fails (code : Nat → Nat → String → Int) (W : Nat) (commands : List String) (i : Nat) : Prop :=
  ∃ command, commands[i]? = some command ∧ code (i % W) (i / W) command ≠ 0

theorem mul_add_mod {w W : Nat} (h : w < W) (k : Nat) : (k * W + w) % W = w := by
  rw [Nat.mul_comm, Nat.mul_add_mod, Nat.mod_eq_of_lt h]

theorem mul_add_div {w W : Nat} (h : w < W) (k : Nat) : (k * W + w) / W = k := by
  rw [Nat.mul_comm, Nat.mul_add_div (Nat.zero_lt_of_lt h), Nat.div_eq_of_lt h, Nat.add_zero]

/-- command `k` of worker `w` is the command of source `k * W + w` -/
theorem fails_iff {code : Nat → Nat → String → Int} {W w : Nat} (h : w < W)
    (commands : List String) (k : Nat) :
    Fails code W commands (k * W + w) ↔
      ∃ command, commands[k * W + w]? = some command ∧ code w k command ≠ 0 := by
  rw [Fails, mul_add_mod h, mul_add_div h]

/-- the codes of a worker's commands are those of every `W`-th source -/
theorem codes_getElem? {code : Nat → Nat → String → Int} {commands : List String}
    {workers w : Nat} {task : Task} (h : (dealtTasks commands workers)[w]? = some task) (k : Nat) :
    (taskCodes code task)[k]? = (commands[k * bucketCount workers + w]?).map (code w k) := by
  obtain ⟨hworker, _, hcommands⟩ := dealtTasks_getElem? h
  rw [taskCodes, List.getElem?_mapIdx, hcommands, hworker]

/-- a worker's codes are zero when no source of its own fails -/
theorem zero_codes_iff {code : Nat → Nat → String → Int} {commands : List String}
    {workers w : Nat} {task : Task} (h : (dealtTasks commands workers)[w]? = some task) :
    (∀ c ∈ taskCodes code task, c = 0) ↔
      ∀ k, ¬ Fails code (bucketCount workers) commands (k * bucketCount workers + w) := by
  obtain ⟨_, hlt, _⟩ := dealtTasks_getElem? h
  constructor
  · intro hzero k hfails
    obtain ⟨command, hcommand, hne⟩ := (fails_iff hlt commands k).mp hfails
    have hcode : (taskCodes code task)[k]? = some (code w k command) := by
      rw [codes_getElem? h, hcommand]
      rfl
    exact hne (hzero _ (List.mem_of_getElem? hcode))
  · intro hnone c hc
    obtain ⟨k, hk⟩ := List.mem_iff_getElem?.mp hc
    rw [codes_getElem? h, Option.map_eq_some_iff] at hk
    obtain ⟨command, hcommand, rfl⟩ := hk
    by_contra hne
    exact hnone k ((fails_iff hlt commands k).mpr ⟨command, hcommand, hne⟩)

/-- the first code of a worker that is not zero belongs to its first source that fails -/
theorem firstNonzero_codes {code : Nat → Nat → String → Int} {commands : List String}
    {workers w k : Nat} {task : Task} {c : Int}
    (h : (dealtTasks commands workers)[w]? = some task)
    (hfirst : FirstNonzero (taskCodes code task) k c) :
    (∃ command, commands[k * bucketCount workers + w]? = some command ∧ c = code w k command ∧
      c ≠ 0) ∧
      ∀ j < k, ¬ Fails code (bucketCount workers) commands (j * bucketCount workers + w) := by
  obtain ⟨_, hlt, _⟩ := dealtTasks_getElem? h
  obtain ⟨hk, hne, hbefore⟩ := hfirst
  constructor
  · rw [codes_getElem? h, Option.map_eq_some_iff] at hk
    obtain ⟨command, hcommand, rfl⟩ := hk
    exact ⟨command, hcommand, rfl, hne⟩
  · intro j hj hfails
    obtain ⟨command, hcommand, hne⟩ := (fails_iff hlt commands j).mp hfails
    have hj' := hbefore j hj
    rw [codes_getElem? h, hcommand] at hj'
    exact hne (Option.some.inj hj')

/-! ## the stage -/

/-- a report with the codes of a task passes when these are zero -/
theorem passes_report_iff {codes : List Int} {output : String} :
    Passes (.ok ⟨output, codes⟩) ↔ ∀ c ∈ codes, c = 0 := by
  constructor
  · rintro ⟨report, hreport, hzero⟩
    obtain rfl := Except.ok.inj hreport
    exact hzero
  · exact fun hzero => ⟨_, rfl, hzero⟩

theorem reportsOf_getElem? {codes : Task → List Int} {tasks : List Task}
    {results : List (Except BuildError SessionReport)} (h : ReportsOf codes tasks results) {w : Nat}
    {result : Except BuildError SessionReport} (hw : results[w]? = some result) :
    ∃ task output, tasks[w]? = some task ∧ result = .ok ⟨output, codes task⟩ := by
  induction h generalizing w with
  | nil => exact nomatch hw
  | @cons task r tasks results hr _ ih =>
    cases w with
    | zero =>
      obtain ⟨output, rfl⟩ := hr
      exact ⟨task, output, rfl, (Option.some.inj hw).symm⟩
    | succ w => exact ih hw

/-- what is blamed for a failure of the compile stage: `command`, which is command `k` of worker
`w`, of the source `source` -/
structure Blamed (code : Nat → Nat → String → Int) (r : Recipe) (workers : Nat)
    (commands : List String) (w k : Nat) (command source : String) : Prop where
  /-- no failing source belongs to a worker before -/
  worker : ∀ i, Fails code (bucketCount workers) commands i → w ≤ i % bucketCount workers
  worker_lt : w < bucketCount workers
  /-- and no source of this worker before fails -/
  first : ∀ j < k, ¬ Fails code (bucketCount workers) commands (j * bucketCount workers + w)
  fails : code w k command ≠ 0
  /-- the worker and the number of the command name the source -/
  isCommand : commands[k * bucketCount workers + w]? = some command
  isSource : r.sources[k * bucketCount workers + w]? = some source
  compiles : r.objectCommand source = .ok command

theorem source_of_command {r : Recipe} {commands : List String}
    (h : r.sources.mapM r.objectCommand = .ok commands) {i : Nat} {command : String}
    (hi : commands[i]? = some command) :
    ∃ source, r.sources[i]? = some source ∧ r.objectCommand source = .ok command := by
  obtain ⟨g, hg, rfl⟩ := exists_of_mapM_eq_ok h
  rw [List.getElem?_map, Option.map_eq_some_iff] at hi
  obtain ⟨source, hsource, rfl⟩ := hi
  exact ⟨source, hsource, hg source (List.mem_of_getElem? hsource)⟩

section

variable {code : Nat → Nat → String → Int} {commands : List String} {workers : Nat}
  {results : List (Except BuildError SessionReport)}

/-- without a failing source every worker passes -/
theorem passes_of_not_fails
    (h : ReportsOf (taskCodes code) (dealtTasks commands workers) results)
    (hnone : ∀ i, ¬ Fails code (bucketCount workers) commands i) :
    ∀ result ∈ results, Passes result := by
  intro result hmem
  obtain ⟨w, hw⟩ := List.mem_iff_getElem?.mp hmem
  obtain ⟨task, output, htask, rfl⟩ := reportsOf_getElem? h hw
  exact passes_report_iff.mpr ((zero_codes_iff htask).mpr fun k => hnone _)

/-- when every worker passes no source fails -/
theorem not_fails_of_passes
    (h : ReportsOf (taskCodes code) (dealtTasks commands workers) results) {i : Nat}
    (hpass : ∀ result, results[i % bucketCount workers]? = some result → Passes result) :
    ¬ Fails code (bucketCount workers) commands i := by
  have hlt : i % bucketCount workers < results.length := by
    rw [← h.length_eq, length_dealtTasks]
    exact Nat.mod_lt _ (bucketCount_pos workers)
  have hw := List.getElem?_eq_getElem hlt
  obtain ⟨task, output, htask, hresult⟩ := reportsOf_getElem? h hw
  have hzero := hpass _ hw
  rw [hresult, passes_report_iff, zero_codes_iff htask] at hzero
  have hi := hzero (i / bucketCount workers)
  rw [Nat.mul_comm, Nat.div_add_mod] at hi
  exact hi

/-- the worker that is blamed, and its command -/
theorem exists_blamed {r : Recipe} (hcommands : r.sources.mapM r.objectCommand = .ok commands)
    (h : ReportsOf (taskCodes code) (dealtTasks commands workers) results)
    (hfails : ∃ i, Fails code (bucketCount workers) commands i) (dir : String) :
    ∃ w k command source output,
      Blamed code r workers commands w k command source ∧
        checkWorkers dir .compile 0 results =
          (reportError dir w (.commandFailed w .compile k (code w k command) (logFile dir w) output)
            >>= fun _ => checkWorkers dir .compile (w + 1) (results.drop (w + 1))) := by
  have hnot : ¬ ∀ result ∈ results, Passes result := fun hall => by
    obtain ⟨i, hi⟩ := hfails
    exact not_fails_of_passes h (fun _ hr => hall _ (List.mem_of_getElem? hr)) hi
  obtain ⟨before, result, behind, rfl, hbefore, hresult⟩ := exists_first_failure hnot
  have hat : (before ++ result :: behind)[before.length]? = some result := by
    rw [List.getElem?_append_right (Nat.le_refl _), Nat.sub_self, List.getElem?_cons_zero]
  obtain ⟨task, output, htask, rfl⟩ := reportsOf_getElem? h hat
  obtain ⟨own, ⟨k, c, hfirst, rfl⟩, hcheck⟩ :=
    checkWorker_of_not_passes hresult dir before.length .compile
  obtain ⟨⟨command, hcommand, rfl, hne⟩, hleast⟩ := firstNonzero_codes htask hfirst
  obtain ⟨source, hsource, hcompiles⟩ := source_of_command hcommands hcommand
  obtain ⟨_, hlt, _⟩ := dealtTasks_getElem? htask
  refine ⟨before.length, k, command, source, output,
    ⟨fun i hi => ?_, hlt, hleast, hne, hcommand, hsource, hcompiles⟩, ?_⟩
  · -- a worker before has passed, so none of its sources fails
    by_contra hless
    refine not_fails_of_passes h (fun q hq => hbefore q ?_) hi
    rw [List.getElem?_append_left (Nat.lt_of_not_le hless)] at hq
    exact List.mem_of_getElem? hq
  · have hdrop : (before ++ .ok ⟨output, taskCodes code task⟩ :: behind).drop (before.length + 1) =
        behind := by
      rw [List.drop_append, List.drop_of_length_le (Nat.le_succ _), Nat.add_sub_cancel_left]
      rfl
    rw [checkWorkers_first hbefore, Nat.zero_add, hcheck, hdrop]

end

/-- **Success does not depend on how the work is spread, and blame names one source**: the stage
succeeds if and only if no command fails, and answers the objects of all sources in order then;
otherwise the worker and the command that are blamed name the first failing source of the first
worker that has one. -/
theorem compileObjects_verdict {r : Recipe} {dir : String} {workers : Nat} {c : Config}
    {commands : List String} {code : Nat → Nat → String → Int}
    {Open : List OpenSession → σ → Prop}
    (hcommands : r.sources.mapM r.objectCommand = .ok commands)
    (hstarts : Starts env (.ofRecipe r dir c) (dealtTasks commands workers) Open)
    (hreports : Reports env (taskCodes code) Open)
    (hlogs : ∀ worker text s, Open [] s →
      (env (.writeFile (logFile dir worker) text) s).1 = .ok ())
    {s : σ} (hs : Open [] s) :
    ∃ result s', outcome env (compileObjects r dir workers c) s = (result, s') ∧
      ((∃ objects, result = .ok objects) ↔
        (∀ i, ¬ Fails code (bucketCount workers) commands i) ∧ ∃ objects, r.objects = .ok objects) ∧
      ((∀ i, ¬ Fails code (bucketCount workers) commands i) → result = r.objects) ∧
      ((∃ i, Fails code (bucketCount workers) commands i) →
        ∃ w k command source output, Blamed code r workers commands w k command source ∧
          result = .error (.error
            (.commandFailed w .compile k (code w k command) (logFile dir w) output))) := by
  obtain ⟨opened, s₁, hstart, htasks, hopen⟩ := outcome_startWorkers _ hstarts [] hs
  obtain ⟨results, s₂, hfinish, hresults, hclosed⟩ := outcome_finishWorkers hreports _ hopen
  rw [List.nil_append, htasks] at hresults
  have hrun : outcome env (compileObjects r dir workers c) s =
      outcome env (checkWorkers dir .compile 0 results >>= fun _ => ofExcept r.objects) s₂ := by
    rw [compileObjects, tasksOf_eq hcommands]
    exact (outcome_bind_ok hstart).trans (outcome_bind_ok hfinish)
  by_cases hfails : ∃ i, Fails code (bucketCount workers) commands i
  · obtain ⟨w, k, command, source, output, hblamed, hcheck⟩ :=
      exists_blamed hcommands hresults hfails dir
    let own : BuildError := .commandFailed w .compile k (code w k command) (logFile dir w) output
    have hown : own.output? = some output := rfl
    have hreport := outcome_reportError_some env dir w hown s₂
    rw [hlogs w _ s₂ hclosed] at hreport
    rw [hcheck] at hrun
    have hout := hrun.trans (outcome_bind_error (outcome_bind_error hreport))
    refine ⟨_, _, hout, ⟨fun h => ?_, fun h => ?_⟩, fun h => ?_, fun _ => ?_⟩
    · obtain ⟨_, h⟩ := h
      exact nomatch h
    · exact absurd hfails (not_exists.mpr h.1)
    · exact absurd hfails (not_exists.mpr h)
    · exact ⟨w, k, command, source, output, hblamed, rfl⟩
  · have hnone := not_exists.mp hfails
    refine ⟨r.objects, s₂, ?_, ⟨fun h => ⟨hnone, h⟩, fun h => h.2⟩, fun _ => rfl,
      fun h => absurd h hfails⟩
    rw [hrun, checkWorkers_of_passes (passes_of_not_fails hresults hnone), pure_bind]
    exact outcome_ofExcept _ s₂

/-! ## three sources for two workers -/

/-- a host that does all it is asked, and finds `codes path` in the file at `path` -/
def scriptedHost (codes : String → List Int) : Interaction.Environment Host.Answer Unit
  | .removeFile _, s => (.ok (), s)
  | .readFile path, s =>
    (.ok ((codes path).flatMap fun code => Text.encode (toString code ++ "\n")), s)
  | .writeFile _ _, s => (.ok (), s)
  | .isDirectory _, s => (true, s)
  | .exists _, s => (true, s)
  | .currentDirectory, s => (.ok "/", s)
  | .spawn _ _ _, s => (.ok ⟨0⟩, s)
  | .attach _, s => (.ok (), s)
  | .send _ _, s => ((), s)
  | .closeInput _, s => ((), s)
  | .wait _, s => (.ok (.exited 0), s)
  | .poll _, s => (.ok (some (.exited 0)), s)
  | .killGroup _, s => ((), s)
  | .kill _, s => ((), s)
  | .output _, s => ([], s)
  | .now, s => (0, s)
  | .pause _, s => ((), s)
  | .cores, s => (2, s)
  | .load _, s => (true, s)

/-- the last source cannot be compiled -/
def brokenLast (_ _ : Nat) (command : String) : Int := if command = "cc c.c" then 4 else 0

/-- the codes in the status files of the two workers -/
def brokenStatus (path : String) : List Int := if path = statusFile "/build" 0 then [0, 4] else [0]

def brokenHost : Interaction.Environment Host.Answer Unit := scriptedHost brokenStatus

/-- a session behind the submission of its commands -/
def sampleSession (task : Task) : Session :=
  ⟨task.worker, ⟨0⟩, statusFile "/build" task.worker, .posix, none, 0, task.commands.length⟩

/-- the open sessions are for tasks that there are -/
def SampleOpen (opened : List OpenSession) (_ : Unit) : Prop :=
  ∀ p ∈ opened, p.1 = sampleSession p.2 ∧
    p.2 ∈ dealtTasks ["cc a.c", "cc b.c", "cc c.c"] 2

theorem mem_sampleTasks {task : Task} (h : task ∈ dealtTasks ["cc a.c", "cc b.c", "cc c.c"] 2) :
    task = ⟨0, ["cc a.c", "cc c.c"]⟩ ∨ task = ⟨1, ["cc b.c"]⟩ := by
  have htasks : dealtTasks ["cc a.c", "cc b.c", "cc c.c"] 2 =
      [⟨0, ["cc a.c", "cc c.c"]⟩, ⟨1, ["cc b.c"]⟩] := by decide
  rw [htasks, List.mem_cons, List.mem_singleton] at h
  exact h

theorem starts_broken : Starts brokenHost (.ofRecipe threeSources "/build" sampleConfig)
    (dealtTasks ["cc a.c", "cc b.c", "cc c.c"] 2) SampleOpen := by
  intro opened task s htask hopen
  refine ⟨⟨task.worker, ⟨0⟩, statusFile "/build" task.worker, .posix, none, 0, 0⟩, (),
    sampleSession task, (), ?_, ?_, fun p hp => ?_⟩
  · rcases mem_sampleTasks htask with rfl | rfl <;> rfl
  · rcases mem_sampleTasks htask with rfl | rfl <;> rfl
  · rcases List.mem_append.mp hp with hp | hp
    · exact hopen p hp
    · rw [List.mem_singleton.mp hp]
      exact ⟨rfl, htask⟩

theorem reports_broken : Reports brokenHost (taskCodes brokenLast) SampleOpen := by
  intro session task opened s hopen
  obtain ⟨hsession, htask⟩ := hopen (session, task) List.mem_cons_self
  obtain rfl : session = sampleSession task := hsession
  refine ⟨"", (), ?_, fun p hp => hopen p (List.mem_cons_of_mem _ hp)⟩
  rcases mem_sampleTasks htask with rfl | rfl <;> rfl

/-- the last source is command 1 of worker 0 -/
theorem compileObjects_verdict_broken :
    ∃ output s', outcome brokenHost (compileObjects threeSources "/build" 2 sampleConfig) () =
      (.error (.error (.commandFailed 0 .compile 1 4 (logFile "/build" 0) output)), s') := by
  have hfails : Fails brokenLast 2 ["cc a.c", "cc b.c", "cc c.c"] 2 := ⟨"cc c.c", rfl, by decide⟩
  obtain ⟨result, s', hout, _, _, hblame⟩ := compileObjects_verdict (r := threeSources)
    (c := sampleConfig) rfl starts_broken reports_broken (fun _ _ _ _ => rfl)
    (s := ()) fun p hp => absurd hp List.not_mem_nil
  obtain ⟨w, k, command, source, output, hblamed, rfl⟩ := hblame ⟨2, hfails⟩
  obtain rfl : w = 0 := Nat.le_zero.mp (hblamed.worker 2 hfails)
  have hbroken : command = "cc c.c" := by
    by_contra hne
    exact hblamed.fails (if_neg hne)
  have hk : ["cc a.c", "cc b.c", "cc c.c"][k * 2 + 0]? = some command := hblamed.isCommand
  rw [hbroken] at hk
  obtain rfl : k = 1 := by
    rcases k with _ | _ | k
    · exact absurd hk (by decide)
    · rfl
    · rw [List.getElem?_eq_none (by simp only [List.length_cons, List.length_nil]; omega)] at hk
      exact nomatch hk
  refine ⟨output, s', hout.trans ?_⟩
  rw [hbroken]
  rfl

end ShellWorkers
