import ShellWorkers.Proofs.BuildSteps
import ShellWorkers.Proofs.CompileVerdict

/-!
# The phases of a build

A build goes by its steps, whatever the host answers: every step stands where its license allows
it, and how the build ends says which steps have been made.

* `goes_startWorkers`              all sessions are open before one is finished;
* `goes_finishWorkers`             all are finished, unless the wait for one is cut off;
* `goes_checkWorkers`              a stage that passes has succeeded;
* `goes_removeStatusFiles`         the status files go one by one;
* `build_phases`                   the steps of a build and how it ends;
* `build_overflow_unfinished`      a timeout with which no session is finished.
-/

namespace ShellWorkers

open ShellWorkers.Action

/-! ## the objects of a recipe -/

theorem objectPath_error {source ext : String} {e : Failure}
    (h : objectPath source ext = .error e) : e = .separatorInExtension := by
  unfold objectPath at h
  split at h
  · exact nomatch h
  · exact (Except.error.inj h).symm

theorem objects_error {sources : List String} {ext : String} {e : Failure}
    (h : objectPaths sources ext = .error e) : e = .separatorInExtension := by
  obtain ⟨_, _, hsource⟩ := exists_of_mapM_eq_error h
  exact objectPath_error hsource

namespace BuildPlan

variable {p : BuildPlan} {stage : Stage} {past : List BuildStep}

/-! ## starting the sessions of a stage -/

/-- the sessions `started` of a stage are open, and there are still the tasks `rest` -/
structure Starting (p : BuildPlan) (stage : Stage) (started : List Session) (rest : List Task)
    (past : List BuildStep) : Prop where
  before : p.Before stage past
  tasks : p.tasks stage = .ok ((openedIn stage past).map Prod.fst ++ rest)
  sessions : (openedIn stage past).map Prod.snd = started
  unfinished : finishedIn stage past = []
  timeouts : ∀ s ∈ started, s.timeout = p.config.timeout

theorem Starting.mayOpen {started : List Session} {task : Task} {rest : List Task}
    (h : p.Starting stage started (task :: rest) past) : p.MayOpen stage task past where
  next := ⟨rest, h.tasks⟩
  unfinished := h.unfinished
  compiled := by
    rintro rfl
    exact h.before.2.1

theorem Starting.opened {started : List Session} {task : Task} {rest : List Task}
    (h : p.Starting stage started (task :: rest) past) {s : Session} {events : List HostEvent}
    (ho : Opens p.spec task s events) :
    p.Starting stage (started ++ [s]) rest (past ++ [.opened stage task s]) := by
  refine ⟨h.before.concat (isOf_opened stage task s), ?_, ?_, ?_, ?_⟩
  · rw [openedIn_opened, List.map_append, List.append_assoc]
    exact h.tasks
  · rw [openedIn_opened, List.map_append, h.sessions]
    rfl
  · rw [finishedIn_concat rfl, h.unfinished]
  · obtain ⟨_, _, _, _, rfl, _⟩ := ho
    intro t ht
    rcases List.mem_append.mp ht with ht | ht
    · exact h.timeouts t ht
    · rw [List.mem_singleton.mp ht]
      rfl

/-! ## abandoned sessions -/

theorem Interrupted.append (h : Interrupted past) (steps : List BuildStep) :
    Interrupted (past ++ steps) := by
  rcases h with ⟨st, task, failure, hmem⟩ | ⟨st, s, failure, hmem, hcut⟩
  · exact Or.inl ⟨st, task, failure, List.mem_append_left _ hmem⟩
  · exact Or.inr ⟨st, s, failure, List.mem_append_left _ hmem, hcut⟩

/-- the sessions have been started -/
def AreOpen (sessions : List Session) (past : List BuildStep) : Prop :=
  ∀ s ∈ sessions, ∃ stage task, (task, s) ∈ openedIn stage past

theorem AreOpen.concat {sessions : List Session} (h : AreOpen sessions past) {step : BuildStep}
    (hs : ∀ stage, openedBy stage step = none) : AreOpen sessions (past ++ [step]) := by
  intro s hmem
  obtain ⟨st, task, hopen⟩ := h s hmem
  refine ⟨st, task, ?_⟩
  rw [openedIn_concat (hs st)]
  exact hopen

theorem areOpen_of_subset {sessions : List Session}
    (h : sessions ⊆ (openedIn stage past).map Prod.snd) : AreOpen sessions past := by
  intro s hs
  obtain ⟨⟨task, s'⟩, hmem, rfl⟩ := List.mem_map.mp (h hs)
  exact ⟨stage, task, hmem⟩

/-- sessions are abandoned one after another once a stage is interrupted -/
theorem goes_abandonAll {P : List BuildStep → Prop}
    (hP : ∀ past s, P past → P (past ++ [.abandoned s])) (sessions : List Session) :
    p.rules.Goes (fun past => P past ∧ Interrupted past ∧ AreOpen sessions past)
      (Session.abandonAll sessions) fun _ steps => P steps := by
  induction sessions with
  | nil => exact Rules.goes_pure fun _ h => h.1
  | cons s sessions ih =>
    refine Rules.goes_bind (Q := fun _ past => P past ∧ Interrupted past ∧ AreOpen sessions past)
      ?_ (fun _ => ih) fun _ _ h => h.1
    intro past events result hp hr
    obtain ⟨hpast, hi, ho⟩ := hp
    have hok : result = .ok () := by
      cases result with
      | ok _ => rfl
      | error e => exact (s.abandon_endsIn (P := fun _ => False) events e hr).elim
    subst hok
    refine ⟨[.abandoned s], Rules.course_step ⟨hi, ho s List.mem_cons_self⟩ hr, hP past s hpast,
      Interrupted.append hi _, AreOpen.concat ?_ fun _ => rfl⟩
    exact fun t ht => ho t (List.mem_cons_of_mem _ ht)

/-- what holds behind the start of the compile sessions -/
def Started (p : BuildPlan) : Except Failure (List Session) → List BuildStep → Prop
  | .ok sessions, steps => p.Starting .compile sessions [] steps
  | .error e, steps => e.IsReported ∧ ∃ task failure, .refused .compile task failure ∈ steps

/-- The sessions of a stage are started one after another, and each is given its queue; or one is
refused, and those before it are abandoned. -/
theorem goes_startWorkers (tasks : List Task) (started : List Session) :
    p.rules.Goes (p.Starting .compile started tasks) (startWorkers p.spec started tasks)
      p.Started := by
  induction tasks generalizing started with
  | nil => exact Rules.goes_pure fun _ h => h
  | cons task tasks ih =>
    intro past events result hp hr
    rcases runs_startWorkers hr with ⟨failure, first, second, rfl, rfl, hstart, habandon⟩ |
      ⟨session, first, second, rfl, hopens, hrest⟩
    · have hrefused : p.rules.Course past [.refused .compile task failure] first :=
        Rules.course_step hp.mayOpen hstart
      have hmem : BuildStep.refused .compile task failure ∈
          past ++ [.refused .compile task failure] := List.mem_append_right _ List.mem_cons_self
      have hopen : AreOpen started (past ++ [.refused .compile task failure]) :=
        AreOpen.concat (areOpen_of_subset fun s hs => hp.sessions ▸ hs) fun _ => rfl
      obtain ⟨steps, hcourse, hmem'⟩ := goes_abandonAll (p := p)
        (P := fun steps => .refused .compile task failure ∈ steps)
        (fun _ _ => List.mem_append_left _) started _ second (.ok ())
        ⟨hmem, Or.inl ⟨_, _, _, hmem⟩, hopen⟩ habandon
      refine ⟨_, hrefused.append hcourse, Session.start_endsIn _ _ _ _ hstart, task, failure, ?_⟩
      rw [← List.append_assoc]
      exact hmem'
    · have hopened : p.rules.Course past [.opened .compile task session] first :=
        Rules.course_step hp.mayOpen hopens
      obtain ⟨steps, hcourse, hq⟩ := ih _ _ _ _ (hp.opened hopens) hrest
      refine ⟨_, hopened.append hcourse, ?_⟩
      rw [← List.append_assoc]
      exact hq

/-! ## finishing them -/

/-- of the open sessions of a stage those are finished that have the results `results`, and
`sessions` are not -/
structure Finishing (p : BuildPlan) (stage : Stage)
    (results : List (Except BuildError SessionReport)) (sessions : List Session)
    (past : List BuildStep) : Prop where
  before : p.Before stage past
  allOpen : p.AllOpen stage past
  kept : (finishedIn stage past).map Prod.snd = results.map keptResult
  reported : ∀ e, .error e ∈ results → ¬ e.IsRefusal
  order : (openedIn stage past).map Prod.snd = (finishedIn stage past).map Prod.fst ++ sessions
  timeouts : ∀ s ∈ sessions, s.timeout = p.config.timeout

/-- the wait for a session of the stage has been cut off -/
structure CutShort (p : BuildPlan) (stage : Stage) (failure : Failure) (past : List BuildStep) :
    Prop where
  before : p.Before stage past
  allOpen : p.AllOpen stage past
  cut : ∃ s, .finished stage s (.error failure) ∈ past ∧ s.CutOff failure
  timeout : p.config.timeout.isSome

theorem Starting.finishing {sessions : List Session} (h : p.Starting stage sessions [] past) :
    p.Finishing stage [] sessions past := by
  refine ⟨h.before, ?_, ?_, fun _ he => absurd he List.not_mem_nil, ?_, h.timeouts⟩
  · rw [AllOpen, h.tasks, List.append_nil]
  · rw [h.unfinished]
    rfl
  · rw [h.unfinished]
    exact h.sessions

theorem Finishing.finished {results : List (Except BuildError SessionReport)} {s : Session}
    {sessions : List Session} (h : p.Finishing stage results (s :: sessions) past)
    {result : Except BuildError SessionReport} (hresult : ∀ e, result = .error e → ¬ e.IsRefusal) :
    p.Finishing stage (results ++ [result]) sessions
      (past ++ [.finished stage s (keptResult result)]) := by
  refine ⟨h.before.concat (isOf_finished stage s _), ?_, ?_, fun e he => ?_, ?_,
    fun t ht => h.timeouts t (List.mem_cons_of_mem _ ht)⟩
  · rw [AllOpen, openedIn_concat rfl]
    exact h.allOpen
  · rw [finishedIn_finished, List.map_append, List.map_append, h.kept]
    rfl
  · rcases List.mem_append.mp he with he | he
    · exact h.reported e he
    · exact hresult e (List.mem_singleton.mp he).symm
  · rw [openedIn_concat rfl, finishedIn_finished, List.map_append, List.append_assoc, h.order]
    rfl

theorem CutShort.concat {failure : Failure} (h : p.CutShort stage failure past) (s : Session) :
    p.CutShort stage failure (past ++ [.abandoned s]) := by
  refine ⟨h.before.concat (isOf_abandoned stage s), ?_, ?_, h.timeout⟩
  · rw [AllOpen, openedIn_concat rfl]
    exact h.allOpen
  · obtain ⟨t, hmem, hcut⟩ := h.cut
    exact ⟨t, List.mem_append_left _ hmem, hcut⟩

theorem timeout_isSome_of_cutOff {s : Session} {failure : Failure} (h : s.CutOff failure) :
    s.timeout.isSome := by
  cases failure with
  | deadlineOverflow =>
    obtain ⟨timeout, htimeout, _⟩ := h
    rw [htimeout]
    rfl
  | clockStopped => exact h
  | error e => exact h.elim
  | separatorInExtension => exact h.elim

/-- what holds behind the end of the sessions of a stage -/
def Finished (p : BuildPlan) (stage : Stage) (results : List (Except BuildError SessionReport)) :
    Except Failure (List (Except BuildError SessionReport)) → List BuildStep → Prop
  | .ok more, steps => p.Finishing stage (results ++ more) [] steps
  | .error failure, steps => p.CutShort stage failure steps

/-- **Every session of a stage is finished, whatever the sessions before it report**, unless the
wait for one is cut off. -/
theorem goes_finishWorkers (sessions : List Session)
    (results : List (Except BuildError SessionReport)) :
    p.rules.Goes (p.Finishing stage results sessions) (finishWorkers sessions)
      (p.Finished stage results) := by
  induction sessions generalizing results with
  | nil =>
    refine Rules.goes_pure fun past h => ?_
    show p.Finishing stage (results ++ []) [] past
    rw [List.append_nil]
    exact h
  | cons s sessions ih =>
    have hmore : ∀ kept : Except BuildError SessionReport,
        p.rules.Goes (p.Finishing stage (results ++ [kept]) sessions)
          (finishWorkers sessions >>= fun more => pure (kept :: more))
          (p.Finished stage results) := by
      intro kept
      refine Rules.goes_bind (ih (results ++ [kept])) (fun more => ?_) fun _ _ h => h
      refine Rules.goes_pure fun past h => ?_
      show p.Finishing stage (results ++ kept :: more) [] past
      rw [List.append_cons]
      exact h
    intro past events result hp hr
    have hlicense : ∀ result, p.Licensed past (.finished stage s result) := fun _ =>
      ⟨hp.allOpen, sessions, hp.order⟩
    rcases runs_finishWorkers hr with ⟨kept, first, second, rfl, hfinish, hkept, hrest⟩ |
      ⟨failure, first, second, rfl, rfl, hfinish, hcut, habandon⟩
    · have hcourse : p.rules.Course past [.finished stage s (keptResult kept)] first :=
        Rules.course_step (hlicense (keptResult kept)) hfinish
      obtain ⟨steps, hcourse', hq⟩ := hmore kept _ second result (hp.finished hkept) hrest
      refine ⟨_, hcourse.append hcourse', ?_⟩
      rw [← List.append_assoc]
      exact hq
    · have hcourse : p.rules.Course past [.finished stage s (.error failure)] first :=
        Rules.course_step (hlicense (.error failure)) hfinish
      have hmem : BuildStep.finished stage s (.error failure) ∈
          past ++ [.finished stage s (.error failure)] :=
        List.mem_append_right _ List.mem_cons_self
      have hshort : p.CutShort stage failure (past ++ [.finished stage s (.error failure)]) := by
        refine ⟨hp.before.concat (isOf_finished stage s _), ?_, ⟨s, hmem, hcut⟩, ?_⟩
        · rw [AllOpen, openedIn_concat rfl]
          exact hp.allOpen
        · rw [← hp.timeouts s List.mem_cons_self]
          exact timeout_isSome_of_cutOff hcut
      have hopen : AreOpen sessions (past ++ [.finished stage s (.error failure)]) := by
        have hsubset : sessions ⊆ (openedIn stage past).map Prod.snd := by
          rw [hp.order]
          exact fun t ht => List.mem_append_right _ (List.mem_cons_of_mem _ ht)
        exact (areOpen_of_subset hsubset).concat fun _ => rfl
      obtain ⟨steps, hcourse', hq⟩ := goes_abandonAll (p := p) (P := p.CutShort stage failure)
        (fun _ t h => h.concat t) sessions _ second (.ok ())
        ⟨hshort, Or.inr ⟨stage, s, failure, hmem, hcut⟩, hopen⟩ habandon
      refine ⟨_, hcourse.append hcourse', ?_⟩
      rw [← List.append_assoc]
      exact hq

/-! ## verdicts -/

theorem Finishing.allFinished {results : List (Except BuildError SessionReport)}
    (h : p.Finishing stage results [] past) : AllFinished stage past := by
  rw [AllFinished, h.order, List.append_nil]

theorem isClean_keptResult {result : Except BuildError SessionReport} :
    IsClean (keptResult result) ↔ Passes result := by
  cases result with
  | error e => exact ⟨fun ⟨_, h, _⟩ => (nomatch h), fun ⟨_, h, _⟩ => (nomatch h)⟩
  | ok report =>
    constructor
    · rintro ⟨_, h, hzero⟩
      obtain rfl := Except.ok.inj h
      exact ⟨_, rfl, hzero⟩
    · rintro ⟨_, h, hzero⟩
      obtain rfl := Except.ok.inj h
      exact ⟨_, rfl, hzero⟩

/-- a stage has succeeded when the results of all its sessions pass -/
theorem Finishing.succeeded_iff {results : List (Except BuildError SessionReport)}
    (h : p.Finishing stage results [] past) :
    p.Succeeded stage past ↔ ∀ result ∈ results, Passes result := by
  constructor
  · intro hs result hmem
    have hkept : keptResult result ∈ (finishedIn stage past).map Prod.snd := by
      rw [h.kept]
      exact List.mem_map_of_mem hmem
    obtain ⟨f, hf, hresult⟩ := List.mem_map.mp hkept
    rw [← isClean_keptResult, ← hresult]
    exact hs.clean f hf
  · intro hall
    refine ⟨h.allOpen, h.allFinished, fun f hf => ?_⟩
    have hmem : f.2 ∈ results.map keptResult := by
      rw [← h.kept]
      exact List.mem_map_of_mem hf
    obtain ⟨result, hresult, heq⟩ := List.mem_map.mp hmem
    rw [← heq, isClean_keptResult]
    exact hall result hresult

/-- what holds behind the verdict on a stage -/
def Judged (p : BuildPlan) (stage : Stage) : Except Failure Unit → List BuildStep → Prop
  | .ok _, steps => p.Before stage steps ∧ p.Succeeded stage steps
  | .error e, steps => e.IsReported ∧ p.Before stage steps ∧ p.AllOpen stage steps ∧
      AllFinished stage steps

/-- an error is reported behind its log, if it has one -/
theorem runs_reportError {dir : String} {worker : Nat} {own : BuildError} {events : List HostEvent}
    {result : Except Failure Unit} (h : Runs (reportError dir worker own) events result)
    (hown : ¬ own.IsRefusal) :
    ∃ e, result = .error e ∧ e.IsReported ∧ (events = [] ∨
      ∃ text answer, events = [⟨.writeFile (logFile dir worker) text, answer⟩]) := by
  unfold reportError at h
  cases houtput : own.output? with
  | none =>
    rw [houtput] at h
    obtain ⟨rfl, rfl⟩ := runs_fail h
    exact ⟨_, rfl, hown, Or.inl rfl⟩
  | some output =>
    rw [houtput] at h
    simp only [writeLog, bind_assoc, pure_bind] at h
    obtain ⟨answer, rest, rfl, hanswer⟩ := runs_request_bind h
    cases answer with
    | error cause =>
      rcases runs_bind hanswer with ⟨e, rfl, hfail⟩ | ⟨_, _, _, _, hfail, _⟩
      · obtain ⟨rfl, he⟩ := runs_fail hfail
        exact ⟨e, rfl, Except.error.inj he ▸ id, Or.inr ⟨_, _, rfl⟩⟩
      · cases (runs_fail hfail).2
    | ok _ =>
      rcases runs_bind hanswer with ⟨_, _, hpure⟩ | ⟨_, _, _, rfl, hpure, hfail⟩
      · cases (runs_pure hpure).2
      · obtain ⟨rfl, _⟩ := runs_pure hpure
        obtain ⟨rfl, rfl⟩ := runs_fail hfail
        exact ⟨_, rfl, hown, Or.inr ⟨_, _, rfl⟩⟩

theorem not_isRefusal_of_ownError {dir : String} {worker : Nat}
    {result : Except BuildError SessionReport} {own : BuildError}
    (hresult : ∀ e, result = .error e → ¬ e.IsRefusal) (h : OwnError dir stage worker result own) :
    ¬ own.IsRefusal := by
  cases result with
  | error e =>
    obtain rfl : own = e := h
    exact hresult own rfl
  | ok report =>
    obtain ⟨k, code, _, rfl⟩ := h
    exact id

/-- a stage has succeeded when its verdict is good, and otherwise a failure is reported -/
theorem goes_checkWorkers (worker : Nat) (results : List (Except BuildError SessionReport)) :
    p.rules.Goes (p.Finishing stage results []) (checkWorkers p.dir stage worker results)
      (p.Judged stage) := by
  by_cases hall : ∀ result ∈ results, Passes result
  · rw [checkWorkers_of_passes hall]
    exact Rules.goes_pure fun past h => ⟨h.before, h.succeeded_iff.mpr hall⟩
  obtain ⟨before, result, behind, rfl, hbefore, hresult⟩ := exists_first_failure hall
  obtain ⟨own, hown, hcheck⟩ :=
    checkWorker_of_not_passes hresult p.dir (worker + before.length) stage
  rw [checkWorkers_first hbefore, hcheck]
  intro past events r hp hr
  have hreported : ¬ own.IsRefusal := not_isRefusal_of_ownError (fun e he =>
    hp.reported e (List.mem_append_right _ (he ▸ List.mem_cons_self))) hown
  have herror : ∃ e, r = .error e ∧ Runs (reportError p.dir (worker + before.length) own) events
      (.error e) := by
    rcases runs_bind hr with hfirst | ⟨_, first, second, _, hfirst, _⟩
    · exact hfirst
    · obtain ⟨_, he, _⟩ := runs_reportError hfirst hreported
      exact nomatch he
  obtain ⟨e, rfl, hreport⟩ := herror
  obtain ⟨e', he, hrep, hevents⟩ := runs_reportError hreport hreported
  obtain rfl := Except.error.inj he
  rcases hevents with rfl | hlog
  · refine ⟨[], .nil past, ?_⟩
    rw [List.append_nil]
    exact ⟨hrep, hp.before, hp.allOpen, hp.allFinished⟩
  · let step : BuildStep := .logged stage (worker + before.length)
    have hlicensed : p.Licensed past step :=
      ⟨hp.allOpen, hp.allFinished, fun hs => hall (hp.succeeded_iff.mp hs)⟩
    have hcourse : p.rules.Course past [step] events := Rules.course_step hlicensed hlog
    refine ⟨[step], hcourse, hrep, hp.before.concat (isOf_logged stage _), ?_, ?_⟩
    · rw [AllOpen, openedIn_concat rfl]
      exact hp.allOpen
    · rw [AllFinished, openedIn_concat rfl, finishedIn_concat rfl]
      exact hp.allFinished

/-! ## why a stage may not be reached -/

/-- a session that has been started stays among the past -/
theorem openedIn_ne_nil_append (past steps : List BuildStep) (h : openedIn stage past ≠ []) :
    openedIn stage (past ++ steps) ≠ [] := by
  rw [openedIn, List.filterMap_append]
  exact List.append_ne_nil_of_left_ne_nil h _

/-- a session has been refused, or one of the compile stage has not reported zeros only -/
def Blemished (past : List BuildStep) : Prop :=
  ¬ Untroubled past ∨ ∃ f ∈ finishedIn .compile past, ¬ IsClean f.2

theorem Blemished.append (past steps : List BuildStep) (h : Blemished past) :
    Blemished (past ++ steps) := by
  rcases h with htrouble | ⟨f, hf, hunclean⟩
  · exact .inl fun hnone => htrouble fun st task failure hmem =>
      hnone st task failure (List.mem_append_left _ hmem)
  · refine .inr ⟨f, ?_, hunclean⟩
    rw [finishedIn, List.filterMap_append]
    exact List.mem_append_left _ hf

theorem blemished_of_refused {task : Task} {failure : Failure}
    (h : .refused stage task failure ∈ past) : Blemished past :=
  .inl fun hnone => hnone stage task failure h

theorem CutShort.blemished {failure : Failure} (h : p.CutShort .compile failure past) :
    Blemished past := by
  obtain ⟨s, hmem, -⟩ := h.cut
  refine .inr ⟨(s, .error failure), List.mem_filterMap.mpr ⟨_, hmem, rfl⟩, ?_⟩
  rintro ⟨report, hreport, -⟩
  exact nomatch hreport

theorem Finishing.blemished {results : List (Except BuildError SessionReport)}
    (h : p.Finishing .compile results [] past) (hfails : ¬ ∀ result ∈ results, Passes result) :
    Blemished past := by
  refine .inr ?_
  by_contra hclean
  push Not at hclean
  exact hfails (h.succeeded_iff.mp ⟨h.allOpen, h.allFinished, hclean⟩)

/-- a verdict that is not good is due to a session that does not report zeros only -/
theorem goes_checkCompiled (results : List (Except BuildError SessionReport)) :
    p.rules.Goes (p.Finishing .compile results []) (checkWorkers p.dir .compile 0 results)
      fun result steps => p.Judged .compile result steps ∧
        ∀ e, result = .error e → Blemished steps := by
  by_cases hall : ∀ result ∈ results, Passes result
  · rw [checkWorkers_of_passes hall]
    exact Rules.goes_pure fun past h =>
      ⟨⟨h.before, h.succeeded_iff.mpr hall⟩, fun _ he => nomatch he⟩
  · exact Rules.goes_mono (Rules.goes_keep (goes_checkWorkers 0 results) Blemished.append)
      (fun past h => ⟨h, h.blemished hall⟩) fun _ _ h => ⟨h.1, fun _ _ => h.2⟩

/-! ## the stages -/

/-- nothing but questions to the machine -/
def OnlyLooks (past : List BuildStep) : Prop := ∀ step ∈ past, ∃ r, step = .looked r

/-- If no start of a compile session was refused, each task has its session, and every session is
finished, unless the wait for one was cut off, which takes a timeout. -/
def Accounted (p : BuildPlan) (steps : List BuildStep) : Prop :=
  (∀ task failure, .refused .compile task failure ∉ steps) → openedIn .compile steps ≠ [] →
    p.AllOpen .compile steps ∧
      (AllFinished .compile steps ∨ p.config.timeout.isSome ∧
        ∃ s failure, .finished .compile s (.error failure) ∈ steps ∧ s.CutOff failure)

/-- how a build fails -/
structure Fails (p : BuildPlan) (e : Failure) (steps : List BuildStep) : Prop where
  untouched : ∀ own, e = .error own → own.IsRefusal → OnlyLooks steps
  accounted : p.Accounted steps

theorem OnlyLooks.nothing (h : OnlyLooks past) :
    (∀ stage, openedIn stage past = []) ∧ (∀ stage, finishedIn stage past = []) ∧
      removedIn past = [] ∧ Untroubled past := by
  refine ⟨fun st => List.filterMap_eq_nil_iff.mpr fun step hs => ?_,
    fun st => List.filterMap_eq_nil_iff.mpr fun step hs => ?_,
    List.filterMap_eq_nil_iff.mpr fun step hs => ?_, fun st task failure hs => ?_⟩
  · obtain ⟨r, rfl⟩ := h step hs
    rfl
  · obtain ⟨r, rfl⟩ := h step hs
    rfl
  · obtain ⟨r, rfl⟩ := h step hs
    rfl
  · obtain ⟨r, hr⟩ := h _ hs
    exact nomatch hr

theorem OnlyLooks.fails (h : OnlyLooks past) (p : BuildPlan) (e : Failure) : p.Fails e past :=
  ⟨fun _ _ _ => h, fun _ hne => absurd (h.nothing.1 .compile) hne⟩

theorem Succeeded.accounted (h : p.Succeeded .compile past) : p.Accounted past :=
  fun _ _ => ⟨h.allOpen, Or.inl h.allFinished⟩

theorem CutShort.accounted {failure : Failure} (h : p.CutShort stage failure past) :
    p.Accounted past := by
  cases stage with
  | compile =>
    obtain ⟨s, hmem, hcut⟩ := h.cut
    exact fun _ _ => ⟨h.allOpen, Or.inr ⟨h.timeout, s, failure, hmem, hcut⟩⟩
  | link => exact h.before.2.1.accounted

/-- a session that is cut off does not report a refusal -/
theorem CutShort.fails {failure : Failure} (h : p.CutShort stage failure past) :
    p.Fails failure past := by
  refine ⟨?_, h.accounted⟩
  rintro own rfl
  obtain ⟨_, _, hcut⟩ := h.cut
  exact hcut.elim

theorem fails_of_isReported {e : Failure} (he : e.IsReported) (h : p.Accounted past) :
    p.Fails e past := by
  refine ⟨?_, h⟩
  rintro own rfl hown
  exact absurd hown he

theorem Judged.accounted {result : Except Failure Unit} (h : p.Judged stage result past) :
    p.Accounted past := by
  cases result with
  | ok _ =>
    cases stage with
    | compile => exact h.2.accounted
    | link => exact h.1.2.1.accounted
  | error e =>
    cases stage with
    | compile => exact fun _ _ => ⟨h.2.2.1, Or.inl h.2.2.2⟩
    | link => exact h.2.1.2.1.accounted

/-- what holds behind the compile stage -/
def Compiled (p : BuildPlan) : Except Failure (List String) → List BuildStep → Prop
  | .ok objects, steps => p.Before .compile steps ∧ p.Succeeded .compile steps ∧
      p.recipe.objects = .ok objects
  | .error e, steps => p.Fails e steps

/-- Both are told: what holds behind the compile stage, and why it fails if it does. -/
theorem goes_compileObjects :
    p.rules.Goes OnlyLooks (compileObjects p.recipe p.dir p.workers p.config) fun result steps =>
      p.Compiled result steps ∧ ∀ e, result = .error e →
        OnlyLooks steps ∨ Blemished steps ∨ ∃ e, p.recipe.objects = .error e := by
  rw [compileObjects]
  cases htasks : tasksOf p.recipe p.workers with
  | error e => exact Rules.goes_throw fun past h => ⟨h.fails p e, fun _ _ => .inl h⟩
  | ok tasks =>
    have hstart : p.rules.Goes OnlyLooks (startWorkers p.spec [] tasks) p.Started := by
      refine Rules.goes_mono (goes_startWorkers tasks []) (fun past h => ?_) fun _ _ h => h
      obtain ⟨hopened, hfinished, hremoved, huntroubled⟩ := h.nothing
      refine ⟨⟨huntroubled, hopened .link, hfinished .link, hremoved⟩, ?_, ?_, hfinished .compile,
        fun _ hs => absurd hs List.not_mem_nil⟩
      · rw [hopened]
        exact htasks
      · rw [hopened]
        rfl
    show p.rules.Goes OnlyLooks (startWorkers p.spec [] tasks >>= _) _
    refine Rules.goes_bind hstart (fun sessions => ?_) fun e steps h => ?_
    swap
    · obtain ⟨he, task, failure, hmem⟩ := h
      exact ⟨fails_of_isReported he fun huntroubled => absurd hmem (huntroubled task failure),
        fun _ _ => .inr (.inl (blemished_of_refused hmem))⟩
    refine Rules.goes_bind (Rules.goes_mono (goes_finishWorkers sessions [])
      (fun past h => Starting.finishing h) fun _ _ h => h) (fun results => ?_)
      fun e steps h => ⟨CutShort.fails h, fun _ _ => .inr (.inl (CutShort.blemished h))⟩
    refine Rules.goes_bind (goes_checkCompiled results) (fun _ => ?_) fun e steps h =>
      ⟨fails_of_isReported h.1.1 (Judged.accounted h.1), fun _ _ => .inr (.inl (h.2 e rfl))⟩
    cases hobjects : p.recipe.objects with
    | ok objects =>
      refine Rules.goes_pure fun past h => ⟨⟨h.1.1, h.1.2, hobjects⟩, fun e he => ?_⟩
      cases he
    | error e =>
      refine Rules.goes_throw fun past h => ⟨⟨?_, h.1.2.accounted⟩, fun _ _ => .inr (.inr ⟨e, rfl⟩)⟩
      rintro own rfl
      cases objects_error hobjects

/-- what holds behind the link stage -/
def Linked (p : BuildPlan) : Except Failure Unit → List BuildStep → Prop
  | .ok _, steps => p.Before .link steps ∧ p.Succeeded .link steps
  | .error e, steps => p.Fails e steps

/-- Both are told: what holds behind the link stage, and that it has its session unless that is
refused. -/
theorem goes_linkLibrary {objects : List String} (hobjects : p.recipe.objects = .ok objects) :
    p.rules.Goes (fun past => p.Before .compile past ∧ p.Succeeded .compile past)
      (linkLibrary p.recipe p.dir objects p.config) fun result steps =>
        p.Linked result steps ∧ (Blemished steps ∨ openedIn .link steps ≠ []) := by
  -- the session is open, and is finished
  have hopen : ∀ s, p.rules.Goes (p.Starting .link [s] [])
      (finishWorkers [s] >>= checkWorkers p.dir .link linkWorker) p.Linked := by
    intro s
    refine Rules.goes_bind (Rules.goes_mono (goes_finishWorkers [s] [])
      (fun past h => Starting.finishing h) fun _ _ h => h) (fun results => ?_)
      fun e steps h => CutShort.fails h
    refine Rules.goes_mono (goes_checkWorkers linkWorker results) (fun _ h => h)
      fun result steps h => ?_
    cases result with
    | ok _ => exact h
    | error e => exact fails_of_isReported h.1 (Judged.accounted h)
  intro past events result hp hr
  obtain ⟨⟨huntroubled, hopened, hfinished, hremoved⟩, hcompiled⟩ := hp
  have hstarting : p.Starting .link [] [p.linkTask objects] past := by
    refine ⟨⟨huntroubled, hcompiled, hremoved⟩, ?_, ?_, hfinished,
      fun _ hs => absurd hs List.not_mem_nil⟩
    · rw [hopened, tasks, hobjects]
      rfl
    · rw [hopened]
      rfl
  rcases runs_linkLibrary hr with ⟨e, rfl, hstart⟩ | ⟨s, first, second, rfl, hopens, hend⟩
  · have hrefused : p.rules.Course past [.refused .link (p.linkTask objects) e] events :=
      Rules.course_step hstarting.mayOpen hstart
    refine ⟨_, hrefused, fails_of_isReported (Session.start_endsIn _ _ _ _ hstart) ?_,
      .inl (blemished_of_refused (List.mem_append_right _ List.mem_cons_self))⟩
    exact (hcompiled.concat rfl rfl).accounted
  · have hcourse : p.rules.Course past [.opened .link (p.linkTask objects) s] first :=
      Rules.course_step hstarting.mayOpen hopens
    have hsome : openedIn .link (past ++ [.opened .link (p.linkTask objects) s]) ≠ [] := by
      rw [openedIn_opened]
      exact List.append_ne_nil_of_right_ne_nil _ (List.cons_ne_nil _ _)
    obtain ⟨steps, hcourse', hq, hkept⟩ := Rules.goes_keep (hopen s) openedIn_ne_nil_append _ second
      result ⟨hstarting.opened hopens, hsome⟩ hend
    refine ⟨_, hcourse.append hcourse', ?_⟩
    rw [← List.append_assoc]
    exact ⟨hq, .inr hkept⟩

/-! ## cleanup and verification -/

/-- both stages have succeeded, and the status files of the workers below `k` are gone -/
structure Clearing (p : BuildPlan) (k : Nat) (past : List BuildStep) : Prop where
  untroubled : Untroubled past
  compiled : p.Succeeded .compile past
  linked : p.Succeeded .link past
  removed : (removedIn past).map Prod.fst = List.range k
  gone : ∀ r ∈ removedIn past, IsRemoval r.2

theorem Clearing.concat {k : Nat} (h : p.Clearing k past) {step : BuildStep}
    (ho : ∀ stage, openedBy stage step = none) (hf : ∀ stage, finishedBy stage step = none)
    (hr : removedBy step = none)
    (hs : ∀ stage task failure, step ≠ .refused stage task failure) :
    p.Clearing k (past ++ [step]) := by
  refine ⟨h.untroubled.concat hs, h.compiled.concat (ho _) (hf _),
    h.linked.concat (ho _) (hf _), ?_, ?_⟩
  · rw [removedIn_concat hr]
    exact h.removed
  · rw [removedIn_concat hr]
    exact h.gone

/-- what holds behind the cleanup -/
def Cleaned (p : BuildPlan) : Except Failure Unit → List BuildStep → Prop
  | .ok _, steps => p.Clearing p.workers steps
  | .error e, steps => p.Fails e steps

/-- the status files go one by one, from that of worker `k` on -/
theorem goes_removeFrom (m k : Nat) (h : k + m = p.workers) :
    p.rules.Goes (p.Clearing k)
      ((List.range' k m).forM fun worker => removeIfExists (statusFile p.dir worker))
      p.Cleaned := by
  induction m generalizing k with
  | zero =>
    obtain rfl : k = p.workers := h
    exact Rules.goes_pure fun past hp => hp
  | succ m ih =>
    let Q : Except Failure Unit → List BuildStep → Prop
      | .ok _, steps => p.Clearing (k + 1) steps
      | .error e, steps => p.Fails e steps
    rw [List.range'_succ]
    refine Rules.goes_bind (Q := Q) ?_ (fun _ => ih (k + 1) (by omega)) fun e steps hf => hf
    intro past events result hp hr
    obtain ⟨answer, rfl, hresult⟩ := runs_removeIfExists hr
    let step : BuildStep := .removed k answer
    have hlicense : p.Licensed past step := ⟨hp.linked, by omega, hp.removed, hp.gone⟩
    have hcourse : p.rules.Course past [step] [⟨.removeFile (statusFile p.dir k), answer⟩] :=
      Rules.course_step hlicense rfl
    have hcompiled : p.Succeeded .compile (past ++ [step]) := hp.compiled.concat rfl rfl
    refine ⟨_, hcourse, ?_⟩
    rcases hresult with ⟨hgone, rfl⟩ | ⟨cause, rfl⟩
    · have hremoved : removedIn (past ++ [step]) = removedIn past ++ [(k, answer)] :=
        List.filterMap_append
      refine ⟨hp.untroubled.concat fun _ _ _ h => (nomatch h), hcompiled,
        hp.linked.concat rfl rfl, ?_, ?_⟩
      · rw [hremoved, List.map_append, hp.removed, List.range_succ]
        rfl
      · rw [hremoved]
        intro r hmem
        rcases List.mem_append.mp hmem with hmem | hmem
        · exact hp.gone r hmem
        · rw [List.mem_singleton.mp hmem]
          exact hgone
    · exact fails_of_isReported id hcompiled.accounted

theorem goes_removeStatusFiles :
    p.rules.Goes (p.Clearing 0) (removeStatusFiles p.dir p.workers) p.Cleaned := by
  rw [removeStatusFiles, List.range_eq_range']
  exact goes_removeFrom p.workers 0 (Nat.zero_add _)

/-- how a build ends -/
structure Ends (p : BuildPlan) (result : Except Failure String) (steps : List BuildStep) :
    Prop where
  /-- a refused recipe or directory costs nothing but questions -/
  untouched : ∀ e, result = .error (.error e) → e.IsRefusal → OnlyLooks steps
  /-- what is started is finished -/
  accounted : p.Accounted steps
  /-- a library takes all steps -/
  complete : ∀ library, result = .ok library → p.Clearing p.workers steps ∧
    (p.config.verify = true → .loaded library true ∈ steps)

theorem Fails.ends {e : Failure} (h : p.Fails e past) : p.Ends (.error e) past :=
  ⟨fun own he => h.untouched own (Except.error.inj he), h.accounted, fun _ h => nomatch h⟩

theorem Clearing.ends {library : String} (h : p.Clearing p.workers past)
    (hload : p.config.verify = true → .loaded library true ∈ past) : p.Ends (.ok library) past :=
  ⟨fun _ he => (nomatch he), h.compiled.accounted, fun _ hl => Except.ok.inj hl ▸ ⟨h, hload⟩⟩

/-- what holds behind the verification -/
def Verified (p : BuildPlan) (library : String) : Except Failure Unit → List BuildStep → Prop
  | .ok _, steps => p.Clearing p.workers steps ∧ .loaded library true ∈ steps
  | .error e, steps => p.Fails e steps

theorem goes_verifyLibrary {library : String} (hverify : p.config.verify = true)
    (hlibrary : ∃ dir, library = Path.join dir p.recipe.libraryFileName) :
    p.rules.Goes (p.Clearing p.workers) (verifyLibrary library) (p.Verified library) := by
  intro past events result hp hr
  obtain ⟨answer, rfl, rfl⟩ := runs_verifyLibrary hr
  have hlicense : p.Licensed past (.loaded library answer) :=
    ⟨hp.linked, ⟨hp.removed, hp.gone⟩, hverify, hlibrary⟩
  have hcourse : p.rules.Course past [.loaded library answer] [⟨.load library, answer⟩] :=
    Rules.course_step hlicense rfl
  have hclear : p.Clearing p.workers (past ++ [.loaded library answer]) :=
    hp.concat (fun _ => rfl) (fun _ => rfl) rfl fun _ _ _ h => nomatch h
  refine ⟨_, hcourse, ?_⟩
  cases answer with
  | true => exact ⟨hclear, List.mem_append_right _ List.mem_cons_self⟩
  | false => exact fails_of_isReported (e := .error .libraryLoad) id hclear.compiled.accounted

/-- what holds once it is known where the library is to lie -/
def Located (p : BuildPlan) : Except Failure String → List BuildStep → Prop
  | .ok library, steps => p.Before .compile steps ∧ p.Succeeded .compile steps ∧
      ∃ dir, library = Path.join dir p.recipe.libraryFileName
  | .error e, steps => p.Fails e steps

theorem goes_libraryPath :
    p.rules.Goes (fun past => p.Before .compile past ∧ p.Succeeded .compile past)
      (libraryPath p.recipe p.dir) p.Located := by
  have hasks : Asks IsLook (libraryPath p.recipe p.dir) :=
    asks_bind (absolute_asks p.dir) fun _ => asks_pure _
  refine Rules.goes_mono (goes_looks hasks fun past r h =>
    ⟨h.1.concat (isOf_looked .compile r), h.2.concat rfl rfl⟩) (fun _ h => h) ?_
  rintro result steps ⟨⟨hbefore, hcompiled⟩, events, hr⟩
  rcases runs_bind hr with ⟨e, rfl, he⟩ | ⟨dir, _, _, _, _, hdone⟩
  · exact fails_of_isReported (absolute_endsIn _ _ _ he) hcompiled.accounted
  · obtain ⟨_, rfl⟩ := runs_pure hdone
    exact ⟨hbefore, hcompiled, dir, rfl⟩

/-- what holds behind both stages -/
def Staged (p : BuildPlan) : Except Failure String → List BuildStep → Prop
  | .ok library, steps => p.Clearing 0 steps ∧
      ∃ dir, library = Path.join dir p.recipe.libraryFileName
  | .error e, steps => p.Fails e steps

theorem Linked.staged {library : String} (h : p.Linked (.ok ()) past)
    (hlibrary : ∃ dir, library = Path.join dir p.recipe.libraryFileName) :
    p.Staged (.ok library) past := by
  obtain ⟨⟨huntroubled, hcompiled, hremoved⟩, hlinked⟩ := h
  refine ⟨⟨huntroubled, hcompiled, hlinked, ?_, fun r hr => ?_⟩, hlibrary⟩
  · rw [hremoved]
    rfl
  · rw [hremoved] at hr
    exact absurd hr List.not_mem_nil

theorem goes_stages : p.rules.Goes OnlyLooks p.stages p.Staged := by
  refine Rules.goes_bind goes_compileObjects (fun objects => ?_) fun e steps h => h.1
  intro past events result hp hr
  obtain ⟨⟨hbefore, hcompiled, hobjects⟩, -⟩ := hp
  refine Rules.goes_bind (R := p.Staged) goes_libraryPath (fun library => ?_)
    (fun e steps h => h) past events result ⟨hbefore, hcompiled⟩ hr
  intro past events result hp hr
  obtain ⟨hbefore, hcompiled, hlibrary⟩ := hp
  refine Rules.goes_bind (R := p.Staged) (goes_linkLibrary hobjects) (fun _ => ?_)
    (fun e steps h => h.1) past events result ⟨hbefore, hcompiled⟩ hr
  exact Rules.goes_pure fun steps h => Linked.staged h.1 hlibrary

/-- behind both stages the status files are removed and the library is loaded, if it is to be -/
theorem goes_cleanUp {library : String}
    (hlibrary : ∃ dir, library = Path.join dir p.recipe.libraryFileName) :
    p.rules.Goes (p.Clearing 0) (p.cleanUp library) p.Ends := by
  refine Rules.goes_bind goes_removeStatusFiles (fun _ => ?_) fun e steps h => Fails.ends h
  by_cases hverify : p.config.verify = true
  · simp only [hverify, if_true]
    refine Rules.goes_bind (goes_verifyLibrary hverify hlibrary) (fun _ => ?_)
      fun e steps h => Fails.ends h
    exact Rules.goes_pure fun past h => h.1.ends fun _ => h.2
  · simp only [hverify]
    exact Rules.goes_pure fun past h => h.ends fun hv => absurd hv hverify

/-- the stages of a build and its cleanup -/
theorem goes_build : p.rules.Goes OnlyLooks (p.stages >>= p.cleanUp) p.Ends := by
  refine Rules.goes_bind goes_stages (fun library => ?_) fun e steps h => Fails.ends h
  exact fun past events result hp hr => goes_cleanUp hp.2 past events result hp.1 hr

/-- the steps of questions are questions -/
theorem onlyLooks_map (events : List HostEvent) :
    OnlyLooks (events.map fun e => .looked e.1) := by
  intro step hs
  obtain ⟨e, _, rfl⟩ := List.mem_map.mp hs
  exact ⟨e.1, rfl⟩

end BuildPlan

/-! ## the whole build -/

variable {σ : Type}

/-- **The phases of a build.**  Whatever the host answers, the events of a build are those of steps
of which each stands where its license allows it: all sessions of the compile stage are open before
one of them is finished, the link session is started once all of them have reported zeros only, the
status files are removed once it has, and the library is loaded once they are gone.  How the build
ends says which steps have been made. -/
theorem build_phases (env : Interaction.Environment Host.Answer σ) (r : Recipe) (dir : String)
    (c : Config) (s : σ) :
    ∃ (p : BuildPlan) (steps : List BuildStep), p.recipe = r ∧ p.config = c ∧
      (∃ cores, p.workers = workerCount c.threads cores ∧
        (BuildPlan.OnlyLooks steps ∨ ⟨.cores, cores⟩ ∈ trace env (build r dir c) s)) ∧
      (∀ tasks, p.tasks .compile = .ok tasks → tasks.map Task.worker = List.range p.workers) ∧
      p.rules.Course [] steps (trace env (build r dir c) s) ∧
      p.Ends (outcome env (build r dir c) s).1 steps := by
  have hrun := runs_trace env (build r dir c) s
  rw [build_eq] at hrun ⊢
  rcases runs_bind hrun with ⟨e, he, hprepare⟩ | ⟨p, first, second, htrace, hprepare, hrest⟩
  · let p : BuildPlan := ⟨r, dir, workerCount c.threads 1, c⟩
    have hlooks := Interaction.Asks.of_runs (prepare_asks r dir c) hprepare
    refine ⟨p, _, rfl, rfl, ⟨1, rfl, Or.inl (BuildPlan.onlyLooks_map _)⟩,
      fun _ => p.tasks_workers (workerCount_pos _ _), course_looks p hlooks [], ?_⟩
    rw [he]
    exact ((BuildPlan.onlyLooks_map _).fails p e).ends
  · have hlooks := Interaction.Asks.of_runs (prepare_asks r dir c) hprepare
    obtain ⟨rfl, rfl, cores, hworkers, hcores⟩ := runs_prepare hprepare
    have hpos : 0 < p.workers := hworkers ▸ workerCount_pos _ _
    obtain ⟨steps, hcourse, hends⟩ := BuildPlan.goes_build (p := p) _ second _
      (BuildPlan.onlyLooks_map first) hrest
    rw [htrace]
    exact ⟨p, _, rfl, rfl, ⟨cores, hworkers, Or.inr (List.mem_append_left _ hcores)⟩,
      fun _ => p.tasks_workers hpos, (course_looks p hlooks []).append hcourse, hends⟩

/-! ## a deadline that cannot be kept -/

/-- a host on which every command succeeds -/
def zeroHost : Interaction.Environment Host.Answer Unit :=
  scriptedHost fun path => if path = statusFile "/build" 0 then [0, 0] else [0]

/-- a timeout whose deadline lies beyond the last instant of the clock -/
def endlessConfig : Config :=
  { sampleConfig with timeout := some (.ofSeconds (Nat.pow 2 64 - 1)) }

def isShellStart : HostEvent → Bool
  | ⟨.spawn _ _ _, .ok _⟩ => true
  | _ => false

def isStatusRead : HostEvent → Bool
  | ⟨.readFile _, _⟩ => true
  | _ => false

/-- Both sessions are started, and none of them comes to the reading of its status file: the
failure of the first one leaves the second one unfinished. -/
theorem build_overflow_unfinished :
    (outcome zeroHost (build threeSources "/build" endlessConfig) ()).1 =
        .error .deadlineOverflow ∧
      (trace zeroHost (build threeSources "/build" endlessConfig) ()).countP isShellStart = 2 ∧
      (trace zeroHost (build threeSources "/build" endlessConfig) ()).countP isStatusRead = 0 := by
  decide +kernel

end ShellWorkers
