import Mathlib.Data.List.Forall2
import ShellWorkers.Build
import ShellWorkers.Proofs.Outcome

/-!
# Sessions for all workers

Every worker's session is started and given its whole queue before any is finished, and the
sessions are finished in the order of the workers.

* `Starts`                  sessions can be started and given their queues, one after another;
* `Reports`                 and every one of them reports a list of codes;
* `outcome_startWorkers`    all are open, each with the task it was started for;
* `outcome_finishWorkers`   there is a report for every task, in order.
-/

namespace ShellWorkers

open ShellWorkers.Action

variable {σ : Type} {env : Interaction.Environment Host.Answer σ} {spec : SessionSpec}

/-- a session with the task that it was started for -/
abbrev OpenSession := Session × Task

/-- In every state in which the sessions `opened` are open, one more can be started for a task of
`tasks` and given its commands. -/
def Starts (env : Interaction.Environment Host.Answer σ) (spec : SessionSpec) (tasks : List Task)
    (Open : List OpenSession → σ → Prop) : Prop :=
  ∀ opened task s, task ∈ tasks → Open opened s →
    ∃ fresh s₁ session s₂, outcome env (Session.start task.worker spec) s = (.ok fresh, s₁) ∧
      outcome env (fresh.submitAll task.commands) s₁ = (.ok session, s₂) ∧
      Open (opened ++ [(session, task)]) s₂

/-- The first of the open sessions can be finished, and reports the codes of its task. -/
def Reports (env : Interaction.Environment Host.Answer σ) (codes : Task → List Int)
    (Open : List OpenSession → σ → Prop) : Prop :=
  ∀ session task opened s, Open ((session, task) :: opened) s →
    ∃ output s', outcome env session.finish s = (.ok ⟨output, codes task⟩, s') ∧ Open opened s'

/-- three sources for a toolchain that needs no more than their names -/
def threeSources : Recipe where
  shell := .standard
  initCommand := "set -u"
  objectCommand source := .ok ("cc " ++ source)
  libraryCommand _ target := "ar " ++ target
  target := "sample"
  objectExt := "o"
  libraryExt := ".so"
  sources := ["a.c", "b.c", "c.c"]

def sampleConfig : Config := { Config.default with flavor := .posix }

theorem starts_tail {task : Task} {tasks : List Task} {Open : List OpenSession → σ → Prop}
    (h : Starts env spec (task :: tasks) Open) : Starts env spec tasks Open :=
  fun opened t s ht ho => h opened t s (List.mem_cons_of_mem _ ht) ho

/-- all sessions are started, in the order of their tasks -/
theorem outcome_startWorkers {Open : List OpenSession → σ → Prop} (tasks : List Task)
    (h : Starts env spec tasks Open) (opened : List OpenSession) {s : σ} (hs : Open opened s) :
    ∃ more s', outcome env (startWorkers spec (opened.map Prod.fst) tasks) s =
        (.ok ((opened ++ more).map Prod.fst), s') ∧
      more.map Prod.snd = tasks ∧ Open (opened ++ more) s' := by
  induction tasks generalizing opened s with
  | nil =>
    refine ⟨[], s, ?_, rfl, ?_⟩
    · rw [List.append_nil]
      rfl
    · rw [List.append_nil]
      exact hs
  | cons task tasks ih =>
    obtain ⟨fresh, s₁, session, s₂, hstart, hsubmit, hopen⟩ := h opened task s List.mem_cons_self hs
    obtain ⟨more, s', hrest, hmore, hopen'⟩ := ih (starts_tail h) (opened ++ [(session, task)]) hopen
    rw [List.append_assoc, List.singleton_append] at hrest hopen'
    refine ⟨(session, task) :: more, s', ?_, ?_, hopen'⟩
    · rw [startWorkers, outcome_bind_ok (outcome_tryCatch_ok hstart), outcome_bind_ok hsubmit]
      rw [List.map_append] at hrest
      exact hrest
    · rw [List.map_cons, hmore]

/-- `results` holds a report with the codes of each task -/
def ReportsOf (codes : Task → List Int) (tasks : List Task)
    (results : List (Except BuildError SessionReport)) : Prop :=
  List.Forall₂ (fun task result => ∃ output, result = .ok ⟨output, codes task⟩) tasks results

/-- a session that ends with a report or an error of its own leaves the others to be finished -/
theorem outcome_finishWorkers_cons {session : Session} {sessions : List Session} {s t : σ}
    {result : Except BuildError SessionReport}
    (h : outcome env session.finish s = (result.mapError Failure.error, t)) :
    outcome env (finishWorkers (session :: sessions)) s =
      outcome env (finishWorkers sessions >>= fun results => pure (result :: results)) t := by
  have hlift : outcome env (ExceptT.lift session.finish.run) s =
      (.ok (result.mapError Failure.error), t) := by
    rw [outcome_lift]
    rw [show Interaction.runState env session.finish.run s = _ from h]
  rw [finishWorkers, outcome_bind_ok hlift]
  cases result <;> rfl

/-- all sessions are finished, and their reports kept in order -/
theorem outcome_finishWorkers {codes : Task → List Int} {Open : List OpenSession → σ → Prop}
    (h : Reports env codes Open) (opened : List OpenSession) {s : σ} (hs : Open opened s) :
    ∃ results s', outcome env (finishWorkers (opened.map Prod.fst)) s = (.ok results, s') ∧
      ReportsOf codes (opened.map Prod.snd) results ∧ Open [] s' := by
  induction opened generalizing s with
  | nil => exact ⟨[], s, rfl, List.Forall₂.nil, hs⟩
  | cons first opened ih =>
    obtain ⟨session, task⟩ := first
    obtain ⟨output, s₁, hfinish, hopen⟩ := h session task opened s hs
    obtain ⟨results, s', hrest, hresults, hopen'⟩ := ih hopen
    refine ⟨.ok ⟨output, codes task⟩ :: results, s', ?_,
      List.Forall₂.cons ⟨output, rfl⟩ hresults, hopen'⟩
    let result : Except BuildError SessionReport := .ok ⟨output, codes task⟩
    have hreport : outcome env session.finish s = (result.mapError Failure.error, s₁) := hfinish
    rw [List.map_cons, outcome_finishWorkers_cons hreport, outcome_bind_ok hrest]
    rfl

end ShellWorkers
