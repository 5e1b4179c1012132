import ShellWorkers.Build
import ShellWorkers.Proofs.Workshop

/-!
# Verdicts in the order of the workers

The results of the workers are checked one after another.  The first one that is a failure is
reported; what its worker had written, if the failure carries it, is logged before.

* `Passes`, `OwnError`      what a result stands for;
* `checkWorkers_first`      results that pass are skipped;
* `WritesFiles`             what writing a file does to the files;
* `checkWorkers_verdict`    the verdict on any results, and what it leaves in the files.
-/

namespace ShellWorkers

open ShellWorkers.Action

/-! ## results -/

/-- neither an error nor a code that is not zero -/
def Passes (result : Except BuildError SessionReport) : Prop :=
  ∃ report, result = .ok report ∧ ∀ code ∈ report.codes, code = 0

/-- `code` is the first code that is not zero, and `k` its index -/
def FirstNonzero (codes : List Int) (k : Nat) (code : Int) : Prop :=
  codes[k]? = some code ∧ code ≠ 0 ∧ ∀ j < k, codes[j]? = some 0

/-- the error that the result of a worker stands for -/
def OwnError (dir : String) (stage : Stage) (worker : Nat) :
    Except BuildError SessionReport → BuildError → Prop
  | .error e, own => own = e
  | .ok report, own => ∃ k code, FirstNonzero report.codes k code ∧
      own = .commandFailed worker stage k code (logFile dir worker) report.output

theorem firstNonzero_eq_some {index i : Nat} {codes : List Int} {code : Int}
    (h : firstNonzero index codes = some (i, code)) :
    ∃ k, i = index + k ∧ FirstNonzero codes k code := by
  induction codes generalizing index with
  | nil => exact nomatch h
  | cons c codes ih =>
    by_cases hc : c = 0
    · rw [firstNonzero, if_pos hc] at h
      obtain ⟨k, hk, hcode, hne, hbefore⟩ := ih h
      refine ⟨k + 1, by omega, hcode, hne, fun j hj => ?_⟩
      cases j with
      | zero => rw [List.getElem?_cons_zero, hc]
      | succ j => exact hbefore j (Nat.lt_of_succ_lt_succ hj)
    · rw [firstNonzero, if_neg hc] at h
      obtain ⟨rfl, rfl⟩ := Prod.mk.inj (Option.some.inj h)
      exact ⟨0, rfl, rfl, hc, fun j hj => absurd hj (Nat.not_lt_zero j)⟩

theorem firstFailure?_eq_none {report : SessionReport} (h : report.firstFailure? = none) :
    ∀ code ∈ report.codes, code = 0 := by
  intro code hcode
  have hall := (SessionReport.firstFailure?_eq_none_iff report).mp h
  exact beq_iff_eq.mp (List.all_eq_true.mp hall code hcode)

theorem firstFailure?_of_zero {report : SessionReport} (h : ∀ code ∈ report.codes, code = 0) :
    report.firstFailure? = none := by
  rw [SessionReport.firstFailure?_eq_none_iff, SessionReport.succeeded, List.all_eq_true]
  exact fun code hcode => beq_iff_eq.mpr (h code hcode)

/-! ## the verdict on one worker -/

/-- an error is reported once its output is logged -/
def reportError (dir : String) (worker : Nat) (e : BuildError) : Action Unit :=
  match e.output? with
  | some output => do
    let _ ← writeLog dir worker output
    fail e
  | none => fail e

theorem checkWorker_of_passes {result : Except BuildError SessionReport} (h : Passes result)
    (dir : String) (worker : Nat) (stage : Stage) :
    checkWorker dir worker stage result = pure () := by
  obtain ⟨report, rfl, hzero⟩ := h
  rw [checkWorker, firstFailure?_of_zero hzero]

/-- a log is written where its worker's log lies -/
theorem writeLog_bind {α : Type} (dir : String) (worker : Nat) (output : String)
    (f : String → Action α) :
    writeLog dir worker output >>= f =
      writeLog dir worker output >>= fun _ => f (logFile dir worker) := by
  simp only [writeLog, bind_assoc, pure_bind]

theorem checkWorker_of_not_passes {result : Except BuildError SessionReport} (h : ¬ Passes result)
    (dir : String) (worker : Nat) (stage : Stage) :
    ∃ own, OwnError dir stage worker result own ∧
      checkWorker dir worker stage result = reportError dir worker own := by
  cases result with
  | error e => exact ⟨e, rfl, rfl⟩
  | ok report =>
    cases hf : report.firstFailure? with
    | none => exact absurd ⟨report, rfl, firstFailure?_eq_none hf⟩ h
    | some failure =>
      obtain ⟨i, code⟩ := failure
      obtain ⟨k, hk, hfirst⟩ := firstNonzero_eq_some hf
      rw [Nat.zero_add] at hk
      subst hk
      refine ⟨_, ⟨i, code, hfirst, rfl⟩, ?_⟩
      have hcheck : checkWorker dir worker stage (.ok report) =
          (writeLog dir worker report.output >>= fun log =>
            fail (.commandFailed worker stage i code log report.output)) := by
        simp only [checkWorker, hf]
      rw [hcheck, writeLog_bind]
      rfl

/-! ## all workers -/

theorem checkWorkers_of_passes {results : List (Except BuildError SessionReport)}
    (h : ∀ result ∈ results, Passes result) (dir : String) (stage : Stage) (worker : Nat) :
    checkWorkers dir stage worker results = pure () := by
  induction results generalizing worker with
  | nil => rfl
  | cons result results ih =>
    rw [checkWorkers, checkWorker_of_passes (h result List.mem_cons_self), pure_bind]
    exact ih (fun r hr => h r (List.mem_cons_of_mem _ hr)) (worker + 1)

/-- results that pass have no say -/
theorem checkWorkers_first {before : List (Except BuildError SessionReport)}
    (h : ∀ result ∈ before, Passes result) (result : Except BuildError SessionReport)
    (behind : List (Except BuildError SessionReport)) (dir : String) (stage : Stage)
    (worker : Nat) :
    checkWorkers dir stage worker (before ++ result :: behind) =
      checkWorker dir (worker + before.length) stage result >>= fun _ =>
        checkWorkers dir stage (worker + before.length + 1) behind := by
  induction before generalizing worker with
  | nil => rfl
  | cons r before ih =>
    rw [List.cons_append, checkWorkers, checkWorker_of_passes (h r List.mem_cons_self), pure_bind,
      ih (fun r hr => h r (List.mem_cons_of_mem _ hr)), List.length_cons, Nat.add_assoc worker 1,
      Nat.add_comm 1]

/-! ## what is left in the files -/

variable {σ : Type} {env : Interaction.Environment Host.Answer σ} {files : σ → Files}

/-- An environment in which writing a file puts the text there or fails, and touches no other
file; `files` says what the files of a state hold. -/
structure WritesFiles (env : Interaction.Environment Host.Answer σ) (files : σ → Files) : Prop where
  written : ∀ path text s, (env (.writeFile path text) s).1 = .ok () →
    files (env (.writeFile path text) s).2 path = some (Text.encode text)
  spared : ∀ path text s other, other ≠ path →
    files (env (.writeFile path text) s).2 other = files s other

/-- How the verdict on the error `own` of a worker ends: with `result`, in the state `s'`. -/
structure Blames (env : Interaction.Environment Host.Answer σ) (files : σ → Files) (dir : String)
    (worker : Nat) (own : BuildError) (s : σ) (result : Except Failure Unit) (s' : σ) : Prop where
  /-- the output that the error carries is in the log -/
  logged : ∀ output, own.output? = some output →
    (env (.writeFile (logFile dir worker) (logText output)) s).1 = .ok () →
      result = .error (.error own) ∧
        files s' (logFile dir worker) = some (Text.encode (output ++ "\n"))
  /-- unless the log cannot be written -/
  unwritable : ∀ output cause, own.output? = some output →
    (env (.writeFile (logFile dir worker) (logText output)) s).1 = .error cause →
      result = .error (.error (.io cause))
  /-- an error without output leaves nothing -/
  silent : own.output? = none → result = .error (.error own) ∧ files s' = files s
  /-- and in no case another file is touched -/
  spared : ∀ path, path ≠ logFile dir worker → files s' path = files s path

/-- whether a log can be written decides what is reported -/
theorem outcome_reportError_some (env : Interaction.Environment Host.Answer σ) (dir : String)
    (worker : Nat) {own : BuildError} {output : String} (h : own.output? = some output) (s : σ) :
    outcome env (reportError dir worker own) s =
      (match (env (.writeFile (logFile dir worker) (logText output)) s).1 with
        | .ok _ => .error (.error own)
        | .error cause => .error (.error (.io cause)),
      (env (.writeFile (logFile dir worker) (logText output)) s).2) := by
  have hreport : reportError dir worker own =
      (request (.writeFile (logFile dir worker) (logText output)) >>= fun answer =>
        orIo answer >>= fun _ => fail own) := by
    rw [reportError, h]
    simp only [writeLog, bind_assoc, pure_bind]
  rw [hreport, outcome_request_bind]
  cases (env (.writeFile (logFile dir worker) (logText output)) s).1 with
  | ok a => rfl
  | error cause => rfl

theorem blames_reportError (hw : WritesFiles env files) (dir : String) (worker : Nat)
    (own : BuildError) (s : σ) :
    ∃ e s', outcome env (reportError dir worker own) s = (.error e, s') ∧
      Blames env files dir worker own s (.error e) s' := by
  cases h : own.output? with
  | none =>
    have hreport : outcome env (reportError dir worker own) s = (.error (.error own), s) := by
      rw [reportError, h]
      rfl
    exact ⟨.error own, s, hreport, fun _ ho => (nomatch h.symm.trans ho),
      fun _ _ ho => (nomatch h.symm.trans ho), fun _ => ⟨rfl, rfl⟩, fun _ _ => rfl⟩
  | some output =>
    have hout := outcome_reportError_some env dir worker h s
    have hspared := hw.spared (logFile dir worker) (logText output) s
    have hsame : ∀ other, own.output? = some other → other = output := fun other ho =>
      Option.some.inj (ho.symm.trans h)
    cases hwrite : (env (.writeFile (logFile dir worker) (logText output)) s).1 with
    | ok a =>
      rw [hwrite] at hout
      refine ⟨_, _, hout, fun other ho _ => ?_, fun other cause ho he => ?_,
        fun ho => (nomatch h.symm.trans ho), hspared⟩
      · rw [hsame other ho]
        exact ⟨rfl, hw.written _ _ s hwrite⟩
      · rw [hsame other ho, hwrite] at he
        exact nomatch he
    | error cause =>
      rw [hwrite] at hout
      refine ⟨_, _, hout, fun other ho he => ?_, fun other cause' ho he => ?_,
        fun ho => (nomatch h.symm.trans ho), hspared⟩
      · rw [hsame other ho, hwrite] at he
        exact nomatch he
      · rw [hsame other ho, hwrite] at he
        rw [Except.error.inj he]

/-- results that do not all pass have a first one that does not -/
theorem exists_first_failure {results : List (Except BuildError SessionReport)}
    (h : ¬ ∀ result ∈ results, Passes result) :
    ∃ before result behind, results = before ++ result :: behind ∧
      (∀ r ∈ before, Passes r) ∧ ¬ Passes result := by
  induction results with
  | nil => exact absurd (fun _ hr => absurd hr List.not_mem_nil) h
  | cons r results ih =>
    by_cases hr : Passes r
    · have hrest : ¬ ∀ result ∈ results, Passes result := fun hall =>
        h (List.forall_mem_cons.mpr ⟨hr, hall⟩)
      obtain ⟨before, result, behind, rfl, hbefore, hresult⟩ := ih hrest
      exact ⟨r :: before, result, behind, rfl, List.forall_mem_cons.mpr ⟨hr, hbefore⟩, hresult⟩
    · exact ⟨[], r, results, rfl, fun _ hq => absurd hq List.not_mem_nil, hr⟩

/-- the least place of a result that does not pass -/
theorem eq_length_of_least {before behind : List (Except BuildError SessionReport)}
    {result r : Except BuildError SessionReport} (hbefore : ∀ q ∈ before, Passes q)
    (hresult : ¬ Passes result) {w : Nat} (hr : (before ++ result :: behind)[w]? = some r)
    (hfails : ¬ Passes r)
    (hleast : ∀ v < w, ∀ q, (before ++ result :: behind)[v]? = some q → Passes q) :
    w = before.length ∧ r = result := by
  have hat : (before ++ result :: behind)[before.length]? = some result := by
    rw [List.getElem?_append_right (Nat.le_refl _), Nat.sub_self, List.getElem?_cons_zero]
  rcases Nat.lt_trichotomy w before.length with hlt | rfl | hgt
  · rw [List.getElem?_append_left hlt] at hr
    exact absurd (hbefore r (List.mem_of_getElem? hr)) hfails
  · exact ⟨rfl, Option.some.inj (hr.symm.trans hat)⟩
  · exact absurd (hleast before.length hgt result hat) hresult

/-- the files of a workshop in which nothing else happens -/
theorem writesFiles_environment {φ : Type} {c : Conduct φ} (hmoves : ∀ tick, c.moves tick = [])
    (hcwd : c.cwd = "") : WritesFiles (Workshop.environment c) Workshop.files := by
  have hplace : ∀ path, place c.cwd path = path := fun path => hcwd ▸ Path.empty_join path
  refine ⟨fun path text w _ => ?_, fun path text w other hne => ?_⟩
  · show Function.update (w.advance c).files (place c.cwd path) (some (Text.encode text)) path = _
    rw [hplace, Function.update_self]
  · show Function.update (w.advance c).files (place c.cwd path) (some (Text.encode text)) other = _
    rw [hplace, Function.update_of_ne hne, advance_of_no_moves hmoves]

/-- shells that do nothing -/
def idleConduct : Conduct Unit where
  read := ShellStep.ofBlock
  prepare _ _ := some 0
  run _ _ work := (some 0, work)
  moves _ := []
  clock tick := tick
  output _ := []
  cwd := ""

end ShellWorkers
