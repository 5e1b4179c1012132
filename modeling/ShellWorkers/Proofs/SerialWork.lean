import ShellWorkers.Proofs.SessionRuns

/-!
# The work of shells whose commands commute

However the shells take turns, the work is what the commands that are done make of it, one shell
after the other, when all commands commute.  A step of any shell adds a command somewhere in the
middle of that list, and since the commands commute it may as well stand at the end.

* `runAll_perm`         commands that commute can be run in any order;
* `Steady`              commands are functions on the work, and nothing stops a shell;
* `Serial`              the invariant; `serial_perform`: a step of any shell preserves it;
* `Live`                the shells up to one are through, and those from it on run;
* `live_runOut`         the shell that is waited for is through then.
-/

namespace ShellWorkers

open ShellWorkers.Action

variable {φ : Type} {c : Conduct φ}

/-! ## commands one after another -/

/-- what texts make of the work, in order -/
def runAll (effect : String → φ → φ) (texts : List String) (work : φ) : φ :=
  texts.foldl (fun work text => effect text work) work

def PairwiseCommute (effect : String → φ → φ) (texts : List String) : Prop :=
  ∀ a ∈ texts, ∀ b ∈ texts, ∀ work, effect a (effect b work) = effect b (effect a work)

theorem runAll_append (effect : String → φ → φ) (as bs : List String) (work : φ) :
    runAll effect (as ++ bs) work = runAll effect bs (runAll effect as work) :=
  List.foldl_append

/-- commands that commute can be run in any order -/
theorem runAll_perm {effect : String → φ → φ} {as bs : List String} (h : as.Perm bs)
    (hc : PairwiseCommute effect as) (work : φ) : runAll effect as work = runAll effect bs work :=
  h.foldl_eq' (fun a ha b hb work => hc b hb a ha work) work

theorem PairwiseCommute.mono {effect : String → φ → φ} {as bs : List String}
    (h : PairwiseCommute effect bs) (hsub : as ⊆ bs) : PairwiseCommute effect as :=
  fun a ha b hb work => h a (hsub ha) b (hsub hb) work

/-- the text of a command -/
def ShellStep.commandText? : ShellStep → Option String
  | .command text _ => some text
  | _ => none

/-- the texts of the commands among steps -/
def commandTexts (steps : List ShellStep) : List String := steps.filterMap ShellStep.commandText?

theorem commandTexts_append (as bs : List ShellStep) :
    commandTexts (as ++ bs) = commandTexts as ++ commandTexts bs := List.filterMap_append

theorem commandTexts_commandSteps (path : String) (commands : List String) :
    commandTexts (commandSteps path commands) = commands.map Text.trimEnd := by
  induction commands with
  | nil => rfl
  | cons command commands ih =>
    rw [commandSteps_cons, commandTexts_append, ih]
    rfl

/-! ## shells as lists -/

section

variable {α β : Type}

/-- an item whose list grows at its end, among others -/
theorem flatMap_set {l : List α} {i : Nat} {a : α} (h : l[i]? = some a) (b : α) {g : α → List β}
    {more : List β} (hg : g b = g a ++ more) :
    ((l.set i b).flatMap g).Perm (l.flatMap g ++ more) := by
  induction l generalizing i with
  | nil => exact nomatch h
  | cons x l ih =>
    cases i with
    | zero =>
      obtain rfl := Option.some.inj h
      rw [List.set_cons_zero, List.flatMap_cons, List.flatMap_cons, hg, List.append_assoc,
        List.append_assoc]
      exact List.perm_append_comm.append_left _
    | succ i =>
      rw [List.set_cons_succ, List.flatMap_cons, List.flatMap_cons, List.append_assoc]
      exact (ih h).append_left _

/-- a change of one item, seen through a function -/
theorem map_modify (l : List α) (i : Nat) {f : α → α} {g : α → β} (f' : β → β)
    (h : ∀ a, g (f a) = f' (g a)) : (l.modify i f).map g = (l.map g).modify i f' := by
  apply List.ext_getElem?
  intro j
  rw [List.getElem?_map, List.getElem?_modify, List.getElem?_modify, List.getElem?_map]
  cases l[j]? with
  | none => rfl
  | some a =>
    by_cases hij : i = j
    · simp [hij, h]
    · simp [hij]

/-- what a change of one item leaves alone -/
theorem map_modify_of_eq (l : List α) (i : Nat) {f : α → α} {g : α → β} (h : ∀ a, g (f a) = g a) :
    (l.modify i f).map g = l.map g := by
  rw [map_modify l i id h, List.modify_id]

theorem modify_append_singleton (l : List α) (a : α) (f : α → α) :
    (l ++ [a]).modify l.length f = l ++ [f a] := by
  induction l with
  | nil => rfl
  | cons x l ih => rw [List.cons_append, List.length_cons, List.modify_succ_cons, ih, List.cons_append]

theorem map_set_of_eq {l : List α} {i : Nat} {a b : α} (h : l[i]? = some a) {g : α → β}
    (hg : g b = g a) : (l.set i b).map g = l.map g := by
  apply List.ext_getElem?
  intro j
  rw [List.getElem?_map, List.getElem?_map, List.getElem?_set]
  by_cases hij : i = j
  · obtain ⟨hi, rfl⟩ := List.getElem?_eq_some_iff.mp h
    subst hij
    simp [hi, hg]
  · simp [hij]

end

namespace Workshop

/-- the commands that are done, one shell after the other -/
def done (w : Workshop φ) : List String :=
  w.shells.flatMap fun sh => commandTexts (sh.history.map Prod.fst)

/-- what the shells were given to do -/
def programs (w : Workshop φ) : List (List ShellStep) := w.shells.map WorkerShell.program

theorem done_subset (w : Workshop φ) : w.done ⊆ w.programs.flatMap commandTexts := by
  intro text htext
  obtain ⟨sh, hsh, hmem⟩ := List.mem_flatMap.mp htext
  refine List.mem_flatMap.mpr ⟨sh.program, List.mem_map_of_mem hsh, ?_⟩
  rw [WorkerShell.program, commandTexts_append]
  exact List.mem_append_left _ hmem

theorem done_mapShell (w : Workshop φ) (i : Nat) {f : WorkerShell → WorkerShell}
    (h : ∀ sh, (f sh).history = sh.history) : (w.mapShell i f).done = w.done := by
  have hsame : (w.shells.modify i f).map (fun sh => commandTexts (sh.history.map Prod.fst)) =
      w.shells.map fun sh => commandTexts (sh.history.map Prod.fst) :=
    map_modify_of_eq _ i fun sh => by rw [h]
  rw [done, done, List.flatMap_def, List.flatMap_def]
  exact congrArg List.flatten hsame

end Workshop

/-! ## the invariant -/

/-- commands are functions on the work, nothing stops a shell, and nothing but steps of shells
happens between requests -/
structure Steady (c : Conduct φ) (effect : String → φ → φ) : Prop where
  run : ∀ i text work, ∃ code, c.run i text work = (some code, effect text work)
  prepare : ∀ i text, ∃ code, c.prepare i text = some code
  moves : ∀ tick, ∀ m ∈ c.moves tick, ∃ i, m = .perform i

/-- The shells were given `programs`, and if all these commands commute, the work is what the
commands that are done make of it, one shell after the other. -/
structure Serial (effect : String → φ → φ) (work : φ) (programs : List (List ShellStep))
    (w : Workshop φ) : Prop where
  given : w.programs = programs
  work_eq : PairwiseCommute effect (programs.flatMap commandTexts) → w.work = runAll effect w.done work

variable {effect : String → φ → φ} {work : φ} {programs : List (List ShellStep)}

/-- a step of a steady workshop -/
theorem steady_effect (h : Steady c effect) (i : Nat) (sh : WorkerShell) (v : φ) (files : Files)
    (step : ShellStep) :
    (∃ code, (c.effect i sh v files step).code = some code) ∧
      (c.effect i sh v files step).work = runAll effect step.commandText?.toList v := by
  cases step with
  | other text =>
    obtain ⟨code, hcode⟩ := h.prepare i text
    exact ⟨⟨code, hcode⟩, rfl⟩
  | create path => exact ⟨⟨0, rfl⟩, rfl⟩
  | record path => exact ⟨⟨0, rfl⟩, rfl⟩
  | command text path =>
    obtain ⟨code, hrun⟩ := h.run i text v
    refine ⟨⟨code, ?_⟩, ?_⟩
    · show (c.run i text v).1 = some code
      rw [hrun]
    · show (c.run i text v).2 = effect text v
      rw [hrun]

/-- Nothing happens, or a shell does its next step, which makes its part of the work. -/
theorem steady_perform (h : Steady c effect) (i : Nat) (w : Workshop φ) :
    w.perform c i = w ∨ ∃ sh step rest code, w.shells[i]? = some sh ∧ sh.running = true ∧
      sh.todo = step :: rest ∧ (w.perform c i).shells = w.shells.set i (sh.did step code rest) ∧
      (w.perform c i).work = runAll effect step.commandText?.toList w.work := by
  rcases perform_cases (c := c) i w with hsame | ⟨sh, step, rest, hi, hr, ht, hafter⟩
  · exact Or.inl hsame
  · obtain ⟨⟨code, hcode⟩, hwork⟩ := steady_effect h i sh w.work w.files step
    rw [hafter]
    exact Or.inr ⟨sh, step, rest, code, hi, hr, ht, shells_after_of_some hcode w i sh step rest,
      hwork⟩

/-- **A step of any shell preserves the invariant**: its command is one of those in the middle of
the list, and moves to the end. -/
theorem serial_perform (h : Steady c effect) {w : Workshop φ}
    (hw : Serial effect work programs w) (i : Nat) :
    Serial effect work programs (w.perform c i) := by
  rcases steady_perform h i w with hsame | ⟨sh, step, rest, code, hi, _, ht, hshells, hwork⟩
  · rw [hsame]
    exact hw
  · have hgiven : (w.perform c i).programs = programs := by
      rw [Workshop.programs, hshells, map_set_of_eq hi (WorkerShell.program_did ht code)]
      exact hw.given
    have hstep : commandTexts ((sh.did step code rest).history.map Prod.fst) =
        commandTexts (sh.history.map Prod.fst) ++ step.commandText?.toList := by
      show commandTexts ((sh.history ++ [(step, code)]).map Prod.fst) = _
      rw [List.map_append, commandTexts_append]
      cases step <;> rfl
    have hdone : (w.perform c i).done.Perm (w.done ++ step.commandText?.toList) := by
      rw [Workshop.done, hshells]
      exact flatMap_set hi _ hstep
    have hsub : (w.perform c i).done ⊆ programs.flatMap commandTexts := by
      rw [← hgiven]
      exact (w.perform c i).done_subset
    refine ⟨hgiven, fun hc => ?_⟩
    rw [hwork, hw.work_eq hc, ← runAll_append]
    exact (runAll_perm hdone (hc.mono hsub) work).symm

/-- nothing that only concerns a shell's input or life touches the invariant -/
theorem serial_mapShell {w : Workshop φ} (hw : Serial effect work programs w) (i : Nat)
    {f : WorkerShell → WorkerShell} (hhistory : ∀ sh, (f sh).history = sh.history)
    (hprogram : ∀ sh, (f sh).program = sh.program) :
    Serial effect work programs (w.mapShell i f) := by
  refine ⟨?_, fun hc => ?_⟩
  · show (w.shells.modify i f).map WorkerShell.program = programs
    rw [map_modify_of_eq _ i hprogram]
    exact hw.given
  · rw [w.done_mapShell i hhistory]
    exact hw.work_eq hc

theorem serial_event (h : Steady c effect) {v w : Workshop φ} (e : Event c v w)
    (hv : Serial effect work programs v) : Serial effect work programs w := by
  cases e with
  | perform i => exact serial_perform h hv i
  | stop i => exact serial_mapShell hv i (fun _ => rfl) WorkerShell.program_stop
  | close i => exact serial_mapShell hv i (fun _ => rfl) WorkerShell.program_close
  | tick => exact ⟨hv.given, hv.work_eq⟩

/-- the requests that write files -/
def IsWrite (r : Host.Request) : Prop := ∃ path text, r = .writeFile path text

/-- no request preserves it less that brings in at most a file -/
theorem serial_environment (h : Steady c effect) {r : Host.Request} (hr : IsQuiet r ∨ IsWrite r)
    {w : Workshop φ} (hw : Serial effect work programs w) :
    Serial effect work programs (Workshop.environment c r w).2 := by
  have hlater : ∀ v, Later c w v → Serial effect work programs v := fun v hv =>
    hv.preserves (fun _ _ e hs => serial_event h e hs) hw
  rcases hr with hr | ⟨path, text, rfl⟩
  · exact hlater _ (environment_later hr w)
  · have hadvance := hlater _ (later_advance w)
    exact ⟨hadvance.given, hadvance.work_eq⟩

/-! ## shells that nobody stops -/

/-- The shells from `k` on run, and those before have done all they had to do. -/
structure Live (k : Nat) (w : Workshop φ) : Prop where
  running : ∀ i sh, k ≤ i → w.shells[i]? = some sh → sh.running = true
  through : ∀ i sh, i < k → w.shells[i]? = some sh → sh.todo = []

theorem live_perform (h : Steady c effect) {k : Nat} {w : Workshop φ} (hw : Live k w) (i : Nat) :
    Live k (w.perform c i) := by
  rcases steady_perform h i w with hsame | ⟨sh, step, rest, code, hi, hr, ht, hshells, _⟩
  · rw [hsame]
    exact hw
  · have hlt : i < w.shells.length := (List.getElem?_eq_some_iff.mp hi).1
    refine ⟨fun j sh' hk hj => ?_, fun j sh' hk hj => ?_⟩
    · rw [hshells, List.getElem?_set] at hj
      by_cases hij : i = j
      · rw [if_pos hij, if_pos hlt] at hj
        obtain rfl := Option.some.inj hj
        exact hr
      · rw [if_neg hij] at hj
        exact hw.running j sh' hk hj
    · rw [hshells, List.getElem?_set] at hj
      by_cases hij : i = j
      · -- a shell that is through has no next step
        subst hij
        exact nomatch ht.symm.trans (hw.through i sh hk hi)
      · rw [if_neg hij] at hj
        exact hw.through j sh' hk hj

theorem live_advance (h : Steady c effect) {k : Nat} {w : Workshop φ} (hw : Live k w) :
    Live k (w.advance c) := by
  have hfold : ∀ (ms : List Move) (v : Workshop φ), (∀ m ∈ ms, ∃ i, m = .perform i) → Live k v →
      Live k (ms.foldl (Workshop.move c) v) := by
    intro ms
    induction ms with
    | nil => exact fun v _ hv => hv
    | cons m ms ih =>
      intro v hms hv
      obtain ⟨i, rfl⟩ := hms m List.mem_cons_self
      exact ih _ (fun m hm => hms m (List.mem_cons_of_mem _ hm)) (live_perform h hv i)
  have hlive := hfold (c.moves w.tick) w (h.moves w.tick) hw
  exact ⟨hlive.running, hlive.through⟩

theorem live_mapShell {k : Nat} {w : Workshop φ} (hw : Live k w) (i : Nat)
    {f : WorkerShell → WorkerShell} (hrunning : ∀ sh, (f sh).running = sh.running)
    (htodo : i < k → ∀ sh, (f sh).todo = sh.todo) : Live k (w.mapShell i f) := by
  refine ⟨fun j sh' hk hj => ?_, fun j sh' hk hj => ?_⟩
  · obtain ⟨sh, hsh, rfl⟩ := exists_of_mapShell hj
    split
    · rw [hrunning]
      exact hw.running j sh hk hsh
    · exact hw.running j sh hk hsh
  · obtain ⟨sh, hsh, rfl⟩ := exists_of_mapShell hj
    split
    · next hij =>
      rw [htodo (hij ▸ hk)]
      exact hw.through j sh hk hsh
    · exact hw.through j sh hk hsh

theorem perform_running (h : Steady c effect) {i : Nat} {w : Workshop φ} {sh : WorkerShell}
    (hi : w.shells[i]? = some sh) (hr : sh.running = true) :
    ∃ sh', (w.perform c i).shells[i]? = some sh' ∧ sh'.running = true ∧
      sh'.todo = sh.todo.tail := by
  cases ht : sh.todo with
  | nil =>
    have hsame : w.perform c i = w := by simp only [Workshop.perform, hi, hr, ht]
    exact ⟨sh, by rw [hsame, hi], hr, ht⟩
  | cons step rest =>
    obtain ⟨⟨code, hcode⟩, _⟩ := steady_effect h i sh w.work w.files step
    have hshells : (w.perform c i).shells = w.shells.set i (sh.did step code rest) := by
      simp only [Workshop.perform, hi, hr, ht, shells_after_of_some hcode]
    refine ⟨sh.did step code rest, ?_, hr, rfl⟩
    rw [hshells, List.getElem?_set_self (List.getElem?_eq_some_iff.mp hi).1]

/-- a shell that runs does as many steps as it has -/
theorem performAll_running (h : Steady c effect) {i : Nat} (n : Nat) {w : Workshop φ}
    {sh : WorkerShell} (hi : w.shells[i]? = some sh) (hr : sh.running = true) :
    ∃ sh', (Workshop.performAll c i n w).shells[i]? = some sh' ∧ sh'.todo = sh.todo.drop n := by
  induction n generalizing w sh with
  | zero => exact ⟨sh, hi, rfl⟩
  | succ n ih =>
    obtain ⟨next, hnext, hrun, htodo⟩ := perform_running h hi hr
    obtain ⟨sh', hsh', hdrop⟩ := ih hnext hrun
    refine ⟨sh', hsh', ?_⟩
    rw [hdrop, htodo, List.drop_tail]

theorem live_performAll (h : Steady c effect) (i n : Nat) {k : Nat} {w : Workshop φ}
    (hw : Live k w) : Live k (Workshop.performAll c i n w) := by
  induction n generalizing w with
  | zero => exact hw
  | succ n ih => exact ih (live_perform h hw i)

/-- the shell that is waited for does all it has to do -/
theorem live_runOut (h : Steady c effect) {k : Nat} {w : Workshop φ} (hw : Live k w) :
    Live (k + 1) (w.runOut c k) := by
  cases hk : w.shells[k]? with
  | none =>
    have hsame : w.runOut c k = w := by rw [Workshop.runOut, hk]
    rw [hsame]
    refine ⟨fun i sh hi => hw.running i sh (Nat.le_of_succ_le hi), fun i sh hi hsh => ?_⟩
    rcases Nat.lt_succ_iff_lt_or_eq.mp hi with hi | rfl
    · exact hw.through i sh hi hsh
    · exact nomatch hk.symm.trans hsh
  | some sh =>
    have hall := live_performAll h k sh.todo.length hw
    obtain ⟨last, hlast, htodo⟩ :=
      performAll_running h sh.todo.length hk (hw.running k sh (Nat.le_refl k) hk)
    rw [List.drop_length] at htodo
    have hrun : (w.runOut c k).shells =
        (Workshop.performAll c k sh.todo.length w).shells.modify k .stop := by
      rw [Workshop.runOut, hk]
      rfl
    refine ⟨fun i sh' hi hsh => ?_, fun i sh' hi hsh => ?_⟩
    · rw [hrun, List.getElem?_modify_ne _ _ (Nat.ne_of_lt hi)] at hsh
      exact hall.running i sh' (Nat.le_of_succ_le hi) hsh
    · rw [hrun] at hsh
      rcases Nat.lt_succ_iff_lt_or_eq.mp hi with hi | rfl
      · rw [List.getElem?_modify_ne _ _ (Nat.ne_of_gt hi)] at hsh
        exact hall.through i sh' hi hsh
      · rw [List.getElem?_modify_eq, hlast] at hsh
        obtain rfl := Option.some.inj hsh
        exact htodo

end ShellWorkers
