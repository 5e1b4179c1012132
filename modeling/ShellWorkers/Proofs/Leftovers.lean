import ShellWorkers.Proofs.Cleanup
import ShellWorkers.Proofs.Settling

/-!
# Leftovers of earlier builds

Two builds of one recipe run in directories that differ only in the status files and logs which
earlier builds have left there.  The two runs are coupled: what is done and asked is the same in
both, and so are the files that are settled, while the others are still as they were.

* `Site`                     a machine with a workshop on it;
* `Coupled`                  two workshops that differ in files that are not settled;
* `Coupled.respond`          one request more in both;
* `coupled_runState`         a program that settles its files does the same in both;
* `build_ignores_leftovers`  so does a build.
-/

namespace ShellWorkers

open ShellWorkers.Action

variable {φ : Type}

/-! ## machines -/

/-- A machine on which builds run: the workshop, and what the machine has a say in by itself, such
as refusals, the number of cores or what a process has written.  The machine does not look into the
status files and logs for this; only what is loaded may be one of them. -/
structure Site (φ : Type) where
  conduct : Conduct φ
  /-- the answer that the machine gives by itself, if it gives one -/
  own : (r : Host.Request) → φ → List WorkerShell → Nat → Option (Host.Answer r)
  /-- whether a library is loaded whose file holds this -/
  loads : String → φ → Option (List UInt8) → Bool
  absolute : Path.isAbsolute conduct.cwd = true
  expected : ∀ r work shells tick answer, own r work shells tick = some answer →
    Expected conduct r answer
  /-- what the machine does not do it does not report as done -/
  honest : ∀ r work shells tick answer, own r work shells tick = some answer →
    settledBy conduct r answer = ∅

namespace Site

/-- the answer of the workshop; a library is loaded as it lies there -/
def respond (m : Site φ) (w : Workshop φ) : (r : Host.Request) → Host.Answer r × Workshop φ
  | .load path => (m.loads path w.work (w.files (place m.conduct.cwd path)), w)
  | r => w.answer m.conduct r

def answer (m : Site φ) (w : Workshop φ) (r : Host.Request) : Host.Answer r × Workshop φ :=
  match m.own r w.work w.shells w.tick with
  | some answer => (answer, w)
  | none => m.respond w r

/-- the answers of the machine, whose shells go on before each of them -/
def environment (m : Site φ) : Interaction.Environment Host.Answer (Workshop φ) :=
  fun r w => m.answer (w.advance m.conduct) r

end Site

/-! ## two workshops -/

/-- Files that are the same where they are settled, and as they were at first elsewhere. -/
structure Agree (settled : Set String) (f₁ f₂ g₁ g₂ : Files) : Prop where
  same : ∀ file ∈ settled, g₁ file = g₂ file
  first : ∀ file ∉ settled, g₁ file = f₁ file
  second : ∀ file ∉ settled, g₂ file = f₂ file

/-- a shell at `home` that has to do with settled files only -/
structure Tame (home : String) (settled : Set String) (sh : WorkerShell) : Prop where
  dir : sh.dir = home
  todo : ∀ step ∈ sh.todo, ∀ path, step.path? = some path → place home path ∈ settled

/-- Two workshops that differ in files which are not settled, and in these they are as they were at
first. -/
structure Coupled (home : String) (settled : Set String) (f₁ f₂ : Files) (w₁ w₂ : Workshop φ) :
    Prop where
  work : w₁.work = w₂.work
  shells : w₁.shells = w₂.shells
  tick : w₁.tick = w₂.tick
  files : Agree settled f₁ f₂ w₁.files w₂.files
  tame : ∀ sh ∈ w₁.shells, Tame home settled sh

variable {c : Conduct φ} {home : String} {settled more : Set String} {f₁ f₂ g₁ g₂ : Files}
  {w₁ w₂ : Workshop φ}

/-- a file is settled once it holds the same in both -/
theorem Agree.update (h : Agree settled f₁ f₂ g₁ g₂) {file : String}
    (hmore : ∀ other, other ∈ more ↔ other ∈ settled ∨ other = file)
    (octets : Option (List UInt8)) :
    Agree more f₁ f₂ (Function.update g₁ file octets) (Function.update g₂ file octets) := by
  refine ⟨fun other hother => ?_, fun other hother => ?_, fun other hother => ?_⟩
  · by_cases heq : other = file
    · rw [heq, Function.update_self, Function.update_self]
    · rw [Function.update_of_ne heq, Function.update_of_ne heq]
      exact h.same other (((hmore other).mp hother).resolve_right heq)
  · rw [hmore, not_or] at hother
    rw [Function.update_of_ne hother.2]
    exact h.first other hother.1
  · rw [hmore, not_or] at hother
    rw [Function.update_of_ne hother.2]
    exact h.second other hother.1

theorem Agree.update_of_mem (h : Agree settled f₁ f₂ g₁ g₂) {file : String} (hfile : file ∈ settled)
    (octets : Option (List UInt8)) :
    Agree settled f₁ f₂ (Function.update g₁ file octets) (Function.update g₂ file octets) :=
  h.update (fun _ => ⟨Or.inl, fun hor => hor.elim id fun heq => heq ▸ hfile⟩) octets

theorem Tame.mono {sh : WorkerShell} (h : Tame home settled sh) (hsub : settled ⊆ more) :
    Tame home more sh :=
  ⟨h.dir, fun step hstep path hpath => hsub (h.todo step hstep path hpath)⟩

namespace Coupled

theorem tick_succ (h : Coupled home settled f₁ f₂ w₁ w₂) :
    Coupled home settled f₁ f₂ { w₁ with tick := w₁.tick + 1 }
      { w₂ with tick := w₂.tick + 1 } :=
  ⟨h.work, h.shells, congrArg (· + 1) h.tick, h.files, h.tame⟩

theorem mapShell (h : Coupled home settled f₁ f₂ w₁ w₂) (i : Nat) {f : WorkerShell → WorkerShell}
    (hf : ∀ sh, Tame home settled sh → Tame home settled (f sh)) :
    Coupled home settled f₁ f₂ (w₁.mapShell i f) (w₂.mapShell i f) := by
  refine ⟨h.work, congrArg (List.modify · i f) h.shells, h.tick, h.files, fun sh' hsh' => ?_⟩
  obtain ⟨j, hj⟩ := List.mem_iff_getElem?.mp hsh'
  obtain ⟨sh, hsh, rfl⟩ := exists_of_mapShell hj
  split
  · exact hf sh (h.tame sh (List.mem_of_getElem? hsh))
  · exact h.tame sh (List.mem_of_getElem? hsh)

theorem stop (h : Coupled home settled f₁ f₂ w₁ w₂) (i : Nat) :
    Coupled home settled f₁ f₂ (w₁.mapShell i .stop) (w₂.mapShell i .stop) :=
  h.mapShell i fun _ hsh => ⟨hsh.dir, hsh.todo⟩

/-- a step that works on a settled file comes to the same in both -/
theorem effect (h : Coupled home settled f₁ f₂ w₁ w₂) {i : Nat} {sh : WorkerShell}
    {step : ShellStep} (hdir : sh.dir = home)
    (hstep : ∀ path, step.path? = some path → place home path ∈ settled) :
    (c.effect i sh w₁.work w₁.files step).code = (c.effect i sh w₂.work w₂.files step).code ∧
      (c.effect i sh w₁.work w₁.files step).work = (c.effect i sh w₂.work w₂.files step).work ∧
      Agree settled f₁ f₂ (c.effect i sh w₁.work w₁.files step).files
        (c.effect i sh w₂.work w₂.files step).files := by
  rw [← h.work]
  cases step with
  | other text => exact ⟨rfl, rfl, h.files⟩
  | command text path => exact ⟨rfl, rfl, h.files⟩
  | create path =>
    have hfile : place sh.dir path ∈ settled := hdir ▸ hstep path rfl
    exact ⟨rfl, rfl, h.files.update_of_mem hfile _⟩
  | record path =>
    have hfile : place sh.dir path ∈ settled := hdir ▸ hstep path rfl
    refine ⟨rfl, rfl, ?_⟩
    show Agree settled f₁ f₂ (Function.update _ _ (some ((w₁.files _).getD [] ++ _)))
      (Function.update _ _ (some ((w₂.files _).getD [] ++ _)))
    rw [h.files.same _ hfile]
    exact h.files.update_of_mem hfile _

theorem after (h : Coupled home settled f₁ f₂ w₁ w₂) {e₁ e₂ : Effect φ} {i : Nat} {sh : WorkerShell}
    {step : ShellStep} {rest : List ShellStep} (hsh : Tame home settled sh)
    (htodo : sh.todo = step :: rest)
    (he : e₁.code = e₂.code ∧ e₁.work = e₂.work ∧ Agree settled f₁ f₂ e₁.files e₂.files) :
    Coupled home settled f₁ f₂ (w₁.after i sh step rest e₁) (w₂.after i sh step rest e₂) := by
  obtain ⟨hcode, hwork, hfiles⟩ := he
  have hdid : ∀ code, Tame home settled (sh.did step code rest) := fun code =>
    ⟨hsh.dir, fun s hs => hsh.todo s (htodo ▸ List.mem_cons_of_mem step hs)⟩
  refine ⟨hwork, ?_, h.tick, hfiles, fun sh' hsh' => ?_⟩
  · simp only [Workshop.after, h.shells, hcode]
  · simp only [Workshop.after] at hsh'
    rcases List.mem_or_eq_of_mem_set hsh' with hold | rfl
    · exact h.tame sh' hold
    · split
      · exact hdid _
      · exact ⟨hsh.dir, hsh.todo⟩

theorem perform (h : Coupled home settled f₁ f₂ w₁ w₂) (i : Nat) :
    Coupled home settled f₁ f₂ (w₁.perform c i) (w₂.perform c i) := by
  rw [Workshop.perform, Workshop.perform, ← h.shells]
  cases hi : w₁.shells[i]? with
  | none => exact h
  | some sh =>
    have hsh := h.tame sh (List.mem_of_getElem? hi)
    cases hrunning : sh.running with
    | false => simpa only [hrunning] using h
    | true =>
      cases htodo : sh.todo with
      | nil => simpa only [hrunning, htodo] using h
      | cons step rest =>
        simp only [hrunning, htodo]
        exact h.after hsh htodo (h.effect hsh.dir (hsh.todo step (htodo ▸ List.mem_cons_self)))

theorem advance (h : Coupled home settled f₁ f₂ w₁ w₂) :
    Coupled home settled f₁ f₂ (w₁.advance c) (w₂.advance c) := by
  have hmoves : ∀ (moves : List Move) (v₁ v₂ : Workshop φ), Coupled home settled f₁ f₂ v₁ v₂ →
      Coupled home settled f₁ f₂ (moves.foldl (Workshop.move c) v₁)
        (moves.foldl (Workshop.move c) v₂) := by
    intro moves
    induction moves with
    | nil => exact fun _ _ hv => hv
    | cons move moves ih =>
      intro v₁ v₂ hv
      cases move with
      | perform i => exact ih _ _ (hv.perform i)
      | stop i => exact ih _ _ (hv.stop i)
  rw [Workshop.advance, Workshop.advance, ← h.tick]
  exact (hmoves (c.moves w₁.tick) w₁ w₂ h).tick_succ

theorem runOut (h : Coupled home settled f₁ f₂ w₁ w₂) (i : Nat) :
    Coupled home settled f₁ f₂ (w₁.runOut c i) (w₂.runOut c i) := by
  have hall : ∀ (n : Nat) (v₁ v₂ : Workshop φ), Coupled home settled f₁ f₂ v₁ v₂ →
      Coupled home settled f₁ f₂ (Workshop.performAll c i n v₁) (Workshop.performAll c i n v₂) := by
    intro n
    induction n with
    | zero => exact fun _ _ hv => hv
    | succ n ih => exact fun v₁ v₂ hv => ih _ _ (hv.perform i)
  rw [Workshop.runOut, Workshop.runOut, ← h.shells]
  cases w₁.shells[i]? with
  | none => exact h
  | some sh => exact (hall sh.todo.length w₁ w₂ h).stop i

end Coupled

/-! ## one request more -/

/-- what a request comes to in both: answers that are alike, and workshops that are coupled -/
structure StepAlike (c : Conduct φ) (home : String) (settled : Set String) (f₁ f₂ : Files)
    (r : Host.Request) (x₁ x₂ : Host.Answer r × Workshop φ) : Prop where
  alike : Alike r x₁.1 x₂.1
  coupled : Coupled home (settled ∪ settledBy c r x₁.1) f₁ f₂ x₁.2 x₂.2

/-- a request that settles nothing -/
theorem StepAlike.of_eq {r : Host.Request} {x₁ x₂ : Host.Answer r × Workshop φ}
    (hsettled : settledBy c r x₁.1 = ∅) (heq : x₁.1 = x₂.1)
    (h : Coupled home settled f₁ f₂ x₁.2 x₂.2) : StepAlike c home settled f₁ f₂ r x₁ x₂ := by
  refine ⟨heq ▸ Alike.refl r x₁.1, ?_⟩
  rw [hsettled, Set.union_empty]
  exact h

/-- a request that settles a file leaves the same in it -/
theorem StepAlike.of_update {r : Host.Request} {a₁ a₂ : Host.Answer r} {file : String}
    (h : Coupled home settled f₁ f₂ w₁ w₂) (halike : Alike r a₁ a₂)
    (hsettled : ∀ other, other ∈ settledBy c r a₁ ↔ other = file) (octets : Option (List UInt8)) :
    StepAlike c home settled f₁ f₂ r
      (a₁, { w₁ with files := Function.update w₁.files file octets })
      (a₂, { w₂ with files := Function.update w₂.files file octets }) :=
  ⟨halike, h.work, h.shells, h.tick,
    h.files.update (fun other => (or_congr_right (hsettled other))) octets,
    fun sh hsh => (h.tame sh hsh).mono Set.subset_union_left⟩

/-- a request to coupled workshops -/
theorem Coupled.respond (m : Site φ) (h : Coupled home settled f₁ f₂ w₁ w₂) {r : Host.Request}
    (hr : Proper m.conduct home settled r) :
    StepAlike m.conduct home settled f₁ f₂ r (m.respond w₁ r) (m.respond w₂ r) := by
  cases r with
  | removeFile path =>
    have hremoval : ∀ w : Workshop φ, IsRemoval (m.respond w (.removeFile path)).1 := by
      intro w
      show IsRemoval (if (w.files (place m.conduct.cwd path)).isSome then _ else _)
      split
      · exact Or.inl rfl
      · exact Or.inr rfl
    exact StepAlike.of_update (r := .removeFile path) h (Or.inr ⟨hremoval w₁, hremoval w₂⟩)
      (fun _ => and_iff_left (hremoval w₁)) none
  | writeFile path text =>
    have halike : Alike (.writeFile path text) (.ok ()) (.ok ()) := rfl
    exact StepAlike.of_update h halike (fun _ => and_iff_left rfl) (some (Text.encode text))
  | readFile path =>
    refine .of_eq rfl ?_ h
    show (w₁.files _).elim _ _ = (w₂.files _).elim _ _
    rw [h.files.same _ hr]
  | «exists» path =>
    refine .of_eq rfl ?_ h
    show (w₁.files _).isSome = (w₂.files _).isSome
    rw [h.files.same _ hr]
  | load path =>
    refine .of_eq rfl ?_ h
    show m.loads path _ _ = m.loads path _ _
    rw [h.work, h.files.same _ hr]
  | spawn program args dir =>
    have hshells := congrArg (· ++ [WorkerShell.fresh (place m.conduct.cwd dir)]) h.shells
    refine .of_eq rfl ?_ ⟨h.work, hshells, h.tick, h.files, ?_⟩
    · show Except.ok (Host.Process.mk w₁.shells.length) = .ok (.mk w₂.shells.length)
      rw [h.shells]
    · refine List.forall_mem_append.mpr ⟨h.tame, List.forall_mem_singleton.mpr ⟨hr, ?_⟩⟩
      exact fun _ hstep => absurd hstep List.not_mem_nil
  | send process text =>
    refine .of_eq rfl rfl (h.mapShell _ fun sh hsh => ⟨hsh.dir, ?_⟩)
    exact List.forall_mem_append.mpr ⟨hsh.todo, hr⟩
  | closeInput process => exact .of_eq rfl rfl (h.mapShell _ fun _ hsh => ⟨hsh.dir, hsh.todo⟩)
  | wait process => exact .of_eq rfl rfl (h.runOut _)
  | poll process =>
    refine .of_eq rfl ?_ h
    show Except.ok (if w₁.hasEnded process.id then _ else _) =
      Except.ok (if w₂.hasEnded process.id then _ else _)
    rw [Workshop.hasEnded, Workshop.hasEnded, h.shells]
  | killGroup process => exact .of_eq rfl rfl (h.stop _)
  | kill process => exact .of_eq rfl rfl (h.stop _)
  | now => exact .of_eq rfl (congrArg m.conduct.clock h.tick) h
  | isDirectory _ => exact .of_eq rfl rfl h
  | currentDirectory => exact .of_eq rfl rfl h
  | attach _ => exact .of_eq rfl rfl h
  | output _ => exact .of_eq rfl rfl h
  | pause _ => exact .of_eq rfl rfl h
  | cores => exact .of_eq rfl rfl h

namespace Site

theorem expected_environment (m : Site φ) (r : Host.Request) (w : Workshop φ) :
    Expected m.conduct r (m.environment r w).1 := by
  show Expected m.conduct r (m.answer (w.advance m.conduct) r).1
  rw [answer]
  cases hown : m.own r _ _ _ with
  | some a => exact m.expected r _ _ _ a hown
  | none =>
    cases r with
    | currentDirectory => exact fun cwd hcwd => (Except.ok.inj hcwd).symm
    | _ => trivial

/-- one request more to coupled workshops -/
theorem step_environment (m : Site φ) (h : Coupled home settled f₁ f₂ w₁ w₂) {r : Host.Request}
    (hr : Proper m.conduct home settled r) :
    StepAlike m.conduct home settled f₁ f₂ r (m.environment r w₁) (m.environment r w₂) := by
  have hadvance := h.advance (c := m.conduct)
  show StepAlike m.conduct home settled f₁ f₂ r (m.answer _ r) (m.answer _ r)
  rw [answer, answer, ← hadvance.work, ← hadvance.shells, ← hadvance.tick]
  cases hown : m.own r _ _ _ with
  | some a => exact .of_eq (m.honest r _ _ _ a hown) rfl hadvance
  | none => exact hadvance.respond m hr

end Site

/-! ## whole runs -/

/-- **A program that settles its files does the same in both workshops.** -/
theorem coupled_runState (m : Site φ) {α : Type} {x : Host.Program α}
    {Q : Set String → α → Prop} (hx : x.Settles m.conduct home Q settled)
    (h : Coupled home settled f₁ f₂ w₁ w₂) :
    ∃ a more w₁' w₂', x.runState m.environment w₁ = (a, w₁') ∧
      x.runState m.environment w₂ = (a, w₂') ∧ settled ⊆ more ∧ Coupled home more f₁ f₂ w₁' w₂' ∧
      (x.events m.environment w₁).map Sigma.fst = (x.events m.environment w₂).map Sigma.fst ∧
      ∀ e ∈ x.events m.environment w₁ ++ x.events m.environment w₂,
        settledBy m.conduct e.1 e.2 ⊆ more := by
  induction x generalizing settled w₁ w₂ with
  | done a =>
    exact ⟨a, settled, w₁, w₂, rfl, rfl, subset_rfl, h, rfl, fun _ he => absurd he List.not_mem_nil⟩
  | ask r next ih =>
    obtain ⟨hproper, hblind, hnext⟩ := hx
    obtain ⟨halike, hcoupled⟩ := m.step_environment h hproper
    -- whether there was a file to remove, the program goes on alike
    have hsame := hblind _ _ halike
    obtain ⟨a, more, w₁', w₂', hrun₁, hrun₂, hsub, hmore, hrequests, hevents⟩ :=
      ih _ (hnext _ (m.expected_environment r w₁)) hcoupled
    have hanswered : settledBy m.conduct r (m.environment r w₁).1 ⊆ more :=
      Set.subset_union_right.trans hsub
    refine ⟨a, more, w₁', w₂', hrun₁, ?_, Set.subset_union_left.trans hsub, hmore, ?_, ?_⟩
    · rw [Interaction.runState_ask, ← hsame]
      exact hrun₂
    · rw [Interaction.events_ask, Interaction.events_ask, ← hsame, List.map_cons, List.map_cons,
        hrequests]
    · rw [Interaction.events_ask, Interaction.events_ask, ← hsame]
      obtain ⟨hfirst, hsecond⟩ := List.forall_mem_append.mp hevents
      exact List.forall_mem_append.mpr ⟨List.forall_mem_cons.mpr ⟨hanswered, hfirst⟩,
        List.forall_mem_cons.mpr ⟨halike.settledBy_eq ▸ hanswered, hsecond⟩⟩

/-! ## builds -/

/-- the status files and logs that builds leave in a directory -/
def leftovers (dir : String) : Set String :=
  {file | ∃ worker, file = statusFile dir worker ∨ file = logFile dir worker}

/-- Two workshops without shells that differ in nothing but the leftovers in a directory. -/
structure DifferInLeftovers (dir : String) (w₁ w₂ : Workshop φ) : Prop where
  work : w₁.work = w₂.work
  tick : w₁.tick = w₂.tick
  first : w₁.shells = []
  second : w₂.shells = []
  files : ∀ file ∉ leftovers dir, w₁.files file = w₂.files file

/-- they are coupled, with all other files settled -/
theorem DifferInLeftovers.coupled (h : DifferInLeftovers home w₁ w₂) :
    Coupled home (leftovers home)ᶜ w₁.files w₂.files w₁ w₂ := by
  refine ⟨h.work, h.first.trans h.second.symm, h.tick,
    ⟨h.files, fun _ _ => rfl, fun _ _ => rfl⟩, ?_⟩
  rw [h.first]
  exact fun _ hsh => absurd hsh List.not_mem_nil

/-- **What earlier builds have left has no influence on a build.**  In two directories that differ
only in the status files and logs which are there, a build asks for the same and comes to the same
result; it leaves all other files the same, and every status file or log that it or its shells
touch as well.  Neither the setup nor the library that is verified may be one of these files. -/
theorem build_ignores_leftovers (m : Site φ) {r : Recipe} {dir : String} {config : Config}
    {w₁ w₂ : Workshop φ} (hhome : home = Path.absolute m.conduct.cwd dir)
    (hreads : ∀ worker, Reads m.conduct.read config.flavor (statusFile home worker))
    (hsetup : ∀ step ∈ setupSteps m.conduct.read r.initCommand, ∀ path, step.path? = some path →
      place home path ∉ leftovers home)
    (hlibrary : config.verify = true → libraryIn r home ∉ leftovers home)
    (h : DifferInLeftovers home w₁ w₂) :
    ∃ result w₁' w₂', outcome m.environment (build r dir config) w₁ = (result, w₁') ∧
      outcome m.environment (build r dir config) w₂ = (result, w₂') ∧
      (trace m.environment (build r dir config) w₁).map Sigma.fst =
        (trace m.environment (build r dir config) w₂).map Sigma.fst ∧
      w₁'.work = w₂'.work ∧
      (∀ file ∉ leftovers home, w₁'.files file = w₂'.files file) ∧
      (∀ e ∈ trace m.environment (build r dir config) w₁ ++
          trace m.environment (build r dir config) w₂,
        ∀ file ∈ settledBy m.conduct e.1 e.2, w₁'.files file = w₂'.files file) ∧
      ∀ file, w₁'.files file = w₂'.files file ∨
        (w₁'.files file = w₁.files file ∧ w₂'.files file = w₂.files file) := by
  subst hhome
  have habs := Path.isAbsolute_absolute m.absolute dir
  have hload : place m.conduct.cwd (libraryIn r (Path.absolute m.conduct.cwd dir)) =
      libraryIn r (Path.absolute m.conduct.cwd dir) := by
    refine Path.join_of_isAbsolute (Path.isAbsolute_join ?_ _) _
    rw [Path.absolute_of_isAbsolute habs "" m.conduct.cwd]
    exact Path.isAbsolute_absolute m.absolute _
  have hfits : Fits m.conduct (.ofRecipe r (Path.absolute m.conduct.cwd dir) config)
    (leftovers (Path.absolute m.conduct.cwd dir))ᶜ := ⟨habs, hreads, hsetup⟩
  have hsettles := build_settles hfits fun hverify => by
    rw [hload]
    exact hlibrary hverify
  obtain ⟨result, more, w₁', w₂', hrun₁, hrun₂, hsub, hmore, hrequests, hevents⟩ :=
    coupled_runState m hsettles h.coupled
  refine ⟨result, w₁', w₂', hrun₁, hrun₂, hrequests, hmore.work,
    fun file hfile => hmore.files.same file (hsub hfile),
    fun e he file hfile => hmore.files.same file (hevents e he hfile), fun file => ?_⟩
  -- a file that nobody has touched is as it was
  by_cases hfile : file ∈ more
  · exact Or.inl (hmore.files.same file hfile)
  · exact Or.inr ⟨hmore.files.first file hfile, hmore.files.second file hfile⟩

/-! ## two directories -/

/-- a machine that has nothing to say by itself, and loads what is there -/
def Site.bare (c : Conduct φ) (h : Path.isAbsolute c.cwd = true) : Site φ where
  conduct := c
  own _ _ _ _ := none
  loads _ _ octets := octets.isSome
  absolute := h
  expected _ _ _ _ _ hown := nomatch hown
  honest _ _ _ _ _ hown := nomatch hown

/-- shells whose commands all end with the status `code` -/
def uniformConduct (code : UInt8) : Conduct Unit :=
  { idleConduct with run := fun _ _ work => (some code, work), cwd := "/" }

def uniformSite (code : UInt8) : Site Unit :=
  .bare (uniformConduct code) (show Path.isAbsolute "/" = true by decide)

def verifyingConfig : Config := { sampleConfig with verify := true }

/-- a file with another name is none of the leftovers -/
theorem join_notMem_leftovers {dir name : String} (habs : Path.isAbsolute name = false)
    (hname : ∀ worker, name ≠ statusFileName worker ∧ name ≠ logFileName worker) :
    Path.join dir name ∉ leftovers dir := by
  rintro ⟨worker, h | h⟩
  · exact (hname worker).1 (Path.join_injective habs (isAbsolute_statusFileName worker) h)
  · exact (hname worker).2 (Path.join_injective habs (isAbsolute_logFileName worker) h)

/-- the files of a directory with leftovers, and those of one without -/
theorem differInLeftovers_leftoverFiles :
    DifferInLeftovers "/build" (⟨(), leftoverFiles, [], 0⟩ : Workshop Unit)
      ⟨(), fun _ => none, [], 0⟩ := by
  refine ⟨rfl, rfl, rfl, rfl, fun file hfile => ?_⟩
  show leftoverFiles file = none
  unfold leftoverFiles
  split
  · exact absurd ⟨0, Or.inl (by decide +kernel)⟩ hfile
  · exact absurd ⟨0, Or.inr (by decide +kernel)⟩ hfile
  · exact absurd ⟨7, Or.inr (by decide +kernel)⟩ hfile
  · rfl

/-- a compilation that fails is reported alike in both -/
theorem build_ignores_leftovers_failing :
    ∃ w₁' w₂', outcome (uniformSite 3).environment (build threeSources "/build" verifyingConfig)
        ⟨(), leftoverFiles, [], 0⟩ =
          (.error (.error (.commandFailed 0 .compile 0 3 "/build/log_cpu0.txt" "")), w₁') ∧
      outcome (uniformSite 3).environment (build threeSources "/build" verifyingConfig)
        ⟨(), fun _ => none, [], 0⟩ =
          (.error (.error (.commandFailed 0 .compile 0 3 "/build/log_cpu0.txt" "")), w₂') ∧
      ∀ file ∉ leftovers "/build", w₁'.files file = w₂'.files file := by
  have hsteps : setupSteps ShellStep.ofBlock threeSources.initCommand = [.other "set -u\n"] := by
    decide +kernel
  have hsetup : ∀ step ∈ setupSteps (uniformSite 3).conduct.read threeSources.initCommand,
      ∀ path, step.path? = some path → place "/build" path ∉ leftovers "/build" := by
    show ∀ step ∈ setupSteps ShellStep.ofBlock threeSources.initCommand, _
    rw [hsteps]
    exact List.forall_mem_singleton.mpr fun path hpath => nomatch hpath
  have hlibrary : libraryIn threeSources "/build" ∉ leftovers "/build" := by
    have hname : libraryIn threeSources "/build" = Path.join "/build" "sample.so" := by
      decide +kernel
    rw [hname]
    refine join_notMem_leftovers (by decide) fun worker => ⟨fun h => ?_, fun h => ?_⟩
    · exact absurd (h ▸ head?_statusFileName worker) (by decide)
    · exact absurd (h ▸ head?_logFileName worker) (by decide)
  have hhome : "/build" = Path.absolute (uniformSite 3).conduct.cwd "/build" := by decide +kernel
  have hreads : ∀ worker, Reads (uniformSite 3).conduct.read verifyingConfig.flavor
      (statusFile "/build" worker) := fun _ => reads_ofBlock _
  obtain ⟨result, w₁', w₂', hrun₁, hrun₂, _, _, hfiles, _⟩ :=
    build_ignores_leftovers (uniformSite 3) hhome hreads hsetup (fun _ => hlibrary)
      differInLeftovers_leftoverFiles
  have hresult : (outcome (uniformSite 3).environment
      (build threeSources "/build" verifyingConfig) ⟨(), leftoverFiles, [], 0⟩).1 =
        .error (.error (.commandFailed 0 .compile 0 3 "/build/log_cpu0.txt" "")) := by
    decide +kernel
  obtain rfl := (congrArg Prod.fst hrun₁).symm.trans hresult
  exact ⟨w₁', w₂', hrun₁, hrun₂, hfiles⟩

/-- the machine, but for the files which are there from the start: these do not let themselves be
removed -/
def Site.holding (m : Site φ) (kept : Files) :
    Interaction.Environment Host.Answer (Workshop φ) := fun r w =>
  match r with
  | .removeFile path =>
    let file := place m.conduct.cwd path
    if (kept file).isSome ∧ w.files file = kept file then (.error (.code 1), w)
    else m.environment (.removeFile path) w
  | r => m.environment r w

def oneSource : Recipe := { threeSources with sources := ["a.c"] }

/-- A library that has the name of a log is found though the build has not made it, and a status
file that cannot be removed stops a build. -/
theorem leftovers_matter :
    let named : Recipe := { oneSource with target := "log_cpu0", libraryExt := ".txt" }
    ((outcome (uniformSite 0).environment (build named "/build" verifyingConfig)
          ⟨(), leftoverFiles, [], 0⟩).1 = .ok "/build/log_cpu0.txt" ∧
        (outcome (uniformSite 0).environment (build named "/build" verifyingConfig)
          ⟨(), fun _ => none, [], 0⟩).1 = .error (.error .libraryLoad)) ∧
      (outcome ((uniformSite 0).holding leftoverFiles) (build oneSource "/build" sampleConfig)
          ⟨(), leftoverFiles, [], 0⟩).1 = .error (.error (.io (.code 1))) ∧
        (outcome ((uniformSite 0).holding leftoverFiles) (build oneSource "/build" sampleConfig)
          ⟨(), fun _ => none, [], 0⟩).1 = .ok "/build/sample.so" := by
  decide +kernel

end ShellWorkers
