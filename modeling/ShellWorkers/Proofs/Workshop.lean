import Mathlib.Logic.Function.Basic
import Mathlib.Logic.Relation
import ShellWorkers.Proofs.Outcome
import ShellWorkers.Proofs.Places
import ShellWorkers.Proofs.ShellQueue

/-!
# A workshop of worker shells

An environment in which the requests of a session meet shells that run their queues.  A shell
does its steps in the order of its queue; between two requests any shells may do any number of
steps, in any order, and a shell may stop at any point.  What the commands do, and when the shells
go on, is left open: it is the `Conduct` of the workshop.

* `Workshop`               the files, the shells, and the state `φ` that the commands work on;
* `Workshop.perform`       one step of one shell;
* `Workshop.environment`   the answers to requests, each after the shells' own steps;
* `Event`, `Later`         what happens without a text, a file or a shell coming in;
* `environment_later`      the requests that bring in none of these.
-/

namespace ShellWorkers

/-! ## states -/

/-- a worker's shell -/
structure WorkerShell where
  dir : String
  /-- the steps that are queued and not done -/
  todo : List ShellStep
  /-- the steps that are done, each with the status after it -/
  history : List (ShellStep × UInt8)
  /-- the status of the last step -/
  status : UInt8
  /-- whether its input is closed -/
  closed : Bool
  running : Bool
  deriving Repr

namespace WorkerShell

/-- a shell that has just been started -/
def fresh (dir : String) : WorkerShell := ⟨dir, [], [], 0, false, true⟩

/-- the shell after a step that leaves the status `code` -/
def did (sh : WorkerShell) (step : ShellStep) (code : UInt8) (rest : List ShellStep) :
    WorkerShell :=
  { sh with todo := rest, history := sh.history ++ [(step, code)], status := code }

def enqueue (steps : List ShellStep) (sh : WorkerShell) : WorkerShell :=
  { sh with todo := sh.todo ++ steps }

def close (sh : WorkerShell) : WorkerShell := { sh with closed := true }

def stop (sh : WorkerShell) : WorkerShell := { sh with running := false }

/-- everything the shell was given to do, in order -/
def program (sh : WorkerShell) : List ShellStep := sh.history.map Prod.fst ++ sh.todo

/-- whether the shell has ended: it stopped, or nothing more can come -/
def hasEnded (sh : WorkerShell) : Bool := !sh.running || (sh.closed && sh.todo.isEmpty)

theorem program_did {sh : WorkerShell} {step : ShellStep} {rest : List ShellStep}
    (h : sh.todo = step :: rest) (code : UInt8) : (sh.did step code rest).program = sh.program := by
  simp [program, did, h]

theorem program_enqueue (sh : WorkerShell) (steps : List ShellStep) :
    (sh.enqueue steps).program = sh.program ++ steps := by
  simp [program, enqueue]

theorem program_close (sh : WorkerShell) : sh.close.program = sh.program := rfl

theorem program_stop (sh : WorkerShell) : sh.stop.program = sh.program := rfl

end WorkerShell

structure Workshop (φ : Type) where
  /-- what the commands work on -/
  work : φ
  /-- status files and logs -/
  files : Files
  /-- the shells, each at the number of its process -/
  shells : List WorkerShell
  /-- the number of requests so far -/
  tick : Nat

/-! ## what is left open -/

/-- what a shell does while nobody looks -/
inductive Move where
  | perform (shell : Nat)
  | stop (shell : Nat)
  deriving DecidableEq, Repr

structure Conduct (φ : Type) where
  /-- the steps that a queued text is read as -/
  read : String → List ShellStep
  /-- the status of a text that only concerns its shell; none when it stops the shell -/
  prepare : Nat → String → Option UInt8
  /-- the status of a command and what it makes of the work; none when it stops the shell -/
  run : Nat → String → φ → Option UInt8 × φ
  /-- what happens before each request -/
  moves : Nat → List Move
  clock : Nat → Host.Instant
  /-- what a shell has written to its output streams -/
  output : Nat → List UInt8
  /-- the directory in which relative paths of requests start -/
  cwd : String

/-! ## one step -/

/-- what a step comes to: the status after it (none when it stops the shell), the work, the files -/
structure Effect (φ : Type) where
  code : Option UInt8
  work : φ
  files : Files

/-- the octets of a recorded status -/
def recordOctets (code : UInt8) : List UInt8 :=
  Text.encode (String.ofList (StatusText.codeLine StatusText.posixEnd code.toNat))

namespace Conduct

variable {φ : Type}

/-- the effect of a step of shell `i` -/
def effect (c : Conduct φ) (i : Nat) (sh : WorkerShell) (work : φ) (files : Files) :
    ShellStep → Effect φ
  | .other text => ⟨c.prepare i text, work, files⟩
  | .create path => ⟨some 0, work, Function.update files (place sh.dir path) (some [])⟩
  | .command text _ => ⟨(c.run i text work).1, (c.run i text work).2, files⟩
  | .record path =>
    let file := place sh.dir path
    let octets := (files file).getD [] ++ recordOctets sh.status
    ⟨some 0, work, Function.update files file (some octets)⟩

end Conduct

namespace Workshop

variable {φ : Type}

def mapShell (w : Workshop φ) (i : Nat) (f : WorkerShell → WorkerShell) : Workshop φ :=
  { w with shells := w.shells.modify i f }

/-- the workshop after a step of shell `i` with the effect `e` -/
def after (w : Workshop φ) (i : Nat) (sh : WorkerShell) (step : ShellStep) (rest : List ShellStep)
    (e : Effect φ) : Workshop φ :=
  let sh := match e.code with
    | some code => sh.did step code rest
    | none => sh.stop
  { w with work := e.work, files := e.files, shells := w.shells.set i sh }

/-- the next step of shell `i`, if it has one and runs -/
def perform (c : Conduct φ) (i : Nat) (w : Workshop φ) : Workshop φ :=
  match w.shells[i]? with
  | none => w
  | some sh =>
    match sh.running, sh.todo with
    | true, step :: rest => w.after i sh step rest (c.effect i sh w.work w.files step)
    | _, _ => w

def move (c : Conduct φ) (w : Workshop φ) : Move → Workshop φ
  | .perform i => w.perform c i
  | .stop i => w.mapShell i .stop

/-- what happens before a request -/
def advance (c : Conduct φ) (w : Workshop φ) : Workshop φ :=
  let w := (c.moves w.tick).foldl (move c) w
  { w with tick := w.tick + 1 }

/-- shell `i` does `n` steps -/
def performAll (c : Conduct φ) (i : Nat) : Nat → Workshop φ → Workshop φ
  | 0, w => w
  | n + 1, w => performAll c i n (w.perform c i)

/-- shell `i` does all it has to do, and ends; what other shells do meanwhile they can as well have
done before -/
def runOut (c : Conduct φ) (i : Nat) (w : Workshop φ) : Workshop φ :=
  match w.shells[i]? with
  | none => w
  | some sh => (performAll c i sh.todo.length w).mapShell i .stop

/-! ## answers -/

/-- whether shell `i` has ended -/
def hasEnded (w : Workshop φ) (i : Nat) : Bool :=
  match w.shells[i]? with
  | some sh => sh.hasEnded
  | none => true

/-- the answer to a request; a request that no session asks gets an answer that fits -/
def answer (c : Conduct φ) (w : Workshop φ) : (r : Host.Request) → Host.Answer r × Workshop φ
  | .removeFile path =>
    (if (w.files (place c.cwd path)).isSome then .ok () else .error .notFound,
      { w with files := Function.update w.files (place c.cwd path) none })
  | .readFile path => ((w.files (place c.cwd path)).elim (.error .notFound) .ok, w)
  | .writeFile path text =>
    let octets := some (Text.encode text)
    (.ok (), { w with files := Function.update w.files (place c.cwd path) octets })
  | .isDirectory _ => (true, w)
  | .exists path => ((w.files (place c.cwd path)).isSome, w)
  | .currentDirectory => (.ok c.cwd, w)
  | .spawn _ _ dir =>
    (.ok ⟨w.shells.length⟩, { w with shells := w.shells ++ [.fresh (place c.cwd dir)] })
  | .attach _ => (.ok (), w)
  | .send process text => ((), w.mapShell process.id (.enqueue (c.read text)))
  | .closeInput process => ((), w.mapShell process.id .close)
  | .wait process => (.ok (.exited 0), w.runOut c process.id)
  | .poll process => (.ok (if w.hasEnded process.id then some (.exited 0) else none), w)
  | .killGroup process => ((), w.mapShell process.id .stop)
  | .kill process => ((), w.mapShell process.id .stop)
  | .output process => (c.output process.id, w)
  | .now => (c.clock w.tick, w)
  | .pause _ => ((), w)
  | .cores => (1, w)
  | .load _ => (true, w)

/-- the answers of a workshop, whose shells go on before each of them -/
def environment (c : Conduct φ) : Interaction.Environment Host.Answer (Workshop φ) :=
  fun r w => answer c (w.advance c) r

end Workshop

/-! ## what happens by itself -/

/-- a workshop in which nothing happens by itself is as it was -/
theorem advance_of_no_moves {φ : Type} {c : Conduct φ} (h : ∀ tick, c.moves tick = [])
    (w : Workshop φ) : w.advance c = { w with tick := w.tick + 1 } := by
  rw [Workshop.advance, h]
  rfl

section

variable {φ : Type} {c : Conduct φ}

/-- what a workshop does without a text, a file or a shell coming in -/
inductive Event (c : Conduct φ) : Workshop φ → Workshop φ → Prop where
  | perform (w : Workshop φ) (i : Nat) : Event c w (w.perform c i)
  | stop (w : Workshop φ) (i : Nat) : Event c w (w.mapShell i .stop)
  | close (w : Workshop φ) (i : Nat) : Event c w (w.mapShell i .close)
  | tick (w : Workshop φ) : Event c w { w with tick := w.tick + 1 }

abbrev Later (c : Conduct φ) : Workshop φ → Workshop φ → Prop := Relation.ReflTransGen (Event c)

/-- what every event preserves holds later -/
theorem Later.preserves {P : Workshop φ → Prop} (h : ∀ v w, Event c v w → P v → P w)
    {v w : Workshop φ} (hl : Later c v w) (hv : P v) : P w := by
  induction hl with
  | refl => exact hv
  | tail _ e ih => exact h _ _ e ih

theorem later_move (w : Workshop φ) (m : Move) : Later c w (w.move c m) := by
  cases m with
  | perform i => exact .single (.perform w i)
  | stop i => exact .single (.stop w i)

theorem later_foldl_move (ms : List Move) (w : Workshop φ) :
    Later c w (ms.foldl (Workshop.move c) w) := by
  induction ms generalizing w with
  | nil => exact .refl
  | cons m ms ih => exact (later_move w m).trans (ih (w.move c m))

theorem later_advance (w : Workshop φ) : Later c w (w.advance c) :=
  (later_foldl_move (c.moves w.tick) w).tail (.tick _)

theorem later_performAll (i n : Nat) (w : Workshop φ) :
    Later c w (Workshop.performAll c i n w) := by
  induction n generalizing w with
  | zero => exact .refl
  | succ n ih => exact (ih (w.perform c i)).head (.perform w i)

theorem later_runOut (i : Nat) (w : Workshop φ) : Later c w (w.runOut c i) := by
  unfold Workshop.runOut
  cases w.shells[i]? with
  | none => exact .refl
  | some sh => exact (later_performAll i sh.todo.length w).tail (.stop _ i)

/-- the requests that bring nothing into a workshop -/
def IsQuiet : Host.Request → Prop
  | .removeFile _ => False
  | .writeFile _ _ => False
  | .spawn _ _ _ => False
  | .send _ _ => False
  | _ => True

theorem later_answer {r : Host.Request} (h : IsQuiet r) (w : Workshop φ) :
    Later c w (w.answer c r).2 := by
  cases r with
  | removeFile path => exact False.elim h
  | writeFile path text => exact False.elim h
  | spawn program args dir => exact False.elim h
  | send process text => exact False.elim h
  | readFile _ => exact .refl
  | poll _ => exact .refl
  | wait process => exact later_runOut process.id w
  | closeInput process => exact .single (.close w process.id)
  | killGroup process => exact .single (.stop w process.id)
  | kill process => exact .single (.stop w process.id)
  | isDirectory _ => exact .refl
  | «exists» _ => exact .refl
  | currentDirectory => exact .refl
  | attach _ => exact .refl
  | output _ => exact .refl
  | now => exact .refl
  | pause _ => exact .refl
  | cores => exact .refl
  | load _ => exact .refl

/-- a request that brings nothing in leaves a workshop that could come about by itself -/
theorem environment_later {r : Host.Request} (h : IsQuiet r) (w : Workshop φ) :
    Later c w (Workshop.environment c r w).2 :=
  (later_advance w).trans (later_answer h (w.advance c))

/-- so does a program that asks only such requests -/
theorem runState_later {α : Type} {x : Host.Program α} (h : x.Asks IsQuiet) (w : Workshop φ) :
    Later c w (x.runState (Workshop.environment c) w).2 :=
  h.runState (fun _ v hr hv => hv.trans (environment_later hr v)) .refl

/-! ## steps of one shell -/

theorem shells_after_of_some {e : Effect φ} {code : UInt8} (h : e.code = some code) (w : Workshop φ)
    (i : Nat) (sh : WorkerShell) (step : ShellStep) (rest : List ShellStep) :
    (w.after i sh step rest e).shells = w.shells.set i (sh.did step code rest) := by
  rw [Workshop.after, h]

theorem shells_after_of_none {e : Effect φ} (h : e.code = none) (w : Workshop φ) (i : Nat)
    (sh : WorkerShell) (step : ShellStep) (rest : List ShellStep) :
    (w.after i sh step rest e).shells = w.shells.set i sh.stop := by
  rw [Workshop.after, h]

theorem exists_of_mapShell {w : Workshop φ} {i j : Nat} {f : WorkerShell → WorkerShell}
    {sh' : WorkerShell} (h : (w.mapShell i f).shells[j]? = some sh') :
    ∃ sh, w.shells[j]? = some sh ∧ (if i = j then f sh else sh) = sh' := by
  rw [Workshop.mapShell, List.getElem?_modify, Option.map_eq_map, Option.map_eq_some_iff] at h
  exact h

/-- A step does nothing, or it is the next step of a shell that runs. -/
theorem perform_cases (i : Nat) (w : Workshop φ) :
    w.perform c i = w ∨ ∃ sh step rest, w.shells[i]? = some sh ∧ sh.running = true ∧
      sh.todo = step :: rest ∧
      w.perform c i = w.after i sh step rest (c.effect i sh w.work w.files step) := by
  cases hi : w.shells[i]? with
  | none => exact Or.inl (by rw [Workshop.perform, hi])
  | some sh =>
    cases hr : sh.running with
    | false => exact Or.inl (by simp only [Workshop.perform, hi, hr])
    | true =>
      cases ht : sh.todo with
      | nil => exact Or.inl (by simp only [Workshop.perform, hi, hr, ht])
      | cons step rest =>
        exact Or.inr ⟨sh, step, rest, rfl, hr, ht, by simp only [Workshop.perform, hi, hr, ht]⟩

end

end ShellWorkers
