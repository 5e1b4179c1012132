import ShellWorkers.Duration
import ShellWorkers.Quoting

/-!
# Configuration of a build

`Config` holds what a caller may choose, `workerCount` the number of workers that follows from
the choice and from the number of cores.
-/

namespace ShellWorkers

structure Config where
  /-- upper bound on the number of workers; all cores when there is none -/
  threads : Option Nat
  /-- tell about progress -/
  verbose : Bool
  /-- a worker that runs longer is killed -/
  timeout : Option Duration
  /-- load the finished library once -/
  verify : Bool
  flavor : Flavor
  deriving Repr

namespace Config

def default : Config := ⟨none, false, none, false, Flavor.host⟩

def withThreads (n : Nat) (c : Config) : Config := { c with threads := some n }

def withVerbose (b : Bool) (c : Config) : Config := { c with verbose := b }

def withTimeout (d : Duration) (c : Config) : Config := { c with timeout := some d }

def withVerify (b : Bool) (c : Config) : Config := { c with verify := b }

end Config

/-- The number of workers: the smaller of a nonzero request and the number of cores, else the
number of cores; there is always one core. -/
def workerCount (requested : Option Nat) (cores : Nat) : Nat :=
  let available := if cores = 0 then 1 else cores
  match requested with
  | none => available
  | some n => if n = 0 then available else if n < available then n else available

theorem workerCount_pos (requested : Option Nat) (cores : Nat) :
    0 < workerCount requested cores := by
  unfold workerCount
  cases requested with
  | none => simp only; split <;> omega
  | some n => simp only; split <;> split <;> (try split) <;> omega

theorem workerCount_le (requested : Option Nat) (cores : Nat) (h : 0 < cores) :
    workerCount requested cores ≤ cores := by
  unfold workerCount
  have h0 : cores ≠ 0 := by omega
  cases requested with
  | none => simp [h0]
  | some n => simp only [h0, if_false]; split <;> (try split) <;> omega

end ShellWorkers
