import Mathlib.Logic.Function.Basic
import ShellWorkers.Bookkeeping
import ShellWorkers.Proofs.StatusCodes

/-!
# Where bookkeeping files lie

A worker's files have names of their own inside the build directory, and an absolute path means
the same file for everyone who uses it.

* `join_of_isAbsolute`, `isAbsolute_join`        absolute paths;
* `isAbsolute_absolute`                          the absolute form of a path;
* `statusFile_injective`, `logFile_injective`    no two workers share a file;
* `statusFile_ne_logFile`                        no status file is a log.
-/

namespace ShellWorkers

/-- what the files hold, each at its path; nothing where there is none -/
abbrev Files := String → Option (List UInt8)

/-- the place in the world of a path that is used in a directory -/
abbrev place (dir path : String) : String := Path.join dir path

namespace Path

/-! ## absolute paths -/

/-- an absolute path does not depend on the directory it is used in -/
theorem join_of_isAbsolute {path : String} (h : isAbsolute path = true) (dir : String) :
    join dir path = path := by
  have hhead : path.toList.head? = some '/' := beq_iff_eq.mp h
  rw [join, joinChars, if_pos hhead, String.ofList_toList]

/-- nothing is put before a name that is used in no directory -/
theorem empty_join (name : String) : join "" name = name := by
  show String.ofList (joinChars [] name.toList) = name
  rw [joinChars]
  split
  · exact String.ofList_toList
  · exact String.ofList_toList

/-- nor does its absolute form -/
theorem absolute_of_isAbsolute {path : String} (h : isAbsolute path = true) (dir other : String) :
    absolute dir path = absolute other path := by
  have hhead : path.toList.head? = some '/' := beq_iff_eq.mp h
  rw [absolute, absolute, absoluteChars, absoluteChars, if_pos hhead, if_pos hhead]

theorem head?_joinChars {dir : List Char} (h : dir.head? = some '/') (name : List Char) :
    (joinChars dir name).head? = some '/' := by
  have hne : dir ≠ [] := fun hnil => by rw [hnil] at h; exact nomatch h
  rw [joinChars]
  split
  · assumption
  · split
    · rw [List.head?_append_of_ne_nil _ hne, h]
    · rw [List.head?_append_of_ne_nil _ hne, h]

/-- a name inside an absolute directory is an absolute path -/
theorem isAbsolute_join {dir : String} (h : isAbsolute dir = true) (name : String) :
    isAbsolute (join dir name) = true := by
  rw [isAbsolute, join, String.toList_ofList, head?_joinChars (beq_iff_eq.mp h)]
  rfl

/-- the absolute form of a path is absolute, seen from an absolute directory -/
theorem isAbsolute_absolute {cwd : String} (h : isAbsolute cwd = true) (path : String) :
    isAbsolute (absolute cwd path) = true := by
  have hfold : ∀ (names : List (List Char)) (start : List Char), start.head? = some '/' →
      (names.foldl joinChars start).head? = some '/' := by
    intro names
    induction names with
    | nil => exact fun _ hstart => hstart
    | cons name names ih => exact fun start hstart => ih _ (head?_joinChars hstart name)
  have hroot : (root path.toList).head? = some '/' := by
    unfold root
    split <;> rfl
  have hstart : (if path.toList.head? = some '/' then root path.toList else cwd.toList).head? =
      some '/' := by
    split
    · exact hroot
    · exact beq_iff_eq.mp h
  have hchars : (absoluteChars cwd.toList path.toList).head? = some '/' := by
    simp only [absoluteChars]
    split
    · exact head?_joinChars (hfold _ _ hstart) []
    · exact hfold _ _ hstart
  rw [isAbsolute, absolute, String.toList_ofList, hchars]
  rfl

/-- names inside a directory are told apart by their text -/
theorem join_injective {dir a b : String} (ha : isAbsolute a = false) (hb : isAbsolute b = false)
    (h : join dir a = join dir b) : a = b := by
  have ha' : ¬ a.toList.head? = some '/' := beq_eq_false_iff_ne.mp ha
  have hb' : ¬ b.toList.head? = some '/' := beq_eq_false_iff_ne.mp hb
  have hchars := congrArg String.toList h
  rw [join, join, String.toList_ofList, String.toList_ofList, joinChars, joinChars, if_neg ha',
    if_neg hb'] at hchars
  apply String.toList_injective
  split at hchars
  · exact List.append_cancel_left hchars
  · exact (List.cons.inj (List.append_cancel_left hchars)).2

end Path

/-! ## numbered files -/

/-- a name that starts with a letter names something in the directory itself -/
theorem isAbsolute_append {stem : String} (hne : stem.toList ≠ [])
    (h : Path.isAbsolute stem = false) (rest : String) : Path.isAbsolute (stem ++ rest) = false := by
  show ((stem ++ rest).toList.head? == some '/') = false
  rw [String.toList_append, List.head?_append_of_ne_nil _ hne]
  exact h

theorem toString_injective {v w : Nat} (h : toString v = toString w) : v = w := by
  have hv := StatusText.natural?_repr v
  rw [h, StatusText.natural?_repr w] at hv
  exact (Option.some.inj hv).symm

/-- files that are numbered behind a common stem are told apart by their numbers -/
theorem numbered_injective {dir stem ending : String} (hne : stem.toList ≠ [])
    (hstem : Path.isAbsolute stem = false) {v w : Nat}
    (h : Path.join dir (stem ++ toString v ++ ending) =
      Path.join dir (stem ++ toString w ++ ending)) : v = w := by
  have habs : ∀ n : Nat, Path.isAbsolute (stem ++ toString n ++ ending) = false := by
    intro n
    rw [String.append_assoc]
    exact isAbsolute_append hne hstem _
  have hnames := congrArg String.toList (Path.join_injective (habs v) (habs w) h)
  rw [String.toList_append, String.toList_append, String.toList_append, String.toList_append]
    at hnames
  apply toString_injective
  apply String.toList_injective
  exact List.append_cancel_left (List.append_cancel_right hnames)

/-- no two workers share a status file -/
theorem statusFile_injective (dir : String) : Function.Injective (statusFile dir) :=
  fun _ _ h => numbered_injective (by decide) (by decide) h

/-- no two workers share a log -/
theorem logFile_injective (dir : String) : Function.Injective (logFile dir) :=
  fun _ _ h => numbered_injective (by decide) (by decide) h

theorem head?_statusFileName (worker : Nat) : (statusFileName worker).toList.head? = some 'r' := by
  rw [statusFileName, String.append_assoc, String.toList_append,
    List.head?_append_of_ne_nil _ (by decide)]
  rfl

theorem head?_logFileName (worker : Nat) : (logFileName worker).toList.head? = some 'l' := by
  rw [logFileName, String.append_assoc, String.toList_append,
    List.head?_append_of_ne_nil _ (by decide)]
  rfl

theorem isAbsolute_statusFileName (worker : Nat) :
    Path.isAbsolute (statusFileName worker) = false := by
  rw [Path.isAbsolute, head?_statusFileName]
  rfl

theorem isAbsolute_logFileName (worker : Nat) : Path.isAbsolute (logFileName worker) = false := by
  rw [Path.isAbsolute, head?_logFileName]
  rfl

/-- no status file is a log -/
theorem statusFile_ne_logFile (dir : String) (v w : Nat) : statusFile dir v ≠ logFile dir w := by
  intro h
  have hnames := Path.join_injective (isAbsolute_statusFileName v) (isAbsolute_logFileName w) h
  have hheads := head?_statusFileName v
  rw [hnames, head?_logFileName] at hheads
  exact absurd hheads (by decide)

/-- a status file in an absolute directory has an absolute path -/
theorem isAbsolute_statusFile {dir : String} (h : Path.isAbsolute dir = true) (worker : Nat) :
    Path.isAbsolute (statusFile dir worker) = true := Path.isAbsolute_join h _

end ShellWorkers
