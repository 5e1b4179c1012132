/-!
# Replacing a word in a text

`replace` scans from left to right: where the pattern stands, the substitute is written and the
scan goes on behind it, so occurrences never overlap and what was written is not scanned again.
-/

namespace ShellWorkers.Text

/-- the rest of a text that starts with `p` -/
def after? : (p cs : List Char) → Option (List Char)
  | [], cs => some cs
  | _ :: _, [] => none
  | x :: p, c :: cs => if x = c then after? p cs else none

theorem after?_append (p cs : List Char) : after? p (p ++ cs) = some cs := by
  induction p with
  | nil => rfl
  | cons x p ih => simp [after?, ih]

theorem eq_append_of_after? {p cs rest : List Char} (h : after? p cs = some rest) :
    cs = p ++ rest := by
  induction p generalizing cs with
  | nil => simpa [after?] using h
  | cons x p ih =>
    cases cs with
    | nil => simp [after?] at h
    | cons c cs =>
      by_cases hx : x = c
      · subst hx
        rw [after?, if_pos rfl] at h
        rw [ih h, List.cons_append]
      · simp [after?, hx] at h

/-- a text in which `skip` more characters belong to an occurrence already replaced -/
def replaceFrom (p new : List Char) : (skip : Nat) → List Char → List Char
  | _, [] => []
  | skip + 1, _ :: cs => replaceFrom p new skip cs
  | 0, c :: cs =>
    if (after? p (c :: cs)).isSome then new ++ replaceFrom p new (p.length - 1) cs
    else c :: replaceFrom p new 0 cs

/-- every occurrence of the nonempty pattern `p` becomes `new` -/
def replaceChars (p new cs : List Char) : List Char := replaceFrom p new 0 cs

def replace (p new s : String) : String :=
  String.ofList (replaceChars p.toList new.toList s.toList)

theorem replaceFrom_length (p new : List Char) (w rest : List Char) :
    replaceFrom p new w.length (w ++ rest) = replaceFrom p new 0 rest := by
  induction w with
  | nil => simp
  | cons c w ih => simpa [replaceFrom] using ih

/-- an occurrence at the front is replaced -/
theorem replaceChars_append (x : Char) (p new rest : List Char) :
    replaceChars (x :: p) new (x :: p ++ rest) = new ++ replaceChars (x :: p) new rest := by
  have h : (after? (x :: p) (x :: (p ++ rest))).isSome = true := by
    have := after?_append (x :: p) rest
    rw [List.cons_append] at this
    rw [this]; rfl
  rw [replaceChars, List.cons_append, replaceFrom, if_pos h]
  simp only [List.length_cons, Nat.add_sub_cancel]
  rw [replaceFrom_length, replaceChars]

/-- a character at which no occurrence starts is kept -/
theorem replaceChars_cons_of_none (p new : List Char) (c : Char) (cs : List Char)
    (h : after? p (c :: cs) = none) :
    replaceChars p new (c :: cs) = c :: replaceChars p new cs := by
  simp [replaceChars, replaceFrom, h]

theorem replaceChars_nil (p new : List Char) : replaceChars p new [] = [] := rfl

end ShellWorkers.Text
