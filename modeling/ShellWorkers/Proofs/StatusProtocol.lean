import ShellWorkers.Proofs.SessionRuns
import ShellWorkers.Proofs.Utf8

/-!
# The status protocol

A session reads from its status file exactly what its shell has recorded there, at whatever point
the shell has stopped.

The link is `replay`: the content of the file and the status of the shell, computed from the
history of the shell alone.  `Follows` says that a workshop is where its shell's history has
brought it; every event and every queued text preserve it.  What remains is a fact about histories
that are a part of the session's queue from its front.

* `Follows`              the invariant;
* `replay_of_prefix`     the file of a history that goes as far as it goes;
* `session_reports`      the report of the session.
-/

namespace ShellWorkers

open ShellWorkers.Action

variable {φ : Type} {c : Conduct φ}

/-! ## the file of a history -/

/-- the content of a status file and the status of the shell -/
abbrev Record := Option (List UInt8) × UInt8

/-- what a step of a shell in `dir` that leaves the status `entry.2` makes of the file at `file` -/
def replayStep (dir file : String) (r : Record) (entry : ShellStep × UInt8) : Record :=
  match entry.1 with
  | .other _ => (r.1, entry.2)
  | .create path => (if place dir path = file then some [] else r.1, entry.2)
  | .command _ _ => (r.1, entry.2)
  | .record path =>
    (if place dir path = file then some (r.1.getD [] ++ recordOctets r.2) else r.1, entry.2)

/-- the file and the status after a history, from a missing file on -/
def replay (dir file : String) (history : List (ShellStep × UInt8)) : Record :=
  history.foldl (replayStep dir file) (none, 0)

theorem update_apply_eq (files : Files) (f g : String) (content : Option (List UInt8)) :
    Function.update files f content g = if f = g then content else files g := by
  by_cases h : f = g
  · rw [if_pos h, h, Function.update_self]
  · rw [if_neg h, Function.update_of_ne (Ne.symm h)]

/-- the effect of a step that does not stop the shell is the one that is replayed -/
theorem replayStep_effect (i : Nat) (sh : WorkerShell) (work : φ) (files : Files) (file : String)
    (step : ShellStep) {code : UInt8} (h : (c.effect i sh work files step).code = some code) :
    ((c.effect i sh work files step).files file, code) =
      replayStep sh.dir file (files file, sh.status) (step, code) := by
  cases step with
  | other text => rfl
  | command text path => rfl
  | create path =>
    show (Function.update files (place sh.dir path) (some []) file, code) = _
    rw [update_apply_eq]
    rfl
  | record path =>
    show (Function.update files (place sh.dir path) _ file, code) =
      (if place sh.dir path = file then some ((files file).getD [] ++ recordOctets sh.status)
        else files file, code)
    rw [update_apply_eq]
    by_cases hp : place sh.dir path = file
    · rw [if_pos hp, if_pos hp, hp]
    · rw [if_neg hp, if_neg hp]

/-- a step that stops the shell leaves the files alone -/
theorem files_of_stop (i : Nat) (sh : WorkerShell) (work : φ) (files : Files) (step : ShellStep)
    (h : (c.effect i sh work files step).code = none) :
    (c.effect i sh work files step).files = files := by
  cases step with
  | other text => rfl
  | command text path => rfl
  | create path => exact nomatch h
  | record path => exact nomatch h

/-! ## the invariant -/

/-- The workshop has one shell, which was given `steps`, and the file at `file` is the one of the
shell's history. -/
def Follows (dir file : String) (steps : List ShellStep) (w : Workshop φ) : Prop :=
  ∃ sh, w.shells = [sh] ∧ sh.dir = dir ∧ sh.program = steps ∧
    (w.files file, sh.status) = replay dir file sh.history

theorem follows_mapShell {dir file : String} {steps : List ShellStep} {w : Workshop φ}
    (h : Follows dir file steps w) (i : Nat) {f : WorkerShell → WorkerShell}
    (hdir : ∀ sh, (f sh).dir = sh.dir) (hprogram : ∀ sh, (f sh).program = sh.program)
    (hstatus : ∀ sh, (f sh).status = sh.status) (hhistory : ∀ sh, (f sh).history = sh.history) :
    Follows dir file steps (w.mapShell i f) := by
  obtain ⟨sh, hsh, hd, hp, hr⟩ := h
  cases i with
  | zero =>
    refine ⟨f sh, ?_, (hdir sh).trans hd, (hprogram sh).trans hp, ?_⟩
    · show w.shells.modify 0 f = _
      rw [hsh]
      rfl
    · rw [hstatus, hhistory]
      exact hr
  | succ i =>
    refine ⟨sh, ?_, hd, hp, hr⟩
    show w.shells.modify (i + 1) f = _
    rw [hsh, List.modify_succ_cons, List.modify_nil]

theorem follows_perform {dir file : String} {steps : List ShellStep} {w : Workshop φ}
    (h : Follows dir file steps w) (i : Nat) : Follows dir file steps (w.perform c i) := by
  rcases perform_cases (c := c) i w with hsame | ⟨sh, step, rest, hi, _, htodo, hafter⟩
  · rw [hsame]
    exact h
  obtain ⟨sh', hsh, hd, hp, hr⟩ := h
  rw [hsh] at hi
  cases i with
  | succ i => exact nomatch hi
  | zero =>
    have hs : sh' = sh := Option.some.inj hi
    subst hs
    rw [hafter]
    cases hcode : (c.effect 0 sh' w.work w.files step).code with
    | none =>
      refine ⟨sh'.stop, ?_, hd, hp, ?_⟩
      · rw [shells_after_of_none hcode, hsh]
        rfl
      · show ((c.effect 0 sh' w.work w.files step).files file, sh'.status) = replay dir file sh'.history
        rw [files_of_stop 0 sh' w.work w.files step hcode]
        exact hr
    | some code =>
      refine ⟨sh'.did step code rest, ?_, hd, ?_, ?_⟩
      · rw [shells_after_of_some hcode, hsh]
        rfl
      · rw [WorkerShell.program_did htodo]
        exact hp
      · show ((c.effect 0 sh' w.work w.files step).files file, code) =
          (sh'.history ++ [(step, code)]).foldl (replayStep dir file) (none, 0)
        rw [replayStep_effect 0 sh' w.work w.files file step hcode, List.foldl_append, hr, hd]
        rfl

theorem follows_event {dir file : String} {steps : List ShellStep} (v w : Workshop φ)
    (e : Event c v w) (h : Follows dir file steps v) : Follows dir file steps w := by
  cases e with
  | perform i => exact follows_perform h i
  | stop i => exact follows_mapShell h i (fun _ => rfl) (fun _ => rfl) (fun _ => rfl) fun _ => rfl
  | close i => exact follows_mapShell h i (fun _ => rfl) (fun _ => rfl) (fun _ => rfl) fun _ => rfl
  | tick => exact h

theorem follows_quiet {dir file : String} {steps : List ShellStep} {w : Workshop φ}
    (r : Host.Request) (hr : IsQuiet r) (h : Follows dir file steps w) :
    Follows dir file steps (Workshop.environment c r w).2 :=
  Later.preserves follows_event (environment_later hr w) h

/-! ## a session leads to it -/

/-- without shells nothing happens to the files -/
theorem later_of_no_shells {v w : Workshop φ} (hl : Later c v w) (h : v.shells = []) :
    w.shells = [] ∧ w.files = v.files := by
  induction hl with
  | refl => exact ⟨h, rfl⟩
  | @tail u w _ e ih =>
    obtain ⟨hs, hf⟩ := ih
    have hmap : ∀ i f, (u.mapShell i f).shells = [] := by
      intro i f
      show u.shells.modify i f = []
      rw [hs, List.modify_nil]
    cases e with
    | perform i =>
      rcases perform_cases (c := c) i u with hsame | ⟨sh, step, rest, hi, _⟩
      · rw [hsame]
        exact ⟨hs, hf⟩
      · rw [hs] at hi
        exact nomatch hi
    | stop i => exact ⟨hmap i _, hf⟩
    | close i => exact ⟨hmap i _, hf⟩
    | tick => exact ⟨hs, hf⟩

/-- the invariant follows the session of the only shell, in an absolute directory -/
theorem tracks_follows {dir path : String} (hdir : Path.isAbsolute dir = true)
    (hpath : Path.isAbsolute path = true) :
    Tracks c dir path 0 (fun w => w.shells = []) (fun w => w.shells = [] ∧ w.files path = none)
      (Follows dir path) where
  remove w hw := by
    obtain ⟨hs, _⟩ := later_of_no_shells (later_advance (c := c) w) hw
    refine ⟨hs, ?_⟩
    show Function.update (w.advance c).files (Path.join c.cwd path) none path = none
    rw [Path.join_of_isAbsolute hpath, Function.update_self]
  spawn w program args hw := by
    obtain ⟨hs, hf⟩ := later_of_no_shells (later_advance (c := c) w) hw.1
    constructor
    · show (Except.ok ⟨(w.advance c).shells.length⟩ : Except SystemFault Host.Process) = _
      rw [hs]
      rfl
    · refine ⟨.fresh (place c.cwd dir), ?_, Path.join_of_isAbsolute hdir c.cwd, rfl, ?_⟩
      · show (w.advance c).shells ++ [.fresh (place c.cwd dir)] = _
        rw [hs]
        rfl
      · show ((w.advance c).files path, (0 : UInt8)) = (none, 0)
        rw [hf, hw.2]
  now _ _ hw := follows_quiet .now trivial hw
  attach _ _ process hw := follows_quiet (.attach process) trivial hw
  send steps w text hw := by
    obtain ⟨sh, hsh, hd, hp, hrep⟩ := Later.preserves follows_event (later_advance (c := c) w) hw
    refine ⟨sh.enqueue (c.read text), ?_, hd, ?_, hrep⟩
    · show (w.advance c).shells.modify 0 (.enqueue (c.read text)) = _
      rw [hsh]
      rfl
    · rw [WorkerShell.program_enqueue, hp]

/-! ## histories that go as far as they go -/

/-- a command whose status is recorded at `path`, with its status -/
def runAt (path : String) (entry : ShellStep × UInt8) : Option (String × UInt8) :=
  match entry.1 with
  | .command text p => if p = path then some (text, entry.2) else none
  | _ => none

/-- the commands of a history whose status is recorded at `path` -/
def commandRuns (path : String) (history : List (ShellStep × UInt8)) : List (String × UInt8) :=
  history.filterMap (runAt path)

def commandCodes (path : String) (history : List (ShellStep × UInt8)) : List UInt8 :=
  (commandRuns path history).map Prod.snd

/-- the number of records at `path` -/
def recordCount (path : String) (history : List (ShellStep × UInt8)) : Nat :=
  history.countP fun entry => entry.1 = .record path

theorem commandRuns_command (path text : String) (code : UInt8)
    (entries : List (ShellStep × UInt8)) :
    commandRuns path ((.command text path, code) :: entries) =
      (text, code) :: commandRuns path entries := by
  have hrun : runAt path (.command text path, code) = some (text, code) := if_pos rfl
  rw [commandRuns, List.filterMap_cons_some hrun]
  rfl

theorem commandRuns_append (path : String) (as bs : List (ShellStep × UInt8)) :
    commandRuns path (as ++ bs) = commandRuns path as ++ commandRuns path bs :=
  List.filterMap_append

theorem recordCount_append (path : String) (as bs : List (ShellStep × UInt8)) :
    recordCount path (as ++ bs) = recordCount path as + recordCount path bs :=
  List.countP_append

/-- steps that are not about a file, seen from a directory -/
def Spares (dir file : String) (steps : List ShellStep) : Prop :=
  ∀ step ∈ steps, ∀ path, step.path? = some path → place dir path ≠ file

/-- they leave no trace in it -/
theorem replay_of_spares {dir file : String} (entries : List (ShellStep × UInt8))
    (h : Spares dir file (entries.map Prod.fst)) (r : Record) :
    (entries.foldl (replayStep dir file) r).1 = r.1 := by
  induction entries generalizing r with
  | nil => rfl
  | cons entry entries ih =>
    have hentry := h entry.1 (List.mem_map_of_mem List.mem_cons_self)
    rw [List.foldl_cons, ih fun step hs => h step (List.mem_cons_of_mem _ hs)]
    obtain ⟨step, code⟩ := entry
    cases step with
    | other text => rfl
    | command text path => rfl
    | create path => exact if_neg (hentry path rfl)
    | record path => exact if_neg (hentry path rfl)

theorem runs_of_spares {dir path : String} (entries : List (ShellStep × UInt8))
    (h : Spares dir (place dir path) (entries.map Prod.fst)) :
    commandRuns path entries = [] ∧ recordCount path entries = 0 ∧
      .create path ∉ entries.map Prod.fst := by
  have hne : ∀ entry ∈ entries, entry.1.path? ≠ some path := fun entry he hp =>
    h entry.1 (List.mem_map_of_mem he) path hp rfl
  refine ⟨?_, ?_, ?_⟩
  · rw [commandRuns, List.filterMap_eq_nil_iff]
    rintro ⟨step, code⟩ he
    cases step with
    | command text p => exact if_neg fun hp => hne _ he (congrArg some hp)
    | other text => rfl
    | create p => rfl
    | record p => rfl
  · rw [recordCount, List.countP_eq_zero]
    intro entry he hp
    exact hne entry he (by rw [of_decide_eq_true hp]; rfl)
  · intro hmem
    obtain ⟨entry, he, heq⟩ := List.mem_map.mp hmem
    exact hne entry he (by rw [heq]; rfl)

/-- what a history leaves when it starts with the creation of the file at `path` and goes on with
commands and their records for some time -/
structure Recorded (path : String) (commands : List String) (entries : List (ShellStep × UInt8)) :
    Prop where
  /-- the commands that ran are the first of those given, in order -/
  runs : (commandRuns path entries).map Prod.fst <+: commands.map Text.trimEnd
  /-- no record without its command -/
  count : recordCount path entries ≤ (commandCodes path entries).length
  /-- the file holds the recorded statuses behind what it held -/
  file : ∀ dir octets status, (entries.foldl (replayStep dir (place dir path))
    (some octets, status)).1 = some (octets ++
      ((commandCodes path entries).take (recordCount path entries)).flatMap recordOctets)

/-- a command and its record, in front of a history -/
theorem recorded_cons {path command : String} {commands : List String} {code code' : UInt8}
    {entries : List (ShellStep × UInt8)} (h : Recorded path commands entries) :
    Recorded path (command :: commands)
      ((.command (Text.trimEnd command) path, code) :: (.record path, code') :: entries) := by
  have hruns : commandRuns path
      ((.command (Text.trimEnd command) path, code) :: (.record path, code') :: entries) =
      (Text.trimEnd command, code) :: commandRuns path entries := commandRuns_command ..
  have hcodes : commandCodes path
      ((.command (Text.trimEnd command) path, code) :: (.record path, code') :: entries) =
      code :: commandCodes path entries := by
    rw [commandCodes, hruns]
    rfl
  have hcount : recordCount path
      ((.command (Text.trimEnd command) path, code) :: (.record path, code') :: entries) =
      recordCount path entries + 1 := by
    rw [recordCount, List.countP_cons_of_neg (by simp), List.countP_cons_of_pos (by simp)]
    rfl
  refine ⟨?_, ?_, fun dir octets status => ?_⟩
  · rw [hruns, List.map_cons, List.map_cons]
    exact (List.prefix_cons_inj _).mpr h.runs
  · rw [hcodes, hcount, List.length_cons]
    exact Nat.succ_le_succ h.count
  · have hrecord : replayStep dir (place dir path) (some octets, code) (.record path, code') =
        (some (octets ++ recordOctets code), code') := by
      show (if place dir path = place dir path then _ else _, code') = _
      rw [if_pos rfl]
      rfl
    rw [List.foldl_cons, List.foldl_cons, hcodes, hcount, List.take_succ_cons, List.flatMap_cons,
      ← List.append_assoc]
    show (entries.foldl _ (replayStep dir (place dir path) (some octets, code) _)).1 = _
    rw [hrecord]
    exact h.file dir (octets ++ recordOctets code) code'

/-- A shell that has begun with its commands may be behind a record, or behind a command whose
record is still to come. -/
theorem recorded_of_prefix {path : String} (commands : List String)
    (entries : List (ShellStep × UInt8))
    (h : entries.map Prod.fst <+: commandSteps path commands) :
    Recorded path commands entries := by
  induction commands generalizing entries with
  | nil =>
    have hnil : entries = [] := List.map_eq_nil_iff.mp (List.prefix_nil.mp h)
    subst hnil
    exact ⟨List.nil_prefix, Nat.le_refl 0, fun _ octets _ => by
      rw [commandCodes, commandRuns]
      exact congrArg some (List.append_nil octets).symm⟩
  | cons command commands ih =>
    rw [commandSteps_cons] at h
    rcases entries with _ | ⟨⟨step, code⟩, _ | ⟨⟨step', code'⟩, entries⟩⟩
    · exact ⟨List.nil_prefix, Nat.le_refl 0, fun _ octets _ =>
        congrArg some (List.append_nil octets).symm⟩
    · have hstep : step = .command (Text.trimEnd command) path :=
        (List.cons_prefix_cons.mp h).1
      subst hstep
      refine ⟨?_, Nat.zero_le _, fun _ octets _ => congrArg some (List.append_nil octets).symm⟩
      rw [commandRuns_command, List.map_cons, List.map_cons]
      exact (List.prefix_cons_inj _).mpr List.nil_prefix
    · obtain ⟨hstep, h'⟩ := List.cons_prefix_cons.mp h
      obtain ⟨hstep', hrest⟩ := List.cons_prefix_cons.mp h'
      have e : step = .command (Text.trimEnd command) path := hstep
      have e' : step' = .record path := hstep'
      subst e e'
      exact recorded_cons (ih entries hrest)

/-- The two kinds of histories of a session: those that have not come to the creation of the
status file, and those that have. -/
theorem history_cases {dir path : String} {setup : List ShellStep} {commands : List String}
    {history : List (ShellStep × UInt8)} {todo : List ShellStep}
    (hs : Spares dir (place dir path) setup)
    (h : history.map Prod.fst ++ todo = setup ++ .create path :: commandSteps path commands) :
    Spares dir (place dir path) (history.map Prod.fst) ∨
      ∃ before code behind, history = before ++ (.create path, code) :: behind ∧
        Spares dir (place dir path) (before.map Prod.fst) ∧ Recorded path commands behind := by
  rcases List.append_eq_append_iff.mp h with ⟨more, hsetup, _⟩ | ⟨more, hhistory, hrest⟩
  · refine Or.inl fun step hstep => hs step ?_
    rw [hsetup]
    exact List.mem_append_left _ hstep
  · obtain ⟨before, behind, rfl, hbefore, hbehind⟩ := List.map_eq_append_iff.mp hhistory
    cases behind with
    | nil =>
      refine Or.inl ?_
      rw [List.append_nil, hbefore]
      exact hs
    | cons entry behind =>
      obtain ⟨step, code⟩ := entry
      rw [← hbehind, List.map_cons, List.cons_append] at hrest
      obtain ⟨hstep, hcommands⟩ := List.cons.inj hrest
      have e : step = .create path := hstep.symm
      subst e
      refine Or.inr ⟨before, code, behind, rfl, ?_, ?_⟩
      · rw [hbefore]
        exact hs
      · exact recorded_of_prefix commands behind ⟨todo, hcommands.symm⟩

/-! ## the verdict on a history -/

theorem isCode_toNat (code : UInt8) : StatusText.IsCode (code.toNat : Int) := by
  have h := code.toNat_lt
  constructor <;> omega

/-- the text of recorded statuses -/
def recordText (codes : List UInt8) : String :=
  String.ofList ((codes.map fun code => (code.toNat : Int)).flatMap
    (StatusText.codeLine StatusText.posixEnd))

theorem flatMap_recordOctets (codes : List UInt8) :
    codes.flatMap recordOctets = Text.encode (recordText codes) := by
  induction codes with
  | nil => rfl
  | cons code codes ih =>
    have htext : recordText (code :: codes) =
        String.ofList (StatusText.codeLine StatusText.posixEnd code.toNat) ++ recordText codes := by
      rw [recordText, List.map_cons, List.flatMap_cons, String.ofList_append]
      rfl
    rw [List.flatMap_cons, ih, htext, Text.encode_append]
    rfl

/-- recorded statuses are read back -/
theorem readCodes_recordText (codes : List UInt8) :
    StatusText.readCodes (recordText codes) = ⟨codes.map fun code => (code.toNat : Int), false⟩ := by
  rw [StatusText.readCodes, recordText, String.toList_ofList]
  refine StatusText.codesOf_entries_lines StatusText.isLineEnd_posixEnd _ fun c hc => ?_
  obtain ⟨code, _, rfl⟩ := List.mem_map.mp hc
  exact isCode_toNat code

/-- the report on a file of recorded statuses -/
theorem report_of_records (s : Session) (output : String) (codes : List UInt8) :
    s.report output (.ok (codes.flatMap recordOctets)) =
      if codes.length = s.submitted then .ok ⟨output, codes.map fun code => (code.toNat : Int)⟩
      else .error (.error (s.violation codes.length output)) := by
  have hdecode : Text.decode? (codes.flatMap recordOctets) = some (recordText codes) := by
    rw [flatMap_recordOctets]
    exact Text.decode?_encode _
  have hverdict : s.statusVerdict output (.ok (codes.flatMap recordOctets)) =
      s.verdict output ⟨codes.map fun code => (code.toNat : Int), false⟩ := by
    rw [← readCodes_recordText]
    simp only [Session.statusVerdict, hdecode]
  rw [Session.report, hverdict, Session.verdict, Bool.false_or]
  by_cases h : codes.length = s.submitted
  · rw [if_pos h, if_neg (by simpa using h)]
  · rw [if_neg h, if_pos (by simpa using h), List.length_map]

/-- The report that the history of a shell calls for, when `n` commands were submitted: the
statuses of the commands, if the status file was created and every command recorded, and else a
violation with the number of those that were. -/
def expectedReport (worker n : Nat) (path output : String) (history : List (ShellStep × UInt8)) :
    Except Failure SessionReport :=
  if .create path ∈ history.map Prod.fst ∧ recordCount path history = n then
    .ok ⟨output, (commandCodes path history).map fun code => (code.toNat : Int)⟩
  else .error (.error (.protocolViolation worker n (recordCount path history) output))

/-- what stands before the creation of the file does not count -/
theorem runs_of_created {dir path : String} {before : List (ShellStep × UInt8)}
    (h : Spares dir (place dir path) (before.map Prod.fst)) (code : UInt8)
    (behind : List (ShellStep × UInt8)) :
    commandRuns path (before ++ (.create path, code) :: behind) = commandRuns path behind ∧
      recordCount path (before ++ (.create path, code) :: behind) = recordCount path behind := by
  obtain ⟨hruns, hcount, _⟩ := runs_of_spares before h
  constructor
  · rw [commandRuns_append, hruns]
    rfl
  · rw [recordCount_append, hcount, Nat.zero_add, recordCount, List.countP_cons_of_neg (by simp)]
    rfl

/-- the file holds what was recorded since its creation -/
theorem replay_of_created {path : String} {commands : List String}
    {behind : List (ShellStep × UInt8)} (h : Recorded path commands behind) (dir : String)
    (before : List (ShellStep × UInt8)) (code : UInt8) :
    (replay dir (place dir path) (before ++ (.create path, code) :: behind)).1 =
      some (((commandCodes path behind).take (recordCount path behind)).flatMap recordOctets) := by
  have hcreate : ∀ r, replayStep dir (place dir path) r (.create path, code) = (some [], code) := by
    intro r
    show (if place dir path = place dir path then _ else _, code) = _
    rw [if_pos rfl]
  rw [replay, List.foldl_append, List.foldl_cons, hcreate, h.file, List.nil_append]

/-- no more commands run than were given -/
theorem Recorded.length_le {path : String} {commands : List String}
    {entries : List (ShellStep × UInt8)} (h : Recorded path commands entries) :
    (commandCodes path entries).length ≤ commands.length := by
  have hle := h.runs.length_le
  rw [List.length_map, List.length_map] at hle
  rw [commandCodes, List.length_map]
  exact hle

/-- The history of a session has the first of the commands given, in their order, no record without
its command, and none before the creation of the file. -/
structure InOrder (path : String) (commands : List String) (history : List (ShellStep × UInt8)) :
    Prop where
  runs : (commandRuns path history).map Prod.fst <+: commands.map Text.trimEnd
  count : recordCount path history ≤ (commandCodes path history).length
  created : .create path ∉ history.map Prod.fst → recordCount path history = 0

/-- the report on the file that a history leaves -/
theorem report_of_history {dir path : String} {setup : List ShellStep} {commands : List String}
    {history : List (ShellStep × UInt8)} {todo : List ShellStep} (s : Session) (output : String)
    (hn : s.submitted = commands.length) (hs : Spares dir (place dir path) setup)
    (h : history.map Prod.fst ++ todo = setup ++ .create path :: commandSteps path commands) :
    s.report output ((replay dir (place dir path) history).1.elim (.error .notFound) .ok) =
        expectedReport s.worker commands.length path output history ∧
      InOrder path commands history := by
  rcases history_cases hs h with hspares | ⟨before, code, behind, rfl, hbefore, hrec⟩
  · -- the file is still missing
    obtain ⟨hruns, hcount, hcreate⟩ := runs_of_spares history hspares
    refine ⟨?_, ?_, by rw [hcount]; exact Nat.zero_le _, fun _ => hcount⟩
    · rw [replay, replay_of_spares history hspares, expectedReport, if_neg fun h => hcreate h.1,
        hcount, ← hn]
      rfl
    · rw [hruns]
      exact List.nil_prefix
  · obtain ⟨hruns, hcount⟩ := runs_of_created hbefore code behind
    have hcreated : .create path ∈ (before ++ (.create path, code) :: behind).map Prod.fst := by
      rw [List.map_append]
      exact List.mem_append_right _ List.mem_cons_self
    have htake : ((commandCodes path behind).take (recordCount path behind)).length =
        recordCount path behind := List.length_take_of_le hrec.count
    refine ⟨?_, ?_, ?_, fun h => absurd hcreated h⟩
    · rw [expectedReport, commandCodes, hruns, hcount, ← commandCodes, replay_of_created hrec,
        Option.elim_some, report_of_records, htake, hn]
      by_cases hall : recordCount path behind = commands.length
      · rw [if_pos hall, if_pos ⟨hcreated, hall⟩, hall, List.take_of_length_le hrec.length_le]
      · rw [if_neg hall, if_neg fun h => hall h.2, Session.violation, hn]
    · rw [hruns]
      exact hrec.runs
    · rw [hcount, commandCodes, hruns]
      exact hrec.count

/-! ## the session as a whole -/

/-- a session from its start to its end -/
def runSession (worker : Nat) (spec : SessionSpec) (commands : List String) :
    Action SessionReport := do
  let s ← Session.start worker spec
  let s ← s.submitAll commands
  s.finish

/-- the end of a session: where its shell is, and what is reported unless time ran out -/
theorem finish_of_follows {dir path : String} {steps : List ShellStep} (s : Session)
    {w : Workshop φ} (hw : Follows dir path steps w) :
    ∃ result w', outcome (Workshop.environment c) s.finish w = (result, w') ∧
      Follows dir path steps w' ∧
      ((s.timeout ≠ none ∧ ∃ f, f.IsLate ∧ result = .error f) ∨ result = s.reportIn c w') := by
  have hfollows : Follows dir path steps (outcome (Workshop.environment c) s.finish w).2 :=
    Later.preserves follows_event (runState_later s.finish_quiet w) hw
  cases hout : outcome (Workshop.environment c) s.finish w with
  | mk result w' =>
    rw [hout] at hfollows
    refine ⟨result, w', rfl, hfollows, ?_⟩
    cases ht : s.timeout with
    | none =>
      have h := Session.outcome_finish_none (c := c) ht w
      obtain ⟨rfl, rfl⟩ := Prod.mk.inj (hout.symm.trans h)
      exact Or.inr rfl
    | some timeout =>
      rcases Session.outcome_finish (c := c) s w with ⟨f, v, hf, h⟩ | ⟨v, h⟩
      · exact Or.inl ⟨Option.some_ne_none _, f, hf, (Prod.mk.inj (hout.symm.trans h)).1⟩
      · obtain ⟨rfl, rfl⟩ := Prod.mk.inj (hout.symm.trans h)
        exact Or.inr rfl

/-- two commands, of which the second fails, behind a setup that fails too -/
def failingConduct : Conduct Unit where
  read := ShellStep.ofBlock
  prepare _ _ := some 1
  run _ text work := (some (if text = "cc b.c" then 2 else 0), work)
  moves _ := []
  clock tick := tick
  output _ := []
  cwd := "/"

/-- a session of the POSIX family in an absolute directory -/
def sampleSpec : SessionSpec := ⟨"/build", Shell.standard, "set -u", .posix, none⟩

/-- no shell yet, and a status file with one code of an earlier run -/
def staleWorkshop : Workshop Unit :=
  ⟨(), fun path => if path = "/build/retcode_cpu1.txt" then some [48, 10] else none, [], 0⟩

example : (outcome (Workshop.environment failingConduct)
    (runSession 1 sampleSpec ["cc a.c", "cc b.c"]) staleWorkshop).1.toOption =
      some ⟨"", [0, 2]⟩ := by decide +kernel

end ShellWorkers
