import Mathlib.Data.List.Perm.Basic
import ShellWorkers.Proofs.SessionTraces

/-!
# Who has been started and who has been reaped

A process that a host has started stays until it is reaped: by a wait that succeeds, or by a
question that is answered with how it ended.  Its number may be used again afterwards, so what may
be asked about a number depends on what has been asked and answered before: a process is waited
for, asked, or killed only as long as it is there, and its group is killed at most once, for a
reason.

* `spawned`, `reaped`   how often a process has been started and reaped;
* `Unreaped`            it is there;
* `Signalled`           its group has been killed, and it has not been reaped since;
* `KillReason`          why a group may be killed;
* `custodyRules`        a trace as a course of single events, each allowed where it stands;
* `Open`                what holds of the trace while sessions are open.
-/

namespace ShellWorkers

open ShellWorkers.Action

/-! ## processes that come and go -/

/-- the process that an event brings -/
def spawnOf? : HostEvent → Option Host.Process
  | ⟨.spawn _ _ _, .ok process⟩ => some process
  | _ => none

/-- the process that an event takes away -/
def reapOf? : HostEvent → Option Host.Process
  | ⟨.wait process, .ok _⟩ => some process
  | ⟨.poll process, .ok (some _)⟩ => some process
  | _ => none

def spawned (p : Host.Process) (events : List HostEvent) : Nat :=
  (events.filterMap spawnOf?).count p

def reaped (p : Host.Process) (events : List HostEvent) : Nat :=
  (events.filterMap reapOf?).count p

/-- a process of this number is there -/
def Unreaped (p : Host.Process) (past : List HostEvent) : Prop := reaped p past < spawned p past

/-- every process of this number that was started has been reaped, each once -/
def Reaped (p : Host.Process) (past : List HostEvent) : Prop := reaped p past = spawned p past

/-- the request has been asked, and the process not been reaped since -/
def AskedSince (r : Host.Request) (p : Host.Process) (past : List HostEvent) : Prop :=
  ∃ before answer behind, past = before ++ ⟨r, answer⟩ :: behind ∧ reaped p behind = 0

def Signalled (p : Host.Process) : List HostEvent → Prop := AskedSince (.killGroup p) p

def Killed (p : Host.Process) : List HostEvent → Prop := AskedSince (.kill p) p

/-- waiting for a process that is there and has been killed succeeds -/
def ReapsKilled (events : List HostEvent) : Prop :=
  ∀ before p cause behind, events = before ++ ⟨.wait p, .error cause⟩ :: behind →
    Unreaped p before → ¬ Killed p before

section

variable {p : Host.Process} {past : List HostEvent} {e : HostEvent}

theorem spawned_append (p : Host.Process) (first second : List HostEvent) :
    spawned p (first ++ second) = spawned p first + spawned p second := by
  rw [spawned, List.filterMap_append, List.count_append]
  rfl

theorem reaped_append (p : Host.Process) (first second : List HostEvent) :
    reaped p (first ++ second) = reaped p first + reaped p second := by
  rw [reaped, List.filterMap_append, List.count_append]
  rfl

theorem spawned_concat (h : spawnOf? e = none) : spawned p (past ++ [e]) = spawned p past := by
  rw [spawned_append, spawned, spawned, List.filterMap_cons_none h]
  rfl

theorem reaped_concat (h : reapOf? e = none) : reaped p (past ++ [e]) = reaped p past := by
  rw [reaped_append, reaped, reaped, List.filterMap_cons_none h]
  rfl

theorem spawned_concat_spawn {q : Host.Process} (h : spawnOf? e = some q) :
    spawned p (past ++ [e]) = spawned p past + [q].count p := by
  rw [spawned_append, spawned, spawned, List.filterMap_cons_some h]
  rfl

theorem reaped_concat_reap {q : Host.Process} (h : reapOf? e = some q) :
    reaped p (past ++ [e]) = reaped p past + [q].count p := by
  rw [reaped_append, reaped, reaped, List.filterMap_cons_some h]
  rfl

/-- what has been asked since: the last event, or an earlier one if the last one reaps nothing -/
theorem askedSince_concat {r : Host.Request} (h : AskedSince r p (past ++ [e])) :
    e.1 = r ∨ AskedSince r p past ∧ reapOf? e ≠ some p := by
  obtain ⟨before, answer, behind, hpast, hreaped⟩ := h
  rcases List.eq_nil_or_concat' behind with rfl | ⟨init, last, rfl⟩
  · obtain ⟨-, hlast⟩ := List.append_inj' hpast rfl
    exact .inl (by rw [List.head_eq_of_cons_eq hlast])
  · rw [← List.cons_append, ← List.append_assoc] at hpast
    obtain ⟨rfl, hlast⟩ := List.append_inj' hpast rfl
    obtain rfl := List.head_eq_of_cons_eq hlast
    rw [reaped_append] at hreaped
    refine .inr ⟨⟨before, answer, init, rfl, by omega⟩, fun he => ?_⟩
    rw [reaped, reaped, List.filterMap_cons_some he] at hreaped
    simp at hreaped

theorem askedSince_self (r : Host.Request) (p : Host.Process) (past : List HostEvent)
    (answer : Host.Answer r) : AskedSince r p (past ++ [⟨r, answer⟩]) :=
  ⟨past, answer, [], rfl, rfl⟩

theorem AskedSince.concat {r : Host.Request} (h : AskedSince r p past) (he : reapOf? e = none) :
    AskedSince r p (past ++ [e]) := by
  obtain ⟨before, answer, behind, rfl, hreaped⟩ := h
  refine ⟨before, answer, behind ++ [e], by simp, ?_⟩
  rw [reaped_concat he, hreaped]

theorem ReapsKilled.of_append {first second : List HostEvent} (h : ReapsKilled (first ++ second)) :
    ReapsKilled first := by
  rintro before p cause behind rfl
  exact h before p cause (behind ++ second) (by simp)

end

/-! ## what may be asked -/

/-- the process was started, and this was the time -/
def StartedAt (p : Host.Process) (started : Host.Instant) (past : List HostEvent) : Prop :=
  ∃ before program args dir behind,
    past = before ++ ⟨.spawn program args dir, .ok p⟩ :: ⟨.now, started⟩ :: behind

/-- the process was found running, and then the time for it found to be over -/
def TimedOut (timeout : Option Duration) (p : Host.Process) (past : List HostEvent) : Prop :=
  ∃ limit started now before, timeout = some limit ∧ StartedAt p started past ∧
    started + limit.nanos ≤ now ∧ past = before ++ [⟨.poll p, .ok none⟩, ⟨.now, now⟩]

/-- the last thing to happen was that waiting for the process failed -/
def WaitFailed (p : Host.Process) (past : List HostEvent) : Prop :=
  ∃ before cause, past = before ++ [⟨.wait p, .error cause⟩] ∨
    past = before ++ [⟨.poll p, .error cause⟩]

/-- the last thing to happen was that the queue of a process was closed that is not waited for -/
def Dropped (p : Host.Process) (past : List HostEvent) : Prop :=
  ∃ before, past = before ++ [⟨.closeInput p, ()⟩]

/-- why the group of a process may be killed -/
def KillReason (timeout : Option Duration) (p : Host.Process) (past : List HostEvent) : Prop :=
  TimedOut timeout p past ∨ WaitFailed p past ∨ Dropped p past

/-- whether a process may be asked about, or killed, behind what is past -/
def Allowed (timeout : Option Duration) (past : List HostEvent) : Host.Request → Prop
  | .wait p => Unreaped p past
  | .poll p => Unreaped p past
  | .kill p => Unreaped p past
  | .killGroup p => Unreaped p past ∧ ¬ Signalled p past ∧ KillReason timeout p past
  | _ => True

/-- single events as steps, each allowed if what was killed so far could be reaped -/
def custodyRules (timeout : Option Duration) : Rules HostEvent where
  Spells e events := events = [e]
  Licensed past e := ReapsKilled past → Allowed timeout past e.1

/-- the events of a course of single events are its steps -/
theorem events_of_custody {timeout : Option Duration} {past steps events : List HostEvent}
    (h : (custodyRules timeout).Course past steps events) : events = steps := by
  induction h with
  | nil past => rfl
  | cons _ hspells _ ih =>
    rw [show _ = [_] from hspells, ih]
    rfl

/-! ## while sessions are open -/

/-- the processes that are there are these, and the group of none has been killed -/
structure Calm (processes : List Host.Process) (past : List HostEvent) : Prop where
  counted : ∀ p, spawned p past = reaped p past + processes.count p
  unsignalled : ∀ p, ¬ Signalled p past

/-- the sessions have this timeout, from the start of their shells on -/
def Timed (timeout : Option Duration) (sessions : List Session) (past : List HostEvent) : Prop :=
  ∀ s ∈ sessions, s.timeout = timeout ∧ StartedAt s.process s.started past

/-- the shells that are there are those of the sessions -/
structure Open (timeout : Option Duration) (sessions : List Session)
    (past : List HostEvent) : Prop where
  calm : Calm (sessions.map Session.process) past
  timed : Timed timeout sessions past

/-- the group of the first shell has been killed, and it is there -/
structure Dying (timeout : Option Duration) (s : Session) (rest : List Session)
    (past : List HostEvent) : Prop where
  counted : ∀ p, spawned p past = reaped p past + ((s :: rest).map Session.process).count p
  only : ∀ p, Signalled p past → p = s.process
  timed : Timed timeout rest past

/-- the requests that no process comes or goes by, and none is killed -/
def IsHarmless : Host.Request → Prop
  | .spawn _ _ _ => False
  | .wait _ => False
  | .poll _ => False
  | .killGroup _ => False
  | .kill _ => False
  | _ => True

section

variable {timeout : Option Duration} {processes : List Host.Process} {sessions : List Session}
  {past : List HostEvent} {e : HostEvent}

theorem spawnOf?_harmless (h : IsHarmless e.1) : spawnOf? e = none := by
  obtain ⟨r, answer⟩ := e
  cases r <;> first | rfl | exact h.elim

theorem reapOf?_harmless (h : IsHarmless e.1) : reapOf? e = none := by
  obtain ⟨r, answer⟩ := e
  cases r <;> first | rfl | exact h.elim

theorem StartedAt.append {p : Host.Process} {started : Host.Instant}
    (h : StartedAt p started past) (more : List HostEvent) :
    StartedAt p started (past ++ more) := by
  obtain ⟨before, program, args, dir, behind, rfl⟩ := h
  exact ⟨before, program, args, dir, behind ++ more, by simp⟩

theorem Timed.append (h : Timed timeout sessions past) (more : List HostEvent) :
    Timed timeout sessions (past ++ more) :=
  fun s hs => ⟨(h s hs).1, (h s hs).2.append more⟩

/-- events by which no process comes or goes and no group is killed leave it calm -/
theorem Calm.concat (h : Calm processes past) (hspawn : spawnOf? e = none)
    (hreap : reapOf? e = none) (hsignal : ∀ p, e.1 ≠ .killGroup p) :
    Calm processes (past ++ [e]) := by
  refine ⟨fun p => ?_, fun p hp => ?_⟩
  · rw [spawned_concat hspawn, reaped_concat hreap, h.counted]
  · rcases askedSince_concat hp with he | ⟨hp, -⟩
    · exact hsignal p he
    · exact h.unsignalled p hp

theorem Open.concat (h : Open timeout sessions past) (hspawn : spawnOf? e = none)
    (hreap : reapOf? e = none) (hsignal : ∀ p, e.1 ≠ .killGroup p) :
    Open timeout sessions (past ++ [e]) :=
  ⟨h.calm.concat hspawn hreap hsignal, h.timed.append [e]⟩

theorem Open.concat_harmless (h : Open timeout sessions past) (he : IsHarmless e.1) :
    Open timeout sessions (past ++ [e]) := by
  refine h.concat (spawnOf?_harmless he) (reapOf?_harmless he) fun p hp => ?_
  rw [hp] at he
  exact he

/-- a shell that is reaped is no longer there -/
theorem Open.concat_reap {s : Session} (h : Open timeout (s :: sessions) past)
    (hspawn : spawnOf? e = none) (hreap : reapOf? e = some s.process)
    (hsignal : ∀ p, e.1 ≠ .killGroup p) : Open timeout sessions (past ++ [e]) := by
  refine ⟨⟨fun p => ?_, fun p hp => ?_⟩, ?_⟩
  · have hp := h.calm.counted p
    rw [List.map_cons, List.count_cons] at hp
    rw [spawned_concat hspawn, reaped_concat_reap hreap, hp, List.count_singleton, Nat.add_assoc,
      Nat.add_comm (List.count _ _)]
  · rcases askedSince_concat hp with he | ⟨hp, -⟩
    · exact hsignal p he
    · exact h.calm.unsignalled p hp
  · exact fun t ht => (h.timed.append [e]) t (List.mem_cons_of_mem _ ht)

theorem Open.unreaped {s : Session} (h : Open timeout (s :: sessions) past) :
    Unreaped s.process past := by
  have hp := h.calm.counted s.process
  rw [List.map_cons, List.count_cons_self] at hp
  unfold Unreaped
  omega

/-- a shell whose group is killed is still there -/
theorem Open.concat_killGroup {s : Session} (h : Open timeout (s :: sessions) past)
    {answer : Host.Answer (.killGroup s.process)} :
    Dying timeout s sessions (past ++ [⟨.killGroup s.process, answer⟩]) := by
  refine ⟨fun p => ?_, fun p hs => ?_, ?_⟩
  · rw [spawned_concat rfl, reaped_concat rfl, h.calm.counted]
  · rcases askedSince_concat hs with he | ⟨hs, -⟩
    · exact (Host.Request.killGroup.inj he).symm
    · exact absurd hs (h.calm.unsignalled p)
  · exact fun t ht => (h.timed.append _) t (List.mem_cons_of_mem _ ht)

theorem Dying.unreaped {s : Session} (h : Dying timeout s sessions past) :
    Unreaped s.process past := by
  have hp := h.counted s.process
  rw [List.map_cons, List.count_cons_self] at hp
  unfold Unreaped
  omega

theorem Dying.concat_kill {s : Session} (h : Dying timeout s sessions past)
    {answer : Host.Answer (.kill s.process)} :
    Dying timeout s sessions (past ++ [⟨.kill s.process, answer⟩]) := by
  refine ⟨fun p => ?_, fun p hs => ?_, h.timed.append _⟩
  · rw [spawned_concat rfl, reaped_concat rfl, h.counted]
  · rcases askedSince_concat hs with he | ⟨hs, -⟩
    · exact nomatch he
    · exact h.only p hs

theorem Dying.concat_wait {s : Session} {status : Host.ExitStatus}
    (h : Dying timeout s sessions past) :
    Open timeout sessions (past ++ [⟨.wait s.process, .ok status⟩]) := by
  refine ⟨⟨fun p => ?_, fun p hs => ?_⟩, h.timed.append _⟩
  · have hp := h.counted p
    rw [List.map_cons, List.count_cons] at hp
    rw [spawned_concat rfl, reaped_concat_reap rfl, hp, List.count_singleton, Nat.add_assoc,
      Nat.add_comm (List.count _ _)]
  · rcases askedSince_concat hs with he | ⟨hs, hreap⟩
    · exact nomatch he
    · exact hreap (congrArg some (h.only p hs).symm)

/-- only the processes, the times and the timeouts of sessions matter, and not their order -/
theorem Open.perm {sessions' : List Session} (h : Open timeout sessions past)
    (hperm : sessions.Perm sessions') : Open timeout sessions' past := by
  refine ⟨⟨fun p => ?_, h.calm.unsignalled⟩, fun s hs => h.timed s (hperm.mem_iff.mpr hs)⟩
  rw [h.calm.counted, (hperm.map Session.process).count_eq]

/-- nothing is left of it when no session is open -/
theorem Open.reaped (h : Open timeout [] past) (p : Host.Process) : Reaped p past := by
  have hp := h.calm.counted p
  rw [List.map_nil, List.count_nil, Nat.add_zero] at hp
  exact hp.symm

theorem open_nil (timeout : Option Duration) : Open timeout [] [] := by
  refine ⟨⟨fun p => rfl, fun p hp => ?_⟩, fun s hs => absurd hs List.not_mem_nil⟩
  obtain ⟨before, answer, behind, hpast, -⟩ := hp
  simp at hpast

end

end ShellWorkers
