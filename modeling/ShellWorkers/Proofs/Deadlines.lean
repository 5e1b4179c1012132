import Mathlib.Data.List.Chain
import ShellWorkers.Proofs.BuildSteps
import ShellWorkers.Proofs.FanOut
import ShellWorkers.Proofs.Reaping
import ShellWorkers.Proofs.SessionRuns

/-!
# Deadlines

A session with a timeout asks again and again whether its shell has ended, and reads the clock
whenever it has not.  What it comes to is read off what it saw, in order: the answers about its
shell and the readings of the clock.

* `Sight`, `sights`        what a trace shows of a process and of the clock;
* `Expires`                the shell was seen running, and the clock at or past the deadline, for
                           the first time;
* `runs_awaitUntil`        every wait is a row of polls before the deadline, and a last poll;
* `KeepsTime`              the clock never goes back, and pauses last as long as they should;
* `Punctual`               what follows for a session from what it saw;
* `TellsEnds`              a host that answers truly about the processes that have ended;
* `timeouts_are_due`       no timeout comes before its deadline, and none to a shell that has ended.
-/

namespace ShellWorkers

open ShellWorkers.Action

/-! ## what a wait sees -/

inductive Sight where
  | running
  | ended (status : Host.ExitStatus)
  | failed (cause : SystemFault)
  | clock (now : Host.Instant)

def Sight.ofPoll : Except SystemFault (Option Host.ExitStatus) → Sight
  | .ok none => .running
  | .ok (some status) => .ended status
  | .error cause => .failed cause

/-- what an event shows of a process or of the clock -/
def sight? (p : Host.Process) : HostEvent → Option Sight
  | ⟨.poll q, answer⟩ => if q = p then some (.ofPoll answer) else none
  | ⟨.now, now⟩ => some (.clock now)
  | _ => none

def sights (p : Host.Process) (events : List HostEvent) : List Sight := events.filterMap (sight? p)

/-- the process was seen running, and the clock was read behind it -/
def runningAt (readings : List Host.Instant) : List Sight :=
  readings.flatMap fun now => [.running, .clock now]

/-- The process was always seen running; the last reading of the clock was at or past the deadline,
and the readings before were not. -/
def Expires (deadline : Host.Instant) (seen : List Sight) : Prop :=
  ∃ readings now, (∀ t ∈ readings, t < deadline) ∧ deadline ≤ now ∧
    seen = runningAt (readings ++ [now])

/-- a process is told to die -/
def IsKill : Host.Request → Prop
  | .killGroup _ => True
  | .kill _ => True
  | _ => False

/-- neither about a process nor about the clock -/
def IsUnseeing : Host.Request → Prop
  | .poll _ => False
  | .now => False
  | _ => True

section

variable {p : Host.Process} {first second events : List HostEvent} {readings : List Host.Instant}

theorem sights_append : sights p (first ++ second) = sights p first ++ sights p second :=
  List.filterMap_append

theorem sights_eq_nil (h : ∀ e ∈ events, IsUnseeing e.1) : sights p events = [] := by
  refine List.filterMap_eq_nil_iff.mpr fun ⟨r, answer⟩ he => ?_
  cases r with
  | poll q => exact (h _ he).elim
  | now => exact (h _ he).elim
  | _ => rfl

theorem clock_mem_runningAt {now : Host.Instant} :
    .clock now ∈ runningAt readings ↔ now ∈ readings := by
  simp [runningAt]

theorem ended_notMem_runningAt {status : Host.ExitStatus} : .ended status ∉ runningAt readings := by
  simp [runningAt]

theorem failed_notMem_runningAt {cause : SystemFault} : .failed cause ∉ runningAt readings := by
  simp [runningAt]

theorem Expires.ended_notMem {deadline : Host.Instant} {seen : List Sight}
    (h : Expires deadline seen) (status : Host.ExitStatus) : .ended status ∉ seen := by
  obtain ⟨_, _, _, _, rfl⟩ := h
  exact ended_notMem_runningAt

theorem Expires.failed_notMem {deadline : Host.Instant} {seen : List Sight}
    (h : Expires deadline seen) (cause : SystemFault) : .failed cause ∉ seen := by
  obtain ⟨_, _, _, _, rfl⟩ := h
  exact failed_notMem_runningAt

theorem runningAt_append {more : List Host.Instant} :
    runningAt (readings ++ more) = runningAt readings ++ runningAt more :=
  List.flatMap_append

end

/-! ## the polls of a wait -/

namespace Session

section

variable {p : Host.Process} {deadline : Host.Instant} {readings : List Host.Instant}

/-- a poll that finds the process running, and the clock read behind it -/
def foundRunning (p : Host.Process) (now : Host.Instant) : List HostEvent :=
  [⟨.poll p, .ok none⟩, ⟨.now, now⟩]

/-- the polls that do not end a wait, each with the pause behind it -/
def waited (p : Host.Process) (readings : List Host.Instant) : List HostEvent :=
  readings.flatMap fun now => foundRunning p now ++ [⟨.pause pollInterval, ()⟩]

/-- the poll that ends a wait, and how the wait ends -/
inductive LastPoll (p : Host.Process) (deadline : Host.Instant) :
    List HostEvent → WaitResult → Prop where
  | ended (status : Host.ExitStatus) :
    LastPoll p deadline [⟨.poll p, .ok (some status)⟩] (.ended status)
  | expired (now : Host.Instant) (late : deadline ≤ now) :
    LastPoll p deadline (foundRunning p now) .expired
  | failed (cause : SystemFault) : LastPoll p deadline [⟨.poll p, .error cause⟩] (.failed cause)

/-- Every wait is a row of polls before the deadline and a last poll, unless the limit is
reached. -/
theorem runs_awaitUntil {limit : Nat} {events : List HostEvent} {result : Option WaitResult}
    (h : Interaction.Runs (awaitUntil p deadline limit) events result) :
    ∃ readings, (∀ t ∈ readings, t < deadline) ∧
      ((∃ found last, LastPoll p deadline last found ∧ events = waited p readings ++ last ∧
          result = some found) ∨
        readings.length = limit ∧ events = waited p readings ∧ result = none) := by
  induction limit generalizing events with
  | zero =>
    obtain ⟨rfl, rfl⟩ := Interaction.runs_done h
    exact ⟨[], List.forall_mem_nil _, Or.inr ⟨rfl, rfl, rfl⟩⟩
  | succ limit ih =>
    obtain ⟨answer, rest, rfl, hrest⟩ := Interaction.runs_ask_bind h
    rcases answer with cause | _ | status
    · obtain ⟨rfl, rfl⟩ := Interaction.runs_done hrest
      exact ⟨[], List.forall_mem_nil _, Or.inl ⟨_, _, .failed cause, rfl, rfl⟩⟩
    · obtain ⟨now, rest, rfl, hnow⟩ := Interaction.runs_ask_bind hrest
      by_cases hlate : deadline ≤ now
      · rw [if_pos hlate] at hnow
        obtain ⟨rfl, rfl⟩ := Interaction.runs_done hnow
        exact ⟨[], List.forall_mem_nil _, Or.inl ⟨_, _, .expired now hlate, rfl, rfl⟩⟩
      · rw [if_neg hlate] at hnow
        obtain ⟨_, rest, rfl, hagain⟩ := Interaction.runs_ask_bind hnow
        obtain ⟨readings, hbefore, hend⟩ := ih hagain
        refine ⟨now :: readings, List.forall_mem_cons.mpr ⟨Nat.lt_of_not_le hlate, hbefore⟩, ?_⟩
        rcases hend with ⟨found, last, hlast, rfl, rfl⟩ | ⟨hlength, rfl, rfl⟩
        · exact Or.inl ⟨found, last, hlast, rfl, rfl⟩
        · exact Or.inr ⟨congrArg (· + 1) hlength, rfl, rfl⟩
    · obtain ⟨rfl, rfl⟩ := Interaction.runs_done hrest
      exact ⟨[], List.forall_mem_nil _, Or.inl ⟨_, _, .ended status, rfl, rfl⟩⟩

theorem sights_foundRunning {now : Host.Instant} :
    sights p (foundRunning p now) = [.running, .clock now] := by
  simp [sights, foundRunning, sight?, Sight.ofPoll]

theorem sights_foundEnded {status : Host.ExitStatus} :
    sights p [⟨.poll p, .ok (some status)⟩] = [.ended status] := by
  simp [sights, sight?, Sight.ofPoll]

theorem sights_foundFailed {cause : SystemFault} :
    sights p [⟨.poll p, .error cause⟩] = [.failed cause] := by
  simp [sights, sight?, Sight.ofPoll]

theorem sights_waited : sights p (waited p readings) = runningAt readings := by
  induction readings with
  | nil => rfl
  | cons now readings ih =>
    have hpause : sights p [⟨.pause pollInterval, ()⟩] = [] := rfl
    rw [waited, List.flatMap_cons, sights_append, sights_append, sights_foundRunning, hpause]
    exact congrArg _ ih

theorem not_isKill_of_mem_waited : ∀ e ∈ waited p readings, ¬ IsKill e.1 := by
  intro e he
  obtain ⟨now, _, he⟩ := List.mem_flatMap.mp he
  simp only [foundRunning, List.cons_append, List.nil_append, List.mem_cons, List.not_mem_nil,
    or_false] at he
  rcases he with rfl | rfl | rfl <;> exact id

theorem LastPoll.not_isKill {last : List HostEvent} {found : WaitResult}
    (h : LastPoll p deadline last found) : ∀ e ∈ last, ¬ IsKill e.1 := by
  intro e he
  cases h with
  | expired now late =>
    simp only [foundRunning, List.mem_cons, List.not_mem_nil, or_false] at he
    rcases he with rfl | rfl <;> exact id
  | _ =>
    rw [List.mem_singleton.mp he]
    exact id

end

/-! ## the end of a session with a deadline -/

theorem terminate_unseeing (s : Session) : Asks IsUnseeing s.terminate :=
  asks_bind (asks_request trivial) fun _ => asks_bind (asks_request trivial) fun _ =>
    asks_bind (asks_request trivial) fun _ => asks_pure _

theorem abandon_unseeing (s : Session) : Asks IsUnseeing s.abandon :=
  asks_bind (asks_request trivial) fun _ => s.terminate_unseeing

theorem conclude_unseeing (s : Session) (found : WaitResult) :
    Asks IsUnseeing (s.conclude found) := by
  have houtput : Asks IsUnseeing s.outputText := asks_bind (asks_request trivial) fun _ =>
    asks_pure _
  cases found with
  | failed cause => exact asks_bind s.terminate_unseeing fun _ => asks_fail _
  | expired =>
    exact asks_bind s.terminate_unseeing fun _ => asks_bind houtput fun _ => asks_fail _
  | ended status =>
    refine asks_bind houtput fun output => asks_bind (asks_request trivial) fun read => ?_
    cases s.statusVerdict output read with
    | error e => exact asks_fail _
    | ok codes => exact asks_pure _

/-- a result that says that a shell was killed for its timeout -/
def ReportsTimeout (result : Except Failure SessionReport) : Prop :=
  ∃ worker after output, result = .error (.error (.timeout worker after output))

theorem not_reportsTimeout_report (s : Session) (output : String)
    (read : Except SystemFault (List UInt8)) : ¬ ReportsTimeout (s.report output read) := by
  rintro ⟨worker, after, text, h⟩
  unfold report at h
  split at h
  · next e hverdict =>
    obtain rfl : e = .timeout worker after text := by simpa using h
    unfold statusVerdict verdict at hverdict
    grind [violation]
  · exact nomatch h

section

variable {s : Session} {events : List HostEvent} {result : Except Failure SessionReport}

theorem runs_conclude_ended {status : Host.ExitStatus}
    (h : Runs (s.conclude (.ended status)) events result) :
    ∃ octets read, events = [⟨.output s.process, octets⟩, ⟨.readFile s.statusPath, read⟩] ∧
      result = s.report (Text.decodeLossy octets) read := by
  rcases runs_bind h with ⟨e, rfl, houtput⟩ | ⟨output, first, rest, rfl, houtput, hread⟩
  · obtain ⟨_, _, rfl, hpure⟩ := runs_request_bind houtput
    exact nomatch (runs_pure hpure).2
  obtain ⟨octets, _, rfl, hpure⟩ := runs_request_bind houtput
  obtain ⟨rfl, hoctets⟩ := runs_pure hpure
  obtain rfl := Except.ok.inj hoctets
  obtain ⟨read, rest, rfl, hverdict⟩ := runs_request_bind hread
  refine ⟨octets, read, ?_⟩
  rw [report]
  cases hv : s.statusVerdict (Text.decodeLossy octets) read with
  | error e =>
    rw [hv] at hverdict
    obtain ⟨rfl, rfl⟩ := runs_fail hverdict
    exact ⟨rfl, rfl⟩
  | ok codes =>
    rw [hv] at hverdict
    obtain ⟨rfl, rfl⟩ := runs_pure hverdict
    exact ⟨rfl, rfl⟩

theorem runs_conclude_expired (h : Runs (s.conclude .expired) events result) :
    ReportsTimeout result := by
  rcases runs_bind h with ⟨e, _, hkill⟩ | ⟨_, _, _, _, _, hrest⟩
  · exact (s.terminate_endsIn (P := fun _ => False) _ _ hkill).elim
  rcases runs_bind hrest with ⟨e, _, houtput⟩ | ⟨output, _, _, _, _, hfail⟩
  · exact (s.outputText_endsIn (P := fun _ => False) _ _ houtput).elim
  · exact ⟨_, _, output, (runs_fail hfail).2⟩

theorem runs_conclude_failed {cause : SystemFault}
    (h : Runs (s.conclude (.failed cause)) events result) :
    result = .error (.error (.io cause)) := by
  rcases runs_bind h with ⟨e, _, hkill⟩ | ⟨_, _, _, _, _, hfail⟩
  · exact (s.terminate_endsIn (P := fun _ => False) _ _ hkill).elim
  · exact (runs_fail hfail).2

/-- the wait for a shell with a deadline: its polls, and the shell's end when they are too many -/
theorem runs_await_deadline {limit : Duration} {deadline : Host.Instant}
    {result : Except Failure WaitResult} (hlimit : s.timeout = some limit)
    (hdeadline : deadline? s.started limit = some deadline) (h : Runs s.await events result) :
    ∃ readings, (∀ t ∈ readings, t < deadline) ∧
      ((∃ found last, LastPoll s.process deadline last found ∧
          events = waited s.process readings ++ last ∧ result = .ok found) ∨
        ∃ tail, readings.length = pollLimit ∧ events = waited s.process readings ++ tail ∧
          Runs s.abandon tail (.ok ()) ∧ result = .error .clockStopped) := by
  simp only [await, hlimit, hdeadline] at h
  rcases runs_bind h with ⟨e, _, hwait⟩ | ⟨waited?, first, second, rfl, hwait, hrest⟩
  · obtain ⟨_, he, _⟩ := runs_lift hwait
    cases he
  obtain ⟨_, he, hpolls⟩ := runs_lift hwait
  obtain rfl := Except.ok.inj he
  obtain ⟨readings, hbefore, hend⟩ := runs_awaitUntil hpolls
  refine ⟨readings, hbefore, ?_⟩
  rcases hend with ⟨found, last, hlast, rfl, rfl⟩ | ⟨hlength, rfl, rfl⟩
  · obtain ⟨rfl, rfl⟩ := runs_pure hrest
    exact Or.inl ⟨found, last, hlast, List.append_nil _, rfl⟩
  · rcases runs_bind hrest with ⟨e, _, habandon⟩ | ⟨_, tail, none, rfl, habandon, hthrow⟩
    · exact (s.abandon_endsIn (P := fun _ => False) _ _ habandon).elim
    · obtain ⟨rfl, rfl⟩ := runs_throw hthrow
      exact Or.inr ⟨tail, hlength, by rw [List.append_nil], habandon, rfl⟩

/-- the trace of the end of a session: its input is closed, its shell is waited for, and the rest -/
def finishTrace (p : Host.Process) (readings : List Host.Instant) (last tail : List HostEvent) :
    List HostEvent :=
  ⟨.closeInput p, ()⟩ :: (waited p readings ++ last) ++ tail

/-- the polls were as many as may be asked -/
abbrev LimitReached (s : Session) (readings : List Host.Instant) (last tail : List HostEvent)
    (result : Except Failure SessionReport) : Prop :=
  last = [] ∧ readings.length = pollLimit ∧ Runs s.abandon tail (.ok ()) ∧
    result = .error .clockStopped

/-- the end of a session with a deadline: its polls, and what is done behind them -/
theorem runs_finish_deadline {limit : Duration} {deadline : Host.Instant}
    (hlimit : s.timeout = some limit) (hdeadline : deadline? s.started limit = some deadline)
    (h : Runs s.finish events result) :
    ∃ readings last tail, (∀ t ∈ readings, t < deadline) ∧
      events = finishTrace s.process readings last tail ∧
      ((∃ found, LastPoll s.process deadline last found ∧ Runs (s.conclude found) tail result) ∨
        LimitReached s readings last tail result) := by
  rw [finish_eq] at h
  obtain ⟨_, rest, rfl, hrest⟩ := runs_request_bind h
  rcases runs_bind hrest with ⟨e, rfl, hawait⟩ | ⟨found, first, tail, rfl, hawait, hconclude⟩
  · obtain ⟨readings, hbefore, hend⟩ := runs_await_deadline hlimit hdeadline hawait
    rcases hend with ⟨_, _, _, _, he⟩ | ⟨tail, hlength, rfl, habandon, he⟩
    · exact nomatch he
    · obtain rfl := Except.error.inj he
      refine ⟨readings, [], tail, hbefore, ?_, Or.inr ⟨rfl, hlength, habandon, rfl⟩⟩
      rw [finishTrace, List.append_nil]
      rfl
  · obtain ⟨readings, hbefore, hend⟩ := runs_await_deadline hlimit hdeadline hawait
    rcases hend with ⟨_, last, hlast, rfl, he⟩ | ⟨_, _, _, _, he⟩
    · obtain rfl := Except.ok.inj he
      exact ⟨readings, last, tail, hbefore, rfl, Or.inl ⟨_, hlast, hconclude⟩⟩
    · exact nomatch he

/-- what a session with a deadline saw ends with its last poll -/
theorem sights_finish {readings : List Host.Instant} {last tail : List HostEvent}
    (htail : ∀ e ∈ tail, IsUnseeing e.1) :
    sights s.process (finishTrace s.process readings last tail) =
      runningAt readings ++ sights s.process last := by
  have hclose : sights s.process [⟨.closeInput s.process, ()⟩] = [] := rfl
  rw [finishTrace, ← List.singleton_append, sights_append, sights_append, sights_append, sights_eq_nil htail,
    hclose, sights_waited, List.nil_append, List.append_nil]

/-! ## a clock that goes on -/

end

end Session

/-- how long the pauses should last, all together -/
def paused (events : List HostEvent) : Nat :=
  (events.map fun e => match e.1 with
    | .pause amount => amount.nanos
    | _ => 0).sum

/-- The clock never goes back, and no pause is shorter than it should be. -/
def KeepsTime (events : List HostEvent) : Prop :=
  ∀ before t between t' behind,
    events = before ++ ⟨.now, t⟩ :: between ++ ⟨.now, t'⟩ :: behind → t + paused between ≤ t'

theorem KeepsTime.of_append {first events second : List HostEvent}
    (h : KeepsTime (first ++ events ++ second)) : KeepsTime events := by
  intro before t between t' behind hsplit
  refine h (first ++ before) t between t' (behind ++ second) ?_
  rw [hsplit]
  simp only [List.append_assoc, List.cons_append]

namespace Session

/-- between two readings there is a pause -/
theorem isChain_of_keepsTime {p : Host.Process} {readings : List Host.Instant}
    (h : KeepsTime (waited p readings)) :
    readings.IsChain fun t t' => t + pollInterval.nanos ≤ t' := by
  induction readings with
  | nil => exact .nil
  | cons t readings ih =>
    have hrest : KeepsTime (foundRunning p t ++ [⟨.pause pollInterval, ()⟩] ++ waited p readings ++
        []) := by
      rw [List.append_nil]
      exact h
    cases readings with
    | nil => exact .singleton t
    | cons t' readings =>
      have hpause : paused [⟨.pause pollInterval, ()⟩, ⟨.poll p, .ok none⟩] =
          pollInterval.nanos := by simp [paused]
      have hnext := h [⟨.poll p, .ok none⟩] t [⟨.pause pollInterval, ()⟩, ⟨.poll p, .ok none⟩] t'
        (⟨.pause pollInterval, ()⟩ :: waited p readings) rfl
      rw [hpause] at hnext
      exact .cons_cons hnext (ih hrest.of_append)

/-- a row of readings has come as far as its pauses -/
theorem exists_late_reading {interval t : Nat} {readings : List Nat}
    (h : (t :: readings).IsChain fun t t' => t + interval ≤ t') :
    ∃ last ∈ t :: readings, t + readings.length * interval ≤ last := by
  induction readings generalizing t with
  | nil => exact ⟨t, List.mem_cons_self, by simp⟩
  | cons t' readings ih =>
    obtain ⟨hfirst, hrest⟩ := List.isChain_cons_cons.mp h
    obtain ⟨last, hmem, hlast⟩ := ih hrest
    refine ⟨last, List.mem_cons_of_mem _ hmem, ?_⟩
    rw [List.length_cons, Nat.succ_mul]
    omega

theorem lt_of_deadline?_eq_some {started deadline : Nat} {limit : Duration}
    (h : deadline? started limit = some deadline) : deadline < Nat.pow 2 63 * 1000000000 := by
  obtain rfl := deadline?_eq_some h
  simp only [deadline?] at h
  split at h
  · next hfits => exact Nat.lt_mul_of_div_lt hfits (by decide)
  · cases h

/-- no clock is before a deadline for as many polls as may be asked -/
theorem length_ne_pollLimit_of_keepsTime {p : Host.Process} {readings : List Nat}
    {started deadline : Nat} {limit : Duration}
    (hdeadline : deadline? started limit = some deadline) (hbefore : ∀ t ∈ readings, t < deadline)
    (h : KeepsTime (waited p readings)) : readings.length ≠ pollLimit := by
  intro hlength
  have hlimit : pollLimit = 4722366482869645213696 := rfl
  have hinterval : pollInterval.nanos = 10000000 := rfl
  cases readings with
  | nil => exact absurd (hlength.trans hlimit) (by decide)
  | cons t readings =>
    obtain ⟨last, hmem, hlast⟩ := exists_late_reading (isChain_of_keepsTime h)
    have hearly := hbefore last hmem
    have hbound := lt_of_deadline?_eq_some hdeadline
    have hpow : Nat.pow 2 63 = 9223372036854775808 := rfl
    rw [List.length_cons] at hlength
    rw [hinterval] at hlast
    rw [hpow] at hbound
    omega

end Session

/-! ## every trace of a session with a deadline -/

/-- what a session with a deadline keeps to, whatever it is answered -/
structure Punctual (s : Session) (deadline : Host.Instant) (events : List HostEvent)
    (result : Except Failure SessionReport) : Prop where
  timeout_iff : Session.ReportsTimeout result ↔ Expires deadline (sights s.process events)
  /-- at the first poll that finds the shell ended, the session ends with a report, however late
  that poll is -/
  ended : ∀ status, .ended status ∈ sights s.process events → ∃ readings octets read,
    (∀ t ∈ readings, t < deadline) ∧
      sights s.process events = runningAt readings ++ [.ended status] ∧
      [⟨.output s.process, octets⟩, ⟨.readFile s.statusPath, read⟩] <:+ events ∧
      result = s.report (Text.decodeLossy octets) read
  stops : KeepsTime events → result ≠ .error .clockStopped
  /-- a shell is killed behind its deadline, or because it cannot be asked any more -/
  kills : KeepsTime events → ∀ before e behind, events = before ++ e :: behind → IsKill e.1 →
    (∃ now, deadline ≤ now ∧ .clock now ∈ sights s.process before) ∨
      ∃ cause, .failed cause ∈ sights s.process before

/-- what does not stand in the first part of a list stands behind all of it -/
theorem exists_eq_append_of_notMem {α : Type} {first second before behind : List α} {a : α}
    (h : first ++ second = before ++ a :: behind) (ha : a ∉ first) :
    ∃ more, before = first ++ more := by
  rcases List.append_eq_append_iff.mp h with ⟨more, hbefore, _⟩ | ⟨rest, hfirst, hrest⟩
  · exact ⟨more, hbefore⟩
  · cases rest with
    | nil => exact ⟨[], by rw [List.append_nil, hfirst, List.append_nil]⟩
    | cons b rest =>
      obtain rfl := (List.cons.inj hrest).1
      exact absurd (hfirst ▸ List.mem_append_right before List.mem_cons_self) ha

namespace Session

section

variable {s : Session} {events : List HostEvent} {result : Except Failure SessionReport}

theorem runs_conclude_unseeing {found : WaitResult} (h : Runs (s.conclude found) events result) :
    ∀ e ∈ events, IsUnseeing e.1 :=
  Interaction.Asks.of_runs (s.conclude_unseeing found) h

/-- whoever kills its shell has seen all there was to see before -/
theorem sights_before_kill {p : Host.Process} {deadline : Host.Instant}
    {readings : List Host.Instant} {last tail before behind : List HostEvent} {e : HostEvent}
    {found : WaitResult} (hlast : LastPoll p deadline last found)
    (hsplit : finishTrace p readings last tail = before ++ e :: behind)
    (hkill : IsKill e.1) : e ∈ tail ∧ ∀ sight ∈ sights p last, sight ∈ sights p before := by
  have hpolls : e ∉ ⟨.closeInput p, ()⟩ :: (waited p readings ++ last) := by
    intro he
    rcases List.mem_cons.mp he with rfl | he
    · exact hkill
    rcases List.mem_append.mp he with he | he
    · exact not_isKill_of_mem_waited e he hkill
    · exact hlast.not_isKill e he hkill
  rw [finishTrace] at hsplit
  obtain ⟨more, rfl⟩ := exists_eq_append_of_notMem hsplit hpolls
  constructor
  · rw [List.append_assoc] at hsplit
    rw [List.append_cancel_left hsplit]
    exact List.mem_append_right _ List.mem_cons_self
  · intro sight hsight
    rw [← List.singleton_append, sights_append, sights_append, sights_append]
    exact List.mem_append_left _ (List.mem_append_right _ (List.mem_append_right _ hsight))

section

variable {deadline : Host.Instant} {readings : List Host.Instant} {tail : List HostEvent}

theorem punctual_ended (hbefore : ∀ t ∈ readings, t < deadline) {status : Host.ExitStatus}
    (h : Runs (s.conclude (.ended status)) tail result) :
    Punctual s deadline
      (finishTrace s.process readings [⟨.poll s.process, .ok (some status)⟩] tail) result := by
  have hseen : sights s.process (finishTrace s.process readings
      [⟨.poll s.process, .ok (some status)⟩] tail) = runningAt readings ++ [.ended status] := by
    rw [sights_finish (runs_conclude_unseeing h), sights_foundEnded]
  obtain ⟨octets, read, rfl, rfl⟩ := runs_conclude_ended h
  refine ⟨?_, fun status' hmem => ?_, fun _ hresult => ?_, fun _ before e behind hsplit hkill => ?_⟩
  · refine iff_of_false (s.not_reportsTimeout_report _ _) fun hexpires => ?_
    rw [hseen] at hexpires
    exact hexpires.ended_notMem status (List.mem_append_right _ List.mem_cons_self)
  · rw [hseen] at hmem
    have hstatus : status' = status := by simpa [ended_notMem_runningAt] using hmem
    exact ⟨readings, octets, read, hbefore, hstatus ▸ hseen, List.suffix_append _ _, rfl⟩
  · unfold report at hresult
    split at hresult <;> exact nomatch hresult
  · have hlast : LastPoll s.process deadline _ _ := .ended status
    have hmem := (sights_before_kill hlast hsplit hkill).1
    simp only [List.mem_cons, List.not_mem_nil, or_false] at hmem
    rcases hmem with rfl | rfl <;> exact hkill.elim

theorem punctual_expired (hbefore : ∀ t ∈ readings, t < deadline) {now : Host.Instant}
    (late : deadline ≤ now) (h : Runs (s.conclude .expired) tail result) :
    Punctual s deadline (finishTrace s.process readings (foundRunning s.process now) tail)
      result := by
  have hseen : sights s.process (finishTrace s.process readings (foundRunning s.process now)
      tail) = runningAt (readings ++ [now]) := by
    rw [sights_finish (runs_conclude_unseeing h), runningAt_append, sights_foundRunning]
    rfl
  have hexpires : Expires deadline _ := ⟨readings, now, hbefore, late, hseen⟩
  have htimeout := runs_conclude_expired h
  refine ⟨iff_of_true htimeout hexpires, fun status hmem => ?_, ?_,
    fun _ before e behind hsplit hkill => ?_⟩
  · exact absurd hmem (hexpires.ended_notMem status)
  · rintro _ rfl
    obtain ⟨_, _, _, he⟩ := htimeout
    exact nomatch he
  · refine Or.inl ⟨now, late, (sights_before_kill (.expired now late) hsplit hkill).2 _ ?_⟩
    rw [sights_foundRunning]
    exact List.mem_cons_of_mem _ List.mem_cons_self

theorem punctual_failed {cause : SystemFault} (h : Runs (s.conclude (.failed cause)) tail result) :
    Punctual s deadline
      (finishTrace s.process readings [⟨.poll s.process, .error cause⟩] tail) result := by
  have hseen : sights s.process (finishTrace s.process readings
      [⟨.poll s.process, .error cause⟩] tail) = runningAt readings ++ [.failed cause] := by
    rw [sights_finish (runs_conclude_unseeing h), sights_foundFailed]
  obtain rfl := runs_conclude_failed h
  refine ⟨?_, fun status hmem => ?_, fun _ he => (nomatch he),
    fun _ before e behind hsplit hkill => ?_⟩
  · refine iff_of_false (fun ⟨_, _, _, he⟩ => nomatch he) fun hexpires => ?_
    rw [hseen] at hexpires
    exact hexpires.failed_notMem cause (List.mem_append_right _ List.mem_cons_self)
  · rw [hseen] at hmem
    simp [ended_notMem_runningAt] at hmem
  · have hlast : LastPoll s.process deadline _ _ := .failed cause
    refine Or.inr ⟨cause, (sights_before_kill hlast hsplit hkill).2 _ ?_⟩
    rw [sights_foundFailed]
    exact List.mem_cons_self

/-- too many polls before the deadline are no timeout, and no clock that goes on allows them -/
theorem punctual_stopped {started : Host.Instant} {limit : Duration}
    (hdeadline : deadline? started limit = some deadline) (hbefore : ∀ t ∈ readings, t < deadline)
    (hlength : readings.length = pollLimit) (h : Runs s.abandon tail (.ok ())) :
    Punctual s deadline (finishTrace s.process readings [] tail) (.error .clockStopped) := by
  have hseen : sights s.process (finishTrace s.process readings [] tail) = runningAt readings :=
    (sights_finish (Interaction.Asks.of_runs s.abandon_unseeing h)).trans (List.append_nil _)
  have hstopped : ¬ KeepsTime (finishTrace s.process readings [] tail) := by
    intro htime
    rw [finishTrace, List.append_nil, ← List.singleton_append] at htime
    exact length_ne_pollLimit_of_keepsTime hdeadline hbefore htime.of_append hlength
  refine ⟨?_, fun status hmem => ?_, fun htime => absurd htime hstopped,
    fun htime => absurd htime hstopped⟩
  · refine iff_of_false (fun ⟨_, _, _, he⟩ => nomatch he) ?_
    rintro ⟨more, now, _, late, heq⟩
    have hmem : now ∈ readings := by
      rw [← clock_mem_runningAt, ← hseen, heq, clock_mem_runningAt]
      exact List.mem_append_right _ List.mem_cons_self
    exact Nat.not_le_of_lt (hbefore now hmem) late
  · rw [hseen] at hmem
    exact absurd hmem ended_notMem_runningAt

end

/-- every trace of a session with a deadline is punctual -/
theorem punctual_finish {limit : Duration} {deadline : Host.Instant}
    (hlimit : s.timeout = some limit) (hdeadline : deadline? s.started limit = some deadline)
    (h : Runs s.finish events result) : Punctual s deadline events result := by
  obtain ⟨readings, last, tail, hbefore, rfl, hend⟩ := runs_finish_deadline hlimit hdeadline h
  rcases hend with ⟨found, hlast, hconclude⟩ | ⟨rfl, hlength, habandon, rfl⟩
  · cases hlast with
    | ended status => exact punctual_ended hbefore hconclude
    | expired now late => exact punctual_expired hbefore late hconclude
    | failed cause => exact punctual_failed hconclude
  · exact punctual_stopped hdeadline hbefore hlength habandon

end

end Session

/-! ## a shell that has ended before -/

/-- A host that knows which processes have ended: one that has ended stays so, and a question about
it is answered with its status. -/
structure TellsEnds {σ : Type} (env : Interaction.Environment Host.Answer σ)
    (ended : σ → Host.Process → Option Host.ExitStatus) : Prop where
  stays : ∀ r w p status, ended w p = some status → ended (env r w).2 p = some status
  told : ∀ w p status, ended w p = some status → (env (.poll p) w).1 = .ok (some status)

section

variable {σ α : Type} {env : Interaction.Environment Host.Answer σ}

/-- what every request preserves holds wherever an event of a run is answered -/
theorem exists_state_of_invariant {Inv : σ → Prop} (step : ∀ r w, Inv w → Inv (env r w).2)
    (x : Interaction Host.Answer α) {w : σ} (hw : Inv w) :
    ∀ e ∈ x.events env w, ∃ v, Inv v ∧ e.2 = (env e.1 v).1 := by
  induction x generalizing w with
  | done a => exact fun e he => absurd he List.not_mem_nil
  | ask r next ih =>
    rw [Interaction.events_ask]
    exact List.forall_mem_cons.mpr ⟨⟨w, hw, rfl⟩, ih _ (step r w hw)⟩

namespace Session

variable {s : Session} {limit : Duration} {deadline : Host.Instant}

/-- A session of which every poll says that its shell has ended reports on it and kills nothing. -/
theorem runs_finish_of_told {events : List HostEvent} {result : Except Failure SessionReport}
    (hlimit : s.timeout = some limit) (hdeadline : deadline? s.started limit = some deadline)
    (h : Runs s.finish events result)
    (htold : ∀ answer, (⟨.poll s.process, answer⟩ : HostEvent) ∈ events →
      ∃ status, answer = .ok (some status)) :
    (∃ output read, result = s.report output read) ∧ ∀ e ∈ events, ¬ IsKill e.1 := by
  obtain ⟨readings, last, tail, hbefore, rfl, hend⟩ := runs_finish_deadline hlimit hdeadline h
  have hreadings : readings = [] := by
    cases readings with
    | nil => rfl
    | cons now readings =>
      obtain ⟨status, hstatus⟩ := htold (.ok none) (by simp [finishTrace, waited, foundRunning])
      exact nomatch hstatus
  subst hreadings
  rcases hend with ⟨found, hlast, hconclude⟩ | ⟨_, hlength, _, _⟩
  · cases hlast with
    | ended status =>
      obtain ⟨octets, read, rfl, rfl⟩ := runs_conclude_ended hconclude
      refine ⟨⟨_, read, rfl⟩, fun e he => ?_⟩
      simp only [finishTrace, waited, List.flatMap_nil, List.nil_append, List.cons_append,
        List.mem_cons, List.not_mem_nil, or_false] at he
      rcases he with rfl | rfl | rfl | rfl <;> exact id
    | expired now late =>
      obtain ⟨status, hstatus⟩ := htold (.ok none) (by simp [finishTrace, foundRunning])
      exact nomatch hstatus
    | failed cause =>
      obtain ⟨status, hstatus⟩ := htold (.error cause) (by simp [finishTrace])
      exact nomatch hstatus
  · exact absurd hlength (by decide)

/-- a report is a result that is kept for the verdict -/
theorem exists_keptResult (output : String) (read : Except SystemFault (List UInt8)) :
    ∃ kept, s.report output read = keptResult kept := by
  unfold report
  split
  · next e _ => exact ⟨.error e, rfl⟩
  · next codes _ => exact ⟨.ok ⟨output, codes⟩, rfl⟩

/-- A shell that has ended when its session is to be finished is reported on, and nothing is
killed. -/
theorem outcome_finish_of_ended {ended : σ → Host.Process → Option Host.ExitStatus}
    (henv : TellsEnds env ended) (hlimit : s.timeout = some limit)
    (hdeadline : deadline? s.started limit = some deadline) {w : σ} {status : Host.ExitStatus}
    (hended : ended w s.process = some status) :
    ∃ kept w', outcome env s.finish w = (keptResult kept, w') ∧
      ¬ ReportsTimeout (keptResult kept) ∧ ∀ e ∈ trace env s.finish w, ¬ IsKill e.1 := by
  have htold : ∀ answer, (⟨.poll s.process, answer⟩ : HostEvent) ∈ trace env s.finish w →
      ∃ status, answer = .ok (some status) := by
    intro answer hmem
    obtain ⟨v, hv, hanswer⟩ := exists_state_of_invariant
      (fun r v hv => henv.stays r v s.process status hv) s.finish.run hended _ hmem
    exact ⟨status, hanswer.trans (henv.told v s.process status hv)⟩
  obtain ⟨⟨output, read, hreport⟩, hkills⟩ :=
    runs_finish_of_told hlimit hdeadline (runs_trace env s.finish w) htold
  obtain ⟨kept, hkept⟩ := exists_keptResult (s := s) output read
  refine ⟨kept, (outcome env s.finish w).2, ?_, ?_, hkills⟩
  · rw [← hkept, ← hreport]
  · rw [← hkept]
    exact s.not_reportsTimeout_report output read

end Session

/-- sessions that come to their results begin with one that comes to its own -/
theorem exists_of_finishWorkers_cons {session : Session} {sessions : List Session}
    {done : List (Except BuildError SessionReport)} {w w₁ : σ}
    (h : outcome env (finishWorkers (session :: sessions)) w = (.ok done, w₁)) :
    ∃ kept more t, done = kept :: more ∧ outcome env session.finish w = (keptResult kept, t) ∧
      outcome env (finishWorkers sessions) t = (.ok more, w₁) := by
  have hkeep : ∀ kept t, outcome env (finishWorkers sessions >>= fun more =>
      pure (kept :: more)) t = (.ok done, w₁) →
      ∃ more, done = kept :: more ∧ outcome env (finishWorkers sessions) t = (.ok more, w₁) := by
    intro kept t h
    obtain ⟨more, t', hmore, hpure, _⟩ := exists_of_bind_ok h
    obtain ⟨hdone, rfl⟩ := Prod.mk.inj hpure
    exact ⟨more, (Except.ok.inj hdone).symm, hmore⟩
  obtain ⟨answer, t, hlift, hrest, _⟩ := exists_of_bind_ok h
  rw [outcome_lift] at hlift
  obtain ⟨hanswer, ht⟩ := Prod.mk.inj hlift
  have hfinish : outcome env session.finish w = (answer, t) :=
    Prod.ext (Except.ok.inj hanswer) ht
  rcases answer with failure | report
  · cases failure with
    | error e =>
      obtain ⟨more, hdone, hmore⟩ := hkeep (.error e) t hrest
      exact ⟨.error e, more, t, hdone, hfinish, hmore⟩
    | _ =>
      obtain ⟨_, _, _, hthrow, _⟩ := exists_of_bind_ok hrest
      exact nomatch (Prod.mk.inj hthrow).1
  · obtain ⟨more, hdone, hmore⟩ := hkeep (.ok report) t hrest
    exact ⟨.ok report, more, t, hdone, hfinish, hmore⟩

/-- sessions behind others are finished where those leave the host -/
theorem outcome_finishWorkers_append {before behind : List Session}
    {done : List (Except BuildError SessionReport)} {w w₁ : σ}
    (h : outcome env (finishWorkers before) w = (.ok done, w₁)) :
    outcome env (finishWorkers (before ++ behind)) w =
      outcome env (finishWorkers behind >>= fun more => pure (done ++ more)) w₁ := by
  induction before generalizing done w with
  | nil =>
    obtain ⟨hdone, rfl⟩ := Prod.mk.inj h
    obtain rfl := Except.ok.inj hdone
    show _ = outcome env (finishWorkers behind >>= pure) w
    rw [bind_pure]
    rfl
  | cons session before ih =>
    obtain ⟨kept, more, t, rfl, hfinish, hmore⟩ := exists_of_finishWorkers_cons h
    rw [List.cons_append, outcome_finishWorkers_cons hfinish, outcome_bind, ih hmore,
      ← outcome_bind, bind_assoc]
    simp only [pure_bind, List.cons_append]

end

/-- **No timeout comes before its deadline, and none to a shell that has ended.**  Every trace of a
session with a deadline is punctual.  A shell that has ended when the sessions before its own are
finished, however long these took, is reported on and not killed. -/
theorem timeouts_are_due (s : Session) {limit : Duration} (hlimit : s.timeout = some limit)
    (hdeadline : (Session.deadline? s.started limit).isSome) :
    (∀ events result, Runs s.finish events result →
      Punctual s (s.started + limit.nanos) events result) ∧
    ∀ {σ : Type} (env : Interaction.Environment Host.Answer σ)
      (ended : σ → Host.Process → Option Host.ExitStatus), TellsEnds env ended →
      ∀ before behind done w w₁ status,
        outcome env (finishWorkers before) w = (.ok done, w₁) → ended w₁ s.process = some status →
        ∃ kept w₂, outcome env s.finish w₁ = (keptResult kept, w₂) ∧
          ¬ Session.ReportsTimeout (keptResult kept) ∧
          (∀ e ∈ trace env s.finish w₁, ¬ IsKill e.1) ∧
          outcome env (finishWorkers (before ++ s :: behind)) w =
            outcome env (finishWorkers behind >>= fun more => pure (done ++ kept :: more)) w₂ := by
  obtain ⟨deadline, hsome⟩ := Option.isSome_iff_exists.mp hdeadline
  obtain rfl := deadline?_eq_some hsome
  refine ⟨fun events result h => Session.punctual_finish hlimit hsome h, ?_⟩
  intro σ env ended henv before behind done w w₁ status hbefore hended
  obtain ⟨kept, w₂, hfinish, htimely, hkills⟩ :=
    Session.outcome_finish_of_ended henv hlimit hsome hended
  refine ⟨kept, w₂, hfinish, htimely, hkills, ?_⟩
  rw [outcome_finishWorkers_append hbefore, outcome_bind, outcome_finishWorkers_cons hfinish,
    ← outcome_bind, bind_assoc]
  simp only [pure_bind]

/-! ## a worker behind one that hangs -/

/-- A host with a clock that only pauses move, whose first shell hangs and whose other shells have
ended. -/
def firstHangs : Interaction.Environment Host.Answer Host.Instant := fun r now =>
  match r with
  | .removeFile _ => (.ok (), now)
  | .readFile _ => (.ok [48, 10], now)
  | .writeFile _ _ => (.ok (), now)
  | .isDirectory _ => (true, now)
  | .exists _ => (true, now)
  | .currentDirectory => (.ok "/", now)
  | .spawn _ _ _ => (.ok ⟨0⟩, now)
  | .attach _ => (.ok (), now)
  | .send _ _ => ((), now)
  | .closeInput _ => ((), now)
  | .wait _ => (.ok (.killed 9), now)
  | .poll p => (.ok (if p.id = 0 then none else some (.exited 0)), now)
  | .killGroup _ => ((), now)
  | .kill _ => ((), now)
  | .output _ => ([], now)
  | .now => (now, now)
  | .pause amount => ((), now + amount.nanos)
  | .cores => (2, now)
  | .load _ => (true, now)

/-- the end of a shell of `firstHangs` -/
def endOfOthers (_ : Host.Instant) (p : Host.Process) : Option Host.ExitStatus :=
  if p.id = 0 then none else some (.exited 0)

/-- the session of a shell with one command, started at the first instant -/
def waiting (worker : Nat) (timeout : Duration) : Session :=
  ⟨worker, ⟨worker⟩, "/build/status", .posix, some timeout, 0, 1⟩

/-- The first worker runs into its timeout of 20 ms; the second one, with a timeout of 0, is
finished only then, and is not reported as late. -/
theorem timeouts_are_due_firstHangs :
    outcome firstHangs (finishWorkers [waiting 0 (.ofMillis 20)]) 0 =
        (.ok [.error (.timeout 0 (.ofMillis 20) "")], 20000000) ∧
      Punctual (waiting 0 (.ofMillis 20)) 20000000
        (trace firstHangs (waiting 0 (.ofMillis 20)).finish 0)
        (outcome firstHangs (waiting 0 (.ofMillis 20)).finish 0).1 ∧
      ∃ kept now, ¬ Session.ReportsTimeout (keptResult kept) ∧
        outcome firstHangs (finishWorkers [waiting 0 (.ofMillis 20), waiting 1 ⟨0⟩]) 0 =
          (.ok [.error (.timeout 0 (.ofMillis 20) ""), kept], now) := by
  have htells : TellsEnds firstHangs endOfOthers := by
    refine ⟨fun _ _ _ _ h => h, fun now p status h => ?_⟩
    show Except.ok (endOfOthers now p) = _
    rw [h]
  have hfirst : outcome firstHangs (finishWorkers [waiting 0 (.ofMillis 20)]) 0 =
      (.ok [.error (.timeout 0 (.ofMillis 20) "")], 20000000) := by decide +kernel
  have hpunctual := (timeouts_are_due (waiting 0 (.ofMillis 20)) rfl (by decide +kernel)).1 _ _
    (runs_trace firstHangs (waiting 0 (.ofMillis 20)).finish 0)
  obtain ⟨kept, now, _, htimely, _, hall⟩ :=
    (timeouts_are_due (waiting 1 ⟨0⟩) rfl (by decide +kernel)).2 firstHangs endOfOthers htells _ []
      _ _ _ (.exited 0) hfirst rfl
  exact ⟨hfirst, hpunctual, kept, now, htimely, hall⟩

end ShellWorkers
