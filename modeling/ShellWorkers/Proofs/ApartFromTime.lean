import ShellWorkers.Proofs.Deadlines

/-!
# Traces apart from time

A shell with a deadline is polled, one without is waited for.  Two actions that differ in this alone
are compared by what they ask besides the time, each on a trace of its own: as long as both ask
alike they are answered alike, and the one with deadlines has come to its end before any of them.

* `untimed`            a trace without its questions about time, in which a poll that ends a wait is
                       that wait;
* `AnsweredAlike`      what is asked alike behind a common past is answered alike;
* `Outlasts`           a limit that is longer than a whole trace;
* `Span.Tallies`       the actions ask alike and come to like results, or a deadline overflows;
* `tallies_unseeing`   an action that does not see the time, beside itself;
* `tallies_attempt`    one action after another, and what follows from it.
-/

namespace ShellWorkers

open ShellWorkers.Action

/-! ## what is left of a trace without the time -/

/-- an event as it is without a clock: a poll that ends a wait is that wait -/
def untimed? : HostEvent → Option HostEvent
  | ⟨.poll _, .ok none⟩ => none
  | ⟨.poll p, .ok (some status)⟩ => some ⟨.wait p, .ok status⟩
  | ⟨.poll p, .error cause⟩ => some ⟨.wait p, .error cause⟩
  | ⟨.now, _⟩ => none
  | ⟨.pause _, _⟩ => none
  | e => some e

def untimed (events : List HostEvent) : List HostEvent := events.filterMap untimed?

def reading? : HostEvent → Option Host.Instant
  | ⟨.now, now⟩ => some now
  | _ => none

/-- what the clock has shown -/
def readings (events : List HostEvent) : List Host.Instant := events.filterMap reading?

/-- any two readings of the clock are less than the limit apart -/
def Outlasts (limit : Duration) (events : List HostEvent) : Prop :=
  ∀ t ∈ readings events, ∀ t' ∈ readings events, t' < t + limit.nanos

/-- what is asked alike behind a common past is answered alike -/
def AnsweredAlike (first second : List HostEvent) : Prop :=
  ∀ past e e' behind behind', first = past ++ e :: behind → second = past ++ e' :: behind' →
    e.1 = e'.1 → e = e'

section

variable {first second first' second' events : List HostEvent}

theorem untimed_append : untimed (first ++ second) = untimed first ++ untimed second :=
  List.filterMap_append

theorem untimed_prefix : untimed first <+: untimed (first ++ second) :=
  (List.prefix_append first second).filterMap untimed?

theorem readings_append : readings (first ++ second) = readings first ++ readings second :=
  List.filterMap_append

theorem mem_readings {t : Host.Instant} : t ∈ readings events ↔ ⟨.now, t⟩ ∈ events := by
  refine List.mem_filterMap.trans ⟨?_, fun h => ⟨_, h, rfl⟩⟩
  rintro ⟨⟨r, answer⟩, hmem, hreading⟩
  cases r with
  | now =>
    obtain rfl : answer = t := Option.some.inj hreading
    exact hmem
  | _ => exact nomatch hreading

/-- an event that is not about time is left as it is, and a pause has one answer only -/
theorem untimed?_of_isUnseeing {e : HostEvent} (h : IsUnseeing e.1) :
    untimed? e = some e ∨ ∃ amount, e = ⟨.pause amount, ()⟩ := by
  obtain ⟨r, answer⟩ := e
  cases r with
  | poll p => exact h.elim
  | now => exact h.elim
  | pause amount => exact .inr ⟨amount, rfl⟩
  | _ => exact .inl rfl

theorem AnsweredAlike.of_prefix (h : AnsweredAlike first second) (hfirst : first' <+: first)
    (hsecond : second' <+: second) : AnsweredAlike first' second' := by
  obtain ⟨more, rfl⟩ := hfirst
  obtain ⟨more', rfl⟩ := hsecond
  intro past e e' behind behind' hsplit hsplit'
  refine h past e e' (behind ++ more) (behind' ++ more') ?_ ?_
  · rw [hsplit, List.append_assoc, List.cons_append]
  · rw [hsplit', List.append_assoc, List.cons_append]

theorem AnsweredAlike.of_suffix (h : AnsweredAlike (first ++ second) (first ++ second')) :
    AnsweredAlike second second' := by
  intro past e e' behind behind' hsplit hsplit'
  refine h (first ++ past) e e' behind behind' ?_ ?_
  · rw [hsplit, List.append_assoc]
  · rw [hsplit', List.append_assoc]

/-- the first requests are answered alike if they are the same -/
theorem AnsweredAlike.head {r : Host.Request} {answer answer' : Host.Answer r}
    (h : AnsweredAlike (⟨r, answer⟩ :: first) (⟨r, answer'⟩ :: second)) : answer = answer' :=
  eq_of_heq (Sigma.mk.inj (h [] _ _ first second rfl rfl rfl)).2

end

/-! ## programs that do not see the time -/

/-- Answered alike, a program that asks neither for the time nor about a process asks the same
and comes to the same. -/
theorem Interaction.Asks.unique {α : Type} {x : Interaction Host.Answer α} (hx : x.Asks IsUnseeing)
    {events plain : List HostEvent} {a b : α} (h : Interaction.Runs x events a)
    (h' : Interaction.Runs x plain b) (halike : AnsweredAlike (untimed events) (untimed plain)) :
    a = b ∧ untimed events = untimed plain := by
  induction h generalizing plain with
  | done a =>
    obtain ⟨rfl, rfl⟩ := Interaction.runs_done h'
    exact ⟨rfl, rfl⟩
  | @ask r next answer events a rest ih =>
    cases h' with
    | ask _ _ answer' rest' =>
      rename_i plain
      have hanswer : answer = answer' := by
        rcases untimed?_of_isUnseeing (e := ⟨r, answer⟩) hx.1 with hkept | ⟨amount, hpause⟩
        · rcases untimed?_of_isUnseeing (e := ⟨r, answer'⟩) hx.1 with hkept' | ⟨amount, hpause⟩
          · rw [untimed, untimed, List.filterMap_cons_some hkept,
              List.filterMap_cons_some hkept'] at halike
            exact halike.head
          · obtain ⟨rfl, -⟩ := Sigma.mk.inj hpause
            rfl
        · obtain ⟨rfl, -⟩ := Sigma.mk.inj hpause
          rfl
      subst hanswer
      have hsplit : ∀ more, untimed (⟨r, answer⟩ :: more) =
          untimed [⟨r, answer⟩] ++ untimed more := fun more => by
        rw [← untimed_append, List.singleton_append]
      rw [hsplit events, hsplit plain] at halike
      obtain ⟨rfl, hrest⟩ := ih (hx.2 answer) rest' halike.of_suffix
      exact ⟨rfl, by rw [hsplit events, hsplit plain, hrest]⟩

/-! ## two actions side by side -/

/-- both come to answers that are related, or to the same failure -/
inductive Corresponds {α β : Type} (R : α → β → Prop) :
    Except Failure α → Except Failure β → Prop where
  | ok {a : α} {b : β} (related : R a b) : Corresponds R (.ok a) (.ok b)
  | error (e : Failure) : Corresponds R (.error e) (.error e)

theorem Corresponds.refl {α : Type} (result : Except Failure α) : Corresponds Eq result result := by
  cases result with
  | error e => exact .error e
  | ok a => exact .ok rfl

theorem Corresponds.eq {α : Type} {result result' : Except Failure α}
    (h : Corresponds Eq result result') : result = result' := by
  cases h with
  | ok related => rw [related]
  | error e => rfl

/-- the instants of a run that is shorter than a limit -/
structure Span (limit : Duration) where
  instants : List Host.Instant
  brief : ∀ t ∈ instants, ∀ t' ∈ instants, t' < t + limit.nanos

namespace Span

variable {limit : Duration} {m : Span limit} {α β α' β' : Type} {R : α → β → Prop}
  {S : α' → β' → Prop}

/-- the events take place in the span, by a clock that goes on -/
structure Covers (m : Span limit) (events : List HostEvent) : Prop where
  keepsTime : KeepsTime events
  instants : readings events ⊆ m.instants

theorem Covers.of_append {first events second : List HostEvent}
    (h : m.Covers (first ++ events ++ second)) : m.Covers events := by
  refine ⟨h.keepsTime.of_append, fun t ht => h.instants ?_⟩
  rw [readings_append, readings_append]
  exact List.mem_append_left _ (List.mem_append_right _ ht)

theorem Covers.front {events second : List HostEvent} (h : m.Covers (events ++ second)) :
    m.Covers events := by
  rw [← List.nil_append events] at h
  exact h.of_append

theorem Covers.back {first events : List HostEvent} (h : m.Covers (first ++ events)) :
    m.Covers events := by
  rw [← List.append_nil (first ++ events)] at h
  exact h.of_append

/-- the deadline of an instant in the span lies behind the last instant of the clock -/
def Overflows (m : Span limit) (result : Except Failure α) : Prop :=
  result = .error .deadlineOverflow ∧ ∃ t ∈ m.instants, Session.deadline? t limit = none

/-- In the span, and answered alike, the actions ask the same apart from time and come to results
that correspond, unless a deadline overflows in the first one. -/
def Tallies (m : Span limit) (R : α → β → Prop) (x : Action α) (y : Action β) : Prop :=
  ∀ events plain result result', Runs x events result → Runs y plain result' →
    AnsweredAlike (untimed events) (untimed plain) → m.Covers events →
    (Corresponds R result result' ∧ untimed events = untimed plain) ∨ m.Overflows result

/-- an action that does not see the time tallies with itself -/
theorem tallies_unseeing {x : Action α} (hx : Asks IsUnseeing x) : m.Tallies Eq x x := by
  intro events plain result result' hr hr' halike _
  obtain ⟨rfl, hsame⟩ := Interaction.Asks.unique hx hr hr' halike
  exact .inl ⟨.refl result, hsame⟩

theorem tallies_pure {a : α} {b : β} (h : R a b) : m.Tallies R (pure a) (pure b) := by
  intro events plain result result' hr hr' _ _
  obtain ⟨rfl, rfl⟩ := runs_pure hr
  obtain ⟨rfl, rfl⟩ := runs_pure hr'
  exact .inl ⟨.ok h, rfl⟩

theorem tallies_throw (e : Failure) : m.Tallies R (throw e) (throw e) := by
  intro events plain result result' hr hr' _ _
  obtain ⟨rfl, rfl⟩ := runs_throw hr
  obtain ⟨rfl, rfl⟩ := runs_throw hr'
  exact .inl ⟨.error e, rfl⟩

theorem tallies_fail (e : BuildError) : m.Tallies R (fail e) (fail e) := tallies_throw (.error e)

/-- One action after the end of another, whatever its result; an overflow has to stay one. -/
theorem tallies_attempt {x : Action α} {y : Action β}
    {f : Except Failure α → Host.Program (Except Failure α')}
    {g : Except Failure β → Host.Program (Except Failure β')} (hx : m.Tallies R x y)
    (hf : ∀ result result', Corresponds R result result' →
      m.Tallies S (ExceptT.mk (f result)) (ExceptT.mk (g result')))
    (hlate : ∀ events result, Interaction.Runs (f (.error .deadlineOverflow)) events result →
      result = .error .deadlineOverflow) :
    m.Tallies S (ExceptT.mk (x.run.bind f)) (ExceptT.mk (y.run.bind g)) := by
  intro events plain result result' hr hr' halike hcovers
  obtain ⟨a, first, second, rfl, hrx, hrf⟩ := Interaction.Runs.of_bind hr
  obtain ⟨b, first', second', rfl, hry, hrg⟩ := Interaction.Runs.of_bind hr'
  rcases hx _ _ _ _ hrx hry (halike.of_prefix untimed_prefix untimed_prefix) hcovers.front with
    ⟨hsame, huntimed⟩ | ⟨rfl, hinstant⟩
  · rw [untimed_append, untimed_append, huntimed] at halike ⊢
    rcases hf a b hsame _ _ _ _ hrf hrg halike.of_suffix hcovers.back with
      ⟨hsame', huntimed'⟩ | hoverflows
    · exact .inl ⟨hsame', by rw [huntimed']⟩
    · exact .inr hoverflows
  · exact .inr ⟨hlate _ _ hrf, hinstant⟩

theorem tallies_bind {x : Action α} {y : Action β} {f : α → Action α'} {g : β → Action β'}
    (hx : m.Tallies R x y) (hf : ∀ a b, R a b → m.Tallies S (f a) (g b)) :
    m.Tallies S (x >>= f) (y >>= g) := by
  refine tallies_attempt (f := ExceptT.bindCont f) (g := ExceptT.bindCont g) hx ?_ ?_
  · intro result result' hsame
    cases hsame with
    | ok related => exact hf _ _ related
    | error e => exact tallies_throw e
  · exact fun _ _ hr => (runs_throw hr).2

/-- a failure is handled alike; an overflow is thrown again -/
theorem tallies_tryCatch {x : Action α} {y : Action β} {f : Failure → Action α}
    {g : Failure → Action β} (hx : m.Tallies R x y) (hf : ∀ e, m.Tallies R (f e) (g e))
    (hlate : ∀ events result, Runs (f .deadlineOverflow) events result →
      result = .error .deadlineOverflow) :
    m.Tallies R (tryCatch x f) (tryCatch y g) := by
  refine tallies_attempt hx ?_ hlate
  intro result result' hsame
  cases hsame with
  | ok related => exact tallies_pure related
  | error e => exact hf e

theorem lift_run_bind (x : Action α) (f : Except Failure α → Action β) :
    ExceptT.lift x.run >>= f = ExceptT.mk (x.run.bind fun result => (f result).run) :=
  Interaction.bind_assoc x.run _ _

/-- an action whose failure is part of its answer -/
theorem tallies_lift_run_bind {x : Action α} {y : Action β} {f : Except Failure α → Action α'}
    {g : Except Failure β → Action β'} (hx : m.Tallies R x y)
    (hf : ∀ result result', Corresponds R result result' → m.Tallies S (f result) (g result'))
    (hlate : ∀ events result, Runs (f (.error .deadlineOverflow)) events result →
      result = .error .deadlineOverflow) :
    m.Tallies S (ExceptT.lift x.run >>= f) (ExceptT.lift y.run >>= g) := by
  rw [lift_run_bind, lift_run_bind]
  exact tallies_attempt hx hf hlate

/-- an action that does not see the time, before others -/
theorem tallies_unseeing_bind {x : Action α} {f : α → Action α'} {g : α → Action β'}
    (hx : Asks IsUnseeing x) (hf : ∀ a, m.Tallies S (f a) (g a)) :
    m.Tallies S (x >>= f) (x >>= g) :=
  tallies_bind (tallies_unseeing hx) fun a _ hab => hab ▸ hf a

/-- a reading of the clock lies in the span, and the clock of the other side does not count -/
theorem tallies_now :
    m.Tallies (fun t _ => t ∈ m.instants) (request .now) (request .now) := by
  intro events plain result result' hr hr' _ hcovers
  obtain ⟨t, rfl, rfl⟩ := runs_request hr
  obtain ⟨t', rfl, rfl⟩ := runs_request hr'
  exact .inl ⟨.ok (hcovers.instants List.mem_cons_self), rfl⟩

end Span

end ShellWorkers
