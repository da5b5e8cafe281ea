import PollingAssertions.Polling.Assertion
import PollingAssertions.Proofs.Polling.Journal

/-!
# Runs keep account

Two things are shown of the polling loop, whatever its surroundings are. What
it enters in the journal of a run is what happened: taken in order, the
events of the journal lead from the world the run started in to the world it
has reached. And the journal is one of those that the grammar of
`Proofs.Polling.Journal` allows.

Both follow from one statement for each step of a run, of the form "from a
run with this journal the step goes on to a run with that journal, or ends
the run with a journal that is concluded" (`Polling.Leads`).

## Main definitions

* `Occurs`, `Course` — one event, and a journal of them, happening in a world.
* `Leaves` — the world that a run is left in when it ends.
* `Polling.Stands` — a run has a given journal and has kept account.
* `Poller.scene`, `Poller.outset` — what the run of an assertion deals with,
  and the run before its first round.

## Main results

* `Polling.round_leads` — what one round of the loop does.
* `Polling.rounds_leads` — what any number of rounds does.
* `Poller.run_stands`, `Poller.run_over` — the run of an assertion keeps
  account, as long as it goes on and once it has ended.
-/

namespace PollingAssertions

variable {σ : Type}

/-! ## Events happening in a world -/

/-- An event of a run that started at a given time happens in one world and
leaves another one. -/
inductive Occurs [ReasonLog σ] (around : Surroundings σ) (started : Span) : Event → σ → σ → Prop
  | looked {done : Bool} {s t : σ} :
      around.cancelled s = (done, t) → Occurs around started (.looked done) s t
  | began {s : σ} : Occurs around started .began s s
  | interrupted {stop : StopSignal} {s t : σ} :
      around.attempt s = .ok (.ok (.interrupted stop)) t →
      Occurs around started (.attempted (.interrupted stop)) s t
  | evaluated {e : Evaluation} {s t : σ} :
      around.attempt s = .ok (.ok (.evaluated e)) t →
      Occurs around started (.attempted (.evaluated e)) s (around.publish e.reason t)
  | reasoned {stop : StopSignal} {s t : σ} :
      ReasonLog.reasonOf stop s = .ok stop.reason t → Occurs around started (.reasoned stop) s t
  | elapsed {now : Span} {s t : σ} :
      around.now s = (now, t) → Occurs around started (.elapsed (now.sub started)) s t
  | paused {d : Span} {s t : σ} :
      around.sleep d s = .ok () t → Occurs around started (.paused d) s t

/-- The events of a journal happen one after the other. -/
inductive Course [ReasonLog σ] (around : Surroundings σ) (started : Span) (s : σ) : List Event → σ → Prop
  | nil : Course around started s [] s
  | cons {event : Event} {journal : List Event} {t u : σ} :
      Course around started s journal t → Occurs around started event t u →
      Course around started s (event :: journal) u

theorem course_nil [ReasonLog σ] {around : Surroundings σ} {started : Span} {s t : σ} :
    Course around started s [] t ↔ t = s := by
  constructor
  · intro h
    cases h
    rfl
  · intro heq
    subst heq
    exact .nil

theorem course_cons [ReasonLog σ] {around : Surroundings σ} {started : Span} {s u : σ} {event : Event}
    {journal : List Event} :
    Course around started s (event :: journal) u ↔
      ∃ t, Course around started s journal t ∧ Occurs around started event t u := by
  constructor
  · intro h
    cases h with
    | cons hjournal hevent => exact ⟨_, hjournal, hevent⟩
  · intro h
    obtain ⟨t, hjournal, hevent⟩ := h
    exact .cons hjournal hevent

/-- What happened up to some event happened before it. -/
theorem Course.of_suffix [ReasonLog σ] {around : Surroundings σ} {started : Span} {s u : σ}
    {earlier journal : List Event} (h : Course around started s journal u)
    (hsuffix : earlier <:+ journal) : ∃ t, Course around started s earlier t := by
  induction h with
  | nil =>
      rw [List.suffix_nil] at hsuffix
      subst hsuffix
      exact ⟨s, .nil⟩
  | cons hjournal hevent ih =>
      rcases List.suffix_cons_iff.1 hsuffix with rfl | hsuffix
      · exact ⟨_, .cons hjournal hevent⟩
      · exact ih hsuffix

/-- How a run that ends leaves the world. One that passes or fails leaves it
as it is; one that is refused or escapes leaves it to what stopped it, which is
an attempt that was begun, or a pause. -/
inductive Leaves (around : Surroundings σ) (journal : List Event) : Ending → σ → σ → Prop
  | passed {s : σ} : Leaves around journal .passed s s
  | failed {termination : Termination} {reason : String} {d : Span} {s : σ} :
      Leaves around journal (.failed termination reason d) s s
  | refused {earlier : List Event} {e : ConfigError} {s t : σ} :
      around.attempt s = .ok (.error e) t → journal = .began :: earlier →
      Leaves around journal (.refused e) s t
  | escaped {earlier : List Event} {payload : Payload} {s t : σ} :
      around.attempt s = .error payload t → journal = .began :: earlier →
      Leaves around journal (.escaped payload) s t
  | disturbed {earlier : List Event} {payload : Payload} {passed d : Span} {s t : σ} :
      around.sleep d s = .error payload t → journal = .elapsed passed :: earlier →
      Leaves around journal (.escaped payload) s t

namespace Polling

variable {α β : Type}

/-! ## Steps that lead somewhere -/

/-- From every run with `before`, a step goes on with `after` or ends the run
with `ended`. -/
def Leads (before : Run σ → Prop) (x : Polling σ α) (after : α → Run σ → Prop)
    (ended : Ending → Run σ → Prop) : Prop :=
  ∀ run, before run → match x run with
    | .ok a next => after a next
    | .error ending final => ended ending final

namespace Leads

variable {before : Run σ → Prop} {x : Polling σ α} {f : α → Polling σ β}
  {between : α → Run σ → Prop} {after : β → Run σ → Prop} {ended : Ending → Run σ → Prop}

theorem bind (hx : Leads before x between ended) (hf : ∀ a, Leads (between a) (f a) after ended) :
    Leads before (x >>= f) after ended := by
  intro run h
  have hrun := hx run h
  show match EStateM.bind x f run with
    | .ok b next => after b next
    | .error ending final => ended ending final
  unfold EStateM.bind
  cases hstep : x run with
  | ok a next =>
      rw [hstep] at hrun
      exact hf a next hrun
  | error ending final =>
      rw [hstep] at hrun
      exact hrun

theorem pure {a : β} (h : ∀ run, before run → after a run) :
    Leads before (Pure.pure a : Polling σ β) after ended :=
  fun run hrun => h run hrun

theorem mono {weaker : α → Run σ → Prop} (hx : Leads before x between ended)
    (h : ∀ a run, between a run → weaker a run) : Leads before x weaker ended := by
  intro run hrun
  have hnext := hx run hrun
  cases hstep : x run with
  | ok a next =>
      rw [hstep] at hnext
      exact h a next hnext
  | error ending final =>
      rw [hstep] at hnext
      exact hnext

/-- A fact that does not depend on the run can be had before the step. -/
theorem pull {p : Prop} (h : p → Leads before x between ended) :
    Leads (fun run => p ∧ before run) x between ended :=
  fun run hrun => h hrun.1 run hrun.2

theorem ok (hx : Leads before x between ended) {run next : Run σ} {a : α} (h : before run)
    (hok : x run = .ok a next) : between a next := by
  have hrun := hx run h
  rw [hok] at hrun
  exact hrun

theorem error (hx : Leads before x between ended) {run final : Run σ} {ending : Ending}
    (h : before run) (herror : x run = .error ending final) : ended ending final := by
  have hrun := hx run h
  rw [herror] at hrun
  exact hrun

end Leads

/-! ## The steps of a round -/

variable [ReasonLog σ]

/-- A run has a given journal, which is what happened since the world `s`,
and remembers its last verdict. -/
structure Stands (around : Surroundings σ) (started : Span) (s : σ) (journal : List Event)
    (run : Run σ) : Prop where
  journal_eq : run.journal = journal
  started_eq : run.started = started
  verdict_eq : run.verdict? = Journal.verdict? journal
  course : Course around started s journal run.world

/-- A run has ended: its journal is concluded, and it is left in a world that
follows from what happened. -/
def Over (plan : Plan) (around : Surroundings σ) (started : Span) (s : σ) (base : List Event)
    (ending : Ending) (final : Run σ) : Prop :=
  Concluded plan base final.journal ending ∧
    ∃ t, Course around started s final.journal t ∧
      Leaves around final.journal ending t final.world

variable {plan : Plan} {around : Surroundings σ} {started : Span} {s : σ}
  {base journal : List Event} {after : Unit → Run σ → Prop}

section

variable {run : Run σ}

/-- A run that enters an event which has happened keeps account. The verdict
is still the last one unless the event brings a new one. -/
theorem Stands.enter (h : Stands around started s journal run) {event : Event} {t : σ}
    (hevent : Occurs around started event run.world t)
    (hverdict : Journal.verdict? (event :: journal) = Journal.verdict? journal) :
    Stands around started s (event :: journal)
      { run with world := t, journal := event :: run.journal } where
  journal_eq := by rw [h.journal_eq]
  started_eq := h.started_eq
  verdict_eq := by rw [hverdict]; exact h.verdict_eq
  course := .cons h.course hevent

/-- A run that has kept account until it ended is over. -/
theorem Stands.over {t : σ} {ending : Ending}
    (h : Stands around started s journal { run with world := t })
    (hover : Concluded plan base journal ending)
    (hleaves : Leaves around journal ending t run.world) :
    Over plan around started s base ending run := by
  have hjournal : run.journal = journal := h.journal_eq
  refine ⟨?_, t, ?_, ?_⟩
  · rw [hjournal]
    exact hover
  · rw [hjournal]
    exact h.course
  · rw [hjournal]
    exact hleaves

end

theorem look_leads {ended : Ending → Run σ → Prop} :
    Leads (Stands around started s journal) (look around)
      (fun done => Stands around started s (.looked done :: journal)) ended := by
  intro run h
  exact h.enter (t := (around.cancelled run.world).2) (.looked rfl) rfl

theorem elapsed_leads {ended : Ending → Run σ → Prop} :
    Leads (Stands around started s journal) (elapsed around)
      (fun d => Stands around started s (.elapsed d :: journal)) ended := by
  intro run h
  have hevent : Occurs around started (.elapsed ((around.now run.world).1.sub run.started))
      run.world (around.now run.world).2 := by
    rw [h.started_eq]
    exact .elapsed rfl
  exact h.enter hevent rfl

theorem lastReason_leads {ended : Ending → Run σ → Prop} :
    Leads (Stands around started s journal) lastReason
      (fun reason run => reason = Journal.reason journal ∧ Stands around started s journal run)
      ended := by
  intro run h
  refine ⟨?_, h⟩
  rw [h.verdict_eq]
  rfl

theorem pass_leads (hover : Concluded plan base journal .passed) :
    Leads (Stands around started s journal) pass after (Over plan around started s base) :=
  fun _ h => h.over hover .passed

theorem fail_leads {termination : Termination} {reason : String}
    (hover : ∀ d, Concluded plan base (.elapsed d :: journal) (.failed termination reason d)) :
    Leads (Stands around started s journal) (fail around termination reason) after
      (Over plan around started s base) := by
  unfold fail
  refine .bind elapsed_leads fun d run h => ?_
  exact h.over (hover d) .failed

theorem stopIfDone_leads {phase : Phase} (hpending : Pending plan base phase journal) :
    Leads (Stands around started s journal) (stopIfDone around)
      (fun _ => Stands around started s (.looked false :: journal))
      (Over plan around started s base) := by
  unfold stopIfDone
  refine .bind look_leads fun done => ?_
  cases done with
  | true =>
      refine .bind lastReason_leads fun reason => .pull fun hreason => ?_
      rw [hreason]
      exact fail_leads fun d => .cancelled hpending
  | false => exact .pure fun run h => h

theorem expire_leads {phase : Phase} {d : Span} (hpending : Pending plan base phase journal)
    (hphase : phase ≠ .opening) (hd : plan.timeout ≤ d) :
    Leads (Stands around started s (.elapsed d :: .looked false :: journal)) (expire plan around)
      after (Over plan around started s base) := by
  unfold expire
  cases hkind : plan.kind with
  | eventually =>
      refine .bind lastReason_leads fun reason => .pull fun hreason => ?_
      rw [hreason]
      exact fail_leads fun d' => .timedOut hpending hphase hkind hd
  | consistently => exact pass_leads (.lasted hpending hphase hkind hd)

theorem failStopped_leads {stop : StopSignal} {reason : String}
    (hover : ∀ d, Concluded plan base (.elapsed d :: .reasoned stop :: journal)
      (.failed (.stopped stop.reason) reason d)) :
    Leads (Stands around started s journal) (failStopped around stop reason) after
      (Over plan around started s base) := by
  intro run h
  -- working out a reason never unwinds
  have hreasoned : Occurs around started (.reasoned stop) run.world
      (stop.asked.foldl (fun s reason => ReasonLog.workedOut reason s) run.world) :=
    .reasoned rfl
  have hstands := h.enter hreasoned rfl
  have hfailed : Leads (Stands around started s (.reasoned stop :: journal))
      (fail around (.stopped stop.reason) reason) after (Over plan around started s base) :=
    fail_leads hover
  exact hfailed _ hstands

theorem interrupt_leads {stop : StopSignal} (hpending : Pending plan base .opening journal) :
    Leads
      (Stands around started s
        (.attempted (.interrupted stop) :: .began :: .looked false :: journal))
      (interrupt plan around stop) after (Over plan around started s base) := by
  have hget : Leads
      (Stands around started s
        (.attempted (.interrupted stop) :: .began :: .looked false :: journal))
      get
      (fun now run => now.verdict? = Journal.verdict? journal ∧
        Stands around started s
          (.attempted (.interrupted stop) :: .began :: .looked false :: journal) run)
      (Over plan around started s base) :=
    fun run h => ⟨h.verdict_eq, h⟩
  unfold interrupt
  refine .bind hget fun now => .pull fun hverdict => ?_
  rw [hverdict]
  split
  · rename_i hkind hpassed
    exact pass_leads (.confirmed hpending hkind hpassed)
  · rename_i hother
    refine .bind lastReason_leads fun reason => .pull fun hreason => ?_
    rw [hreason]
    exact failStopped_leads fun d => .interrupted hpending fun hkind reason =>
      hother reason hkind

theorem decide_leads {e : Evaluation} (hpending : Pending plan base .opening journal) :
    Leads
      (Stands around started s (.attempted (.evaluated e) :: .began :: .looked false :: journal))
      (decide plan around e)
      (fun _ run => e.LeavesOpen plan.kind ∧
        Stands around started s (.attempted (.evaluated e) :: .began :: .looked false :: journal)
          run)
      (Over plan around started s base) := by
  unfold decide
  cases hkind : plan.kind <;> cases hpassed : e.passed
  case eventually.true => exact pass_leads (.passed hpending hpassed (by simp [hkind]))
  case eventually.false =>
    cases hstop : e.stop? with
    | some stop => exact failStopped_leads fun d => .stopped hpending hpassed hstop
    | none =>
        cases hhint : e.hint? with
        | some hint => exact fail_leads fun d => .hinted hpending hkind hpassed hstop hhint
        | none => exact .pure fun run h => ⟨⟨hpassed, hstop, hhint⟩, h⟩
  case consistently.true =>
    cases hstop : e.stop? with
    | some stop => exact pass_leads (.passed hpending hpassed (by simp [hstop]))
    | none => exact .pure fun run h => ⟨⟨hpassed, hstop⟩, h⟩
  case consistently.false =>
    cases hstop : e.stop? with
    | some stop => exact failStopped_leads fun d => .stopped hpending hpassed hstop
    | none => exact fail_leads fun d => .failed hpending hkind hpassed hstop

/-- Something has been done to the world, with an answer that the run has not
yet taken note of. -/
private def Performed (around : Surroundings σ) (started : Span) (s : σ) (journal : List Event)
    (x : Action σ α) (a : α) (run : Run σ) : Prop :=
  ∃ t, Stands around started s journal { run with world := t } ∧ x t = .ok a run.world

private theorem perform_leads {x : Action σ α}
    (hover : ∀ payload, Concluded plan base journal (.escaped payload))
    (hleaves : ∀ payload t u, x t = .error payload u →
      Leaves around journal (.escaped payload) t u) :
    Leads (Stands around started s journal) (perform x) (Performed around started s journal x)
      (Over plan around started s base) := by
  intro run h
  unfold perform
  cases hx : x run.world with
  | ok a t => exact ⟨run.world, h, hx⟩
  | error payload t =>
      have hleft : Over plan around started s base (.escaped payload) { run with world := t } :=
        Stands.over (t := run.world) h (hover payload) (hleaves payload _ _ hx)
      exact hleft

private theorem record_leads {e : Evaluation} {ended : Ending → Run σ → Prop} :
    Leads (Performed around started s journal around.attempt (.ok (.evaluated e)))
      (enter (.attempted (.evaluated e)) >>= fun _ => record around e.passed e.reason)
      (fun _ => Stands around started s (.attempted (.evaluated e) :: journal)) ended := by
  intro run hrun
  obtain ⟨t, h, hattempt⟩ := hrun
  have hevent : Occurs around started (.attempted (.evaluated e)) t
      (around.publish e.reason run.world) := .evaluated hattempt
  exact
    { journal_eq := congrArg (Event.attempted (.evaluated e) :: ·) h.journal_eq
      started_eq := h.started_eq
      verdict_eq := rfl
      course := .cons h.course hevent }

/-- An attempt that is made either decides the run or leaves it open. -/
theorem attempt_leads (hpending : Pending plan base .opening journal) :
    Leads (Stands around started s (.looked false :: journal)) (attempt plan around)
      (fun _ run => ∃ e : Evaluation, e.LeavesOpen plan.kind ∧
        Stands around started s (.attempted (.evaluated e) :: .began :: .looked false :: journal)
          run)
      (Over plan around started s base) := by
  have hbegin : Leads (Stands around started s (.looked false :: journal)) (enter .began)
      (fun _ => Stands around started s (.began :: .looked false :: journal))
      (Over plan around started s base) :=
    fun run h => h.enter .began rfl
  have hperform : Leads (Stands around started s (.began :: .looked false :: journal))
      (perform around.attempt)
      (Performed around started s (.began :: .looked false :: journal) around.attempt)
      (Over plan around started s base) :=
    perform_leads (fun _ => .escaped hpending) fun _ _ _ hattempt => .escaped hattempt rfl
  unfold attempt
  refine .bind hbegin fun _ => .bind hperform fun answer => ?_
  match answer with
  | .error e =>
      intro run hrun
      obtain ⟨t, h, hattempt⟩ := hrun
      exact h.over (.refused hpending) (.refused hattempt rfl)
  | .ok (.interrupted stop) =>
      have hinterrupted : Leads
          (Performed around started s (.began :: .looked false :: journal) around.attempt
            (.ok (.interrupted stop)))
          (enter (.attempted (.interrupted stop)))
          (fun _ => Stands around started s
            (.attempted (.interrupted stop) :: .began :: .looked false :: journal))
          (Over plan around started s base) := by
        intro run hrun
        obtain ⟨t, h, hattempt⟩ := hrun
        exact h.enter (.interrupted hattempt) rfl
      exact .bind hinterrupted fun _ => interrupt_leads hpending
  | .ok (.evaluated e) =>
      have hdecided : Leads
          (Performed around started s (.began :: .looked false :: journal) around.attempt
            (.ok (.evaluated e)))
          ((enter (.attempted (.evaluated e)) >>= fun _ => record around e.passed e.reason) >>=
            fun _ => decide plan around e)
          (fun _ run => e.LeavesOpen plan.kind ∧
            Stands around started s
              (.attempted (.evaluated e) :: .began :: .looked false :: journal) run)
          (Over plan around started s base) :=
        .bind record_leads fun _ => decide_leads hpending
      rw [bind_assoc] at hdecided
      exact hdecided.mono fun _ run h => ⟨e, h⟩

theorem pause_leads {d : Span} (hpending : Pending plan base .judged journal)
    (hd : d < plan.timeout) :
    Leads (Stands around started s (.elapsed d :: .looked false :: journal))
      (pause plan around (plan.timeout.sub d))
      (fun _ => Stands around started s
        (.paused (min plan.interval (plan.timeout - d)) :: .elapsed d :: .looked false :: journal))
      (Over plan around started s base) := by
  refine .bind (perform_leads (fun _ => .disturbed hpending hd)
    fun _ _ _ hsleep => .disturbed hsleep rfl) fun _ => ?_
  intro run hrun
  obtain ⟨t, h, hsleep⟩ := hrun
  exact h.enter (.paused hsleep) rfl

/-! ## Rounds -/

/-- One round of the loop that goes on makes an attempt which leaves the run
open, pauses, and has time left both before and after the pause. -/
theorem round_leads (hpending : Pending plan base .opening journal) :
    Leads (Stands around started s journal) (round plan around)
      (fun _ run => ∃ (e : Evaluation) (d d' : Span), e.LeavesOpen plan.kind ∧
        d < plan.timeout ∧ d' < plan.timeout ∧
        Stands around started s
          (.elapsed d' :: .looked false :: .paused (min plan.interval (plan.timeout - d)) ::
            .elapsed d :: .looked false :: .attempted (.evaluated e) :: .began ::
            .looked false :: journal) run)
      (Over plan around started s base) := by
  unfold round
  refine .bind (stopIfDone_leads hpending) fun _ => .bind (attempt_leads hpending) fun _ => ?_
  intro run hrun
  obtain ⟨e, hopen, h⟩ := hrun
  have hjudged := Pending.judged hpending hopen
  refine Leads.bind (stopIfDone_leads hjudged) (fun _ => .bind elapsed_leads fun d => ?_) run h
  by_cases hd : d < plan.timeout
  · have hleft : plan.timeout.sub d ≠ 0 := Nat.sub_ne_zero_of_lt hd
    have hrested := Pending.rested hjudged hd
    rw [if_neg hleft]
    refine .bind (pause_leads hjudged hd) fun _ => .bind (stopIfDone_leads hrested) fun _ =>
      .bind elapsed_leads fun d' => ?_
    by_cases hd' : d' < plan.timeout
    · rw [if_neg (Nat.not_le.2 hd')]
      exact .pure fun run h => ⟨e, d, d', hopen, hd, hd', h⟩
    · have hd' := Nat.not_lt.1 hd'
      rw [if_pos hd']
      exact expire_leads hrested (by decide) hd'
  · have hd := Nat.not_lt.1 hd
    have hleft : plan.timeout.sub d = 0 := Nat.sub_eq_zero_of_le hd
    have hexpired : Leads (Stands around started s _) (expire plan around) (fun _ _ => False)
        (Over plan around started s base) :=
      expire_leads hjudged (by decide) hd
    rw [if_pos hleft]
    exact .bind hexpired fun _ _ h => h.elim

/-- A run to which nothing has happened has kept account. -/
theorem stands_starting (around : Surroundings σ) (started : Span) (s : σ) :
    Stands around started s [] (Run.starting started s) where
  journal_eq := rfl
  started_eq := rfl
  verdict_eq := rfl
  course := .nil

/-- Any number of rounds keeps account, and either decides nothing or ends
the run. -/
theorem rounds_leads (n : Nat) :
    Leads
      (fun run : Run σ => Pending plan base .opening run.journal ∧
        Stands around started s run.journal run)
      (rounds plan around n)
      (fun _ run => Pending plan base .opening run.journal ∧
        Stands around started s run.journal run)
      (Over plan around started s base) := by
  induction n with
  | zero => exact .pure fun run h => h
  | succ n ih =>
      intro run hrun
      obtain ⟨hpending, h⟩ := hrun
      unfold rounds
      refine Leads.bind (round_leads hpending) (fun _ => ?_) run h
      intro next hrun
      obtain ⟨e, d, d', hopen, hd, hd', h⟩ := hrun
      refine ih next ⟨?_, ?_⟩
      · rw [h.journal_eq]
        exact .resumed (.rested (.judged hpending hopen) hd) hd'
      · rw [h.journal_eq]
        exact h

end Polling

/-! ## The run of an assertion -/

section

variable [ReasonLog σ] [HasCheckers σ] [HasContexts σ] [HasDesk σ] {poller : Poller σ}
  {assertion : Assertion σ} {limit : Nat} {s : σ} {run : Run σ}

/-- The slip that the run of an assertion attaches if it starts in a given
world. -/
def Assertion.slip? (assertion : Assertion σ) (s : σ) : Option Attachment :=
  (Progress.attach? assertion.settings.context? s).1

namespace Poller

/-- What the run of an assertion deals with if it starts in a given world. -/
def scene (poller : Poller σ) (assertion : Assertion σ) (s : σ) : Surroundings σ :=
  poller.surroundings assertion (assertion.slip? s)

/-- The run of an assertion before its first round: the slip has been
attached and the clock has been read. -/
def outset (poller : Poller σ) (assertion : Assertion σ) (s : σ) : Run σ :=
  let (started, world) := poller.clock.now (Progress.attach? assertion.settings.context? s).2
  Run.starting started world

theorem run_eq (poller : Poller σ) (assertion : Assertion σ) (limit : Nat) (s : σ) :
    poller.run assertion limit s =
      match Polling.rounds (assertion.plan poller.defaults) (poller.scene assertion s) limit
          (poller.outset assertion s) with
      | .ok _ run =>
          (none, { run with world := Progress.detach (assertion.slip? s) run.world })
      | .error ending run =>
          (some ending, { run with world := Progress.detach (assertion.slip? s) run.world }) :=
  rfl

/-- A run has ended if its rounds have. -/
theorem run_eq_some_iff {ending : Ending} :
    poller.run assertion limit s = (some ending, run) ↔
      ∃ final, Polling.rounds (assertion.plan poller.defaults) (poller.scene assertion s) limit
          (poller.outset assertion s) = .error ending final ∧
        run = { final with world := Progress.detach (assertion.slip? s) final.world } := by
  rw [run_eq]
  split
  · rename_i hrounds
    rw [hrounds]
    simp
  · rename_i final hrounds
    rw [hrounds]
    constructor
    · intro h
      cases h
      exact ⟨final, rfl, rfl⟩
    · intro h
      obtain ⟨_, heq, rfl⟩ := h
      cases heq
      rfl

/-- A run that ends in its first round needs no more than one. -/
theorem run_of_round {ending : Ending} {final : Run σ}
    (h : Polling.round (assertion.plan poller.defaults) (poller.scene assertion s)
      (poller.outset assertion s) = .error ending final) (limit : Nat) :
    poller.run assertion (limit + 1) s =
      (some ending, { final with world := Progress.detach (assertion.slip? s) final.world }) := by
  refine run_eq_some_iff.2 ⟨final, ?_, rfl⟩
  rw [Polling.rounds_succ, h]

theorem run_eq_of_fst {ending? : Option Ending} (h : (poller.run assertion limit s).1 = ending?) :
    poller.run assertion limit s = (ending?, (poller.run assertion limit s).2) := by
  rw [← h]

/-- A run that has not ended has decided nothing and has kept account. -/
theorem run_stands (h : poller.run assertion limit s = (none, run)) :
    ∃ t, Pending (assertion.plan poller.defaults) [] .opening run.journal ∧
      Course (poller.scene assertion s) (poller.outset assertion s).started
        (poller.outset assertion s).world run.journal t ∧
      run.world = Progress.detach (assertion.slip? s) t := by
  rw [run_eq] at h
  split at h
  · rename_i final hrounds
    obtain ⟨hpending, hstands⟩ :=
      (Polling.rounds_leads limit).ok ⟨.starting, Polling.stands_starting _ _ _⟩ hrounds
    cases h
    exact ⟨final.world, hpending, hstands.course, rfl⟩
  · cases h

/-- A run that has ended has done so as its journal says, and has kept
account. -/
theorem run_over {ending : Ending} (h : poller.run assertion limit s = (some ending, run)) :
    ∃ t u, Concluded (assertion.plan poller.defaults) [] run.journal ending ∧
      Course (poller.scene assertion s) (poller.outset assertion s).started
        (poller.outset assertion s).world run.journal t ∧
      Leaves (poller.scene assertion s) run.journal ending t u ∧
      run.world = Progress.detach (assertion.slip? s) u := by
  obtain ⟨final, hrounds, rfl⟩ := run_eq_some_iff.1 h
  obtain ⟨hconcluded, t, hcourse, hleaves⟩ :=
    (Polling.rounds_leads limit).error ⟨.starting, Polling.stands_starting _ _ _⟩ hrounds
  exact ⟨t, final.world, hconcluded, hcourse, hleaves, rfl⟩

end Poller

end

/-! ## A small assertion -/

section

variable [HasVirtualClock σ]

/-- Matches from some time on, whatever the subject is. -/
def Matcher.since (time : Span) : Matcher σ Datum :=
  Judge.toMatcher
    { verdict := fun _ s => .ok (.ok (decide (time ≤ (HasVirtualClock.part.get s).now))) s
      failureText := fun _ => return "too early"
      negatedText := fun _ => return "too late"
      hint := fun _ => return none }

/-- Observes nothing in particular until some time has come, or as long as it
has not. -/
def Assertion.since (kind : Kind) (positive : Bool) (timeout interval time : Span) :
    Assertion σ where
  kind := kind
  probe := .observed (.ofString "")
  settings := ⟨some timeout, some interval, none, []⟩
  matcher := .since time
  positive := positive
  description? := none

/-- Its attempts leave the world as it is. -/
theorem Assertion.attempt_since [ReasonLog σ] [HasCheckers σ] (kind : Kind) (positive : Bool)
    (timeout interval time : Span) (s : σ) :
    ∃ answer, (Assertion.since kind positive timeout interval time).attempt s = .ok answer s := by
  cases hverdict : decide (time ≤ (HasVirtualClock.part.get s).now) <;> cases positive <;>
    cases kind <;>
    exact ⟨_, by
      simp [attempt, since, Matcher.since, Judge.toMatcher, Probe.invoke, Probe.returnsNothing,
        Probe.shape?, Invocation.evaluate, Invocation.evaluateValue, unexpectedExtra?,
        Judge.evaluate, Judge.textFor, wantsHints, Probe.isObserved, bind, EStateM.bind, pure,
        EStateM.pure, hverdict]
      rfl⟩

/-- Polls on the virtual clock. -/
def Poller.virtual [HasContexts σ] [HasRecorder σ] : Poller σ := ⟨.builtIn, .recording, .virtual⟩

end

end PollingAssertions
