import PollingAssertions.Proofs.Polling.Course

/-!
# Two runs in lockstep

A *consistently* run and an *eventually* run are watched side by side, each in
its own surroundings. As long as the surroundings give them the same answers
they do the same: they look at their contexts, make their attempts and pause
together, until one of them is decided. Which one that is and how it is decided
depends on what the two runs want.

Run against run, a step either goes on in both, or one of the two runs is lost
in the step, and then it does not matter what the other one does
(`Polling.Alongside`). So nothing has to be said about a run whose companion
has stopped.

In what follows names with a prime belong to the *eventually* run.

## Main definitions

* `Alike` — two actions come to the same.
* `Evaluation.Agrees`, `Judgement.Agrees` — what the results of one attempt
  have in common.
* `InStep` — surroundings that give two runs the same answers.
* `Polling.Level` — two runs at the same point.
* `Polling.Alongside` — a step of one run beside a step of the other.

## Main results

* `Polling.round_alongside`, `Polling.rounds_alongside` — if the *eventually*
  run wants the opposite, each round loses one of the runs or leaves them level.
* `Polling.first_round_alongside`, `Polling.passed_first` — if it wants the
  same, the first round already loses one of them.
-/

namespace PollingAssertions

variable {σ : Type}

/-! ## The same answers -/

/-- Two actions come to the same: both return, with answers that go together
and in worlds that are the same, or both unwind. After an answer that is
`alone` it does not matter whether the second action unwinds. -/
inductive Alike {α β : Type} (same : σ → σ → Prop) (together : α → β → Prop) (alone : α → Prop) :
    EStateM.Result Payload σ α → EStateM.Result Payload σ β → Prop
  | returned {a : α} {b : β} {v w : σ} :
      together a b → same v w → Alike same together alone (.ok a v) (.ok b w)
  | unwound {payload payload' : Payload} {v w : σ} :
      Alike same together alone (.error payload v) (.error payload' w)
  | parted {a : α} {payload : Payload} {v w : σ} :
      alone a → Alike same together alone (.ok a v) (.error payload w)

/-- What evaluations of the same thing have in common, if the second one asks
for the same (`positive`) or for the opposite. A failure to evaluate anything is
bad in either case. -/
structure Evaluation.Agrees (positive : Bool) (e e' : Evaluation) : Prop where
  stop?_eq : e.stop? = e'.stop?
  passed_eq : positive = true → e.passed = e'.passed
  passed_ne : positive = false → e.passed = true → e'.passed = false

/-- What judgements of the same attempt have in common. -/
inductive Judgement.Agrees (positive : Bool) : Judgement → Judgement → Prop
  | evaluated {e e' : Evaluation} :
      e.Agrees positive e' → Judgement.Agrees positive (.evaluated e) (.evaluated e')
  | interrupted {stop : StopSignal} :
      Judgement.Agrees positive (.interrupted stop) (.interrupted stop)

/-- A judgement after which the other run may want a hint, for which this one
never asks. -/
def Judgement.MayHint (positive : Bool) (judgement : Judgement) : Prop :=
  ∃ e, judgement = .evaluated e ∧ (positive = true → e.passed = false)

/-- Both are errors, or both are values that go together. -/
inductive InBoth {α β ε : Type} (together : α → β → Prop) : Except ε α → Except ε β → Prop
  | ok {a : α} {b : β} : together a b → InBoth together (.ok a) (.ok b)
  | error {e e' : ε} : InBoth together (.error e) (.error e')

/-- Attempts of two runs come to the same. -/
def AttemptsAlike (same : σ → σ → Prop) (positive : Bool) :
    EStateM.Result Payload σ (Except ConfigError Judgement) →
      EStateM.Result Payload σ (Except ConfigError Judgement) → Prop :=
  Alike same (InBoth (Judgement.Agrees positive))
    fun answer => ∃ judgement, answer = .ok judgement ∧ judgement.MayHint positive

/-- Surroundings that give two runs the same answers. -/
structure InStep (same : σ → σ → Prop) (positive : Bool) (around around' : Surroundings σ) :
    Prop where
  now : ∀ v w, same v w →
    (around.now v).1 = (around'.now w).1 ∧ same (around.now v).2 (around'.now w).2
  cancelled : ∀ v w, same v w →
    (around.cancelled v).1 = (around'.cancelled w).1 ∧
      same (around.cancelled v).2 (around'.cancelled w).2
  sleep : ∀ d v w, same v w →
    Alike same (fun _ _ => True) (fun _ => False) (around.sleep d v) (around'.sleep d w)
  attempt : ∀ v w, same v w → AttemptsAlike same positive (around.attempt v) (around'.attempt w)
  publish : ∀ reason reason' v w, same v w →
    same (around.publish reason v) (around'.publish reason' w)

/-- The run has failed, in whatever way. -/
def Ending.Failed : Ending → Prop
  | .failed _ _ _ => True
  | _ => False

theorem Ending.Failed.ne_passed {ending : Ending} (h : ending.Failed) : ending ≠ .passed := by
  intro hpassed
  rw [hpassed] at h
  exact h

namespace Polling

variable {α β γ δ : Type}

/-! ## Steps beside each other -/

/-- A step of one run beside a step of the other: one of the runs is lost, or
both go on. -/
def Alongside (lost lost' : Ending → Run σ → Prop) (before : Run σ → Run σ → Prop)
    (x : Polling σ α) (y : Polling σ β) (after : α → β → Run σ → Run σ → Prop) : Prop :=
  ∀ run run', before run run' →
    (∃ ending final, x run = .error ending final ∧ lost ending final) ∨
      (∃ ending final, y run' = .error ending final ∧ lost' ending final) ∨
      ∃ a b next next', x run = .ok a next ∧ y run' = .ok b next' ∧ after a b next next'

namespace Alongside

variable {lost lost' : Ending → Run σ → Prop} {before : Run σ → Run σ → Prop}
  {x : Polling σ α} {y : Polling σ β} {f : α → Polling σ γ} {g : β → Polling σ δ}
  {between : α → β → Run σ → Run σ → Prop} {after : γ → δ → Run σ → Run σ → Prop}

theorem bind (hxy : Alongside lost lost' before x y between)
    (hfg : ∀ a b, Alongside lost lost' (between a b) (f a) (g b) after) :
    Alongside lost lost' before (x >>= f) (y >>= g) after := by
  intro run run' h
  show (∃ ending final, EStateM.bind x f run = .error ending final ∧ lost ending final) ∨
    (∃ ending final, EStateM.bind y g run' = .error ending final ∧ lost' ending final) ∨
    ∃ c d next next', EStateM.bind x f run = .ok c next ∧ EStateM.bind y g run' = .ok d next' ∧
      after c d next next'
  unfold EStateM.bind
  rcases hxy run run' h with ⟨ending, final, hx, hlost⟩ | ⟨ending, final, hy, hlost⟩ |
    ⟨a, b, next, next', hx, hy, hbetween⟩
  · rw [hx]
    exact .inl ⟨ending, final, rfl, hlost⟩
  · rw [hy]
    exact .inr (.inl ⟨ending, final, rfl, hlost⟩)
  · rw [hx, hy]
    exact hfg a b next next' hbetween

/-- Whatever the other run does, a run that ends is lost. -/
theorem lose (h : ∀ run run', before run run' →
    ∃ ending final, x run = .error ending final ∧ lost ending final) :
    Alongside lost lost' before x y between :=
  fun run run' hrun => .inl (h run run' hrun)

@[inherit_doc lose] theorem lose' (h : ∀ run run', before run run' →
    ∃ ending final, y run' = .error ending final ∧ lost' ending final) :
    Alongside lost lost' before x y between :=
  fun run run' hrun => .inr (.inl (h run run' hrun))

/-- What a step of the first run keeps it also keeps beside the other run. -/
theorem keep {p : Run σ → Prop} (hxy : Alongside lost lost' before x y between)
    (hkeep : ∀ run a next, p run → x run = .ok a next → p next) :
    Alongside lost lost' (fun run run' => p run ∧ before run run') x y
      (fun a b run run' => p run ∧ between a b run run') := by
  intro run run' h
  obtain ⟨hp, hrun⟩ := h
  rcases hxy run run' hrun with hlost | hlost | ⟨a, b, next, next', hx, hy, hbetween⟩
  · exact .inl hlost
  · exact .inr (.inl hlost)
  · exact .inr (.inr ⟨a, b, next, next', hx, hy, hkeep run a next hp hx, hbetween⟩)

theorem pure {c : γ} {d : δ} (h : ∀ run run', before run run' → after c d run run') :
    Alongside lost lost' before (Pure.pure c : Polling σ γ) (Pure.pure d : Polling σ δ) after :=
  fun run run' hrun => .inr (.inr ⟨c, d, run, run', rfl, rfl, h run run' hrun⟩)

/-- A fact that does not depend on the runs can be had before the step. -/
theorem pull {p : Prop} (h : p → Alongside lost lost' before x y between) :
    Alongside lost lost' (fun run run' => p ∧ before run run') x y between :=
  fun run run' hrun => h hrun.1 run run' hrun.2

end Alongside

/-- Two runs are at the same point: in worlds that are the same, after the same
number of attempts. -/
structure Level (same : σ → σ → Prop) (n : Nat) (run run' : Run σ) : Prop where
  same_world : same run.world run'.world
  started_eq : run.started = run'.started
  attempts_eq : (Journal.attempts run.journal).length = n
  attempts_eq' : (Journal.attempts run'.journal).length = n

variable {same : σ → σ → Prop} {positive : Bool} {around around' : Surroundings σ}
  {plan plan' : Plan} {lost lost' : Ending → Run σ → Prop} {n : Nat}

theorem look_alongside (h : InStep same positive around around') :
    Alongside lost lost' (Level same n) (look around) (look around')
      (fun done done' run run' => done = done' ∧ Level same n run run') := by
  intro run run' hlevel
  obtain ⟨hdone, hsame⟩ := h.cancelled _ _ hlevel.same_world
  refine .inr (.inr ⟨_, _, _, _, rfl, rfl, hdone, ?_⟩)
  exact ⟨hsame, hlevel.started_eq, hlevel.attempts_eq, hlevel.attempts_eq'⟩

theorem elapsed_alongside (h : InStep same positive around around') :
    Alongside lost lost' (Level same n) (elapsed around) (elapsed around')
      (fun d d' run run' => d = d' ∧ Level same n run run') := by
  intro run run' hlevel
  obtain ⟨hnow, hsame⟩ := h.now _ _ hlevel.same_world
  refine .inr (.inr ⟨_, _, _, _, rfl, rfl, ?_, ?_⟩)
  · show Span.sub (around.now run.world).1 run.started =
      Span.sub (around'.now run'.world).1 run'.started
    rw [hnow, hlevel.started_eq]
  · exact ⟨hsame, hlevel.started_eq, hlevel.attempts_eq, hlevel.attempts_eq'⟩

/-- A look that finds the contexts done makes both runs fail. -/
theorem stopIfDone_alongside (h : InStep same positive around around')
    (hlost : (∀ termination reason d final, lost (.failed termination reason d) final) ∨
      ∀ termination reason d final, lost' (.failed termination reason d) final) :
    Alongside lost lost' (Level same n) (stopIfDone around) (stopIfDone around')
      (fun _ _ => Level same n) := by
  unfold stopIfDone
  refine .bind (look_alongside h) fun done done' => .pull fun hdone => ?_
  subst hdone
  cases done with
  | false => exact .pure fun run run' hlevel => hlevel
  | true =>
      rcases hlost with hlost | hlost
      · exact .lose fun run run' _ => ⟨_, _, rfl, hlost _ _ _ _⟩
      · exact .lose' fun run run' _ => ⟨_, _, rfl, hlost _ _ _ _⟩

theorem stopIfDone_keeps_verdict {run next : Run σ} {a : Unit}
    (h : stopIfDone around run = .ok a next) : next.verdict? = run.verdict? := by
  have hlook : stopIfDone around run =
      (if (around.cancelled run.world).1 then
        lastReason >>= fun reason => fail around .cancelled reason
      else Pure.pure () : Polling σ Unit)
        { run with
          world := (around.cancelled run.world).2
          journal := .looked (around.cancelled run.world).1 :: run.journal } := rfl
  rw [hlook] at h
  cases hdone : (around.cancelled run.world).1 with
  | true =>
      rw [hdone, if_pos rfl] at h
      cases h
  | false =>
      rw [hdone, if_neg Bool.false_ne_true] at h
      cases h
      rfl

/-! ## Single steps -/

section

variable {run : Run σ}

theorem bind_ok {x : Polling σ α} {f : α → Polling σ β} {next : Run σ} {a : α}
    (h : x run = .ok a next) : (x >>= f) run = f a next := by
  simp only [bind, EStateM.bind, h]

theorem bind_error {x : Polling σ α} {f : α → Polling σ β} {ending : Ending} {final : Run σ}
    (h : x run = .error ending final) : (x >>= f) run = .error ending final := by
  simp only [bind, EStateM.bind, h]

theorem perform_ok {x : Action σ α} {a : α} {t : σ} (h : x run.world = .ok a t) :
    perform x run = .ok a { run with world := t } := by
  unfold perform
  rw [h]

theorem perform_error {x : Action σ α} {payload : Payload} {t : σ}
    (h : x run.world = .error payload t) :
    perform x run = .error (.escaped payload) { run with world := t } := by
  unfold perform
  rw [h]

end

/-! ## How runs are lost -/

section

variable {run : Run σ} {timeout interval : Span} {e : Evaluation}

/-- A step makes the run fail, without another attempt. -/
def Fails (x : Polling σ Unit) (run : Run σ) : Prop :=
  ∃ ending final, x run = .error ending final ∧ ending.Failed ∧
    Journal.attempts final.journal = Journal.attempts run.journal

theorem fail_fails (termination : Termination) (reason : String) :
    Fails (fail around termination reason) run :=
  ⟨_, _, rfl, .intro, rfl⟩

/-- How a *consistently* run is lost to an *eventually* run that wants the
opposite: after so many attempts it has failed with one that did not pass. -/
def FailedAfter (n : Nat) (ending : Ending) (final : Run σ) : Prop :=
  ending.Failed ∧ ∃ e earlier,
    Journal.attempts final.journal = some (.evaluated e) :: earlier ∧ e.passed = false ∧
      earlier.length = n

/-- How that *eventually* run is lost: it has not passed. -/
def NotPassed (ending : Ending) (_ : Run σ) : Prop := ending ≠ .passed

theorem notPassed_failed (termination : Termination) (reason : String) (d : Span)
    (final : Run σ) : NotPassed (.failed termination reason d) final := by
  intro h
  cases h

theorem notPassed_refused (e : ConfigError) (final : Run σ) : NotPassed (.refused e) final := by
  intro h
  cases h

theorem notPassed_escaped (payload : Payload) (final : Run σ) :
    NotPassed (.escaped payload) final := by
  intro h
  cases h

/-- How an *eventually* run is lost to a *consistently* run that wants the same:
after so many attempts it has passed with one more. -/
def PassedAfter (n : Nat) (ending : Ending) (final : Run σ) : Prop :=
  ending = .passed ∧ (Journal.attempts final.journal).length = n + 1

theorem Fails.failedAfter {x : Polling σ Unit} {earlier : List (Option Judgement)}
    (h : Fails x run) (hattempts : Journal.attempts run.journal = some (.evaluated e) :: earlier)
    (hpassed : e.passed = false) (hearlier : earlier.length = n) :
    ∃ ending final, x run = .error ending final ∧ FailedAfter n ending final := by
  obtain ⟨ending, final, hx, hfailed, hfinal⟩ := h
  rw [hattempts] at hfinal
  exact ⟨ending, final, hx, hfailed, e, earlier, hfinal, hpassed, hearlier⟩

theorem Fails.notPassed {x : Polling σ Unit} (h : Fails x run) :
    ∃ ending final, x run = .error ending final ∧ NotPassed ending final := by
  obtain ⟨ending, final, hx, hfailed, _⟩ := h
  exact ⟨ending, final, hx, hfailed.ne_passed⟩

theorem pause_alongside (h : InStep same positive around around') (left : Span) :
    Alongside lost NotPassed (Level same n) (pause ⟨.consistently, timeout, interval⟩ around left)
      (pause ⟨.eventually, timeout, interval⟩ around' left) (fun _ _ => Level same n) := by
  intro run run' hlevel
  have hsleep := h.sleep (min interval left) _ _ hlevel.same_world
  generalize hx : around.sleep (min interval left) run.world = x at hsleep
  generalize hy : around'.sleep (min interval left) run'.world = y at hsleep
  unfold pause
  cases hsleep with
  | returned _ hsame =>
      refine .inr (.inr ⟨_, _, _, _, bind_ok (perform_ok hx), bind_ok (perform_ok hy), ?_⟩)
      exact ⟨hsame, hlevel.started_eq, hlevel.attempts_eq, hlevel.attempts_eq'⟩
  | unwound => exact .inr (.inl ⟨_, _, bind_error (perform_error hy), notPassed_escaped _ _⟩)
  | parted h => exact h.elim

/-- An *eventually* run does not outlast its time. -/
theorem expire_alongside {before : Run σ → Run σ → Prop} {x : Polling σ Unit}
    {after : Unit → Unit → Run σ → Run σ → Prop} :
    Alongside lost NotPassed before x (expire ⟨.eventually, timeout, interval⟩ around') after :=
  .lose' fun _ run' _ => (fail_fails .timedOut (run'.verdict?.elim "" (·.reason))).notPassed

end

/-! ## What an attempt decides -/

section

variable {run : Run σ}

/-- A run that has just begun an attempt. -/
def begun (run : Run σ) : Run σ := { run with journal := .began :: run.journal }

theorem enter_began : enter .began run = .ok () (begun run) := rfl

variable [ReasonLog σ]

theorem attempt_evaluated {e : Evaluation} {t : σ}
    (h : around.attempt run.world = .ok (.ok (.evaluated e)) t) :
    attempt plan around run = decide plan around e
      { run with
        world := around.publish e.reason t
        verdict? := some ⟨e.passed, e.reason⟩
        journal := .attempted (.evaluated e) :: .began :: run.journal } := by
  have hperformed : perform around.attempt (begun run) =
      .ok (.ok (.evaluated e)) { begun run with world := t } := perform_ok h
  unfold attempt
  rw [bind_ok enter_began, bind_ok hperformed]
  rfl

theorem attempt_interrupted {stop : StopSignal} {t : σ}
    (h : around.attempt run.world = .ok (.ok (.interrupted stop)) t) :
    attempt plan around run = interrupt plan around stop
      { run with
        world := t
        journal := .attempted (.interrupted stop) :: .began :: run.journal } := by
  have hperformed : perform around.attempt (begun run) =
      .ok (.ok (.interrupted stop)) { begun run with world := t } := perform_ok h
  unfold attempt
  rw [bind_ok enter_began, bind_ok hperformed]
  rfl

theorem attempt_refused {e : ConfigError} {t : σ}
    (h : around.attempt run.world = .ok (.error e) t) :
    attempt plan around run = .error (.refused e) { begun run with world := t } := by
  have hperformed : perform around.attempt (begun run) =
      .ok (.error e) { begun run with world := t } := perform_ok h
  unfold attempt
  rw [bind_ok enter_began, bind_ok hperformed]
  rfl

theorem attempt_unwound {payload : Payload} {t : σ}
    (h : around.attempt run.world = .error payload t) :
    attempt plan around run = .error (.escaped payload) { begun run with world := t } := by
  have hperformed : perform around.attempt (begun run) =
      .error (.escaped payload) { begun run with world := t } := perform_error h
  unfold attempt
  rw [bind_ok enter_began, bind_error hperformed]

variable {timeout interval : Span} {e : Evaluation} {stop : StopSignal}

theorem failStopped_fails (stop : StopSignal) (reason : String) :
    Fails (failStopped around stop reason) run :=
  ⟨_, _, rfl, .intro, rfl⟩

/-- An *eventually* run always fails with a raised stop signal. -/
theorem interrupt_eventually_fails :
    Fails (interrupt ⟨.eventually, timeout, interval⟩ around stop) run :=
  failStopped_fails stop (run.verdict?.elim "" (·.reason))

/-- A *consistently* run fails with a signal raised by its first attempt. -/
theorem interrupt_fails (hverdict : run.verdict? = none) :
    Fails (interrupt ⟨.consistently, timeout, interval⟩ around stop) run := by
  have hget : (get : Polling σ (Run σ)) run = .ok run run := rfl
  unfold interrupt Fails
  rw [bind_ok hget, hverdict]
  exact failStopped_fails stop (run.verdict?.elim "" (·.reason))

/-- A *consistently* run fails with an attempt that did not pass. -/
theorem decide_consistently_fails (hpassed : e.passed = false) :
    Fails (decide ⟨.consistently, timeout, interval⟩ around e) run := by
  unfold decide
  rw [hpassed]
  cases e.stop? with
  | some stop => exact failStopped_fails stop e.reason
  | none => exact fail_fails .failed e.reason

/-- An *eventually* run fails with a signal that came with an attempt which did
not pass. -/
theorem decide_eventually_fails (hpassed : e.passed = false) (hstop : e.stop? = some stop) :
    Fails (decide ⟨.eventually, timeout, interval⟩ around e) run := by
  unfold decide
  rw [hpassed, hstop]
  exact failStopped_fails stop e.reason

/-! ## Runs that want the opposite -/

/-- Unless one of the runs is decided, the attempt has passed in the
*consistently* run only, and brought neither a signal nor a hint. -/
theorem decide_alongside {e' : Evaluation} (h : e.Agrees false e') :
    Alongside (FailedAfter n) NotPassed
      (fun run run' =>
        (∃ earlier, Journal.attempts run.journal = some (.evaluated e) :: earlier ∧
          earlier.length = n) ∧
        Level same (n + 1) run run')
      (decide ⟨.consistently, timeout, interval⟩ around e)
      (decide ⟨.eventually, timeout, interval⟩ around' e') (fun _ _ => Level same (n + 1)) := by
  intro run run' hruns
  obtain ⟨⟨earlier, hattempts, hearlier⟩, hlevel⟩ := hruns
  by_cases hpassed : e.passed = false
  · exact .inl ((decide_consistently_fails hpassed).failedAfter hattempts hpassed hearlier)
  have hpassed := Bool.of_not_eq_false hpassed
  have hpassed' := h.passed_ne rfl hpassed
  cases hstop : e'.stop? with
  | some stop => exact .inr (.inl (decide_eventually_fails hpassed' hstop).notPassed)
  | none =>
      have hstop' := h.stop?_eq.trans hstop
      unfold decide
      rw [hpassed, hpassed', hstop, hstop']
      cases hhint : e'.hint? with
      | some hint => exact .inr (.inl (fail_fails .noFutureChange hint).notPassed)
      | none => exact .inr (.inr ⟨_, _, _, _, rfl, rfl, hlevel⟩)

/-- One of the two attempts decides its run, or they leave the runs level. -/
theorem attempt_alongside (h : InStep same false around around') :
    Alongside (FailedAfter n) NotPassed (Level same n)
      (attempt ⟨.consistently, timeout, interval⟩ around)
      (attempt ⟨.eventually, timeout, interval⟩ around') (fun _ _ => Level same (n + 1)) := by
  intro run run' hlevel
  have hattempts := h.attempt _ _ hlevel.same_world
  generalize hx : around.attempt run.world = x at hattempts
  generalize hy : around'.attempt run'.world = y at hattempts
  cases hattempts with
  | unwound | parted =>
      exact .inr (.inl ⟨_, _, attempt_unwound hy, notPassed_escaped _ _⟩)
  | returned hanswers hsame =>
      cases hanswers with
      | error =>
          exact .inr (.inl ⟨_, _, attempt_refused hy, notPassed_refused _ _⟩)
      | ok hjudgements =>
          cases hjudgements with
          | interrupted =>
              rw [attempt_interrupted hy]
              exact .inr (.inl interrupt_eventually_fails.notPassed)
          | evaluated hagrees =>
              rw [attempt_evaluated hx, attempt_evaluated hy]
              refine decide_alongside hagrees _ _ ⟨⟨_, rfl, hlevel.attempts_eq⟩, ?_⟩
              exact
                { same_world := h.publish _ _ _ _ hsame
                  started_eq := hlevel.started_eq
                  attempts_eq := congrArg (· + 1) hlevel.attempts_eq
                  attempts_eq' := congrArg (· + 1) hlevel.attempts_eq' }

/-- One round loses one of the runs, or leaves them level after one more
attempt. -/
theorem round_alongside (h : InStep same false around around') :
    Alongside (FailedAfter n) NotPassed (Level same n)
      (round ⟨.consistently, timeout, interval⟩ around)
      (round ⟨.eventually, timeout, interval⟩ around') (fun _ _ => Level same (n + 1)) := by
  unfold round
  refine .bind (stopIfDone_alongside h (.inr notPassed_failed)) fun _ _ =>
    .bind (attempt_alongside h) fun _ _ =>
    .bind (stopIfDone_alongside h (.inr notPassed_failed)) fun _ _ =>
    .bind (elapsed_alongside h) fun d d' => .pull fun hd => ?_
  subst hd
  by_cases hleft : timeout.sub d = 0
  · have hexpired : Alongside (FailedAfter n) NotPassed (Level same (n + 1))
        (expire ⟨.consistently, timeout, interval⟩ around)
        (expire ⟨.eventually, timeout, interval⟩ around') (fun _ _ _ _ => False) :=
      expire_alongside
    rw [if_pos hleft, if_pos hleft]
    exact .bind hexpired fun _ _ _ _ h => h.elim
  · rw [if_neg hleft, if_neg hleft]
    refine .bind (pause_alongside h _) fun _ _ =>
      .bind (stopIfDone_alongside h (.inr notPassed_failed)) fun _ _ =>
      .bind (elapsed_alongside h) fun d d' => .pull fun hd => ?_
    subst hd
    by_cases hover : timeout ≤ d
    · rw [if_pos hover, if_pos hover]
      exact expire_alongside
    · rw [if_neg hover, if_neg hover]
      exact .pure fun run run' hlevel => hlevel

/-- Any number of rounds loses one of the runs or leaves them level. If it is
the *consistently* run, it has failed no later than the other one can pass. -/
theorem rounds_alongside (h : InStep same false around around') (k : Nat) {started : Span} {s : σ}
    {run run' : Run σ} (hlevel : Level same n run run')
    (hstands : Stands around' started s run'.journal run') :
    (∃ m ending final, rounds ⟨.consistently, timeout, interval⟩ around k run =
        .error ending final ∧ FailedAfter m ending final ∧
      ∀ final', rounds ⟨.eventually, timeout, interval⟩ around' k run' = .error .passed final' →
        m < (Journal.attempts final'.journal).length) ∨
    (∃ ending final', rounds ⟨.eventually, timeout, interval⟩ around' k run' =
      .error ending final' ∧ ending ≠ .passed) ∨
    ∃ next next', rounds ⟨.consistently, timeout, interval⟩ around k run = .ok () next ∧
      rounds ⟨.eventually, timeout, interval⟩ around' k run' = .ok () next' := by
  induction k generalizing n run run' with
  | zero => exact .inr (.inr ⟨_, _, rfl, rfl⟩)
  | succ k ih =>
      rcases round_alongside h run run' hlevel with ⟨ending, final, hround, hfailed⟩ |
        ⟨ending, final', hround', hending⟩ | ⟨_, _, next, next', hround, hround', hnext⟩
      · refine .inl ⟨n, ending, final, ?_, hfailed, fun final' hpassed => ?_⟩
        · rw [rounds_succ, hround]
        · obtain ⟨hconcluded, _⟩ := (rounds_leads (k + 1)).error ⟨.starting, hstands⟩ hpassed
          have hlt := hconcluded.attempts_length_lt rfl
          rw [hlevel.attempts_eq'] at hlt
          exact hlt
      · refine .inr (.inl ⟨ending, final', ?_, hending⟩)
        rw [rounds_succ, hround']
      · have hrounds : rounds ⟨.consistently, timeout, interval⟩ around (k + 1) run =
            rounds ⟨.consistently, timeout, interval⟩ around k next := by
          rw [rounds_succ, hround]
        have hrounds' : rounds ⟨.eventually, timeout, interval⟩ around' (k + 1) run' =
            rounds ⟨.eventually, timeout, interval⟩ around' k next' := by
          rw [rounds_succ, hround']
        obtain ⟨_, _, _, _, _, _, hstands'⟩ := (round_leads .starting).ok hstands hround'
        rw [hrounds, hrounds']
        refine ih hnext ?_
        rw [hstands'.journal_eq]
        exact hstands'

section

variable {started : Span} {s : σ} {run' final final' : Run σ} {limit limit' : Nat}

/-- If the *consistently* run passes, the *eventually* run does not. -/
theorem not_passed (h : InStep same false around around') (hlevel : Level same n run run')
    (hstands : Stands around' started s run'.journal run')
    (hpassed : rounds ⟨.consistently, timeout, interval⟩ around limit run =
      .error .passed final) :
    rounds ⟨.eventually, timeout, interval⟩ around' limit' run' ≠ .error .passed final' := by
  intro hpassed'
  -- a limit that suffices for both runs
  have hcommon := rounds_ended hpassed limit'
  have hcommon' := rounds_ended hpassed' limit
  rw [Nat.add_comm] at hcommon'
  rcases rounds_alongside h (limit + limit') hlevel hstands with
    ⟨_, ending, _, hrounds, hfailed, _⟩ | ⟨ending, _, hrounds', hending⟩ | ⟨_, _, hrounds, _⟩
  · rw [hcommon] at hrounds
    cases hrounds
    exact hfailed.1.ne_passed rfl
  · rw [hcommon'] at hrounds'
    cases hrounds'
    exact hending rfl
  · rw [hcommon] at hrounds
    cases hrounds

/-- If the *eventually* run passes, the *consistently* run fails, and no later. -/
theorem failed_of_passed (h : InStep same false around around') (hlevel : Level same n run run')
    (hstands : Stands around' started s run'.journal run')
    (hpassed' : rounds ⟨.eventually, timeout, interval⟩ around' limit run' =
      .error .passed final') :
    ∃ m ending final, rounds ⟨.consistently, timeout, interval⟩ around limit run =
      .error ending final ∧ FailedAfter m ending final ∧
        m < (Journal.attempts final'.journal).length := by
  rcases rounds_alongside h limit hlevel hstands with
    ⟨m, ending, final, hrounds, hfailed, hlater⟩ | ⟨ending, _, hrounds', hending⟩ |
    ⟨_, _, _, hrounds'⟩
  · exact ⟨m, ending, final, hrounds, hfailed, hlater final' hpassed'⟩
  · rw [hpassed'] at hrounds'
    cases hrounds'
    exact absurd rfl hending
  · rw [hpassed'] at hrounds'
    cases hrounds'

end

/-! ## Runs that want the same -/

/-- The first attempt of a *consistently* run makes it fail, or makes the
*eventually* run pass. -/
theorem first_attempt_alongside (h : InStep same true around around') :
    Alongside NotPassed (PassedAfter n)
      (fun run run' => run.verdict? = none ∧ Level same n run run')
      (attempt ⟨.consistently, timeout, interval⟩ around)
      (attempt ⟨.eventually, timeout, interval⟩ around') (fun _ _ _ _ => False) := by
  intro run run' hruns
  obtain ⟨hverdict, hlevel⟩ := hruns
  have hattempts := h.attempt _ _ hlevel.same_world
  generalize hx : around.attempt run.world = x at hattempts
  generalize hy : around'.attempt run'.world = y at hattempts
  cases hattempts with
  | unwound =>
      exact .inl ⟨_, _, attempt_unwound hx, notPassed_escaped _ _⟩
  | parted hhint =>
      obtain ⟨_, rfl, e, rfl, hpassed⟩ := hhint
      rw [attempt_evaluated hx]
      exact .inl (decide_consistently_fails (hpassed rfl)).notPassed
  | returned hanswers hsame =>
      cases hanswers with
      | error =>
          exact .inl ⟨_, _, attempt_refused hx, notPassed_refused _ _⟩
      | ok hjudgements =>
          cases hjudgements with
          | interrupted =>
              rw [attempt_interrupted hx]
              refine .inl (interrupt_fails ?_).notPassed
              exact hverdict
          | @evaluated e e' hagrees =>
              rw [attempt_evaluated hx, attempt_evaluated hy]
              by_cases hpassed : e.passed = false
              · exact .inl (decide_consistently_fails hpassed).notPassed
              have hpassed := Bool.of_not_eq_false hpassed
              have hpassed' : e'.passed = true := (hagrees.passed_eq rfl).symm.trans hpassed
              have hattempts := congrArg (· + 1) hlevel.attempts_eq'
              refine .inr (.inl ?_)
              unfold decide
              rw [hpassed']
              exact ⟨.passed, _, rfl, rfl, hattempts⟩

/-- The first round makes the *consistently* run fail, or the *eventually* run
pass. -/
theorem first_round_alongside (h : InStep same true around around') :
    Alongside NotPassed (PassedAfter n)
      (fun run run' => run.verdict? = none ∧ Level same n run run')
      (round ⟨.consistently, timeout, interval⟩ around)
      (round ⟨.eventually, timeout, interval⟩ around') (fun _ _ _ _ => False) := by
  have hstop : Alongside NotPassed (PassedAfter n) (Level same n) (stopIfDone around)
      (stopIfDone around') (fun _ _ => Level same n) :=
    stopIfDone_alongside h (.inl notPassed_failed)
  unfold round
  refine .bind (hstop.keep fun run _ next hverdict hnext => ?_) fun _ _ =>
    .bind (first_attempt_alongside h) fun _ _ _ _ h => h.elim
  rw [stopIfDone_keeps_verdict hnext]
  exact hverdict

/-- A *consistently* run passes only if an *eventually* run that wants the same
passes with its first attempt. -/
theorem passed_first (h : InStep same true around around') {limit limit' : Nat}
    {run run' final : Run σ} (hverdict : run.verdict? = none) (hlevel : Level same n run run')
    (hpassed : rounds ⟨.consistently, timeout, interval⟩ around limit run = .error .passed final)
    (hlimit' : 0 < limit') :
    ∃ final', rounds ⟨.eventually, timeout, interval⟩ around' limit' run' =
        .error .passed final' ∧ (Journal.attempts final'.journal).length = n + 1 := by
  cases limit with
  | zero => cases hpassed
  | succ more =>
      obtain ⟨more', rfl⟩ := Nat.exists_eq_succ_of_ne_zero (Nat.ne_of_gt hlimit')
      rw [rounds_succ] at hpassed
      rw [rounds_succ]
      rcases first_round_alongside h run run' ⟨hverdict, hlevel⟩ with
        ⟨ending, failed, hround, hending⟩ | ⟨ending, final', hround', rfl, hfinal'⟩ |
        ⟨_, _, _, _, _, _, hnext⟩
      · rw [hround] at hpassed
        cases hpassed
        exact absurd rfl hending
      · rw [hround']
        exact ⟨final', rfl, hfinal'⟩
      · exact hnext.elim

end

end Polling

end PollingAssertions
