import PollingAssertions.Proofs.Polling.Cancellation
import PollingAssertions.Proofs.Polling.Reporting

/-!
# Calls that end

A call has no limit of attempts; the limit is only there so that it can be followed at
all. A call *finishes* if there is a number of attempts after which the limit makes no
difference any more. On a virtual clock time passes only in the pauses, unless the
probe moves the clock itself. So a call finishes if there is no time at all, or if its
pauses are not empty and the clock can still be moved as far as the time goes; and then
it finishes within the number of attempts there is time for.

Neither condition can be left out. An interval of zero gives way to the default one, but
the default may be zero as well. And a clock that is too close to its end stays there.
In both cases a call that waits for something that does not come goes on for ever.

## Main definitions

* `Poller.Finishes` — the call comes to a result within so many attempts.

## Main results

* `Polling.rounds_attempts` — a round that decides nothing makes one attempt.
* `Poller.conclude_finishes` — calls that finish, and when they do.
* `Poller.run_endless` — calls that do not.
-/

namespace PollingAssertions

/-! ## The interval in effect -/

/-- An interval of zero is in effect only if the default is zero. -/
theorem Settings.interval_pos_iff {settings : Settings} {fallback : Span} :
    0 < settings.interval fallback ↔
      (∃ d, settings.interval? = some d ∧ 0 < d) ∨ 0 < fallback := by
  unfold interval
  cases hinterval : settings.interval? with
  | none => simp
  | some d =>
      by_cases hzero : d = 0
      · subst hzero
        simp
      · have hpos : 0 < d := Nat.pos_of_ne_zero hzero
        simp [hzero, hpos]

/-! ## Rounds make attempts -/

section

variable {σ : Type} [ReasonLog σ] {plan : Plan} {around : Surroundings σ} {started : Span} {s w : σ}
  {base journal : List Event} {phase : Phase}

/-- Each round that decides nothing makes one attempt. -/
theorem Polling.rounds_attempts {n : Nat} {run final : Run σ}
    (hpending : Pending plan base .opening run.journal)
    (hstands : Stands around started s run.journal run)
    (h : rounds plan around n run = .ok () final) :
    (Journal.attempts final.journal).length = (Journal.attempts run.journal).length + n := by
  induction n generalizing run with
  | zero =>
      cases h
      rfl
  | succ n ih =>
      rw [rounds_succ] at h
      cases hround : round plan around run with
      | error ending next =>
          rw [hround] at h
          cases h
      | ok _ next =>
          rw [hround] at h
          obtain ⟨e, d, d', hopen, hd, hd', hnext⟩ := (round_leads hpending).ok hstands hround
          have hjournal := hnext.journal_eq
          have hpending' : Pending plan base .opening next.journal := by
            rw [hjournal]
            exact .resumed (.rested (.judged hpending hopen) hd) hd'
          have hstands' : Stands around started s next.journal next := by
            rw [hjournal]
            exact hnext
          rw [ih hpending' hstands' h, hjournal]
          simp only [Journal.attempts_elapsed, Journal.attempts_looked, Journal.attempts_paused,
            Journal.attempts_attempted, List.length_cons]
          omega

/-- Without any time there is one attempt at most, and nothing is decided only before it or
right after it. -/
theorem Pending.attempts_le_one (h : Pending plan [] phase journal) (htimeout : plan.timeout = 0) :
    phase = .opening ∧ journal = [] ∨
      phase = .judged ∧ (Journal.attempts journal).length = 1 := by
  have hnever : ∀ d, ¬ d < plan.timeout := by
    intro d hd
    rw [htimeout] at hd
    exact Nat.not_lt_zero d hd
  cases h with
  | starting => exact .inl ⟨rfl, rfl⟩
  | @judged journal e hopening hopen =>
      cases hopening with
      | starting => exact .inr ⟨rfl, rfl⟩
      | resumed _ hd => exact absurd hd (hnever _)
  | rested _ hd => exact absurd hd (hnever _)
  | resumed _ hd => exact absurd hd (hnever _)

/-- A run without any time makes one attempt at most. -/
theorem Concluded.attempts_le_one {ending : Ending} (h : Concluded plan [] journal ending)
    (htimeout : plan.timeout = 0) : (Journal.attempts journal).length ≤ 1 := by
  obtain ⟨phase, earlier, hpending, _, _, hattempts⟩ := h.exists_pending
  rcases hpending.attempts_le_one htimeout with ⟨_, rfl⟩ | ⟨hphase, hone⟩
  · rcases hattempts with hsame | ⟨_, a, hmore⟩
    · rw [hsame]
      exact Nat.zero_le 1
    · rw [hmore]
      exact Nat.le_refl 1
  · rcases hattempts with hsame | ⟨hopening, _⟩
    · rw [hsame]
      exact Nat.le_of_eq hone
    · rw [hphase] at hopening
      cases hopening

end

/-- What is true of the time at the start, and stays true in attempts and in pauses, is true as
long as nothing is decided. -/
theorem Pending.time_invariant {σ : Type} [ReasonLog σ] {plan : Plan} {around : Surroundings σ}
    {time : σ → Span} {started : Span} {s w : σ} {phase : Phase} {journal : List Event}
    {calm : Span → Prop} (h : Pending plan [] phase journal) (hticking : Ticking around time)
    (hstart : calm (time s)) (hpause : ∀ t d, calm t → d ≤ plan.interval → calm (t.add d))
    (hattempt : ∀ v answer t, calm (time v) → around.attempt v = .ok answer t → calm (time t))
    (hcourse : Course around started s journal w) : calm (time w) := by
  induction h generalizing w with
  | starting =>
      rw [course_nil] at hcourse
      rw [hcourse]
      exact hstart
  | judged _ _ ih =>
      obtain ⟨v, answer, t, hlooked, hmade, htime⟩ := hticking.of_attempted hcourse
      obtain ⟨u, hu, _, hsame⟩ := hticking.of_looked hlooked
      have hbefore : calm (time v) := by
        rw [hsame]
        exact ih hu
      rw [htime]
      exact hattempt v answer t hbefore hmade
  | rested _ _ ih =>
      obtain ⟨v, hv, hrest⟩ := hticking.of_paused hcourse
      obtain ⟨hlooked, _⟩ := hticking.of_elapsed hv
      obtain ⟨u, hu, _, hsame⟩ := hticking.of_looked hlooked
      have hbefore : calm (time v) := by
        rw [hsame]
        exact ih hu
      rcases hrest with hmoved | ⟨hskipped, _⟩
      · rw [hmoved]
        exact hpause _ _ hbefore (Nat.min_le_left _ _)
      · rw [hskipped]
        exact hbefore
  | resumed _ _ ih =>
      obtain ⟨hlooked, _⟩ := hticking.of_elapsed hcourse
      obtain ⟨u, hu, _, hsame⟩ := hticking.of_looked hlooked
      rw [hsame]
      exact ih hu

/-! ## Surroundings that decide nothing -/

section

variable {σ : Type} [ReasonLog σ] {plan : Plan} {around : Surroundings σ} {started : Span} {s w u : σ}
  {journal : List Event} {ending : Ending}

/-- Nothing that a run deals with brings it to an end: its context is never done, its attempts
leave it open, it is always early, and it can pause. -/
structure Idle (plan : Plan) (around : Surroundings σ) (started : Span) (s : σ) : Prop where
  undone : ∀ v, (around.cancelled v).1 = false
  leavesOpen : ∀ {pending v}, Pending plan [] .opening pending →
    Course around started s (.looked false :: pending) v →
    ∃ e t, around.attempt v = .ok (.ok (.evaluated e)) t ∧ e.LeavesOpen plan.kind
  early : ∀ {phase pending d v}, Pending plan [] phase pending →
    Course around started s (.elapsed d :: .looked false :: pending) v → d < plan.timeout
  rests : ∀ d v, ∃ t, around.sleep d v = .ok () t

/-- An attempt in such surroundings is judged, and its judgement leaves the run open. -/
theorem Idle.judgement_leavesOpen (h : Idle plan around started s) {pending : List Event}
    {judgement : Judgement} (hpending : Pending plan [] .opening pending)
    (hcourse : Course around started s journal w)
    (hsuffix : .attempted judgement :: .began :: .looked false :: pending <:+ journal) :
    judgement.LeavesOpen plan.kind := by
  obtain ⟨v, hlooked⟩ := hcourse.of_suffix ((List.suffix_append [_, _] _).trans hsuffix)
  obtain ⟨e, t, hattempt, hopen⟩ := h.leavesOpen hpending hlooked
  obtain ⟨t', hattempt'⟩ := hcourse.attempt_eq hsuffix hlooked
  cases hattempt.symm.trans hattempt'
  exact ⟨e, rfl, hopen⟩

/-- In such surroundings no run ends. -/
theorem Concluded.not_idle (h : Concluded plan [] journal ending)
    (hcourse : Course around started s journal w) (hleaves : Leaves around journal ending w u) :
    ¬ Idle plan around started s := by
  intro hidle
  -- an attempt that was begun has come to a judgement
  have hunjudged : ∀ {pending}, journal = .began :: .looked false :: pending →
      Pending plan [] .opening pending →
      ∃ e t, around.attempt w = .ok (.ok (.evaluated e)) t := by
    intro pending heq hpending
    rw [heq] at hcourse
    obtain ⟨v, hlooked, hstill⟩ := course_cons.1 hcourse
    cases hstill with
    | began =>
        obtain ⟨e, t, hattempt, _⟩ := hidle.leavesOpen hpending hlooked
        exact ⟨e, t, hattempt⟩
  -- and that judgement decided nothing
  have hundecided : ∀ {pending e}, Pending plan [] .opening pending →
      .attempted (.evaluated e) :: .began :: .looked false :: pending <:+ journal →
      ¬ (Judgement.evaluated e).Decides plan.kind [] ending := by
    intro pending e hpending hsuffix hdecides
    exact hdecides.not_leavesOpen (hidle.judgement_leavesOpen hpending hcourse hsuffix)
  cases h with
  | cancelled hpending =>
      obtain ⟨v, hlooked, _⟩ := course_cons.1 hcourse
      obtain ⟨v, _, hlook⟩ := course_cons.1 hlooked
      cases hlook with
      | looked hdone =>
          have hundone := hidle.undone v
          rw [hdone] at hundone
          cases hundone
  | refused hpending =>
      obtain ⟨e, t, hattempt⟩ := hunjudged rfl hpending
      cases hleaves with
      | refused hrefused _ => cases hattempt.symm.trans hrefused
  | escaped hpending =>
      obtain ⟨e, t, hattempt⟩ := hunjudged rfl hpending
      cases hleaves with
      | escaped hescaped _ => cases hattempt.symm.trans hescaped
      | disturbed _ heq => cases heq
  | confirmed hpending _ _ =>
      obtain ⟨e, heq, _⟩ := hidle.judgement_leavesOpen hpending hcourse List.suffix_rfl
      cases heq
  | interrupted hpending _ =>
      obtain ⟨e, heq, _⟩ :=
        hidle.judgement_leavesOpen hpending hcourse (List.suffix_append [_, _] _)
      cases heq
  | passed hpending hpassed hstop =>
      exact hundecided hpending List.suffix_rfl (.passed hpassed hstop)
  | stopped hpending hpassed hstop =>
      exact hundecided hpending (List.suffix_append [_, _] _) (.stopped hpassed hstop)
  | hinted hpending hkind hpassed hstop hhint =>
      exact hundecided hpending (List.suffix_cons _ _) (.hinted hkind hpassed hstop hhint)
  | failed hpending hkind hpassed hstop =>
      exact hundecided hpending (List.suffix_cons _ _) (.failed hkind hpassed hstop)
  | timedOut hpending _ _ hover =>
      obtain ⟨v, hread, _⟩ := course_cons.1 hcourse
      exact Nat.not_le.2 (hidle.early hpending hread) hover
  | lasted hpending _ _ hover => exact Nat.not_le.2 (hidle.early hpending hcourse) hover
  | disturbed hpending _ =>
      cases hleaves with
      | escaped _ heq => cases heq
      | disturbed hsleep _ =>
          obtain ⟨t, hrested⟩ := hidle.rests _ w
          cases hrested.symm.trans hsleep

end

namespace Poller

section

variable {σ : Type} [ReasonLog σ] [HasCheckers σ] [HasContexts σ] [HasDesk σ] {poller : Poller σ}
  {assertion : Assertion σ} {limit : Nat} {s : σ} {run : Run σ}

/-- The call comes to a result within so many attempts: it does so with any limit that is not
lower, and it is always the same result. -/
def Finishes (poller : Poller σ) (assertion : Assertion σ) (s : σ) (n : Nat) : Prop :=
  ∀ limit, n ≤ limit → (∀ t, poller.conclude assertion limit s ≠ .ok none t) ∧
    poller.conclude assertion limit s = poller.conclude assertion n s

/-- A run that has not ended has made as many attempts as it was allowed. -/
theorem attempts_eq_limit (h : poller.run assertion limit s = (none, run)) :
    (Journal.attempts run.journal).length = limit := by
  rw [run_eq] at h
  split at h
  · rename_i final hrounds
    cases h
    have hpending : Pending (assertion.plan poller.defaults) []
        .opening (poller.outset assertion s).journal := .starting
    have hmade := Polling.rounds_attempts hpending (Polling.stands_starting _ _ _) hrounds
    rw [hmade]
    exact Nat.zero_add limit
  · cases h

/-- A run that has ended ends the same way if it is allowed more attempts. -/
theorem run_ended {ending : Ending} (h : poller.run assertion limit s = (some ending, run))
    (more : Nat) : poller.run assertion (limit + more) s = (some ending, run) := by
  obtain ⟨final, hrounds, hrun⟩ := run_eq_some_iff.1 h
  exact run_eq_some_iff.2 ⟨final, Polling.rounds_ended hrounds more, hrun⟩

/-- What is settled is a result. -/
theorem conclude_ne_none_of_ended {ending : Ending}
    (h : poller.run assertion limit s = (some ending, run)) (t : σ) :
    poller.conclude assertion limit s ≠ .ok none t := by
  intro hnone
  cases hvalid : assertion.probe.validate assertion.kind assertion.settings with
  | error e =>
      rw [conclude_rejected hvalid] at hnone
      cases report_eq_ok hnone
  | ok _ =>
      rw [conclude_polled h hvalid] at hnone
      obtain ⟨holds, u, _, hreturn⟩ := Action.bind_eq_ok_iff.1 hnone
      cases hreturn

/-- A call whose run ends within some attempts finishes within them. -/
theorem finishes_of_ended {n : Nat} {ending : Ending}
    (h : poller.run assertion n s = (some ending, run)) : poller.Finishes assertion s n := by
  intro limit hlimit
  obtain ⟨more, rfl⟩ := Nat.exists_eq_add_of_le hlimit
  have hmore := run_ended h more
  refine ⟨conclude_ne_none_of_ended hmore, ?_⟩
  cases hvalid : assertion.probe.validate assertion.kind assertion.settings with
  | error e => rw [conclude_rejected hvalid, conclude_rejected hvalid]
  | ok _ => rw [conclude_polled hmore hvalid, conclude_polled h hvalid]

/-- A call that is accepted and whose run does not end does not finish. -/
theorem not_finishes_of_endless
    (hvalid : assertion.probe.validate assertion.kind assertion.settings = .ok ())
    (h : ∀ limit, (poller.run assertion limit s).1 = none) (n : Nat) :
    ¬ poller.Finishes assertion s n := by
  intro hfinishes
  obtain ⟨hresult, -⟩ := hfinishes n (Nat.le_refl n)
  exact hresult _ (conclude_polled (run_eq_of_fst (h n)) hvalid)

end

/-! ## Calls on a virtual clock -/

section

variable {σ : Type} [ReasonLog σ] [HasCheckers σ] [HasContexts σ] [HasDesk σ] [HasVirtualClock σ]
  [ClockApart σ] {poller : Poller σ} {assertion : Assertion σ} {limit : Nat} {s : σ}
  {ending? : Option Ending} {run : Run σ}

/-- A run for which there is time makes no more attempts than there is time for, and ends if
it may make that many. -/
theorem run_within_quota (hclock : poller.clock = .virtual)
    (hforward : ∀ s answer t, VirtualClock.timeIn s ≤ Span.max →
      assertion.attempt s = .ok answer t → VirtualClock.timeIn s ≤ VirtualClock.timeIn t)
    (htime : (assertion.plan poller.defaults).timeout = 0 ∨
      0 < (assertion.plan poller.defaults).interval ∧
        VirtualClock.timeIn s + (assertion.plan poller.defaults).timeout ≤ Span.max)
    (h : poller.run assertion limit s = (ending?, run)) :
    (Journal.attempts run.journal).length ≤ (assertion.plan poller.defaults).quota ∧
      ((assertion.plan poller.defaults).quota ≤ limit → ending? ≠ none) := by
  have hone : 1 ≤ (assertion.plan poller.defaults).quota := Nat.le_max_left _ _
  rcases htime with htimeout | ⟨hinterval, hmax⟩
  · cases ending? with
    | some ending =>
        obtain ⟨_, _, hconcluded, _⟩ := run_over h
        have hfew := hconcluded.attempts_le_one htimeout
        exact ⟨Nat.le_trans hfew hone, fun _ heq => by cases heq⟩
    | none =>
        obtain ⟨_, hpending, _⟩ := run_stands h
        have hlimit := attempts_eq_limit h
        rcases hpending.attempts_le_one htimeout with ⟨_, hstart⟩ | ⟨hphase, _⟩
        · have hnone : limit = 0 := by
            rw [← hlimit, hstart]
            rfl
          rw [hlimit, hnone]
          exact ⟨Nat.zero_le _, fun hle => absurd (Nat.le_trans hone hle) (by decide)⟩
        · cases hphase
  · obtain ⟨hpaced, -⟩ := run_paced hclock hforward hinterval hmax h
    refine ⟨hpaced.attempts_le, fun hle hnone => ?_⟩
    subst hnone
    obtain ⟨t, hpending, hcourse, _⟩ := run_stands h
    -- where a round begins there is time for one more attempt
    have hmore := ((hpending.inTime (scene_ticking hclock hforward) hinterval
      (by rw [outset_started hclock]; exact hmax)
      ((timeIn_outset hclock).trans (outset_started hclock).symm) hcourse).attempts_le
        hinterval).2 rfl
    rw [attempts_eq_limit h] at hmore
    omega

/-- A call on a virtual clock finishes if there is no time at all, or if the interval in effect
is not zero and the clock can still be moved as far as the time goes. It makes no more attempts
than there is time for, and as many suffice. -/
theorem conclude_finishes (hclock : poller.clock = .virtual)
    (hforward : ∀ s answer t, VirtualClock.timeIn s ≤ Span.max →
      assertion.attempt s = .ok answer t → VirtualClock.timeIn s ≤ VirtualClock.timeIn t)
    (htime : (assertion.plan poller.defaults).timeout = 0 ∨
      0 < (assertion.plan poller.defaults).interval ∧
        VirtualClock.timeIn s + (assertion.plan poller.defaults).timeout ≤ Span.max) :
    poller.Finishes assertion s (assertion.plan poller.defaults).quota ∧
      ∀ limit, (Journal.attempts (poller.run assertion limit s).2.journal).length ≤
        (assertion.plan poller.defaults).quota := by
  refine ⟨?_, fun limit => (run_within_quota hclock hforward htime (run_eq_of_fst rfl)).1⟩
  generalize hn : (assertion.plan poller.defaults).quota = n
  cases hended : (poller.run assertion n s).1 with
  | none =>
      have hends := (run_within_quota hclock hforward htime (run_eq_of_fst hended)).2
      exact absurd rfl (hends (Nat.le_of_eq hn))
  | some ending => exact finishes_of_ended (run_eq_of_fst hended)

/-! ## Calls that do not finish -/

/-- A run that waits for something that does not come goes on for ever if it is always early:
if something is true of the time at the start, stays true in attempts and in pauses, and says
that time is not over. -/
theorem run_endless (calm : Span → Prop) (hclock : poller.clock = .virtual)
    (hforward : ∀ s answer t, VirtualClock.timeIn s ≤ Span.max →
      assertion.attempt s = .ok answer t → VirtualClock.timeIn s ≤ VirtualClock.timeIn t)
    (hcontext : assertion.settings.context? = none) (hstart : calm (VirtualClock.timeIn s))
    (hpause : ∀ t d, calm t → d ≤ (assertion.plan poller.defaults).interval → calm (t.add d))
    (hopen : ∀ v, calm (VirtualClock.timeIn v) → ∃ e t,
      assertion.attempt v = .ok (.ok (.evaluated e)) t ∧ e.LeavesOpen assertion.kind ∧
        calm (VirtualClock.timeIn t))
    (hearly : ∀ t, calm t → t - VirtualClock.timeIn s < (assertion.plan poller.defaults).timeout)
    (limit : Nat) : (poller.run assertion limit s).1 = none := by
  have hticking := scene_ticking (s := s) hclock hforward
  have hstarted : (poller.outset assertion s).started = VirtualClock.timeIn s :=
    outset_started hclock
  have hcalm : ∀ {phase pending w}, Pending (assertion.plan poller.defaults) [] phase pending →
      poller.Reaches assertion s pending w → calm (VirtualClock.timeIn w) := by
    intro phase pending w hpending hcourse
    refine hpending.time_invariant hticking ?_ hpause (fun v answer t hv hattempt => ?_) hcourse
    · rw [timeIn_outset hclock]
      exact hstart
    · obtain ⟨e, t', hmade, _, hstill⟩ := hopen v hv
      cases hmade.symm.trans hattempt
      exact hstill
  have hidle : Idle (assertion.plan poller.defaults) (poller.scene assertion s)
      (poller.outset assertion s).started (poller.outset assertion s).world := by
    refine ⟨fun v => ?_, fun hpending hcourse => ?_, fun hpending hcourse => ?_, fun d v => ?_⟩
    · show (Contexts.isDoneIn assertion.settings.context? v).1 = false
      rw [hcontext]
      rfl
    · obtain ⟨u, hu, _, hsame⟩ := hticking.of_looked hcourse
      obtain ⟨e, t, hattempt, hleft, _⟩ := hopen _ (by rw [hsame]; exact hcalm hpending hu)
      exact ⟨e, t, hattempt, hleft⟩
    · obtain ⟨hlooked, hd⟩ := hticking.of_elapsed hcourse
      obtain ⟨u, hu, _, hsame⟩ := hticking.of_looked hlooked
      rw [hd, hsame, hstarted]
      exact hearly _ (hcalm hpending hu)
    · show ∃ t, poller.clock.sleep d assertion.settings.context? v = .ok () t
      rw [hclock, hcontext]
      exact ⟨_, rfl⟩
  cases hended : (poller.run assertion limit s).1 with
  | none => rfl
  | some ending =>
      obtain ⟨w, u, hconcluded, hcourse, hleaves, _⟩ := run_over (run_eq_of_fst hended)
      exact absurd hidle (hconcluded.not_idle hcourse hleaves)

end

end Poller

/-! ## Calls that wait for a time -/

section

variable {σ : Type} [HasVirtualClock σ] [ReasonLog σ] [HasCheckers σ] {kind : Kind} {positive : Bool}
  {timeout interval time : Span}

/-- Attempts that look at the time do not move it. -/
theorem Assertion.timeIn_le_attempt_since (v : σ) (answer : Except ConfigError Judgement) (t : σ)
    (_ : VirtualClock.timeIn v ≤ Span.max)
    (h : (Assertion.since kind positive timeout interval time).attempt v = .ok answer t) :
    VirtualClock.timeIn v ≤ VirtualClock.timeIn t := by
  obtain ⟨other, hkept⟩ := attempt_since kind positive timeout interval time v
  rw [hkept] at h
  cases h
  exact Nat.le_refl _

/-- As long as the time has not come, an attempt leaves the run open. -/
theorem Assertion.attempt_since_early {v : σ} (h : VirtualClock.timeIn v < time) :
    (Assertion.since .eventually true timeout interval time).attempt v =
      .ok (.ok (.evaluated ⟨false, "too early", none, none⟩)) v := by
  have hverdict : decide (time ≤ (HasVirtualClock.part.get v).now) = false :=
    decide_eq_false (Nat.not_le.2 h)
  simp [attempt, since, Matcher.since, Judge.toMatcher, Probe.invoke, Probe.returnsNothing,
    Probe.shape?, Invocation.evaluate, Invocation.evaluateValue, unexpectedExtra?, Judge.evaluate,
    Judge.textFor, wantsHints, Probe.isObserved, bind, EStateM.bind, pure, EStateM.pure, hverdict]

variable [HasContexts σ] [HasDesk σ] [ClockApart σ] {poller : Poller σ} {s : σ}

/-- A call that waits for a time that never comes finishes only if there is no time at all, or
if the interval in effect is not zero and the clock can be moved as far as the time goes. -/
theorem Poller.finishes_since_iff (hclock : poller.clock = .virtual)
    (hstart : VirtualClock.timeIn s ≤ Span.max) (hnever : Span.max < time) :
    (∃ n, poller.Finishes (.since .eventually true timeout interval time) s n) ↔
      timeout = 0 ∨
        (0 < interval ∨ 0 < poller.defaults.eventuallyInterval) ∧
          VirtualClock.timeIn s + timeout ≤ Span.max := by
  let assertion : Assertion σ := .since .eventually true timeout interval time
  have hinterval : 0 < (assertion.plan poller.defaults).interval ↔
      0 < interval ∨ 0 < poller.defaults.eventuallyInterval := by
    have heffective : 0 < assertion.settings.interval poller.defaults.eventuallyInterval ↔ _ :=
      Settings.interval_pos_iff
    have hown : (∃ d, assertion.settings.interval? = some d ∧ 0 < d) ↔ 0 < interval := by
      simp [assertion, Assertion.since]
    rw [hown] at heffective
    exact heffective
  constructor
  · intro hfinishes
    obtain ⟨n, hfinishes⟩ := hfinishes
    apply Classical.byContradiction
    intro hneeded
    rw [not_or] at hneeded
    have htimeout : 0 < timeout := Nat.pos_of_ne_zero hneeded.1
    refine not_finishes_of_endless rfl ?_ n hfinishes
    by_cases hfits : VirtualClock.timeIn s + timeout ≤ Span.max
    · -- the clock never moves
      have hzero : (assertion.plan poller.defaults).interval = 0 := by
        have hnot : ¬ 0 < (assertion.plan poller.defaults).interval :=
          fun hpos => hneeded.2 ⟨hinterval.1 hpos, hfits⟩
        exact Nat.eq_zero_of_not_pos hnot
      refine run_endless (fun t => t = VirtualClock.timeIn s) hclock
        Assertion.timeIn_le_attempt_since rfl rfl (fun t d ht hd => ?_) (fun v hv => ?_)
        fun t ht => ?_
      · have hd : d = 0 := by
          rw [hzero] at hd
          exact Nat.le_zero.1 hd
        rw [ht, hd]
        exact Span.add_eq hstart
      · have hearly : VirtualClock.timeIn v < time := by
          rw [hv]
          exact Nat.lt_of_le_of_lt hstart hnever
        exact ⟨_, v, Assertion.attempt_since_early hearly, ⟨rfl, rfl, rfl⟩, hv⟩
      · rw [ht, Nat.sub_self]
        exact htimeout
    · -- the clock never gets that far
      refine run_endless (fun t => t ≤ Span.max) hclock
        Assertion.timeIn_le_attempt_since rfl hstart (fun t d _ _ => Span.add_le_max t d)
        (fun v hv => ?_) fun t ht => ?_
      · have hearly : VirtualClock.timeIn v < time := Nat.lt_of_le_of_lt hv hnever
        exact ⟨_, v, Assertion.attempt_since_early hearly, ⟨rfl, rfl, rfl⟩, hv⟩
      · show t - VirtualClock.timeIn s < timeout
        unfold Span at *
        omega
  · intro htime
    refine ⟨_, (conclude_finishes hclock Assertion.timeIn_le_attempt_since ?_).1⟩
    rw [hinterval]
    exact htime

end

/-- Waiting ten units with pauses of four finishes, and so does a single attempt at the end of
time. -/
theorem Poller.conclude_finishes_since :
    Poller.virtual.Finishes (.since .eventually true 10 4 100) (Session.World.starting 0) 3 ∧
      Poller.virtual.Finishes (.since .eventually true 0 4 100)
        (Session.World.starting Span.max) 1 := by
  constructor
  · exact (conclude_finishes rfl Assertion.timeIn_le_attempt_since (.inr ⟨by decide, by decide⟩)).1
  · exact (conclude_finishes rfl Assertion.timeIn_le_attempt_since (.inl rfl)).1

/-- Waiting for what never comes does not end if the default interval is zero: the interval of
the call is zero, and so it gives way to one that is zero as well. At the end of time waiting
does not end either. -/
theorem Poller.conclude_endless_since :
    (∃ defaults, Defaults.ofLookup
        (fun name => if name = "TESTKIT_EVENTUALLY_POLLING_INTERVAL" then some "0" else none) =
          .ok defaults ∧
        ∀ n, ¬ (⟨defaults, .recording, .virtual⟩ : Poller Session.World).Finishes
          (.since .eventually true 10 0 (Span.max + 1)) (Session.World.starting 0) n) ∧
      ∀ n, ¬ Poller.virtual.Finishes (.since .eventually true 10 4 (Span.max + 1))
        (Session.World.starting Span.max) n := by
  constructor
  · have hzero : Span.ofChars? (Text.trim ['0']) = some 0 := by decide +kernel
    refine ⟨{ Defaults.builtIn with eventuallyInterval := 0 }, ?_, fun n hfinishes => ?_⟩
    · simp [Defaults.ofLookup, Defaults.overriddenBy, Defaults.Field.all, Defaults.Field.setting,
        Defaults.read, Defaults.set, hzero]
    · have hneeded := (finishes_since_iff rfl (by decide) (Nat.lt_succ_self _)).1 ⟨n, hfinishes⟩
      revert hneeded
      decide
  · intro n hfinishes
    have hneeded := (finishes_since_iff rfl (Nat.le_refl _) (Nat.lt_succ_self _)).1 ⟨n, hfinishes⟩
    revert hneeded
    decide

end PollingAssertions
