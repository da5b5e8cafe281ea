import Mathlib.Algebra.GroupWithZero.Nat
import PollingAssertions.Proofs.Polling.VirtualTime

/-!
# The pace of a run

On a virtual clock time stands still unless somebody moves it, so what a run
does can be reckoned in units of its interval. A probe may move the clock as
well, at any attempt and as far as it likes. What remains true is an account
of three numbers, kept from one phase of a round to the next
(`InTime`): the pauses taken, the attempts made, and the time that
has passed, which is never less than the pauses add up to.

The last pause is cut to what is left of the time. A pause that was cut ends
when time is over, and nothing is attempted after it; so all others are whole
intervals, and they bound the number of attempts.

## Main definitions

* `Plan.quota` — how many attempts there is time for.
* `InTime` — the account in each phase of a round.
* `Paced` — what is true of the pauses and attempts of a run.

## Main results

* `Pending.inTime` — the account is kept as long as nothing is decided.
* `Poller.run_paced` — the pace of the run of an assertion.
-/

namespace PollingAssertions

/-! ## How many attempts there is time for -/

namespace Plan

variable {plan : Plan}

/-- One attempt, or the timeout divided by the interval and rounded up. -/
def quota (plan : Plan) : Nat := max 1 ((plan.timeout + plan.interval - 1) / plan.interval)

/-- If some whole pauses leave time, there is time for an attempt after them. -/
theorem succ_le_quota {n : Nat} (hinterval : 0 < plan.interval)
    (h : n = 0 ∨ n * plan.interval < plan.timeout) : n + 1 ≤ plan.quota := by
  unfold quota
  rcases h with rfl | hlt
  · exact Nat.le_max_left _ _
  · have hdiv : n + 1 ≤ (plan.timeout + plan.interval - 1) / plan.interval := by
      rw [Nat.le_div_iff_mul_le hinterval, Nat.succ_mul]
      unfold Span at *
      omega
    exact Nat.le_trans hdiv (Nat.le_max_right _ _)

/-- If some whole pauses and a last one fill the time, there is time for as
many attempts as pauses. -/
theorem quota_eq {n : Nat} {p : Span} (hp : 0 < p) (hle : p ≤ plan.interval)
    (h : n * plan.interval + p = plan.timeout) : plan.quota = n + 1 := by
  have hdiv : (plan.timeout + plan.interval - 1) / plan.interval = n + 1 := by
    rw [Nat.div_eq_iff (by unfold Span at *; omega), Nat.succ_mul]
    unfold Span at *
    omega
  unfold quota
  rw [hdiv]
  exact Nat.max_eq_right (Nat.le_add_left 1 n)

/-- If there is no time at all there is one attempt. -/
theorem quota_eq_one (hinterval : 0 < plan.interval) (h : plan.timeout = 0) : plan.quota = 1 := by
  have hdiv : (plan.timeout + plan.interval - 1) / plan.interval = 0 := by
    rw [h]
    exact Nat.div_eq_of_lt (by unfold Span at *; omega)
  unfold quota
  rw [hdiv]
  rfl

end Plan

variable {σ : Type}

/-! ## The account -/

/-- What the pauses, the attempts and the time of a run come to, in each phase
of a round. All pauses are whole intervals, except perhaps the last one. -/
inductive InTime (plan : Plan) (around : Surroundings σ) (time : σ → Span) (started : Span) :
    Phase → List Event → σ → Prop
  | opening {journal : List Event} {w : σ} {n : Nat} :
      Journal.pauses journal = List.replicate n plan.interval →
      (Journal.attempts journal).length = n →
      started + n * plan.interval ≤ time w →
      n = 0 ∧ time w = started ∨ time w < started + plan.timeout →
      InTime plan around time started .opening journal w
  | judged {journal : List Event} {w : σ} {n : Nat} :
      Journal.pauses journal = List.replicate n plan.interval →
      (Journal.attempts journal).length = n + 1 →
      started + n * plan.interval ≤ time w → n = 0 ∨ n * plan.interval < plan.timeout →
      InTime plan around time started .judged journal w
  /-- A pause that was cut, or the last one before the time was over, ends then. -/
  | rested {journal : List Event} {w : σ} {n : Nat} {p : Span} :
      Journal.pauses journal = p :: List.replicate n plan.interval →
      (Journal.attempts journal).length = n + 1 →
      0 < p → p ≤ plan.interval → n * plan.interval + p ≤ plan.timeout →
      ((around.cancelled w).1 = false → started + (n * plan.interval + p) ≤ time w ∧
        (p < plan.interval → started + plan.timeout ≤ time w)) →
      InTime plan around time started .rested journal w

variable {plan : Plan} {around : Surroundings σ} {time : σ → Span} {started : Span} {s w : σ}
  {phase : Phase} {journal : List Event} {ending : Ending}

namespace InTime

theorem pauses_full (h : InTime plan around time started phase journal w) :
    ∀ d ∈ (Journal.pauses journal).tail, d = plan.interval := by
  intro d hd
  cases h with
  | opening hpauses _ _ _ =>
      rw [hpauses] at hd
      exact List.eq_of_mem_replicate (List.mem_of_mem_tail hd)
  | judged hpauses _ _ _ =>
      rw [hpauses] at hd
      exact List.eq_of_mem_replicate (List.mem_of_mem_tail hd)
  | rested hpauses _ _ _ _ _ =>
      rw [hpauses] at hd
      exact List.eq_of_mem_replicate hd

theorem sum_le (h : InTime plan around time started phase journal w) :
    (Journal.pauses journal).sum ≤ plan.timeout := by
  cases h with
  | opening hpauses _ hpassed hleft =>
      rw [hpauses, List.sum_replicate_nat]
      rcases hleft with ⟨rfl, _⟩ | hlt
      · simp
      · unfold Span at *
        omega
  | judged hpauses _ _ hleft =>
      rw [hpauses, List.sum_replicate_nat]
      rcases hleft with rfl | hlt
      · simp
      · unfold Span at *
        omega
  | rested hpauses _ _ _ hle _ =>
      rw [hpauses, List.sum_cons, List.sum_replicate_nat]
      unfold Span at *
      omega

/-- There is time for the attempts, and at the beginning of a round for one
more. -/
theorem attempts_le (h : InTime plan around time started phase journal w)
    (hinterval : 0 < plan.interval) :
    (Journal.attempts journal).length ≤ plan.quota ∧
      (phase = .opening → (Journal.attempts journal).length + 1 ≤ plan.quota) := by
  cases h with
  | @opening _ _ n _ hattempts hpassed hleft =>
      have hmore : n + 1 ≤ plan.quota := Plan.succ_le_quota hinterval (by unfold Span at *; omega)
      exact ⟨by unfold Span at *; omega, fun _ => by unfold Span at *; omega⟩
  | @judged _ _ n _ hattempts _ hleft =>
      have hmore : n + 1 ≤ plan.quota := Plan.succ_le_quota hinterval hleft
      exact ⟨by unfold Span at *; omega, fun hphase => by cases hphase⟩
  | @rested _ _ n p _ hattempts hp _ hle _ =>
      have hmore : n + 1 ≤ plan.quota := Plan.succ_le_quota hinterval (by unfold Span at *; omega)
      exact ⟨by unfold Span at *; omega, fun hphase => by cases hphase⟩

end InTime

variable [ReasonLog σ]

/-- The account is kept as long as nothing is decided. -/
theorem Pending.inTime (h : Pending plan [] phase journal) (hticking : Ticking around time)
    (hinterval : 0 < plan.interval) (hmax : started + plan.timeout ≤ Span.max)
    (hstarted : time s = started) (hcourse : Course around started s journal w) :
    InTime plan around time started phase journal w := by
  induction h generalizing w with
  | starting =>
      rw [course_nil] at hcourse
      subst hcourse
      refine .opening (n := 0) rfl rfl ?_ (.inl ⟨rfl, hstarted⟩)
      rw [hstarted, Nat.zero_mul]
      exact Nat.le_refl _
  | judged hpending hopen ih =>
      obtain ⟨v, answer, t, hlooked, hattempt, htime⟩ := hticking.of_attempted hcourse
      obtain ⟨u, hu, _, hstill⟩ := hticking.of_looked hlooked
      cases ih hu with
      | @opening _ _ n hpauses hattempts hpassed hleft =>
          have hforward : time v ≤ time t := by
            refine hticking.attempt_le v answer t ?_ hattempt
            unfold Span at *
            omega
          refine .judged (n := n) hpauses ?_ ?_ ?_
          · rw [Journal.attempts_attempted, List.length_cons, Journal.attempts_looked, hattempts]
          · unfold Span at *
            omega
          · unfold Span at *
            omega
  | @rested journal d hpending hd ih =>
      obtain ⟨v, hv, hpause⟩ := hticking.of_paused hcourse
      obtain ⟨hlooked, hpassed⟩ := hticking.of_elapsed hv
      obtain ⟨u, hu, _, hstill⟩ := hticking.of_looked hlooked
      cases ih hu with
      | @judged _ _ n hpauses hattempts htime hleft =>
          have hp : 0 < min plan.interval (plan.timeout - d) := by unfold Span at *; omega
          have hle : n * plan.interval + min plan.interval (plan.timeout - d) ≤ plan.timeout := by
            unfold Span at *
            omega
          refine .rested (n := n) ?_ hattempts hp (Nat.min_le_left _ _) hle fun hundone => ?_
          · rw [Journal.pauses_paused, Journal.pauses_elapsed, Journal.pauses_looked, hpauses]
          · rcases hpause with hmoved | ⟨_, hdone⟩
            · -- the clock is still far from its end
              have hfits : time v + min plan.interval (plan.timeout - d) ≤ Span.max := by
                unfold Span at *
                omega
              rw [Span.add_eq hfits] at hmoved
              unfold Span at *
              omega
            · rw [hdone] at hundone
              cases hundone
  | @resumed journal d hpending hd ih =>
      obtain ⟨hlooked, hpassed⟩ := hticking.of_elapsed hcourse
      obtain ⟨u, hu, hundone, hstill⟩ := hticking.of_looked hlooked
      cases ih hu with
      | @rested _ _ n p hpauses hattempts hp hle hsum htime =>
          obtain ⟨htime, hcut⟩ := htime hundone
          -- a pause that was cut would have used the time up
          have hwhole : p = plan.interval := by
            by_cases hlt : p < plan.interval
            · have hover := hcut hlt
              unfold Span at *
              omega
            · unfold Span at *
              omega
          subst hwhole
          refine .opening (n := n + 1) ?_ hattempts ?_ ?_
          · rw [Journal.pauses_elapsed, Journal.pauses_looked, hpauses, List.replicate_succ]
          · rw [Nat.succ_mul]
            unfold Span at *
            omega
          · unfold Span at *
            omega

/-! ## The pace -/

/-- What is true of the pauses and attempts of a run on a virtual clock. -/
structure Paced (plan : Plan) (around : Surroundings σ) (time : σ → Span) (started : Span) (s : σ)
    (journal : List Event) : Prop where
  /-- Each pause is an interval, or what is left of the time where it is taken. -/
  pause_eq : ∀ {d : Span} {earlier : List Event}, .paused d :: earlier <:+ journal →
    ∃ w, Course around started s earlier w ∧
      d = min plan.interval (plan.timeout - (time w - started)) ∧ 0 < d
  /-- All pauses but the last one are whole intervals. -/
  pauses_full : ∀ d ∈ (Journal.pauses journal).tail, d = plan.interval
  /-- The pauses fit into the time. -/
  sum_le : (Journal.pauses journal).sum ≤ plan.timeout
  /-- No attempt but the first one is begun when time is over. -/
  began_early : ∀ {earlier : List Event}, .began :: earlier <:+ journal →
    Journal.attempts earlier ≠ [] →
    ∃ w, Course around started s earlier w ∧ time w - started < plan.timeout
  attempts_le : (Journal.attempts journal).length ≤ plan.quota

/-- No attempt of a run moves the clock. -/
def Unhurried (around : Surroundings σ) (time : σ → Span) (started : Span) (s : σ)
    (journal : List Event) : Prop :=
  ∀ earlier v answer t, .began :: earlier <:+ journal → Course around started s earlier v →
    around.attempt v = .ok answer t → time t = time v

theorem Unhurried.of_suffix {earlier : List Event} (h : Unhurried around time started s journal)
    (hsuffix : earlier <:+ journal) : Unhurried around time started s earlier :=
  fun before v answer t hbegan => h before v answer t (hbegan.trans hsuffix)

/-- A run has ended because its time was over. -/
def Ending.Expired (ending : Ending) (timeout : Span) (journal : List Event) : Prop :=
  (∃ reason d, ending = .failed .timedOut reason d) ∨
    ending = .passed ∧ Journal.TimeSeenOver timeout journal

section

variable (hticking : Ticking around time) (hinterval : 0 < plan.interval)
  (hmax : started + plan.timeout ≤ Span.max) (hstarted : time s = started)

include hticking hinterval

private theorem pause_eq_of_judged {d passed : Span} {judged earlier : List Event}
    (hcourse : Course around started s journal w) (hsuffix : .paused d :: earlier <:+ journal)
    (hd : d = min plan.interval (plan.timeout - passed)) (hpassed : passed < plan.timeout)
    (hearlier : earlier = .elapsed passed :: .looked false :: judged) :
    ∃ v, Course around started s earlier v ∧
      d = min plan.interval (plan.timeout - (time v - started)) ∧ 0 < d := by
  obtain ⟨v, hv⟩ := hcourse.of_suffix ((List.suffix_cons _ _).trans hsuffix)
  have hread := hv
  rw [hearlier] at hread
  obtain ⟨_, hnow⟩ := hticking.of_elapsed hread
  refine ⟨v, hv, ?_, ?_⟩
  · rw [← hnow]
    exact hd
  · unfold Span at *
    omega

include hmax hstarted

private theorem began_early_of_opening {opening earlier : List Event}
    (hcourse : Course around started s journal w) (hsuffix : .began :: earlier <:+ journal)
    (hmore : Journal.attempts earlier ≠ []) (hearlier : earlier = .looked false :: opening)
    (hpending : Pending plan [] .opening opening) :
    ∃ v, Course around started s earlier v ∧ time v - started < plan.timeout := by
  obtain ⟨v, hv⟩ := hcourse.of_suffix ((List.suffix_cons _ _).trans hsuffix)
  refine ⟨v, hv, ?_⟩
  rw [hearlier] at hv hmore
  obtain ⟨u, hu, _, hstill⟩ := hticking.of_looked hv
  cases hpending.inTime hticking hinterval hmax hstarted hu with
  | @opening _ _ n _ hattempts _ hleft =>
      have hpos : 0 < n := by
        rw [← hattempts]
        exact List.length_pos_iff.2 hmore
      unfold Span at *
      omega

/-- A run that has decided nothing is in time. -/
theorem Pending.paced (h : Pending plan [] phase journal)
    (hcourse : Course around started s journal w) :
    Paced plan around time started s journal := by
  have htime := h.inTime hticking hinterval hmax hstarted hcourse
  refine ⟨fun hsuffix => ?_, htime.pauses_full, htime.sum_le, fun hsuffix hmore => ?_,
    (htime.attempts_le hinterval).1⟩
  · obtain ⟨passed, judged, hd, hpassed, hearlier, _⟩ := h.judged_of_paused hsuffix
    exact pause_eq_of_judged hticking hinterval hcourse hsuffix hd hpassed hearlier
  · obtain ⟨opening, hearlier, hopening⟩ := h.opening_of_began hsuffix
    exact began_early_of_opening hticking hinterval hmax hstarted hcourse hsuffix hmore hearlier
      hopening

/-- A run that has ended was in time. -/
theorem Concluded.paced (h : Concluded plan [] journal ending)
    (hcourse : Course around started s journal w) :
    Paced plan around time started s journal := by
  obtain ⟨phase, earlier, hpending, hsuffix, hpauses, hattempts⟩ := h.exists_pending
  obtain ⟨v, hv⟩ := hcourse.of_suffix hsuffix
  have htime := hpending.inTime hticking hinterval hmax hstarted hv
  obtain ⟨hle, hmore⟩ := htime.attempts_le hinterval
  refine ⟨fun hsuffix => ?_, ?_, ?_, fun hsuffix hmore => ?_, ?_⟩
  · obtain ⟨passed, judged, hd, hpassed, hearlier, _⟩ := h.judged_of_paused hsuffix
    exact pause_eq_of_judged hticking hinterval hcourse hsuffix hd hpassed hearlier
  · rw [hpauses]
    exact htime.pauses_full
  · rw [hpauses]
    exact htime.sum_le
  · obtain ⟨opening, hearlier, hopening⟩ := h.opening_of_began hsuffix
    exact began_early_of_opening hticking hinterval hmax hstarted hcourse hsuffix hmore hearlier
      hopening
  · rcases hattempts with hsame | ⟨hphase, a, hone⟩
    · rw [hsame]
      exact hle
    · rw [hone, List.length_cons]
      exact hmore hphase

/-! ## Runs that nobody hurries -/

omit hinterval in
/-- If only pauses move the clock, it has moved as far as they add up to,
unless the last one was skipped. -/
theorem Pending.time_eq (h : Pending plan [] phase journal)
    (hunhurried : Unhurried around time started s journal)
    (hcourse : Course around started s journal w)
    (hundone : phase ≠ .rested ∨ (around.cancelled w).1 = false) :
    time w = started + (Journal.pauses journal).sum := by
  induction h generalizing w with
  | starting =>
      rw [course_nil] at hcourse
      subst hcourse
      exact hstarted
  | @judged journal e hpending hopen ih =>
      obtain ⟨v, answer, t, hlooked, hattempt, htime⟩ := hticking.of_attempted hcourse
      obtain ⟨u, hu, _, hstill⟩ := hticking.of_looked hlooked
      have hkept : time t = time v :=
        hunhurried (.looked false :: journal) v answer t (by simp) hlooked hattempt
      have hbefore := ih (hunhurried.of_suffix (by simp [List.suffix_cons_iff])) hu (.inl (by decide))
      rw [htime, hkept, hstill, hbefore]
      rfl
  | @rested journal d hpending hd ih =>
      have hcancelled : (around.cancelled w).1 = false :=
        hundone.resolve_left fun hphase => hphase rfl
      obtain ⟨v, hv, hpause⟩ := hticking.of_paused hcourse
      obtain ⟨hlooked, hpassed⟩ := hticking.of_elapsed hv
      obtain ⟨u, hu, _, hstill⟩ := hticking.of_looked hlooked
      have hbefore := ih (hunhurried.of_suffix (by simp [List.suffix_cons_iff])) hu (.inl (by decide))
      rcases hpause with hmoved | ⟨_, hdone⟩
      · have hfits : time v + min plan.interval (plan.timeout - d) ≤ Span.max := by
          unfold Span at *
          omega
        rw [hmoved, Span.add_eq hfits, hstill, hbefore, Journal.pauses_paused, List.sum_cons,
          Journal.pauses_elapsed, Journal.pauses_looked]
        unfold Span at *
        omega
      · rw [hdone] at hcancelled
        cases hcancelled
  | @resumed journal d hpending hd ih =>
      obtain ⟨hlooked, _⟩ := hticking.of_elapsed hcourse
      obtain ⟨u, hu, hcancelled, hstill⟩ := hticking.of_looked hlooked
      have hbefore := ih (hunhurried.of_suffix (by simp [List.suffix_cons_iff])) hu (.inr hcancelled)
      rw [hstill, hbefore]
      rfl

/-- If only pauses move the clock and the time is found to be over, it is over
by nothing, and all attempts there was time for have been made. -/
theorem Pending.exact (h : Pending plan [] phase journal) (hphase : phase ≠ .opening)
    (hunhurried : Unhurried around time started s journal) {d : Span}
    (hcourse : Course around started s (.elapsed d :: .looked false :: journal) w)
    (hover : plan.timeout ≤ d) :
    (Journal.attempts journal).length = plan.quota ∧ d = plan.timeout ∧
      time w = started + plan.timeout := by
  obtain ⟨hlooked, hd⟩ := hticking.of_elapsed hcourse
  obtain ⟨v, hv, hundone, hstill⟩ := hticking.of_looked hlooked
  have hsum := h.time_eq hticking hmax hstarted hunhurried hv (.inr hundone)
  have htime := h.inTime hticking hinterval hmax hstarted hv
  have hle := htime.sum_le
  have hexact : (Journal.pauses journal).sum = plan.timeout := by
    unfold Span at *
    omega
  refine ⟨?_, ?_, ?_⟩
  · cases htime with
    | opening _ _ _ _ => exact absurd rfl hphase
    | @judged _ _ n hpauses hattempts _ hleft =>
        rw [hpauses, List.sum_replicate_nat] at hexact
        -- with pauses behind it the attempt would have been begun too late
        have hn : n = 0 := by
          rcases hleft with hn | hlt
          · exact hn
          · unfold Span at *
            omega
        subst hn
        rw [hattempts, Plan.quota_eq_one hinterval (by rw [← hexact, Nat.zero_mul])]
    | @rested _ _ n p hpauses hattempts hp hle _ _ =>
        rw [hpauses, List.sum_cons, List.sum_replicate_nat, Nat.add_comm] at hexact
        rw [hattempts, Plan.quota_eq hp hle hexact]
  · unfold Span at *
    omega
  · unfold Span at *
    omega

/-- What expiry means for a run in which only pauses move the clock. -/
theorem Concluded.exact (h : Concluded plan [] journal ending)
    (hexpired : ending.Expired plan.timeout journal)
    (hunhurried : Unhurried around time started s journal)
    (hcourse : Course around started s journal w) :
    (Journal.attempts journal).length = plan.quota ∧ time w = started + plan.timeout ∧
      ∀ reason d, ending = .failed .timedOut reason d → d = plan.timeout := by
  cases h with
  | @timedOut phase journal d d' hpending hphase _ hover =>
      obtain ⟨hread, hd'⟩ := hticking.of_elapsed hcourse
      have hbefore : Unhurried around time started s journal :=
        hunhurried.of_suffix (by simp [List.suffix_cons_iff])
      obtain ⟨hattempts, _, htime⟩ :=
        hpending.exact hticking hinterval hmax hstarted hphase hbefore hread hover
      refine ⟨hattempts, htime, fun _ _ heq => ?_⟩
      cases heq
      unfold Span at *
      omega
  | @lasted phase journal d hpending hphase _ hover =>
      have hbefore : Unhurried around time started s journal :=
        hunhurried.of_suffix (by simp [List.suffix_cons_iff])
      obtain ⟨hattempts, _, htime⟩ :=
        hpending.exact hticking hinterval hmax hstarted hphase hbefore hcourse hover
      exact ⟨hattempts, htime, fun _ _ heq => by cases heq⟩
  | confirmed _ _ _ => simp [Ending.Expired, Journal.TimeSeenOver] at hexpired
  | passed _ _ _ => simp [Ending.Expired, Journal.TimeSeenOver] at hexpired
  | cancelled _ => simp [Ending.Expired] at hexpired
  | refused _ => simp [Ending.Expired] at hexpired
  | escaped _ => simp [Ending.Expired] at hexpired
  | interrupted _ _ => simp [Ending.Expired] at hexpired
  | stopped _ _ _ => simp [Ending.Expired] at hexpired
  | hinted _ _ _ _ _ => simp [Ending.Expired] at hexpired
  | failed _ _ _ _ => simp [Ending.Expired] at hexpired
  | disturbed _ _ => simp [Ending.Expired] at hexpired

end

/-! ## The run of an assertion -/

section

variable [HasVirtualClock σ] [HasCheckers σ] [HasContexts σ] [HasDesk σ] [ClockApart σ]
  {poller : Poller σ} {assertion : Assertion σ} {limit : Nat} {ending? : Option Ending}
  {run : Run σ}

/-- The pace of a run on a virtual clock, whatever its probe and its matcher
do, as long as they do not set the clock back. -/
theorem Poller.run_paced (hclock : poller.clock = .virtual)
    (hforward : ∀ s answer t, VirtualClock.timeIn s ≤ Span.max →
      assertion.attempt s = .ok answer t → VirtualClock.timeIn s ≤ VirtualClock.timeIn t)
    (hinterval : 0 < (assertion.plan poller.defaults).interval)
    (hmax : VirtualClock.timeIn s + (assertion.plan poller.defaults).timeout ≤ Span.max)
    (h : poller.run assertion limit s = (ending?, run)) :
    Paced (assertion.plan poller.defaults) (poller.scene assertion s) VirtualClock.timeIn
        (VirtualClock.timeIn s) (poller.outset assertion s).world run.journal ∧
      ∀ ending, ending? = some ending →
        ending.Expired (assertion.plan poller.defaults).timeout run.journal →
        Unhurried (poller.scene assertion s) VirtualClock.timeIn (VirtualClock.timeIn s)
          (poller.outset assertion s).world run.journal →
        (Journal.attempts run.journal).length = (assertion.plan poller.defaults).quota ∧
          VirtualClock.timeIn run.world =
            VirtualClock.timeIn s + (assertion.plan poller.defaults).timeout ∧
          ∀ reason d, ending = .failed .timedOut reason d →
            d = (assertion.plan poller.defaults).timeout := by
  have hticking : Ticking (poller.scene assertion s) VirtualClock.timeIn :=
    scene_ticking hclock hforward
  have hstarted : (poller.outset assertion s).started = VirtualClock.timeIn s :=
    outset_started hclock
  have hworld : VirtualClock.timeIn (poller.outset assertion s).world = VirtualClock.timeIn s :=
    timeIn_outset hclock
  cases ending? with
  | none =>
      obtain ⟨t, hpending, hcourse, _⟩ := run_stands h
      rw [hstarted] at hcourse
      refine ⟨hpending.paced hticking hinterval hmax hworld hcourse, fun ending heq => ?_⟩
      cases heq
  | some ending =>
      obtain ⟨t, u, hconcluded, hcourse, hleaves, hdetached⟩ := run_over h
      rw [hstarted] at hcourse
      refine ⟨hconcluded.paced hticking hinterval hmax hworld hcourse, ?_⟩
      intro other heq hexpired hunhurried
      cases heq
      obtain ⟨hattempts, htime, hreported⟩ :=
        hconcluded.exact hticking hinterval hmax hworld hexpired hunhurried hcourse
      have hsame : u = t := by
        cases hleaves with
        | passed => rfl
        | failed => rfl
        | refused _ => simp [Ending.Expired] at hexpired
        | escaped _ => simp [Ending.Expired] at hexpired
        | disturbed _ => simp [Ending.Expired] at hexpired
      refine ⟨hattempts, ?_, hreported⟩
      rw [hdetached, Progress.timeIn_detach, hsame, htime]

/-- Waiting ten units for something that does not come, with pauses of four,
takes three attempts and exactly the ten units. -/
theorem Poller.run_paced_since :
    (Journal.attempts (Poller.virtual.run (.since .eventually true 10 4 100) 9
        (Session.World.starting 0)).2.journal).length = 3 ∧
      VirtualClock.timeIn (Poller.virtual.run (.since .eventually true 10 4 100) 9
        (Session.World.starting 0)).2.world = 10 := by
  have hended : (Poller.virtual.run (.since .eventually true 10 4 100) 9
      (Session.World.starting 0)).1 = some (.failed .timedOut "too early" 10) := by decide +kernel
  have hstill : ∀ (s : Session.World) answer t,
      (Assertion.since .eventually true 10 4 100).attempt s = .ok answer t → t = s := by
    intro s answer t hattempt
    obtain ⟨_, hkept⟩ := Assertion.attempt_since .eventually true 10 4 100 s
    rw [hkept] at hattempt
    cases hattempt
    rfl
  have hforward : ∀ (s : Session.World) answer t, VirtualClock.timeIn s ≤ Span.max →
      (Assertion.since .eventually true 10 4 100).attempt s = .ok answer t →
        VirtualClock.timeIn s ≤ VirtualClock.timeIn t := by
    intro s answer t _ hattempt
    have hkept := hstill s answer t hattempt
    subst hkept
    exact Nat.le_refl _
  have hpaced := run_paced rfl hforward (by decide) (by decide) (run_eq_of_fst hended)
  obtain ⟨hattempts, htime, _⟩ := hpaced.2 _ rfl (.inl ⟨_, _, rfl⟩)
    fun _ v answer t _ _ hattempt => by rw [hstill v answer t hattempt]
  exact ⟨hattempts, htime⟩

end

end PollingAssertions
