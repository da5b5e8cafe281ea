import PollingAssertions.Proofs.Polling.Cancellation
import PollingAssertions.Proofs.Polling.Pace
import PollingAssertions.Proofs.Polling.Parting

/-!
# More time

The run of an assertion and the run of the same assertion with more time are the
same run until the shorter time is over. They can differ in two places only. The
shorter time may be over where the longer one is not; this ends the first run at
once. Or a pause is cut to what is left of the shorter time, and not cut, or not as
much, in the other run. On a virtual clock the cut pause ends exactly when the
shorter time is over, so nothing is attempted after it, unless the context is found
to be done; then it is found to be done in both runs, since a context does not
notice how long a virtual pause is.

So an *eventually* run that passes has passed before there was any difference, and
a *consistently* run which passes with more time leaves nothing for the other run to
fail with.

## Main definitions

* `Surroundings.RestsAlike` — for the context it makes no difference how long a
  pause is.
* `ContextsUnclocked` — worlds whose contexts do not notice the virtual clock.
* `Assertion.lasting` — an assertion with a given time.

## Main results

* `Polling.rest_parts` — a pause that is cut parts the runs.
* `Polling.round_together_lasting` — a round with less and with more time.
* `Poller.run_lasting` — more time keeps what passes eventually, less time what
  passes consistently.
-/

namespace PollingAssertions

variable {σ : Type}

/-! ## Plans with more time -/

/-- A plan with a given time. -/
def Plan.lasting (timeout : Span) (plan : Plan) : Plan := { plan with timeout }

/-- Pauses do not unwind, and for the context it makes no difference how long they
are. -/
def Surroundings.RestsAlike (around : Surroundings σ) : Prop :=
  ∀ d d' v, ∃ t t', around.sleep d v = .ok () t ∧ around.sleep d' v = .ok () t' ∧
    (around.cancelled t).1 = (around.cancelled t').1

namespace Polling

section

variable {around : Surroundings σ} {run : Run σ}

theorem stopIfDone_undone (h : (around.cancelled run.world).1 = false) :
    stopIfDone around run = .ok ()
      { run with
        world := (around.cancelled run.world).2
        journal := .looked false :: run.journal } := by
  have hlook : look around run = .ok false
      { run with
        world := (around.cancelled run.world).2
        journal := .looked false :: run.journal } := by
    rw [← h]
    rfl
  unfold stopIfDone
  rw [bind_ok hlook]
  rfl

theorem stopIfDone_done {ended : Ending → Prop} (hfailed : ∀ ending, ending ≠ .passed → ended ending)
    (h : (around.cancelled run.world).1 = true) :
    (Fate.ends ended).Met (stopIfDone around run) := by
  have hlook : look around run = .ok true
      { run with
        world := (around.cancelled run.world).2
        journal := .looked true :: run.journal } := by
    rw [← h]
    rfl
  unfold stopIfDone
  rw [bind_ok hlook]
  exact hfailed _ (by simp)

end

variable {plan : Plan} {around : Surroundings σ} {time : σ → Span} {started : Span} {s : σ}
  {journal : List Event} {longer : Span} {ended ended' : Ending → Prop}

/-! ## A pause that is cut -/

theorem pause_ok {run : Run σ} {left : Span} {t : σ}
    (h : around.sleep (min plan.interval left) run.world = .ok () t) :
    pause plan around left run = .ok ()
      { run with world := t, journal := .paused (min plan.interval left) :: run.journal } := by
  unfold pause
  rw [bind_ok (perform_ok h)]
  rfl

/-- A run whose context is done after its pause fails. -/
theorem wake_done (hfailed : ∀ ending, ending ≠ .passed → ended ending) {run : Run σ}
    (h : (around.cancelled run.world).1 = true) : (Fate.ends ended).Met (wake plan around run) := by
  unfold wake
  exact (stopIfDone_done hfailed h).bind fun _ => Fate.kept_ends _ _

section

variable (hticking : Ticking around time)
  (hover : ∀ run, (Fate.ends ended).Met (expire plan around run))

include hticking hover

/-- A run that has paused until time was over, and whose context is not done, runs out of
time. -/
theorem wake_late {run : Run σ} (hundone : (around.cancelled run.world).1 = false)
    (hlate : run.started + plan.timeout ≤ time run.world) :
    (Fate.ends ended).Met (wake plan around run) := by
  have hlater : plan.timeout ≤ (around.now (around.cancelled run.world).2).1.sub run.started := by
    rw [hticking.now_eq]
    show plan.timeout ≤ time (around.cancelled run.world).2 - run.started
    rw [hticking.cancelled_eq]
    unfold Span at *
    omega
  unfold wake
  rw [bind_ok (stopIfDone_undone hundone)]
  show (Fate.ends ended).Met ((if plan.timeout ≤ _ then expire plan around else pure ()) _)
  rw [if_pos hlater]
  exact hover _

/-- A pause that is cut to what is left of the time parts a run from one with more time.
If the context is done after the pause, both runs have failed. -/
theorem rest_parts (hrests : around.RestsAlike)
    (hfailed : (∀ ending, ending ≠ .passed → ended ending) ∨
      ∀ ending, ending ≠ .passed → ended' ending) {run : Run σ} {left left' : Span}
    (hmax : run.started + plan.timeout ≤ Span.max)
    (hleft : time run.world + left = run.started + plan.timeout) (hcut : left ≤ plan.interval) :
    (Fate.ends ended).Met ((pause plan around left >>= fun _ => wake plan around) run) ∨
      (Fate.ends ended').Met
        ((pause (plan.lasting longer) around left' >>= fun _ => wake (plan.lasting longer) around)
          run) := by
  obtain ⟨t, t', hsleep, hsleep', hsame⟩ :=
    hrests (min plan.interval left) (min plan.interval left') run.world
  have hpause' : pause (plan.lasting longer) around left' run = .ok ()
      { run with world := t', journal := .paused (min plan.interval left') :: run.journal } :=
    pause_ok hsleep'
  rw [bind_ok (pause_ok hsleep), bind_ok hpause']
  by_cases hdone : (around.cancelled t).1 = true
  · have hdone' : (around.cancelled t').1 = true := hsame.symm.trans hdone
    exact hfailed.imp (wake_done · hdone) (wake_done · hdone')
  · have htime : time t = run.started + plan.timeout := by
      rcases hticking.sleep_eq _ _ _ hsleep with hmoved | ⟨-, hdone'⟩
      · have hfits : time run.world + left ≤ Span.max := by
          rw [hleft]
          exact hmax
        rw [hmoved, Nat.min_eq_right hcut, Span.add_eq hfits, hleft]
      · exact absurd hdone' hdone
    left
    exact wake_late hticking hover (Bool.eq_false_iff.2 hdone) (Nat.le_of_eq htime.symm)

end

/-! ## A round with less and with more time -/

variable [ReasonLog σ]

theorem attempt_lasting : attempt (plan.lasting longer) around = attempt plan around := rfl

section

variable (hover : ∀ run, (Fate.ends ended).Met (expire plan around run)) (hle : plan.timeout ≤ longer)

include hover hle

omit hover hle in
private theorem elapsed_together {fate fate' : Fate σ} :
    Together (Stands around started s journal) fate fate' (elapsed around) (elapsed around)
      fun d => Stands around started s (.elapsed d :: journal) :=
  have hleads : Leads (Stands around started s journal) (elapsed around)
      (fun d => Stands around started s (.elapsed d :: journal)) fun _ _ => True := elapsed_leads
  .refl hleads

/-- After a pause the runs are still the same unless the shorter time is over. -/
theorem wake_together_lasting (hpending : Pending plan [] .rested journal) :
    Together (Stands around started s journal) (.ends ended) (.ends ended') (wake plan around)
      (wake (plan.lasting longer) around)
      fun _ run => Pending plan [] .opening run.journal ∧
        Stands around started s run.journal run := by
  unfold wake
  refine .bind_ends (.refl (stopIfDone_leads hpending)) fun _ =>
    elapsed_together.bind_ends fun d => ?_
  intro run hrun
  by_cases hd : plan.timeout ≤ d
  · right
    left
    rw [if_pos hd]
    exact hover run
  · have hlonger : ¬ (plan.lasting longer).timeout ≤ d := fun h => hd (Nat.le_trans hle h)
    left
    rw [if_neg hd, if_neg hlonger]
    refine ⟨rfl, fun _ next hok => ?_⟩
    cases hok
    rw [hrun.journal_eq]
    exact ⟨.resumed hpending (Nat.not_le.1 hd), hrun⟩

omit hover hle in
/-- The time a run sees after an attempt is the time since its start. -/
theorem time_of_judged (hticking : Ticking around time) (hinterval : 0 < plan.interval)
    (hmax : started + plan.timeout ≤ Span.max) (hstarted : time s = started)
    (hpending : Pending plan [] .judged journal) {d : Span} {run : Run σ}
    (hrun : Stands around started s (.elapsed d :: .looked false :: journal) run) :
    time run.world = started + d := by
  obtain ⟨hlooked, hd⟩ := hticking.of_elapsed hrun.course
  obtain ⟨v, hv, -, hstill⟩ := hticking.of_looked hlooked
  cases hpending.inTime hticking hinterval hmax hstarted hv with
  | judged _ _ hpassed _ =>
      unfold Span at *
      omega

/-- After an attempt the runs do the same unless the shorter time is over, or over before
the pause is. -/
theorem recess_together_lasting (hticking : Ticking around time) (hrests : around.RestsAlike)
    (hfailed : (∀ ending, ending ≠ .passed → ended ending) ∨
      ∀ ending, ending ≠ .passed → ended' ending)
    (hinterval : 0 < plan.interval) (hmax : started + plan.timeout ≤ Span.max)
    (hstarted : time s = started) (hpending : Pending plan [] .judged journal) :
    Together (Stands around started s journal) (.ends ended) (.ends ended') (recess plan around)
      (recess (plan.lasting longer) around)
      fun _ run => Pending plan [] .opening run.journal ∧
        Stands around started s run.journal run := by
  unfold recess
  refine .bind_ends (.refl (stopIfDone_leads hpending)) fun _ =>
    elapsed_together.bind_ends fun d => ?_
  intro run hrun
  by_cases hleft : plan.timeout.sub d = 0
  · right
    left
    rw [if_pos hleft]
    exact (hover run).bind fun _ => Fate.kept_ends _ _
  · have hd : d < plan.timeout := Nat.lt_of_sub_ne_zero hleft
    have hlonger : (plan.lasting longer).timeout.sub d ≠ 0 :=
      Nat.sub_ne_zero_of_lt (Nat.lt_of_lt_of_le hd hle)
    rw [if_neg hleft, if_neg hlonger]
    by_cases hcut : plan.timeout.sub d < plan.interval
    · -- the pause ends when the shorter time is over
      have htime := time_of_judged hticking hinterval hmax hstarted hpending hrun
      refine .inr (rest_parts hticking hover hrests hfailed ?_ ?_ (Nat.le_of_lt hcut))
      · rw [hrun.started_eq]
        exact hmax
      · rw [htime, hrun.started_eq, Nat.add_assoc]
        exact congrArg (started + ·) (Nat.add_sub_cancel' (Nat.le_of_lt hd))
    · -- there is time for a whole interval in both runs
      have hwhole : min plan.interval (longer.sub d) = min plan.interval (plan.timeout.sub d) := by
        unfold Span.sub at *
        unfold Span at *
        omega
      have hpause : pause (plan.lasting longer) around (longer.sub d) =
          pause plan around (plan.timeout.sub d) := by
        unfold pause Plan.lasting
        rw [hwhole]
      have hrest : Together (Stands around started s (.elapsed d :: .looked false :: journal))
          (.ends ended) (.ends ended')
          (pause plan around (plan.timeout.sub d) >>= fun _ => wake plan around)
          (pause (plan.lasting longer) around (longer.sub d) >>= fun _ =>
            wake (plan.lasting longer) around)
          fun _ run => Pending plan [] .opening run.journal ∧
            Stands around started s run.journal run := by
        rw [hpause]
        exact .bind_ends (.refl (pause_leads hpending hd)) fun _ =>
          wake_together_lasting hover hle (.rested hpending hd)
      exact hrest run hrun

/-- A round with less time and the same round with more time do the same, or the run with
less time is over. -/
theorem round_together_lasting (hticking : Ticking around time) (hrests : around.RestsAlike)
    (hfailed : (∀ ending, ending ≠ .passed → ended ending) ∨
      ∀ ending, ending ≠ .passed → ended' ending)
    (hinterval : 0 < plan.interval) (hmax : started + plan.timeout ≤ Span.max)
    (hstarted : time s = started) :
    Together
      (fun run => Pending plan [] .opening run.journal ∧ Stands around started s run.journal run)
      (.ends ended) (.ends ended') (round plan around) (round (plan.lasting longer) around)
      fun _ run => Pending plan [] .opening run.journal ∧
        Stands around started s run.journal run := by
  intro run hrun
  obtain ⟨hpending, hstands⟩ := hrun
  rw [round_eq, round_eq, attempt_lasting]
  have hround : Together (Stands around started s run.journal) (.ends ended) (.ends ended')
      (stopIfDone around >>= fun _ => attempt plan around >>= fun _ => recess plan around)
      (stopIfDone around >>= fun _ => attempt plan around >>= fun _ =>
        recess (plan.lasting longer) around)
      fun _ run => Pending plan [] .opening run.journal ∧
        Stands around started s run.journal run := by
    refine .bind_ends (.refl (stopIfDone_leads hpending)) fun _ =>
      .bind_ends (.refl (attempt_leads hpending)) fun _ => ?_
    intro next hnext
    obtain ⟨e, hopen, hjudged⟩ := hnext
    exact recess_together_lasting hover hle hticking hrests hfailed hinterval hmax hstarted
      (.judged hpending hopen) next hjudged
  exact hround run hstands

end

end Polling

/-! ## The run of an assertion -/

/-- Worlds whose contexts do not notice the virtual clock. -/
class ContextsUnclocked (σ : Type) [HasVirtualClock σ] [HasContexts σ] : Prop where
  get_clock : ∀ (clock : VirtualClock) (s : σ),
    HasContexts.part.get (HasVirtualClock.part.set clock s) = HasContexts.part.get s

instance : ContextsUnclocked Session.World := ⟨fun _ _ => rfl⟩

/-- An assertion with a given time. -/
def Assertion.lasting (timeout : Span) (a : Assertion σ) : Assertion σ :=
  { a with settings := { a.settings with timeout? := some timeout } }

section

variable [ReasonLog σ] [HasCheckers σ] [HasContexts σ] [HasDesk σ] {poller : Poller σ}
  {a : Assertion σ} {limit : Nat} {s : σ} {timeout longer : Span}

omit [HasContexts σ] [HasDesk σ] in
/-- How much time there is does not enter into an attempt. -/
theorem Assertion.attempt_lasting : (a.lasting timeout).attempt = a.attempt := by
  obtain ⟨kind, probe, settings, matcher, positive, description?⟩ := a
  cases probe <;> rfl

theorem Poller.scene_lasting : poller.scene (a.lasting timeout) s = poller.scene a s := by
  unfold scene surroundings
  rw [Assertion.attempt_lasting]
  rfl

/-- On a virtual clock it makes no difference for the context how long a pause is. -/
theorem Poller.restsAlike_virtual [HasVirtualClock σ] [ContextsUnclocked σ]
    (hclock : poller.clock = .virtual) : (poller.scene a s).RestsAlike := by
  intro d d' v
  show ∃ t t', poller.clock.sleep d a.settings.context? v = .ok () t ∧
    poller.clock.sleep d' a.settings.context? v = .ok () t' ∧
    (Contexts.isDoneIn a.settings.context? t).1 = (Contexts.isDoneIn a.settings.context? t').1
  rw [hclock]
  by_cases hdone : (Contexts.isDoneIn a.settings.context? v).1 = true
  · exact ⟨_, _, Clock.virtual_sleep_of_done hdone d, Clock.virtual_sleep_of_done hdone d', rfl⟩
  · have hundone := Bool.eq_false_iff.2 hdone
    refine ⟨_, _, Clock.virtual_sleep_of_undone hundone d, Clock.virtual_sleep_of_undone hundone d',
      Contexts.isDoneIn_congr ?_⟩
    exact (ContextsUnclocked.get_clock _ _).trans (ContextsUnclocked.get_clock _ _).symm

variable [HasVirtualClock σ] [ClockApart σ] [ContextsUnclocked σ] {ended ended' : Ending → Prop}

/-- The runs with less and with more time are the same, or one of them has ended in a way
that tells them apart. -/
theorem Poller.run_lasting_or (hclock : poller.clock = .virtual)
    (hforward : ∀ s answer t, VirtualClock.timeIn s ≤ Span.max → a.attempt s = .ok answer t →
      VirtualClock.timeIn s ≤ VirtualClock.timeIn t)
    (hinterval : 0 < (a.plan poller.defaults).interval) (hle : timeout ≤ longer)
    (hmax : VirtualClock.timeIn s + timeout ≤ Span.max)
    (hover : ∀ run : Run σ, (Fate.ends ended).Met
      (Polling.expire (a.plan poller.defaults) (poller.scene a s) run))
    (hfailed : (∀ ending, ending ≠ .passed → ended ending) ∨
      ∀ ending, ending ≠ .passed → ended' ending) :
    poller.run (a.lasting longer) limit s = poller.run (a.lasting timeout) limit s ∨
      (∃ ending run, poller.run (a.lasting timeout) limit s = (some ending, run) ∧ ended ending) ∨
      ∃ ending run, poller.run (a.lasting longer) limit s = (some ending, run) ∧ ended' ending := by
  have hticking : Ticking (poller.scene a s) VirtualClock.timeIn := scene_ticking hclock hforward
  have hworld : VirtualClock.timeIn (poller.outset a s).world = VirtualClock.timeIn s :=
    timeIn_outset hclock
  have hexpire : ∀ run, (Fate.ends ended).Met
      (Polling.expire ((a.plan poller.defaults).lasting timeout) (poller.scene a s) run) := hover
  have hround := Polling.round_together_lasting hexpire hle hticking (restsAlike_virtual hclock)
    hfailed hinterval hmax hworld
  obtain ⟨hrounds, -, -⟩ :=
    Polling.Together.rounds hround (Fate.kept_ends _ _) (Fate.kept_ends _ _) limit
  have hstart : Polling.Stands (poller.scene a s) (VirtualClock.timeIn s) (poller.outset a s).world
      [] (poller.outset a s) := by
    rw [← outset_started hclock]
    exact Polling.stands_starting _ _ _
  rcases hrounds (poller.outset a s) ⟨.starting, hstart⟩ with ⟨hsame, -⟩ | hmet | hmet
  · left
    have hrun : Polling.rounds ((a.lasting timeout).plan poller.defaults)
          (poller.scene (a.lasting timeout) s) limit (poller.outset (a.lasting timeout) s) =
        Polling.rounds ((a.lasting longer).plan poller.defaults)
          (poller.scene (a.lasting longer) s) limit (poller.outset (a.lasting longer) s) := by
      rw [scene_lasting, scene_lasting]
      exact hsame
    rw [run_eq, run_eq, ← hrun]
    rfl
  · right
    left
    obtain ⟨ending, final, hended, hending⟩ := Fate.met_ends hmet
    rw [← scene_lasting] at hended
    exact ⟨ending, _, run_eq_some_iff.2 ⟨final, hended, rfl⟩, hending⟩
  · right
    right
    obtain ⟨ending, final, hended, hending⟩ := Fate.met_ends hmet
    rw [← scene_lasting] at hended
    exact ⟨ending, _, run_eq_some_iff.2 ⟨final, hended, rfl⟩, hending⟩

/-- On a virtual clock, an *eventually* run that passes is the same run if it is given
more time: it passes after the same attempts, and nobody can tell the difference. A
*consistently* run that passes with more time passes with less. It does not matter what
the attempts do, as long as they do not set the clock back, and it is enough if the
shorter time fits on the clock. -/
theorem Poller.run_lasting (hclock : poller.clock = .virtual)
    (hforward : ∀ s answer t, VirtualClock.timeIn s ≤ Span.max → a.attempt s = .ok answer t →
      VirtualClock.timeIn s ≤ VirtualClock.timeIn t)
    (hinterval : 0 < (a.plan poller.defaults).interval) (hle : timeout ≤ longer)
    (hmax : VirtualClock.timeIn s + timeout ≤ Span.max) :
    (a.kind = .eventually → ∀ run,
        poller.run (a.lasting timeout) limit s = (some .passed, run) →
        poller.run (a.lasting longer) limit s = (some .passed, run)) ∧
      (a.kind = .consistently → ∀ run,
        poller.run (a.lasting longer) limit s = (some .passed, run) →
        ∃ run, poller.run (a.lasting timeout) limit s = (some .passed, run)) := by
  constructor
  · intro hkind run hrun
    have hover : ∀ run : Run σ, (Fate.ends (· ≠ Ending.passed)).Met
        (Polling.expire (a.plan poller.defaults) (poller.scene a s) run) := by
      intro run
      unfold Polling.expire
      have hplan : (a.plan poller.defaults).kind = .eventually := hkind
      rw [hplan]
      exact fun h => by cases h
    have hfailed : (∀ ending : Ending, ending ≠ .passed → ending ≠ .passed) ∨
        ∀ ending : Ending, ending ≠ .passed → False := .inl fun _ h => h
    rcases run_lasting_or hclock hforward hinterval hle hmax hover hfailed with
      hsame | ⟨ending, other, hother, hnot⟩ | ⟨ending, other, _, hnever⟩
    · rw [hsame]
      exact hrun
    · rw [hrun] at hother
      cases hother
      exact absurd rfl hnot
    · exact hnever.elim
  · intro hkind run hrun
    have hover : ∀ run : Run σ, (Fate.ends (· = Ending.passed)).Met
        (Polling.expire (a.plan poller.defaults) (poller.scene a s) run) := by
      intro run
      unfold Polling.expire
      have hplan : (a.plan poller.defaults).kind = .consistently := hkind
      rw [hplan]
      rfl
    have hfailed : (∀ ending : Ending, ending ≠ .passed → ending = .passed) ∨
        ∀ ending : Ending, ending ≠ .passed → ending ≠ .passed := .inr fun _ h => h
    rcases run_lasting_or hclock hforward hinterval hle hmax hover hfailed with
      hsame | ⟨ending, other, hother, hpassed⟩ | ⟨ending, other, hother, hnot⟩
    · exact ⟨run, hsame.symm.trans hrun⟩
    · exact ⟨other, hpassed ▸ hother⟩
    · rw [hrun] at hother
      cases hother
      exact absurd rfl hnot

end

/-- An assertion that only waits does not set the clock back. -/
theorem Assertion.since_forward (kind : Kind) (positive : Bool) (timeout interval time : Span)
    (s : Session.World) (answer : Except ConfigError Judgement) (t : Session.World)
    (_ : VirtualClock.timeIn s ≤ Span.max)
    (h : (Assertion.since kind positive timeout interval time).attempt s = .ok answer t) :
    VirtualClock.timeIn s ≤ VirtualClock.timeIn t := by
  obtain ⟨_, hkept⟩ := attempt_since kind positive timeout interval time s
  rw [hkept] at h
  cases h
  exact Nat.le_refl _

/-- Something that comes after eight units is seen with ten units and with twenty, at the
third attempt. What has not come after twenty units, with pauses of four, has not come
after ten either, where the last pause is cut. -/
theorem Poller.run_lasting_since :
    ((Poller.virtual.run ((Assertion.since .eventually true 10 4 8).lasting 20) 9
          (Session.World.starting 0)).1 = some .passed ∧
        (Journal.attempts (Poller.virtual.run
          ((Assertion.since .eventually true 10 4 8).lasting 20) 9
            (Session.World.starting 0)).2.journal).length = 3) ∧
      ∃ run, Poller.virtual.run ((Assertion.since .consistently false 20 4 30).lasting 10) 9
        (Session.World.starting 0) = (some .passed, run) := by
  have hclock : (Poller.virtual : Poller Session.World).clock = .virtual := rfl
  have hle : (10 : Span) ≤ 20 := by decide
  have hmax : VirtualClock.timeIn (Session.World.starting 0) + 10 ≤ Span.max := by decide
  constructor
  · generalize hrun : Poller.virtual.run ((Assertion.since .eventually true 10 4 8).lasting 10) 9
      (Session.World.starting 0) = run
    have hpassed : run.1 = some .passed := by
      rw [← hrun]
      decide +kernel
    have hattempts : (Journal.attempts run.2.journal).length = 3 := by
      rw [← hrun]
      decide +kernel
    have hended : run = (some .passed, run.2) := Prod.ext hpassed rfl
    obtain ⟨heventually, -⟩ := run_lasting hclock
      (Assertion.since_forward .eventually true 10 4 8) (by decide) hle hmax
    rw [heventually rfl run.2 (hrun.trans hended)]
    exact ⟨rfl, hattempts⟩
  · generalize hrun : Poller.virtual.run
      ((Assertion.since .consistently false 20 4 30).lasting 20) 9 (Session.World.starting 0) = run
    have hpassed : run.1 = some .passed := by
      rw [← hrun]
      decide +kernel
    obtain ⟨-, hconsistently⟩ := run_lasting hclock
      (Assertion.since_forward .consistently false 20 4 30) (by decide) hle hmax
    exact hconsistently rfl run.2 (hrun.trans (Prod.ext hpassed rfl))

end PollingAssertions
