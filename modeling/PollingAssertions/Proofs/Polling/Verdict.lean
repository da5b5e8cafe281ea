import PollingAssertions.Proofs.Polling.Course
import PollingAssertions.Session.World

/-!
# When a run passes

A run is asked one question about many attempts, and its journal tells how
each of them was judged. This module says for which journals the answer is
yes. An *eventually* run passes exactly if its last attempt passed, and then
each attempt before that one left the run open. A *consistently* run passes
exactly if something was evaluated, everything that was evaluated passed, and
the run was brought to its end by a returned stop signal, by a raised one, or
by time.

## Main definitions

* `Journal.LastPassed`, `Journal.AllPassed` — what the attempts came to.
* `Journal.StopReturned`, `Journal.StopRaised` — signals that bring a
  *consistently* run to a good end.

## Main results

* `Concluded.passed_iff_lastPassed`, `Concluded.passed_iff_allPassed` — the
  two kinds of journals that end well.
* `Poller.run_passed_iff` — when the run of an assertion passes.
-/

namespace PollingAssertions

namespace Journal

/-- The last attempt was evaluated and passed. -/
def LastPassed (journal : List Event) : Prop :=
  ∃ e earlier, attempts journal = some (.evaluated e) :: earlier ∧ e.passed = true

/-- Some attempt was evaluated, and every one that was evaluated passed. -/
def AllPassed (journal : List Event) : Prop :=
  (∃ e, some (.evaluated e) ∈ attempts journal) ∧
    ∀ e, some (.evaluated e) ∈ attempts journal → e.passed = true

/-- The last attempt was evaluated and returned a stop signal. -/
def StopReturned (journal : List Event) : Prop :=
  ∃ e earlier, attempts journal = some (.evaluated e) :: earlier ∧ e.stop?.isSome = true

/-- The last attempt raised a stop signal, and the one before was evaluated. -/
def StopRaised (journal : List Event) : Prop :=
  ∃ stop e earlier, attempts journal = some (.interrupted stop) :: some (.evaluated e) :: earlier

theorem AllPassed.last {journal : List Event} {e : Evaluation} {earlier : List (Option Judgement)}
    (h : AllPassed journal) (hlast : attempts journal = some (.evaluated e) :: earlier) :
    e.passed = true := by
  apply h.2
  rw [hlast]
  exact List.mem_cons_self

end Journal

/-! ## Journals in which nothing is decided -/

namespace Pending

variable {plan : Plan} {phase : Phase} {journal : List Event}

/-- The last attempt of an *eventually* run that is undecided did not pass. -/
theorem not_lastPassed (h : Pending plan [] phase journal) (hkind : plan.kind = .eventually) :
    ¬ Journal.LastPassed journal := by
  intro hpassed
  obtain ⟨e, earlier, hlast, hpassed⟩ := hpassed
  obtain ⟨e', heq, hopen⟩ := h.leavesOpen (some (.evaluated e)) (by rw [hlast]; simp)
  cases heq
  rw [hkind] at hopen
  rw [hopen.1] at hpassed
  cases hpassed

theorem not_stopReturned (h : Pending plan [] phase journal) : ¬ Journal.StopReturned journal := by
  intro hreturned
  obtain ⟨e, earlier, hlast, hstop⟩ := hreturned
  obtain ⟨e', heq, hopen⟩ := h.leavesOpen (some (.evaluated e)) (by rw [hlast]; simp)
  cases heq
  rw [hopen.stop?_eq_none] at hstop
  cases hstop

theorem not_stopRaised (h : Pending plan [] phase journal) : ¬ Journal.StopRaised journal := by
  intro hraised
  obtain ⟨stop, e, earlier, hlast⟩ := hraised
  obtain ⟨e', heq, _⟩ := h.leavesOpen (some (.interrupted stop)) (by rw [hlast]; simp)
  cases heq

/-- Every attempt of a *consistently* run that is undecided passed. -/
theorem passed_of_mem (h : Pending plan [] phase journal) (hkind : plan.kind = .consistently)
    {e : Evaluation} (he : some (.evaluated e) ∈ Journal.attempts journal) : e.passed = true := by
  obtain ⟨e', heq, hopen⟩ := h.leavesOpen _ he
  cases heq
  rw [hkind] at hopen
  exact hopen.1

/-- An attempt has been evaluated unless there was none. -/
theorem exists_evaluated (h : Pending plan [] phase journal)
    (hne : Journal.attempts journal ≠ []) :
    ∃ e earlier, Journal.attempts journal = some (.evaluated e) :: earlier := by
  obtain ⟨a, earlier, hattempts⟩ := List.exists_cons_of_ne_nil hne
  obtain ⟨e, rfl, _⟩ := h.leavesOpen a (by rw [hattempts]; simp)
  exact ⟨e, earlier, hattempts⟩

theorem allPassed (h : Pending plan [] phase journal) (hkind : plan.kind = .consistently)
    (hne : Journal.attempts journal ≠ []) : Journal.AllPassed journal := by
  obtain ⟨e, earlier, hattempts⟩ := h.exists_evaluated hne
  refine ⟨⟨e, ?_⟩, fun e he => h.passed_of_mem hkind he⟩
  rw [hattempts]
  exact List.mem_cons_self

end Pending

/-! ## Journals that end well -/

namespace Concluded

variable {plan : Plan} {journal : List Event} {ending : Ending}

/-- An *eventually* run passes exactly if its last attempt passed. -/
theorem passed_iff_lastPassed (h : Concluded plan [] journal ending)
    (hkind : plan.kind = .eventually) : ending = .passed ↔ Journal.LastPassed journal := by
  cases h with
  | cancelled hpending =>
      have hlast := hpending.not_lastPassed hkind
      simpa [Journal.LastPassed] using hlast
  | refused _ => simp [Journal.LastPassed]
  | escaped _ => simp [Journal.LastPassed]
  | confirmed _ hother _ => rw [hkind] at hother; cases hother
  | interrupted _ _ => simp [Journal.LastPassed]
  | passed _ hpassed _ => simpa [Journal.LastPassed] using hpassed
  | stopped _ hpassed _ => simp [Journal.LastPassed, hpassed]
  | hinted _ _ hpassed _ _ => simp [Journal.LastPassed, hpassed]
  | failed _ hother _ _ => rw [hkind] at hother; cases hother
  | timedOut hpending _ _ _ =>
      have hlast := hpending.not_lastPassed hkind
      simpa [Journal.LastPassed] using hlast
  | lasted _ _ hother _ => rw [hkind] at hother; cases hother
  | disturbed hpending _ =>
      have hlast := hpending.not_lastPassed hkind
      simpa [Journal.LastPassed] using hlast

/-- Each attempt before the one an *eventually* run passed with left it open. -/
theorem leavesOpen_of_passed (h : Concluded plan [] journal .passed)
    (hkind : plan.kind = .eventually) :
    ∀ a ∈ (Journal.attempts journal).tail,
      ∃ e, a = some (.evaluated e) ∧ e.LeavesOpen .eventually := by
  cases h with
  | confirmed _ hother _ => rw [hkind] at hother; cases hother
  | passed hpending _ _ =>
      intro a ha
      have hopen := hpending.leavesOpen a (by simpa using ha)
      rwa [hkind] at hopen
  | lasted _ _ hother _ => rw [hkind] at hother; cases hother

/-- A *consistently* run that passes has seen nothing but passing attempts. -/
theorem allPassed_of_passed (h : Concluded plan [] journal .passed)
    (hkind : plan.kind = .consistently) : Journal.AllPassed journal := by
  cases h with
  | @confirmed journal stop reason hpending _ hverdict =>
      have hne := hpending.verdict?_isSome_iff.1 (Option.isSome_of_eq_some hverdict)
      obtain ⟨⟨e, he⟩, hall⟩ := hpending.allPassed hkind hne
      refine ⟨⟨e, ?_⟩, fun e he => hall e ?_⟩
      · simp [he]
      · simpa using he
  | @passed journal e hpending hpassed _ =>
      refine ⟨⟨e, by simp⟩, fun e' he' => ?_⟩
      rw [Journal.attempts_attempted, Journal.attempts_looked, List.mem_cons] at he'
      rcases he' with heq | he'
      · cases heq
        exact hpassed
      · exact hpending.passed_of_mem hkind he'
  | lasted hpending hphase _ _ => exact hpending.allPassed hkind (hpending.attempts_ne_nil hphase)

/-- What brings a *consistently* run to a good end. -/
theorem ended_of_passed (h : Concluded plan [] journal .passed)
    (hkind : plan.kind = .consistently) :
    Journal.StopReturned journal ∨ Journal.StopRaised journal ∨
      Journal.TimeSeenOver plan.timeout journal := by
  cases h with
  | @confirmed journal stop reason hpending _ hverdict =>
      have hne := hpending.verdict?_isSome_iff.1 (Option.isSome_of_eq_some hverdict)
      obtain ⟨e, earlier, hattempts⟩ := hpending.exists_evaluated hne
      right; left
      exact ⟨stop, e, earlier, by simp [hattempts]⟩
  | @passed journal e _ _ hstop =>
      left
      exact ⟨e, Journal.attempts journal, by simp, hstop hkind⟩
  | @lasted _ journal d _ _ _ hd =>
      right; right
      exact ⟨d, journal, rfl, hd⟩

/-- A *consistently* run passes exactly if everything that was evaluated
passed and one of three things brought it to its end. -/
theorem passed_iff_allPassed (h : Concluded plan [] journal ending)
    (hkind : plan.kind = .consistently) :
    ending = .passed ↔ Journal.AllPassed journal ∧
      (Journal.StopReturned journal ∨ Journal.StopRaised journal ∨
        Journal.TimeSeenOver plan.timeout journal) := by
  constructor
  · intro heq
    subst heq
    exact ⟨h.allPassed_of_passed hkind, h.ended_of_passed hkind⟩
  intro hgood
  obtain ⟨hall, hended⟩ := hgood
  cases h with
  | cancelled hpending =>
      rcases hended with hreturned | hraised | ⟨d, earlier, hover, _⟩
      · exact absurd hreturned hpending.not_stopReturned
      · exact absurd hraised hpending.not_stopRaised
      · simp at hover
  | refused _ => simp [Journal.StopReturned, Journal.StopRaised, Journal.TimeSeenOver] at hended
  | escaped _ => simp [Journal.StopReturned, Journal.StopRaised, Journal.TimeSeenOver] at hended
  | confirmed _ _ _ => rfl
  | @interrupted journal stop d hpending hnone =>
      -- the signal would have confirmed the verdict, had there been one
      obtain ⟨⟨e, he⟩, _⟩ := hall
      have hne : Journal.attempts journal ≠ [] := by
        have hmem : some (.evaluated e) ∈ Journal.attempts journal := by simpa using he
        exact List.ne_nil_of_mem hmem
      obtain ⟨verdict, hverdict⟩ := Option.isSome_iff_exists.1 (hpending.verdict?_isSome_iff.2 hne)
      have hpassed := hpending.verdict?_passed hkind hverdict
      refine absurd ?_ (hnone hkind verdict.reason)
      rw [hverdict, ← hpassed]
  | passed _ _ _ => rfl
  | stopped _ hpassed _ =>
      have htrue := hall.last rfl
      rw [hpassed] at htrue
      cases htrue
  | hinted _ hother _ _ _ => rw [hkind] at hother; cases hother
  | failed _ _ hpassed _ =>
      have htrue := hall.last rfl
      rw [hpassed] at htrue
      cases htrue
  | timedOut _ _ hother _ => rw [hkind] at hother; cases hother
  | lasted _ _ _ _ => rfl
  | disturbed hpending hd =>
      rcases hended with hreturned | hraised | ⟨d, earlier, hover, hle⟩
      · exact absurd hreturned hpending.not_stopReturned
      · exact absurd hraised hpending.not_stopRaised
      · cases hover
        exact absurd hle (Nat.not_le.2 hd)

end Concluded

/-! ## The run of an assertion -/

namespace Poller

variable {σ : Type} [ReasonLog σ] [HasCheckers σ] [HasContexts σ] [HasDesk σ] {poller : Poller σ}
  {assertion : Assertion σ} {limit : Nat} {s : σ} {ending : Ending} {run : Run σ}

/-- When the run of an assertion passes. The journal is what happened in the
run, so this speaks of how its attempts were really judged. -/
theorem run_passed_iff (h : poller.run assertion limit s = (some ending, run)) :
    (∃ t, Course (poller.scene assertion s) (poller.outset assertion s).started
        (poller.outset assertion s).world run.journal t) ∧
      (assertion.kind = .eventually →
        (ending = .passed ↔ Journal.LastPassed run.journal) ∧
          (ending = .passed → ∀ a ∈ (Journal.attempts run.journal).tail,
            ∃ e, a = some (.evaluated e) ∧ e.passed = false ∧ e.stop? = none ∧ e.hint? = none)) ∧
      (assertion.kind = .consistently →
        (ending = .passed ↔ Journal.AllPassed run.journal ∧
          (Journal.StopReturned run.journal ∨ Journal.StopRaised run.journal ∨
            Journal.TimeSeenOver (assertion.plan poller.defaults).timeout run.journal))) := by
  obtain ⟨t, _, hconcluded, hcourse, _, _⟩ := run_over h
  refine ⟨⟨t, hcourse⟩, fun hkind => ⟨?_, ?_⟩, fun hkind => ?_⟩
  · exact hconcluded.passed_iff_lastPassed hkind
  · intro heq
    subst heq
    exact hconcluded.leavesOpen_of_passed hkind
  · exact hconcluded.passed_iff_allPassed hkind

/-- Waiting for a time that comes passes with the attempt made then, and
holding out for as long passes when time is over. -/
theorem run_passed_since :
    (Journal.LastPassed (Poller.virtual.run (Assertion.since .eventually true 10 4 8) 9
        (Session.World.starting 0)).2.journal) ∧
      Journal.AllPassed (Poller.virtual.run (Assertion.since .consistently false 10 4 11) 9
        (Session.World.starting 0)).2.journal := by
  constructor
  · have hpassed : (Poller.virtual.run (Assertion.since .eventually true 10 4 8) 9
        (Session.World.starting 0)).1 = some .passed := by decide +kernel
    exact ((run_passed_iff (run_eq_of_fst hpassed)).2.1 rfl).1.1 rfl
  · have hpassed : (Poller.virtual.run (Assertion.since .consistently false 10 4 11) 9
        (Session.World.starting 0)).1 = some .passed := by decide +kernel
    exact (((run_passed_iff (run_eq_of_fst hpassed)).2.2 rfl).1 rfl).1

end Poller

end PollingAssertions
