import PollingAssertions.Proofs.Polling.Course
import PollingAssertions.Session.World

/-!
# Virtual time in a run

On a virtual clock time stands still unless somebody moves it. In a run that
is done by the attempts, as far as they like, and by the pauses, exactly as
far as they are long. Looking at the context, reading the clock and publishing
a reason leave it alone. All that is needed of a virtual clock is collected in
`Ticking`, for any surroundings; the events of a journal are then read as
statements about time.

A pause is skipped if the context is done, and then the context is found to be
done again when the run looks next.

## Main definitions

* `Ticking` — surroundings on a clock that only moves forward.
* `VirtualClock.timeIn` — the time a virtual clock tells in a world.
* `ClockApart` — worlds that keep their virtual clock apart.

## Main results

* `Ticking.of_looked`, `Ticking.of_elapsed`, `Ticking.of_attempted`,
  `Ticking.of_paused` — what an event says about time.
* `Poller.scene_ticking` — a virtual clock ticks in the surroundings of a run.
-/

namespace PollingAssertions

/-! ## Surroundings with a clock -/

variable {σ : Type}

/-- The surroundings have a clock that is moved by attempts and pauses only,
never backwards as long as it is not past its end, and by a pause exactly as
far as it is long. A pause that is skipped leaves the context done. -/
structure Ticking (around : Surroundings σ) (time : σ → Span) : Prop where
  now_eq : ∀ s, around.now s = (time s, s)
  cancelled_eq : ∀ s, time (around.cancelled s).2 = time s
  publish_eq : ∀ reason s, time (around.publish reason s) = time s
  attempt_le : ∀ s answer t, time s ≤ Span.max → around.attempt s = .ok answer t → time s ≤ time t
  sleep_eq : ∀ d s t, around.sleep d s = .ok () t →
    time t = Span.add (time s) d ∨ time t = time s ∧ (around.cancelled t).1 = true

namespace Ticking

variable [ReasonLog σ] {around : Surroundings σ} {time : σ → Span} {started : Span} {s w : σ}
  {journal : List Event}

theorem of_looked (h : Ticking around time) {done : Bool}
    (hcourse : Course around started s (.looked done :: journal) w) :
    ∃ v, Course around started s journal v ∧ (around.cancelled v).1 = done ∧ time w = time v := by
  obtain ⟨v, hv, hevent⟩ := course_cons.1 hcourse
  cases hevent with
  | looked hcancelled =>
      refine ⟨v, hv, by rw [hcancelled], ?_⟩
      have hsame := h.cancelled_eq v
      rw [hcancelled] at hsame
      exact hsame

theorem of_elapsed (h : Ticking around time) {d : Span}
    (hcourse : Course around started s (.elapsed d :: journal) w) :
    Course around started s journal w ∧ d = time w - started := by
  obtain ⟨v, hv, hevent⟩ := course_cons.1 hcourse
  cases hevent with
  | elapsed hnow =>
      rw [h.now_eq] at hnow
      cases hnow
      exact ⟨hv, rfl⟩

theorem of_attempted (h : Ticking around time) {judgement : Judgement}
    (hcourse : Course around started s (.attempted judgement :: .began :: journal) w) :
    ∃ v answer t, Course around started s journal v ∧ around.attempt v = .ok answer t ∧
      time w = time t := by
  obtain ⟨v, hbegan, hevent⟩ := course_cons.1 hcourse
  obtain ⟨u, hu, hsame⟩ := course_cons.1 hbegan
  cases hsame with
  | began =>
      cases hevent with
      | interrupted hattempt => exact ⟨_, _, _, hu, hattempt, rfl⟩
      | evaluated hattempt => exact ⟨_, _, _, hu, hattempt, h.publish_eq _ _⟩

theorem of_paused (h : Ticking around time) {d : Span}
    (hcourse : Course around started s (.paused d :: journal) w) :
    ∃ v, Course around started s journal v ∧
      (time w = Span.add (time v) d ∨ time w = time v ∧ (around.cancelled w).1 = true) := by
  obtain ⟨v, hv, hevent⟩ := course_cons.1 hcourse
  cases hevent with
  | paused hsleep => exact ⟨v, hv, h.sleep_eq _ _ _ hsleep⟩

end Ticking

/-! ## Contexts that are done -/

/-- A context that was found to be done is found to be done again. -/
theorem Contexts.isDone_again {cs next : Contexts} {c : ContextId}
    (h : cs.isDone c = (true, next)) : (next.isDone c).1 = true := by
  have hstored : (next.stored? c).isSome = true := by
    unfold isDone error at h
    cases hstored : cs.stored? c with
    | some e =>
        simp only [hstored, Prod.mk.injEq] at h
        rw [← h.2, hstored]
        rfl
    | none =>
        simp only [hstored] at h
        by_cases hexpired : cs.expired c = true
        · simp only [hexpired, if_true, Prod.mk.injEq] at h
          rw [← h.2]
          exact h.1
        · simp [hexpired] at h
  obtain ⟨e, he⟩ := Option.isSome_iff_exists.1 hstored
  simp [isDone, error, he]

theorem Contexts.isDoneIn_again [HasContexts σ] {context? : Option ContextId} {s t : σ}
    (h : isDoneIn context? s = (true, t)) : (isDoneIn context? t).1 = true := by
  cases context? with
  | none => cases h
  | some c =>
      have hdone : ((HasContexts.part.get s).isDone c).1 = true := congrArg Prod.fst h
      have hworld : HasContexts.part.set ((HasContexts.part.get s).isDone c).2 s = t :=
        congrArg Prod.snd h
      rw [← hworld]
      show ((HasContexts.part.get (HasContexts.part.set _ s)).isDone c).1 = true
      rw [HasContexts.part.get_set]
      exact isDone_again (Prod.ext hdone rfl)

/-! ## Virtual clocks -/

/-- The time a virtual clock tells in a world. -/
def VirtualClock.timeIn [HasVirtualClock σ] (s : σ) : Span := (HasVirtualClock.part.get s).now

/-- Worlds that keep their virtual clock apart from contexts and from the desk. -/
class ClockApart (σ : Type) [HasVirtualClock σ] [HasContexts σ] [HasDesk σ] : Prop where
  get_contexts : ∀ (contexts : Contexts) (s : σ),
    HasVirtualClock.part.get (HasContexts.part.set contexts s) = HasVirtualClock.part.get s
  get_desk : ∀ (desk : Desk) (s : σ),
    HasVirtualClock.part.get (HasDesk.part.set desk s) = HasVirtualClock.part.get s

instance : ClockApart Session.World := ⟨fun _ _ => rfl, fun _ _ => rfl⟩

section

variable [HasVirtualClock σ] [HasContexts σ] [HasDesk σ] [ClockApart σ]

theorem Contexts.timeIn_isDoneIn (context? : Option ContextId) (s : σ) :
    VirtualClock.timeIn (isDoneIn context? s).2 = VirtualClock.timeIn s := by
  cases context? with
  | none => rfl
  | some c => exact congrArg VirtualClock.now (ClockApart.get_contexts _ s)

theorem Progress.timeIn_publish (attachment? : Option Attachment) (reason : String) (s : σ) :
    VirtualClock.timeIn (publish attachment? reason s) = VirtualClock.timeIn s := by
  cases attachment? with
  | none => rfl
  | some attachment => exact congrArg VirtualClock.now (ClockApart.get_desk _ s)

theorem Progress.timeIn_detach (attachment? : Option Attachment) (s : σ) :
    VirtualClock.timeIn (detach attachment? s) = VirtualClock.timeIn s := by
  cases attachment? with
  | none => rfl
  | some attachment => exact congrArg VirtualClock.now (ClockApart.get_desk _ s)

theorem Progress.timeIn_attach? (context? : Option ContextId) (s : σ) :
    VirtualClock.timeIn (attach? context? s).2 = VirtualClock.timeIn s := by
  unfold attach?
  split
  · exact congrArg VirtualClock.now (ClockApart.get_desk _ s)
  · rfl

variable {poller : Poller σ} {assertion : Assertion σ} {s : σ}

omit [ClockApart σ] in
private theorem Poller.outset_eq (hclock : poller.clock = .virtual) :
    poller.outset assertion s =
      Run.starting (VirtualClock.timeIn (Progress.attach? assertion.settings.context? s).2)
        (Progress.attach? assertion.settings.context? s).2 := by
  unfold outset
  rw [hclock]
  rfl

theorem Poller.outset_started (hclock : poller.clock = .virtual) :
    (poller.outset assertion s).started = VirtualClock.timeIn s := by
  rw [outset_eq hclock]
  exact Progress.timeIn_attach? assertion.settings.context? s

theorem Poller.timeIn_outset (hclock : poller.clock = .virtual) :
    VirtualClock.timeIn (poller.outset assertion s).world = VirtualClock.timeIn s := by
  rw [outset_eq hclock]
  exact Progress.timeIn_attach? assertion.settings.context? s

variable [ReasonLog σ] [HasCheckers σ]

/-- A virtual clock ticks in the surroundings of a run if the attempts never
set it back. -/
theorem Poller.scene_ticking (hclock : poller.clock = .virtual)
    (hforward : ∀ s answer t, VirtualClock.timeIn s ≤ Span.max →
      assertion.attempt s = .ok answer t → VirtualClock.timeIn s ≤ VirtualClock.timeIn t) :
    Ticking (poller.scene assertion s) VirtualClock.timeIn where
  now_eq v := by
    show poller.clock.now v = _
    rw [hclock]
    rfl
  cancelled_eq v := Contexts.timeIn_isDoneIn _ v
  publish_eq reason v := Progress.timeIn_publish _ reason v
  attempt_le := hforward
  sleep_eq d v t hsleep := by
    have hvirtual : Clock.virtual.sleep d assertion.settings.context? v = .ok () t := by
      rw [← hclock]
      exact hsleep
    unfold Clock.virtual at hvirtual
    cases hdone : Contexts.isDoneIn assertion.settings.context? v with
    | mk done u =>
        have htime : VirtualClock.timeIn u = VirtualClock.timeIn v := by
          have hsame := Contexts.timeIn_isDoneIn assertion.settings.context? v
          rw [hdone] at hsame
          exact hsame
        simp only [hdone] at hvirtual
        cases done with
        | true =>
            cases hvirtual
            exact .inr ⟨htime, Contexts.isDoneIn_again hdone⟩
        | false =>
            cases hvirtual
            left
            rw [← htime]
            unfold VirtualClock.timeIn
            rw [Part.get_update]
            rfl

end

end PollingAssertions
