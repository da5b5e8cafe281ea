import PollingAssertions.Proofs.Context.Presence
import PollingAssertions.Proofs.Polling.Looking
import PollingAssertions.Proofs.Polling.Pace
import PollingAssertions.Session.Perform

/-!
# Runs whose context is done

Nothing is begun once the context of a run is done: the look before would have seen
it. What the run comes to then depends on when that was. An attempt in progress is
judged first and may decide the run; otherwise the next look ends it.

A deadline may also pass while the clock is read, between two looks. That reading
counts as it is, and so a run may still end because its time is over. After it no
attempt is begun either, and a virtual clock does not write down a pause.

## Main definitions

* `Assertion.Done` — the context of an assertion is done in a world.
* `ContextsApart` — worlds that keep their contexts apart from the desk.
* `Clock.Still` — reading the clock leaves the world alone.
* `Poller.KeepsDone` — starting and pausing let no context come undone.
* `Poller.DoneByReading` — a context came to be done while the clock was read.

## Main results

* `Poller.keepsDone_virtual`, `Poller.keepsDone_hooked`, `Poller.keepsDone_wall` — the
  clocks keep contexts done.
* `Poller.not_doneByReading` — a clock that only tells the time ends no context.
* `Poller.run_cancelled_at` — a run is cancelled where it finds its context done.
* `Poller.run_cancelled` — what a run does once its context is done.
-/

namespace PollingAssertions

/-- When time is over the run has looked at its context, and then only at the clock. -/
theorem Concluded.unattempted_of_expired {plan : Plan} {journal : List Event} {ending : Ending}
    (h : Concluded plan [] journal ending) (hexpired : ending.Expired plan.timeout journal) :
    ∃ phase pending readings, Pending plan [] phase pending ∧
      (∀ reading ∈ readings, ∃ d, reading = .elapsed d) ∧
      journal = readings ++ .looked false :: pending := by
  cases h with
  | @timedOut phase pending d d' hpending =>
      exact ⟨phase, pending, [.elapsed d', .elapsed d], hpending, by simp, rfl⟩
  | @lasted phase pending d hpending =>
      exact ⟨phase, pending, [.elapsed d], hpending, by simp, rfl⟩
  | _ => simp [Ending.Expired, Journal.TimeSeenOver] at hexpired

/-! ## Contexts and clocks of a world -/

section

variable {σ : Type} [HasContexts σ]

/-- The context of an assertion is done in a world; without one nothing is. -/
def Assertion.Done (assertion : Assertion σ) (v : σ) : Prop :=
  (Contexts.isDoneIn assertion.settings.context? v).1 = true

/-- Worlds that keep their contexts apart from the desk. -/
class ContextsApart (σ : Type) [HasContexts σ] [HasDesk σ] : Prop where
  get_desk : ∀ (desk : Desk) (s : σ),
    HasContexts.part.get (HasDesk.part.set desk s) = HasContexts.part.get s

instance : ContextsApart Session.World := ⟨fun _ _ => rfl⟩

theorem Contexts.isDoneIn_steady (context? : Option ContextId) (s : σ) :
    (isDoneIn context? (isDoneIn context? s).2).1 = (isDoneIn context? s).1 := by
  cases hanswer : isDoneIn context? s with
  | mk done t =>
      cases done with
      | true => exact isDoneIn_again hanswer
      | false =>
          cases context? with
          | none => rfl
          | some c =>
              have hundone : ((HasContexts.part.get s).isDone c).1 = false :=
                congrArg Prod.fst hanswer
              have hsame : ((HasContexts.part.get s).isDone c).2 = HasContexts.part.get s :=
                isDone_unchanged (Prod.ext hundone rfl)
              have hworld : HasContexts.part.set ((HasContexts.part.get s).isDone c).2 s = t :=
                congrArg Prod.snd hanswer
              rw [hsame, HasContexts.part.set_get] at hworld
              rw [← hworld, hanswer]

theorem Contexts.isDoneIn_congr {context? : Option ContextId} {s t : σ}
    (h : HasContexts.part.get t = HasContexts.part.get s) :
    (isDoneIn context? t).1 = (isDoneIn context? s).1 := by
  cases context? with
  | none => rfl
  | some c =>
      show ((HasContexts.part.get t).isDone c).1 = ((HasContexts.part.get s).isDone c).1
      rw [h]

variable [HasDesk σ]

/-- Looking at a context leaves the virtual clock alone. -/
theorem Contexts.clock_isDoneIn [HasVirtualClock σ] [ClockApart σ] (context? : Option ContextId)
    (s : σ) : HasVirtualClock.part.get (isDoneIn context? s).2 = HasVirtualClock.part.get s := by
  cases context? with
  | none => rfl
  | some c => exact ClockApart.get_contexts _ s

variable [ContextsApart σ]

theorem Progress.contexts_publish (attachment? : Option Attachment) (reason : String) (s : σ) :
    HasContexts.part.get (publish attachment? reason s) = HasContexts.part.get s := by
  cases attachment? with
  | none => rfl
  | some attachment => exact ContextsApart.get_desk _ s

theorem Progress.contexts_attach? (context? : Option ContextId) (s : σ) :
    HasContexts.part.get (attach? context? s).2 = HasContexts.part.get s := by
  unfold attach?
  split
  · exact ContextsApart.get_desk _ s
  · rfl

end

/-! ## The clocks and contexts that are done -/

namespace Clock

/-- Reading the clock leaves the world alone. -/
def Still {σ : Type} (clock : Clock σ) : Prop := ∀ v, (clock.now v).2 = v

variable {σ : Type} [HasContexts σ] {context? : Option ContextId} {d : Span} {v t : σ}

theorem still_virtual [HasVirtualClock σ] : (virtual : Clock σ).Still := fun _ => rfl

/-- A virtual clock does not pause for a context that is done. -/
theorem virtual_sleep_of_done [HasVirtualClock σ] (h : (Contexts.isDoneIn context? v).1 = true)
    (d : Span) : virtual.sleep d context? v = .ok () (Contexts.isDoneIn context? v).2 := by
  cases hanswer : Contexts.isDoneIn context? v with
  | mk done u =>
      rw [hanswer] at h
      cases h
      simp only [virtual, hanswer]

/-- A virtual clock pauses for a context that is not done, and for none. -/
theorem virtual_sleep_of_undone [HasVirtualClock σ] (h : (Contexts.isDoneIn context? v).1 = false)
    (d : Span) :
    virtual.sleep d context? v =
      .ok () (HasVirtualClock.part.update (VirtualClock.sleep d)
        (Contexts.isDoneIn context? v).2) := by
  cases hanswer : Contexts.isDoneIn context? v with
  | mk done u =>
      rw [hanswer] at h
      cases h
      simp only [virtual, hanswer]

/-- After a pause on a virtual clock a context is done if it was done before. -/
theorem done_of_virtual_sleep [HasVirtualClock σ] (h : (Contexts.isDoneIn context? v).1 = true)
    (hsleep : virtual.sleep d context? v = .ok () t) : (Contexts.isDoneIn context? t).1 = true := by
  rw [virtual_sleep_of_done h] at hsleep
  cases hsleep
  exact (Contexts.isDoneIn_steady _ _).trans h

/-- After a pause on the wall clock a context is done if it was done before. -/
theorem done_of_wall_sleep (h : (Contexts.isDoneIn context? v).1 = true)
    (hsleep : wall.sleep d context? v = .ok () t) : (Contexts.isDoneIn context? t).1 = true := by
  cases context? with
  | none => cases h
  | some c =>
      cases hanswer : (HasContexts.part.get v).isDone c with
      | mk done contexts =>
          have hdone : done = true := by
            have hfound : ((HasContexts.part.get v).isDone c).1 = true := h
            rw [hanswer] at hfound
            exact hfound
          subst hdone
          -- waiting asks first, and the answer is yes
          have hwait : (HasContexts.part.get v).wait c d = (true, contexts) := by
            unfold Contexts.wait Contexts.waitUntil
            rw [hanswer]
          have hworld : HasContexts.part.set contexts v = t := by
            have hslept : HasContexts.part.set ((HasContexts.part.get v).wait c d).2 v = t := by
              cases hsleep
              rfl
            rw [hwait] at hslept
            exact hslept
          have hagain : (contexts.isDone c).1 = true := Contexts.isDone_again hanswer
          rw [← hworld]
          show ((HasContexts.part.get (HasContexts.part.set contexts v)).isDone c).1 = true
          rw [HasContexts.part.get_set]
          exact hagain

end Clock

namespace Poller

section

variable {σ : Type} [HasContexts σ] [HasDesk σ] {poller : Poller σ} {assertion : Assertion σ}
  {s : σ}

/-- A context that is done stays done when a run takes its starting time, and when it
pauses. -/
structure KeepsDone (poller : Poller σ) (assertion : Assertion σ) (s : σ) : Prop where
  start : assertion.Done s → assertion.Done (poller.outset assertion s).world
  rest : ∀ {d v t}, poller.clock.sleep d assertion.settings.context? v = .ok () t →
    assertion.Done v → assertion.Done t

variable [ContextsApart σ]

/-- If reading the clock leaves the world alone, only the pauses matter. -/
theorem keepsDone_of_still (hstill : poller.clock.Still)
    (hrest : ∀ {d v t}, poller.clock.sleep d assertion.settings.context? v = .ok () t →
      assertion.Done v → assertion.Done t) : poller.KeepsDone assertion s where
  start hdone := by
    have hworld : (poller.outset assertion s).world =
        (Progress.attach? assertion.settings.context? s).2 := hstill _
    rw [hworld]
    exact (Contexts.isDoneIn_congr (Progress.contexts_attach? _ s)).trans hdone
  rest := hrest

/-- On a virtual clock contexts that are done stay so. -/
theorem keepsDone_virtual [HasVirtualClock σ] (hclock : poller.clock = .virtual) :
    poller.KeepsDone assertion s := by
  have hstill : poller.clock.Still := by
    rw [hclock]
    exact Clock.still_virtual
  refine keepsDone_of_still hstill fun hsleep hdone => ?_
  rw [hclock] at hsleep
  exact Clock.done_of_virtual_sleep hdone hsleep

/-- And so they do on the wall clock. -/
theorem keepsDone_wall (hclock : poller.clock = .wall)
    (hinstant : (HasContexts.part.get s).instant ≤ Span.max) : poller.KeepsDone assertion s where
  start hdone := by
    have hattached := Progress.contexts_attach? assertion.settings.context? s
    generalize hworld : (Progress.attach? assertion.settings.context? s).2 = u at hattached
    have hread : HasContexts.part.get (poller.outset assertion s).world =
        (HasContexts.part.get s).read.2 := by
      unfold outset
      rw [hclock, hworld, ← hattached]
      exact HasContexts.part.get_set _ _
    unfold Assertion.Done at hdone ⊢
    cases hcontext : assertion.settings.context? with
    | none =>
        rw [hcontext] at hdone
        cases hdone
    | some c =>
        rw [hcontext] at hdone
        show ((HasContexts.part.get (poller.outset assertion s).world).isDone c).1 = true
        rw [hread]
        exact Contexts.isDone_later (Span.le_add Contexts.moment hinstant) hdone
  rest hsleep hdone := by
    rw [hclock] at hsleep
    exact Clock.done_of_wall_sleep hdone hsleep

end

/-- So they do on a virtual clock with acts around its pauses, if they do when acts are
performed. -/
theorem keepsDone_hooked {poller : Poller Session.World} {assertion : Assertion Session.World}
    {s : Session.World} {hooks : List Session.Hook}
    {perform : List Session.Act → Action Session.World Unit}
    (hclock : poller.clock = Session.hookedClock .virtual hooks perform)
    (hacts : ∀ {acts v t}, perform acts v = .ok () t → assertion.Done v → assertion.Done t) :
    poller.KeepsDone assertion s := by
  have hstill : poller.clock.Still := by
    rw [hclock]
    exact Clock.still_virtual
  refine keepsDone_of_still hstill fun {d v t} hsleep hdone => ?_
  rw [hclock] at hsleep
  obtain ⟨pause, counted, hcount, hsleep⟩ := Action.bind_eq_ok_iff.1 hsleep
  obtain ⟨_, before, hbefore, hsleep⟩ := Action.bind_eq_ok_iff.1 hsleep
  obtain ⟨_, after, hpause, hafter⟩ := Action.bind_eq_ok_iff.1 hsleep
  have hsame : counted.contexts = v.contexts := by
    cases hcount
    rfl
  have hcounted : assertion.Done counted := (Contexts.isDoneIn_congr hsame).trans hdone
  have hpaused : assertion.Done after := Clock.done_of_virtual_sleep (hacts hbefore hcounted) hpause
  exact hacts hafter hpaused

variable {σ : Type} [ReasonLog σ] [HasCheckers σ] [HasContexts σ] [HasDesk σ] {poller : Poller σ}
  {assertion : Assertion σ} {limit : Nat} {s v : σ} {ending? : Option Ending} {run : Run σ}

theorem KeepsDone.scene (h : poller.KeepsDone assertion s) :
    (poller.scene assertion s).KeepsDone where
  look v := Contexts.isDoneIn_steady assertion.settings.context? v
  rest hsleep hdone := h.rest hsleep hdone

/-- The context came to be done while the clock was read: it was not done at a time
after which the run has done nothing but read the clock. -/
def DoneByReading (poller : Poller σ) (assertion : Assertion σ) (s : σ) (journal : List Event) :
    Prop :=
  ∃ readings before u, (∀ reading ∈ readings, ∃ d, reading = Event.elapsed d) ∧
    journal = readings ++ before ∧ poller.Reaches assertion s before u ∧ ¬ assertion.Done u

theorem doneByReading_of_undone {readings before earlier : List Event} {w : σ}
    (hundone : Undone (poller.scene assertion s) (poller.outset assertion s).started
      (poller.outset assertion s).world before)
    (hreadings : ∀ reading ∈ readings, ∃ d, reading = .elapsed d)
    (hbefore : poller.Reaches assertion s before w) (hcourse : poller.Reaches assertion s earlier v)
    (hdone : assertion.Done v) (hsuffix : earlier <:+ readings ++ before) :
    poller.DoneByReading assertion s earlier := by
  rcases List.suffix_or_suffix_of_suffix hsuffix (List.suffix_append _ _) with hearlier | hlater
  · cases (hundone earlier v hearlier hcourse).symm.trans hdone
  · obtain ⟨later, rfl⟩ := hlater
    have hlater : later <:+ readings := List.suffix_append_self_iff.1 hsuffix
    refine ⟨later, before, w, fun reading hreading => hreadings reading (hlater.mem hreading), rfl,
      hbefore, fun hfound => ?_⟩
    cases (hundone before w List.suffix_rfl hbefore).symm.trans hfound

/-- If reading the clock leaves the world alone, it ends no context. -/
theorem not_doneByReading (hstill : poller.clock.Still)
    {earlier : List Event} (hcourse : poller.Reaches assertion s earlier v)
    (hdone : assertion.Done v) : ¬ poller.DoneByReading assertion s earlier := by
  rintro ⟨readings, before, u, hreadings, rfl, hbefore, hundone⟩
  induction readings generalizing v with
  | nil =>
      have hsame : u = v := hbefore.unique hcourse
      subst hsame
      exact hundone hdone
  | cons reading readings ih =>
      obtain ⟨d, rfl⟩ := hreadings reading List.mem_cons_self
      obtain ⟨w, hw, hread⟩ := course_cons.1 hcourse
      cases hread with
      | elapsed hnow =>
          have hsame : w = v := by
            have hread : (poller.clock.now w).2 = v := congrArg Prod.snd hnow
            exact (hstill w).symm.trans hread
          subst hsame
          exact ih hdone (fun r hr => hreadings r (List.mem_cons_of_mem _ hr)) hw

/-- A run that may make an attempt does not stand still. -/
theorem run_journal_ne_nil (h : poller.run assertion limit s = (none, run)) (hlimit : 0 < limit) :
    run.journal ≠ [] := by
  obtain ⟨n, rfl⟩ := Nat.exists_eq_succ_of_ne_zero (Nat.ne_of_gt hlimit)
  rw [run_eq] at h
  split at h
  · rename_i final hrounds
    cases h
    rw [Polling.rounds_succ] at hrounds
    cases hround : Polling.round (assertion.plan poller.defaults) (poller.scene assertion s)
        (poller.outset assertion s) with
    | error ending next =>
        rw [hround] at hrounds
        cases hrounds
    | ok _ next =>
        rw [hround] at hrounds
        have hpending : Pending (assertion.plan poller.defaults) [] .opening [] := .starting
        obtain ⟨e, d, d', _, _, _, hstands⟩ := (Polling.round_leads hpending).ok
          (Polling.stands_starting _ _ _) hround
        have hjournal := hstands.journal_eq
        rw [← hjournal] at hstands
        have hlater :
            Pending (assertion.plan poller.defaults) next.journal .opening final.journal :=
          ((Polling.rounds_leads n).ok ⟨.starting, hstands⟩ hrounds).1
        have hmore := hlater.attempts_length_le
        intro hempty
        have hnone : final.journal = [] := hempty
        rw [hnone, hjournal] at hmore
        exact absurd hmore (Nat.not_succ_le_zero _)
  · cases h

/-- Once the context is done where the run looks at it, the run is cancelled. -/
theorem run_cancelled_at (h : poller.run assertion limit s = (ending?, run)) (hlimit : 0 < limit)
    {before : List Event} (hbefore : Journal.AwaitsLook assertion.kind before)
    (hsuffix : before <:+ run.journal)
    (hcourse : poller.Reaches assertion s before v) (hdone : assertion.Done v) :
    ∃ d, run.journal = .elapsed d :: .looked true :: before ∧
      ending? = some (.failed .cancelled (Journal.reason before) d) := by
  have hlooked : ∀ {w}, poller.Reaches assertion s run.journal w →
      ¬ .looked false :: before <:+ run.journal := by
    intro w hrun hlooked
    obtain ⟨_, hnext⟩ := hrun.of_suffix hlooked
    obtain ⟨u, hu, hevent⟩ := course_cons.1 hnext
    have hsame : u = v := hu.unique hcourse
    subst hsame
    cases hevent with
    | looked hundone =>
        have hfound : (Contexts.isDoneIn assertion.settings.context? u).1 = false :=
          congrArg Prod.fst hundone
        cases hfound.symm.trans hdone
  cases ending? with
  | none =>
      obtain ⟨w, hpending, hrun, _⟩ := run_stands h
      rcases hpending.look_next hbefore hsuffix with rfl | hnext
      · exact absurd (hpending.eq_nil_of_awaitsLook hbefore) (run_journal_ne_nil h hlimit)
      · exact absurd hnext (hlooked hrun)
  | some ending =>
      obtain ⟨w, u, hconcluded, hrun, _, _⟩ := run_over h
      rcases hconcluded.look_next hbefore hsuffix with ⟨d, hjournal, hending⟩ | hnext
      · exact ⟨d, hjournal, by rw [hending]⟩
      · exact absurd hnext (hlooked hrun)

/-- No attempt is begun once the context is done. -/
theorem not_began_of_done (h : poller.run assertion limit s = (ending?, run))
    (hkeeps : (poller.scene assertion s).KeepsDone) {earlier later : List Event}
    (hcourse : poller.Reaches assertion s earlier v) (hdone : assertion.Done v)
    (hlater : earlier <:+ later) : ¬ .began :: later <:+ run.journal := by
  intro hbegan
  obtain ⟨opening, rfl, hpending⟩ := run_opening_of_began h hbegan
  obtain ⟨w, hrun⟩ := run_course h
  obtain ⟨u, hlooked⟩ := hrun.of_suffix ((List.suffix_cons _ _).trans hbegan)
  have hundone := hpending.undone_of_looked hkeeps hlooked
  cases (hundone earlier v hlater hcourse).symm.trans hdone

/-- A pause is taken only if the context came to be done while the clock was read just
before, after the last look. -/
theorem doneByReading_of_paused (h : poller.run assertion limit s = (ending?, run))
    (hkeeps : (poller.scene assertion s).KeepsDone) {earlier later : List Event}
    (hcourse : poller.Reaches assertion s earlier v) (hdone : assertion.Done v)
    (hlater : earlier <:+ later) {d : Span} (hpaused : .paused d :: later <:+ run.journal) :
    later = earlier ∧ poller.DoneByReading assertion s earlier := by
  obtain ⟨passed, judged, _, _, rfl, hpending⟩ := run_judged_of_paused h hpaused
  obtain ⟨w, hrun⟩ := run_course h
  obtain ⟨u, hread⟩ := hrun.of_suffix ((List.suffix_cons _ _).trans hpaused)
  obtain ⟨t, hlooked⟩ := hread.of_suffix (List.suffix_cons _ _)
  have hundone := hpending.undone_of_looked hkeeps hlooked
  have hreading : ∀ reading ∈ [Event.elapsed passed], ∃ d, reading = .elapsed d := by simp
  refine ⟨?_, doneByReading_of_undone hundone hreading hlooked hcourse hdone hlater⟩
  rcases List.suffix_cons_iff.1 hlater with rfl | hlater
  · rfl
  · cases (hundone earlier v hlater hcourse).symm.trans hdone

/-- A run whose context is done ends because its time is over only if the context came
to be done while the clock was read, after the last look. -/
theorem doneByReading_of_expired {ending : Ending}
    (h : poller.run assertion limit s = (some ending, run))
    (hkeeps : (poller.scene assertion s).KeepsDone) {earlier : List Event}
    (hcourse : poller.Reaches assertion s earlier v) (hdone : assertion.Done v)
    (hsuffix : earlier <:+ run.journal)
    (hexpired : ending.Expired (assertion.plan poller.defaults).timeout run.journal) :
    poller.DoneByReading assertion s earlier := by
  obtain ⟨w, u, hconcluded, hrun, _, _⟩ := run_over h
  obtain ⟨phase, pending, readings, hpending, hreadings, hjournal⟩ :=
    hconcluded.unattempted_of_expired hexpired
  rw [hjournal] at hrun hsuffix
  obtain ⟨_, hlooked⟩ := hrun.of_suffix (List.suffix_append _ _)
  have hundone := hpending.undone_of_looked hkeeps hlooked
  exact doneByReading_of_undone hundone hreadings hlooked hcourse hdone hsuffix

/-- An attempt during which the context becomes done is the last one. It decides the run
if it can. -/
theorem run_cancelled_by_attempt [ContextsApart σ]
    (h : poller.run assertion limit s = (ending?, run)) (hlimit : 0 < limit) {earlier : List Event}
    {judgement : Judgement} {t : σ} (hbegan : .began :: earlier <:+ run.journal)
    (hcourse : poller.Reaches assertion s earlier v)
    (hattempt : assertion.attempt v = .ok (.ok judgement) t) (hdone : assertion.Done t) :
    Journal.attempts run.journal = some judgement :: Journal.attempts earlier ∧
      (¬ judgement.LeavesOpen assertion.kind → ∃ ending, ending? = some ending ∧
        judgement.Decides assertion.kind (Journal.attempts earlier) ending) ∧
      ∀ e, judgement = .evaluated e → e.LeavesOpen assertion.kind →
        ∃ d, ending? = some (.failed .cancelled e.reason d) := by
  by_cases hopen : judgement.LeavesOpen assertion.kind
  · obtain ⟨e, rfl, hleft⟩ := hopen
    have hafter : poller.Reaches assertion s (.attempted (.evaluated e) :: .began :: earlier)
        (Progress.publish (assertion.slip? s) e.reason t) :=
      .cons (.cons hcourse .began) (.evaluated hattempt)
    have hstill : assertion.Done (Progress.publish (assertion.slip? s) e.reason t) :=
      (Contexts.isDoneIn_congr (Progress.contexts_publish _ _ _)).trans hdone
    obtain ⟨d, hjournal, hending⟩ := run_cancelled_at h hlimit (.judged hleft)
      (run_attempted h hbegan hcourse hattempt) hafter hstill
    refine ⟨by rw [hjournal]; rfl, fun hdecisive => ?_, fun e' heq _ => ⟨d, ?_⟩⟩
    · exact absurd ⟨e, rfl, hleft⟩ hdecisive
    · cases heq
      exact hending
  · obtain ⟨ending, hending, hdecides, hattempts⟩ := run_decided h hbegan hcourse hattempt hopen
    refine ⟨hattempts, fun _ => ⟨ending, hending, hdecides⟩, fun e heq hleft => ?_⟩
    exact absurd ⟨e, heq, hleft⟩ hopen

/-- A run whose context is done from the start fails before its first attempt. -/
theorem run_cancelled_at_once (h : poller.run assertion limit s = (ending?, run))
    (hlimit : 0 < limit) (hdone : assertion.Done (poller.outset assertion s).world) :
    Journal.attempts run.journal = [] ∧ ∃ d, ending? = some (.failed .cancelled "" d) := by
  obtain ⟨d, hjournal, hending⟩ := run_cancelled_at h hlimit .starting List.nil_suffix .nil hdone
  rw [hjournal]
  exact ⟨rfl, d, hending⟩

/-- A run whose context becomes done in a pause fails with the text of the attempt
before. -/
theorem run_cancelled_by_pause (h : poller.run assertion limit s = (ending?, run))
    (hlimit : 0 < limit) {earlier : List Event} {d : Span}
    (hpaused : .paused d :: earlier <:+ run.journal)
    (hcourse : poller.Reaches assertion s (.paused d :: earlier) v) (hdone : assertion.Done v) :
    ∃ d, ending? = some (.failed .cancelled
      (Journal.lastText (Journal.attempts run.journal)) d) := by
  obtain ⟨d', hjournal, hending⟩ := run_cancelled_at h hlimit .rested hpaused hcourse hdone
  obtain ⟨passed, judged, rfl, hpassed, rfl, hpending⟩ := run_judged_of_paused h hpaused
  have hrested := Pending.rested hpending hpassed
  refine ⟨d', ?_⟩
  rw [hending, hjournal, hrested.reason_eq]
  rfl

/-- What a run does once its context is done. No attempt is begun any more, no pause is
taken, and the run does not end because its time is over. Only a context that came to
be done while the clock was read goes unnoticed until the next look: there may be one
pause before it, or the end of the time. This does not happen if reading the clock
leaves the world alone, and a virtual clock writes down no pause for a context that is
done. If the context is done before the first attempt the run fails at once. An attempt
during which it becomes done is the last one; it decides the run if it can, and
otherwise the run is cancelled with its text. If the context becomes done during a
pause the run is cancelled with the text of the attempt before. -/
theorem run_cancelled [HasVirtualClock σ] [ClockApart σ] [ContextsApart σ]
    (h : poller.run assertion limit s = (ending?, run)) (hlimit : 0 < limit)
    (hclock : poller.KeepsDone assertion s) :
    (∀ earlier v, earlier <:+ run.journal → poller.Reaches assertion s earlier v →
        assertion.Done v →
        (∀ later, earlier <:+ later → ¬ .began :: later <:+ run.journal) ∧
        (∀ later d, earlier <:+ later → .paused d :: later <:+ run.journal →
          later = earlier ∧ poller.DoneByReading assertion s earlier) ∧
        (∀ ending, ending? = some ending →
          ending.Expired (assertion.plan poller.defaults).timeout run.journal →
          poller.DoneByReading assertion s earlier) ∧
        (poller.clock.Still → ¬ poller.DoneByReading assertion s earlier)) ∧
      (∀ d v, assertion.Done v →
        ∃ t, Clock.virtual.sleep d assertion.settings.context? v = .ok () t ∧
          HasVirtualClock.part.get t = HasVirtualClock.part.get v) ∧
      (assertion.Done s ∨ assertion.Done (poller.outset assertion s).world →
        Journal.attempts run.journal = [] ∧ ∃ d, ending? = some (.failed .cancelled "" d)) ∧
      (∀ earlier v judgement t, .began :: earlier <:+ run.journal →
        poller.Reaches assertion s earlier v → assertion.attempt v = .ok (.ok judgement) t →
        assertion.Done t →
        Journal.attempts run.journal = some judgement :: Journal.attempts earlier ∧
          (¬ judgement.LeavesOpen assertion.kind → ∃ ending, ending? = some ending ∧
            judgement.Decides assertion.kind (Journal.attempts earlier) ending) ∧
          ∀ e, judgement = .evaluated e → e.LeavesOpen assertion.kind →
            ∃ d, ending? = some (.failed .cancelled e.reason d)) ∧
      (∀ earlier v d, .paused d :: earlier <:+ run.journal →
        poller.Reaches assertion s (.paused d :: earlier) v → assertion.Done v →
        ∃ d, ending? = some (.failed .cancelled
          (Journal.lastText (Journal.attempts run.journal)) d)) := by
  have hkeeps : (poller.scene assertion s).KeepsDone := hclock.scene
  refine ⟨fun earlier v hsuffix hcourse hdone => ⟨fun later hlater => ?_,
      fun later d hlater hpaused => ?_, fun ending hending hexpired => ?_, fun hstill => ?_⟩,
    fun d v hdone => ?_, fun hdone => ?_,
    fun earlier v judgement t hbegan hcourse hattempt hdone => ?_,
    fun earlier v d hsuffix hcourse hdone => ?_⟩
  · exact not_began_of_done h hkeeps hcourse hdone hlater
  · exact doneByReading_of_paused h hkeeps hcourse hdone hlater hpaused
  · subst hending
    exact doneByReading_of_expired h hkeeps hcourse hdone hsuffix hexpired
  · exact not_doneByReading hstill hcourse hdone
  · exact ⟨_, Clock.virtual_sleep_of_done hdone d, Contexts.clock_isDoneIn _ v⟩
  · rcases hdone with hdone | hdone
    · exact run_cancelled_at_once h hlimit (hclock.start hdone)
    · exact run_cancelled_at_once h hlimit hdone
  · exact run_cancelled_by_attempt h hlimit hbegan hcourse hattempt hdone
  · exact run_cancelled_by_pause h hlimit hsuffix hcourse hdone

end Poller

/-! ## A matcher that ends the context -/

section

variable {σ : Type} [HasContexts σ]

/-- Matches nothing, and ends a context that has no children when asked to. -/
def Matcher.ending (c : ContextId) : Matcher σ Datum :=
  Judge.toMatcher
    { verdict := fun _ s =>
        .ok (.ok false) (HasContexts.part.update (Contexts.update c (Context.ended .cancelled)) s)
      failureText := fun _ => return "no match"
      negatedText := fun _ => return "a match"
      hint := fun _ => return none }

/-- Observes a text with a matcher that ends the context of the assertion. -/
def Assertion.ending : Assertion σ where
  kind := .eventually
  probe := .observed (.ofString "")
  settings := ⟨some 10, some 4, some 0, []⟩
  matcher := .ending 0
  positive := true
  description? := none

end

/-- A world with one context, which is done or not. -/
def Session.World.lone (done : Bool) : Session.World :=
  { Session.World.starting 0 with
    contexts := if done then Contexts.empty.background.2.update 0 (Context.ended .cancelled)
      else Contexts.empty.background.2 }

/-- The run is cancelled with the text of that attempt; a second run with the same
context makes no attempt. -/
theorem Poller.run_cancelled_ending :
    (∃ d, (Poller.virtual.run Assertion.ending 9 (Session.World.lone false)).1 =
        some (.failed .cancelled "no match" d)) ∧
      Journal.attempts
        (Poller.virtual.run Assertion.ending 9 (Session.World.lone true)).2.journal = [] := by
  have hlimit : 0 < 9 := by decide
  constructor
  · generalize hrun : Poller.virtual.run Assertion.ending 9 (Session.World.lone false) = run
    have hbegan : Event.began :: [.looked false] <:+ run.2.journal := by
      rw [← hrun]
      decide +kernel
    obtain ⟨v, t, hcourse, hattempt, hdone⟩ : ∃ v t,
        Poller.virtual.Reaches Assertion.ending (Session.World.lone false) [.looked false] v ∧
          Assertion.ending.attempt v =
            .ok (.ok (.evaluated ⟨false, "no match", none, none⟩)) t ∧ Assertion.ending.Done t := by
      have hundone : ((Poller.virtual.scene Assertion.ending (Session.World.lone false)).cancelled
          (Poller.virtual.outset Assertion.ending (Session.World.lone false)).world).1 = false := by
        decide +kernel
      refine ⟨_, _, .cons .nil (.looked (Prod.ext hundone rfl)), rfl, ?_⟩
      unfold Assertion.Done
      decide +kernel
    obtain ⟨-, -, -, hends, -⟩ := run_cancelled hrun hlimit (keepsDone_virtual rfl)
    obtain ⟨-, -, hcancelled⟩ := hends _ _ _ _ hbegan hcourse hattempt hdone
    exact hcancelled _ rfl ⟨rfl, rfl, rfl⟩
  · generalize hrun : Poller.virtual.run Assertion.ending 9 (Session.World.lone true) = run
    have hdone : Assertion.ending.Done (Session.World.lone true) := by
      unfold Assertion.Done
      decide +kernel
    obtain ⟨-, -, hstart, -⟩ := run_cancelled hrun hlimit (keepsDone_virtual rfl)
    exact (hstart (.inl hdone)).1

end PollingAssertions
