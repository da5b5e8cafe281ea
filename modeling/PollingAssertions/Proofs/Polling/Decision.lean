import PollingAssertions.Proofs.Polling.Course

/-!
# Attempts that decide a run

An attempt that is judged either leaves its run open or decides it. Which of
the two it does can be told from the judgement and the kind of the run, and how
the run then ends from these and from the attempts before it. Neither the time
nor the context has a say in that: an attempt that decides the run is its last
one, whatever else has happened in the meantime.

## Main definitions

* `Judgement.LeavesOpen`, `Judgement.Decides` — the two things that a judgement
  can mean for a run.
* `Journal.lastText` — the text of the last attempt.
* `Ends` — the part of a journal after its last look at the context.

## Main results

* `Course.unique` — what has happened leads to one world only.
* `Concluded.attempt_of_began` — what becomes of an attempt that is begun.
* `Concluded.last_look` — how a run ends, seen from its last look at the context.
* `Poller.run_attempt_cases` — what becomes of an attempt that a run begins.
* `Poller.run_decided` — an attempt that does not leave the run open is its
  last one and decides it.
-/

namespace PollingAssertions

/-- The text of the last attempt, which is what it failed with or would have
failed with; empty if there was no attempt. -/
def Journal.lastText : List (Option Judgement) → String
  | some (.evaluated e) :: _ => e.reason
  | _ => ""

namespace Judgement

/-- The attempt was evaluated, and the result decides nothing. -/
def LeavesOpen (judgement : Judgement) (kind : Kind) : Prop :=
  ∃ e, judgement = .evaluated e ∧ e.LeavesOpen kind

/-- How the judgement on an attempt decides a run of a given kind, after some
earlier attempts. -/
inductive Decides (kind : Kind) (earlier : List (Option Judgement)) : Judgement → Ending → Prop
  | passed {e : Evaluation} :
      e.passed = true → (kind = .consistently → e.stop?.isSome = true) →
      Decides kind earlier (.evaluated e) .passed
  | stopped {e : Evaluation} {stop : StopSignal} {d : Span} :
      e.passed = false → e.stop? = some stop →
      Decides kind earlier (.evaluated e) (.failed (.stopped stop.reason) e.reason d)
  | hinted {e : Evaluation} {hint : String} {d : Span} :
      kind = .eventually → e.passed = false → e.stop? = none → e.hint? = some hint →
      Decides kind earlier (.evaluated e) (.failed .noFutureChange hint d)
  | failed {e : Evaluation} {d : Span} :
      kind = .consistently → e.passed = false → e.stop? = none →
      Decides kind earlier (.evaluated e) (.failed .failed e.reason d)
  /-- The attempts before were good enough. -/
  | confirmed {stop : StopSignal} :
      kind = .consistently → earlier ≠ [] → Decides kind earlier (.interrupted stop) .passed
  | interrupted {stop : StopSignal} {d : Span} :
      (kind = .consistently → earlier = []) →
      Decides kind earlier (.interrupted stop)
        (.failed (.stopped stop.reason) (Journal.lastText earlier) d)

/-- A judgement that decides a run does not leave it open. -/
theorem Decides.not_leavesOpen {judgement : Judgement} {kind : Kind}
    {earlier : List (Option Judgement)} {ending : Ending}
    (h : judgement.Decides kind earlier ending) : ¬ judgement.LeavesOpen kind := by
  intro hopen
  obtain ⟨e, rfl, hopen⟩ := hopen
  cases h with
  | passed hpassed hstop =>
      cases kind with
      | eventually => cases hopen.1.symm.trans hpassed
      | consistently =>
          have hsignal := hstop rfl
          rw [hopen.stop?_eq_none] at hsignal
          cases hsignal
  | stopped _ hstop => cases hopen.stop?_eq_none.symm.trans hstop
  | hinted hkind _ _ hhint =>
      subst hkind
      cases hopen.2.2.symm.trans hhint
  | failed hkind hpassed _ =>
      subst hkind
      cases hopen.1.symm.trans hpassed

end Judgement

/-! ## Attempts in a journal -/

namespace Pending

variable {plan : Plan} {phase : Phase} {journal : List Event}

/-- As long as nothing is decided, the last verdict is that on the last attempt. -/
theorem reason_eq (h : Pending plan [] phase journal) :
    Journal.reason journal = Journal.lastText (Journal.attempts journal) := by
  induction h with
  | starting => rfl
  | judged _ _ _ => rfl
  | rested _ _ ih => exact ih
  | resumed _ _ ih => exact ih

/-- A *consistently* run that is undecided has a good verdict, once there has
been an attempt. -/
theorem verdict?_passed_iff (h : Pending plan [] phase journal)
    (hkind : plan.kind = .consistently) :
    (∃ reason, Journal.verdict? journal = some ⟨true, reason⟩) ↔
      Journal.attempts journal ≠ [] := by
  rw [← h.verdict?_isSome_iff]
  constructor
  · intro hgood
    obtain ⟨reason, hverdict⟩ := hgood
    simp [hverdict]
  · intro hsome
    obtain ⟨verdict, hverdict⟩ := Option.isSome_iff_exists.1 hsome
    have hpassed : verdict.passed = true := h.verdict?_passed hkind hverdict
    exact ⟨verdict.reason, by rw [hverdict, ← hpassed]⟩

/-- As long as nothing is decided, every attempt that was begun has been
evaluated and left the run open. -/
theorem attempt_of_began (h : Pending plan [] phase journal) {earlier : List Event}
    (hsuffix : .began :: earlier <:+ journal) :
    ∃ e : Evaluation, e.LeavesOpen plan.kind ∧
      .attempted (.evaluated e) :: .began :: earlier <:+ journal := by
  induction h with
  | starting => simp at hsuffix
  | @judged journal e _ hopen ih =>
      by_cases hlast : earlier = .looked false :: journal
      · subst hlast
        exact ⟨e, hopen, List.suffix_rfl⟩
      · simp only [List.suffix_cons_iff, reduceCtorEq, List.cons.injEq, false_and, false_or,
          true_and, hlast] at hsuffix
        obtain ⟨e', hopen', hbefore⟩ := ih hsuffix
        exact ⟨e', hopen', by simp [List.suffix_cons_iff, hbefore]⟩
  | rested _ _ ih | resumed _ _ ih =>
      simp only [List.suffix_cons_iff, reduceCtorEq, List.cons.injEq, false_and, false_or] at hsuffix
      obtain ⟨e, hopen, hbefore⟩ := ih hsuffix
      exact ⟨e, hopen, by simp [List.suffix_cons_iff, hbefore]⟩

end Pending

/-! ## The end of a journal -/

/-- An event by which a run only takes note of something. -/
inductive Event.IsNote : Event → Prop
  | elapsed {d : Span} : IsNote (.elapsed d)
  | reasoned {stop : StopSignal} : IsNote (.reasoned stop)

/-- Notes at the end of a journal have no part in what happened before something else. -/
theorem Event.suffix_of_notes {event : Event} {notes earlier journal : List Event}
    (hevent : ¬ event.IsNote) (hnotes : ∀ note ∈ notes, note.IsNote)
    (h : event :: earlier <:+ notes ++ journal) : event :: earlier <:+ journal := by
  induction notes with
  | nil => exact h
  | cons note notes ih =>
      rcases List.suffix_cons_iff.1 h with heq | h
      · cases heq
        exact absurd (hnotes event List.mem_cons_self) hevent
      · exact ih (fun n hn => hnotes n (List.mem_cons_of_mem _ hn)) h

theorem Journal.attempts_notes {notes journal : List Event} (h : ∀ note ∈ notes, note.IsNote) :
    attempts (notes ++ journal) = attempts journal := by
  induction notes with
  | nil => rfl
  | cons note notes ih =>
      have hearlier := ih fun n hn => h n (List.mem_cons_of_mem _ hn)
      cases h note List.mem_cons_self with
      | elapsed => exact hearlier
      | reasoned => exact hearlier

/-- How a run ends, seen from its last look at the context: it is cancelled, or an
attempt decides it or stops it without a judgement, or time is over or a pause
unwinds. -/
inductive Ends (plan : Plan) (phase : Phase) (pending : List Event) : List Event → Ending → Prop
  | cancelled {d : Span} :
      Ends plan phase pending (.elapsed d :: .looked true :: pending)
        (.failed .cancelled (Journal.reason pending) d)
  | decided {judgement : Judgement} {notes : List Event} {ending : Ending} :
      (∀ note ∈ notes, note.IsNote) →
      judgement.Decides plan.kind (Journal.attempts pending) ending →
      Ends plan phase pending (notes ++ .attempted judgement :: .began :: .looked false :: pending)
        ending
  | unjudged {ending : Ending} :
      ((∃ e, ending = .refused e) ∨ ∃ payload, ending = .escaped payload) →
      Ends plan phase pending (.began :: .looked false :: pending) ending
  | unattempted {readings : List Event} {ending : Ending} :
      (∀ reading ∈ readings, ∃ d, reading = .elapsed d) →
      Ends plan phase pending (readings ++ .looked false :: pending) ending

namespace Concluded

variable {plan : Plan} {journal earlier : List Event} {ending : Ending}

/-- A journal that is concluded has a last look at the context, up to which nothing was
decided. -/
theorem last_look (h : Concluded plan [] journal ending) :
    ∃ phase pending, Pending plan [] phase pending ∧ Ends plan phase pending journal ending := by
  have hnone : ∀ note ∈ ([] : List Event), note.IsNote := by simp
  have hread : ∀ {d : Span}, ∀ note ∈ [Event.elapsed d], note.IsNote := by
    intro d note hnote
    rw [List.mem_singleton.1 hnote]
    exact .elapsed
  cases h with
  | cancelled hpending => exact ⟨_, _, hpending, .cancelled⟩
  | refused hpending => exact ⟨_, _, hpending, .unjudged (.inl ⟨_, rfl⟩)⟩
  | escaped hpending => exact ⟨_, _, hpending, .unjudged (.inr ⟨_, rfl⟩)⟩
  | confirmed hpending hkind hverdict =>
      have hmore := (hpending.verdict?_passed_iff hkind).1 ⟨_, hverdict⟩
      exact ⟨_, _, hpending, .decided hnone (.confirmed hkind hmore)⟩
  | @interrupted pending stop d hpending hnever =>
      have hfirst : plan.kind = .consistently → Journal.attempts pending = [] := by
        intro hkind
        by_cases hmore : Journal.attempts pending = []
        · exact hmore
        · obtain ⟨reason, hverdict⟩ := (hpending.verdict?_passed_iff hkind).2 hmore
          exact absurd hverdict (hnever hkind reason)
      rw [hpending.reason_eq]
      have hnotes : ∀ note ∈ [Event.elapsed d, .reasoned stop], note.IsNote := by
        simp [Event.IsNote.elapsed, Event.IsNote.reasoned]
      exact ⟨_, _, hpending, .decided hnotes (.interrupted hfirst)⟩
  | passed hpending hpassed hstop => exact ⟨_, _, hpending, .decided hnone (.passed hpassed hstop)⟩
  | @stopped pending e stop d hpending hpassed hstop =>
      have hnotes : ∀ note ∈ [Event.elapsed d, .reasoned stop], note.IsNote := by
        simp [Event.IsNote.elapsed, Event.IsNote.reasoned]
      exact ⟨_, _, hpending, .decided hnotes (.stopped hpassed hstop)⟩
  | hinted hpending hkind hpassed hstop hhint =>
      exact ⟨_, _, hpending, .decided hread (.hinted hkind hpassed hstop hhint)⟩
  | failed hpending hkind hpassed hstop =>
      exact ⟨_, _, hpending, .decided hread (.failed hkind hpassed hstop)⟩
  | @timedOut phase pending d d' hpending =>
      have hreadings : ∀ reading ∈ [Event.elapsed d', .elapsed d], ∃ d, reading = .elapsed d := by
        simp
      exact ⟨_, _, hpending, .unattempted hreadings⟩
  | @lasted phase pending d hpending =>
      have hreadings : ∀ reading ∈ [Event.elapsed d], ∃ d, reading = .elapsed d := by simp
      exact ⟨_, _, hpending, .unattempted hreadings⟩
  | @disturbed pending d payload hpending =>
      have hreadings : ∀ reading ∈ [Event.elapsed d], ∃ d, reading = .elapsed d := by simp
      exact ⟨_, _, hpending, .unattempted hreadings⟩

/-- What becomes of an attempt that is begun: it leaves the run open, or it
decides the run and is its last one, or it stops the run without a judgement. -/
theorem attempt_of_began (h : Concluded plan [] journal ending)
    (hsuffix : .began :: earlier <:+ journal) :
    (∃ e : Evaluation, e.LeavesOpen plan.kind ∧
        .attempted (.evaluated e) :: .began :: earlier <:+ journal) ∨
      (∃ judgement : Judgement, judgement.Decides plan.kind (Journal.attempts earlier) ending ∧
        .attempted judgement :: .began :: earlier <:+ journal ∧
        Journal.attempts journal = some judgement :: Journal.attempts earlier) ∨
      (journal = .began :: earlier ∧
        ((∃ e, ending = .refused e) ∨ ∃ payload, ending = .escaped payload)) := by
  have hbegan : ¬ Event.began.IsNote := by
    intro hnote
    cases hnote
  obtain ⟨phase, pending, hpending, hends⟩ := h.last_look
  -- an attempt before the last look
  have hopen : pending <:+ journal → .began :: earlier <:+ pending →
      ∃ e : Evaluation, e.LeavesOpen plan.kind ∧
        .attempted (.evaluated e) :: .began :: earlier <:+ journal := by
    intro hpart hsuffix
    obtain ⟨e, hleft, hbefore⟩ := hpending.attempt_of_began hsuffix
    exact ⟨e, hleft, hbefore.trans hpart⟩
  cases hends with
  | cancelled =>
      have hbefore : .began :: earlier <:+ pending := by
        simpa [List.suffix_cons_iff] using hsuffix
      exact .inl (hopen (by simp [List.suffix_cons_iff]) hbefore)
  | @decided judgement notes _ hnotes hdecides =>
      have hpart : ∀ {part}, part <:+ .attempted judgement :: .began :: .looked false :: pending →
          part <:+ notes ++ .attempted judgement :: .began :: .looked false :: pending :=
        fun hpart => hpart.trans (List.suffix_append _ _)
      have hwhen : earlier = .looked false :: pending ∨ .began :: earlier <:+ pending := by
        simpa [List.suffix_cons_iff] using Event.suffix_of_notes hbegan hnotes hsuffix
      rcases hwhen with rfl | hbefore
      · exact .inr (.inl ⟨judgement, hdecides, hpart List.suffix_rfl, Journal.attempts_notes hnotes⟩)
      · exact .inl (hopen (hpart (by simp [List.suffix_cons_iff])) hbefore)
  | unjudged hstopped =>
      have hwhen : earlier = .looked false :: pending ∨ .began :: earlier <:+ pending := by
        simpa [List.suffix_cons_iff] using hsuffix
      rcases hwhen with rfl | hbefore
      · exact .inr (.inr ⟨rfl, hstopped⟩)
      · exact .inl (hopen (by simp [List.suffix_cons_iff]) hbefore)
  | @unattempted readings _ hreadings =>
      have hnotes : ∀ note ∈ readings, note.IsNote := by
        intro note hnote
        obtain ⟨d, rfl⟩ := hreadings note hnote
        exact .elapsed
      have hbefore : .began :: earlier <:+ pending := by
        simpa [List.suffix_cons_iff] using Event.suffix_of_notes hbegan hnotes hsuffix
      have hpart : pending <:+ readings ++ .looked false :: pending :=
        (List.suffix_cons _ _).trans (List.suffix_append _ _)
      exact .inl (hopen hpart hbefore)

end Concluded

/-! ## What has happened leads to one world -/

section

variable {σ : Type} [ReasonLog σ] {around : Surroundings σ} {started : Span} {s t u : σ}

theorem Occurs.unique {event : Event} (h : Occurs around started event s t)
    (h' : Occurs around started event s u) : t = u := by
  cases event with
  | looked done =>
      cases h with
      | looked hdone =>
          cases h' with
          | looked hdone' => exact congrArg Prod.snd (hdone.symm.trans hdone')
  | began =>
      cases h with
      | began =>
          cases h' with
          | began => rfl
  | attempted judgement =>
      cases h with
      | interrupted hattempt =>
          cases h' with
          | interrupted hattempt' =>
              rw [hattempt] at hattempt'
              cases hattempt'
              rfl
      | evaluated hattempt =>
          cases h' with
          | evaluated hattempt' =>
              rw [hattempt] at hattempt'
              cases hattempt'
              rfl
  | reasoned stop =>
      cases h with
      | reasoned hreason =>
          cases h' with
          | reasoned hreason' =>
              rw [hreason] at hreason'
              cases hreason'
              rfl
  | elapsed d =>
      cases h with
      | @elapsed now _ _ hnow =>
          generalize hd : now.sub started = d at h'
          cases h' with
          | elapsed hnow' => exact congrArg Prod.snd (hnow.symm.trans hnow')
  | paused d =>
      cases h with
      | paused hsleep =>
          cases h' with
          | paused hsleep' =>
              rw [hsleep] at hsleep'
              cases hsleep'
              rfl

/-- What has happened leads to one world only. -/
theorem Course.unique {journal : List Event} (h : Course around started s journal t)
    (h' : Course around started s journal u) : t = u := by
  induction h generalizing u with
  | nil => exact (course_nil.1 h').symm
  | cons _ hevent ih =>
      obtain ⟨v, hjournal, hevent'⟩ := course_cons.1 h'
      have hsame := ih hjournal
      subst hsame
      exact hevent.unique hevent'

/-- The judgement that a journal tells is the one that the attempt came to. -/
theorem Course.attempt_eq {journal earlier : List Event} {judgement : Judgement} {v w : σ}
    (h : Course around started s journal w)
    (hsuffix : .attempted judgement :: .began :: earlier <:+ journal)
    (hcourse : Course around started s earlier v) :
    ∃ t, around.attempt v = .ok (.ok judgement) t := by
  obtain ⟨_, hjudged⟩ := h.of_suffix hsuffix
  obtain ⟨u, hbegun, hevent⟩ := course_cons.1 hjudged
  obtain ⟨v', hcourse', hstill⟩ := course_cons.1 hbegun
  have hsame : v' = v := hcourse'.unique hcourse
  subst hsame
  cases hstill with
  | began =>
      cases hevent with
      | interrupted hattempt => exact ⟨_, hattempt⟩
      | evaluated hattempt => exact ⟨_, hattempt⟩

end

/-! ## The run of an assertion -/

/-- What has happened in the run of an assertion leads to a world. -/
abbrev Poller.Reaches {σ : Type} [ReasonLog σ] [HasCheckers σ] [HasContexts σ] [HasDesk σ]
    (poller : Poller σ) (assertion : Assertion σ) (s : σ) (journal : List Event) (v : σ) : Prop :=
  Course (poller.scene assertion s) (poller.outset assertion s).started
    (poller.outset assertion s).world journal v

namespace Poller

variable {σ : Type} [ReasonLog σ] [HasCheckers σ] [HasContexts σ] [HasDesk σ] {poller : Poller σ}
  {assertion : Assertion σ} {limit : Nat} {s : σ} {ending? : Option Ending} {run : Run σ}

/-- The journal of a run is what happened, whether the run has ended or not. -/
theorem run_course (h : poller.run assertion limit s = (ending?, run)) :
    ∃ w, poller.Reaches assertion s run.journal w := by
  cases ending? with
  | none =>
      obtain ⟨w, _, hrun, _⟩ := run_stands h
      exact ⟨w, hrun⟩
  | some ending =>
      obtain ⟨w, _, _, hrun, _, _⟩ := run_over h
      exact ⟨w, hrun⟩

/-- Every attempt of a run was begun while nothing was decided. -/
theorem run_opening_of_began (h : poller.run assertion limit s = (ending?, run))
    {earlier : List Event} (hbegan : .began :: earlier <:+ run.journal) :
    ∃ opening, earlier = .looked false :: opening ∧
      Pending (assertion.plan poller.defaults) [] .opening opening := by
  cases ending? with
  | none =>
      obtain ⟨_, hpending, _⟩ := run_stands h
      exact hpending.opening_of_began hbegan
  | some ending =>
      obtain ⟨_, _, hconcluded, _⟩ := run_over h
      exact hconcluded.opening_of_began hbegan

/-- Every pause of a run was taken while nothing was decided. -/
theorem run_judged_of_paused (h : poller.run assertion limit s = (ending?, run)) {d : Span}
    {earlier : List Event} (hpaused : .paused d :: earlier <:+ run.journal) :
    ∃ passed judged, d = min (assertion.plan poller.defaults).interval
        ((assertion.plan poller.defaults).timeout - passed) ∧
      passed < (assertion.plan poller.defaults).timeout ∧
      earlier = .elapsed passed :: .looked false :: judged ∧
      Pending (assertion.plan poller.defaults) [] .judged judged := by
  cases ending? with
  | none =>
      obtain ⟨_, hpending, _⟩ := run_stands h
      exact hpending.judged_of_paused hpaused
  | some ending =>
      obtain ⟨_, _, hconcluded, _⟩ := run_over h
      exact hconcluded.judged_of_paused hpaused

section

variable {earlier : List Event} {judgement : Judgement} {v t : σ}

/-- What becomes of an attempt that a run begins: its judgement is entered in the journal,
or it ends the run without one. -/
theorem run_attempt_cases (h : poller.run assertion limit s = (ending?, run))
    (hbegan : .began :: earlier <:+ run.journal) (hcourse : poller.Reaches assertion s earlier v) :
    (∃ judgement t, assertion.attempt v = .ok (.ok judgement) t ∧
        .attempted judgement :: .began :: earlier <:+ run.journal) ∨
      (∃ e t, assertion.attempt v = .ok (.error e) t ∧ ending? = some (.refused e) ∧
        run.world = Progress.detach (assertion.slip? s) t) ∨
      ∃ payload t, assertion.attempt v = .error payload t ∧ ending? = some (.escaped payload) ∧
        run.world = Progress.detach (assertion.slip? s) t := by
  have hjudged : ∀ {judgement : Judgement},
      .attempted judgement :: .began :: earlier <:+ run.journal →
      ∃ judgement t, assertion.attempt v = .ok (.ok judgement) t ∧
        .attempted judgement :: .began :: earlier <:+ run.journal := by
    intro judgement hsuffix
    obtain ⟨w, hrun⟩ := run_course h
    obtain ⟨t, hattempt⟩ := hrun.attempt_eq hsuffix hcourse
    exact ⟨judgement, t, hattempt, hsuffix⟩
  cases ending? with
  | none =>
      obtain ⟨_, hpending, _⟩ := run_stands h
      obtain ⟨e, _, hsuffix⟩ := hpending.attempt_of_began hbegan
      exact .inl (hjudged hsuffix)
  | some ending =>
      obtain ⟨w, u, hconcluded, hrun, hleaves, hworld⟩ := run_over h
      rcases hconcluded.attempt_of_began hbegan with ⟨_, _, hsuffix⟩ | ⟨_, _, hsuffix, _⟩ |
        ⟨hjournal, hstopped⟩
      · exact .inl (hjudged hsuffix)
      · exact .inl (hjudged hsuffix)
      · right
        rw [hjournal] at hrun hleaves
        obtain ⟨v', hcourse', hstill⟩ := course_cons.1 hrun
        have hsame : v' = v := hcourse'.unique hcourse
        subst hsame
        cases hstill with
        | began =>
            cases hleaves with
            | passed => simp at hstopped
            | failed => simp at hstopped
            | refused hrefused _ => exact .inl ⟨_, _, hrefused, rfl, hworld⟩
            | escaped hescaped _ => exact .inr ⟨_, _, hescaped, rfl, hworld⟩
            | disturbed _ hpaused => cases hpaused

/-- An attempt that comes to a judgement is entered in the journal with it. -/
theorem run_attempted (h : poller.run assertion limit s = (ending?, run))
    (hbegan : .began :: earlier <:+ run.journal)
    (hcourse : poller.Reaches assertion s earlier v)
    (hattempt : assertion.attempt v = .ok (.ok judgement) t) :
    .attempted judgement :: .began :: earlier <:+ run.journal := by
  rcases run_attempt_cases h hbegan hcourse with ⟨other, u, hother, hsuffix⟩ | ⟨e, u, hrefused, _⟩ |
    ⟨payload, u, hescaped, _⟩
  · cases hattempt.symm.trans hother
    exact hsuffix
  · cases hattempt.symm.trans hrefused
  · cases hattempt.symm.trans hescaped

/-- What unwinds an attempt unwinds the run. -/
theorem run_escaped {payload : Payload} (h : poller.run assertion limit s = (ending?, run))
    (hbegan : .began :: earlier <:+ run.journal) (hcourse : poller.Reaches assertion s earlier v)
    (hattempt : assertion.attempt v = .error payload t) :
    ending? = some (.escaped payload) ∧ run.world = Progress.detach (assertion.slip? s) t := by
  rcases run_attempt_cases h hbegan hcourse with ⟨judgement, u, hjudged, _⟩ | ⟨e, u, hrefused, _⟩ |
    ⟨other, u, hescaped, hends⟩
  · cases hattempt.symm.trans hjudged
  · cases hattempt.symm.trans hrefused
  · cases hattempt.symm.trans hescaped
    exact hends

/-- A parameter that cannot be filled any more refuses the run. -/
theorem run_refused {e : ConfigError} (h : poller.run assertion limit s = (ending?, run))
    (hbegan : .began :: earlier <:+ run.journal) (hcourse : poller.Reaches assertion s earlier v)
    (hattempt : assertion.attempt v = .ok (.error e) t) :
    ending? = some (.refused e) ∧ run.world = Progress.detach (assertion.slip? s) t := by
  rcases run_attempt_cases h hbegan hcourse with ⟨judgement, u, hjudged, _⟩ |
    ⟨other, u, hrefused, hends⟩ | ⟨payload, u, hescaped, _⟩
  · cases hattempt.symm.trans hjudged
  · cases hattempt.symm.trans hrefused
    exact hends
  · cases hattempt.symm.trans hescaped

/-- A run judges an attempt as the attempt is judged. -/
theorem run_judgement_eq (h : poller.run assertion limit s = (ending?, run))
    (hcourse : poller.Reaches assertion s earlier v)
    (hattempt : assertion.attempt v = .ok (.ok judgement) t) {other : Judgement}
    (hsuffix : .attempted other :: .began :: earlier <:+ run.journal) : other = judgement := by
  obtain ⟨w, hrun⟩ := run_course h
  obtain ⟨u, hsame⟩ := hrun.attempt_eq hsuffix hcourse
  have heq : assertion.attempt v = .ok (.ok other) u := hsame
  cases hattempt.symm.trans heq
  rfl

/-- An attempt that does not leave the run open is its last one and decides it. -/
theorem run_decided (h : poller.run assertion limit s = (ending?, run))
    (hbegan : .began :: earlier <:+ run.journal)
    (hcourse : poller.Reaches assertion s earlier v)
    (hattempt : assertion.attempt v = .ok (.ok judgement) t)
    (hdecisive : ¬ judgement.LeavesOpen assertion.kind) :
    ∃ ending, ending? = some ending ∧
      judgement.Decides assertion.kind (Journal.attempts earlier) ending ∧
      Journal.attempts run.journal = some judgement :: Journal.attempts earlier := by
  have hopen : ∀ {e : Evaluation}, e.LeavesOpen assertion.kind →
      ¬ .attempted (.evaluated e) :: .began :: earlier <:+ run.journal := by
    intro e hopen hsuffix
    exact hdecisive ⟨e, (run_judgement_eq h hcourse hattempt hsuffix).symm, hopen⟩
  cases ending? with
  | none =>
      obtain ⟨_, hpending, _⟩ := run_stands h
      obtain ⟨e, hleft, hsuffix⟩ := hpending.attempt_of_began hbegan
      exact absurd hsuffix (hopen hleft)
  | some ending =>
      obtain ⟨_, _, hconcluded, _⟩ := run_over h
      rcases hconcluded.attempt_of_began hbegan with ⟨e, hleft, hsuffix⟩ |
        ⟨other, hdecides, hsuffix, hattempts⟩ | ⟨hjournal, _⟩
      · exact absurd hsuffix (hopen hleft)
      · have hsame : other = judgement := run_judgement_eq h hcourse hattempt hsuffix
        subst hsame
        exact ⟨ending, rfl, hdecides, hattempts⟩
      · have hattempted := run_attempted h hbegan hcourse hattempt
        rw [hjournal] at hattempted
        exact absurd hattempted.length_le (Nat.not_succ_le_self _)

end

end Poller

end PollingAssertions
