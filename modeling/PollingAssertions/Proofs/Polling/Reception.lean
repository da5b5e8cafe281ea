import PollingAssertions.Proofs.Polling.Decision
import PollingAssertions.Proofs.Polling.Hinting
import PollingAssertions.Session.World

/-!
# Waiting for a message

An *eventually* run on an observed receiver waits for a message. While it waits others
hold the sender: they may send and drop it whenever the run asks its surroundings for
anything, and before each single question that the matcher is asked. Nothing is assumed
of them but that they use the sender only (`Poller.Feeds`), so every interleaving of
their deeds with the attempts is covered.

An attempt takes a message exactly if one is queued when the matcher looks. If none is
and none can come, the matcher says so and the run gives up; but it could not have
passed any more.

## Main definitions

* `Judge.amid` — a judge that others act around.
* `Reception` — a receiver that is waited at; `Reception.assertion` waits for a message,
  `Reception.patient` does so without ever giving up early.
* `Poller.Feeds` — others do nothing with the channel but use its sender.
* `Journal.matches` — how many attempts have matched.

## Main results

* `Reception.attempt_cases` — what an attempt comes to.
* `Poller.flow_of_reaches` — the account of the channel in a run.
* `Poller.run_receives` — how the run ends.
-/

namespace PollingAssertions

variable {σ : Type}

/-- The same judge, in the middle of others who act before each question. -/
def Judge.amid {α : Type} (others : σ → σ) (judge : Judge σ α) : Judge σ α where
  verdict subject s := judge.verdict subject (others s)
  failureText subject s := judge.failureText subject (others s)
  negatedText subject s := judge.negatedText subject (others s)
  hint subject s := judge.hint subject (others s)

/-- How many attempts have matched. -/
def Journal.matches : List Event → Nat
  | .attempted (.evaluated e) :: earlier => e.passed.toNat + Journal.matches earlier
  | _ :: earlier => Journal.matches earlier
  | [] => 0

/-- A receiver that is waited at: the number of its channel and of the matcher, the type of
its messages, what others do in between, and how it is polled. -/
structure Reception (σ : Type) where
  number : Nat
  observer : Nat
  message : Ty
  others : σ → σ
  settings : Settings
  description? : Option (Description σ)

section

variable [ReasonLog σ] [HasChannels σ]

namespace Reception

/-- The receiver. -/
def subject (r : Reception σ) : Datum := ⟨.receiver r.message, .receiver r.number⟩

/-- The receiver is polled until a judge is satisfied with it. -/
def polledBy (r : Reception σ) (judge : Judge σ Datum) : Assertion σ where
  kind := .eventually
  probe := .observed r.subject
  settings := r.settings
  matcher := (judge.amid r.others).toMatcher
  positive := true
  description? := r.description?

/-- A message should eventually be received. -/
def assertion (r : Reception σ) : Assertion σ := r.polledBy (.receives r.observer)

/-- The same, with a matcher that gives no hints. -/
def patient (r : Reception σ) : Assertion σ := r.polledBy (Judge.receives r.observer).unhinted

end Reception

open HasChannels

/-- Whoever else acts in a run, be it others, the clock, the contexts, the attachers or
the log, does nothing with the channel but use its sender. What is written to the
channels does not change what has been sent. -/
structure Poller.Feeds [HasContexts σ] [HasDesk σ] (poller : Poller σ) (r : Reception σ)
    (sent : σ → List Value) : Prop where
  sent_set : ∀ channels v, sent (HasChannels.part.set channels v) = sent v
  others : ∀ v, Fed sent r.number r.observer v (r.others v)
  now : ∀ v, Fed sent r.number r.observer v (poller.clock.now v).2
  cancelled : ∀ v, Fed sent r.number r.observer v (Contexts.isDoneIn r.settings.context? v).2
  sleep : ∀ d v w, poller.clock.sleep d r.settings.context? v = .ok () w →
    Fed sent r.number r.observer v w
  attach : ∀ v, Fed sent r.number r.observer v (Progress.attach? r.settings.context? v).2
  publish : ∀ attachment? reason v,
    Fed sent r.number r.observer v (Progress.publish attachment? reason v)
  workedOut : ∀ reason v, Fed sent r.number r.observer v (ReasonLog.workedOut reason v)

variable {sent : σ → List Value} {r : Reception σ} {v : σ}

/-- A judge that looks for a message does not match at a dead channel. -/
theorem Channel.Dead.unmatched {channel : Channel} {passed : Bool} (h : channel.Dead)
    (hmatches : passed = true ↔ channel.queue ≠ []) : passed = false :=
  Bool.of_not_eq_true fun hpassed => hmatches.1 hpassed h.1

namespace Reception

/-- What the matcher says in the middle of others. It matches exactly if a message is queued
when it looks. -/
theorem assess_amid (hsent : ∀ channels s, sent (HasChannels.part.set channels s) = sent s)
    (hothers : ∀ s, Fed sent r.number r.observer s (r.others s)) (v : σ) :
    ∃ passed text taken t,
      ((Judge.receives r.observer).amid r.others).assess true r.subject v = .ok (passed, text) t ∧
      Flow sent r.number r.observer taken (r.others v) t ∧ taken.length = passed.toNat ∧
      (passed = true ↔ (channelIn r.number (r.others v)).queue ≠ []) ∧
      (sawClosedIn r.observer t = true ↔
        sawClosedIn r.observer v = true ∨ (channelIn r.number (r.others v)).Dead) := by
  obtain ⟨verdict, taken, u, hverdict, hflow, hlength, hmatches, hsaw⟩ :=
    Judge.receives_verdict (.receiver r.message) r.number r.observer hsent (r.others v)
  obtain ⟨text, htext⟩ := Judge.receivesText_returns r.observer r.subject (r.others u)
  have hasked : ((Judge.receives r.observer).amid r.others).verdict r.subject v =
      .ok (.ok verdict) u := hverdict
  have hsaid : ((Judge.receives r.observer).amid r.others).textFor true r.subject u =
      .ok text (r.others u) := htext
  refine ⟨verdict, text, taken, r.others u, ?_, ?_, hlength, hmatches, ?_⟩
  · unfold Judge.assess
    rw [Action.bind_ok hasked]
    refine (Action.bind_ok hsaid).trans ?_
    rw [beq_true]
    rfl
  · have hall := hflow.trans (hothers u).flow
    rw [List.append_nil] at hall
    exact hall
  · rw [(hothers u).sawClosed_eq, hsaw, (hothers v).sawClosed_eq]

variable [HasCheckers σ]

omit [HasChannels σ] in
/-- An attempt at a receiver comes to what the judge says of it. -/
theorem attempt_of_assess {judge : Judge σ Datum} {passed : Bool} {text : String} {e : Evaluation}
    {t u : σ} (hsaid : (judge.amid r.others).assess true r.subject v = .ok (passed, text) t)
    (hexplained : (judge.amid r.others).explain true none r.subject (passed, text) t = .ok e u) :
    (r.polledBy judge).attempt v = .ok (.ok (.evaluated e)) u := by
  have hevaluated : (judge.amid r.others).evaluate true true none r.subject v = .ok e u := by
    rw [Judge.evaluate_eq]
    exact (Action.bind_ok hsaid).trans hexplained
  exact (Assertion.attempt_observed rfl v).trans (Action.bind_ok hevaluated)

/-- What an attempt comes to. It takes a message if one is queued when the matcher looks, and
matches exactly then; it is given a hint exactly if the matcher has once found the channel
dead. A matcher without hints finds the same. -/
theorem attempt_finds (hsent : ∀ channels s, sent (HasChannels.part.set channels s) = sent s)
    (hothers : ∀ s, Fed sent r.number r.observer s (r.others s)) (v : σ) :
    ∃ e taken t, r.assertion.attempt v = .ok (.ok (.evaluated e)) t ∧
      r.patient.attempt v = .ok (.ok (.evaluated { e with hint? := none })) t ∧
      e.stop? = none ∧ Flow sent r.number r.observer taken (r.others v) t ∧
      taken.length = e.passed.toNat ∧
      (e.passed = true ↔ (channelIn r.number (r.others v)).queue ≠ []) ∧
      (e.hint?.isSome = true ↔ e.passed = false ∧
        (sawClosedIn r.observer v = true ∨ (channelIn r.number (r.others v)).Dead)) := by
  obtain ⟨passed, text, taken, t, hsaid, hflow, hlength, hmatches, hsaw⟩ :=
    assess_amid (r := r) hsent hothers v
  cases passed with
  | true =>
      -- nobody asks for a hint
      refine ⟨⟨true, text, none, none⟩, taken, t, attempt_of_assess hsaid rfl,
        attempt_of_assess hsaid rfl, rfl, hflow, hlength, hmatches, by simp⟩
  | false =>
      obtain ⟨hint?, hgives, hsome⟩ := Judge.receives_hint (.receiver r.message) r.number
        r.observer (r.others t)
      have hexplained : ((Judge.receives r.observer).amid r.others).explain true none r.subject
          (false, text) t = .ok ⟨false, text, none, hint?⟩ (r.others t) := Action.bind_ok hgives
      have hall := hflow.trans (hothers t).flow
      rw [List.append_nil] at hall
      rw [(hothers t).sawClosed_eq, hsaw] at hsome
      exact ⟨⟨false, text, none, hint?⟩, taken, r.others t, attempt_of_assess hsaid hexplained,
        attempt_of_assess hsaid rfl, rfl, hall, hlength, hmatches, by simp [hsome]⟩

/-- The matcher is right in what it remembers. -/
def Sound (r : Reception σ) (v : σ) : Prop :=
  sawClosedIn r.observer v = true → (channelIn r.number v).Dead

omit [ReasonLog σ] [HasCheckers σ] in
/-- A matcher that remembered nothing at the start is right at every later time. -/
theorem sound_of_flow {s w : σ} {taken : List Value} (hfresh : sawClosedIn r.observer s = false)
    (h : Flow sent r.number r.observer taken s w) : r.Sound w := by
  refine h.sound fun hsaw => ?_
  rw [hfresh] at hsaw
  cases hsaw

/-- The same, if the matcher is right in what it remembers. -/
theorem attempt_cases (hsent : ∀ channels s, sent (HasChannels.part.set channels s) = sent s)
    (hothers : ∀ s, Fed sent r.number r.observer s (r.others s)) (hsound : r.Sound v) :
    ∃ e taken t, r.assertion.attempt v = .ok (.ok (.evaluated e)) t ∧
      r.patient.attempt v = .ok (.ok (.evaluated { e with hint? := none })) t ∧
      e.stop? = none ∧ Flow sent r.number r.observer taken (r.others v) t ∧
      taken.length = e.passed.toNat ∧
      (e.passed = true ↔ (channelIn r.number (r.others v)).queue ≠ []) ∧
      (e.hint?.isSome = true ↔ (channelIn r.number (r.others v)).Dead) := by
  obtain ⟨e, taken, t, hattempt, hpatient, hstop, hflow, hlength, hmatches, hhint⟩ :=
    attempt_finds (r := r) hsent hothers v
  refine ⟨e, taken, t, hattempt, hpatient, hstop, hflow, hlength, hmatches, ?_⟩
  rw [hhint]
  constructor
  · rintro ⟨-, hsaw | hdead⟩
    · exact (hothers v).flow.dead (hsound hsaw)
    · exact hdead
  · exact fun hdead => ⟨hdead.unmatched hmatches, .inr hdead⟩

/-- A matcher without hints does the same, unless it finds the channel dead. -/
theorem attempt_patient (hsent : ∀ channels s, sent (HasChannels.part.set channels s) = sent s)
    (hothers : ∀ s, Fed sent r.number r.observer s (r.others s)) (hsound : r.Sound v) :
    r.patient.attempt v = r.assertion.attempt v ∨
      ∃ e hint taken t, r.assertion.attempt v = .ok (.ok (.evaluated e)) t ∧
        r.patient.attempt v = .ok (.ok (.evaluated { e with hint? := none })) t ∧
        e.passed = false ∧ e.stop? = none ∧ e.hint? = some hint ∧
        Flow sent r.number r.observer taken (r.others v) t ∧
        (channelIn r.number (r.others v)).Dead := by
  obtain ⟨e, taken, t, hattempt, hpatient, hstop, hflow, _, hmatches, hhint⟩ :=
    attempt_cases (r := r) hsent hothers hsound
  cases hsome : e.hint? with
  | none =>
      left
      rw [hattempt, hpatient, ← hsome]
  | some hint =>
      have hdead : (channelIn r.number (r.others v)).Dead := hhint.1 (by rw [hsome]; rfl)
      exact .inr ⟨e, hint, taken, t, hattempt, hpatient, hdead.unmatched hmatches, hstop, hsome,
        hflow, hdead⟩

end Reception

/-! ## Runs -/

namespace Poller

variable [HasCheckers σ] [HasContexts σ] [HasDesk σ] {poller : Poller σ} {s : σ} {limit : Nat}
  {ending? : Option Ending} {run : Run σ}

/-- What the account of the channel preserves is kept in a run. -/
theorem keeps_of_flow (hfeeds : poller.Feeds r sent) {judge : Judge σ Datum} {always : σ → Prop}
    (hattempt : ∀ v answer t, (r.polledBy judge).attempt v = .ok answer t →
      ∃ taken, Flow sent r.number r.observer taken v t)
    (hflow : ∀ taken v w, Flow sent r.number r.observer taken v w → always v → always w) :
    Keeps (poller.scene (r.polledBy judge) s) always where
  now v hv := hflow _ _ _ (hfeeds.now v).flow hv
  cancelled v hv := hflow _ _ _ (hfeeds.cancelled v).flow hv
  sleep d v t hv hsleep := hflow _ _ _ (hfeeds.sleep d v t hsleep).flow hv
  attempt v answer t hv hreturn := by
    obtain ⟨taken, hstep⟩ := hattempt v answer t hreturn
    exact hflow _ _ _ hstep hv
  publish reason v hv := hflow _ _ _ (hfeeds.publish _ reason v).flow hv

theorem flow_of_attempt (hfeeds : poller.Feeds r sent) {v t : σ}
    {answer : Except ConfigError Judgement} (h : r.assertion.attempt v = .ok answer t) :
    ∃ e taken, answer = .ok (.evaluated e) ∧ Flow sent r.number r.observer taken v t ∧
      taken.length = e.passed.toNat := by
  obtain ⟨e, taken, u, hattempt, _, _, hflow, hlength, _⟩ :=
    Reception.attempt_finds (r := r) hfeeds.sent_set hfeeds.others v
  cases h.symm.trans hattempt
  exact ⟨e, taken, rfl, (hfeeds.others v).flow.trans hflow, hlength⟩

theorem flow_of_patient_attempt (hfeeds : poller.Feeds r sent) {v t : σ}
    {answer : Except ConfigError Judgement} (h : r.patient.attempt v = .ok answer t) :
    ∃ taken, Flow sent r.number r.observer taken v t := by
  obtain ⟨e, taken, u, _, hattempt, _, hflow, _⟩ :=
    Reception.attempt_finds (r := r) hfeeds.sent_set hfeeds.others v
  cases h.symm.trans hattempt
  exact ⟨taken, (hfeeds.others v).flow.trans hflow⟩

omit [HasCheckers σ] in
theorem flow_outset (hfeeds : poller.Feeds r sent) (s : σ) :
    Flow sent r.number r.observer [] s (poller.outset r.assertion s).world :=
  (hfeeds.attach s).flow.trans (hfeeds.now _).flow

/-- One event adds to the account what an attempt takes. -/
theorem flow_of_occurs (hfeeds : poller.Feeds r sent) {started : Span} {event : Event}
    (journal : List Event) {v w : σ}
    (h : Occurs (poller.scene r.assertion s) started event v w) :
    ∃ taken, Flow sent r.number r.observer taken v w ∧
      taken.length + Journal.matches journal = Journal.matches (event :: journal) := by
  cases h with
  | @looked done v w hcancelled =>
      have hfed := hfeeds.cancelled v
      have hworld : (Contexts.isDoneIn r.settings.context? v).2 = w := congrArg Prod.snd hcancelled
      rw [hworld] at hfed
      exact ⟨[], hfed.flow, Nat.zero_add _⟩
  | began => exact ⟨[], .refl _, Nat.zero_add _⟩
  | interrupted hattempt =>
      obtain ⟨_, _, heq, _⟩ := flow_of_attempt hfeeds hattempt
      cases heq
  | evaluated hattempt =>
      obtain ⟨_, taken, heq, hflow, hlength⟩ := flow_of_attempt hfeeds hattempt
      cases heq
      refine ⟨taken ++ [], hflow.trans (hfeeds.publish _ _ _).flow, ?_⟩
      rw [List.append_nil, hlength]
      rfl
  | @reasoned stop v w hreason =>
      have hasked : ∀ (reasons : List String) (v : σ), Flow sent r.number r.observer [] v
          (reasons.foldl (fun s reason => ReasonLog.workedOut reason s) v) := by
        intro reasons
        induction reasons with
        | nil => exact fun v => .refl v
        | cons reason reasons ih =>
            exact fun v => (hfeeds.workedOut reason v).flow.trans (ih _)
      cases hreason
      exact ⟨[], hasked stop.asked v, Nat.zero_add _⟩
  | @elapsed now v w hnow =>
      have hfed := hfeeds.now v
      have hworld : (poller.clock.now v).2 = w := congrArg Prod.snd hnow
      rw [hworld] at hfed
      exact ⟨[], hfed.flow, Nat.zero_add _⟩
  | paused hsleep => exact ⟨[], (hfeeds.sleep _ _ _ hsleep).flow, Nat.zero_add _⟩

/-- At every point of a run the account of the channel can be drawn up, and as many messages
have been taken as attempts have matched. -/
theorem flow_of_reaches (hfeeds : poller.Feeds r sent) {journal : List Event} {w : σ}
    (h : poller.Reaches r.assertion s journal w) :
    ∃ taken, Flow sent r.number r.observer taken s w ∧ taken.length = Journal.matches journal := by
  induction h with
  | nil => exact ⟨[], flow_outset hfeeds s, rfl⟩
  | @cons event journal t u _ hevent ih =>
      obtain ⟨taken, hflow, hlength⟩ := ih
      obtain ⟨more, hstep, hmatches⟩ := flow_of_occurs hfeeds journal hevent
      refine ⟨taken ++ more, hflow.trans hstep, ?_⟩
      rw [List.length_append, hlength, Nat.add_comm]
      exact hmatches

/-- The matcher is right in what it remembers, wherever a run has come to. -/
theorem sound_of_reaches (hfeeds : poller.Feeds r sent)
    (hfresh : sawClosedIn r.observer s = false) {journal : List Event} {w : σ}
    (h : poller.Reaches r.assertion s journal w) : r.Sound w := by
  obtain ⟨taken, hflow, _⟩ := flow_of_reaches hfeeds h
  exact Reception.sound_of_flow hfresh hflow

theorem keeps_sound (hfeeds : poller.Feeds r sent) :
    Keeps (poller.scene r.assertion s) r.Sound := by
  refine keeps_of_flow hfeeds (fun _ _ _ hattempt => ?_) fun _ _ _ hflow => hflow.sound
  obtain ⟨_, taken, _, hflow, _⟩ := flow_of_attempt hfeeds hattempt
  exact ⟨taken, hflow⟩

/-- An attempt decides a run if the matcher finds a message, and if it finds the channel dead;
it leaves the run open if it finds the channel empty but not closed. -/
theorem run_reception (hfeeds : poller.Feeds r sent) (hfresh : sawClosedIn r.observer s = false)
    (h : poller.run r.assertion limit s = (ending?, run)) {earlier : List Event} {v : σ}
    (hbegan : .began :: earlier <:+ run.journal) (hcourse : poller.Reaches r.assertion s earlier v) :
    ((channelIn r.number (r.others v)).queue ≠ [] → ending? = some .passed ∧
        ∃ a, Journal.attempts run.journal = a :: Journal.attempts earlier) ∧
      ((channelIn r.number (r.others v)).Dead →
        (∃ hint d, ending? = some (.failed .noFutureChange hint d)) ∧
        ∃ a, Journal.attempts run.journal = a :: Journal.attempts earlier) ∧
      ((channelIn r.number (r.others v)).queue = [] →
        (channelIn r.number (r.others v)).isOpen = true →
        ∃ e : Evaluation, e.LeavesOpen .eventually ∧
          .attempted (.evaluated e) :: .began :: earlier <:+ run.journal) := by
  obtain ⟨e, taken, t, hattempt, _, hstop, _, _, hmatches, hhint⟩ :=
    Reception.attempt_cases (r := r) hfeeds.sent_set hfeeds.others
      (sound_of_reaches hfeeds hfresh hcourse)
  refine ⟨fun hqueued => ?_, fun hdead => ?_, fun hempty hopen => ?_⟩
  · have hpassed : e.passed = true := hmatches.2 hqueued
    have hdecisive : ¬ (Judgement.evaluated e).LeavesOpen .eventually := by
      rintro ⟨_, heq, hleft⟩
      cases heq
      cases hleft.1.symm.trans hpassed
    obtain ⟨ending, rfl, hdecides, hattempts⟩ := run_decided h hbegan hcourse hattempt hdecisive
    refine ⟨?_, _, hattempts⟩
    cases hdecides with
    | passed _ _ => rfl
    | stopped hnot _ => cases hnot.symm.trans hpassed
    | hinted _ hnot _ _ => cases hnot.symm.trans hpassed
    | failed hkind _ _ => cases hkind
  · obtain ⟨hint, hsome⟩ := Option.isSome_iff_exists.1 (hhint.2 hdead)
    have hnot : e.passed = false := hdead.unmatched hmatches
    have hdecisive : ¬ (Judgement.evaluated e).LeavesOpen .eventually := by
      rintro ⟨_, heq, hleft⟩
      cases heq
      cases hleft.2.2.symm.trans hsome
    obtain ⟨ending, rfl, hdecides, hattempts⟩ := run_decided h hbegan hcourse hattempt hdecisive
    refine ⟨?_, _, hattempts⟩
    cases hdecides with
    | passed hpassed _ => cases hnot.symm.trans hpassed
    | stopped _ hsignal => cases hstop.symm.trans hsignal
    | hinted _ _ _ _ => exact ⟨_, _, rfl⟩
    | failed hkind _ _ => cases hkind
  · have hnot : e.passed = false := by
      by_cases hpassed : e.passed = true
      · exact absurd hempty (hmatches.1 hpassed)
      · exact Bool.of_not_eq_true hpassed
    have hnone : e.hint? = none := by
      by_cases hsome : e.hint?.isSome = true
      · cases hopen.symm.trans (hhint.1 hsome).2
      · exact Option.not_isSome_iff_eq_none.1 hsome
    exact ⟨e, ⟨hnot, hstop, hnone⟩, run_attempted h hbegan hcourse hattempt⟩

/-- A run ends with a message or with a hint only if its last attempt found a message, or found
the channel dead. -/
theorem run_reception_of_ended (hfeeds : poller.Feeds r sent)
    (hfresh : sawClosedIn r.observer s = false)
    (h : poller.run r.assertion limit s = (ending?, run)) :
    (ending? = some .passed → ∃ earlier v, .began :: earlier <:+ run.journal ∧
        poller.Reaches r.assertion s earlier v ∧ (channelIn r.number (r.others v)).queue ≠ []) ∧
      ∀ hint d, ending? = some (.failed .noFutureChange hint d) → ∃ earlier v,
        .began :: earlier <:+ run.journal ∧ poller.Reaches r.assertion s earlier v ∧
        (channelIn r.number (r.others v)).Dead := by
  -- what the last attempt of a run that has ended found
  have hfound : ∀ {e : Evaluation} {earlier : List Event},
      .attempted (.evaluated e) :: .began :: earlier <:+ run.journal →
      ∃ v, poller.Reaches r.assertion s earlier v ∧
        (e.passed = true → (channelIn r.number (r.others v)).queue ≠ []) ∧
        (e.hint?.isSome = true → (channelIn r.number (r.others v)).Dead) := by
    intro e earlier hsuffix
    obtain ⟨w, hrun⟩ := run_course h
    obtain ⟨v, hcourse⟩ := hrun.of_suffix
      (((List.suffix_cons _ _).trans (List.suffix_cons _ _)).trans hsuffix)
    obtain ⟨other, _, _, hattempt, _, _, _, _, hmatches, hhint⟩ :=
      Reception.attempt_cases (r := r) hfeeds.sent_set hfeeds.others
        (sound_of_reaches hfeeds hfresh hcourse)
    cases run_judgement_eq h hcourse hattempt hsuffix
    exact ⟨v, hcourse, hmatches.1, hhint.1⟩
  refine ⟨fun hpassed => ?_, fun hint d hhinted => ?_⟩
  · subst hpassed
    obtain ⟨_, _, hconcluded, _⟩ := run_over h
    generalize hjournal : run.journal = journal at hconcluded hfound
    cases hconcluded with
    | confirmed _ hkind _ => cases hkind
    | lasted _ _ hkind _ => cases hkind
    | passed _ hpassed _ =>
        obtain ⟨v, hcourse, hqueued, _⟩ := hfound List.suffix_rfl
        exact ⟨_, v, List.suffix_cons _ _, hcourse, hqueued hpassed⟩
  · subst hhinted
    obtain ⟨_, _, hconcluded, _⟩ := run_over h
    generalize hjournal : run.journal = journal at hconcluded hfound
    cases hconcluded with
    | hinted _ _ _ _ hsome =>
        obtain ⟨v, hcourse, _, hdead⟩ := hfound (List.suffix_cons _ _)
        refine ⟨_, v, ?_, hcourse, hdead (by rw [hsome]; rfl)⟩
        exact (List.suffix_cons _ _).trans (List.suffix_cons _ _)

/-- A matcher without hints does not match any more where one with hints would give one. The
run that goes on there never passes. -/
theorem run_patient_or (hfeeds : poller.Feeds r sent)
    (hfresh : sawClosedIn r.observer s = false) (limit : Nat) :
    poller.run r.patient limit s = poller.run r.assertion limit s ∨
      ∀ run, poller.run r.patient limit s ≠ (some .passed, run) := by
  let doomed : σ → Prop := fun v => r.Sound v ∧ (channelIn r.number v).Dead
  have hdoomed : Keeps (poller.scene r.patient s) doomed :=
    keeps_of_flow hfeeds (fun _ _ _ hattempt => flow_of_patient_attempt hfeeds hattempt)
      fun _ _ _ hflow hv => ⟨hflow.sound hv.1, hflow.dead hv.2⟩
  have hlasts : Polling.Lasts (.within doomed (· ≠ .passed)) (r.assertion.plan poller.defaults)
      (poller.scene r.patient s) := by
    refine Polling.lasts_within hdoomed (fun _ h => h) (.inl ⟨rfl, fun v e t hv hattempt => ?_⟩)
    obtain ⟨other, _, _, _, hpatient, _, _, _, hmatches, _⟩ :=
      Reception.attempt_cases (r := r) hfeeds.sent_set hfeeds.others hv.1
    cases hattempt.symm.trans hpatient
    refine Bool.of_not_eq_true fun hpassed => ?_
    exact hmatches.1 hpassed ((hfeeds.others v).flow.dead hv.2).1
  have hparts : ∀ run : Run σ, r.Sound run.world →
      r.assertion.attempt run.world = r.patient.attempt run.world ∨
      Fate.never.Met (Polling.attempt (r.assertion.plan poller.defaults)
        (poller.scene r.assertion s) run) ∨
      (Fate.within doomed (· ≠ .passed)).Met (Polling.attempt (r.assertion.plan poller.defaults)
        (poller.scene r.patient s) run) := by
    intro run hsound
    rcases Reception.attempt_patient (r := r) hfeeds.sent_set hfeeds.others hsound with
      hsame | ⟨e, hint, taken, t, _, hpatient, hnot, _, _, hflow, hdead⟩
    · exact .inl hsame.symm
    · right
      right
      have hpublished := hflow.trans (hfeeds.publish (r.patient.slip? s) e.reason t).flow
      have hkept : (Fate.within doomed (· ≠ .passed)).Kept
          (Polling.decide (r.assertion.plan poller.defaults) (poller.scene r.patient s)
            { e with hint? := none }) := Polling.decide_kept (fun _ h => h) (.inl ⟨rfl, hnot⟩)
      rw [Polling.attempt_evaluated hpatient]
      refine hkept _ ⟨?_, hpublished.dead hdead⟩
      exact hpublished.sound ((hfeeds.others run.world).flow.sound hsound)
  rcases rounds_together limit (keeps_sound hfeeds) hparts (Polling.lasts_ends _ _ _)
    hlasts (Reception.sound_of_flow hfresh (flow_outset hfeeds s)) with hsame | hmet | hmet
  · exact .inl hsame
  · exact (Fate.not_met_never hmet).elim
  · right
    intro run hpassed
    obtain ⟨final, hrounds, _⟩ := run_eq_some_iff.1 hpassed
    have hended : (Fate.within doomed (· ≠ .passed)).Met
        (Polling.rounds (r.patient.plan poller.defaults) (poller.scene r.patient s) limit
          (poller.outset r.patient s)) := hmet
    rw [hrounds] at hended
    exact hended rfl

/-- A run that has not given up early is the same without hints. -/
theorem run_patient_or_hinted (hfeeds : poller.Feeds r sent)
    (hfresh : sawClosedIn r.observer s = false) (limit : Nat) :
    poller.run r.patient limit s = poller.run r.assertion limit s ∨
      ∃ hint d run, poller.run r.assertion limit s = (some (.failed .noFutureChange hint d), run) := by
  refine run_eq_or_hinted (keeps_sound hfeeds) (fun v hsound => ?_)
    (Reception.sound_of_flow hfresh (flow_outset hfeeds s)) limit
  rcases Reception.attempt_patient (r := r) hfeeds.sent_set hfeeds.others hsound with
    hsame | ⟨e, hint, _, t, hattempt, _, hnot, hstop, hsome, _, _⟩
  · exact .inl hsame
  · exact .inr ⟨rfl, e, t, hint, hattempt, hnot, hstop, hsome⟩

/-- Giving up early never changes whether a run passes. -/
theorem run_patient_passed_iff (hfeeds : poller.Feeds r sent)
    (hfresh : sawClosedIn r.observer s = false) (limit : Nat) (run : Run σ) :
    poller.run r.assertion limit s = (some .passed, run) ↔
      poller.run r.patient limit s = (some .passed, run) := by
  constructor
  · intro hpassed
    rcases run_patient_or_hinted hfeeds hfresh limit with hsame | ⟨hint, d, final, hhinted⟩
    · exact hsame.trans hpassed
    · cases hpassed.symm.trans hhinted
  · intro hpassed
    rcases run_patient_or hfeeds hfresh limit with hsame | hnever
    · exact hsame.symm.trans hpassed
    · exact absurd hpassed (hnever run)

/-- A message is waited for while others send and drop the sender. An attempt that finds a
message queued makes the run pass, one that finds the channel dead makes it give up, and any
other one decides nothing; and these are the only ways in which a run passes or gives up. No
attempt takes more than one message. At every point the messages that were sent are those that
attempts have matched, followed by those that are queued. To give up never changes whether the
run passes: it passes exactly if, by the same deeds of others, it passes with a matcher that
gives no hints. And once the matcher would give a hint it never matches again, in whatever
order others act and it is asked. -/
theorem run_receives (hfeeds : poller.Feeds r sent) (hfresh : sawClosedIn r.observer s = false)
    (hstart : sent s = (channelIn r.number s).queue)
    (h : poller.run r.assertion limit s = (ending?, run)) :
    (∀ earlier v, .began :: earlier <:+ run.journal → poller.Reaches r.assertion s earlier v →
      ((channelIn r.number (r.others v)).queue ≠ [] → ending? = some .passed ∧
        ∃ a, Journal.attempts run.journal = a :: Journal.attempts earlier) ∧
      ((channelIn r.number (r.others v)).Dead →
        (∃ hint d, ending? = some (.failed .noFutureChange hint d)) ∧
        ∃ a, Journal.attempts run.journal = a :: Journal.attempts earlier) ∧
      ((channelIn r.number (r.others v)).queue = [] →
        (channelIn r.number (r.others v)).isOpen = true →
        ∃ e : Evaluation, e.LeavesOpen .eventually ∧
          .attempted (.evaluated e) :: .began :: earlier <:+ run.journal) ∧
      ∃ e t new taken, r.assertion.attempt v = .ok (.ok (.evaluated e)) t ∧
        sent t = sent v ++ new ∧
        (channelIn r.number v).queue ++ new = taken ++ (channelIn r.number t).queue ∧
        taken.length = e.passed.toNat) ∧
    (ending? = some .passed → ∃ earlier v, .began :: earlier <:+ run.journal ∧
      poller.Reaches r.assertion s earlier v ∧ (channelIn r.number (r.others v)).queue ≠ []) ∧
    (∀ hint d, ending? = some (.failed .noFutureChange hint d) → ∃ earlier v,
      .began :: earlier <:+ run.journal ∧ poller.Reaches r.assertion s earlier v ∧
      (channelIn r.number (r.others v)).Dead) ∧
    (∀ journal w, poller.Reaches r.assertion s journal w → ∃ taken,
      sent w = taken ++ (channelIn r.number w).queue ∧
      taken.length = Journal.matches journal) ∧
    (∀ limit run, poller.run r.assertion limit s = (some .passed, run) ↔
      poller.run r.patient limit s = (some .passed, run)) ∧
    ∀ v text u w,
      Relation.ReflTransGen (Stirs sent r.number r.observer (.receiver r.message)) s v →
      (Judge.receives r.observer).hint r.subject v = .ok (some text) u →
      Relation.ReflTransGen (Stirs sent r.number r.observer (.receiver r.message)) u w →
      ∃ t, (Judge.receives r.observer).verdict r.subject w = .ok (.ok false) t := by
  obtain ⟨hpassed, hhinted⟩ := run_reception_of_ended hfeeds hfresh h
  refine ⟨fun earlier v hbegan hcourse => ?_, hpassed, hhinted, fun journal w hcourse => ?_,
    fun limit run => run_patient_passed_iff hfeeds hfresh limit run,
    fun v text u w hbefore hhint hafter => ?_⟩
  · obtain ⟨hqueued, hdead, hopen⟩ := run_reception hfeeds hfresh h hbegan hcourse
    refine ⟨hqueued, hdead, hopen, ?_⟩
    obtain ⟨e, _, t, hattempt, _⟩ :=
      Reception.attempt_finds (r := r) hfeeds.sent_set hfeeds.others v
    obtain ⟨_, taken, heq, hflow, hlength⟩ := flow_of_attempt hfeeds hattempt
    obtain ⟨new, hsent, hqueue⟩ := hflow.account
    cases heq
    exact ⟨e, t, new, taken, hattempt, hsent, hqueue, hlength⟩
  · obtain ⟨taken, hflow, hlength⟩ := flow_of_reaches hfeeds hcourse
    obtain ⟨new, hsent, hqueue⟩ := hflow.account
    exact ⟨taken, by rw [hsent, hstart, hqueue], hlength⟩
  · refine Judge.receives_false_of_hint hfeeds.sent_set (fun hsaw => ?_) hbefore hhint hafter
    rw [hfresh] at hsaw
    cases hsaw

end Poller

end

/-! ## A sender that sends in every pause -/

section

variable [HasVirtualClock σ] [HasChannels σ]

/-- A virtual clock with a sender: in every pause it sends a message to the first channel,
until that is closed. -/
def Clock.posting : Clock σ where
  now s := ((HasVirtualClock.part.get s).now, s)
  sleep d _ s :=
    if (HasChannels.channelIn 0 s).isOpen then
      .ok () (HasChannels.part.update (Channels.update 0 (Channel.send (.integer 1)))
        (HasVirtualClock.part.update (VirtualClock.sleep d) s))
    else .ok () s

/-- Polls while messages are sent. -/
def Poller.posting [HasRecorder σ] : Poller σ := ⟨.builtIn, .recording, .posting⟩

/-- The messages that the clock has sent. -/
def Clock.posted (s : σ) : List Value :=
  List.replicate (HasVirtualClock.part.get s).sleeps.length (.integer 1)

/-- Waits for a message in the first channel. -/
def Reception.atFirst : Reception σ where
  number := 0
  observer := 0
  message := .i32
  others s := s
  settings := ⟨some 10, some 4, none, []⟩
  description? := none

end

/-- The sender does nothing but send. -/
theorem Poller.posting_feeds :
    (Poller.posting : Poller Session.World).Feeds .atFirst Clock.posted where
  sent_set _ _ := rfl
  others := .refl
  now := .refl
  cancelled := .refl
  attach := .refl
  publish attachment? reason v := by
    cases attachment? with
    | none => exact .refl v
    | some attachment => exact ⟨⟨[], rfl, (List.append_nil _).symm⟩, rfl⟩
  workedOut reason v := ⟨⟨[], rfl, (List.append_nil _).symm⟩, rfl⟩
  sleep d v w hsleep := by
    have hclock : Clock.posting.sleep d none v = .ok () w := hsleep
    unfold Clock.posting at hclock
    simp only at hclock
    split at hclock
    · rename_i hopen
      cases hclock
      refine ⟨⟨[.send (.integer 1)], ?_, ?_⟩, ?_⟩
      · exact Channels.channel_update 0 _ hopen
      · have haccepted : (HasChannels.channelIn 0 v).accepted [.send (.integer 1)] =
            [.integer 1] := by
          unfold Channel.accepted
          rw [if_pos hopen]
          rfl
        show Clock.posted _ = Clock.posted v ++ (HasChannels.channelIn 0 v).accepted _
        rw [haccepted]
        exact List.replicate_succ'
      · show List.contains _ _ = List.contains _ _
        exact congrArg (List.contains · 0) (Channels.seenClosed_update 0 _ _)
    · cases hclock
      exact .refl v

/-- A message that is sent in the first pause is received, with and without hints. -/
theorem Poller.run_receives_posted :
    (Poller.posting.run Reception.atFirst.assertion 9 (Session.World.withChannel [] true)).1 =
        some .passed ∧
      ∃ run, Poller.posting.run Reception.atFirst.patient 9 (Session.World.withChannel [] true) =
        (some .passed, run) := by
  have hpassed : (Poller.posting.run Reception.atFirst.assertion 9
      (Session.World.withChannel [] true)).1 = some .passed := by
    decide +kernel
  obtain ⟨-, -, -, -, hpatient, -⟩ := run_receives posting_feeds rfl rfl (run_eq_of_fst hpassed)
  exact ⟨hpassed, _, (hpatient 9 _).1 (run_eq_of_fst hpassed)⟩

end PollingAssertions
