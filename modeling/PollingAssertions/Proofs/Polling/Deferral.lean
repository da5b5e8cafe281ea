import PollingAssertions.Proofs.Matcher.Showing
import PollingAssertions.Proofs.Polling.Cancellation
import PollingAssertions.Proofs.Polling.Hinting

/-!
# Deferred reasons in a run that passes

A deferred reason is worked out where a text shows it, and that is meant to be the text
of a failure. A run that passes states no reason of its own, so what is worked out in it
is worked out by attempts. But an attempt works out the text for its verdict even if it
passes: that text is published as the reason, and is what the run would report later. So
whoever passes a value with a deferred reason in it to a matcher that shows values has
that reason worked out, by a run that passes too. Other matchers may have it worked out,
as may what a value is compared with, and an extra value that spoils an attempt; and a
matcher that looks into an error has to have its text even for the verdict.

A signal that is raised is not judged, and an extra value that is recognised as a
signal is not shown. Their reasons are worked out only by a run that fails.

## Main definitions

* `Probe.Silent`, `Clock.Silent` — calling a probe, and pausing, works out nothing.
* `Invocation.Exposes`, `Assertion.Exposes` — the reasons that judging an attempt, or
  making one, may work out.
* `Invocation.Discreet` — an attempt that exposes none of its own.

## Main results

* `Assertion.reasons_of_attempt` — what an attempt works out.
* `Poller.reasons_of_reaches` — what a run works out until it reaches a world.
* `Poller.shown_of_reaches` — what an attempt that passed has surely worked out.
* `Poller.run_passed_reasons` — each reason that a passing run has worked out was
  exposed by one of its attempts, and those in values that are shown were worked out.
-/

namespace PollingAssertions

open HasReasons HasChannels

variable {σ : Type} [ReasonLog σ] [HasReasons σ] [HasChannels σ] {given : List String}

/-! ## Judging an attempt -/

/-- Judging a subject works out what the subject exposes, and nothing else. -/
theorem Judge.Accounts.evaluate {judge : Judge σ Datum} (h : judge.Accounts given)
    (positive hinting : Bool) (stop? : Option StopSignal) (subject : Datum) :
    Asks given subject (judge.evaluate positive hinting stop? subject) := by
  have htext : Asks given subject (judge.textFor positive subject) := by
    unfold textFor
    cases positive with
    | true => exact h.failureText subject
    | false => exact h.negatedText subject
  rw [evaluate_eq]
  refine Asks.bind ?_ fun said _ _ _ => ?_
  · unfold assess
    refine (h.verdict subject).bind fun verdict _ _ _ => ?_
    cases verdict with
    | ok verdict => exact htext.bind fun _ _ _ _ => .pure _
    | error e => exact .pure _
  · unfold explain
    split
    · exact (h.hint subject).bind fun _ _ _ _ => .pure _
    · exact .pure _

omit [ReasonLog σ] [HasReasons σ] [HasChannels σ] in
/-- A subject that passes is explained without a hint. -/
theorem Judge.explain_of_passed {judge : Judge σ Datum} {hinting : Bool} {stop? : Option StopSignal}
    {subject : Datum} {said : Bool × String} {e : Evaluation} {s t : σ}
    (h : judge.explain hinting stop? subject said s = .ok e t) (hpassed : e.passed = true) :
    said.1 = true ∧ t = s := by
  unfold explain at h
  split at h
  · next hasked =>
      obtain ⟨hint?, u, -, hreturn⟩ := Action.bind_eq_ok_iff.1 h
      cases hreturn
      rw [Bool.and_eq_true, Bool.not_eq_true'] at hasked
      exact absurd (hpassed.symm.trans hasked.2) Bool.noConfusion
  · cases h
    exact ⟨hpassed, rfl⟩

omit [HasChannels σ] in
/-- A subject that passes is shown too, for nobody waits with the text until it is wanted. -/
theorem Judge.Telling.mem_reasons_of_passed {judge : Judge σ Datum} (h : judge.Telling)
    {positive hinting : Bool} {stop? : Option StopSignal} {subject : Datum} {e : Evaluation}
    {s t : σ} (hevaluate : judge.evaluate positive hinting stop? subject s = .ok e t)
    (hpassed : e.passed = true) : ∀ reason ∈ subject.value.asked, reason ∈ reasons t := by
  rw [evaluate_eq] at hevaluate
  obtain ⟨said, u, hassess, hexplain⟩ := Action.bind_eq_ok_iff.1 hevaluate
  obtain ⟨hsaid, rfl⟩ := explain_of_passed hexplain hpassed
  obtain ⟨answer, v, -, hanswered⟩ := Action.bind_eq_ok_iff.1 hassess
  cases answer with
  | error e =>
      cases hanswered
      cases hsaid
  | ok verdict =>
      obtain ⟨text, w, htext, hreturn⟩ := Action.bind_eq_ok_iff.1 hanswered
      cases hreturn
      exact h.mem_reasons htext

/-- The deferred reasons that judging an attempt may work out: those which the judged
value exposes, or those in the extra value that makes the attempt an error. An attempt
that was interrupted exposes none. -/
inductive Invocation.Exposes (given : List String) (s : σ) : Invocation → String → Prop
  | value {value : Datum} {extras : List Extra} {stop? : Option StopSignal} {reason : String} :
      unexpectedExtra? 0 extras = none → value.Exposes given s reason →
      Exposes given s (.returned value extras none stop?) reason
  | extra {value : Datum} {extras : List Extra} {stop? : Option StopSignal} {index : Nat}
      {extra : Extra} {reason : String} :
      unexpectedExtra? 0 extras = some (index, extra) → reason ∈ extra.asked →
      Exposes given s (.returned value extras none stop?) reason
  | outcome {invocation : Invocation} {reason : String} :
      (∀ stop, invocation ≠ .interrupted stop) → reason ∈ given →
      Exposes given s invocation reason

/-- All deferred reasons of an attempt are in a signal that was raised, or in extra values
that are signals. -/
def Invocation.Discreet : Invocation → Prop
  | .returned value extras _ _ =>
      value.value.asked = [] ∧ (∀ number, value.value ≠ .receiver number) ∧
        unexpectedExtra? 0 extras = none
  | .aborted _ => True
  | .interrupted _ => True

omit [ReasonLog σ] [HasReasons σ] in
/-- Judging such an attempt works out only what it is compared with. -/
theorem Invocation.Discreet.mem_given {invocation : Invocation} (h : invocation.Discreet) {s : σ}
    {reason : String} (hexposes : invocation.Exposes given s reason) : reason ∈ given := by
  cases hexposes with
  | value hextras hvalue =>
      obtain ⟨hasked, hreceiver, -⟩ := h
      cases hvalue with
      | subject hmem => simp [hasked] at hmem
      | given hmem => exact hmem
      | message hvalue _ _ => exact absurd hvalue (hreceiver _)
  | extra hextra _ =>
      obtain ⟨-, -, hextras⟩ := h
      rw [hextras] at hextra
      cases hextra
  | outcome _ hmem => exact hmem

namespace Invocation

variable [ReasonsApart σ] {judge : Judge σ Datum} {positive hinting : Bool}

theorem evaluateValue_workedOut (h : judge.Accounts given) (invocation : Invocation) (s : σ) :
    WorkedOut (invocation.Exposes given s) s
      ((invocation.evaluateValue judge positive hinting).after s) := by
  match invocation with
  | .interrupted stop => exact .refl s
  | .aborted (some failure) => exact .refl s
  | .aborted none => exact .refl s
  | .returned value extras (some failure) stop? => exact .refl s
  | .returned value extras none stop? =>
      cases hextra : unexpectedExtra? 0 extras with
      | some found =>
          obtain ⟨index, extra⟩ := found
          simp only [evaluateValue, hextra]
          exact .ask (fun _ hreason => .extra hextra hreason) s
      | none =>
          simp only [evaluateValue, hextra]
          have hvalue : Asks given value (judge.evaluate positive hinting stop? value >>= fun e =>
              pure (Judgement.evaluated e)) :=
            (h.evaluate positive hinting stop? value).bind fun _ _ _ _ => .pure _
          exact (hvalue s).mono fun _ hreason => .value hextra hreason

omit [ReasonsApart σ] [HasChannels σ] in
/-- An attempt that passes for its value has a value, and if that is shown, all deferred reasons
in it are worked out. -/
theorem shown_of_evaluate {matcher : Matcher σ Datum} {returnsNothing : Bool}
    {invocation : Invocation} {e : Evaluation} {s t : σ} (htelling : matcher.toJudge.Telling)
    (hvalues : matcher.outcomes? returnsNothing = none)
    (h : invocation.evaluate matcher returnsNothing positive hinting s = .ok (.evaluated e) t)
    (hpassed : e.passed = true) :
    ∃ value extras stop?, invocation = .returned value extras none stop? ∧
      ∀ reason ∈ value.value.asked, reason ∈ reasons t := by
  rcases cases_of_matcher matcher returnsNothing invocation with ⟨stop, rfl⟩ |
    ⟨judge, outcome, houtcomes, _⟩ | ⟨-, ⟨report, herrs⟩ | ⟨value, extras, stop?, rfl, hexpected⟩⟩
  · rw [evaluate_interrupted] at h
    cases h
  · rw [hvalues] at houtcomes
    cases houtcomes
  · obtain ⟨u, hevaluated⟩ := evaluateValue_of_errs matcher.toJudge positive hinting herrs s
    rw [evaluate_of_values hvalues, hevaluated] at h
    cases h
    cases hpassed
  · rw [evaluate_of_values hvalues, evaluateValue_of_expected hexpected] at h
    obtain ⟨found, u, hjudged, hreturn⟩ := Action.bind_eq_ok_iff.1 h
    cases hreturn
    exact ⟨value, extras, stop?, rfl, htelling.mem_reasons_of_passed hjudged hpassed⟩

omit [ReasonsApart σ] in
/-- An outcome exposes nothing of its own. -/
theorem evaluateOutcome_workedOut (h : judge.Accounts given) (invocation : Invocation) (s : σ) :
    WorkedOut (invocation.Exposes given s) s
      ((invocation.evaluateOutcome (judge.comap Datum.ofOutcome) positive).after s) := by
  have hjudged : ∀ (stop? : Option StopSignal) (outcome : CallbackOutcome),
      (∀ stop, invocation ≠ .interrupted stop) →
      WorkedOut (invocation.Exposes given s) s
        (((judge.comap Datum.ofOutcome).evaluate positive false stop? outcome >>= fun e =>
          pure (Judgement.evaluated e)).after s) := by
    intro stop? outcome hjudged
    have houtcome : Asks given (.ofOutcome outcome)
        (judge.evaluate positive false stop? (.ofOutcome outcome) >>= fun e =>
          pure (Judgement.evaluated e)) :=
      (h.evaluate positive false stop? (.ofOutcome outcome)).bind fun _ _ _ _ => .pure _
    refine (houtcome s).mono fun _ hreason => ?_
    cases hreason with
    | subject hasked => cases hasked
    | given hgiven => exact .outcome hjudged hgiven
    | message hvalue _ _ => cases hvalue
  cases invocation with
  | interrupted stop => exact .refl s
  | aborted failure? => exact hjudged _ _ (by simp)
  | returned value extras failure? stop? => exact hjudged _ _ (by simp)

/-- With a matcher of the library, judging an attempt works out what the attempt exposes. -/
theorem evaluate_workedOut {matcher : Matcher σ Datum} (h : matcher.Own given)
    (returnsNothing : Bool) (invocation : Invocation) (s : σ) :
    WorkedOut (invocation.Exposes given s) s
      ((invocation.evaluate matcher returnsNothing positive hinting).after s) := by
  obtain ⟨haccounts, houtcomes⟩ := h.judges
  cases hcallback : matcher.outcomes? returnsNothing with
  | none =>
      rw [evaluate_of_values hcallback]
      exact evaluateValue_workedOut haccounts invocation s
  | some outcomes =>
      have hsame : outcomes = matcher.toJudge.comap Datum.ofOutcome := by
        cases returnsNothing with
        | true => exact houtcomes outcomes hcallback
        | false => cases hcallback
      rw [evaluate_of_outcomes hcallback, hsame]
      exact evaluateOutcome_workedOut haccounts invocation s

end Invocation

/-! ## Making an attempt -/

/-- Worlds that keep their reasons apart from contexts, checkers and the desk. -/
class ReasonsAside (σ : Type) [ReasonLog σ] [HasReasons σ] [HasContexts σ] [HasCheckers σ]
    [HasDesk σ] : Prop where
  reasons_contexts : ∀ (contexts : Contexts) (s : σ),
    reasons (HasContexts.part.set contexts s) = reasons s
  reasons_checkers : ∀ (checkers : Checkers) (s : σ),
    reasons (HasCheckers.part.set checkers s) = reasons s
  reasons_desk : ∀ (desk : Desk) (s : σ), reasons (HasDesk.part.set desk s) = reasons s

instance : ReasonsAside Session.World := ⟨fun _ _ => rfl, fun _ _ => rfl, fun _ _ => rfl⟩

/-- Whoever calls the probe works out no reasons by that. -/
def Probe.Silent (probe : Probe σ) : Prop :=
  ∀ shape checker body, probe = .function shape checker body →
    ∀ delivered s, reasons ((body delivered).after s) = reasons s

/-- Neither telling the time nor pausing works out reasons. -/
structure Clock.Silent (clock : Clock σ) : Prop where
  now : ∀ s, reasons (clock.now s).2 = reasons s
  sleep : ∀ d context? s t, clock.sleep d context? s = .ok () t → reasons t = reasons s

section

variable [HasContexts σ] [HasCheckers σ] [HasDesk σ] [ReasonsAside σ]

omit [HasChannels σ] in
theorem Contexts.reasons_isDoneIn (context? : Option ContextId) (s : σ) :
    reasons (isDoneIn context? s).2 = reasons s := by
  cases context? with
  | none => rfl
  | some c => exact ReasonsAside.reasons_contexts _ s

omit [HasChannels σ] in
theorem Progress.reasons_publish (attachment? : Option Attachment) (text : String) (s : σ) :
    reasons (publish attachment? text s) = reasons s := by
  cases attachment? with
  | none => rfl
  | some attachment => exact ReasonsAside.reasons_desk _ s

omit [HasChannels σ] in
theorem Progress.reasons_detach (attachment? : Option Attachment) (s : σ) :
    reasons (detach attachment? s) = reasons s := by
  cases attachment? with
  | none => rfl
  | some attachment => exact ReasonsAside.reasons_desk _ s

omit [HasChannels σ] in
theorem Progress.reasons_attach? (context? : Option ContextId) (s : σ) :
    reasons (attach? context? s).2 = reasons s := by
  unfold attach?
  split
  · exact ReasonsAside.reasons_desk _ s
  · rfl

omit [HasChannels σ] in
/-- What a silent probe produces is produced without working out reasons. -/
theorem Probe.Silent.produces {probe : Probe σ} (h : probe.Silent) {kind : Kind}
    {settings : Settings} {s t : σ} {invocation : Invocation}
    (hproduces : probe.Produces kind settings s invocation t) : reasons t = reasons s := by
  have hclear : ∀ (checker : CheckerId) (s : σ), reasons (Checker.clear checker s) = reasons s :=
    fun _ s => ReasonsAside.reasons_checkers _ s
  cases hproduces with
  | observed => rfl
  | @returned shape checker body delivered _ u out _ hbody =>
      have hcalled := h shape checker body rfl delivered (Checker.clear checker s)
      rw [Action.after_ok hbody, hclear] at hcalled
      rw [hclear, hcalled]
  | @aborted shape checker body delivered _ u _ hbody =>
      have hcalled := h shape checker body rfl delivered (Checker.clear checker s)
      rw [Action.after_error hbody, hclear] at hcalled
      rw [hclear, hcalled]
  | @interrupted shape checker body delivered _ u stop _ hbody =>
      have hcalled := h shape checker body rfl delivered (Checker.clear checker s)
      rw [Action.after_error hbody, hclear] at hcalled
      exact hcalled

/-- The deferred reasons that an attempt which is made in a world may work out. -/
def Assertion.Exposes (a : Assertion σ) (given : List String) (v : σ) (reason : String) : Prop :=
  ∃ invocation u, a.probe.Produces a.kind a.settings v invocation u ∧
    invocation.Exposes given u reason

/-- An attempt works out what it exposes, and nothing else. -/
theorem Assertion.reasons_of_attempt [ReasonsApart σ] {a : Assertion σ} (hown : a.matcher.Own given)
    (hprobe : a.probe.Silent) {v t : σ} {judgement : Judgement}
    (h : a.attempt v = .ok (.ok judgement) t) :
    ∃ new, reasons t = new ++ reasons v ∧ ∀ reason ∈ new, a.Exposes given v reason := by
  obtain ⟨invocation, u, hproduces, hevaluate⟩ := judged_of_attempt h
  have hworked : WorkedOut (invocation.Exposes given u) u
      ((invocation.evaluate a.matcher a.probe.returnsNothing a.positive a.wantsHints).after u) :=
    invocation.evaluate_workedOut hown _ u
  rw [Action.after_ok hevaluate] at hworked
  obtain ⟨new, hnew, hexposed⟩ := hworked.reasons_eq
  refine ⟨new, by rw [hnew, hprobe.produces hproduces], fun reason hreason => ?_⟩
  exact ⟨invocation, u, hproduces, hexposed reason hreason⟩

end

/-! ## Runs -/

/-- A run that goes on has not asked a stop signal for its reason. -/
theorem Pending.not_reasoned {plan : Plan} {phase : Phase} {journal : List Event}
    (h : Pending plan [] phase journal) (stop : StopSignal) : .reasoned stop ∉ journal := by
  induction h with
  | starting => simp
  | judged _ _ ih => simpa using ih
  | rested _ _ ih => simpa using ih
  | resumed _ _ ih => simpa using ih

/-- Nor has a run that passes. -/
theorem Concluded.not_reasoned {plan : Plan} {journal : List Event}
    (h : Concluded plan [] journal .passed) (stop : StopSignal) : .reasoned stop ∉ journal := by
  cases h with
  | confirmed hpending _ _ => simpa using hpending.not_reasoned stop
  | passed hpending _ _ => simpa using hpending.not_reasoned stop
  | lasted hpending _ _ _ => simpa using hpending.not_reasoned stop

namespace Poller

variable [HasContexts σ] [HasCheckers σ] [HasDesk σ] [ReasonsAside σ] {poller : Poller σ}
  {a : Assertion σ} {limit : Nat} {s v w : σ} {journal : List Event} {run : Run σ}

/-- What is worked out with an event: an attempt works out what it exposes, and everything
else that can happen while no signal is asked for its reason works out nothing. -/
theorem reasons_of_occurs [ReasonsApart σ] (hown : a.matcher.Own given) (hprobe : a.probe.Silent)
    (hclock : poller.clock.Silent) {started : Span} {event : Event}
    (hevent : ∀ stop, event ≠ .reasoned stop) (h : Occurs (poller.scene a s) started event v w) :
    ∃ new, reasons w = new ++ reasons v ∧ ∀ reason ∈ new,
      (∃ judgement, event = .attempted judgement) ∧ a.Exposes given v reason := by
  have hnothing : ∀ {t : σ}, reasons t = reasons v → ∃ new, reasons t = new ++ reasons v ∧
      ∀ reason ∈ new, (∃ judgement, event = .attempted judgement) ∧ a.Exposes given v reason :=
    fun hsame => ⟨[], hsame, by simp⟩
  cases h with
  | looked hcancelled =>
      have hworld : (Contexts.isDoneIn a.settings.context? v).2 = w := congrArg Prod.snd hcancelled
      exact hnothing (hworld ▸ Contexts.reasons_isDoneIn _ v)
  | began => exact hnothing rfl
  | interrupted hattempt =>
      obtain ⟨new, hnew, hexposed⟩ := Assertion.reasons_of_attempt hown hprobe hattempt
      exact ⟨new, hnew, fun reason hreason => ⟨⟨_, rfl⟩, hexposed reason hreason⟩⟩
  | evaluated hattempt =>
      obtain ⟨new, hnew, hexposed⟩ := Assertion.reasons_of_attempt hown hprobe hattempt
      refine ⟨new, (Progress.reasons_publish _ _ _).trans hnew, fun reason hreason => ?_⟩
      exact ⟨⟨_, rfl⟩, hexposed reason hreason⟩
  | reasoned _ => exact absurd rfl (hevent _)
  | elapsed hnow =>
      have hworld : (poller.clock.now v).2 = w := congrArg Prod.snd hnow
      exact hnothing (hworld ▸ hclock.now v)
  | paused hsleep => exact hnothing (hclock.sleep _ _ _ _ hsleep)

/-- Until a run reaches a world without having asked a signal for its reason, only attempts
have worked out reasons, and only what they expose. -/
theorem reasons_of_reaches [ReasonsApart σ] (hown : a.matcher.Own given) (hprobe : a.probe.Silent)
    (hclock : poller.clock.Silent) (hjournal : ∀ stop, .reasoned stop ∉ journal)
    (h : poller.Reaches a s journal v) :
    ∃ new, reasons v = new ++ reasons s ∧ ∀ reason ∈ new, ∃ judgement earlier u,
      .attempted judgement :: earlier <:+ journal ∧ poller.Reaches a s earlier u ∧
        a.Exposes given u reason := by
  induction h with
  | nil =>
      refine ⟨[], ?_, by simp⟩
      exact (hclock.now _).trans (Progress.reasons_attach? _ s)
  | @cons event journal t u hcourse hevent ih =>
      obtain ⟨new, hnew, hexposed⟩ := ih fun stop hmem => hjournal stop (by simp [hmem])
      obtain ⟨more, hmore, hattempted⟩ := reasons_of_occurs hown hprobe hclock
        (fun stop heq => hjournal stop (by simp [heq])) hevent
      refine ⟨more ++ new, by rw [hmore, hnew, List.append_assoc], fun reason hreason => ?_⟩
      rcases List.mem_append.1 hreason with hreason | hreason
      · obtain ⟨⟨judgement, rfl⟩, hexposes⟩ := hattempted reason hreason
        exact ⟨judgement, journal, t, List.suffix_refl _, hcourse, hexposes⟩
      · obtain ⟨judgement, earlier, v, hsuffix, hreaches, hexposes⟩ := hexposed reason hreason
        exact ⟨judgement, earlier, v, hsuffix.trans (List.suffix_cons _ _), hreaches, hexposes⟩

/-- Wherever a run has got to without having asked a signal for its reason, each attempt that
passed for a value had all deferred reasons in that value worked out, if the matcher shows
values. -/
theorem shown_of_reaches [ReasonsApart σ] (hown : a.matcher.Own given) (hprobe : a.probe.Silent)
    (hclock : poller.clock.Silent) (htelling : a.matcher.toJudge.Telling)
    (hvalues : a.matcher.outcomes? a.probe.returnsNothing = none)
    (hjournal : ∀ stop, .reasoned stop ∉ journal) (h : poller.Reaches a s journal v) :
    ∀ e earlier, .attempted (.evaluated e) :: earlier <:+ journal → e.passed = true →
      ∃ u value extras stop? t, poller.Reaches a s earlier u ∧
        a.probe.Produces a.kind a.settings u (.returned value extras none stop?) t ∧
        ∀ reason ∈ value.value.asked, reason ∈ reasons v := by
  intro e earlier hsuffix hpassed
  induction h with
  | nil => simp at hsuffix
  | @cons event journal u w hcourse hevent ih =>
      rcases List.suffix_cons_iff.1 hsuffix with heq | hsuffix
      · cases heq
        cases hevent with
        | evaluated hattempt =>
            obtain ⟨invocation, t, hproduces, hevaluate⟩ := Assertion.judged_of_attempt hattempt
            obtain ⟨value, extras, stop?, rfl, hshown⟩ :=
              Invocation.shown_of_evaluate htelling hvalues hevaluate hpassed
            have hpublished : ∀ x, reasons ((poller.scene a s).publish e.reason x) = reasons x :=
              fun x => Progress.reasons_publish _ _ x
            refine ⟨u, value, extras, stop?, t, hcourse, hproduces, fun reason hreason => ?_⟩
            rw [hpublished]
            exact hshown reason hreason
      · -- what was worked out before stays worked out
        obtain ⟨new, hnew, -⟩ := reasons_of_occurs hown hprobe hclock
          (fun stop heq => hjournal stop (by simp [heq])) hevent
        obtain ⟨x, value, extras, stop?, t, hreaches, hproduces, hshown⟩ :=
          ih (fun stop hmem => hjournal stop (by simp [hmem])) hsuffix
        refine ⟨x, value, extras, stop?, t, hreaches, hproduces, fun reason hreason => ?_⟩
        rw [hnew]
        exact List.mem_append_right _ (hshown reason hreason)

/-- Each deferred reason that is worked out in a run that passes is worked out by one of
its attempts, and is exposed by it: it is in the value that the matcher of the library
was asked about, in what that is compared with or in a message that came instead of the
end of a channel, or in an extra value that is neither zero nor a signal. So if the
attempts have their deferred reasons in raised signals and in extra values that are
signals, if anywhere, then only reasons in what values are compared with are worked out,
and none if there are none. A value that is judged and shown, though, has its reasons
worked out by each attempt that passes. -/
theorem run_passed_reasons [ReasonsApart σ] (hown : a.matcher.Own given) (hprobe : a.probe.Silent)
    (hclock : poller.clock.Silent) (h : poller.run a limit s = (some .passed, run)) :
    (∃ new, reasons run.world = new ++ reasons s ∧ ∀ reason ∈ new, ∃ judgement earlier u,
        .attempted judgement :: earlier <:+ run.journal ∧ poller.Reaches a s earlier u ∧
          a.Exposes given u reason) ∧
      ((∀ judgement earlier u invocation t,
          .attempted judgement :: earlier <:+ run.journal → poller.Reaches a s earlier u →
          a.probe.Produces a.kind a.settings u invocation t → invocation.Discreet) →
        ∃ new, reasons run.world = new ++ reasons s ∧ ∀ reason ∈ new, reason ∈ given) ∧
      (a.matcher.toJudge.Telling → a.matcher.outcomes? a.probe.returnsNothing = none →
        ∀ e earlier, .attempted (.evaluated e) :: earlier <:+ run.journal → e.passed = true →
          ∃ u value extras stop? t, poller.Reaches a s earlier u ∧
            a.probe.Produces a.kind a.settings u (.returned value extras none stop?) t ∧
            ∀ reason ∈ value.value.asked, reason ∈ reasons run.world) := by
  obtain ⟨t, u, hconcluded, hcourse, hleaves, hworld⟩ := run_over h
  cases hleaves
  have hunreasoned : ∀ stop, .reasoned stop ∉ run.journal := fun stop =>
    hconcluded.not_reasoned stop
  rw [hworld, Progress.reasons_detach]
  have hreasons := reasons_of_reaches hown hprobe hclock hunreasoned hcourse
  refine ⟨hreasons, fun hdiscreet => ?_, fun htelling hvalues =>
    shown_of_reaches hown hprobe hclock htelling hvalues hunreasoned hcourse⟩
  obtain ⟨new, hnew, hexposed⟩ := hreasons
  refine ⟨new, hnew, fun reason hreason => ?_⟩
  obtain ⟨judgement, earlier, w, hsuffix, hreaches, invocation, v, hproduces, hexposes⟩ :=
    hexposed reason hreason
  exact (hdiscreet _ _ _ _ _ hsuffix hreaches hproduces).mem_given hexposes

end Poller

/-! ## Signals that are shown, and signals that are not -/

namespace Session.World

/-- Looking at a context and moving the virtual clock works out nothing. -/
theorem silent_virtual : (Clock.virtual : Clock World).Silent where
  now _ := rfl
  sleep d context? s t h := by
    have hlooked := Contexts.reasons_isDoneIn context? s
    by_cases hdone : (Contexts.isDoneIn context? s).1 = true
    · rw [Clock.virtual_sleep_of_done hdone] at h
      cases h
      exact hlooked
    · rw [Clock.virtual_sleep_of_undone (Bool.eq_false_iff.2 hdone)] at h
      cases h
      exact hlooked

end Session.World

/-- A stop signal with a deferred reason. -/
def StopSignal.enough : StopSignal := ⟨"enough", true, false⟩

/-- Calls a function that returns a stop signal at once, and expects that it does. -/
def Assertion.revealing : Assertion Session.World where
  kind := .eventually
  probe := .function ⟨[], .value, "fn() -> Option<StopTrying>"⟩ 0 fun _ =>
    return ⟨⟨.option .stopSignal, .present (.stop .enough)⟩, []⟩
  settings := ⟨some 10, some 4, none, []⟩
  matcher := Judge.isPresent.toMatcher
  positive := true
  description? := none

theorem Assertion.revealing_silent : Assertion.revealing.probe.Silent := by
  intro shape checker body hprobe delivered s
  cases hprobe
  rfl

/-- The value that such an attempt is judged by has the deferred reason in it. -/
theorem Assertion.asked_of_revealing {u t : Session.World} {value : Datum} {extras : List Extra}
    {stop? : Option StopSignal}
    (h : revealing.probe.Produces revealing.kind revealing.settings u
      (.returned value extras none stop?) t) : value.value.asked = ["enough"] := by
  generalize hinvocation : Invocation.returned value extras none stop? = invocation at h
  cases h with
  | returned _ hbody =>
      cases hbody
      obtain ⟨rfl, -⟩ := Invocation.returned.inj hinvocation
      rfl
  | aborted _ _ => cases hinvocation
  | interrupted _ _ => cases hinvocation

/-- The run passes, and yet the reason of the signal has been worked out: the text for the
verdict shows the value. -/
theorem Poller.run_revealing_reasons :
    Assertion.revealing.matcher.Own [] ∧ Assertion.revealing.probe.Silent ∧
      (Poller.virtual.run .revealing 9 (Session.World.starting 0)).1 = some .passed ∧
      reasons (Session.World.starting 0) = [] ∧
      reasons (Poller.virtual.run .revealing 9 (Session.World.starting 0)).2.world = ["enough"] :=
  ⟨.ofJudge .isPresent, Assertion.revealing_silent, by decide +kernel⟩

/-- Calls a function that returns a text at first, and later ends in another way. -/
def Assertion.parting (last : Except Payload Output) : Assertion Session.World where
  kind := .consistently
  probe := .function ⟨[], .valueWithExtras, "fn() -> Returns<String>"⟩ 0 fun _ s =>
    if s.clock.now < 4 then .ok ⟨.ofString "", []⟩ s else Action.resume last s
  settings := ⟨some 10, some 4, none, []⟩
  matcher := (Judge.satisfies (fun _ => true) "be there").toMatcher
  positive := true
  description? := none

theorem Assertion.parting_silent (last : Except Payload Output) :
    (Assertion.parting last).probe.Silent := by
  intro shape checker body hprobe delivered s
  cases hprobe
  by_cases hearly : s.clock.now < 4
  · simp [Action.after, hearly]
  · cases last <;> simp [Action.after, hearly, Action.resume] <;> rfl

theorem Assertion.parting_discreet {last : Except Payload Output}
    (hlast : ∀ out, last = .ok out → out.value.value.asked = [] ∧
      (∀ number, out.value.value ≠ .receiver number) ∧ unexpectedExtra? 0 out.extras = none)
    {u t : Session.World} {invocation : Invocation}
    (h : (parting last).probe.Produces (parting last).kind (parting last).settings u invocation t) :
    invocation.Discreet := by
  cases h with
  | returned _ hbody =>
      dsimp only at hbody
      split at hbody
      · cases hbody
        exact ⟨rfl, by simp [Datum.ofString], rfl⟩
      · cases last with
        | ok out =>
            cases hbody
            exact hlast _ rfl
        | error payload => cases hbody
  | aborted _ _ => trivial
  | interrupted _ _ => trivial

/-- The same signal ends a run that passes, raised or as an extra value, and keeps its
reason to itself. As a value that is judged it does not. -/
theorem Poller.run_parting_reasons :
    ((Poller.virtual.run (.parting (.error (.stop .enough))) 9 (Session.World.starting 0)).1 =
        some .passed ∧
      reasons (Poller.virtual.run (.parting (.error (.stop .enough))) 9
        (Session.World.starting 0)).2.world = []) ∧
    ((Poller.virtual.run (.parting (.ok ⟨.ofString "",
        [.ofDatum ⟨.stopSignal, .stop .enough⟩]⟩)) 9 (Session.World.starting 0)).1 =
          some .passed ∧
      reasons (Poller.virtual.run (.parting (.ok ⟨.ofString "",
        [.ofDatum ⟨.stopSignal, .stop .enough⟩]⟩)) 9 (Session.World.starting 0)).2.world = []) ∧
    ((Poller.virtual.run .revealing 9 (Session.World.starting 0)).1 = some .passed ∧
      "enough" ∈ reasons (Poller.virtual.run .revealing 9
        (Session.World.starting 0)).2.world) := by
  have hsilent : ∀ last : Except Payload Output,
      (∀ out, last = .ok out → out.value.value.asked = [] ∧
        (∀ number, out.value.value ≠ .receiver number) ∧ unexpectedExtra? 0 out.extras = none) →
      (Poller.virtual.run (.parting last) 9 (Session.World.starting 0)).1 = some .passed →
      reasons (Poller.virtual.run (.parting last) 9 (Session.World.starting 0)).2.world = [] := by
    intro last hlast hpassed
    have hown : (Assertion.parting last).matcher.Own [] := .ofJudge (.satisfies _ _)
    obtain ⟨-, hnone, -⟩ := run_passed_reasons hown (Assertion.parting_silent last)
      Session.World.silent_virtual (run_eq_of_fst hpassed)
    obtain ⟨new, hnew, hgiven⟩ := hnone fun _ _ _ _ _ _ _ hproduces =>
      Assertion.parting_discreet hlast hproduces
    obtain rfl : new = [] := List.eq_nil_iff_forall_not_mem.2 fun reason hreason => by
      cases hgiven reason hreason
    exact hnew
  refine ⟨?_, ?_, ?_⟩
  · have hpassed : (Poller.virtual.run (.parting (.error (.stop .enough))) 9
        (Session.World.starting 0)).1 = some .passed := by decide +kernel
    exact ⟨hpassed, hsilent _ (by simp) hpassed⟩
  · have hpassed : (Poller.virtual.run (.parting (.ok ⟨.ofString "",
        [.ofDatum ⟨.stopSignal, .stop .enough⟩]⟩)) 9 (Session.World.starting 0)).1 =
          some .passed := by decide +kernel
    refine ⟨hpassed, hsilent _ (fun out heq => ?_) hpassed⟩
    cases heq
    exact ⟨rfl, by simp [Datum.ofString], rfl⟩
  · have hpassed : (Poller.virtual.run .revealing 9 (Session.World.starting 0)).1 =
        some .passed := by decide +kernel
    have hjournal : (Poller.virtual.run .revealing 9 (Session.World.starting 0)).2.journal =
        [.attempted (.evaluated ⟨true, "Expected\n    <Option<StopTrying>>: " ++
          "Some(StopTrying \x7b reason: \"enough\", immediate: false \x7d)\nto be Some",
          some .enough, none⟩), .began, .looked false] := by decide +kernel
    have hown : Assertion.revealing.matcher.Own [] := .ofJudge .isPresent
    obtain ⟨-, -, hshown⟩ := run_passed_reasons hown Assertion.revealing_silent
      Session.World.silent_virtual (run_eq_of_fst hpassed)
    rw [hjournal] at hshown
    obtain ⟨u, value, extras, stop?, t, -, hproduces, hasked⟩ :=
      hshown .isPresent rfl _ _ (List.suffix_refl _) rfl
    refine ⟨hpassed, hasked _ ?_⟩
    rw [Assertion.asked_of_revealing hproduces]
    exact List.mem_cons_self

end PollingAssertions
