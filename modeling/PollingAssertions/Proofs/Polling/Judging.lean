import PollingAssertions.Proofs.Polling.Stopping

/-!
# How an attempt is judged

An attempt is made in two steps. The probe produces something, and then the matcher is
asked about it. An error is found before the matcher is asked if an expectation in the
probe has failed, if there is no value, or if an extra value is neither zero nor a stop
signal; a probe that returns nothing is spared that if the matcher judges outcomes. All
of it is foreign code, which may change the world and may unwind at any time. This
module lists the ways in which the two steps can go, as relations, and shows that an
attempt goes in no other way.

## Main definitions

* `Probe.Produces` — what the probe produces in a world.
* `Judge.Finds`, `Judge.Raises` — what a judge finds, and what it unwinds with.
* `Invocation.Errs` — the errors that are found before the matcher is asked.
* `Assertion.Evaluates`, `Assertion.MatcherRaises` — what is found in an attempt of an
  assertion, and what its matcher unwinds with.

## Main results

* `Probe.produces_of_invoke`, `Probe.invoke_eq_error_iff` — what an attempt at a probe
  comes to.
* `Assertion.evaluates_of_attempt` — the text of an attempt is what the matcher said, or
  an error, and its signal is one that was returned.
* `Assertion.calls_of_interrupted` — an interrupted attempt raised the signal.
* `Assertion.attempt_eq_error_iff` — an attempt unwinds with a message of the probe or
  with whatever the matcher raised.
-/

namespace PollingAssertions

/-! ## Extra values -/

/-- An extra value that is no error: it is zero, or it is a stop signal. -/
def Extra.Expected (extra : Extra) : Prop := extra.isZero = true ∨ extra.signal?.isSome = true

theorem Extra.not_expected_iff {extra : Extra} :
    ¬ extra.Expected ↔ (!extra.isZero && extra.signal?.isNone) = true := by
  unfold Expected
  cases extra.isZero <;> cases extra.signal? <;> simp

theorem unexpectedExtra?_eq_none_iff {first : Nat} {extras : List Extra} :
    unexpectedExtra? first extras = none ↔ ∀ extra ∈ extras, extra.Expected := by
  induction extras generalizing first with
  | nil => simp [unexpectedExtra?]
  | cons extra extras ih =>
      unfold unexpectedExtra?
      by_cases hexpected : extra.Expected
      · have hpasses : ¬ (!extra.isZero && extra.signal?.isNone) = true := fun h =>
          Extra.not_expected_iff.2 h hexpected
        rw [if_neg hpasses, ih]
        simp [hexpected]
      · rw [if_pos (Extra.not_expected_iff.1 hexpected)]
        simp [hexpected]

/-- The extra value that is found is the first one that is not expected. -/
theorem unexpectedExtra?_eq_some_iff {first index : Nat} {extras : List Extra} {extra : Extra} :
    unexpectedExtra? first extras = some (index, extra) ↔
      ∃ before after, extras = before ++ extra :: after ∧ index = first + before.length ∧
        (∀ other ∈ before, other.Expected) ∧ ¬ extra.Expected := by
  induction extras generalizing first with
  | nil => simp [unexpectedExtra?]
  | cons other extras ih =>
      unfold unexpectedExtra?
      by_cases hexpected : other.Expected
      · have hpasses : ¬ (!other.isZero && other.signal?.isNone) = true := fun h =>
          Extra.not_expected_iff.2 h hexpected
        rw [if_neg hpasses, ih]
        constructor
        · rintro ⟨before, after, rfl, rfl, hbefore, hextra⟩
          refine ⟨other :: before, after, rfl, ?_, ?_, hextra⟩
          · rw [List.length_cons]
            omega
          · intro e he
            rcases List.mem_cons.1 he with rfl | he
            · exact hexpected
            · exact hbefore e he
        · rintro ⟨before, after, hextras, rfl, hbefore, hextra⟩
          cases before with
          | nil =>
              cases hextras
              exact absurd hexpected hextra
          | cons head before =>
              cases hextras
              refine ⟨before, after, rfl, ?_, fun e he => hbefore e (List.mem_cons_of_mem _ he),
                hextra⟩
              rw [List.length_cons]
              omega
      · rw [if_pos (Extra.not_expected_iff.1 hexpected)]
        constructor
        · intro h
          cases h
          exact ⟨[], extras, rfl, rfl, by simp, hexpected⟩
        · rintro ⟨before, after, hextras, rfl, hbefore, _⟩
          cases before with
          | nil =>
              cases hextras
              rfl
          | cons head before =>
              cases hextras
              exact absurd (hbefore other List.mem_cons_self) hexpected

/-! ## What a probe produces -/

section

variable {σ : Type} [HasCheckers σ] (kind : Kind) (settings : Settings)

/-- What a probe produces in a world, and the world it leaves. A function is called with
its parameters filled; a failed expectation is what its checker keeps at the end. -/
inductive Probe.Produces : Probe σ → σ → Invocation → σ → Prop
  | observed {datum : Datum} {s : σ} :
      Produces (.observed datum) s (.returned datum [] none none) s
  | returned {shape : Shape} {checker : CheckerId} {body : List Delivered → Action σ Output}
      {delivered : List Delivered} {s u : σ} {out : Output} :
      Param.fetchAll kind shape.signature 0 shape.params
        (.fresh checker settings.context? settings.arguments) = .ok delivered →
      body delivered (Checker.clear checker s) = .ok out u →
      Produces (.function shape checker body) s
        (.returned out.value out.extras (Checker.kept? checker u) out.signal?)
        (Checker.clear checker u)
  | aborted {shape : Shape} {checker : CheckerId} {body : List Delivered → Action σ Output}
      {delivered : List Delivered} {s u : σ} :
      Param.fetchAll kind shape.signature 0 shape.params
        (.fresh checker settings.context? settings.arguments) = .ok delivered →
      body delivered (Checker.clear checker s) = .error .abort u →
      Produces (.function shape checker body) s (.aborted (Checker.kept? checker u))
        (Checker.clear checker u)
  | interrupted {shape : Shape} {checker : CheckerId} {body : List Delivered → Action σ Output}
      {delivered : List Delivered} {s u : σ} {stop : StopSignal} :
      Param.fetchAll kind shape.signature 0 shape.params
        (.fresh checker settings.context? settings.arguments) = .ok delivered →
      body delivered (Checker.clear checker s) = .error (.stop stop) u →
      Produces (.function shape checker body) s (.interrupted stop) u

variable {kind settings} {probe : Probe σ} {s t : σ} {invocation : Invocation} {payload : Payload}

/-- What an attempt at a function comes to, whichever way the function ends. -/
private theorem Probe.invoke_called {shape : Shape} {checker : CheckerId}
    {body : List Delivered → Action σ Output} {delivered : List Delivered}
    {ended : Except Payload Output} {u : σ}
    (hfilled : Param.fetchAll kind shape.signature 0 shape.params
      (.fresh checker settings.context? settings.arguments) = .ok delivered)
    (hcaught : (body delivered).caught (Checker.clear checker s) = .ok ended u) :
    (Probe.function shape checker body).invoke kind settings s =
      (conclude checker ended >>= fun invocation => return .ok invocation) u := by
  rw [invoke_filled hfilled, Action.bind_ok hcaught]

/-- An attempt at a probe is refused, or produces something, or unwinds with a message of
the function that is called. -/
private theorem Probe.invoke_cases (probe : Probe σ) (kind : Kind) (settings : Settings) (s : σ) :
    (∃ e t, probe.invoke kind settings s = .ok (.error e) t) ∨
      (∃ invocation t, probe.Produces kind settings s invocation t ∧
        probe.invoke kind settings s = .ok (.ok invocation) t) ∨
      ∃ text t, probe.Calls kind settings s (.error (.message text) t) ∧
        probe.invoke kind settings s = .error (.message text) t := by
  cases probe with
  | observed datum => exact .inr (.inl ⟨_, _, .observed, rfl⟩)
  | function shape checker body =>
      cases hfilled : Param.fetchAll kind shape.signature 0 shape.params
          (.fresh checker settings.context? settings.arguments) with
      | error e =>
          left
          refine ⟨e, Checker.clear checker s, ?_⟩
          simp only [invoke, hfilled]
          rfl
      | ok delivered =>
          right
          cases hbody : body delivered (Checker.clear checker s) with
          | ok out u =>
              exact .inl ⟨_, _, .returned hfilled hbody,
                invoke_called hfilled (Action.caught_ok hbody)⟩
          | error payload u =>
              have hcalled := invoke_called hfilled (Action.caught_error hbody)
              cases payload with
              | message text =>
                  exact .inr ⟨text, u, ⟨_, _, _, _, rfl, hfilled, hbody⟩, hcalled⟩
              | stop stop => exact .inl ⟨_, _, .interrupted hfilled hbody, hcalled⟩
              | abort => exact .inl ⟨_, _, .aborted hfilled hbody, hcalled⟩

/-- What an attempt at a probe comes to is what the probe produces. -/
theorem Probe.produces_of_invoke (h : probe.invoke kind settings s = .ok (.ok invocation) t) :
    probe.Produces kind settings s invocation t := by
  rcases invoke_cases probe kind settings s with ⟨e, u, hrefused⟩ |
    ⟨other, u, hproduces, hinvoke⟩ | ⟨text, u, _, hunwound⟩
  · cases h.symm.trans hrefused
  · cases h.symm.trans hinvoke
    exact hproduces
  · cases h.symm.trans hunwound

/-- What a probe produces is what an attempt at it comes to. -/
theorem Probe.Produces.invoke (h : probe.Produces kind settings s invocation t) :
    probe.invoke kind settings s = .ok (.ok invocation) t := by
  cases h with
  | observed => rfl
  | returned hfilled hbody => exact invoke_called hfilled (Action.caught_ok hbody)
  | aborted hfilled hbody => exact invoke_called hfilled (Action.caught_error hbody)
  | interrupted hfilled hbody => exact invoke_called hfilled (Action.caught_error hbody)

/-- An attempt at a probe unwinds only with a message of the function that is called. -/
theorem Probe.invoke_eq_error_iff :
    probe.invoke kind settings s = .error payload t ↔
      ∃ text, payload = .message text ∧
        probe.Calls kind settings s (.error (.message text) t) := by
  constructor
  · intro h
    rcases invoke_cases probe kind settings s with ⟨e, u, hrefused⟩ |
      ⟨invocation, u, _, hinvoke⟩ | ⟨text, u, hcalls, hunwound⟩
    · cases h.symm.trans hrefused
    · cases h.symm.trans hinvoke
    · cases h.symm.trans hunwound
      exact ⟨text, rfl, hcalls⟩
  · intro h
    obtain ⟨text, rfl, shape, checker, body, delivered, rfl, hfilled, hbody⟩ := h
    exact invoke_called hfilled (Action.caught_error hbody)

end

/-! ## What a judge finds -/

section

variable {σ α : Type}

namespace Judge

/-- A judge finds, in a world, whether a subject passes in the given direction, with a
text: the failure text of the subject, or the negated one, or an error if it cannot
tell. The text is asked for whatever the verdict is. -/
inductive Finds (judge : Judge σ α) (subject : α) (s : σ) : Bool → Bool → String → σ → Prop
  | failure {verdict : Bool} {text : String} {t u : σ} :
      judge.verdict subject s = .ok (.ok verdict) u →
      judge.failureText subject u = .ok text t → Finds judge subject s true verdict text t
  | negated {verdict : Bool} {text : String} {t u : σ} :
      judge.verdict subject s = .ok (.ok verdict) u →
      judge.negatedText subject u = .ok text t → Finds judge subject s false (!verdict) text t
  | error {positive : Bool} {e : MatchError} {t : σ} :
      judge.verdict subject s = .ok (.error e) t →
      Finds judge subject s positive false ("Error: " ++ e.message) t

/-- A judge unwinds while it is asked about a subject: for the verdict, for the text, or
for a hint, which it is asked for only if the subject does not pass. -/
inductive Raises (judge : Judge σ α) (subject : α) (positive hinting : Bool) (s : σ)
    (payload : Payload) (t : σ) : Prop
  | verdict : judge.verdict subject s = .error payload t →
      Raises judge subject positive hinting s payload t
  | text {verdict : Bool} {u : σ} : judge.verdict subject s = .ok (.ok verdict) u →
      judge.textFor positive subject u = .error payload t →
      Raises judge subject positive hinting s payload t
  | hint {text : String} {u : σ} : hinting = true → judge.Finds subject s positive false text u →
      judge.hint subject u = .error payload t → Raises judge subject positive hinting s payload t

variable {judge : Judge σ α} {subject : α} {positive hinting passed : Bool} {text : String}
  {stop? : Option StopSignal} {e : Evaluation} {payload : Payload} {s t u : σ}

/-- How judging a subject goes on once there is a text. -/
private def hinted (judge : Judge σ α) (subject : α) (hinting : Bool) (stop? : Option StopSignal)
    (passed : Bool) (text : String) : Action σ Evaluation :=
  if hinting && !passed then judge.hint subject >>= fun hint? => return ⟨passed, text, stop?, hint?⟩
  else return ⟨passed, text, stop?, none⟩

private theorem evaluate_of_finds (h : judge.Finds subject s positive passed text u) :
    judge.evaluate positive hinting stop? subject s =
      judge.hinted subject hinting stop? passed text u := by
  unfold evaluate
  cases h with
  | failure hverdict htext =>
      rw [Action.bind_ok hverdict]
      refine (Action.bind_ok htext).trans ?_
      rw [beq_true]
      rfl
  | negated hverdict htext =>
      rw [Action.bind_ok hverdict]
      refine (Action.bind_ok htext).trans ?_
      rw [beq_false]
      rfl
  | error hverdict =>
      rw [Action.bind_ok hverdict]
      rfl

/-- A judge finds something, unless it unwinds first. -/
private theorem finds_or_unwinds (judge : Judge σ α) (subject : α) (positive hinting : Bool)
    (stop? : Option StopSignal) (s : σ) :
    (∃ passed text u, judge.Finds subject s positive passed text u) ∨
      ∃ payload t, judge.Raises subject positive hinting s payload t ∧
        judge.evaluate positive hinting stop? subject s = .error payload t := by
  cases hverdict : judge.verdict subject s with
  | error payload t => exact .inr ⟨payload, t, .verdict hverdict, Action.bind_error hverdict⟩
  | ok answer u =>
      cases answer with
      | error e => exact .inl ⟨_, _, _, .error hverdict⟩
      | ok verdict =>
          cases htext : judge.textFor positive subject u with
          | ok text t =>
              left
              cases positive with
              | true => exact ⟨_, _, _, .failure hverdict htext⟩
              | false => exact ⟨_, _, _, .negated hverdict htext⟩
          | error payload t =>
              refine .inr ⟨payload, t, .text hverdict htext, ?_⟩
              unfold evaluate
              rw [Action.bind_ok hverdict]
              exact Action.bind_error htext

/-- An evaluation says what the judge finds. It keeps the signal, and its hint is one that the
judge gave. -/
theorem finds_of_evaluate (h : judge.evaluate positive hinting stop? subject s = .ok e t) :
    e.stop? = stop? ∧ ∃ u, judge.Finds subject s positive e.passed e.reason u ∧
      ∀ hint, e.hint? = some hint →
        hinting = true ∧ e.passed = false ∧ judge.hint subject u = .ok (some hint) t := by
  rcases finds_or_unwinds judge subject positive hinting stop? s with ⟨passed, text, u, hfinds⟩ |
    ⟨payload, v, _, hunwound⟩
  · rw [evaluate_of_finds hfinds] at h
    unfold hinted at h
    split at h
    · rename_i hasked
      obtain ⟨hint?, v, hhint, hreturn⟩ := Action.bind_eq_ok_iff.1 h
      cases hreturn
      rw [Bool.and_eq_true, Bool.not_eq_true'] at hasked
      refine ⟨rfl, u, hfinds, fun hint heq => ⟨hasked.1, hasked.2, ?_⟩⟩
      have hsome : hint? = some hint := heq
      rw [hhint, hsome]
    · cases h
      exact ⟨rfl, _, hfinds, fun hint heq => by cases heq⟩
  · cases h.symm.trans hunwound

/-- Judging a subject unwinds exactly if the judge does. -/
theorem evaluate_eq_error_iff :
    judge.evaluate positive hinting stop? subject s = .error payload t ↔
      judge.Raises subject positive hinting s payload t := by
  constructor
  · intro h
    rcases finds_or_unwinds judge subject positive hinting stop? s with ⟨passed, text, u, hfinds⟩ |
      ⟨other, v, hraises, hunwound⟩
    · rw [evaluate_of_finds hfinds] at h
      unfold hinted at h
      split at h
      · rename_i hasked
        rw [Bool.and_eq_true, Bool.not_eq_true'] at hasked
        rw [hasked.2] at hfinds
        rcases Action.bind_eq_error_iff.1 h with hhint | ⟨hint?, v, _, hreturn⟩
        · exact .hint hasked.1 hfinds hhint
        · cases hreturn
      · cases h
    · cases h.symm.trans hunwound
      exact hraises
  · intro h
    cases h with
    | verdict hverdict => exact Action.bind_error hverdict
    | text hverdict htext =>
        unfold evaluate
        rw [Action.bind_ok hverdict]
        exact Action.bind_error htext
    | hint hhinting hfinds hhint =>
        rw [evaluate_of_finds hfinds, hhinting]
        exact Action.bind_error hhint

end Judge

/-! ## What a matcher finds -/

namespace Matcher

/-- The judge of outcomes that a matcher has for a probe, which has to return nothing. -/
def outcomes? (matcher : Matcher σ α) (returnsNothing : Bool) : Option (Judge σ CallbackOutcome) :=
  if returnsNothing then matcher.callback else none

end Matcher

namespace Invocation

/-- The stop signal that was returned. -/
def stop? : Invocation → Option StopSignal
  | returned _ _ _ stop? => stop?
  | aborted _ => none
  | interrupted _ => none

/-- The outcome of an attempt that was not interrupted. -/
inductive Outcome : Invocation → CallbackOutcome → Prop
  | returned {value : Datum} {extras : List Extra} {failure? : Option CallbackFailure}
      {stop? : Option StopSignal} :
      Outcome (.returned value extras failure? stop?) (.ofFailure? failure?)
  | aborted {failure? : Option CallbackFailure} :
      Outcome (.aborted failure?) (.ofFailure? failure?)

/-- The errors of an attempt that is judged by its value, found before the value is
looked at. -/
inductive Errs : Invocation → String → Prop
  | failed {value : Datum} {extras : List Extra} {failure : CallbackFailure}
      {stop? : Option StopSignal} :
      Errs (.returned value extras (some failure) stop?) failure.report
  | aborted {failure : CallbackFailure} : Errs (.aborted (some failure)) failure.report
  | nothing : Errs (.aborted none) "probe produced no value"
  /-- The first extra value that is neither zero nor a stop signal. -/
  | unexpected {value : Datum} {before after : List Extra} {extra : Extra}
      {stop? : Option StopSignal} :
      (∀ other ∈ before, other.Expected) → ¬ extra.Expected →
      Errs (.returned value (before ++ extra :: after) none stop?)
        ("Unexpected non-nil/non-zero argument at index " ++ toString (before.length + 1) ++
          ":\n\t<" ++ extra.typeName ++ ">: " ++ extra.text)

section

variable (matcher : Matcher σ Datum) (returnsNothing positive : Bool)

/-- What is found of an attempt: what the matcher finds of its value or of its outcome, or
an error. -/
inductive Finds (s : σ) : Invocation → Bool → String → Prop
  | value {value : Datum} {extras : List Extra} {stop? : Option StopSignal} {passed : Bool}
      {text : String} {t : σ} :
      matcher.outcomes? returnsNothing = none → (∀ extra ∈ extras, extra.Expected) →
      matcher.toJudge.Finds value s positive passed text t →
      Finds s (.returned value extras none stop?) passed text
  | outcome {judge : Judge σ CallbackOutcome} {invocation : Invocation} {outcome : CallbackOutcome}
      {passed : Bool} {text : String} {t : σ} :
      matcher.outcomes? returnsNothing = some judge → invocation.Outcome outcome →
      judge.Finds outcome s positive passed text t → Finds s invocation passed text
  | error {invocation : Invocation} {report : String} :
      matcher.outcomes? returnsNothing = none → invocation.Errs report →
      Finds s invocation false ("Error: " ++ report)

/-- The matcher unwinds while it is asked about an attempt. A judge of outcomes is asked for
no hint. -/
inductive Raises (hinting : Bool) (s : σ) (payload : Payload) (t : σ) : Invocation → Prop
  | value {value : Datum} {extras : List Extra} {stop? : Option StopSignal} :
      matcher.outcomes? returnsNothing = none → (∀ extra ∈ extras, extra.Expected) →
      matcher.toJudge.Raises value positive hinting s payload t →
      Raises hinting s payload t (.returned value extras none stop?)
  | outcome {judge : Judge σ CallbackOutcome} {invocation : Invocation}
      {outcome : CallbackOutcome} :
      matcher.outcomes? returnsNothing = some judge → invocation.Outcome outcome →
      judge.Raises outcome positive false s payload t → Raises hinting s payload t invocation

end

variable [ReasonLog σ] {matcher : Matcher σ Datum} {returnsNothing positive hinting : Bool}
  {invocation : Invocation} {s t : σ} {e : Evaluation} {payload : Payload}

theorem evaluate_of_outcomes {judge : Judge σ CallbackOutcome}
    (h : matcher.outcomes? returnsNothing = some judge) :
    invocation.evaluate matcher returnsNothing positive hinting =
      invocation.evaluateOutcome judge positive := by
  unfold Matcher.outcomes? at h
  cases returnsNothing with
  | false => cases h
  | true =>
      have hcallback : matcher.callback = some judge := h
      unfold evaluate
      rw [hcallback]

theorem evaluate_of_values (h : matcher.outcomes? returnsNothing = none) :
    invocation.evaluate matcher returnsNothing positive hinting =
      invocation.evaluateValue matcher.toJudge positive hinting := by
  unfold Matcher.outcomes? at h
  cases returnsNothing with
  | false => rfl
  | true =>
      have hcallback : matcher.callback = none := h
      unfold evaluate
      rw [hcallback]

/-- An attempt with an error is evaluated without the matcher. -/
theorem evaluateValue_of_errs (judge : Judge σ Datum) (positive hinting : Bool) {report : String}
    (h : invocation.Errs report) (s : σ) :
    ∃ t, invocation.evaluateValue judge positive hinting s =
      .ok (.evaluated (.error report invocation.stop?)) t := by
  cases h with
  | failed => exact ⟨s, rfl⟩
  | aborted => exact ⟨s, rfl⟩
  | nothing => exact ⟨s, rfl⟩
  | @unexpected value before after extra stop? hbefore hextra =>
      have hfound : unexpectedExtra? 0 (before ++ extra :: after) = some (before.length, extra) :=
        unexpectedExtra?_eq_some_iff.2 ⟨before, after, rfl, (Nat.zero_add _).symm, hbefore, hextra⟩
      simp only [evaluateValue, hfound]
      exact ⟨_, rfl⟩

/-- Without an error the matcher is asked about the value. -/
theorem evaluateValue_of_expected {judge : Judge σ Datum} {value : Datum} {extras : List Extra}
    {stop? : Option StopSignal} (h : ∀ extra ∈ extras, extra.Expected) :
    (returned value extras none stop?).evaluateValue judge positive hinting =
      (judge.evaluate positive hinting stop? value >>= fun e => return .evaluated e) := by
  have hnone : unexpectedExtra? 0 extras = none := unexpectedExtra?_eq_none_iff.2 h
  simp only [evaluateValue, hnone]

omit [ReasonLog σ] in
theorem evaluateOutcome_of_outcome (judge : Judge σ CallbackOutcome) (positive : Bool)
    {outcome : CallbackOutcome} (h : invocation.Outcome outcome) :
    invocation.evaluateOutcome judge positive =
      (judge.evaluate positive false invocation.stop? outcome >>= fun e =>
        return .evaluated e) := by
  cases h with
  | returned => rfl
  | aborted => rfl

omit [ReasonLog σ] in
/-- What an attempt is, before it is judged: it was interrupted, or it has an outcome that is
asked about, or it has an error, or it has a value that is asked about. -/
theorem cases_of_matcher (matcher : Matcher σ Datum) (returnsNothing : Bool)
    (invocation : Invocation) :
    (∃ stop, invocation = .interrupted stop) ∨
      (∃ judge outcome, matcher.outcomes? returnsNothing = some judge ∧
        invocation.Outcome outcome) ∨
      matcher.outcomes? returnsNothing = none ∧
        ((∃ report, invocation.Errs report) ∨
          ∃ value extras stop?, invocation = .returned value extras none stop? ∧
            ∀ extra ∈ extras, extra.Expected) := by
  cases invocation with
  | interrupted stop => exact .inl ⟨stop, rfl⟩
  | aborted failure? =>
      right
      cases matcher.outcomes? returnsNothing with
      | some judge => exact .inl ⟨judge, _, rfl, .aborted⟩
      | none =>
          cases failure? with
          | none => exact .inr ⟨rfl, .inl ⟨_, .nothing⟩⟩
          | some failure => exact .inr ⟨rfl, .inl ⟨_, .aborted⟩⟩
  | returned value extras failure? stop? =>
      right
      cases matcher.outcomes? returnsNothing with
      | some judge => exact .inl ⟨judge, _, rfl, .returned⟩
      | none =>
          right
          cases failure? with
          | some failure => exact ⟨rfl, .inl ⟨_, .failed⟩⟩
          | none =>
              cases hextra : unexpectedExtra? 0 extras with
              | none =>
                  exact ⟨rfl, .inr ⟨value, extras, stop?, rfl,
                    unexpectedExtra?_eq_none_iff.1 hextra⟩⟩
              | some found =>
                  obtain ⟨before, after, rfl, _, hbefore, hunexpected⟩ :=
                    unexpectedExtra?_eq_some_iff.1 hextra
                  exact ⟨rfl, .inl ⟨_, .unexpected hbefore hunexpected⟩⟩

/-- An attempt that is evaluated has the verdict and the text that were found of it. It keeps
the signal, and has a hint only if the matcher gave one for its value. -/
theorem finds_of_evaluate
    (h : invocation.evaluate matcher returnsNothing positive hinting s = .ok (.evaluated e) t) :
    e.stop? = invocation.stop? ∧
      invocation.Finds matcher returnsNothing positive s e.passed e.reason ∧
      ∀ hint, e.hint? = some hint → hinting = true ∧ e.passed = false ∧
        ∃ value extras stop? u, invocation = .returned value extras none stop? ∧
          matcher.toJudge.Finds value s positive false e.reason u ∧
          matcher.hint value u = .ok (some hint) t := by
  rcases cases_of_matcher matcher returnsNothing invocation with ⟨stop, rfl⟩ |
    ⟨judge, outcome, houtcomes, houtcome⟩ |
    ⟨houtcomes, ⟨report, herrs⟩ | ⟨value, extras, stop?, rfl, hexpected⟩⟩
  · rw [evaluate_interrupted] at h
    cases h
  · rw [evaluate_of_outcomes houtcomes, evaluateOutcome_of_outcome judge positive houtcome] at h
    obtain ⟨found, u, hjudged, hreturn⟩ := Action.bind_eq_ok_iff.1 h
    cases hreturn
    obtain ⟨hstop, v, hfinds, hhint⟩ := Judge.finds_of_evaluate hjudged
    refine ⟨hstop, .outcome houtcomes houtcome hfinds, fun hint hsome => ?_⟩
    cases (hhint hint hsome).1
  · obtain ⟨u, hevaluated⟩ := evaluateValue_of_errs matcher.toJudge positive hinting herrs s
    rw [evaluate_of_values houtcomes, hevaluated] at h
    cases h
    exact ⟨rfl, .error houtcomes herrs, fun hint hsome => by cases hsome⟩
  · rw [evaluate_of_values houtcomes, evaluateValue_of_expected hexpected] at h
    obtain ⟨found, u, hjudged, hreturn⟩ := Action.bind_eq_ok_iff.1 h
    cases hreturn
    obtain ⟨hstop, v, hfinds, hhint⟩ := Judge.finds_of_evaluate hjudged
    refine ⟨hstop, .value houtcomes hexpected hfinds, fun hint hsome => ?_⟩
    obtain ⟨hhinting, hpassed, hgiven⟩ := hhint hint hsome
    rw [hpassed] at hfinds
    exact ⟨hhinting, hpassed, value, extras, stop?, v, rfl, hfinds, hgiven⟩

/-- Only a raised signal leaves an attempt without an evaluation. -/
theorem interrupted_of_evaluate {stop : StopSignal}
    (h : invocation.evaluate matcher returnsNothing positive hinting s =
      .ok (.interrupted stop) t) : invocation = .interrupted stop ∧ t = s := by
  rcases cases_of_matcher matcher returnsNothing invocation with ⟨other, rfl⟩ |
    ⟨judge, outcome, houtcomes, houtcome⟩ |
    ⟨houtcomes, ⟨report, herrs⟩ | ⟨value, extras, stop?, rfl, hexpected⟩⟩
  · rw [evaluate_interrupted] at h
    cases h
    exact ⟨rfl, rfl⟩
  · rw [evaluate_of_outcomes houtcomes, evaluateOutcome_of_outcome judge positive houtcome] at h
    obtain ⟨found, u, _, hreturn⟩ := Action.bind_eq_ok_iff.1 h
    cases hreturn
  · obtain ⟨u, hevaluated⟩ := evaluateValue_of_errs matcher.toJudge positive hinting herrs s
    rw [evaluate_of_values houtcomes, hevaluated] at h
    cases h
  · rw [evaluate_of_values houtcomes, evaluateValue_of_expected hexpected] at h
    obtain ⟨found, u, _, hreturn⟩ := Action.bind_eq_ok_iff.1 h
    cases hreturn

omit [ReasonLog σ] in
/-- Entering the result of an action as an evaluation does not unwind. -/
private theorem unwound_iff {x : Action σ Evaluation} :
    (x >>= fun e => return Judgement.evaluated e) s = .error payload t ↔ x s = .error payload t := by
  rw [Action.bind_eq_error_iff]
  constructor
  · rintro (hunwound | ⟨e, u, _, hreturn⟩)
    · exact hunwound
    · cases hreturn
  · exact .inl

/-- Judging an attempt unwinds exactly if the matcher does. -/
theorem evaluate_eq_error_iff :
    invocation.evaluate matcher returnsNothing positive hinting s = .error payload t ↔
      invocation.Raises matcher returnsNothing positive hinting s payload t := by
  constructor
  · intro h
    rcases cases_of_matcher matcher returnsNothing invocation with ⟨stop, rfl⟩ |
      ⟨judge, outcome, houtcomes, houtcome⟩ |
      ⟨houtcomes, ⟨report, herrs⟩ | ⟨value, extras, stop?, rfl, hexpected⟩⟩
    · rw [evaluate_interrupted] at h
      cases h
    · rw [evaluate_of_outcomes houtcomes, evaluateOutcome_of_outcome judge positive houtcome,
        unwound_iff, Judge.evaluate_eq_error_iff] at h
      exact .outcome houtcomes houtcome h
    · obtain ⟨u, hevaluated⟩ := evaluateValue_of_errs matcher.toJudge positive hinting herrs s
      rw [evaluate_of_values houtcomes, hevaluated] at h
      cases h
    · rw [evaluate_of_values houtcomes, evaluateValue_of_expected hexpected, unwound_iff,
        Judge.evaluate_eq_error_iff] at h
      exact .value houtcomes hexpected h
  · intro h
    cases h with
    | value houtcomes hexpected hraises =>
        rw [evaluate_of_values houtcomes, evaluateValue_of_expected hexpected, unwound_iff]
        exact Judge.evaluate_eq_error_iff.2 hraises
    | @outcome judge _ outcome houtcomes houtcome hraises =>
        rw [evaluate_of_outcomes houtcomes, evaluateOutcome_of_outcome judge positive houtcome,
          unwound_iff]
        exact Judge.evaluate_eq_error_iff.2 hraises

end Invocation

end

/-! ## What an attempt finds -/

namespace Assertion

variable {σ : Type} [HasCheckers σ]

/-- An attempt that is made in a world finds whether the assertion holds, with a text. -/
inductive Finds (assertion : Assertion σ) (v : σ) (passed : Bool) (text : String) : Prop
  | intro {invocation : Invocation} {u : σ} :
      assertion.probe.Produces assertion.kind assertion.settings v invocation u →
      invocation.Finds assertion.matcher assertion.probe.returnsNothing assertion.positive u passed
        text →
      Finds assertion v passed text

/-- An attempt that is made in a world and does not pass is given a hint by the matcher. Only
an *eventually* assertion on an observed value is. -/
inductive Hints (assertion : Assertion σ) (v : σ) (hint : String) : Prop
  | intro {datum : Datum} {text : String} {u w : σ} :
      assertion.kind = .eventually → assertion.probe = .observed datum →
      assertion.matcher.toJudge.Finds datum v assertion.positive false text u →
      assertion.matcher.hint datum u = .ok (some hint) w → Hints assertion v hint

/-- The matcher of an assertion unwinds while it is asked about an attempt that was made in a
world. -/
inductive MatcherRaises (assertion : Assertion σ) (v : σ) (payload : Payload) (t : σ) : Prop
  | intro {invocation : Invocation} {u : σ} :
      assertion.probe.Produces assertion.kind assertion.settings v invocation u →
      invocation.Raises assertion.matcher assertion.probe.returnsNothing assertion.positive
        assertion.wantsHints u payload t →
      MatcherRaises assertion v payload t

/-- What an evaluation says of an attempt that was made in a world: what it found, the stop
signal that the function returned, and the hint that the matcher gave. -/
structure Evaluates (assertion : Assertion σ) (v : σ) (e : Evaluation) : Prop where
  finds : assertion.Finds v e.passed e.reason
  stop : ∀ stop, e.stop? = some stop → ∃ out u,
    assertion.probe.Calls assertion.kind assertion.settings v (.ok out u) ∧ out.Signals stop
  hint : ∀ hint, e.hint? = some hint → assertion.Hints v hint

omit [HasCheckers σ] in
theorem wantsHints_iff {assertion : Assertion σ} :
    assertion.wantsHints = true ↔
      assertion.kind = .eventually ∧ ∃ datum, assertion.probe = .observed datum := by
  unfold wantsHints
  rw [Bool.and_eq_true, beq_iff_eq]
  cases assertion.probe with
  | observed datum => simp [Probe.isObserved]
  | function shape checker body => simp [Probe.isObserved]

variable [ReasonLog σ] {assertion : Assertion σ} {v t : σ} {e : Evaluation} {payload : Payload}

/-- An attempt that comes to a judgement has produced something, which was judged. -/
theorem judged_of_attempt {judgement : Judgement}
    (h : assertion.attempt v = .ok (.ok judgement) t) :
    ∃ invocation u, assertion.probe.Produces assertion.kind assertion.settings v invocation u ∧
      invocation.evaluate assertion.matcher assertion.probe.returnsNothing assertion.positive
        assertion.wantsHints u = .ok judgement t := by
  obtain ⟨answer, u, hinvoke, hrest⟩ := Action.bind_eq_ok_iff.1 h
  cases answer with
  | error refusal => cases hrest
  | ok invocation =>
      obtain ⟨_, w, hevaluate, hreturn⟩ := Action.bind_eq_ok_iff.1 hrest
      cases hreturn
      exact ⟨invocation, u, Probe.produces_of_invoke hinvoke, hevaluate⟩

/-- The evaluation of an attempt says what happened in it. -/
theorem evaluates_of_attempt (h : assertion.attempt v = .ok (.ok (.evaluated e)) t) :
    assertion.Evaluates v e := by
  obtain ⟨invocation, u, hproduces, hevaluate⟩ := judged_of_attempt h
  obtain ⟨hstop, hfinds, hhint⟩ := Invocation.finds_of_evaluate hevaluate
  refine ⟨.intro hproduces hfinds, fun stop hsome => ?_, fun hint hsome => ?_⟩
  · rw [hstop] at hsome
    -- only a function returns signals
    generalize hprobe : assertion.probe = probe at hproduces
    cases hproduces with
    | observed => cases hsome
    | returned hfilled hbody =>
        exact ⟨_, _, ⟨_, _, _, _, rfl, hfilled, hbody⟩, Output.signal?_eq_some_iff.1 hsome⟩
    | aborted _ _ => cases hsome
    | interrupted _ _ => cases hsome
  · obtain ⟨hhinting, _, value, extras, stop?, w, rfl, hfound, hgiven⟩ := hhint hint hsome
    obtain ⟨hkind, datum, hobserved⟩ := wantsHints_iff.1 hhinting
    rw [hobserved] at hproduces
    cases hproduces with
    | observed => exact .intro hkind hobserved hfound hgiven

/-- An attempt that is interrupted is one in which the function raised the signal. -/
theorem calls_of_interrupted {stop : StopSignal}
    (h : assertion.attempt v = .ok (.ok (.interrupted stop)) t) :
    assertion.probe.Calls assertion.kind assertion.settings v (.error (.stop stop) t) := by
  obtain ⟨invocation, u, hproduces, hevaluate⟩ := judged_of_attempt h
  obtain ⟨rfl, rfl⟩ := Invocation.interrupted_of_evaluate hevaluate
  generalize hprobe : assertion.probe = probe at hproduces
  cases hproduces with
  | interrupted hfilled hbody => exact ⟨_, _, _, _, rfl, hfilled, hbody⟩

/-- An attempt unwinds exactly with a message of the function that is called, or with what the
matcher unwinds with. -/
theorem attempt_eq_error_iff :
    assertion.attempt v = .error payload t ↔
      (∃ text, payload = .message text ∧ assertion.probe.Calls assertion.kind assertion.settings v
        (.error (.message text) t)) ∨
      assertion.MatcherRaises v payload t := by
  constructor
  · intro h
    rcases Action.bind_eq_error_iff.1 h with hinvoke | ⟨answer, u, hinvoke, hrest⟩
    · exact .inl (Probe.invoke_eq_error_iff.1 hinvoke)
    · right
      cases answer with
      | error refusal => cases hrest
      | ok invocation =>
          rcases Action.bind_eq_error_iff.1 hrest with hevaluate | ⟨judgement, w, _, hreturn⟩
          · exact .intro (Probe.produces_of_invoke hinvoke)
              (Invocation.evaluate_eq_error_iff.1 hevaluate)
          · cases hreturn
  · rintro (hmessage | hraises)
    · exact Action.bind_error (Probe.invoke_eq_error_iff.2 hmessage)
    · cases hraises with
      | intro hproduces hraises =>
          unfold attempt
          rw [Action.bind_ok hproduces.invoke]
          exact Action.bind_error (Invocation.evaluate_eq_error_iff.2 hraises)

end Assertion

end PollingAssertions
