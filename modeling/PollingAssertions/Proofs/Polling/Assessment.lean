import PollingAssertions.Matcher.Outcome
import PollingAssertions.Proofs.Polling.Judging
import PollingAssertions.Session.World

/-!
# Which attempts pass

A matcher is pure if what it says of a subject is the same in every world, and if it always
says something. With such a matcher the judgement on an attempt depends on nothing but what the
probe produced. Either there is an error, and then the attempt passes in neither direction; or
the matcher gives an answer, and then it passes in exactly one of the two.

## Main definitions

* `Judge.Answers`, `Matcher.Answers` — what a pure judge says of each subject, and what a pure
  matcher says of each value and each outcome.
* `Invocation.failure?`, `Invocation.value?`, `Invocation.extras` — what an attempt produced.
* `Invocation.Meets`, `Invocation.Faulty` — an attempt has the wanted answer, or is an error.

## Main results

* `Invocation.faulty_iff` — an attempt is an error, or it has one of the two answers.
* `Invocation.exists_judgement` — an attempt passes as its answer says.
* `Invocation.evaluate_decides` — which attempts pass in which direction.
-/

namespace PollingAssertions

/-! ## Pure matchers -/

section

variable {σ α β : Type}

/-- A judge is pure and says this of each subject, in whichever world. -/
structure Judge.Answers (judge : Judge σ α) (answer : α → Except MatchError Bool) : Prop where
  verdict : ∀ a, (judge.verdict a).Gives (· = answer a)
  neverUnwinds : judge.NeverUnwinds

/-- A matcher is pure and says this of each subject, and this of each outcome if it judges
outcomes. -/
structure Matcher.Answers (matcher : Matcher σ α) (answer : α → Except MatchError Bool)
    (verdict : CallbackOutcome → Except MatchError Bool) : Prop where
  subjects : matcher.toJudge.Answers answer
  outcomes : ∀ judge, matcher.callback = some judge → judge.Answers verdict

theorem Judge.NeverUnwinds.comap {judge : Judge σ α} (h : judge.NeverUnwinds) (f : β → α) :
    (judge.comap f).NeverUnwinds where
  verdict b := h.verdict (f b)
  failureText b := h.failureText (f b)
  negatedText b := h.negatedText (f b)
  hint b := h.hint (f b)

/-- What a judge finds passes exactly if its verdict is the one that is wanted. -/
theorem Judge.Finds.passed_iff {judge : Judge σ α} {subject : α} {positive passed : Bool}
    {text : String} {s t : σ} (h : judge.Finds subject s positive passed text t) :
    passed = true ↔ ∃ u, judge.verdict subject s = .ok (.ok positive) u := by
  cases h with
  | failure hverdict _ => simp [hverdict]
  | negated hverdict _ => simp [hverdict]
  | error hverdict => simp [hverdict]

namespace Judge.Answers

variable {judge : Judge σ α} {answer : α → Except MatchError Bool} {subject : α}
  {positive passed : Bool} {text : String} {s t : σ}

theorem comap (h : judge.Answers answer) (f : β → α) : (judge.comap f).Answers fun b =>
    answer (f b) where
  verdict b := h.verdict (f b)
  neverUnwinds := h.neverUnwinds.comap f

/-- What a pure judge finds passes exactly if its answer is the one that is wanted. -/
theorem passed_iff (h : judge.Answers answer)
    (hfinds : judge.Finds subject s positive passed text t) :
    passed = true ↔ answer subject = .ok positive := by
  obtain ⟨said, u, hsaid, rfl⟩ := h.verdict subject s
  rw [hfinds.passed_iff, hsaid]
  simp

/-- Judging a subject comes to an evaluation, as the answer says. -/
theorem evaluate (h : judge.Answers answer) (positive hinting : Bool) (stop? : Option StopSignal)
    (subject : α) : (judge.evaluate positive hinting stop? subject).Gives fun e =>
      e.passed = true ↔ answer subject = .ok positive := by
  intro s
  obtain ⟨e, t, hevaluate, _⟩ := h.neverUnwinds.evaluate positive hinting stop? subject s
  obtain ⟨_, u, hfinds, _⟩ := Judge.finds_of_evaluate hevaluate
  exact ⟨e, t, hevaluate, h.passed_iff hfinds⟩

end Judge.Answers

end

theorem Matcher.Answers.of_outcomes {σ α : Type} {matcher : Matcher σ α} {returnsNothing : Bool}
    {judge : Judge σ CallbackOutcome} {answer : α → Except MatchError Bool}
    {verdict : CallbackOutcome → Except MatchError Bool} (h : matcher.Answers answer verdict)
    (houtcomes : matcher.outcomes? returnsNothing = some judge) : judge.Answers verdict := by
  unfold Matcher.outcomes? at houtcomes
  split at houtcomes
  · exact h.outcomes judge houtcomes
  · cases houtcomes

/-! ## What an attempt produced -/

/-- A value is expected as an extra value if it is zero or a stop signal. -/
theorem Extra.expected_ofDatum {datum : Datum} : (Extra.ofDatum datum).Expected ↔
    datum.value.isZero = true ∨ ∃ stop, datum.Carries stop := by
  unfold Expected
  rw [Option.isSome_iff_exists]
  exact or_congr_right (exists_congr fun stop => Datum.signal?_eq_some_iff)

namespace Invocation

/-- The failed expectation that was recorded in an attempt. -/
def failure? : Invocation → Option CallbackFailure
  | returned _ _ failure? _ => failure?
  | aborted failure? => failure?
  | interrupted _ => none

/-- The value that was returned. -/
def value? : Invocation → Option Datum
  | returned value _ _ _ => some value
  | aborted _ => none
  | interrupted _ => none

/-- The extra values that were returned. -/
def extras : Invocation → List Extra
  | returned _ extras _ _ => extras
  | aborted _ => []
  | interrupted _ => []

/-- A stop signal was raised in an attempt. -/
def Interrupted (invocation : Invocation) : Prop := ∃ stop, invocation = .interrupted stop

section

variable {σ : Type} (matcher : Matcher σ Datum) (returnsNothing : Bool)
  (answer : Datum → Except MatchError Bool) (verdict : CallbackOutcome → Except MatchError Bool)

/-- An attempt has the wanted answer: for its outcome, if the matcher judges that; and else for
its value, where no expectation has failed and each extra value is zero or a stop signal. -/
def Meets (wanted : Bool) (invocation : Invocation) : Prop :=
  if (matcher.outcomes? returnsNothing).isSome = true then
    verdict (.ofFailure? invocation.failure?) = .ok wanted
  else
    invocation.failure? = none ∧ (∀ extra ∈ invocation.extras, extra.Expected) ∧
      ∃ value, invocation.value? = some value ∧ answer value = .ok wanted

/-- An attempt is an error: the matcher cannot judge the outcome. Where it does not judge
outcomes: an expectation of the probe has failed, there is no value, there is an extra value
that is neither zero nor a stop signal, or the matcher cannot judge the value. -/
def Faulty (invocation : Invocation) : Prop :=
  if (matcher.outcomes? returnsNothing).isSome = true then
    ∃ e, verdict (.ofFailure? invocation.failure?) = .error e
  else
    invocation.failure?.isSome = true ∨ invocation.value? = none ∨
      (∃ extra ∈ invocation.extras, ¬ extra.Expected) ∨
      ∃ value e, invocation.value? = some value ∧ answer value = .error e

variable {matcher returnsNothing answer verdict} {invocation : Invocation} {wanted : Bool}

/-- An attempt does not have both answers. -/
theorem Meets.unique (h : invocation.Meets matcher returnsNothing answer verdict true) :
    ¬ invocation.Meets matcher returnsNothing answer verdict false := by
  unfold Meets at h ⊢
  split at h
  · rw [if_pos ‹_›, h]
    simp
  · rw [if_neg ‹_›]
    rintro ⟨-, -, value, hvalue, hfalse⟩
    obtain ⟨-, -, value', hvalue', htrue⟩ := h
    cases hvalue.symm.trans hvalue'
    cases hfalse.symm.trans htrue

theorem Faulty.not_meets (h : invocation.Faulty matcher returnsNothing answer verdict) :
    ¬ invocation.Meets matcher returnsNothing answer verdict wanted := by
  unfold Faulty at h
  unfold Meets
  split at h
  · obtain ⟨e, herror⟩ := h
    rw [if_pos ‹_›, herror]
    simp
  · rw [if_neg ‹_›]
    rintro ⟨hnone, hexpected, value, hvalue, hanswer⟩
    rcases h with hfailed | hmissing | ⟨extra, hmem, hunexpected⟩ | ⟨value', e, hvalue', herror⟩
    · simp [hnone] at hfailed
    · cases hvalue.symm.trans hmissing
    · exact hunexpected (hexpected extra hmem)
    · cases hvalue.symm.trans hvalue'
      cases hanswer.symm.trans herror

/-- An attempt that is no error has an answer. -/
theorem faulty_or_meets (matcher : Matcher σ Datum) (returnsNothing : Bool)
    (answer : Datum → Except MatchError Bool) (verdict : CallbackOutcome → Except MatchError Bool)
    (invocation : Invocation) : invocation.Faulty matcher returnsNothing answer verdict ∨
      ∃ wanted, invocation.Meets matcher returnsNothing answer verdict wanted := by
  unfold Faulty Meets
  split
  · cases verdict (.ofFailure? invocation.failure?) with
    | error e => exact .inl ⟨e, rfl⟩
    | ok wanted => exact .inr ⟨wanted, rfl⟩
  · cases invocation.failure? with
    | some failure => exact .inl (.inl rfl)
    | none =>
        cases invocation.value? with
        | none => exact .inl (.inr (.inl rfl))
        | some value =>
            by_cases hexpected : ∀ extra ∈ invocation.extras, extra.Expected
            · cases hanswer : answer value with
              | error e => exact .inl (.inr (.inr (.inr ⟨value, e, rfl, hanswer⟩)))
              | ok wanted => exact .inr ⟨wanted, rfl, hexpected, value, rfl, hanswer⟩
            · have hunexpected : ∃ extra ∈ invocation.extras, ¬ extra.Expected := by
                simpa using hexpected
              exact .inl (.inr (.inr (.inl hunexpected)))

/-- An attempt is an error exactly if it has neither of the two answers. -/
theorem faulty_iff : invocation.Faulty matcher returnsNothing answer verdict ↔
    ¬ invocation.Meets matcher returnsNothing answer verdict true ∧
      ¬ invocation.Meets matcher returnsNothing answer verdict false := by
  constructor
  · intro h
    exact ⟨h.not_meets, h.not_meets⟩
  · rintro ⟨htrue, hfalse⟩
    rcases faulty_or_meets matcher returnsNothing answer verdict invocation with h | ⟨wanted, h⟩
    · exact h
    · cases wanted with
      | true => exact absurd h htrue
      | false => exact absurd h hfalse

theorem meets_of_outcome {judge : Judge σ CallbackOutcome} {outcome : CallbackOutcome}
    (houtcomes : matcher.outcomes? returnsNothing = some judge)
    (houtcome : invocation.Outcome outcome) :
    invocation.Meets matcher returnsNothing answer verdict wanted ↔
      verdict outcome = .ok wanted := by
  unfold Meets
  rw [if_pos (Option.isSome_of_eq_some houtcomes)]
  cases houtcome <;> rfl

theorem meets_of_value {value : Datum} {extras : List Extra} {stop? : Option StopSignal}
    (houtcomes : matcher.outcomes? returnsNothing = none)
    (hexpected : ∀ extra ∈ extras, extra.Expected) :
    (returned value extras none stop?).Meets matcher returnsNothing answer verdict wanted ↔
      answer value = .ok wanted := by
  unfold Meets
  rw [if_neg (by simp [houtcomes])]
  constructor
  · rintro ⟨-, -, value', hvalue, hanswer⟩
    cases hvalue
    exact hanswer
  · intro hanswer
    exact ⟨rfl, hexpected, value, rfl, hanswer⟩

/-- An error that is found before the matcher is asked is an error. -/
theorem Errs.faulty {report : String} (h : invocation.Errs report)
    (houtcomes : matcher.outcomes? returnsNothing = none) :
    invocation.Faulty matcher returnsNothing answer verdict := by
  unfold Faulty
  rw [if_neg (by simp [houtcomes])]
  cases h with
  | failed => exact .inl rfl
  | aborted => exact .inl rfl
  | nothing => exact .inr (.inl rfl)
  | unexpected _ hunexpected =>
      exact .inr (.inr (.inl ⟨_, List.mem_append_right _ List.mem_cons_self, hunexpected⟩))

end

end Invocation

/-! ## Which attempts pass -/

/-- An attempt was evaluated and has passed. -/
def Judgement.Passes (judgement : Judgement) : Prop :=
  ∃ e, judgement = .evaluated e ∧ e.passed = true

theorem Judgement.passes_evaluated {e : Evaluation} :
    (Judgement.evaluated e).Passes ↔ e.passed = true := by
  constructor
  · rintro ⟨e', heq, hpassed⟩
    cases heq
    exact hpassed
  · intro hpassed
    exact ⟨e, rfl, hpassed⟩

namespace Invocation

variable {σ : Type} [ReasonLog σ] {matcher : Matcher σ Datum}
  {answer : Datum → Except MatchError Bool} {verdict : CallbackOutcome → Except MatchError Bool}

/-- An attempt comes to a judgement, and passes if it was not interrupted and has the wanted
answer. -/
theorem exists_judgement (h : matcher.Answers answer verdict)
    (returnsNothing positive hinting : Bool) (invocation : Invocation) :
    (invocation.evaluate matcher returnsNothing positive hinting).Gives fun judgement =>
      judgement.Passes ↔ ¬ invocation.Interrupted ∧
        invocation.Meets matcher returnsNothing answer verdict positive := by
  rcases cases_of_matcher matcher returnsNothing invocation with ⟨stop, rfl⟩ |
    ⟨judge, outcome, houtcomes, houtcome⟩ |
    ⟨houtcomes, ⟨report, herrs⟩ | ⟨value, extras, stop?, rfl, hexpected⟩⟩
  · rw [evaluate_interrupted]
    refine .pure ⟨fun hpasses => ?_, fun hnot => absurd ⟨stop, rfl⟩ hnot.1⟩
    obtain ⟨e, heq, _⟩ := hpasses
    cases heq
  · rw [evaluate_of_outcomes houtcomes, evaluateOutcome_of_outcome judge positive houtcome]
    have huninterrupted : ¬ invocation.Interrupted := by
      rintro ⟨stop, rfl⟩
      cases houtcome
    refine .bind ((h.of_outcomes houtcomes).evaluate positive false invocation.stop? outcome)
      fun e he => .pure ?_
    rw [Judgement.passes_evaluated, he, meets_of_outcome houtcomes houtcome]
    simp [huninterrupted]
  · intro s
    obtain ⟨t, hevaluated⟩ := evaluateValue_of_errs matcher.toJudge positive hinting herrs s
    rw [evaluate_of_values houtcomes]
    refine ⟨_, t, hevaluated, ?_⟩
    have hfaulty : ¬ invocation.Meets matcher returnsNothing answer verdict positive :=
      (herrs.faulty houtcomes).not_meets
    constructor
    · intro hpasses
      cases Judgement.passes_evaluated.1 hpasses
    · intro hmeets
      exact absurd hmeets.2 hfaulty
  · rw [evaluate_of_values houtcomes, evaluateValue_of_expected hexpected]
    have huninterrupted : ¬ (returned value extras none stop?).Interrupted := by
      rintro ⟨stop, heq⟩
      cases heq
    refine .bind (h.subjects.evaluate positive hinting stop? value) fun e he => .pure ?_
    rw [Judgement.passes_evaluated, he, meets_of_value houtcomes hexpected]
    simp [huninterrupted]

/-- With a pure matcher an attempt passes, in a direction, exactly if it was not interrupted and
has the wanted answer. If it was not interrupted it does not pass in both directions, and in
neither exactly if it is an error. An extra value that is neither zero nor a stop signal is such
an error, and the first one is reported with its index, counted from one, its type and its
text. -/
theorem evaluate_decides (h : matcher.Answers answer verdict) (returnsNothing : Bool)
    (invocation : Invocation) :
    (∀ positive hinting s, ∃ judgement t,
        invocation.evaluate matcher returnsNothing positive hinting s = .ok judgement t ∧
          (judgement.Passes ↔ ¬ invocation.Interrupted ∧
            invocation.Meets matcher returnsNothing answer verdict positive)) ∧
      (¬ invocation.Interrupted → ∀ hinting hinting' s s' judgement judgement' t t',
        invocation.evaluate matcher returnsNothing true hinting s = .ok judgement t →
        invocation.evaluate matcher returnsNothing false hinting' s' = .ok judgement' t' →
        ¬ (judgement.Passes ∧ judgement'.Passes) ∧
          (¬ judgement.Passes ∧ ¬ judgement'.Passes ↔
            invocation.Faulty matcher returnsNothing answer verdict)) ∧
      (matcher.outcomes? returnsNothing = none → invocation.failure? = none →
        (∃ extra ∈ invocation.extras, ¬ extra.Expected) →
        ∃ before extra after, invocation.extras = before ++ extra :: after ∧
          (∀ other ∈ before, other.Expected) ∧ ¬ extra.Expected ∧
          ∀ positive hinting s, ∃ t,
            invocation.evaluate matcher returnsNothing positive hinting s =
              .ok (.evaluated (.error ("Unexpected non-nil/non-zero argument at index " ++
                toString (before.length + 1) ++ ":\n\t<" ++ extra.typeName ++ ">: " ++ extra.text)
                invocation.stop?)) t) := by
  have hgives := fun positive hinting s =>
    exists_judgement h returnsNothing positive hinting invocation s
  refine ⟨hgives, fun huninterrupted => ?_, fun houtcomes hnone hunexpected => ?_⟩
  · intro hinting hinting' s s' judgement judgement' t t' htrue hfalse
    obtain ⟨one, u, hone, hpasses⟩ := hgives true hinting s
    cases htrue.symm.trans hone
    obtain ⟨other, u', hother, hpasses'⟩ := hgives false hinting' s'
    cases hfalse.symm.trans hother
    rw [hpasses, hpasses', faulty_iff]
    simp only [huninterrupted, not_false_eq_true, true_and, and_true]
    exact fun hboth => hboth.1.unique hboth.2
  · obtain ⟨extra, hmem, hextra⟩ := hunexpected
    cases invocation with
    | aborted failure? => cases hmem
    | interrupted stop => cases hmem
    | returned value extras failure? stop? =>
        cases hnone
        cases hfound : unexpectedExtra? 0 extras with
        | none => exact absurd (unexpectedExtra?_eq_none_iff.1 hfound extra hmem) hextra
        | some found =>
            obtain ⟨before, after, rfl, _, hbefore, hfirst⟩ := unexpectedExtra?_eq_some_iff.1 hfound
            refine ⟨before, found.2, after, rfl, hbefore, hfirst, fun positive hinting s => ?_⟩
            rw [evaluate_of_values houtcomes]
            exact evaluateValue_of_errs matcher.toJudge positive hinting
              (.unexpected hbefore hfirst) s

end Invocation

/-! ## Success and failure -/

section

variable {σ : Type} [ReasonLog σ]

theorem ReasonLog.ask_returns (reasons : List String) :
    (ask reasons : Action σ Unit).Returns := fun _ => ⟨(), _, rfl, trivial⟩

/-- The judge of successes is pure. -/
theorem Judge.succeeds_answers :
    (succeeds : Judge σ Datum).Answers fun subject => .ok subject.failure?.isNone where
  verdict _ := .pure rfl
  neverUnwinds := by
    refine ⟨fun _ => .pure trivial, fun subject => ?_, fun _ => .pure trivial,
      fun _ => .pure trivial⟩
    unfold succeeds
    dsimp only
    split
    · exact .bind (ReasonLog.ask_returns _) fun _ _ => .pure trivial
    · exact .bind (ReasonLog.ask_returns _) fun _ _ => .pure trivial
    · exact .pure trivial

theorem Matcher.succeeds_answers : (succeeds : Matcher σ Datum).Answers
    (fun subject => .ok subject.failure?.isNone) fun outcome => .ok outcome.failure?.isNone where
  subjects := Judge.succeeds_answers
  outcomes judge hjudge := by
    cases hjudge
    have hsame : (fun outcome : CallbackOutcome =>
        (.ok (Datum.ofOutcome outcome).failure?.isNone : Except MatchError Bool)) =
        fun outcome => .ok outcome.failure?.isNone := by
      funext outcome
      cases outcome <;> rfl
    rw [← hsame]
    exact Judge.succeeds_answers.comap Datum.ofOutcome

end

/-- That a probe should not succeed passes if one of its expectations failed. A probe that
returns a value and two extra values, of which the second is not expected, is an error. -/
theorem Invocation.evaluate_decides_succeeds :
    (∃ judgement t, (aborted (some ⟨"no", "lib.rs", 3⟩)).evaluate Matcher.succeeds true false false
        (Session.World.starting 0) = .ok judgement t ∧ judgement.Passes) ∧
      ∃ t, (returned (.ofString "on") [⟨true, "u8", "0", [], none⟩, ⟨false, "u8", "7", [], none⟩]
          none none).evaluate Matcher.succeeds false true false (Session.World.starting 0) =
        .ok (.evaluated (.error
          "Unexpected non-nil/non-zero argument at index 2:\n\t<u8>: 7" none)) t := by
  constructor
  · obtain ⟨hgives, -, -⟩ := evaluate_decides (σ := Session.World) Matcher.succeeds_answers true
      (aborted (some ⟨"no", "lib.rs", 3⟩))
    obtain ⟨judgement, t, hevaluated, hpasses⟩ := hgives false false (Session.World.starting 0)
    refine ⟨judgement, t, hevaluated, hpasses.2 ⟨?_, rfl⟩⟩
    rintro ⟨stop, heq⟩
    cases heq
  · have hzero : Extra.Expected ⟨true, "u8", "0", [], none⟩ := .inl rfl
    have hseven : ¬ Extra.Expected ⟨false, "u8", "7", [], none⟩ := by simp [Extra.Expected]
    obtain ⟨-, -, hreported⟩ := evaluate_decides (σ := Session.World) Matcher.succeeds_answers false
      (returned (.ofString "on") [⟨true, "u8", "0", [], none⟩, ⟨false, "u8", "7", [], none⟩]
        none none)
    obtain ⟨before, extra, after, hextras, hbefore, hextra, hevaluated⟩ :=
      hreported rfl rfl ⟨_, List.mem_cons_of_mem _ List.mem_cons_self, hseven⟩
    -- the zero is expected, so the seven is the first one that is not
    rcases before with _ | ⟨first, _ | ⟨second, before⟩⟩
    · cases hextras
      exact absurd hzero hextra
    · cases hextras
      exact hevaluated true false (Session.World.starting 0)
    · simp [extras] at hextras

end PollingAssertions
