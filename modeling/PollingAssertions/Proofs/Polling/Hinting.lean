import PollingAssertions.Proofs.Channel.Traffic
import PollingAssertions.Proofs.Polling.Judging
import PollingAssertions.Proofs.Polling.Parting

/-!
# What hints change

A matcher may say of a subject that its verdict can never change again. It is asked for
such a hint in *eventually* runs on an observed value, after an attempt that has not
passed; one that is given ends the run. Otherwise a hint changes nothing, provided that
asking for it does not: the run is the same as with a matcher that gives no hints.

## Main definitions

* `Judge.unhinted`, `Assertion.unaided` — a judge without hints, and an assertion
  whose matcher has neither hints nor a judge of outcomes.
* `Judge.HintsPlainly` — asking for a hint gives one or changes nothing.
* `Judge.assess`, `Judge.explain` — an evaluation in two steps.

## Main results

* `Judge.evaluate_eq` — evaluating is assessing and then explaining.
* `Invocation.evaluateValue_cases` — an attempt is judged without the judge, or is
  evaluated by it.
* `Poller.run_eq_or_hinted` — runs whose attempts differ by hints only.
* `Assertion.attempt_observed` — attempts at a value that is observed.
* `Assertion.attempt_unaided`, `Poller.run_unaided_or` — attempts and runs without hints.
-/

namespace PollingAssertions

variable {σ α : Type}

/-! ## Judges -/

namespace Judge

/-- The same judge, without hints. -/
def unhinted (judge : Judge σ α) : Judge σ α := { judge with hint := fun _ => pure none }

/-- Whoever asks the judge for a hint is given one, or nothing happens. -/
def HintsPlainly (judge : Judge σ α) : Prop :=
  ∀ subject s, judge.hint subject s = .ok none s ∨
    ∃ text t, judge.hint subject s = .ok (some text) t

/-- Whether a subject passes, and the text for it. -/
def assess (judge : Judge σ α) (positive : Bool) (subject : α) : Action σ (Bool × String) := do
  match ← judge.verdict subject with
  | .ok verdict => do
      let reason ← judge.textFor positive subject
      pure (verdict == positive, reason)
  | .error e => pure (false, "Error: " ++ e.message)

variable {judge : Judge σ α} {positive hinting : Bool} {stop? : Option StopSignal} {subject : α}

/-- An evaluation of what a judge has said, for which it may be asked for a hint. -/
def explain (judge : Judge σ α) (hinting : Bool) (stop? : Option StopSignal) (subject : α)
    (said : Bool × String) : Action σ Evaluation :=
  if hinting && !said.1 then
    judge.hint subject >>= fun hint? => return ⟨said.1, said.2, stop?, hint?⟩
  else return ⟨said.1, said.2, stop?, none⟩

theorem evaluate_eq (judge : Judge σ α) (positive hinting : Bool) (stop? : Option StopSignal)
    (subject : α) :
    judge.evaluate positive hinting stop? subject =
      (judge.assess positive subject >>= judge.explain hinting stop? subject) := by
  funext s
  unfold evaluate assess
  rw [bind_assoc]
  cases hverdict : judge.verdict subject s with
  | error payload t => rw [Action.bind_error hverdict, Action.bind_error hverdict]
  | ok answer t =>
      rw [Action.bind_ok hverdict, Action.bind_ok hverdict]
      cases answer with
      | error e => rfl
      | ok verdict =>
          cases htext : judge.textFor positive subject t with
          | error payload u =>
              rw [bind_assoc, Action.bind_error htext]
              exact Action.bind_error htext
          | ok text u =>
              rw [bind_assoc, Action.bind_ok htext]
              exact Action.bind_ok htext

/-- Where a hint is neither wanted nor needed, it makes no difference to be without. -/
theorem evaluate_unhinted (judge : Judge σ α) (positive : Bool) (stop? : Option StopSignal)
    (subject : α) :
    judge.unhinted.evaluate positive false stop? subject =
      judge.evaluate positive false stop? subject := by
  rw [evaluate_eq, evaluate_eq]
  rfl

/-- If a judge hints plainly, it evaluates a subject with a hint or just as it does
without hints. -/
theorem evaluate_unhinted_or (h : judge.HintsPlainly) (positive : Bool)
    (stop? : Option StopSignal) (subject : α) (s : σ) :
    judge.unhinted.evaluate positive true stop? subject s =
        judge.evaluate positive true stop? subject s ∨
      ∃ e t hint, judge.evaluate positive true stop? subject s = .ok e t ∧ e.passed = false ∧
        e.hint? = some hint := by
  have hassess : judge.unhinted.assess positive subject = judge.assess positive subject := rfl
  rw [evaluate_eq, evaluate_eq, hassess]
  cases hsaid : judge.assess positive subject s with
  | error payload t =>
      rw [Action.bind_error hsaid, Action.bind_error hsaid]
      exact .inl rfl
  | ok said t =>
      rw [Action.bind_ok hsaid, Action.bind_ok hsaid]
      obtain ⟨passed, text⟩ := said
      cases passed with
      | true => exact .inl rfl
      | false =>
          rcases h subject t with hnone | ⟨hint, u, hsome⟩
          · have hexplained : judge.explain true stop? subject (false, text) t =
                .ok ⟨false, text, stop?, none⟩ t := Action.bind_ok hnone
            exact .inl hexplained.symm
          · right
            exact ⟨⟨false, text, stop?, some hint⟩, u, hint, Action.bind_ok hsome, rfl, rfl⟩

/-- Asking `receives` for a hint only reads what the matcher remembers. -/
theorem receives_hintsPlainly [ReasonLog σ] [HasChannels σ] (observer : Nat) :
    (receives observer : Judge σ Datum).HintsPlainly := by
  intro subject s
  rw [receives_hint_eq]
  split
  · obtain ⟨text, htext⟩ := receivesText_returns observer subject s
    rw [Action.bind_ok htext]
    exact .inr ⟨_, _, rfl⟩
  · exact .inl rfl

end Judge

/-! ## Attempts -/

namespace Invocation

variable [ReasonLog σ] {matcher : Matcher σ Datum} {returnsNothing positive : Bool}

/-- An attempt is judged by its value as every judge would judge it, or there is a value
that the judge evaluates. -/
theorem evaluateValue_cases (invocation : Invocation) :
    (∃ x : Action σ Judgement, ∀ (judge : Judge σ Datum) (positive hinting : Bool),
        invocation.evaluateValue judge positive hinting = x) ∨
      ∃ value, ∀ (judge : Judge σ Datum) (positive hinting : Bool),
        invocation.evaluateValue judge positive hinting =
          (judge.evaluate positive hinting invocation.stop? value >>= fun e =>
            return .evaluated e) := by
  cases invocation with
  | interrupted stop => exact .inl ⟨_, fun _ _ _ => rfl⟩
  | aborted failure? => cases failure? <;> exact .inl ⟨_, fun _ _ _ => rfl⟩
  | returned value extras failure? stop? =>
      cases failure? with
      | some failure => exact .inl ⟨_, fun _ _ _ => rfl⟩
      | none =>
          cases hextra : unexpectedExtra? 0 extras with
          | some found =>
              left
              refine ⟨ReasonLog.ask found.2.asked >>= fun _ =>
                return .evaluated (.unexpected found.1 found.2 stop?), ?_⟩
              intro judge positive hinting
              simp only [evaluateValue, hextra]
          | none =>
              right
              refine ⟨value, fun judge positive hinting => ?_⟩
              exact evaluateValue_of_expected (unexpectedExtra?_eq_none_iff.1 hextra)

/-- An attempt that is judged by its value is judged with a hint, or just as it is
without hints. -/
theorem evaluate_unhinted_or (houtcomes : matcher.outcomes? returnsNothing = none)
    (hinting : Bool) (hhints : hinting = true → matcher.toJudge.HintsPlainly)
    (invocation : Invocation) (s : σ) :
    invocation.evaluate matcher.toJudge.unhinted.toMatcher returnsNothing positive hinting s =
        invocation.evaluate matcher returnsNothing positive hinting s ∨
      ∃ e t hint, invocation.evaluate matcher returnsNothing positive hinting s =
        .ok (.evaluated e) t ∧ e.passed = false ∧ e.hint? = some hint := by
  have hunaided : (matcher.toJudge.unhinted.toMatcher).outcomes? returnsNothing = none := by
    cases returnsNothing <;> rfl
  rw [evaluate_of_values houtcomes, evaluate_of_values hunaided]
  rcases evaluateValue_cases (σ := σ) invocation with ⟨x, hx⟩ | ⟨value, hvalue⟩
  · rw [hx, hx]
    exact .inl rfl
  · rw [hvalue, hvalue]
    cases hinting with
    | false =>
        left
        exact congrFun (congrArg (· >>= _)
          (matcher.toJudge.evaluate_unhinted positive invocation.stop? value)) s
    | true =>
        rcases Judge.evaluate_unhinted_or (hhints rfl) positive invocation.stop? value s with
          hsame | ⟨e, t, hint, hjudged, hpassed, hhint⟩
        · exact .inl (Polling.bind_congr_left hsame _)
        · exact .inr ⟨e, t, hint, Action.bind_ok hjudged, hpassed, hhint⟩

end Invocation

namespace Assertion

/-- The same assertion with a matcher that is asked about values only, and never for a
hint. -/
def unaided (assertion : Assertion σ) : Assertion σ :=
  { assertion with matcher := assertion.matcher.toJudge.unhinted.toMatcher }

variable [HasCheckers σ] [ReasonLog σ]

/-- An attempt at a value that is observed comes to what the matcher says of it. -/
theorem attempt_observed {assertion : Assertion σ} {datum : Datum}
    (hprobe : assertion.probe = .observed datum) (v : σ) :
    assertion.attempt v =
      (assertion.matcher.toJudge.evaluate assertion.positive assertion.wantsHints none datum >>=
        fun e => return .ok (.evaluated e)) v := by
  have hinvoke : assertion.probe.invoke assertion.kind assertion.settings v =
      .ok (.ok (.returned datum [] none none)) v := by
    rw [hprobe]
    rfl
  have hvalues : assertion.matcher.outcomes? assertion.probe.returnsNothing = none := by
    rw [hprobe]
    rfl
  have hjudged : (Invocation.returned datum [] none none).evaluate assertion.matcher
      assertion.probe.returnsNothing assertion.positive assertion.wantsHints =
        (assertion.matcher.toJudge.evaluate assertion.positive assertion.wantsHints none datum >>=
          fun e => return .evaluated e) := by
    rw [Invocation.evaluate_of_values hvalues, Invocation.evaluateValue_of_expected (by simp)]
  have hattempt : assertion.attempt v = _ := Action.bind_ok hinvoke
  rw [hattempt]
  simp only [hjudged, bind_assoc, pure_bind]

/-- Without a judge of outcomes, an attempt comes to a hint, or to the same as without
hints. -/
theorem attempt_unaided {assertion : Assertion σ}
    (houtcomes : assertion.matcher.outcomes? assertion.probe.returnsNothing = none)
    (hhints : assertion.wantsHints = true → assertion.matcher.toJudge.HintsPlainly) (v : σ) :
    assertion.unaided.attempt v = assertion.attempt v ∨
      assertion.kind = .eventually ∧ ∃ e t hint, assertion.attempt v =
        .ok (.ok (.evaluated e)) t ∧ e.passed = false ∧ e.stop? = none ∧ e.hint? = some hint := by
  cases hinvoke : assertion.probe.invoke assertion.kind assertion.settings v with
  | error payload u =>
      exact .inl ((Action.bind_error hinvoke).trans (Action.bind_error hinvoke).symm)
  | ok answer u =>
      have hunaided : assertion.unaided.attempt v = _ := Action.bind_ok hinvoke
      have hattempt : assertion.attempt v = _ := Action.bind_ok hinvoke
      rw [hunaided, hattempt]
      cases answer with
      | error e => exact .inl rfl
      | ok invocation =>
          rcases Invocation.evaluate_unhinted_or houtcomes assertion.wantsHints hhints invocation u
            with hsame | ⟨e, t, hint, hjudged, hpassed, hhint⟩
          · exact .inl (Polling.bind_congr_left hsame _)
          · obtain ⟨hstop, _, hhinted⟩ := Invocation.finds_of_evaluate hjudged
            -- only an observed value is judged with hints, and it comes without a signal
            obtain ⟨hkind, datum, hobserved⟩ := wantsHints_iff.1 (hhinted hint hhint).1
            refine .inr ⟨hkind, e, t, hint, Action.bind_ok hjudged, hpassed, ?_, hhint⟩
            rw [hobserved] at hinvoke
            cases hinvoke
            exact hstop

end Assertion

/-! ## Runs -/

/-- An attempt that is given a hint ends an *eventually* run. -/
theorem Polling.attempt_hinted [ReasonLog σ] {plan : Plan} {around : Surroundings σ} {run : Run σ}
    {e : Evaluation} {hint : String} {t : σ} (hkind : plan.kind = .eventually)
    (hattempt : around.attempt run.world = .ok (.ok (.evaluated e)) t) (hpassed : e.passed = false)
    (hstop : e.stop? = none) (hhint : e.hint? = some hint) :
    (Fate.ends fun ending => ∃ hint d, ending = .failed .noFutureChange hint d).Met
      (Polling.attempt plan around run) := by
  rw [attempt_evaluated hattempt]
  unfold Polling.decide
  rw [hkind, hpassed, hstop, hhint]
  exact ⟨hint, _, rfl⟩

section

variable [ReasonLog σ] [HasCheckers σ] [HasContexts σ] [HasDesk σ] {poller : Poller σ}
  {assertion : Assertion σ} {s : σ}

/-- The runs of two assertions with different matchers are the same if only hints make a
difference in their attempts, unless the first one gives up early. -/
theorem Poller.run_eq_or_hinted {matcher : Matcher σ Datum} {positive : Bool} {always : σ → Prop}
    (hkeeps : Keeps (poller.scene assertion s) always)
    (hattempt : ∀ v, always v →
      ({ assertion with matcher, positive } : Assertion σ).attempt v = assertion.attempt v ∨
        assertion.kind = .eventually ∧ ∃ e t hint, assertion.attempt v =
          .ok (.ok (.evaluated e)) t ∧ e.passed = false ∧ e.stop? = none ∧ e.hint? = some hint)
    (hstart : always (poller.outset assertion s).world) (limit : Nat) :
    poller.run { assertion with matcher, positive } limit s = poller.run assertion limit s ∨
      ∃ hint d run,
        poller.run assertion limit s = (some (.failed .noFutureChange hint d), run) := by
  have hparts : ∀ run : Run σ, always run.world → assertion.attempt run.world =
        ({ assertion with matcher, positive } : Assertion σ).attempt run.world ∨
      (Fate.ends fun ending => ∃ hint d, ending = .failed .noFutureChange hint d).Met
        (Polling.attempt (assertion.plan poller.defaults) (poller.scene assertion s) run) ∨
      Fate.never.Met (Polling.attempt (assertion.plan poller.defaults)
        (poller.scene { assertion with matcher, positive } s) run) := by
    intro run hrun
    rcases hattempt run.world hrun with hsame | ⟨hkind, e, t, hint, hjudged, hpassed, hstop, hhint⟩
    · exact .inl hsame.symm
    · exact .inr (.inl (Polling.attempt_hinted hkind hjudged hpassed hstop hhint))
  rcases rounds_together limit hkeeps hparts (Polling.lasts_ends _ _ _)
    (Polling.lasts_ends _ _ _) hstart with hsame | hmet | hmet
  · exact .inl hsame
  · obtain ⟨_, final, hrounds, hint, d, rfl⟩ := Fate.met_ends hmet
    exact .inr ⟨hint, d, _, run_eq_some_iff.2 ⟨final, hrounds, rfl⟩⟩
  · exact (Fate.not_met_never hmet).elim

/-- A run that is given no hint is the same without a matcher that could give one. -/
theorem Poller.run_unaided_or (poller : Poller σ)
    (houtcomes : assertion.matcher.outcomes? assertion.probe.returnsNothing = none)
    (hhints : assertion.wantsHints = true → assertion.matcher.toJudge.HintsPlainly) (limit : Nat)
    (s : σ) :
    poller.run assertion.unaided limit s = poller.run assertion limit s ∨
      ∃ hint d run,
        poller.run assertion limit s = (some (.failed .noFutureChange hint d), run) := by
  have hkeeps : Keeps (poller.scene assertion s) fun _ => True :=
    ⟨fun _ _ => trivial, fun _ _ => trivial, fun _ _ _ _ _ => trivial, fun _ _ _ _ _ => trivial,
      fun _ _ _ => trivial⟩
  exact run_eq_or_hinted hkeeps (fun v _ => Assertion.attempt_unaided houtcomes hhints v) trivial
    limit

end

end PollingAssertions
