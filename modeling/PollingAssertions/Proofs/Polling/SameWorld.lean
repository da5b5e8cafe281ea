import PollingAssertions.Proofs.Polling.Lockstep
import PollingAssertions.Session.World

/-!
# Assertions in the same world

That something consistently holds, that it eventually holds and that it
eventually does not are three assertions which can be made of the same world.
If the first one passes, the second one passes with its first attempt and the
third one does not pass; and if the third one passes, the first one fails, and
no later.

What counts as the same world is a relation between worlds of two runs. It is
not equality in general: what the runs publish is different, as the reasons for
the two directions are. All that matters is that worlds which are the same give
the same answers and are the same afterwards (`SameWorld`). A world that keeps
the number of the attempt and of the pause, and answers by them, is one case.

## Main definitions

* `Judge.AnswersAlike` — two judges give the same answers in the same world.
* `SameWorld` — two assertions see the same world.

## Main results

* `Assertion.attempt_alike` — their attempts come to the same.
* `Poller.run_same_world` — how their runs end.
-/

namespace PollingAssertions

variable {σ α β γ δ : Type} {same : σ → σ → Prop}

/-! ## Actions that come to the same -/

namespace Alike

variable {alone : α → Prop} {together' : γ → δ → Prop} {alone' : γ → Prop} {v w : σ}

theorem pure {c : γ} {d : δ} (h : together' c d) (hsame : same v w) :
    Alike same together' alone' ((Pure.pure c : Action σ γ) v) ((Pure.pure d : Action σ δ) w) :=
  .returned h hsame

/-- Sequences come to the same if their parts do. After an answer that is alone
the first one has to go on to such an answer. -/
theorem bind (together : α → β → Prop) {x : Action σ α} {y : Action σ β} {f : α → Action σ γ}
    {g : β → Action σ δ} (hxy : Alike same together alone (x v) (y w))
    (hfg : ∀ a b v w, together a b → same v w → Alike same together' alone' (f a v) (g b w))
    (halone : ∀ a v, alone a → ∃ c u, f a v = .ok c u ∧ alone' c) :
    Alike same together' alone' ((x >>= f) v) ((y >>= g) w) := by
  generalize hx : x v = r at hxy
  generalize hy : y w = r' at hxy
  cases hxy with
  | returned htogether hsame =>
      rw [Action.bind_ok hx, Action.bind_ok hy]
      exact hfg _ _ _ _ htogether hsame
  | unwound =>
      rw [Action.bind_error hx, Action.bind_error hy]
      exact .unwound
  | parted h =>
      obtain ⟨c, u, hf, hc⟩ := halone _ _ h
      rw [Action.bind_ok hx, Action.bind_error hy, hf]
      exact .parted hc

/-- Every action comes to the same as itself. -/
theorem refl {together : α → α → Prop} (h : ∀ a, together a a) (r : EStateM.Result Payload σ α) :
    Alike Eq together alone r r := by
  cases r with
  | ok a v => exact .returned (h a) rfl
  | error payload v => exact .unwound

end Alike

/-! ## Judging the same -/

/-- Two judges give the same answers in the same world. The first one is asked
whether a subject matches, the second one whether it does (`positive`) or
whether it does not. The texts for the two may be different, and only the second
judge is asked for hints. -/
structure Judge.AnswersAlike (same : σ → σ → Prop) (judge judge' : Judge σ α) : Prop where
  verdict : ∀ subject v w, same v w →
    Alike same (fun answer answer' => answer = answer') (fun _ => False)
      (judge.verdict subject v) (judge'.verdict subject w)
  text : ∀ positive subject v w, same v w →
    Alike same (fun _ _ => True) (fun _ => positive = false)
      (judge.failureText subject v) (judge'.textFor positive subject w)
  hint : ∀ subject hint? v w w', same v w → judge'.hint subject w = .ok hint? w' → same v w'

namespace Judge.AnswersAlike

variable {judge judge' : Judge σ α} {v w : σ}

/-- Asking for a hint keeps the world the same, unless it unwinds, and an
evaluation for which it is asked has not passed. -/
theorem hinted (h : judge.AnswersAlike same judge') {positive hinting : Bool}
    {stop? : Option StopSignal} {subject : α} {passed passed' : Bool} {reason reason' : String}
    (heq : positive = true → passed = passed')
    (hne : positive = false → passed = true → passed' = false) (hsame : same v w) :
    Alike same (Evaluation.Agrees positive) (fun e => positive = true → e.passed = false)
      (.ok ⟨passed, reason, stop?, none⟩ v)
      ((do
        let hint? ← if hinting && !passed' then judge'.hint subject else Pure.pure none
        return ⟨passed', reason', stop?, hint?⟩ : Action σ Evaluation) w) := by
  by_cases hasks : (hinting && !passed') = true
  · rw [if_pos hasks]
    cases hhint : judge'.hint subject w with
    | ok hint? w' =>
        rw [Action.bind_ok hhint]
        exact .returned ⟨rfl, heq, hne⟩ (h.hint subject hint? v w w' hsame hhint)
    | error payload w' =>
        rw [Bool.and_eq_true, Bool.not_eq_true'] at hasks
        rw [Action.bind_error hhint]
        exact .parted fun hpositive => (heq hpositive).trans hasks.2
  · rw [if_neg hasks]
    exact .returned ⟨rfl, heq, hne⟩ hsame

/-- Evaluations by them agree. -/
theorem evaluate (h : judge.AnswersAlike same judge') (positive hinting : Bool)
    (stop? : Option StopSignal) (subject : α) (hsame : same v w) :
    Alike same (Evaluation.Agrees positive) (fun e => positive = true → e.passed = false)
      (judge.evaluate true false stop? subject v)
      (judge'.evaluate positive hinting stop? subject w) := by
  refine .bind (fun answer answer' => answer = answer') (h.verdict subject v w hsame)
    (fun answer _ v w hanswer hsame => ?_) fun _ _ h => h.elim
  subst hanswer
  cases answer with
  | error e => exact h.hinted (fun _ => rfl) (fun _ _ => rfl) hsame
  | ok verdict =>
      refine .bind (fun _ _ => True) (h.text positive subject v w hsame)
        (fun reason reason' v w _ hsame => ?_) fun reason v hopposed => ?_
      · refine h.hinted ?_ ?_ hsame
        · intro hpositive
          rw [hpositive]
        · intro hpositive hverdict
          rw [hpositive, beq_eq_false_iff_ne, beq_iff_eq.1 hverdict]
          decide
      · refine ⟨_, v, rfl, fun hpositive => ?_⟩
        rw [hpositive] at hopposed
        cases hopposed

end Judge.AnswersAlike

/-- An attempt that could not be judged is no success for anybody. -/
theorem Evaluation.Agrees.error (positive : Bool) (text : String) (stop? : Option StopSignal) :
    Evaluation.Agrees positive (Evaluation.error text stop?) (Evaluation.error text stop?) :=
  ⟨rfl, fun _ => rfl, fun _ _ => rfl⟩

namespace Invocation

variable [ReasonLog σ] {judge judge' : Judge σ Datum} {positive : Bool} {v w : σ}

/-- Working out reasons keeps the world the same, if one reason does. -/
theorem ask_alike (hreason : ∀ reason v w, same v w →
      same (ReasonLog.workedOut reason v) (ReasonLog.workedOut reason w))
    (reasons : List String) (hsame : same v w) :
    Alike same (fun _ _ => True) (fun _ => False) (ReasonLog.ask reasons v)
      (ReasonLog.ask reasons w) := by
  refine .returned trivial ?_
  show same (reasons.foldl (fun s reason => ReasonLog.workedOut reason s) v)
    (reasons.foldl (fun s reason => ReasonLog.workedOut reason s) w)
  induction reasons generalizing v w with
  | nil => exact hsame
  | cons reason reasons ih => exact ih (hreason reason v w hsame)

theorem evaluateValue_alike (h : judge.AnswersAlike same judge')
    (hreason : ∀ reason v w, same v w →
      same (ReasonLog.workedOut reason v) (ReasonLog.workedOut reason w))
    (hinting : Bool) (invocation : Invocation) (hsame : same v w) :
    Alike same (Judgement.Agrees positive) (Judgement.MayHint positive)
      (invocation.evaluateValue judge true false v)
      (invocation.evaluateValue judge' positive hinting w) := by
  cases invocation with
  | interrupted stop => exact .pure .interrupted hsame
  | aborted failure? =>
      cases failure? <;> exact .pure (.evaluated (.error _ _ _)) hsame
  | returned value extras failure? stop? =>
      cases failure? with
      | some failure => exact .pure (.evaluated (.error _ _ _)) hsame
      | none =>
          cases hextra : unexpectedExtra? 0 extras with
          | some found =>
              simp only [evaluateValue, hextra]
              exact .bind (fun _ _ => True) (ask_alike hreason _ hsame)
                (fun _ _ v w _ hsame => .pure (.evaluated (.error _ _ _)) hsame) fun _ _ h => h.elim
          | none =>
              simp only [evaluateValue, hextra]
              exact .bind _ (h.evaluate positive hinting stop? value hsame)
                (fun e e' v w he hsame => .pure (.evaluated he) hsame)
                (fun e v hpassed => ⟨_, _, rfl, e, rfl, hpassed⟩)

omit [ReasonLog σ] in
theorem evaluateOutcome_alike {judge judge' : Judge σ CallbackOutcome}
    (h : judge.AnswersAlike same judge') (invocation : Invocation) (hsame : same v w) :
    Alike same (Judgement.Agrees positive) (Judgement.MayHint positive)
      (invocation.evaluateOutcome judge true v) (invocation.evaluateOutcome judge' positive w) := by
  cases invocation with
  | interrupted stop => exact .pure .interrupted hsame
  | aborted failure? =>
      exact .bind _ (h.evaluate positive false none _ hsame)
        (fun e e' v w he hsame => .pure (.evaluated he) hsame)
        (fun e v hpassed => ⟨_, _, rfl, e, rfl, hpassed⟩)
  | returned _ _ failure? stop? =>
      exact .bind _ (h.evaluate positive false stop? _ hsame)
        (fun e e' v w he hsame => .pure (.evaluated he) hsame)
        (fun e v hpassed => ⟨_, _, rfl, e, rfl, hpassed⟩)

/-- Attempts that produced the same are judged alike by matchers that answer
alike. -/
theorem evaluate_alike {matcher matcher' : Matcher σ Datum}
    (hjudge : matcher.toJudge.AnswersAlike same matcher'.toJudge)
    (hcallback : Option.Rel (Judge.AnswersAlike same) matcher.callback matcher'.callback)
    (hreason : ∀ reason v w, same v w →
      same (ReasonLog.workedOut reason v) (ReasonLog.workedOut reason w))
    (returnsNothing hinting : Bool) (invocation : Invocation) (hsame : same v w) :
    Alike same (Judgement.Agrees positive) (Judgement.MayHint positive)
      (invocation.evaluate matcher returnsNothing true false v)
      (invocation.evaluate matcher' returnsNothing positive hinting w) := by
  have hvalue : Alike same (Judgement.Agrees positive) (Judgement.MayHint positive)
      (invocation.evaluateValue matcher.toJudge true false v)
      (invocation.evaluateValue matcher'.toJudge positive hinting w) :=
    evaluateValue_alike hjudge hreason hinting invocation hsame
  unfold evaluate
  generalize matcher.callback = callback at hcallback
  generalize matcher'.callback = callback' at hcallback
  cases returnsNothing with
  | false => exact hvalue
  | true =>
      cases hcallback with
      | none => exact hvalue
      | some h => exact evaluateOutcome_alike h invocation hsame

end Invocation

/-! ## Seeing the same world -/

section

variable [ReasonLog σ] [HasCheckers σ] [HasContexts σ] [HasDesk σ]

/-- Two assertions see the same world, with the same time to see it: in worlds
that are the same their attempts produce the same, their matchers give the same
answers, the clock shows the same time and the contexts are done or not alike,
and all of that and what the runs publish leaves worlds that are the same. -/
structure SameWorld (same : σ → σ → Prop) (poller poller' : Poller σ) (a a' : Assertion σ) :
    Prop where
  timeout_eq : (a.plan poller.defaults).timeout = (a'.plan poller'.defaults).timeout
  interval_eq : (a.plan poller.defaults).interval = (a'.plan poller'.defaults).interval
  now : ∀ v w, same v w →
    (poller.clock.now v).1 = (poller'.clock.now w).1 ∧
      same (poller.clock.now v).2 (poller'.clock.now w).2
  cancelled : ∀ v w, same v w →
    (Contexts.isDoneIn a.settings.context? v).1 = (Contexts.isDoneIn a'.settings.context? w).1 ∧
      same (Contexts.isDoneIn a.settings.context? v).2 (Contexts.isDoneIn a'.settings.context? w).2
  sleep : ∀ d v w, same v w →
    Alike same (fun _ _ => True) (fun _ => False)
      (poller.clock.sleep d a.settings.context? v) (poller'.clock.sleep d a'.settings.context? w)
  returnsNothing_eq : a.probe.returnsNothing = a'.probe.returnsNothing
  invoke : ∀ v w, same v w →
    Alike same (InBoth fun invocation invocation' => invocation = invocation') (fun _ => False)
      (a.probe.invoke a.kind a.settings v) (a'.probe.invoke a'.kind a'.settings w)
  judge : a.matcher.toJudge.AnswersAlike same a'.matcher.toJudge
  callback : Option.Rel (Judge.AnswersAlike same) a.matcher.callback a'.matcher.callback
  workedOut : ∀ reason v w, same v w →
    same (ReasonLog.workedOut reason v) (ReasonLog.workedOut reason w)
  attach : ∀ v w, same v w →
    same (Progress.attach? a.settings.context? v).2 (Progress.attach? a'.settings.context? w).2
  publish : ∀ s t reason reason' v w, same s t → same v w →
    same (Progress.publish (a.slip? s) reason v) (Progress.publish (a'.slip? t) reason' w)

variable {poller poller' : Poller σ} {a a' : Assertion σ} {s t v w : σ}

/-- The attempts of two assertions that see the same world come to the same. -/
theorem Assertion.attempt_alike (h : SameWorld same poller poller' a a')
    (hkind : a.kind = .consistently) (hpositive : a.positive = true) (hsame : same v w) :
    AttemptsAlike same a'.positive (a.attempt v) (a'.attempt w) := by
  have hhints : a.wantsHints = false := by
    unfold wantsHints
    rw [hkind]
    rfl
  refine .bind _ (h.invoke v w hsame) (fun answer answer' v w hanswers hsame => ?_)
    fun _ _ h => h.elim
  cases hanswers with
  | error => exact .pure .error hsame
  | @ok invocation _ hinvocation =>
      subst hinvocation
      have hjudged : Alike same (Judgement.Agrees a'.positive) (Judgement.MayHint a'.positive)
          (invocation.evaluate a.matcher a.probe.returnsNothing a.positive a.wantsHints v)
          (invocation.evaluate a'.matcher a'.probe.returnsNothing a'.positive a'.wantsHints w) := by
        rw [hpositive, hhints, h.returnsNothing_eq]
        exact invocation.evaluate_alike h.judge h.callback h.workedOut _ _ hsame
      exact .bind _ hjudged (fun _ _ v w hagrees hsame => .pure (.ok hagrees) hsame)
        fun judgement v hhint => ⟨_, _, rfl, judgement, rfl, hhint⟩

namespace Poller

/-- Their runs are given the same answers, ... -/
theorem scene_inStep (h : SameWorld same poller poller' a a') (hkind : a.kind = .consistently)
    (hpositive : a.positive = true) (hsame : same s t) :
    InStep same a'.positive (poller.scene a s) (poller'.scene a' t) where
  now := h.now
  cancelled := h.cancelled
  sleep := h.sleep
  attempt _ _ hsame := Assertion.attempt_alike h hkind hpositive hsame
  publish reason reason' v w := h.publish s t reason reason' v w hsame

/-- ... and start at the same point. -/
theorem outset_level (h : SameWorld same poller poller' a a') (hsame : same s t) :
    Polling.Level same 0 (poller.outset a s) (poller'.outset a' t) := by
  obtain ⟨hstarted, hworld⟩ := h.now _ _ (h.attach s t hsame)
  exact ⟨hworld, hstarted, rfl, rfl⟩

/-- Suppose two assertions see the same world, one that something consistently
should match, the other that it eventually should, or should not. If the first
one passes, then the second one passes with its first attempt or, where it asks
for the opposite, does not pass. If the opposite eventually passes, the first
one fails with an attempt that did not pass, and no later. -/
theorem run_same_world (h : SameWorld same poller poller' a a') (hkind : a.kind = .consistently)
    (hpositive : a.positive = true) (hkind' : a'.kind = .eventually) (hsame : same s t) :
    (a'.positive = true → ∀ limit limit' run, 0 < limit' →
      poller.run a limit s = (some .passed, run) →
      ∃ run', poller'.run a' limit' t = (some .passed, run') ∧
        (Journal.attempts run'.journal).length = 1) ∧
    (a'.positive = false → ∀ limit limit' run, poller.run a limit s = (some .passed, run) →
      (poller'.run a' limit' t).1 ≠ some .passed) ∧
    (a'.positive = false → ∀ limit run', poller'.run a' limit t = (some .passed, run') →
      ∃ ending run e earlier, poller.run a limit s = (some ending, run) ∧ ending.Failed ∧
        Journal.attempts run.journal = some (.evaluated e) :: earlier ∧ e.passed = false ∧
        earlier.length < (Journal.attempts run'.journal).length) := by
  have hlevel := outset_level h hsame
  have hinstep := scene_inStep h hkind hpositive hsame
  have hstands : Polling.Stands (poller'.scene a' t) (poller'.outset a' t).started
      (poller'.outset a' t).world (poller'.outset a' t).journal (poller'.outset a' t) :=
    Polling.stands_starting _ _ _
  have hplan : a.plan poller.defaults = ⟨.consistently, (a'.plan poller'.defaults).timeout,
      (a'.plan poller'.defaults).interval⟩ := by
    rw [← h.timeout_eq, ← h.interval_eq, ← hkind]
    rfl
  have hplan' : a'.plan poller'.defaults = ⟨.eventually, (a'.plan poller'.defaults).timeout,
      (a'.plan poller'.defaults).interval⟩ := by
    rw [← hkind']
    rfl
  refine ⟨fun hsought limit limit' run hlimit' hpassed => ?_,
    fun hopposed limit limit' run hpassed hpassed' => ?_,
    fun hopposed limit run' hpassed' => ?_⟩
  · obtain ⟨final, hrounds, _⟩ := run_eq_some_iff.1 hpassed
    rw [hplan] at hrounds
    rw [hsought] at hinstep
    obtain ⟨final', hrounds', hfirst⟩ := Polling.passed_first hinstep rfl hlevel hrounds hlimit'
    rw [← hplan'] at hrounds'
    exact ⟨_, run_eq_some_iff.2 ⟨final', hrounds', rfl⟩, hfirst⟩
  · obtain ⟨final, hrounds, _⟩ := run_eq_some_iff.1 hpassed
    obtain ⟨final', hrounds', _⟩ := run_eq_some_iff.1 (run_eq_of_fst hpassed')
    rw [hplan] at hrounds
    rw [hplan'] at hrounds'
    rw [hopposed] at hinstep
    exact Polling.not_passed hinstep hlevel hstands hrounds hrounds'
  · obtain ⟨final', hrounds', rfl⟩ := run_eq_some_iff.1 hpassed'
    rw [hplan'] at hrounds'
    rw [hopposed] at hinstep
    obtain ⟨m, ending, final, hrounds, ⟨hfailed, e, earlier, hattempts, hnot, rfl⟩, hlater⟩ :=
      Polling.failed_of_passed hinstep hlevel hstands hrounds'
    rw [← hplan] at hrounds
    exact ⟨ending, _, e, earlier, run_eq_some_iff.2 ⟨final, hrounds, rfl⟩, hfailed, hattempts,
      hnot, hlater⟩

end Poller

end

section

variable [ReasonLog σ] [HasCheckers σ] [HasContexts σ] [HasDesk σ] [HasVirtualClock σ]

/-- Without an attacher nothing is published, and the worlds of the runs are the
same in the strict sense. -/
theorem Assertion.since_sameWorld (poller : Poller σ) (positive : Bool)
    (timeout interval time : Span) (hinterval : interval ≠ 0) :
    SameWorld Eq poller poller (.since .consistently true timeout interval time)
      (.since .eventually positive timeout interval time) where
  timeout_eq := rfl
  interval_eq := by
    show (if interval = 0 then _ else interval) = if interval = 0 then _ else interval
    rw [if_neg hinterval, if_neg hinterval]
  now := by
    intro v w hsame
    subst hsame
    exact ⟨rfl, rfl⟩
  cancelled := by
    intro v w hsame
    subst hsame
    exact ⟨rfl, rfl⟩
  sleep := by
    intro d v w hsame
    subst hsame
    exact .refl (fun _ => trivial) _
  returnsNothing_eq := rfl
  invoke := by
    intro v w hsame
    subst hsame
    exact .returned (.ok rfl) rfl
  judge :=
    { verdict := by
        intro subject v w hsame
        subst hsame
        exact .refl (fun _ => rfl) _
      text := by
        intro positive subject v w hsame
        subst hsame
        cases positive <;> exact .returned trivial rfl
      hint := by
        intro subject hint? v w w' hsame hhint
        subst hsame
        cases hhint
        rfl }
  callback := .none
  workedOut := by
    intro reason v w hsame
    subst hsame
    rfl
  attach := by
    intro v w hsame
    subst hsame
    rfl
  publish := by
    intro s t reason reason' v w hstarted hsame
    subst hstarted hsame
    rfl

end

/-- What always matches does so consistently and at once, and not eventually
not; and what does not match yet does not match consistently. -/
theorem Poller.run_same_world_since :
    (∃ run, Poller.virtual.run (.since .eventually true 10 4 0) 1 (Session.World.starting 0) =
        (some .passed, run) ∧ (Journal.attempts run.journal).length = 1) ∧
      (Poller.virtual.run (.since .eventually false 10 4 0) 9 (Session.World.starting 0)).1 ≠
        some .passed ∧
      ∃ ending run, Poller.virtual.run (.since .consistently true 10 4 8) 9
        (Session.World.starting 0) = (some ending, run) ∧ ending.Failed := by
  have hconsistently : (Poller.virtual.run (.since .consistently true 10 4 0) 9
      (Session.World.starting 0)).1 = some .passed := by decide +kernel
  have hopposite : (Poller.virtual.run (.since .eventually false 10 4 8) 9
      (Session.World.starting 0)).1 = some .passed := by decide +kernel
  have hsame : ∀ positive time, SameWorld (Eq : Session.World → Session.World → Prop)
      Poller.virtual Poller.virtual (.since .consistently true 10 4 time)
      (.since .eventually positive 10 4 time) :=
    fun positive time => Assertion.since_sameWorld _ positive 10 4 time (by decide)
  refine ⟨?_, ?_, ?_⟩
  · have hruns := run_same_world (hsame true 0) rfl rfl rfl (Eq.refl (Session.World.starting 0))
    exact hruns.1 rfl 9 1 _ (by decide) (run_eq_of_fst hconsistently)
  · have hruns := run_same_world (hsame false 0) rfl rfl rfl (Eq.refl (Session.World.starting 0))
    exact hruns.2.1 rfl 9 9 _ (run_eq_of_fst hconsistently)
  · have hruns := run_same_world (hsame false 8) rfl rfl rfl (Eq.refl (Session.World.starting 0))
    obtain ⟨ending, run, _, _, hrun, hfailed, _⟩ := hruns.2.2 rfl 9 _ (run_eq_of_fst hopposite)
    exact ⟨ending, run, hrun, hfailed⟩

end PollingAssertions
