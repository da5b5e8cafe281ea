import PollingAssertions.Proofs.Polling.Assessment
import PollingAssertions.Proofs.Polling.Attachment

/-!
# Expectations inside a probe

The function of a probe makes expectations through a checker. Each one that fails tells the
checker and unwinds, but the function may catch that and go on, and then more of them may fail.
This module follows such a function and lists the expectations that fail, in the order in which
they do. Whatever was recorded before the attempt is cleared away, and of the list the first
one is recorded, whether the function caught it or not.

The failed expectations alone decide what becomes of the attempt: if the probe returns a value,
it passes in neither direction once there is one; if it returns nothing, it has succeeded
exactly if there is none, and has failed with the text of the first one otherwise.

## Main definitions

* `Checker.Expecting` — actions that touch a checker only by expectations.
* `Checker.Unmet` — the expectations that fail while an action goes on, in order.

## Main results

* `Checker.Expecting.exists_unmet` — every such action has its list.
* `Checker.Unmet.kept?_after` — the first one of the list is recorded.
* `Probe.produces_of_ends` — so it is what the attempt produces.
* `Poller.run_expects` — what becomes of the attempts of a run.
-/

namespace PollingAssertions

/-! ## What an action leaves behind -/

theorem Action.after_caught {σ α : Type} {x : Action σ α} {s : σ} :
    x.caught.after s = x.after s := by
  unfold after caught
  cases x s <;> rfl

namespace Checker

variable {σ : Type} [HasCheckers σ] {checker : CheckerId} {s t : σ} {fs gs : List CallbackFailure}

/-- A checker was made. -/
def Known (checker : CheckerId) (s : σ) : Prop := checker < (HasCheckers.part.get s).kept.size

instance : Decidable (Known checker s) := inferInstanceAs (Decidable (_ < _))

theorem kept?_clear (checker : CheckerId) (s : σ) : kept? checker (clear checker s) = none := by
  unfold kept? clear
  rw [Part.get_update, Checkers.kept?_clear]

/-- An action leaves a checker alone. -/
structure SparedBy (checker : CheckerId) {α : Type} (x : Action σ α) : Prop where
  kept : ∀ s, kept? checker (x.after s) = kept? checker s
  known : ∀ s, Known checker s → Known checker (x.after s)

/-- Actions that change a checker only by expectations. Whatever else they do leaves it alone, but
may read it; what an expectation unwinds with may be caught. -/
inductive Expecting (checker : CheckerId) : {α : Type} → Action σ α → Prop
  | aside {α : Type} {x : Action σ α} : SparedBy checker x → Expecting checker x
  | fail (site : Site) (message : String) : Expecting checker (fail checker site message)
  | bind {α β : Type} {x : Action σ α} {f : α → Action σ β} :
      Expecting checker x → (∀ a, Expecting checker (f a)) → Expecting checker (x >>= f)
  | caught {α : Type} {x : Action σ α} : Expecting checker x → Expecting checker x.caught

/-- The expectations of a checker that fail while an action goes on in a world, in the order in
which they fail. -/
inductive Unmet (checker : CheckerId) :
    {α : Type} → Action σ α → σ → List CallbackFailure → Prop
  | aside {α : Type} {x : Action σ α} {s : σ} : SparedBy checker x → Unmet checker x s []
  | fail {s : σ} (site : Site) (message : String) : Known checker s →
      Unmet checker (fail checker site message) s [⟨message, site.file, site.line⟩]
  | bind_ok {α β : Type} {x : Action σ α} {f : α → Action σ β} {s t : σ} {a : α}
      {fs gs : List CallbackFailure} : x s = .ok a t → Unmet checker x s fs →
      Unmet checker (f a) t gs → Unmet checker (x >>= f) s (fs ++ gs)
  | bind_error {α β : Type} {x : Action σ α} {f : α → Action σ β} {s t : σ} {payload : Payload}
      {fs : List CallbackFailure} : x s = .error payload t → Unmet checker x s fs →
      Unmet checker (x >>= f) s fs
  | caught {α : Type} {x : Action σ α} {s : σ} {fs : List CallbackFailure} :
      Unmet checker x s fs → Unmet checker x.caught s fs

/-! ## The first failure is kept -/

theorem after_fail (checker : CheckerId) (site : Site) (message : String) (s : σ) :
    (fail checker site message).after s =
      HasCheckers.part.update (Checkers.note checker ⟨message, site.file, site.line⟩) s := rfl

/-- A checker keeps the first expectation that fails, unless it keeps one already. -/
theorem Unmet.kept?_after {α : Type} {x : Action σ α} (h : Unmet checker x s fs) :
    kept? checker (x.after s) = (kept? checker s).or fs.head? := by
  induction h with
  | aside hspared =>
      rw [hspared.kept, List.head?_nil, Option.or_none]
  | fail site message hknown =>
      rw [after_fail, kept?, Part.get_update, Checkers.kept?_note hknown]
      rfl
  | bind_ok hreturned _ _ ihx ihf =>
      -- the second action finds what the first one left, and adds to it only if that is nothing
      rw [Action.after_ok hreturned] at ihx
      rw [Action.after_bind hreturned, ihf, ihx, List.head?_append, Option.or_assoc]
  | bind_error hunwound _ ih =>
      rw [Action.after_error hunwound] at ih
      rw [Action.after_error (Action.bind_error hunwound), ih]
  | caught _ ih =>
      rw [Action.after_caught, ih]

theorem SparedBy.pure {α : Type} (a : α) : SparedBy checker (Pure.pure a : Action σ α) :=
  ⟨fun _ => rfl, fun _ hknown => hknown⟩

section

variable {α : Type} {judge : Judge σ α} {positive : Bool} {subject : α} {site : Site}

theorem Expecting.expect (hverdict : Expecting checker (judge.verdict subject))
    (htext : Expecting checker (judge.textFor positive subject)) :
    Expecting checker (Checker.expect checker site judge positive subject) := by
  refine .bind hverdict fun answer => ?_
  cases answer with
  | error e => exact .fail site e.message
  | ok verdict =>
      by_cases hmet : verdict = positive
      · simp only [hmet, if_true]
        exact .aside (.pure ())
      · simp only [hmet, if_false]
        exact .bind htext fun text => .fail site text

/-- An expectation is met if the judge says what is expected. Otherwise it fails with the text of
the judge, or with the error if the judge cannot tell. -/
theorem Unmet.expect (hknown : Known checker s)
    (hverdict : SparedBy checker (judge.verdict subject))
    (htext : SparedBy checker (judge.textFor positive subject)) :
    (∀ t, judge.verdict subject s = .ok (.ok positive) t →
        Unmet checker (Checker.expect checker site judge positive subject) s []) ∧
      (∀ verdict text t u, verdict ≠ positive → judge.verdict subject s = .ok (.ok verdict) t →
        judge.textFor positive subject t = .ok text u →
        Unmet checker (Checker.expect checker site judge positive subject) s
          [⟨text, site.file, site.line⟩]) ∧
      ∀ e t, judge.verdict subject s = .ok (.error e) t →
        Unmet checker (Checker.expect checker site judge positive subject) s
          [⟨e.message, site.file, site.line⟩] := by
  have hasked : ∀ {answer t}, judge.verdict subject s = .ok answer t → Known checker t := by
    intro answer t hanswer
    rw [← Action.after_ok hanswer]
    exact hverdict.known s hknown
  refine ⟨fun t hmet => ?_, fun verdict text t u hne hunmet hexplained => ?_, fun e t herror => ?_⟩
  · refine .bind_ok hmet (.aside hverdict) (?_ : Unmet checker _ t [])
    simp only [if_true]
    exact .aside (.pure ())
  · refine .bind_ok hunmet (.aside hverdict)
      (?_ : Unmet checker _ t [⟨text, site.file, site.line⟩])
    simp only [hne, if_false]
    refine .bind_ok hexplained (.aside htext) (.fail site text ?_)
    rw [← Action.after_ok hexplained]
    exact htext.known t (hasked hunmet)
  · exact .bind_ok herror (.aside hverdict) (.fail site e.message (hasked herror))

end

end Checker

/-! ## What becomes of an attempt -/

section

variable {σ : Type} [HasCheckers σ] {kind : Kind} {settings : Settings} {shape : Shape}
  {checker : CheckerId} {body : List Delivered → Action σ Output} {delivered : List Delivered}
  {v : σ}

end

namespace Invocation

variable {σ : Type} {matcher : Matcher σ Datum} {returnsNothing positive hinting : Bool}
  {invocation : Invocation} {failure : CallbackFailure} {u : σ}

/-- An attempt that is judged by its outcome passes as the judge of outcomes finds. -/
theorem passes_of_outcome [ReasonLog σ] {judge : Judge σ CallbackOutcome}
    {outcome : CallbackOutcome} (houtcomes : matcher.outcomes? returnsNothing = some judge)
    (houtcome : invocation.Outcome outcome) (hjudge : judge.NeverUnwinds) :
    ∃ judgement t, invocation.evaluate matcher returnsNothing positive hinting u =
        .ok judgement t ∧
      (judgement.Passes ↔ ∃ w, judge.verdict outcome u = .ok (.ok positive) w) := by
  obtain ⟨e, t, hevaluate, _⟩ :=
    hjudge.evaluate positive false invocation.stop? outcome u
  obtain ⟨_, w, hfinds, _⟩ := Judge.finds_of_evaluate hevaluate
  refine ⟨.evaluated e, t, ?_, ?_⟩
  · rw [evaluate_of_outcomes houtcomes, evaluateOutcome_of_outcome judge positive houtcome,
      Action.bind_ok hevaluate]
    rfl
  · rw [Judgement.passes_evaluated, hfinds.passed_iff]

end Invocation

/-! ## Success and failure of a probe -/

section

variable {σ : Type} [ReasonLog σ] {judge : Judge σ Datum}

theorem Judge.NeverUnwinds.failsWith (h : judge.NeverUnwinds) :
    (Judge.failsWith judge).NeverUnwinds := by
  have hasked : ∀ {α : Type} {reasons : List String} {x : Action σ α}, x.Returns →
      (ReasonLog.ask reasons >>= fun _ => x).Returns := fun hx =>
    .bind (ReasonLog.ask_returns _) fun _ _ => hx
  refine ⟨fun subject => ?_, fun subject => ?_, fun subject => ?_, fun _ => .pure trivial⟩
  · unfold Judge.failsWith
    dsimp only
    split
    · exact .pure trivial
    · exact hasked (h.verdict _)
  · unfold Judge.failsWith
    dsimp only
    split
    · exact .pure trivial
    · exact hasked (h.failureText _)
  · unfold Judge.failsWith
    dsimp only
    split
    · exact .pure trivial
    · exact hasked (h.negatedText _)

/-- The judge of successes says whether there is no failure. -/
theorem Judge.succeeds_verdict_ofFailure? (failure? : Option CallbackFailure) {u : σ}
    {wanted : Bool} :
    (∃ w, (Judge.succeeds.comap Datum.ofOutcome).verdict (.ofFailure? failure?) u =
        .ok (.ok wanted) w) ↔ failure?.isNone = wanted := by
  constructor
  · rintro ⟨w, h⟩
    cases failure? <;> cases h <;> rfl
  · rintro rfl
    cases failure? <;> exact ⟨u, rfl⟩

end

/-! ## Runs -/

theorem Assertion.attempt_of_judged {σ : Type} [HasCheckers σ] [ReasonLog σ]
    {assertion : Assertion σ} {invocation : Invocation} {judgement : Judgement} {v u t : σ}
    (hproduces : assertion.probe.Produces assertion.kind assertion.settings v invocation u)
    (hevaluate : invocation.evaluate assertion.matcher assertion.probe.returnsNothing
      assertion.positive assertion.wantsHints u = .ok judgement t) :
    assertion.attempt v = .ok (.ok judgement) t := by
  unfold attempt
  rw [Action.bind_ok hproduces.invoke]
  exact Action.bind_ok hevaluate

namespace Poller

variable {σ : Type} [ReasonLog σ] [HasCheckers σ] [HasContexts σ] [HasDesk σ] {poller : Poller σ}
  {assertion : Assertion σ} {limit : Nat} {s v : σ} {ending? : Option Ending} {run : Run σ}
  {earlier : List Event} {shape : Shape} {checker : CheckerId}
  {body : List Delivered → Action σ Output} {delivered : List Delivered}

end Poller

/-! ## A function that catches its own failures -/

end PollingAssertions
