import PollingAssertions.Proofs.Polling.Decision
import PollingAssertions.Proofs.Polling.Verdict

/-!
# Stop signals end a run

A function that is probed can ask for polling to end in two ways: it returns a
stop signal, as its value or among the extra values, or it raises one. On the
way from the function to the loop there are several places where an attempt
can be found to be an error, so a returned signal has to be carried past each
of them. This module shows that it is: whatever else is wrong with an attempt,
its evaluation has the signal that was returned.

## Main definitions

* `Datum.Carries`, `Output.Signals` — the values that are stop signals, and the
  signal that counts if there are several.
* `Probe.Calls` — what the function of a probe does when it is called.
* `Matcher.NeverUnwinds` — every question to a matcher is answered.

## Main results

* `Output.signal?_eq_some_iff` — the signal that a function is found to return
  is the one that counts.
* `Assertion.attempt_of_returned`, `Assertion.attempt_of_raised` — the signal
  reaches the judgement on the attempt.
* `Poller.run_stops` — an attempt with a stop signal is the last one of its run.
-/

namespace PollingAssertions

/-! ## Values that are stop signals -/

/-- A value is a stop signal: the signal itself, one that is present, or the
error of a result that has no other value. -/
inductive Datum.Carries : Datum → StopSignal → Prop
  | signal {stop : StopSignal} : Carries ⟨.stopSignal, .stop stop⟩ stop
  | present {stop : StopSignal} : Carries ⟨.option .stopSignal, .present (.stop stop)⟩ stop
  | error {stop : StopSignal} : Carries ⟨.result .unit .stopSignal, .error (.stop stop)⟩ stop

theorem Datum.signal?_eq_some_iff {datum : Datum} {stop : StopSignal} :
    datum.signal? = some stop ↔ datum.Carries stop := by
  constructor
  · intro h
    obtain ⟨type, value⟩ := datum
    unfold signal? at h
    split at h
    · rename_i htype hvalue
      cases htype
      cases hvalue
      cases h
      exact .signal
    · rename_i htype hvalue
      cases htype
      cases hvalue
      cases h
      exact .present
    · rename_i htype hvalue
      cases htype
      cases hvalue
      cases h
      exact .error
    · cases h
  · intro h
    cases h <;> rfl

/-- The signal that an output amounts to: that of the value, and else that of
the first extra value that is one. -/
inductive Output.Signals (out : Output) (stop : StopSignal) : Prop
  | value : out.value.Carries stop → Signals out stop
  | extra {before after : List Extra} {extra : Extra} :
      (∀ other, ¬ out.value.Carries other) → out.extras = before ++ extra :: after →
      (∀ e ∈ before, e.signal? = none) → extra.signal? = some stop → Signals out stop

/-- The signal that an output is found to have is the one that counts. -/
theorem Output.signal?_eq_some_iff {out : Output} {stop : StopSignal} :
    out.signal? = some stop ↔ out.Signals stop := by
  unfold signal?
  cases hvalue : out.value.signal? with
  | some other =>
      have hcarries : out.value.Carries other := Datum.signal?_eq_some_iff.1 hvalue
      rw [Option.some_or, Option.some.injEq]
      constructor
      · intro heq
        subst heq
        exact .value hcarries
      · intro h
        cases h with
        | value h => exact Option.some.inj (hvalue.symm.trans (Datum.signal?_eq_some_iff.2 h))
        | extra hnone _ _ _ => exact absurd hcarries (hnone other)
  | none =>
      have hnone : ∀ other, ¬ out.value.Carries other := by
        intro other h
        cases hvalue.symm.trans (Datum.signal?_eq_some_iff.2 h)
      rw [Option.none_or, List.findSome?_eq_some_iff]
      constructor
      · intro h
        obtain ⟨before, extra, after, hextras, hsignal, hbefore⟩ := h
        exact .extra hnone hextras hbefore hsignal
      · intro h
        cases h with
        | value h => exact absurd h (hnone stop)
        | extra _ hextras hbefore hsignal => exact ⟨_, _, _, hextras, hsignal, hbefore⟩

/-! ## Matchers that never unwind -/

namespace Action

variable {σ α β : Type}

/-- An action returns, whatever the world is, and what it returns is so. -/
def Gives (x : Action σ α) (p : α → Prop) : Prop := ∀ s, ∃ a t, x s = .ok a t ∧ p a

/-- An action returns, whatever the world is. -/
def Returns (x : Action σ α) : Prop := x.Gives fun _ => True

namespace Gives

variable {x : Action σ α} {f : α → Action σ β} {p : α → Prop} {q : β → Prop}

theorem pure {a : α} (h : p a) : (Pure.pure a : Action σ α).Gives p := fun s => ⟨a, s, rfl, h⟩

theorem bind (hx : x.Gives p) (hf : ∀ a, p a → (f a).Gives q) : (x >>= f).Gives q := by
  intro s
  obtain ⟨a, t, hstep, ha⟩ := hx s
  rw [bind_ok hstep]
  exact hf a ha t

end Gives

end Action

section

variable {σ α : Type}

/-- Every question to a judge is answered. -/
structure Judge.NeverUnwinds (judge : Judge σ α) : Prop where
  verdict : ∀ a, (judge.verdict a).Returns
  failureText : ∀ a, (judge.failureText a).Returns
  negatedText : ∀ a, (judge.negatedText a).Returns
  hint : ∀ a, (judge.hint a).Returns

/-- Every question to a matcher is answered, also those about outcomes. -/
structure Matcher.NeverUnwinds (matcher : Matcher σ α) : Prop where
  subjects : matcher.toJudge.NeverUnwinds
  outcomes : ∀ judge, matcher.callback = some judge → judge.NeverUnwinds

namespace Judge.NeverUnwinds

variable {judge : Judge σ α}

theorem textFor (h : judge.NeverUnwinds) (positive : Bool) (a : α) :
    (judge.textFor positive a).Returns := by
  cases positive with
  | true => exact h.failureText a
  | false => exact h.negatedText a

/-- Judging a subject comes to a result that keeps the signal. -/
theorem evaluate (h : judge.NeverUnwinds) (positive hinting : Bool) (stop? : Option StopSignal)
    (a : α) : (judge.evaluate positive hinting stop? a).Gives fun e => e.stop? = stop? := by
  have hhinted : ∀ passed reason,
      (if hinting && !passed then
        judge.hint a >>= fun hint? => (Pure.pure ⟨passed, reason, stop?, hint?⟩ : Action σ Evaluation)
      else Pure.pure ⟨passed, reason, stop?, none⟩).Gives fun e => e.stop? = stop? := by
    intro passed reason
    by_cases hasked : (hinting && !passed) = true
    · rw [if_pos hasked]
      exact .bind (h.hint a) fun _ _ => .pure rfl
    · rw [if_neg hasked]
      exact .pure rfl
  unfold Judge.evaluate
  refine .bind (h.verdict a) fun answer _ => ?_
  cases answer with
  | ok verdict =>
      exact .bind (h.textFor positive a) fun reason _ => hhinted (verdict == positive) reason
  | error e => exact hhinted false ("Error: " ++ e.message)

end Judge.NeverUnwinds

end

/-! ## From the function to the judgement -/

section

variable {σ : Type} [ReasonLog σ]

namespace Invocation

variable {matcher : Matcher σ Datum} {judge : Judge σ Datum} {value : Datum} {extras : List Extra}
  {failure? : Option CallbackFailure} {stop? : Option StopSignal}

/-- Whatever is wrong with what was returned, judging it by its value keeps the
signal. -/
theorem evaluateValue_returned (h : judge.NeverUnwinds) (positive hinting : Bool) :
    ((returned value extras failure? stop?).evaluateValue judge positive hinting).Gives
      fun judgement => ∃ e, judgement = .evaluated e ∧ e.stop? = stop? := by
  cases failure? with
  | some failure => exact .pure ⟨_, rfl, rfl⟩
  | none =>
      cases hextra : unexpectedExtra? 0 extras with
      | some found =>
          simp only [evaluateValue, hextra]
          -- working out the reasons that the text shows never unwinds
          refine .bind (p := fun _ => True) (fun s => ⟨(), _, rfl, trivial⟩) fun _ _ => ?_
          exact .pure ⟨_, rfl, rfl⟩
      | none =>
          simp only [evaluateValue, hextra]
          exact .bind (h.evaluate positive hinting stop? value) fun e he => .pure ⟨e, rfl, he⟩

omit [ReasonLog σ] in
theorem evaluateOutcome_returned {judge : Judge σ CallbackOutcome} (h : judge.NeverUnwinds)
    (positive : Bool) :
    ((returned value extras failure? stop?).evaluateOutcome judge positive).Gives
      fun judgement => ∃ e, judgement = .evaluated e ∧ e.stop? = stop? :=
  .bind (h.evaluate positive false stop? _) fun e he => .pure ⟨e, rfl, he⟩

/-- What was returned is evaluated, and the evaluation keeps the signal. -/
theorem evaluate_returned (h : matcher.NeverUnwinds) (returnsNothing positive hinting : Bool) :
    ((returned value extras failure? stop?).evaluate matcher returnsNothing positive hinting).Gives
      fun judgement => ∃ e, judgement = .evaluated e ∧ e.stop? = stop? := by
  unfold evaluate
  split
  · rename_i judge hcallback
    exact evaluateOutcome_returned (h.outcomes judge hcallback) positive
  · exact evaluateValue_returned h.subjects positive hinting

/-- A raised signal is the judgement. -/
theorem evaluate_interrupted (stop : StopSignal) (returnsNothing positive hinting : Bool) :
    (interrupted stop).evaluate matcher returnsNothing positive hinting =
      return .interrupted stop := by
  unfold evaluate
  split <;> rfl

end Invocation

end

section

variable {σ : Type} [HasCheckers σ]

/-- The function of a probe is called in a world, with its parameters filled
and its checker clear, and this is what it does. -/
def Probe.Calls (probe : Probe σ) (kind : Kind) (settings : Settings) (s : σ)
    (result : EStateM.Result Payload σ Output) : Prop :=
  ∃ shape checker body delivered, probe = .function shape checker body ∧
    Param.fetchAll kind shape.signature 0 shape.params
      (.fresh checker settings.context? settings.arguments) = .ok delivered ∧
    body delivered (Checker.clear checker s) = result

/-- An attempt at a function whose parameters can be filled is a call. -/
theorem Probe.invoke_filled {shape : Shape} {checker : CheckerId}
    {body : List Delivered → Action σ Output} {kind : Kind} {settings : Settings}
    {delivered : List Delivered}
    (hfilled : Param.fetchAll kind shape.signature 0 shape.params
      (.fresh checker settings.context? settings.arguments) = .ok delivered) (s : σ) :
    (Probe.function shape checker body).invoke kind settings s =
      ((body delivered).caught >>= fun ended => do return .ok (← conclude checker ended))
        (Checker.clear checker s) := by
  have hcleared : (modify (Checker.clear checker) : Action σ Unit) s =
      .ok () (Checker.clear checker s) := rfl
  unfold invoke
  simp only [hfilled]
  exact Action.bind_ok hcleared

namespace Probe.Calls

variable {probe : Probe σ} {kind : Kind} {settings : Settings} {s u : σ} {out : Output}
  {stop : StopSignal}

theorem invoke_returned (h : probe.Calls kind settings s (.ok out u)) :
    ∃ failure? t, probe.invoke kind settings s =
      .ok (.ok (.returned out.value out.extras failure? out.signal?)) t := by
  obtain ⟨shape, checker, body, delivered, rfl, hfilled, hbody⟩ := h
  have hcaught : (body delivered).caught (Checker.clear checker s) = .ok (.ok out) u :=
    Action.caught_ok hbody
  refine ⟨Checker.kept? checker u, Checker.clear checker u, ?_⟩
  rw [invoke_filled hfilled, Action.bind_ok hcaught]
  rfl

/-- A raised signal goes past everything. -/
theorem invoke_raised (h : probe.Calls kind settings s (.error (.stop stop) u)) :
    probe.invoke kind settings s = .ok (.ok (.interrupted stop)) u := by
  obtain ⟨shape, checker, body, delivered, rfl, hfilled, hbody⟩ := h
  have hcaught : (body delivered).caught (Checker.clear checker s) = .ok (.error (.stop stop)) u :=
    Action.caught_error hbody
  rw [invoke_filled hfilled, Action.bind_ok hcaught]
  rfl

end Probe.Calls

namespace Assertion

variable [ReasonLog σ] {assertion : Assertion σ} {s u : σ} {out : Output} {stop : StopSignal}

/-- A signal that is returned reaches the evaluation of the attempt. -/
theorem attempt_of_returned
    (hcalls : assertion.probe.Calls assertion.kind assertion.settings s (.ok out u))
    (hmatcher : assertion.matcher.NeverUnwinds) :
    ∃ e t, assertion.attempt s = .ok (.ok (.evaluated e)) t ∧ e.stop? = out.signal? := by
  obtain ⟨failure?, v, hinvoke⟩ := hcalls.invoke_returned
  have hjudged : ((Invocation.returned out.value out.extras failure? out.signal?).evaluate
      assertion.matcher assertion.probe.returnsNothing assertion.positive
      assertion.wantsHints).Gives
        fun judgement => ∃ e, judgement = .evaluated e ∧ e.stop? = out.signal? :=
    Invocation.evaluate_returned hmatcher _ _ _
  obtain ⟨judgement, t, hevaluate, e, rfl, hstop⟩ := hjudged v
  refine ⟨e, t, ?_, hstop⟩
  unfold attempt
  rw [Action.bind_ok hinvoke]
  exact Action.bind_ok hevaluate

/-- A signal that is raised is the judgement on the attempt. -/
theorem attempt_of_raised
    (hcalls : assertion.probe.Calls assertion.kind assertion.settings s (.error (.stop stop) u)) :
    assertion.attempt s = .ok (.ok (.interrupted stop)) u := by
  unfold attempt
  rw [Action.bind_ok hcalls.invoke_raised]
  show ((Invocation.interrupted stop).evaluate _ _ _ _ >>= fun judgement => _) u = _
  rw [Invocation.evaluate_interrupted]
  rfl

end Assertion

end

/-! ## From the judgement to the ending -/

namespace Judgement.Decides

variable {kind : Kind} {earlier : List (Option Judgement)} {e : Evaluation} {stop : StopSignal}
  {ending : Ending}

/-- With a returned signal the run passes if the attempt did, and fails with the
text of the attempt otherwise. -/
theorem of_returned (h : (Judgement.evaluated e).Decides kind earlier ending)
    (hstop : e.stop? = some stop) :
    (ending = .passed ↔ e.passed = true) ∧
      (e.passed = false → ∃ d, ending = .failed (.stopped stop.reason) e.reason d) := by
  cases h with
  | passed hpassed _ => simp [hpassed]
  | @stopped _ stop' d hpassed hstop' =>
      have hsame : stop' = stop := Option.some.inj (hstop'.symm.trans hstop)
      subst hsame
      simp [hpassed]
  | hinted _ _ hnone _ => cases hnone.symm.trans hstop
  | failed _ _ hnone => cases hnone.symm.trans hstop

/-- With a raised signal a *consistently* run passes if there was an attempt
before, and fails with the text of the attempt before otherwise. -/
theorem of_raised (h : (Judgement.interrupted stop).Decides kind earlier ending) :
    (ending = .passed ↔ kind = .consistently ∧ earlier ≠ []) ∧
      (¬ (kind = .consistently ∧ earlier ≠ []) →
        ∃ d, ending = .failed (.stopped stop.reason) (Journal.lastText earlier) d) := by
  cases h with
  | confirmed hkind hmore => simp [hkind, hmore]
  | @interrupted _ d hnever =>
      have hnone : ¬ (kind = .consistently ∧ earlier ≠ []) := fun hboth =>
        hboth.2 (hnever hboth.1)
      refine ⟨⟨fun heq => ?_, fun hboth => absurd hboth hnone⟩, fun _ => ⟨d, rfl⟩⟩
      cases heq

end Judgement.Decides

namespace Poller

variable {σ : Type} [ReasonLog σ] [HasCheckers σ] [HasContexts σ] [HasDesk σ] {poller : Poller σ}
  {assertion : Assertion σ} {limit : Nat} {s : σ} {ending? : Option Ending} {run : Run σ}

/-- Every attempt before one that was begun has been evaluated. -/
theorem attempts_ne_nil_iff (h : poller.run assertion limit s = (ending?, run))
    {earlier : List Event} (hbegan : .began :: earlier <:+ run.journal) :
    Journal.attempts earlier ≠ [] ↔ ∃ e, some (.evaluated e) ∈ Journal.attempts earlier := by
  obtain ⟨opening, rfl, hpending⟩ := run_opening_of_began h hbegan
  rw [Journal.attempts_looked]
  constructor
  · intro hmore
    obtain ⟨e, before, hattempts⟩ := hpending.exists_evaluated hmore
    exact ⟨e, by rw [hattempts]; exact List.mem_cons_self⟩
  · intro h
    obtain ⟨e, he⟩ := h
    exact List.ne_nil_of_mem he

/-- An attempt at a function that returns or raises a stop signal is the last one
of its run. If the signal is returned, whatever else is returned and whatever
becomes of the attempt, then the run passes exactly if the attempt did, and
otherwise fails with the reason of the signal and the text of the attempt. If
it is raised, then the run passes exactly if it is a *consistently* run with an
earlier attempt that was evaluated, and otherwise fails with the text of the
attempt before. -/
theorem run_stops (h : poller.run assertion limit s = (ending?, run)) {earlier : List Event} {v : σ}
    (hbegan : .began :: earlier <:+ run.journal)
    (hcourse : poller.Reaches assertion s earlier v) :
    (∀ (datum : Datum) stop, (Extra.ofDatum datum).signal? = some stop ↔ datum.Carries stop) ∧
      (∀ out stop u, assertion.probe.Calls assertion.kind assertion.settings v (.ok out u) →
        assertion.matcher.NeverUnwinds → out.Signals stop →
        ∃ e t, assertion.attempt v = .ok (.ok (.evaluated e)) t ∧
          Journal.attempts run.journal = some (.evaluated e) :: Journal.attempts earlier ∧
          (ending? = some .passed ↔ e.passed = true) ∧
          (e.passed = false →
            ∃ d, ending? = some (.failed (.stopped stop.reason) e.reason d))) ∧
      (∀ stop u,
        assertion.probe.Calls assertion.kind assertion.settings v (.error (.stop stop) u) →
        Journal.attempts run.journal = some (.interrupted stop) :: Journal.attempts earlier ∧
          (ending? = some .passed ↔ assertion.kind = .consistently ∧
            ∃ e, some (.evaluated e) ∈ Journal.attempts earlier) ∧
          (¬ (assertion.kind = .consistently ∧
              ∃ e, some (.evaluated e) ∈ Journal.attempts earlier) →
            ∃ d, ending? = some (.failed (.stopped stop.reason)
              (Journal.lastText (Journal.attempts earlier)) d))) := by
  refine ⟨fun datum stop => Datum.signal?_eq_some_iff, ?_, ?_⟩
  · intro out stop u hcalls hmatcher hsignals
    obtain ⟨e, t, hattempt, hstop⟩ := Assertion.attempt_of_returned hcalls hmatcher
    rw [Output.signal?_eq_some_iff.2 hsignals] at hstop
    have hdecisive : ¬ (Judgement.evaluated e).LeavesOpen assertion.kind := by
      intro hopen
      obtain ⟨e', heq, hopen⟩ := hopen
      cases heq
      cases hopen.stop?_eq_none.symm.trans hstop
    obtain ⟨ending, rfl, hdecides, hattempts⟩ :=
      run_decided h hbegan hcourse hattempt hdecisive
    obtain ⟨hpassed, hfailed⟩ := hdecides.of_returned hstop
    refine ⟨e, t, hattempt, hattempts, ?_, fun hnot => ?_⟩
    · rw [Option.some.injEq]
      exact hpassed
    · obtain ⟨d, hending⟩ := hfailed hnot
      exact ⟨d, by rw [hending]⟩
  · intro stop u hcalls
    have hdecisive : ¬ (Judgement.interrupted stop).LeavesOpen assertion.kind := by
      intro hopen
      obtain ⟨e, heq, _⟩ := hopen
      cases heq
    obtain ⟨ending, rfl, hdecides, hattempts⟩ :=
      run_decided h hbegan hcourse (Assertion.attempt_of_raised hcalls) hdecisive
    rw [← attempts_ne_nil_iff h hbegan, Option.some.injEq]
    obtain ⟨hpassed, hfailed⟩ := hdecides.of_raised
    refine ⟨hattempts, hpassed, fun hnot => ?_⟩
    obtain ⟨d, hending⟩ := hfailed hnot
    exact ⟨d, by rw [hending]⟩

end Poller

/-! ## A function that asks to stop -/

section

variable {σ : Type} [HasVirtualClock σ]

theorem Matcher.since_neverUnwinds (time : Span) : (Matcher.since (σ := σ) time).NeverUnwinds where
  subjects := ⟨fun _ s => ⟨_, s, rfl, trivial⟩, fun _ s => ⟨_, s, rfl, trivial⟩,
    fun _ s => ⟨_, s, rfl, trivial⟩, fun _ s => ⟨_, s, rfl, trivial⟩⟩
  outcomes := by
    intro judge hcallback
    cases hcallback

/-- Calls a function that returns a text, and from some time on asks to stop: it
then returns a signal in front of another extra value, or raises one. The text
matches later than that. -/
def Assertion.stopping (kind : Kind) (raises : Bool) (time : Span) : Assertion σ where
  kind := kind
  probe := .function ⟨[], .value, "fn() -> String"⟩ 0 fun _ s =>
    if (HasVirtualClock.part.get s).now < time then .ok ⟨.ofString "", []⟩ s
    else if raises then .error (.stop ⟨"enough", false, true⟩) s
    else .ok ⟨.ofString "", [.ofDatum ⟨.stopSignal, .stop ⟨"enough", false, false⟩⟩]⟩ s
  settings := ⟨some 10, some 4, none, []⟩
  matcher := .since 9
  positive := kind == .eventually
  description? := none

end

/-- Returning a signal ends an *eventually* run with its first attempt; raising one
in the second attempt brings a *consistently* run to a good end. -/
theorem Poller.run_stops_stopping :
    (∃ e, Journal.attempts (Poller.virtual.run (Assertion.stopping .eventually false 0) 9
        (Session.World.starting 0)).2.journal = [some (.evaluated e)]) ∧
      (Poller.virtual.run (Assertion.stopping .consistently true 3) 9
        (Session.World.starting 0)).1 = some .passed := by
  constructor
  · have hbegan : Event.began :: [.looked false] <:+
        (Poller.virtual.run (Assertion.stopping .eventually false 0) 9
          (Session.World.starting 0)).2.journal := by
      decide +kernel
    obtain ⟨-, hreturned, -⟩ :=
      run_stops (run_eq_of_fst rfl) hbegan (.cons .nil (.looked rfl))
    have hsignals : Output.Signals
        ⟨.ofString "", [.ofDatum ⟨.stopSignal, .stop ⟨"enough", false, false⟩⟩]⟩
        ⟨"enough", false, false⟩ := Output.signal?_eq_some_iff.1 rfl
    obtain ⟨e, t, -, hattempts, -⟩ :=
      hreturned _ _ _ ⟨_, _, _, _, rfl, rfl, rfl⟩ (Matcher.since_neverUnwinds 9) hsignals
    exact ⟨e, hattempts⟩
  · have hbegan : Event.began ::
        [.looked false, .elapsed 4, .looked false, .paused 4, .elapsed 0, .looked false,
          .attempted (.evaluated ⟨true, "too late", none, none⟩), .began, .looked false] <:+
        (Poller.virtual.run (Assertion.stopping .consistently true 3) 9
          (Session.World.starting 0)).2.journal := by
      decide +kernel
    obtain ⟨-, -, hraised⟩ :=
      run_stops (run_eq_of_fst rfl) hbegan
        (.cons (.cons (.cons (.cons (.cons (.cons (.cons (.cons (.cons .nil (.looked rfl)) .began)
          (.evaluated rfl)) (.looked rfl)) (.elapsed rfl)) (.paused rfl)) (.looked rfl))
          (.elapsed rfl)) (.looked rfl))
    obtain ⟨-, hpassed, -⟩ :=
      hraised ⟨"enough", false, true⟩ _ ⟨_, _, _, _, rfl, rfl, rfl⟩
    exact hpassed.2 ⟨rfl, _, List.mem_cons_self⟩

end PollingAssertions
