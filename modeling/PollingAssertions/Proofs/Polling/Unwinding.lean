import PollingAssertions.Proofs.Polling.Attachment
import PollingAssertions.Proofs.Polling.Judging

/-!
# What unwinds a call

An unwinding that starts in the body of a probe is stopped right around the body, and
only stop signals and the mark of a failed expectation are kept; everything else goes
on. The matcher is asked outside of that, so whatever it raises goes on, even a stop
signal. The same payload has thus one fate or the other, depending on where it is
raised. What goes on goes all the way: the run ends at once, its slip is detached, and
the payload leaves the terminal call, which reports nothing.

In the other direction, a payload that leaves a call has come from one of a few
places. The body of the probe is one of them only for messages.

## Main definitions

* `Poller.Propagates` — a payload goes on from an attempt out of the terminal call.
* `Poller.Source` — the places from which a payload can leave a call.

## Main results

* `Probe.Calls.unique` — a call comes to one thing only.
* `Assertion.attempt_of_aborted` — the mark of a failed expectation is judged.
* `Poller.propagates_of_unwound` — what unwinds an attempt leaves the call.
* `Poller.source_of_conclude` — what leaves a call comes from one of its sources.
* `Poller.conclude_unwinds` — the fate of every payload.
-/

namespace PollingAssertions

/-- Reporting does not unwind if the failure handler does not. -/
theorem Poller.report_ne_error {σ : Type} {poller : Poller σ} {failure : Failure} {s t : σ}
    {payload : Payload} (hhandler : (poller.handler failure).Returns) :
    poller.report failure s ≠ .error payload t := by
  intro hunwinds
  obtain ⟨u, hreport⟩ := report_returns hhandler s
  cases hunwinds.symm.trans hreport

/-! ## Calls of a function -/

section

variable {σ : Type} [HasCheckers σ]

/-- A call comes to one thing only. -/
theorem Probe.Calls.unique {probe : Probe σ} {kind : Kind} {settings : Settings} {s : σ}
    {result result' : EStateM.Result Payload σ Output} (h : probe.Calls kind settings s result)
    (h' : probe.Calls kind settings s result') : result = result' := by
  obtain ⟨shape, checker, body, delivered, hprobe, hfilled, hbody⟩ := h
  obtain ⟨shape', checker', body', delivered', hprobe', hfilled', hbody'⟩ := h'
  cases hprobe.symm.trans hprobe'
  cases Except.ok.inj (hfilled.symm.trans hfilled')
  rw [← hbody, ← hbody']

variable [ReasonLog σ] {assertion : Assertion σ} {v u : σ}

/-- An attempt in which the mark of a failed expectation was raised is judged, unless the
matcher unwinds. -/
theorem Assertion.attempt_of_aborted
    (hcalls : assertion.probe.Calls assertion.kind assertion.settings v (.error .abort u))
    (hmatcher : ∀ payload t, ¬ assertion.MatcherRaises v payload t) :
    ∃ e t, assertion.attempt v = .ok (.ok (.evaluated e)) t := by
  obtain ⟨shape, checker, body, delivered, hprobe, hfilled, hbody⟩ := hcalls
  have hproduces : assertion.probe.Produces assertion.kind assertion.settings v
      (.aborted (Checker.kept? checker u)) (Checker.clear checker u) := by
    rw [hprobe]
    exact .aborted hfilled hbody
  cases hevaluate : (Invocation.aborted (Checker.kept? checker u)).evaluate assertion.matcher
      assertion.probe.returnsNothing assertion.positive assertion.wantsHints
      (Checker.clear checker u) with
  | error payload t =>
      exact absurd (.intro hproduces (Invocation.evaluate_eq_error_iff.1 hevaluate))
        (hmatcher payload t)
  | ok judgement t =>
      have hattempt : assertion.attempt v = .ok (.ok judgement) t := by
        unfold attempt
        rw [Action.bind_ok hproduces.invoke]
        exact Action.bind_ok hevaluate
      cases judgement with
      | evaluated e => exact ⟨e, t, hattempt⟩
      | interrupted stop => cases (Invocation.interrupted_of_evaluate hevaluate).1

end

namespace Poller

variable {σ : Type} [ReasonLog σ] [HasCheckers σ] [HasContexts σ] [HasDesk σ]

/-- A payload goes on from an attempt that was begun after `earlier` and left the world `t`.
The run ends with it, and it leaves the terminal call, which reports nothing and renders no
description. Nothing happens after the attempt, except that the slip is detached; up to
then only foreign code has changed the attachers since the slip was attached. -/
structure Propagates (poller : Poller σ) (assertion : Assertion σ) (limit : Nat) (s : σ)
    (ending? : Option Ending) (run : Run σ) (payload : Payload) (earlier : List Event) (t : σ) :
    Prop where
  escapes : ending? = some (.escaped payload)
  leaves : poller.conclude assertion limit s = .error payload run.world
  silent : poller.ReportsPlainly assertion limit s []
  last : run.journal = .began :: earlier
  drifts : poller.Drifts assertion (Progress.attach? assertion.settings.context? s).2 t
  detached : run.world = Progress.detach (assertion.slip? s) t

/-- The places from which a payload can leave a terminal call: a message from the body of the
probe, anything from its matcher, from a pause, or from the description of a failure. -/
inductive Source (poller : Poller σ) (assertion : Assertion σ) (s : σ) (run : Run σ) :
    Payload → Prop
  | body {earlier : List Event} {text : String} {v t : σ} :
      run.journal = .began :: earlier → poller.Reaches assertion s earlier v →
      assertion.probe.Calls assertion.kind assertion.settings v (.error (.message text) t) →
      Source poller assertion s run (.message text)
  | matcher {earlier : List Event} {payload : Payload} {v t : σ} :
      run.journal = .began :: earlier → poller.Reaches assertion s earlier v →
      assertion.MatcherRaises v payload t → Source poller assertion s run payload
  | pause {d : Span} {payload : Payload} {v t : σ} :
      poller.Reaches assertion s run.journal v →
      poller.clock.sleep d assertion.settings.context? v = .error payload t →
      Source poller assertion s run payload
  | description {payload : Payload} {t : σ} :
      assertion.describe run.world = .error payload t → Source poller assertion s run payload

variable {poller : Poller σ} {assertion : Assertion σ} {limit : Nat} {s v t : σ}
  {ending? : Option Ending} {run : Run σ} {earlier : List Event} {payload : Payload}

/-- What unwinds an attempt leaves the call. -/
theorem propagates_of_unwound [DeskApart σ] (h : poller.run assertion limit s = (ending?, run))
    (hvalid : assertion.probe.validate assertion.kind assertion.settings = .ok ())
    (hbegan : .began :: earlier <:+ run.journal) (hcourse : poller.Reaches assertion s earlier v)
    (hattempt : assertion.attempt v = .error payload t) :
    poller.Propagates assertion limit s ending? run payload earlier t := by
  obtain ⟨rfl, hworld⟩ := run_escaped h hbegan hcourse hattempt
  have hlast : run.journal = .began :: earlier := by
    obtain ⟨w, u, hconcluded, hrun, _, _⟩ := run_over h
    have hunjudged : ∀ {judgement}, ¬ .attempted judgement :: .began :: earlier <:+ run.journal := by
      intro judgement hsuffix
      obtain ⟨_, hjudged⟩ := hrun.attempt_eq hsuffix hcourse
      cases hattempt.symm.trans hjudged
    rcases hconcluded.attempt_of_began hbegan with ⟨_, _, hsuffix⟩ | ⟨_, _, hsuffix, _⟩ |
      ⟨hjournal, _⟩
    · exact absurd hsuffix hunjudged
    · exact absurd hsuffix hunjudged
    · exact hjournal
  have hdrifts : poller.Drifts assertion (Progress.attach? assertion.settings.context? s).2 t := by
    have hleft : assertion.attempt.after v = t := Action.after_error hattempt
    rw [← hleft]
    exact (drifts_of_reaches hcourse).tail (.inl .attempt)
  exact ⟨rfl, conclude_escaped h hvalid, reports_of_escaped h hvalid, hlast, hdrifts, hworld⟩

/-- What ends a run by unwinding comes from the body of the probe, its matcher, or a pause. -/
theorem source_of_run (h : poller.run assertion limit s = (some (.escaped payload), run)) :
    poller.Source assertion s run payload := by
  obtain ⟨w, u, _, hrun, hleaves, _⟩ := run_over h
  cases hleaves with
  | escaped hattempt hjournal =>
      rw [hjournal] at hrun
      obtain ⟨v, hcourse, hbegan⟩ := course_cons.1 hrun
      cases hbegan with
      | began =>
          rcases Assertion.attempt_eq_error_iff.1 hattempt with ⟨text, rfl, hcalls⟩ | hraises
          · exact .body hjournal hcourse hcalls
          · exact .matcher hjournal hcourse hraises
  | disturbed hsleep _ => exact .pause hrun hsleep

/-- What leaves a call whose failure handler returns comes from one of its sources. -/
theorem source_of_conclude (h : poller.run assertion limit s = (ending?, run))
    (hvalid : assertion.probe.validate assertion.kind assertion.settings = .ok ())
    (hhandler : ∀ failure, (poller.handler failure).Returns)
    (hunwinds : poller.conclude assertion limit s = .error payload t) :
    poller.Source assertion s run payload := by
  cases ending? with
  | none =>
      rw [conclude_polled h hvalid] at hunwinds
      cases hunwinds
  | some ending =>
      cases ending with
      | passed =>
          rw [conclude_passed h hvalid] at hunwinds
          cases hunwinds
      | failed termination reason d =>
          rw [conclude_failed h hvalid] at hunwinds
          rcases Action.bind_eq_error_iff.1 hunwinds with hdescribe | ⟨text, u, _, hreport⟩
          · exact .description hdescribe
          · exact absurd hreport (report_ne_error (hhandler _))
      | refused e =>
          rw [conclude_refused h hvalid] at hunwinds
          exact absurd hunwinds (report_ne_error (hhandler _))
      | escaped other =>
          rw [conclude_escaped h hvalid] at hunwinds
          cases hunwinds
          exact source_of_run h

/-- A run that an attempt has decided comes to a result, unless its description unwinds. -/
theorem conclude_of_decided {ending : Ending} {judgement : Judgement} {kind : Kind}
    {before : List (Option Judgement)}
    (h : poller.run assertion limit s = (some ending, run))
    (hvalid : assertion.probe.validate assertion.kind assertion.settings = .ok ())
    (hhandler : ∀ failure, (poller.handler failure).Returns)
    (hdecides : judgement.Decides kind before ending) :
    (∀ payload t, poller.conclude assertion limit s = .error payload t →
        assertion.describe run.world = .error payload t) ∧
      ((∀ write, assertion.description? ≠ some (.deferred write)) →
        ∃ holds t, poller.conclude assertion limit s = .ok (some holds) t) := by
  have hends : ending = .passed ∨ ∃ termination reason d, ending = .failed termination reason d := by
    cases hdecides with
    | passed _ _ | confirmed _ _ => exact .inl rfl
    | stopped _ _ | hinted _ _ _ _ | failed _ _ _ | interrupted _ => exact .inr ⟨_, _, _, rfl⟩
  rcases hends with rfl | ⟨termination, reason, d, rfl⟩
  · have hpassed := conclude_passed h hvalid
    refine ⟨fun payload t hunwinds => ?_, fun _ => ⟨true, run.world, hpassed⟩⟩
    cases hpassed.symm.trans hunwinds
  · rw [conclude_failed h hvalid]
    refine ⟨fun payload t hunwinds => ?_, fun hplain => ?_⟩
    · rcases Action.bind_eq_error_iff.1 hunwinds with hdescribe | ⟨text, u, _, hreport⟩
      · exact hdescribe
      · exact absurd hreport (report_ne_error (hhandler _))
    · obtain ⟨text, u, hdescribe, _⟩ := Assertion.describe_returns hplain run.world
      obtain ⟨t, hreport⟩ := report_returns
        (hhandler ⟨Report.message termination d text reason, Report.pollingSkip⟩) u
      exact ⟨false, t, (Action.bind_ok hdescribe).trans hreport⟩

/-- The fate of every payload. In any attempt a message from the body of the probe leaves the
terminal call, and so does anything that the matcher raises: the run ends at once, nothing is
reported, and the slip is detached, once. If the failure handler returns, nothing leaves the
call that was not a message from the body or was raised by the matcher, by a pause or by the
description. A stop signal from the body ends the run with a result, and the mark of a failed
expectation from the body is judged. -/
theorem conclude_unwinds [DeskApart σ] (h : poller.run assertion limit s = (ending?, run))
    (hvalid : assertion.probe.validate assertion.kind assertion.settings = .ok ()) :
    (∀ earlier v, .began :: earlier <:+ run.journal → poller.Reaches assertion s earlier v →
        (∀ text t,
          assertion.probe.Calls assertion.kind assertion.settings v (.error (.message text) t) →
          poller.Propagates assertion limit s ending? run (.message text) earlier t) ∧
        ∀ payload t, assertion.MatcherRaises v payload t →
          poller.Propagates assertion limit s ending? run payload earlier t) ∧
      ((∀ failure, (poller.handler failure).Returns) →
        (∀ payload t, poller.conclude assertion limit s = .error payload t →
          poller.Source assertion s run payload) ∧
        ∀ earlier v, .began :: earlier <:+ run.journal → poller.Reaches assertion s earlier v →
          (∀ stop u,
            assertion.probe.Calls assertion.kind assertion.settings v (.error (.stop stop) u) →
            Journal.attempts run.journal = some (.interrupted stop) :: Journal.attempts earlier ∧
              (∀ payload t, poller.conclude assertion limit s = .error payload t →
                assertion.describe run.world = .error payload t) ∧
              ((∀ write, assertion.description? ≠ some (.deferred write)) →
                ∃ holds t, poller.conclude assertion limit s = .ok (some holds) t)) ∧
          ∀ u, assertion.probe.Calls assertion.kind assertion.settings v (.error .abort u) →
            (∀ payload t, ¬ assertion.MatcherRaises v payload t) →
            ∃ e, .attempted (.evaluated e) :: .began :: earlier <:+ run.journal) := by
  refine ⟨fun earlier v hbegan hcourse => ⟨fun text t hcalls => ?_, fun payload t hraises => ?_⟩,
    fun hhandler => ⟨fun payload t => source_of_conclude h hvalid hhandler,
      fun earlier v hbegan hcourse => ⟨fun stop u hcalls => ?_, fun u hcalls hmatcher => ?_⟩⟩⟩
  · have hattempt : assertion.attempt v = .error (.message text) t :=
      Assertion.attempt_eq_error_iff.2 (.inl ⟨text, rfl, hcalls⟩)
    exact propagates_of_unwound h hvalid hbegan hcourse hattempt
  · have hattempt : assertion.attempt v = .error payload t :=
      Assertion.attempt_eq_error_iff.2 (.inr hraises)
    exact propagates_of_unwound h hvalid hbegan hcourse hattempt
  · have hdecisive : ¬ (Judgement.interrupted stop).LeavesOpen assertion.kind := by
      rintro ⟨e, heq, _⟩
      cases heq
    obtain ⟨ending, rfl, hdecides, hattempts⟩ :=
      run_decided h hbegan hcourse (Assertion.attempt_of_raised hcalls) hdecisive
    exact ⟨hattempts, conclude_of_decided h hvalid hhandler hdecides⟩
  · obtain ⟨e, t, hattempt⟩ := Assertion.attempt_of_aborted hcalls hmatcher
    exact ⟨e, run_attempted h hbegan hcourse hattempt⟩

end Poller

/-! ## A payload raised in two places -/

/-- Calls a function that returns a text until some time has come, and then unwinds with a
payload; its matcher unwinds with a stop signal at once, or waits. -/
def Assertion.unwinding (payload : Payload) (time : Span) (raises : Bool)
    (context? : Option ContextId) : Assertion Session.World where
  kind := .eventually
  probe := .function ⟨[], .value, "fn() -> String"⟩ 0 fun _ s =>
    if s.clock.now < time then .ok ⟨.ofString "", []⟩ s else .error payload s
  settings := ⟨some 4, some 2, context?, []⟩
  matcher :=
    if raises then
      Judge.toMatcher
        { verdict := fun _ => Action.raise (.stop ⟨"enough", false, true⟩)
          failureText := fun _ => return ""
          negatedText := fun _ => return ""
          hint := fun _ => return none }
    else .since 9
  positive := true
  description? := none

/-- A message from the body leaves the call, and the slip is detached. A stop signal leaves the
call if the matcher raises it, but not if the body does. -/
theorem Poller.conclude_unwinds_unwinding :
    (∃ t, Poller.virtual.conclude (.unwinding (.message "boom") 0 false (some 2)) 9
        Session.World.attended = .error (.message "boom") t ∧ t.desk.attacher "a" = ⟨some 0, 1, 1⟩) ∧
      (∃ t, Poller.virtual.conclude (.unwinding .abort 9 true none) 9 (Session.World.starting 0) =
        .error (.stop ⟨"enough", false, true⟩) t) ∧
      ∃ holds t, Poller.virtual.conclude
        (.unwinding (.stop ⟨"enough", false, true⟩) 2 false none) 9 (Session.World.starting 0) =
          .ok (some holds) t := by
  refine ⟨?_, ?_, ?_⟩
  · generalize hrun : Poller.virtual.run (.unwinding (.message "boom") 0 false (some 2)) 9
      Session.World.attended = run
    have hbegan : Event.began :: [.looked false] <:+ run.2.journal := by
      rw [← hrun]
      decide +kernel
    have hattacher : run.2.world.desk.attacher "a" = ⟨some 0, 1, 1⟩ := by
      rw [← hrun]
      decide +kernel
    have hundone : ((Poller.virtual.scene (.unwinding (.message "boom") 0 false (some 2))
        Session.World.attended).cancelled (Poller.virtual.outset
          (.unwinding (.message "boom") 0 false (some 2)) Session.World.attended).world).1 =
        false := by
      decide +kernel
    obtain ⟨hraised, -⟩ := conclude_unwinds hrun rfl
    obtain ⟨hbody, -⟩ := hraised _ _ hbegan (.cons .nil (.looked (Prod.ext hundone rfl)))
    have hpropagates := hbody "boom" _ ⟨_, _, _, _, rfl, rfl, rfl⟩
    exact ⟨_, hpropagates.leaves, hattacher⟩
  · generalize hrun : Poller.virtual.run (.unwinding .abort 9 true none) 9
      (Session.World.starting 0) = run
    have hbegan : Event.began :: [.looked false] <:+ run.2.journal := by
      rw [← hrun]
      decide +kernel
    obtain ⟨hraised, -⟩ := conclude_unwinds hrun rfl
    obtain ⟨-, hmatcher⟩ := hraised _ _ hbegan (.cons .nil (.looked rfl))
    have hpropagates := hmatcher (.stop ⟨"enough", false, true⟩) _
      (.intro (.returned rfl rfl) (.value rfl (by simp) (.verdict rfl)))
    exact ⟨_, hpropagates.leaves⟩
  · generalize hrun : Poller.virtual.run
      (.unwinding (.stop ⟨"enough", false, true⟩) 2 false none) 9 (Session.World.starting 0) = run
    have hbegan : Event.began ::
        [.looked false, .elapsed 2, .looked false, .paused 2, .elapsed 0, .looked false,
          .attempted (.evaluated ⟨false, "too early", none, none⟩), .began, .looked false] <:+
        run.2.journal := by
      rw [← hrun]
      decide +kernel
    have hhandler : ∀ failure, ((Poller.virtual : Poller Session.World).handler failure).Returns :=
      fun failure s => ⟨(), _, rfl, trivial⟩
    obtain ⟨-, habsorbed⟩ := conclude_unwinds hrun rfl
    obtain ⟨-, hbody⟩ := habsorbed hhandler
    obtain ⟨hstopped, -⟩ := hbody _ _ hbegan
      (.cons (.cons (.cons (.cons (.cons (.cons (.cons (.cons (.cons .nil (.looked rfl)) .began)
        (.evaluated rfl)) (.looked rfl)) (.elapsed rfl)) (.paused rfl)) (.looked rfl))
        (.elapsed rfl)) (.looked rfl))
    obtain ⟨-, -, hreturns⟩ := hstopped ⟨"enough", false, true⟩ _ ⟨_, _, _, _, rfl, rfl, rfl⟩
    refine hreturns fun write hdeferred => ?_
    cases hdeferred

end PollingAssertions
