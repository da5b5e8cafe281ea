import PollingAssertions.Proofs.Polling.Stopping

/-!
# What an assertion reports

To conclude an assertion is to return whether it holds, and to report a failure if
it does not. Both the failure handler and the description are foreign code, so what
is said of them here is how often they are used and with what. For that each of the
two is left open: a call that comes to the same whatever handler it is given makes no
use of it, and one that comes to what the handler does with some failure, and to a
fixed rest, uses it exactly once.

An assertion that is made inside a probe may have the same handler. Its reports are
not those of the call around it, of which only the own handler is left open.

## Main definitions

* `Action.Asks` — what a computation asks an operation that is left open.
* `Poller.Reports`, `Poller.Renders` — the failures that a call reports, and how
  often it renders its description.
* `Poller.ReportsPlainly` — reports that are made without the description.

## Main results

* `Action.Asks.unique` — what is asked is determined by the computation.
* `Poller.conclude_rejected`, `Poller.conclude_polled` — the two ways a call goes.
* `Poller.conclude_reports` — when a call reports what.
-/

namespace PollingAssertions

/-! ## Operations that are left open -/

namespace Action

variable {σ ι α β : Type} {x : (ι → Action σ β) → EStateM.Result Payload σ α}
  {asked asked' : List ι}

/-- What a computation asks an operation that is left open: nothing if it comes to the
same with every operation, and one thing if it comes to what the operation answers
to that in some world, and to a rest that asks nothing. -/
inductive Asks (x : (ι → Action σ β) → EStateM.Result Payload σ α) : List ι → Prop
  | never {result : EStateM.Result Payload σ α} : (∀ op, x op = result) → Asks x []
  | once {i : ι} {s : σ} {rest : β → Action σ α} : (∀ op, x op = (op i >>= rest) s) → Asks x [i]

/-- An operation that unwinds shows that it was asked. -/
private theorem unwinds {op : ι → Action σ β} {i : ι} {s : σ} {rest : β → Action σ α}
    {payload : Payload} (hop : op i = raise payload) : (op i >>= rest) s = .error payload s := by
  rw [hop]
  exact bind_error rfl

/-- An operation that is asked once makes a difference. -/
private theorem not_never_of_once {result : EStateM.Result Payload σ α} {i : ι} {s : σ}
    {rest : β → Action σ α} (h : ∀ op, x op = result) (h' : ∀ op, x op = (op i >>= rest) s) :
    False := by
  have habort : result = .error .abort s := by
    rw [← h fun _ => raise .abort, h']
    exact unwinds rfl
  have hmessage : result = .error (.message "") s := by
    rw [← h fun _ => raise (.message ""), h']
    exact unwinds rfl
  cases habort.symm.trans hmessage

/-- A computation asks one thing only. -/
theorem Asks.unique (h : Asks x asked) (h' : Asks x asked') : asked = asked' := by
  classical
  cases h with
  | never h =>
      cases h' with
      | never _ => rfl
      | once h' => exact (not_never_of_once h h').elim
  | @once i s rest h =>
      cases h' with
      | never h' => exact (not_never_of_once h' h).elim
      | @once j t rest' h' =>
          by_cases hsame : i = j
          · rw [hsame]
          · -- an operation that unwinds with another payload for each of the two
            let op : ι → Action σ β := fun n => if n = i then raise .abort else raise (.message "")
            have hi : op i = raise .abort := if_pos rfl
            have hj : op j = raise (.message "") := if_neg fun heq => hsame heq.symm
            have heq : (op i >>= rest) s = (op j >>= rest') t := (h op).symm.trans (h' op)
            rw [unwinds hi, unwinds hj] at heq
            cases heq

end Action

/-! ## The ways in which a call goes -/

section

variable {σ : Type} [ReasonLog σ]

/-- Renders the description of an assertion; without one the text is empty. -/
def Assertion.describe (assertion : Assertion σ) : Action σ String :=
  match assertion.description? with
  | some description => description.render
  | none => pure ""

omit [ReasonLog σ] in
/-- Reports a failure and returns that the assertion does not hold. -/
def Poller.report (poller : Poller σ) (failure : Failure) : Action σ (Option Bool) := do
  poller.handler failure
  return some false

end

namespace Poller

section

variable {σ : Type} {poller : Poller σ} {failure : Failure} {s t : σ}

theorem report_eq_ok {answer : Option Bool} (h : poller.report failure s = .ok answer t) :
    answer = some false := by
  obtain ⟨_, u, _, hreturn⟩ := Action.bind_eq_ok_iff.1 h
  cases hreturn
  rfl

theorem report_returns (h : (poller.handler failure).Returns) (s : σ) :
    ∃ t, poller.report failure s = .ok (some false) t := by
  obtain ⟨_, t, hhandler, _⟩ := h s
  exact ⟨t, Action.bind_ok hhandler⟩

end

variable {σ : Type} [ReasonLog σ] [HasCheckers σ] [HasContexts σ] [HasDesk σ] {poller : Poller σ}
  {assertion : Assertion σ} {limit : Nat} {s : σ} {run : Run σ}

/-- A configuration that is rejected is reported, and nothing else happens. -/
theorem conclude_rejected {e : ConfigError}
    (hvalid : assertion.probe.validate assertion.kind assertion.settings = .error e) :
    poller.conclude assertion limit s = poller.report ⟨e.message, Report.configurationSkip⟩ s := by
  unfold conclude
  rw [hvalid]
  rfl

/-- Otherwise the assertion is polled, and what the run has come to is settled. -/
theorem conclude_polled {ending? : Option Ending}
    (hrun : poller.run assertion limit s = (ending?, run))
    (hvalid : assertion.probe.validate assertion.kind assertion.settings = .ok ()) :
    poller.conclude assertion limit s =
      (ending?.elim (return none) fun ending =>
        poller.settle assertion ending >>= fun holds => return some holds) run.world := by
  have hget : (get : Action σ σ) s = .ok s s := rfl
  have hset : (set run.world : Action σ PUnit) s = .ok () run.world := rfl
  unfold conclude
  rw [hvalid]
  show ((get : Action σ σ) >>= fun s => _) s = _
  rw [Action.bind_ok hget, hrun]
  cases ending? with
  | none => exact Action.bind_ok hset
  | some ending => exact Action.bind_ok hset

theorem conclude_passed (hrun : poller.run assertion limit s = (some .passed, run))
    (hvalid : assertion.probe.validate assertion.kind assertion.settings = .ok ()) :
    poller.conclude assertion limit s = .ok (some true) run.world :=
  conclude_polled hrun hvalid

theorem conclude_escaped {payload : Payload}
    (hrun : poller.run assertion limit s = (some (.escaped payload), run))
    (hvalid : assertion.probe.validate assertion.kind assertion.settings = .ok ()) :
    poller.conclude assertion limit s = .error payload run.world :=
  conclude_polled hrun hvalid

theorem conclude_refused {e : ConfigError}
    (hrun : poller.run assertion limit s = (some (.refused e), run))
    (hvalid : assertion.probe.validate assertion.kind assertion.settings = .ok ()) :
    poller.conclude assertion limit s =
      poller.report ⟨e.message, Report.configurationSkip⟩ run.world := by
  rw [conclude_polled hrun hvalid]
  unfold settle report refuse
  simp only [Option.elim, bind_assoc, pure_bind]

theorem conclude_failed {termination : Termination} {reason : String} {d : Span}
    (hrun : poller.run assertion limit s = (some (.failed termination reason d), run))
    (hvalid : assertion.probe.validate assertion.kind assertion.settings = .ok ()) :
    poller.conclude assertion limit s =
      (assertion.describe >>= fun text =>
        poller.report ⟨Report.message termination d text reason, Report.pollingSkip⟩) run.world := by
  rw [conclude_polled hrun hvalid]
  unfold settle report Assertion.describe
  cases assertion.description? with
  | none => simp only [Option.elim, bind_assoc, pure_bind]
  | some description => simp only [Option.elim, bind_assoc, pure_bind]

/-- Only a run that has passed makes a call return true. -/
theorem passed_of_conclude {ending : Ending} {t : σ}
    (hrun : poller.run assertion limit s = (some ending, run))
    (hvalid : assertion.probe.validate assertion.kind assertion.settings = .ok ())
    (h : poller.conclude assertion limit s = .ok (some true) t) : ending = .passed := by
  cases ending with
  | passed => rfl
  | failed termination reason d =>
      rw [conclude_failed hrun hvalid] at h
      obtain ⟨_, _, _, hreport⟩ := Action.bind_eq_ok_iff.1 h
      cases report_eq_ok hreport
  | refused e =>
      rw [conclude_refused hrun hvalid] at h
      cases report_eq_ok h
  | escaped payload =>
      rw [conclude_escaped hrun hvalid] at h
      cases h

end Poller

/-! ## The call with its handler or its description left open -/

section

variable {σ : Type}

/-- The same poller with another failure handler. -/
def Poller.reportingTo (handler : FailureHandler σ) (poller : Poller σ) : Poller σ :=
  { poller with handler }

/-- The same assertion with another description, given by how it is rendered. -/
def Assertion.describedBy (describe : Action σ String) (assertion : Assertion σ) : Assertion σ :=
  { assertion with description? := some (.deferred describe) }

variable [ReasonLog σ]

/-- Only a description that is deferred can unwind. -/
theorem Assertion.describe_returns {assertion : Assertion σ}
    (h : ∀ write, assertion.description? ≠ some (.deferred write)) : assertion.describe.Returns := by
  intro s
  unfold describe
  cases hdescription : assertion.description? with
  | none => exact ⟨"", s, rfl, trivial⟩
  | some description =>
      cases description with
      | text text => exact ⟨text, s, rfl, trivial⟩
      | template text arguments => exact ⟨_, _, rfl, trivial⟩
      | deferred write => exact absurd hdescription (h write)

theorem Poller.settle_describedBy (poller : Poller σ) (assertion : Assertion σ) (ending : Ending) :
    poller.settle (assertion.describedBy assertion.describe) ending =
      poller.settle assertion ending := by
  cases ending with
  | failed termination reason d =>
      unfold settle Assertion.describedBy Assertion.describe
      cases assertion.description? with
      | none => rfl
      | some description => rfl
  | passed => rfl
  | refused e => rfl
  | escaped payload => rfl

variable [HasCheckers σ] [HasContexts σ] [HasDesk σ]

section

variable (poller : Poller σ) (assertion : Assertion σ) (limit : Nat) (s : σ)

/-- Describing an assertion by its own description changes nothing. -/
theorem Poller.conclude_describedBy :
    poller.conclude (assertion.describedBy assertion.describe) limit =
      poller.conclude assertion limit := by
  unfold conclude
  simp only [settle_describedBy]
  rfl

/-- These are the failures that a call reports. -/
def Poller.Reports (failures : List Failure) : Prop :=
  Action.Asks (fun handler : FailureHandler σ =>
    (poller.reportingTo handler).conclude assertion limit s) failures

/-- So often does a call render its description. -/
def Poller.Renders (times : Nat) : Prop :=
  Action.Asks (fun describe : Unit → Action σ String =>
    poller.conclude (assertion.describedBy (describe ())) limit s) (List.replicate times ())

/-- A call reports some failures and never renders its description. -/
structure Poller.ReportsPlainly (failures : List Failure) : Prop where
  reports : poller.Reports assertion limit s failures
  renders : poller.Renders assertion limit s 0

end

namespace Poller

variable {poller : Poller σ} {assertion : Assertion σ} {limit : Nat} {s : σ} {run : Run σ}

theorem reports_of_rejected {e : ConfigError}
    (hvalid : assertion.probe.validate assertion.kind assertion.settings = .error e) :
    poller.ReportsPlainly assertion limit s [⟨e.message, Report.configurationSkip⟩] where
  reports := .once fun _ => conclude_rejected hvalid
  renders := .never fun _ => conclude_rejected hvalid

theorem reports_of_passed (hrun : poller.run assertion limit s = (some .passed, run))
    (hvalid : assertion.probe.validate assertion.kind assertion.settings = .ok ()) :
    poller.ReportsPlainly assertion limit s [] where
  reports := .never fun _ => conclude_passed hrun hvalid
  renders := .never fun _ => conclude_passed hrun hvalid

theorem reports_of_escaped {payload : Payload}
    (hrun : poller.run assertion limit s = (some (.escaped payload), run))
    (hvalid : assertion.probe.validate assertion.kind assertion.settings = .ok ()) :
    poller.ReportsPlainly assertion limit s [] where
  reports := .never fun _ => conclude_escaped hrun hvalid
  renders := .never fun _ => conclude_escaped hrun hvalid

theorem reports_of_refused {e : ConfigError}
    (hrun : poller.run assertion limit s = (some (.refused e), run))
    (hvalid : assertion.probe.validate assertion.kind assertion.settings = .ok ()) :
    poller.ReportsPlainly assertion limit s [⟨e.message, Report.configurationSkip⟩] where
  reports := .once fun _ => conclude_refused hrun hvalid
  renders := .never fun _ => conclude_refused hrun hvalid

theorem renders_of_failed {termination : Termination} {reason : String} {d : Span}
    (hrun : poller.run assertion limit s = (some (.failed termination reason d), run))
    (hvalid : assertion.probe.validate assertion.kind assertion.settings = .ok ()) :
    poller.Renders assertion limit s 1 :=
  .once fun _ => conclude_failed hrun hvalid

theorem reports_of_failed {termination : Termination} {reason : String} {d : Span}
    (hrun : poller.run assertion limit s = (some (.failed termination reason d), run))
    (hvalid : assertion.probe.validate assertion.kind assertion.settings = .ok ()) {text : String}
    {u : σ} (htext : assertion.describe run.world = .ok text u) :
    poller.Reports assertion limit s
      [⟨Report.message termination d text reason, Report.pollingSkip⟩] := by
  have hcall : ∀ handler, (poller.reportingTo handler).conclude assertion limit s =
      (poller.reportingTo handler).report
        ⟨Report.message termination d text reason, Report.pollingSkip⟩ u := by
    intro handler
    have hrun' : (poller.reportingTo handler).run assertion limit s =
      (some (.failed termination reason d), run) := hrun
    rw [conclude_failed hrun' hvalid]
    exact Action.bind_ok htext
  exact .once hcall

/-- A call that returns has reported nothing and returned true, or it has reported one
failure and returned false. -/
theorem reports_of_returned {holds : Bool} {t : σ}
    (h : poller.conclude assertion limit s = .ok (some holds) t) :
    (holds = true ∧ poller.Reports assertion limit s []) ∨
      (holds = false ∧ ∃ failure, poller.Reports assertion limit s [failure]) := by
  have hreported : ∀ {failure u}, poller.report failure u = .ok (some holds) t → holds = false :=
    fun hreport => Option.some.inj (report_eq_ok hreport)
  cases hvalid : assertion.probe.validate assertion.kind assertion.settings with
  | error e =>
      rw [conclude_rejected hvalid] at h
      exact .inr ⟨hreported h, _, (reports_of_rejected hvalid).reports⟩
  | ok _ =>
      cases hrun : poller.run assertion limit s with
      | mk ending? run =>
          cases ending? with
          | none =>
              rw [conclude_polled hrun hvalid] at h
              cases h
          | some ending =>
              cases ending with
              | passed =>
                  rw [conclude_passed hrun hvalid] at h
                  cases h
                  exact .inl ⟨rfl, (reports_of_passed hrun hvalid).reports⟩
              | failed termination reason d =>
                  rw [conclude_failed hrun hvalid] at h
                  obtain ⟨text, u, htext, hreport⟩ := Action.bind_eq_ok_iff.1 h
                  exact .inr ⟨hreported hreport, _, reports_of_failed hrun hvalid htext⟩
              | refused e =>
                  rw [conclude_refused hrun hvalid] at h
                  exact .inr ⟨hreported h, _, (reports_of_refused hrun hvalid).reports⟩
              | escaped payload =>
                  rw [conclude_escaped hrun hvalid] at h
                  cases h

/-- A call returns true exactly if it reports nothing, and false exactly if it reports
one failure. -/
theorem returned_iff_reports {holds : Bool} {t : σ}
    (h : poller.conclude assertion limit s = .ok (some holds) t) :
    (holds = true ↔ poller.Reports assertion limit s []) ∧
      (holds = false ↔ ∃ failure, poller.Reports assertion limit s [failure]) := by
  rcases reports_of_returned h with ⟨rfl, hnone⟩ | ⟨rfl, failure, hone⟩
  · have hnever : ¬ ∃ failure, poller.Reports assertion limit s [failure] := by
      intro hone
      obtain ⟨failure, hone⟩ := hone
      cases hnone.unique hone
    simp [hnone, hnever]
  · have hnever : ¬ poller.Reports assertion limit s [] := by
      intro hnone
      cases hone.unique hnone
    have hsome : ∃ failure, poller.Reports assertion limit s [failure] := ⟨failure, hone⟩
    simp [hnever, hsome]

/-- What a call reports and returns, given a failure handler that returns. It returns
true exactly if it reports nothing, and false exactly if it reports one failure. If the
configuration is rejected, its error is reported in the world the call begins in,
whatever the clock and the body of the probe are, and the description is not rendered.
If polling fails, the description is rendered once and the failure is reported with
it. If polling succeeds, or an attempt unwinds, nothing is reported and nothing is
rendered. A parameter that cannot be filled any more is reported like a rejected
configuration. -/
theorem conclude_reports (hhandler : ∀ failure, (poller.handler failure).Returns) :
    poller.conclude (assertion.describedBy assertion.describe) limit =
        poller.conclude assertion limit ∧
      (∀ holds t, poller.conclude assertion limit s = .ok (some holds) t →
        (holds = true ↔ poller.Reports assertion limit s []) ∧
        (holds = false ↔ ∃ failure, poller.Reports assertion limit s [failure])) ∧
      (∀ e, assertion.probe.validate assertion.kind assertion.settings = .error e →
        (∃ t, poller.conclude assertion limit s = .ok (some false) t) ∧
        poller.ReportsPlainly assertion limit s [⟨e.message, 2⟩] ∧
        ∀ clock probe, probe.shape? = assertion.probe.shape? →
          ({ poller with clock } : Poller σ).conclude { assertion with probe } limit s =
            poller.report ⟨e.message, 2⟩ s) ∧
      (assertion.probe.validate assertion.kind assertion.settings = .ok () →
        ∀ ending? run, poller.run assertion limit s = (ending?, run) →
          (∀ termination reason d, ending? = some (.failed termination reason d) →
            poller.Renders assertion limit s 1 ∧
            ((∀ write, assertion.description? ≠ some (.deferred write)) →
              assertion.describe.Returns) ∧
            ∀ text u, assertion.describe run.world = .ok text u →
              (∃ t, poller.conclude assertion limit s = .ok (some false) t) ∧
              poller.Reports assertion limit s [⟨Report.message termination d text reason, 3⟩]) ∧
          (ending? = some .passed →
            poller.conclude assertion limit s = .ok (some true) run.world ∧
            poller.ReportsPlainly assertion limit s []) ∧
          ∀ earlier v t, .began :: earlier <:+ run.journal → poller.Reaches assertion s earlier v →
            (∀ payload, assertion.attempt v = .error payload t →
              poller.conclude assertion limit s = .error payload run.world ∧
              poller.ReportsPlainly assertion limit s []) ∧
            ∀ e, assertion.attempt v = .ok (.error e) t →
              (∃ t', poller.conclude assertion limit s = .ok (some false) t') ∧
              poller.ReportsPlainly assertion limit s [⟨e.message, 2⟩]) := by
  refine ⟨conclude_describedBy poller assertion limit, fun holds t h => returned_iff_reports h,
    fun e hvalid => ?_, fun hvalid ending? run hrun =>
      ⟨fun termination reason d hending => ?_, fun hending => ?_,
        fun earlier v t hbegan hcourse => ⟨fun payload hattempt => ?_, fun e hattempt => ?_⟩⟩⟩
  · obtain ⟨t, hreturn⟩ := report_returns (hhandler ⟨e.message, 2⟩) s
    refine ⟨⟨t, (conclude_rejected hvalid).trans hreturn⟩, reports_of_rejected hvalid, ?_⟩
    intro clock probe hshape
    -- the check looks at nothing but the shape
    have hvalid' : probe.validate assertion.kind assertion.settings = .error e := by
      rw [Probe.validate, hshape]
      exact hvalid
    exact conclude_rejected hvalid'
  · subst hending
    refine ⟨renders_of_failed hrun hvalid, Assertion.describe_returns, fun text u htext =>
      ⟨?_, reports_of_failed hrun hvalid htext⟩⟩
    obtain ⟨t, hreturn⟩ :=
      report_returns (hhandler ⟨Report.message termination d text reason, Report.pollingSkip⟩) u
    rw [conclude_failed hrun hvalid, Action.bind_ok htext]
    exact ⟨t, hreturn⟩
  · subst hending
    exact ⟨conclude_passed hrun hvalid, reports_of_passed hrun hvalid⟩
  · obtain ⟨rfl, _⟩ := run_escaped hrun hbegan hcourse hattempt
    exact ⟨conclude_escaped hrun hvalid, reports_of_escaped hrun hvalid⟩
  · obtain ⟨rfl, _⟩ := run_refused hrun hbegan hcourse hattempt
    obtain ⟨t', hreturn⟩ := report_returns (hhandler ⟨e.message, 2⟩) run.world
    exact ⟨⟨t', (conclude_refused hrun hvalid).trans hreturn⟩, reports_of_refused hrun hvalid⟩

end Poller

end

/-- Calls a function that wants a context, without having one. -/
def Assertion.homeless {σ : Type} [HasVirtualClock σ] : Assertion σ where
  kind := .eventually
  probe := .function ⟨[.context], .value, "fn(Context) -> String"⟩ 0 fun _ s =>
    .ok ⟨.ofString "", []⟩ s
  settings := ⟨none, none, none, []⟩
  matcher := .since 0
  positive := true
  description? := some (.text "never shown")

/-- A run that times out is reported, and so is a function without a context. -/
theorem Poller.conclude_reports_since :
    Poller.virtual.Reports (Assertion.since .eventually true 4 2 9) 9 (Session.World.starting 0)
        [⟨Report.message .timedOut 4 "" "too early", 3⟩] ∧
      Poller.virtual.Renders Assertion.homeless 9 (Session.World.starting 0) 0 ∧
      ∃ t, Poller.virtual.conclude Assertion.homeless 9 (Session.World.starting 0) =
        .ok (some false) t := by
  have hhandler : ∀ failure, ((Poller.virtual : Poller Session.World).handler failure).Returns :=
    fun failure s => ⟨(), _, rfl, trivial⟩
  constructor
  · have hending : (Poller.virtual.run (Assertion.since .eventually true 4 2 9) 9
        (Session.World.starting 0)).1 = some (.failed .timedOut "too early" 4) := by
      decide +kernel
    obtain ⟨-, -, -, hpolled⟩ := conclude_reports hhandler
    obtain ⟨hfailed, -⟩ := hpolled rfl _ _ (run_eq_of_fst hending)
    obtain ⟨-, -, hreported⟩ := hfailed _ _ _ rfl
    exact (hreported "" _ rfl).2
  · have hvalid : (Assertion.homeless : Assertion Session.World).probe.validate .eventually
        ⟨none, none, none, []⟩ = .error (.missingContext "Eventually") := rfl
    obtain ⟨-, -, hrejected, -⟩ := conclude_reports hhandler
    obtain ⟨hreturned, hplain, -⟩ := hrejected _ hvalid
    exact ⟨hplain.renders, hreturned⟩

end PollingAssertions
