import PollingAssertions.Proofs.Polling.Attachment
import PollingAssertions.Proofs.Polling.LongerTime
import PollingAssertions.Proofs.Probe.Filling

/-!
# Refusals that come late

A parameter of the user's own kind need not keep its test and its filling in step: it may
take several arguments, all that are left, or a context, in any order, or fail. Then the
check finds nothing wrong, and still an attempt cannot fill the parameters. Such an
attempt is refused: the body of the probe is not entered, and the call reports one
failure like one for a wrong configuration.

That a body is not entered is said with the body left open, as it is done for the failure
handler. A body that unwinds is not the end of an attempt, however, so that what follows
it depends on how it ended, and not only on what it returned.

## Main definitions

* `Param.Fills`, `Param.FailsAt` — whether all parameters can be filled, and which is the
  first that cannot.
* `Action.Enters` — whether a computation enters an operation that is left open.
* `Assertion.calling` — an assertion about a function with a given body.
* `Poller.turnedAway` — a run whose first attempt cannot fill the parameters.

## Main results

* `Param.fetchAll_eq_error_iff` — the error that a parameter leads to.
* `Action.Enters.unique` — what is entered is determined by the computation.
* `Poller.refuses_unfilled` — bodies are entered if the parameters can be filled, and if
  they cannot the call is refused.
-/

namespace PollingAssertions

/-! ## Filling parameters of any kind -/

namespace Param

/-- Every parameter can be filled, once those before it have been. -/
def Fills (params : List Param) (source : Source) : Prop :=
  ∀ position (param : Param), params[position]? = some param →
    (param.fetch (leaves (params.take position) source)).1.isSome = true

/-- A parameter is the first that cannot be filled. -/
structure FailsAt (params : List Param) (source : Source) (position : Nat) (param : Param) :
    Prop where
  here : params[position]? = some param
  missed : (param.fetch (leaves (params.take position) source)).1 = none
  earlier : ∀ before < position, ∀ other : Param, params[before]? = some other →
    (other.fetch (leaves (params.take before) source)).1.isSome = true

/-- The error that a parameter leads to which cannot be filled from a source. -/
def missing (kind : Kind) (signature : String) (position : Nat) (param : Param)
    (source : Source) : ConfigError :=
  if param.kind = .context then .missingContext kind.name
  else .argumentType kind.name signature position param.name
    ((source.peek?.map fun argument => argument.type.name).getD "nothing")

section

variable {param first : Param} {params : List Param} {source : Source} {kind : Kind}
  {signature : String} {start position : Nat} {delivered : List Delivered} {e : ConfigError}

theorem fills_cons :
    Fills (first :: params) source ↔
      (first.fetch source).1.isSome = true ∧ Fills params (first.fetch source).2 := by
  constructor
  · intro h
    exact ⟨h 0 first rfl, fun position param hparam => h (position + 1) param hparam⟩
  · rintro ⟨hfirst, hothers⟩ position param hparam
    cases position with
    | zero =>
        cases hparam
        exact hfirst
    | succ position => exact hothers position param hparam

theorem failsAt_cons_zero :
    FailsAt (first :: params) source 0 param ↔
      param = first ∧ (first.fetch source).1 = none := by
  constructor
  · rintro ⟨hhere, hmissed, -⟩
    cases hhere
    exact ⟨rfl, hmissed⟩
  · rintro ⟨rfl, hmissed⟩
    exact ⟨rfl, hmissed, fun before hlt => absurd hlt (Nat.not_lt_zero before)⟩

theorem failsAt_cons_succ :
    FailsAt (first :: params) source (position + 1) param ↔
      (first.fetch source).1.isSome = true ∧
        FailsAt params (first.fetch source).2 position param := by
  constructor
  · rintro ⟨hhere, hmissed, hearlier⟩
    exact ⟨hearlier 0 (Nat.succ_pos position) first rfl, hhere, hmissed,
      fun before hlt other hother => hearlier (before + 1) (Nat.succ_lt_succ hlt) other hother⟩
  · rintro ⟨hfirst, hhere, hmissed, hearlier⟩
    refine ⟨hhere, hmissed, fun before hlt other hother => ?_⟩
    cases before with
    | zero =>
        cases hother
        exact hfirst
    | succ before => exact hearlier before (Nat.lt_of_succ_lt_succ hlt) other hother

/-- Filling succeeds if every parameter can be filled. -/
theorem exists_fetchAll_iff :
    (∃ delivered, fetchAll kind signature start params source = .ok delivered) ↔
      Fills params source := by
  induction params generalizing start source with
  | nil =>
      constructor
      · intro _ position param hparam
        cases hparam
      · intro _
        exact ⟨[], rfl⟩
  | cons first params ih =>
      rw [fills_cons, ← ih]
      simp only [fetchAll_cons, Option.isSome_iff_exists]
      constructor
      · rintro ⟨_, d, ds, hd, hds, -⟩
        exact ⟨⟨d, hd⟩, ds, hds⟩
      · rintro ⟨⟨d, hd⟩, ds, hds⟩
        exact ⟨d :: ds, d, ds, hd, hds, rfl⟩

theorem fetchAll_of_missed (h : (first.fetch source).1 = none) :
    fetchAll kind signature start (first :: params) source =
      .error (missing kind signature start first source) := by
  rw [fetchAll, missing]
  cases hfetch : first.fetch source with
  | mk found after =>
      rw [hfetch] at h
      obtain rfl : found = none := h
      cases first.kind <;> cases source.peek? <;> rfl

theorem fetchAll_eq_error_of_fetched {d : Delivered} (h : (first.fetch source).1 = some d) :
    fetchAll kind signature start (first :: params) source = .error e ↔
      fetchAll kind signature (start + 1) params (first.fetch source).2 = .error e := by
  rw [fetchAll]
  cases hfetch : first.fetch source with
  | mk found after =>
      rw [hfetch] at h
      obtain rfl : found = some d := h
      show (fetchAll kind signature (start + 1) params after).map (d :: ·) = .error e ↔
        fetchAll kind signature (start + 1) params after = .error e
      cases fetchAll kind signature (start + 1) params after with
      | error other => simp [Except.map]
      | ok ds => simp [Except.map]

/-- Filling fails with what the first parameter leads to that cannot be filled. -/
theorem fetchAll_eq_error_iff :
    fetchAll kind signature start params source = .error e ↔
      ∃ position param, FailsAt params source position param ∧
        e = missing kind signature (start + position) param
          (leaves (params.take position) source) := by
  induction params generalizing start source with
  | nil =>
      constructor
      · intro h
        cases h
      · rintro ⟨position, param, ⟨hhere, -, -⟩, -⟩
        cases hhere
  | cons first params ih =>
      cases hfetch : (first.fetch source).1 with
      | none =>
          rw [fetchAll_of_missed hfetch]
          constructor
          · intro h
            cases h
            exact ⟨0, first, failsAt_cons_zero.2 ⟨rfl, hfetch⟩, rfl⟩
          · rintro ⟨position, param, hfails, rfl⟩
            cases position with
            | zero =>
                obtain ⟨rfl, -⟩ := failsAt_cons_zero.1 hfails
                rfl
            | succ position =>
                obtain ⟨hsome, -⟩ := failsAt_cons_succ.1 hfails
                rw [hfetch] at hsome
                cases hsome
      | some d =>
          rw [fetchAll_eq_error_of_fetched hfetch, ih]
          constructor
          · rintro ⟨position, param, hfails, rfl⟩
            refine ⟨position + 1, param, failsAt_cons_succ.2 ⟨by rw [hfetch]; rfl, hfails⟩, ?_⟩
            rw [Nat.add_assoc, Nat.add_comm 1]
            rfl
          · rintro ⟨position, param, hfails, rfl⟩
            cases position with
            | zero =>
                obtain ⟨-, hnone⟩ := failsAt_cons_zero.1 hfails
                rw [hfetch] at hnone
                cases hnone
            | succ position =>
                obtain ⟨-, hfails⟩ := failsAt_cons_succ.1 hfails
                refine ⟨position, param, hfails, ?_⟩
                rw [Nat.add_assoc, Nat.add_comm 1]
                rfl

end

end Param

/-! ## Bodies that are left open -/

namespace Action

variable {σ ι α β : Type} {x : (ι → Action σ β) → EStateM.Result Payload σ α}
  {place? place?' : Option (ι × σ)}

/-- What a computation does with an operation that is left open: it comes to the same with
every operation, or it enters the operation with some argument in some world, and what it
comes to depends on how the operation ends there. -/
inductive Enters (x : (ι → Action σ β) → EStateM.Result Payload σ α) : Option (ι × σ) → Prop
  | never {result : EStateM.Result Payload σ α} (h : ∀ op, x op = result) : Enters x none
  | once {i : ι} {s : σ} (rest : EStateM.Result Payload σ β → EStateM.Result Payload σ α)
      (h : ∀ op, x op = rest (op i s)) (hdepends : ∃ r r', rest r ≠ rest r') :
      Enters x (some (i, s))

/-- Ends in one way in every world. -/
def always (r : EStateM.Result Payload σ α) : Action σ α := fun _ => r

/-- An operation that is entered makes a difference. -/
private theorem not_never_of_entered {result : EStateM.Result Payload σ α} {i : ι} {s : σ}
    {rest : EStateM.Result Payload σ β → EStateM.Result Payload σ α} (h : ∀ op, x op = result)
    (h' : ∀ op, x op = rest (op i s)) (hdepends : ∃ r r', rest r ≠ rest r') : False := by
  obtain ⟨r, r', hne⟩ := hdepends
  have hsame : ∀ r, rest r = result :=
    fun r => (h' fun _ => .always r).symm.trans (h fun _ => .always r)
  exact hne ((hsame r).trans (hsame r').symm)

/-- A computation enters an operation in one way only. -/
theorem Enters.unique (h : Enters x place?) (h' : Enters x place?') : place? = place?' := by
  classical
  cases h with
  | never h =>
      cases h' with
      | never _ => rfl
      | once rest h' hdepends => exact (not_never_of_entered h h' hdepends).elim
  | @once i s rest h hdepends =>
      cases h' with
      | never h' => exact (not_never_of_entered h' h hdepends).elim
      | @once j t rest' h' _ =>
          by_cases hsame : (j, t) = (i, s)
          · rw [hsame]
          · -- an operation that ends in one way here and in another way there
            have hapart : ∀ r r', rest r = rest' r' := by
              intro r r'
              let op : ι → Action σ β := fun n u => if (n, u) = (i, s) then r else r'
              have hi : op i s = r := if_pos rfl
              have hj : op j t = r' := if_neg hsame
              rw [← hi, ← hj, ← h, ← h']
            obtain ⟨r, r', hne⟩ := hdepends
            exact (hne ((hapart r r).trans (hapart r' r).symm)).elim

end Action

section

variable {σ : Type} [ReasonLog σ] [HasCheckers σ]

omit [ReasonLog σ] [HasCheckers σ] in
/-- The same assertion about a function with a given body. -/
def Assertion.calling (shape : Shape) (checker : CheckerId) (assertion : Assertion σ)
    (body : List Delivered → Action σ Output) : Assertion σ :=
  { assertion with probe := .function shape checker body }

variable {assertion : Assertion σ} {shape : Shape} {checker : CheckerId}
  {body : List Delivered → Action σ Output} {delivered : List Delivered} {e : ConfigError}

/-- An attempt that cannot fill the parameters is refused, and has cleared the checker. -/
theorem Assertion.attempt_unfilled
    (h : Param.fetchAll assertion.kind shape.signature 0 shape.params
      (.fresh checker assertion.settings.context? assertion.settings.arguments) = .error e)
    (s : σ) :
    (assertion.calling shape checker body).attempt s =
      .ok (.error e) (Checker.clear checker s) := by
  have hcleared : (modify (Checker.clear checker) : Action σ Unit) s =
      .ok () (Checker.clear checker s) := rfl
  have hinvoke : (Probe.function shape checker body).invoke assertion.kind assertion.settings s =
      .ok (.error e) (Checker.clear checker s) := by
    unfold Probe.invoke
    simp only [h]
    exact Action.bind_ok hcleared
  exact Action.bind_ok hinvoke

section

variable (h : Param.fetchAll assertion.kind shape.signature 0 shape.params
  (.fresh checker assertion.settings.context? assertion.settings.arguments) = .ok delivered)

include h

/-- What follows the body sees no more of it than how it ends. -/
theorem Assertion.attempt_always (body : List Delivered → Action σ Output) (s : σ) :
    (assertion.calling shape checker body).attempt s =
      (assertion.calling shape checker fun _ =>
        .always (body delivered (Checker.clear checker s))).attempt s := by
  have hcaught : (body delivered).caught (Checker.clear checker s) =
      (Action.always (body delivered (Checker.clear checker s))).caught
        (Checker.clear checker s) := rfl
  have hinvoke : (Probe.function shape checker body).invoke assertion.kind assertion.settings s =
      (Probe.function shape checker fun _ =>
        .always (body delivered (Checker.clear checker s))).invoke assertion.kind
          assertion.settings s := by
    rw [Probe.invoke_filled h s]
    refine Eq.trans ?_ (Probe.invoke_filled h s).symm
    exact Polling.bind_congr_left hcaught _
  exact Polling.bind_congr_left hinvoke _

/-- A panic goes past everything. -/
theorem Assertion.attempt_raises (text : String) (s : σ) :
    (assertion.calling shape checker fun _ => Action.raise (.message text)).attempt s =
      .error (.message text) (Checker.clear checker s) := by
  have hcaught : (Action.raise (.message text) : Action σ Output).caught
      (Checker.clear checker s) = .ok (.error (.message text)) (Checker.clear checker s) := rfl
  have hinvoke : (Probe.function shape checker fun _ => Action.raise (.message text)).invoke
      assertion.kind assertion.settings s =
        .error (.message text) (Checker.clear checker s) := by
    refine (Probe.invoke_filled h s).trans ?_
    exact (Action.bind_ok hcaught).trans (Action.bind_error rfl)
  exact Action.bind_error hinvoke

/-- An attempt that can fill the parameters enters the body, with the checker cleared. -/
theorem Assertion.attempt_enters (s : σ) :
    Action.Enters (fun body => (assertion.calling shape checker body).attempt s)
      (some (delivered, Checker.clear checker s)) := by
  refine .once (fun r => (assertion.calling shape checker fun _ => .always r).attempt s)
    (fun body => attempt_always h body s) ⟨.error (.message "") (Checker.clear checker s),
      .error (.message " ") (Checker.clear checker s), fun hsame => ?_⟩
  have hraised : ∀ text, (assertion.calling shape checker fun _ =>
      .always (.error (.message text) (Checker.clear checker s))).attempt s =
        .error (.message text) (Checker.clear checker s) :=
    fun text => (attempt_always h _ s).symm.trans (attempt_raises h text s)
  have hpayload := (hraised "").symm.trans (hsame.trans (hraised " "))
  injection hpayload with htext
  injection htext with htext
  exact absurd htext (by decide)

end

/-- The body is entered in an attempt exactly if every parameter can be filled. -/
theorem Assertion.enters_iff_fills (assertion : Assertion σ) (shape : Shape) (checker : CheckerId)
    (s : σ) :
    (∃ entry, Action.Enters (fun body => (assertion.calling shape checker body).attempt s)
        (some entry)) ↔
      Param.Fills shape.params
        (.fresh checker assertion.settings.context? assertion.settings.arguments) := by
  rw [← Param.exists_fetchAll_iff]
  constructor
  · rintro ⟨entry, henters⟩
    cases hfilled : Param.fetchAll assertion.kind shape.signature 0 shape.params
        (.fresh checker assertion.settings.context? assertion.settings.arguments) with
    | ok delivered => exact ⟨delivered, rfl⟩
    | error e =>
        cases henters.unique (.never fun body => attempt_unfilled hfilled s)
  · rintro ⟨delivered, hfilled⟩
    exact ⟨_, attempt_enters hfilled s⟩

/-! ## The call -/

variable [HasContexts σ] [HasDesk σ] {poller : Poller σ}

namespace Poller

/-- A run that has been turned away: it looked at its context and began an attempt, which did
no more than clear the checker. -/
def turnedAway (poller : Poller σ) (assertion : Assertion σ) (checker : CheckerId) (s : σ) :
    Run σ :=
  { poller.outset assertion s with
    world := Checker.clear checker
      (Contexts.isDoneIn assertion.settings.context? (poller.outset assertion s).world).2
    journal := [.began, .looked false] }

/-- A run whose context is not done at once and that cannot fill the parameters is turned
away, and its slip is detached. -/
theorem run_unfilled (poller : Poller σ)
    (h : Param.fetchAll assertion.kind shape.signature 0 shape.params
      (.fresh checker assertion.settings.context? assertion.settings.arguments) = .error e)
    {s : σ} (hundone : (Contexts.isDoneIn assertion.settings.context?
      (poller.outset assertion s).world).1 = false) (limit : Nat)
    (body : List Delivered → Action σ Output) :
    poller.run (assertion.calling shape checker body) (limit + 1) s =
      (some (.refused e),
        { poller.turnedAway assertion checker s with
          world := Progress.detach (assertion.slip? s)
            (poller.turnedAway assertion checker s).world }) := by
  have hround : Polling.round (assertion.plan poller.defaults)
      (poller.scene (assertion.calling shape checker body) s) (poller.outset assertion s) =
        .error (.refused e) (poller.turnedAway assertion checker s) := by
    rw [Polling.round_eq, Polling.bind_ok (Polling.stopIfDone_undone hundone)]
    exact Polling.bind_error (Polling.attempt_refused (Assertion.attempt_unfilled h _))
  exact run_of_round hround limit

/-- The slip of a run that is turned away is attached once and detached once, unless reading
the clock changes that. -/
theorem attached_unfilled [DeskApart σ] {s : σ} {c : ContextId} {name : String} {before : Desk}
    (hcontext : assertion.settings.context? = some c)
    (hnearest : (HasContexts.part.get s).Nearest c name) (hbefore : HasDesk.part.get s = before)
    (hclock : ∀ w, HasDesk.part.get (poller.clock.now w).2 = HasDesk.part.get w) :
    before.Attached name 1 (HasDesk.part.get
      (Progress.detach (assertion.slip? s) (poller.turnedAway assertion checker s).world)) := by
  have hattach := attach?_of_nearest hcontext hnearest hbefore
  have hstart : HasDesk.part.get (poller.outset assertion s).world =
      (before.attach name "").2 := by
    show HasDesk.part.get
      (poller.clock.now (Progress.attach? assertion.settings.context? s).2).2 = _
    rw [hclock, hattach, HasDesk.part.get_set]
  rw [slip?_of_nearest hcontext hnearest hbefore, turnedAway]
  show before.Attached name 1 (HasDesk.part.get (HasDesk.part.update _ _))
  rw [Part.get_update, Checker.desk_clear, Contexts.desk_isDoneIn, hstart]
  exact (Desk.attached_attach before name "").detach _

/-- The body of a function is entered in an attempt exactly if every parameter can be
filled. Suppose the check has found nothing wrong, some parameter cannot be filled, and the
context is not done when the run begins. Then the run ends with its first attempt, the call
never enters the body and reports one failure, which names the first such parameter and the
argument that stood next before it, and the slip of the run is detached. -/
theorem refuses_unfilled (poller : Poller σ) (assertion : Assertion σ) (shape : Shape)
    (checker : CheckerId) :
    (∀ s, (∃ place, Action.Enters (fun body => (assertion.calling shape checker body).attempt s)
          (some place)) ↔
        Param.Fills shape.params
          (.fresh checker assertion.settings.context? assertion.settings.arguments)) ∧
      ∀ position param e s,
        Param.FailsAt shape.params
          (.fresh checker assertion.settings.context? assertion.settings.arguments) position
          param →
        e = Param.missing assertion.kind shape.signature position param
          (Param.leaves (shape.params.take position)
            (.fresh checker assertion.settings.context? assertion.settings.arguments)) →
        shape.validate assertion.kind assertion.settings.context? assertion.settings.arguments =
          .ok () →
        (Contexts.isDoneIn assertion.settings.context? (poller.outset assertion s).world).1 =
          false →
        ∀ limit,
          Action.Enters (fun body =>
            poller.conclude (assertion.calling shape checker body) (limit + 1) s) none ∧
          ∀ body, ∃ run,
            poller.run (assertion.calling shape checker body) (limit + 1) s =
              (some (.refused e), run) ∧
            run.journal = [.began, .looked false] ∧
            run.world = Progress.detach (assertion.slip? s) (Checker.clear checker
              (Contexts.isDoneIn assertion.settings.context?
                (poller.outset assertion s).world).2) ∧
            poller.conclude (assertion.calling shape checker body) (limit + 1) s =
              poller.report ⟨e.message, 2⟩ run.world ∧
            poller.ReportsPlainly (assertion.calling shape checker body) (limit + 1) s
              [⟨e.message, 2⟩] ∧
            ((poller.handler ⟨e.message, 2⟩).Returns →
              ∃ t, poller.conclude (assertion.calling shape checker body) (limit + 1) s =
                .ok (some false) t) ∧
            ∀ c name before, assertion.settings.context? = some c →
              (HasContexts.part.get s).Nearest c name → HasDesk.part.get s = before →
              DeskApart σ →
              (∀ w, HasDesk.part.get (poller.clock.now w).2 = HasDesk.part.get w) →
              before.Attached name 1 (HasDesk.part.get run.world) := by
  refine ⟨assertion.enters_iff_fills shape checker, ?_⟩
  intro position param e s hfails he hvalid hundone limit
  have hmissed : Param.fetchAll assertion.kind shape.signature 0 shape.params
      (.fresh checker assertion.settings.context? assertion.settings.arguments) = .error e := by
    rw [Param.fetchAll_eq_error_iff]
    exact ⟨position, param, hfails, by rw [he, Nat.zero_add]⟩
  have hconclude : ∀ body, poller.conclude (assertion.calling shape checker body) (limit + 1) s =
      poller.report ⟨e.message, 2⟩ _ :=
    fun body => conclude_refused (poller.run_unfilled hmissed hundone limit body) hvalid
  refine ⟨.never hconclude, fun body => ?_⟩
  have hrun := poller.run_unfilled hmissed hundone limit body
  refine ⟨_, hrun, rfl, rfl, hconclude body, reports_of_refused hrun hvalid,
    fun hhandler => ?_, fun c name before hcontext hnearest hbefore _ hclock =>
      attached_unfilled hcontext hnearest hbefore hclock⟩
  obtain ⟨t, hreturn⟩ := report_returns hhandler _
  exact ⟨t, (hconclude body).trans hreturn⟩

end Poller

end

/-! ## A parameter that takes too much -/

/-- Takes all arguments that are left, though the check counts one for it. -/
def Param.greedy : Param where
  kind := .fixed
  name := "Greedy"
  accepts _ := true
  fetch := do return some (.custom (← Source.rest) none true)

/-- Gives two arguments to a function, in a context with an attacher. -/
def Assertion.greedy : Assertion Session.World :=
  { Assertion.attended with
    settings := ⟨some 4, some 2, some 2, [.value (.ofString "a"), .value (.ofString "b")]⟩ }

/-- The second parameter finds nothing left. -/
theorem Poller.refuses_unfilled_greedy :
    Action.Enters (fun body => Poller.virtual.conclude
        (Assertion.greedy.calling ⟨[.greedy, .fixed .string], .value, "fn(Greedy, String)"⟩ 0 body)
        1 Session.World.attended) none ∧
      (Poller.virtual.run
        (Assertion.greedy.calling ⟨[.greedy, .fixed .string], .value, "fn(Greedy, String)"⟩ 0
          fun _ => return ⟨.ofString "", []⟩) 1 Session.World.attended).1 =
        some (.refused
          (.argumentType "Eventually" "fn(Greedy, String)" 1 "String" "nothing")) ∧
      (Poller.virtual.run
        (Assertion.greedy.calling ⟨[.greedy, .fixed .string], .value, "fn(Greedy, String)"⟩ 0
          fun _ => return ⟨.ofString "", []⟩) 1 Session.World.attended).2.world.desk.attacher "a" =
        ⟨some 0, 1, 1⟩ := by
  have hfails : Param.FailsAt [.greedy, .fixed .string]
      (.fresh 0 (some 2) [.value (.ofString "a"), .value (.ofString "b")]) 1
      (.fixed .string) := by
    refine ⟨rfl, rfl, fun before hlt other hother => ?_⟩
    obtain rfl : before = 0 := by omega
    cases hother
    rfl
  have hundone : (Contexts.isDoneIn (some 2)
      (Poller.virtual.outset Assertion.greedy Session.World.attended).world).1 = false := by
    decide +kernel
  have hnearest : (HasContexts.part.get Session.World.attended).Nearest 2 "a" :=
    .inherited rfl rfl rfl (by decide) (.own rfl rfl)
  obtain ⟨-, hrefuses⟩ := refuses_unfilled Poller.virtual Assertion.greedy
    ⟨[.greedy, .fixed .string], .value, "fn(Greedy, String)"⟩ 0
  obtain ⟨hnever, hends⟩ := hrefuses 1 _ _ _ hfails rfl rfl hundone 0
  obtain ⟨run, hrun, -, -, -, -, -, hdetached⟩ := hends fun _ => return ⟨.ofString "", []⟩
  rw [hrun]
  exact ⟨hnever, rfl, hdetached 2 "a" _ rfl hnearest rfl inferInstance (fun _ => rfl) "a"⟩

end PollingAssertions
