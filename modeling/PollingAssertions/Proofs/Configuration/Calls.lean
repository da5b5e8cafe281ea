import Mathlib.Data.List.Induction
import PollingAssertions.Proofs.Polling.Course
import PollingAssertions.Session.World

/-!
# What configuring calls amount to

An assertion is configured by calls in any order. Each of them is about one of four
things: the timeout, the interval, the context or the arguments. Calls about one of
them do not see the others, so that a sequence of calls falls into four, and what it
comes to is put together from what each of the four comes to.

Of contexts and arguments the last ones count. For a span of time there are two sorts
of calls. A firm one sets the span whatever it was. One that yields sets it only as
long as it is unset or zero. A firm call makes all calls before it void; of the others
the first that is not zero is chosen.

## Main definitions

* `Wish` — what a call wants a span of time to be.
* `Wish.counting`, `Wish.chosen?` — the wishes that no firm one voids, and the one of
  them that is chosen.
* `Setting.timeoutWish?`, `Setting.intervalWish?`, `Setting.context?`,
  `Setting.arguments?` — what a call is about.

## Main results

* `Wish.foldl_heed` — heeding wishes one after the other comes to the one that is
  chosen.
* `Settings.ofCalls_eq` — a sequence of calls falls into four.
* `Poller.conclude_congr_settings` — what of the settings takes part in a call.
* `Poller.configured_ofCalls` — the plan, the context and the arguments of an assertion
  that was configured by calls.
-/

namespace PollingAssertions

/-! ## Wishes -/

/-- What a call wants a span of time to be. -/
inductive Wish where
  /-- The span is to be this, whatever it was. -/
  | firm (d : Span)
  /-- The span is to be this, unless it is set and not zero. -/
  | yielding (d : Span)
deriving DecidableEq, Repr

namespace Wish

/-- The span that is wished for. -/
def span : Wish → Span
  | firm d => d
  | yielding d => d

/-- Whether a wish leaves no choice. -/
def isFirm : Wish → Bool
  | firm _ => true
  | yielding _ => false

/-- A span after one more wish. -/
def heed (d? : Option Span) : Wish → Option Span
  | firm d => some d
  | yielding d => Settings.unlessSet d? d

/-- The spans of the wishes that count, which are those that no firm wish comes after:
the last firm one, if there is any, and all that yield after it. -/
def counting : List Wish → List Span
  | [] => []
  | wish :: wishes =>
      if wishes.any isFirm then counting wishes else wish.span :: counting wishes

/-- The first span that is not zero, of the wishes that count. -/
def chosen? (wishes : List Wish) : Option Span := (counting wishes).find? (· ≠ 0)

variable {wishes : List Wish} {d : Span} {d? : Option Span}

/-- A firm wish makes what came before it void. -/
theorem counting_concat_firm : counting (wishes ++ [firm d]) = [d] := by
  induction wishes with
  | nil => rfl
  | cons wish wishes ih =>
      have hfirm : (wishes ++ [firm d]).any isFirm = true := by simp [isFirm]
      rw [List.cons_append, counting, if_pos hfirm, ih]

/-- A wish that yields comes after those that count so far. -/
theorem counting_concat_yielding :
    counting (wishes ++ [yielding d]) = counting wishes ++ [d] := by
  induction wishes with
  | nil => rfl
  | cons wish wishes ih =>
      have hfirm : (wishes ++ [yielding d]).any isFirm = wishes.any isFirm := by simp [isFirm]
      rw [List.cons_append, counting, counting, hfirm, ih]
      split
      · rfl
      · rfl

/-- Wishes that are heeded one after the other come to the first of those that count
that is not zero, or to zero. -/
theorem foldl_heed (wishes : List Wish) :
    wishes.foldl heed none = if wishes = [] then none else some ((chosen? wishes).getD 0) := by
  -- the last wish decides what counts, so the induction starts from the end
  induction wishes using List.reverseRecOn with
  | nil => rfl
  | append_singleton wishes wish ih =>
      have hsome : wishes ++ [wish] ≠ [] := by simp
      rw [List.foldl_append, ih, if_neg hsome]
      cases wish with
      | firm d => by_cases hd : d = 0 <;> simp [heed, chosen?, counting_concat_firm, hd]
      | yielding d =>
          have hchosen : chosen? (wishes ++ [yielding d]) =
              (chosen? wishes).or ([d].find? (· ≠ 0)) := by
            rw [chosen?, counting_concat_yielding, List.find?_append]
            rfl
          rw [hchosen]
          by_cases hnil : wishes = []
          · subst hnil
            by_cases hd : d = 0 <;> simp [heed, Settings.unlessSet, chosen?, counting, hd]
          · rw [if_neg hnil]
            cases hfound : chosen? wishes with
            | none => by_cases hd : d = 0 <;> simp [heed, Settings.unlessSet, hd]
            | some set =>
                have hset : set ≠ 0 := by simpa using List.find?_some hfound
                simp [heed, Settings.unlessSet, hset]

/-- After a firm wish it does not matter what was set before. -/
theorem foldl_heed_of_firm (h : ∃ wish ∈ wishes, wish.isFirm = true) :
    wishes.foldl heed d? = wishes.foldl heed none := by
  induction wishes generalizing d? with
  | nil => simp at h
  | cons wish wishes ih =>
      cases wish with
      | firm d => rfl
      | yielding d =>
          have hlater : ∃ wish ∈ wishes, wish.isFirm = true := by simpa [isFirm] using h
          rw [List.foldl_cons, List.foldl_cons, ih hlater, ← ih hlater]

/-- A wish that yields makes no difference if the span was set before and is not zero, or
if a firm wish comes after it. -/
theorem foldl_heed_yielding {before after : List Wish}
    (h : (∃ set, before.foldl heed none = some set ∧ set ≠ 0) ∨
      ∃ wish ∈ after, wish.isFirm = true) :
    (before ++ yielding d :: after).foldl heed none = (before ++ after).foldl heed none := by
  rw [List.foldl_append, List.foldl_append, List.foldl_cons]
  rcases h with ⟨set, hbefore, hset⟩ | hfirm
  · have hkept : heed (some set) (yielding d) = some set := if_neg hset
    rw [hbefore, hkept]
  · rw [foldl_heed_of_firm hfirm, ← foldl_heed_of_firm hfirm]

end Wish

/-! ## The four things that calls are about -/

namespace Setting

/-- What a call wants the timeout to be. -/
def timeoutWish? : Setting → Option Wish
  | timeout d => some (.firm d)
  | within d => some (.yielding d)
  | _ => none

/-- What a call wants the interval to be. -/
def intervalWish? : Setting → Option Wish
  | interval d => some (.firm d)
  | probeEvery d => some (.yielding d)
  | _ => none

/-- The context that a call sets. -/
def context? : Setting → Option ContextId
  | context c => some c
  | _ => none

/-- The arguments that a call sets. -/
def arguments? : Setting → Option (List Argument)
  | .arguments args => some args
  | _ => none

end Setting

namespace Settings

/-- What a sequence of calls makes of settings. -/
theorem foldl_apply (calls : List Setting) (settings : Settings) :
    calls.foldl apply settings =
      ⟨(calls.filterMap Setting.timeoutWish?).foldl Wish.heed settings.timeout?,
        (calls.filterMap Setting.intervalWish?).foldl Wish.heed settings.interval?,
        (calls.filterMap Setting.context?).getLast?.or settings.context?,
        (calls.filterMap Setting.arguments?).getLast?.getD settings.arguments⟩ := by
  induction calls generalizing settings with
  | nil => rfl
  | cons call calls ih =>
      rw [List.foldl_cons, ih]
      cases call <;>
        simp [List.filterMap_cons, Setting.timeoutWish?, Setting.intervalWish?, Setting.context?,
          Setting.arguments?, Wish.heed, apply, List.getLast?_cons]

/-- A sequence of calls falls into four, one for each thing that calls are about. -/
theorem ofCalls_eq (calls : List Setting) :
    ofCalls calls =
      ⟨(calls.filterMap Setting.timeoutWish?).foldl Wish.heed .none,
        (calls.filterMap Setting.intervalWish?).foldl Wish.heed .none,
        (calls.filterMap Setting.context?).getLast?,
        (calls.filterMap Setting.arguments?).getLast?.getD []⟩ := by
  have hcalls := foldl_apply calls none
  rw [none, Option.or_none] at hcalls
  exact hcalls

/-- The timeout in effect after a sequence of calls. -/
theorem timeout_ofCalls (calls : List Setting) (fallback : Span) :
    (ofCalls calls).timeout fallback =
      if calls.filterMap Setting.timeoutWish? = [] then fallback
      else (Wish.chosen? (calls.filterMap Setting.timeoutWish?)).getD 0 := by
  rw [timeout, ofCalls_eq, Wish.foldl_heed]
  split
  · rfl
  · rfl

/-- The interval in effect after a sequence of calls. -/
theorem interval_ofCalls (calls : List Setting) (fallback : Span) :
    (ofCalls calls).interval fallback =
      (Wish.chosen? (calls.filterMap Setting.intervalWish?)).getD fallback := by
  rw [interval, ofCalls_eq]
  simp only [Wish.foldl_heed]
  by_cases hnil : calls.filterMap Setting.intervalWish? = []
  · rw [if_pos hnil, hnil]
    rfl
  · rw [if_neg hnil]
    cases hchosen : Wish.chosen? (calls.filterMap Setting.intervalWish?) with
    | none => rfl
    | some set =>
        have hset : set ≠ 0 := by simpa using List.find?_some hchosen
        exact if_neg hset

section

variable {before after : List Setting} {d : Span}

/-- A call that sets a span is a firm wish. -/
private theorem exists_firm (wish? : Setting → Option Wish) {call : Span → Setting}
    (hfirm : ∀ set, wish? (call set) = some (.firm set)) (h : ∃ set, call set ∈ after) :
    ∃ wish ∈ after.filterMap wish?, wish.isFirm = true := by
  obtain ⟨set, hset⟩ := h
  exact ⟨.firm set, List.mem_filterMap.2 ⟨call set, hset, hfirm set⟩, rfl⟩

/-- A timeout that yields makes no difference if the timeout was set before and is not
zero, or if it is set after. -/
theorem ofCalls_within
    (h : (∃ set, (ofCalls before).timeout? = some set ∧ set ≠ 0) ∨ ∃ set, .timeout set ∈ after) :
    ofCalls (before ++ .within d :: after) = ofCalls (before ++ after) := by
  rw [ofCalls_eq] at h
  have hwishes := Wish.foldl_heed_yielding (d := d)
    (h.imp_right (exists_firm Setting.timeoutWish? fun _ => rfl))
  simp only [ofCalls_eq, List.filterMap_append, List.filterMap_cons, Setting.timeoutWish?,
    Setting.intervalWish?, Setting.context?, Setting.arguments?, hwishes]

/-- An interval that yields makes no difference if the interval was set before and is not
zero, or if it is set after. -/
theorem ofCalls_probeEvery
    (h : (∃ set, (ofCalls before).interval? = some set ∧ set ≠ 0) ∨
      ∃ set, .interval set ∈ after) :
    ofCalls (before ++ .probeEvery d :: after) = ofCalls (before ++ after) := by
  rw [ofCalls_eq] at h
  have hwishes := Wish.foldl_heed_yielding (d := d)
    (h.imp_right (exists_firm Setting.intervalWish? fun _ => rfl))
  simp only [ofCalls_eq, List.filterMap_append, List.filterMap_cons, Setting.timeoutWish?,
    Setting.intervalWish?, Setting.context?, Setting.arguments?, hwishes]

end

end Settings

/-! ## What reaches the run -/

section

variable {σ : Type} [ReasonLog σ] [HasCheckers σ]

/-- An attempt depends on the context and the arguments, and on no other setting. -/
theorem Assertion.attempt_congr_settings (assertion : Assertion σ) {settings settings' : Settings}
    (hcontext : settings.context? = settings'.context?)
    (harguments : settings.arguments = settings'.arguments) :
    ({ assertion with settings } : Assertion σ).attempt =
      ({ assertion with settings := settings' } : Assertion σ).attempt := by
  have hinvoke : assertion.probe.invoke assertion.kind settings =
      assertion.probe.invoke assertion.kind settings' := by
    cases hprobe : assertion.probe with
    | observed datum => rfl
    | function shape checker body =>
        unfold Probe.invoke
        rw [hcontext, harguments]
  unfold attempt
  rw [hinvoke]
  rfl

variable [HasContexts σ] [HasDesk σ]

/-- A call depends on the plan, the context and the arguments, and on no other setting. -/
theorem Poller.conclude_congr_settings (poller : Poller σ) (assertion : Assertion σ)
    {settings settings' : Settings}
    (hplan : ({ assertion with settings } : Assertion σ).plan poller.defaults =
      ({ assertion with settings := settings' } : Assertion σ).plan poller.defaults)
    (hcontext : settings.context? = settings'.context?)
    (harguments : settings.arguments = settings'.arguments) (limit : Nat) :
    poller.conclude { assertion with settings } limit =
      poller.conclude { assertion with settings := settings' } limit := by
  have hvalidate : assertion.probe.validate assertion.kind settings =
      assertion.probe.validate assertion.kind settings' := by
    unfold Probe.validate
    rw [hcontext, harguments]
  have hsurroundings : ∀ attachment?,
      poller.surroundings { assertion with settings } attachment? =
        poller.surroundings { assertion with settings := settings' } attachment? := by
    intro attachment?
    unfold surroundings
    rw [assertion.attempt_congr_settings hcontext harguments, hcontext]
  have hrun : poller.run { assertion with settings } limit =
      poller.run { assertion with settings := settings' } limit := by
    unfold run
    simp only [hplan, hcontext, hsurroundings]
  unfold conclude
  simp only [hvalidate, hrun]
  rfl

/-- What the calls that configure an assertion come to. The timeout is the default if no
call is about it, and else the first that is not zero of the last one that was set and of
those that yield after it, and zero if there is none. The interval is chosen likewise,
but the default takes the place of zero too. Of contexts and arguments the last ones count.
Nothing else of the settings takes part in a call. So it makes no difference how calls
about different things are mixed, and a call that yields makes none if there is a span
before it that is not zero, or if the span is set after it. -/
theorem Poller.configured_ofCalls (poller : Poller σ) (assertion : Assertion σ)
    (calls : List Setting) :
    ({ assertion with settings := .ofCalls calls } : Assertion σ).plan poller.defaults =
        ⟨assertion.kind,
          if calls.filterMap Setting.timeoutWish? = [] then
            (poller.defaults.timing assertion.kind).1
          else (Wish.chosen? (calls.filterMap Setting.timeoutWish?)).getD 0,
          (Wish.chosen? (calls.filterMap Setting.intervalWish?)).getD
            (poller.defaults.timing assertion.kind).2⟩ ∧
      (Settings.ofCalls calls).context? = (calls.filterMap Setting.context?).getLast? ∧
      (Settings.ofCalls calls).arguments =
        (calls.filterMap Setting.arguments?).getLast?.getD [] ∧
      (∀ settings : Settings,
        ({ assertion with settings } : Assertion σ).plan poller.defaults =
          ({ assertion with settings := .ofCalls calls } : Assertion σ).plan poller.defaults →
        settings.context? = (Settings.ofCalls calls).context? →
        settings.arguments = (Settings.ofCalls calls).arguments →
        ∀ limit, poller.conclude { assertion with settings } limit =
          poller.conclude { assertion with settings := .ofCalls calls } limit) ∧
      (∀ others : List Setting,
        others.filterMap Setting.timeoutWish? = calls.filterMap Setting.timeoutWish? →
        others.filterMap Setting.intervalWish? = calls.filterMap Setting.intervalWish? →
        others.filterMap Setting.context? = calls.filterMap Setting.context? →
        others.filterMap Setting.arguments? = calls.filterMap Setting.arguments? →
        Settings.ofCalls others = Settings.ofCalls calls) ∧
      (∀ before after d, calls = before ++ .within d :: after →
        (∃ set, (Settings.ofCalls before).timeout? = some set ∧ set ≠ 0) ∨
          (∃ set, .timeout set ∈ after) →
        Settings.ofCalls calls = Settings.ofCalls (before ++ after)) ∧
      (∀ before after d, calls = before ++ .probeEvery d :: after →
        (∃ set, (Settings.ofCalls before).interval? = some set ∧ set ≠ 0) ∨
          (∃ set, .interval set ∈ after) →
        Settings.ofCalls calls = Settings.ofCalls (before ++ after)) := by
  refine ⟨?_, by rw [Settings.ofCalls_eq], by rw [Settings.ofCalls_eq],
    fun settings hplan hcontext harguments =>
      conclude_congr_settings poller assertion hplan hcontext harguments,
    fun others htimeout hinterval hcontext harguments => ?_,
    fun before after d hcalls h => ?_, fun before after d hcalls h => ?_⟩
  · rw [← Settings.timeout_ofCalls, ← Settings.interval_ofCalls]
    rfl
  · rw [Settings.ofCalls_eq, Settings.ofCalls_eq, htimeout, hinterval, hcontext, harguments]
  · rw [hcalls]
    exact Settings.ofCalls_within h
  · rw [hcalls]
    exact Settings.ofCalls_probeEvery h

end

/-- A timeout of zero that is set after a longer one makes it void and gives way to the
next, and an interval of zero gives way to the default. -/
theorem Poller.configured_ofCalls_zero :
    ({ Assertion.since .eventually true 9 9 9 with
      settings := .ofCalls [.timeout 9, .within 5, .context 1, .timeout 0, .probeEvery 3,
        .within 7, .interval 0] } : Assertion Session.World).plan Defaults.builtIn =
        ⟨.eventually, 7, Defaults.builtIn.eventuallyInterval⟩ ∧
      Settings.ofCalls [.timeout 9, .within 5, .context 1, .timeout 0, .probeEvery 3,
          .within 7, .interval 0] =
        Settings.ofCalls [.timeout 9, .context 1, .timeout 0, .probeEvery 3, .within 7,
          .interval 0] := by
  obtain ⟨hplan, -, -, -, -, hwithin, -⟩ :=
    configured_ofCalls (Poller.virtual : Poller Session.World) (.since .eventually true 9 9 9)
      [.timeout 9, .within 5, .context 1, .timeout 0, .probeEvery 3, .within 7, .interval 0]
  exact ⟨hplan.trans (by decide), hwithin [.timeout 9]
    [.context 1, .timeout 0, .probeEvery 3, .within 7, .interval 0] 5 rfl (.inr ⟨0, by simp⟩)⟩

end PollingAssertions
