import PollingAssertions.Polling.Run

/-!
# The journals of runs

A run enters everything that happens to it in a journal, latest first. Not
every list of events is such a journal: the loop looks at the context before
it begins an attempt, looks again after it, reads the clock, pauses, and so
on. This module writes that order down as a grammar, without mentioning the
loop or its surroundings. A journal in which nothing has been decided is
`Pending`; one step further on it may be `Concluded`, with an ending.

What is said of a journal is said for all events since a `base`. With the
empty base these are the journals of whole runs.

## Main definitions

* `Journal.attempts`, `Journal.pauses`, `Journal.verdict?` — what a journal
  tells of a run.
* `Pending` — the journals of runs that are still undecided.
* `Concluded` — the journals of runs that have ended, and their endings.

## Main results

* `Pending.leavesOpen` — as long as nothing is decided, every attempt has
  been judged, and left the run open.
* `Pending.verdict?_isSome_iff` — there is a last verdict once there has been
  an attempt.
* `Concluded.opening_of_began`, `Concluded.judged_of_paused` — attempts are
  begun and pauses are taken only as long as nothing is decided.
* `Concluded.exists_pending` — deciding takes at most one attempt more.
-/

namespace PollingAssertions

/-- The result of an attempt does not decide a run of the given kind. -/
def Evaluation.LeavesOpen (e : Evaluation) : Kind → Prop
  | .eventually => e.passed = false ∧ e.stop? = none ∧ e.hint? = none
  | .consistently => e.passed = true ∧ e.stop? = none

/-- A returned stop signal always decides the run. -/
theorem Evaluation.LeavesOpen.stop?_eq_none {e : Evaluation} {kind : Kind}
    (h : e.LeavesOpen kind) : e.stop? = none := by
  cases kind with
  | eventually => exact h.2.1
  | consistently => exact h.2

/-! ## What a journal tells -/

namespace Journal

/-- The attempts of a run, latest first: what each was judged to be, or
nothing if it was begun but never judged. -/
def attempts : List Event → List (Option Judgement)
  | [] => []
  | .attempted judgement :: .began :: earlier => some judgement :: attempts earlier
  | .began :: earlier => none :: attempts earlier
  | _ :: earlier => attempts earlier

/-- The pauses of a run, latest first. -/
def pauses : List Event → List Span
  | [] => []
  | .paused d :: earlier => d :: pauses earlier
  | _ :: earlier => pauses earlier

/-- The verdict on the last attempt that was evaluated. -/
def verdict? : List Event → Option Verdict
  | [] => none
  | .attempted (.evaluated e) :: _ => some ⟨e.passed, e.reason⟩
  | _ :: earlier => verdict? earlier

/-- The reason of the last verdict, empty before the first one. -/
def reason (journal : List Event) : String := (verdict? journal).elim "" (·.reason)

/-- The last thing that happened was that the context was not done and the
time was over. -/
def TimeSeenOver (timeout : Span) (journal : List Event) : Prop :=
  ∃ d earlier, journal = .elapsed d :: .looked false :: earlier ∧ timeout ≤ d

section

variable (earlier : List Event)

@[simp] theorem attempts_attempted (judgement : Judgement) :
    attempts (.attempted judgement :: .began :: earlier) = some judgement :: attempts earlier :=
  rfl

@[simp] theorem attempts_began : attempts (.began :: earlier) = none :: attempts earlier := rfl

@[simp] theorem attempts_looked (done : Bool) :
    attempts (.looked done :: earlier) = attempts earlier := rfl

@[simp] theorem attempts_reasoned (stop : StopSignal) :
    attempts (.reasoned stop :: earlier) = attempts earlier := rfl

@[simp] theorem attempts_elapsed (d : Span) :
    attempts (.elapsed d :: earlier) = attempts earlier := rfl

@[simp] theorem attempts_paused (d : Span) :
    attempts (.paused d :: earlier) = attempts earlier := rfl

@[simp] theorem pauses_attempted (judgement : Judgement) :
    pauses (.attempted judgement :: earlier) = pauses earlier := rfl

@[simp] theorem pauses_began : pauses (.began :: earlier) = pauses earlier := rfl

@[simp] theorem pauses_looked (done : Bool) :
    pauses (.looked done :: earlier) = pauses earlier := rfl

@[simp] theorem pauses_reasoned (stop : StopSignal) :
    pauses (.reasoned stop :: earlier) = pauses earlier := rfl

@[simp] theorem pauses_elapsed (d : Span) : pauses (.elapsed d :: earlier) = pauses earlier := rfl

@[simp] theorem pauses_paused (d : Span) :
    pauses (.paused d :: earlier) = d :: pauses earlier := rfl

@[simp] theorem verdict?_evaluated (e : Evaluation) :
    verdict? (.attempted (.evaluated e) :: earlier) = some ⟨e.passed, e.reason⟩ := rfl

@[simp] theorem verdict?_interrupted (stop : StopSignal) :
    verdict? (.attempted (.interrupted stop) :: earlier) = verdict? earlier := rfl

@[simp] theorem verdict?_began : verdict? (.began :: earlier) = verdict? earlier := rfl

@[simp] theorem verdict?_looked (done : Bool) :
    verdict? (.looked done :: earlier) = verdict? earlier := rfl

@[simp] theorem verdict?_reasoned (stop : StopSignal) :
    verdict? (.reasoned stop :: earlier) = verdict? earlier := rfl

@[simp] theorem verdict?_elapsed (d : Span) :
    verdict? (.elapsed d :: earlier) = verdict? earlier := rfl

@[simp] theorem verdict?_paused (d : Span) :
    verdict? (.paused d :: earlier) = verdict? earlier := rfl

end

end Journal

/-! ## The grammar -/

/-- Where in a round a run looks at its context. -/
inductive Phase where
  /-- Before an attempt. -/
  | opening
  /-- After an attempt that decided nothing. -/
  | judged
  /-- After a pause. -/
  | rested
deriving DecidableEq, Repr

/-- The journals, since a base, of runs that are about to look at their
context and in which nothing has been decided. -/
inductive Pending (plan : Plan) (base : List Event) : Phase → List Event → Prop
  | starting : Pending plan base .opening base
  | judged {journal : List Event} {e : Evaluation} :
      Pending plan base .opening journal → e.LeavesOpen plan.kind →
      Pending plan base .judged (.attempted (.evaluated e) :: .began :: .looked false :: journal)
  | rested {journal : List Event} {d : Span} :
      Pending plan base .judged journal → d < plan.timeout →
      Pending plan base .rested
        (.paused (min plan.interval (plan.timeout - d)) :: .elapsed d :: .looked false :: journal)
  | resumed {journal : List Event} {d : Span} :
      Pending plan base .rested journal → d < plan.timeout →
      Pending plan base .opening (.elapsed d :: .looked false :: journal)

/-- The journals, since a base, of runs that have ended, and how they have.
A run that fails reads the clock once more. -/
inductive Concluded (plan : Plan) (base : List Event) : List Event → Ending → Prop
  | cancelled {phase : Phase} {journal : List Event} {d : Span} :
      Pending plan base phase journal →
      Concluded plan base (.elapsed d :: .looked true :: journal)
        (.failed .cancelled (Journal.reason journal) d)
  | refused {journal : List Event} {e : ConfigError} :
      Pending plan base .opening journal →
      Concluded plan base (.began :: .looked false :: journal) (.refused e)
  /-- The attempt unwound with something that the run does not stop. -/
  | escaped {journal : List Event} {payload : Payload} :
      Pending plan base .opening journal →
      Concluded plan base (.began :: .looked false :: journal) (.escaped payload)
  /-- A raised stop signal confirms the verdict that has stood so far. -/
  | confirmed {journal : List Event} {stop : StopSignal} {reason : String} :
      Pending plan base .opening journal → plan.kind = .consistently →
      Journal.verdict? journal = some ⟨true, reason⟩ →
      Concluded plan base (.attempted (.interrupted stop) :: .began :: .looked false :: journal)
        .passed
  | interrupted {journal : List Event} {stop : StopSignal} {d : Span} :
      Pending plan base .opening journal →
      (plan.kind = .consistently → ∀ reason, Journal.verdict? journal ≠ some ⟨true, reason⟩) →
      Concluded plan base
        (.elapsed d :: .reasoned stop :: .attempted (.interrupted stop) :: .began ::
          .looked false :: journal)
        (.failed (.stopped stop.reason) (Journal.reason journal) d)
  | passed {journal : List Event} {e : Evaluation} :
      Pending plan base .opening journal → e.passed = true →
      (plan.kind = .consistently → e.stop?.isSome = true) →
      Concluded plan base (.attempted (.evaluated e) :: .began :: .looked false :: journal) .passed
  | stopped {journal : List Event} {e : Evaluation} {stop : StopSignal} {d : Span} :
      Pending plan base .opening journal → e.passed = false → e.stop? = some stop →
      Concluded plan base
        (.elapsed d :: .reasoned stop :: .attempted (.evaluated e) :: .began ::
          .looked false :: journal)
        (.failed (.stopped stop.reason) e.reason d)
  | hinted {journal : List Event} {e : Evaluation} {hint : String} {d : Span} :
      Pending plan base .opening journal → plan.kind = .eventually → e.passed = false →
      e.stop? = none → e.hint? = some hint →
      Concluded plan base
        (.elapsed d :: .attempted (.evaluated e) :: .began :: .looked false :: journal)
        (.failed .noFutureChange hint d)
  | failed {journal : List Event} {e : Evaluation} {d : Span} :
      Pending plan base .opening journal → plan.kind = .consistently → e.passed = false →
      e.stop? = none →
      Concluded plan base
        (.elapsed d :: .attempted (.evaluated e) :: .began :: .looked false :: journal)
        (.failed .failed e.reason d)
  | timedOut {phase : Phase} {journal : List Event} {d d' : Span} :
      Pending plan base phase journal → phase ≠ .opening → plan.kind = .eventually →
      plan.timeout ≤ d →
      Concluded plan base (.elapsed d' :: .elapsed d :: .looked false :: journal)
        (.failed .timedOut (Journal.reason journal) d')
  | lasted {phase : Phase} {journal : List Event} {d : Span} :
      Pending plan base phase journal → phase ≠ .opening → plan.kind = .consistently →
      plan.timeout ≤ d →
      Concluded plan base (.elapsed d :: .looked false :: journal) .passed
  /-- The pause unwound. -/
  | disturbed {journal : List Event} {d : Span} {payload : Payload} :
      Pending plan base .judged journal → d < plan.timeout →
      Concluded plan base (.elapsed d :: .looked false :: journal) (.escaped payload)

namespace Pending

variable {plan : Plan} {phase : Phase} {journal : List Event}

/-- As long as nothing is decided, every attempt has been judged, and its
result left the run open. -/
theorem leavesOpen (h : Pending plan [] phase journal) :
    ∀ a ∈ Journal.attempts journal, ∃ e, a = some (.evaluated e) ∧ e.LeavesOpen plan.kind := by
  induction h with
  | starting => intro a ha; simp [Journal.attempts] at ha
  | judged _ hopen ih =>
      intro a ha
      rw [Journal.attempts_attempted, Journal.attempts_looked, List.mem_cons] at ha
      rcases ha with rfl | ha
      · exact ⟨_, rfl, hopen⟩
      · exact ih a ha
  | rested _ _ ih => exact ih
  | resumed _ _ ih => exact ih

/-- After a pause or an attempt there has been an attempt. -/
theorem attempts_ne_nil (h : Pending plan [] phase journal) (hphase : phase ≠ .opening) :
    Journal.attempts journal ≠ [] := by
  cases h with
  | starting => exact absurd rfl hphase
  | judged _ _ => simp
  | rested h _ =>
      cases h with
      | judged _ _ => simp
  | resumed _ _ => exact absurd rfl hphase

/-- There is a last verdict once there has been an attempt. -/
theorem verdict?_isSome_iff (h : Pending plan [] phase journal) :
    (Journal.verdict? journal).isSome ↔ Journal.attempts journal ≠ [] := by
  induction h with
  | starting => simp [Journal.verdict?, Journal.attempts]
  | judged _ _ _ => simp
  | rested _ _ ih => simpa using ih
  | resumed _ _ ih => simpa using ih

/-- In a *consistently* run that is undecided the last verdict is good. -/
theorem verdict?_passed (h : Pending plan [] phase journal) (hkind : plan.kind = .consistently)
    {verdict : Verdict} (hverdict : Journal.verdict? journal = some verdict) :
    verdict.passed = true := by
  induction h with
  | starting => simp [Journal.verdict?] at hverdict
  | judged _ hopen _ =>
      rw [hkind] at hopen
      rw [Journal.verdict?_evaluated, Option.some.injEq] at hverdict
      rw [← hverdict]
      exact hopen.1
  | rested _ _ ih => exact ih hverdict
  | resumed _ _ ih => exact ih hverdict

/-- An attempt is begun only where a round begins, once the context was seen not
to be done. -/
theorem opening_of_began (h : Pending plan [] phase journal) {earlier : List Event}
    (hsuffix : .began :: earlier <:+ journal) :
    ∃ opening, earlier = .looked false :: opening ∧ Pending plan [] .opening opening := by
  induction h with
  | starting => simp at hsuffix
  | judged hpending _ ih =>
      simp only [List.suffix_cons_iff, reduceCtorEq, List.cons.injEq, false_and, false_or,
        true_and] at hsuffix
      rcases hsuffix with rfl | hsuffix
      · exact ⟨_, rfl, hpending⟩
      · exact ih hsuffix
  | rested _ _ ih =>
      simp only [List.suffix_cons_iff, reduceCtorEq, List.cons.injEq, false_and, false_or] at hsuffix
      exact ih hsuffix
  | resumed _ _ ih =>
      simp only [List.suffix_cons_iff, reduceCtorEq, List.cons.injEq, false_and, false_or] at hsuffix
      exact ih hsuffix

/-- A pause is taken only after an attempt that decided nothing, and while time
is left. -/
theorem judged_of_paused (h : Pending plan [] phase journal) {d : Span} {earlier : List Event}
    (hsuffix : .paused d :: earlier <:+ journal) :
    ∃ passed judged, d = min plan.interval (plan.timeout - passed) ∧ passed < plan.timeout ∧
      earlier = .elapsed passed :: .looked false :: judged ∧ Pending plan [] .judged judged := by
  induction h with
  | starting => simp at hsuffix
  | judged _ _ ih =>
      simp only [List.suffix_cons_iff, reduceCtorEq, List.cons.injEq, false_and, false_or] at hsuffix
      exact ih hsuffix
  | rested hpending hpassed ih =>
      simp only [List.suffix_cons_iff, reduceCtorEq, List.cons.injEq, Event.paused.injEq, false_and,
        false_or] at hsuffix
      rcases hsuffix with ⟨rfl, rfl⟩ | hsuffix
      · exact ⟨_, _, rfl, hpassed, rfl, hpending⟩
      · exact ih hsuffix
  | resumed _ _ ih =>
      simp only [List.suffix_cons_iff, reduceCtorEq, List.cons.injEq, false_and, false_or] at hsuffix
      exact ih hsuffix

/-- Attempts are never taken back. -/
theorem attempts_length_le {base : List Event} (h : Pending plan base phase journal) :
    (Journal.attempts base).length ≤ (Journal.attempts journal).length := by
  induction h with
  | starting => exact Nat.le_refl _
  | judged _ _ ih =>
      rw [Journal.attempts_attempted, List.length_cons]
      exact Nat.le_succ_of_le ih
  | rested _ _ ih => exact ih
  | resumed _ _ ih => exact ih

end Pending

namespace Concluded

variable {plan : Plan} {base journal : List Event} {ending : Ending}

/-- An *eventually* run passes only with an attempt. -/
theorem attempts_length_lt (h : Concluded plan base journal .passed)
    (hkind : plan.kind = .eventually) :
    (Journal.attempts base).length < (Journal.attempts journal).length := by
  cases h with
  | passed hpending _ _ =>
      have hle := hpending.attempts_length_le
      rw [Journal.attempts_attempted, Journal.attempts_looked, List.length_cons]
      exact Nat.lt_succ_of_le hle
  | confirmed _ hconsistently _ | lasted _ _ hconsistently _ =>
      rw [hkind] at hconsistently
      cases hconsistently

/-- Every pause of a run that has ended was taken while nothing was decided. -/
theorem judged_of_paused (h : Concluded plan [] journal ending) {d : Span} {earlier : List Event}
    (hsuffix : .paused d :: earlier <:+ journal) :
    ∃ passed judged, d = min plan.interval (plan.timeout - passed) ∧ passed < plan.timeout ∧
      earlier = .elapsed passed :: .looked false :: judged ∧ Pending plan [] .judged judged := by
  cases h <;>
    simp only [List.suffix_cons_iff, reduceCtorEq, List.cons.injEq, false_and, false_or]
      at hsuffix <;>
    exact Pending.judged_of_paused ‹_› hsuffix

/-- Every attempt of a run that has ended was begun while nothing was decided. -/
theorem opening_of_began (h : Concluded plan [] journal ending) {earlier : List Event}
    (hsuffix : .began :: earlier <:+ journal) :
    ∃ opening, earlier = .looked false :: opening ∧ Pending plan [] .opening opening := by
  cases h <;>
    simp only [List.suffix_cons_iff, reduceCtorEq, List.cons.injEq, true_and, false_and, false_or]
      at hsuffix
  case cancelled | timedOut | lasted | disturbed => exact Pending.opening_of_began ‹_› hsuffix
  all_goals
    rcases hsuffix with rfl | hsuffix
    · exact ⟨_, rfl, ‹_›⟩
    · exact Pending.opening_of_began ‹_› hsuffix

/-- A concluded journal goes on from one in which nothing was decided, by at
most one attempt and without a pause. -/
theorem exists_pending (h : Concluded plan base journal ending) :
    ∃ phase earlier, Pending plan base phase earlier ∧ earlier <:+ journal ∧
      Journal.pauses journal = Journal.pauses earlier ∧
      (Journal.attempts journal = Journal.attempts earlier ∨
        phase = .opening ∧ ∃ a, Journal.attempts journal = a :: Journal.attempts earlier) := by
  cases h with
  | cancelled h => exact ⟨_, _, h, by simp [List.suffix_cons_iff], rfl, .inl rfl⟩
  | refused h => exact ⟨_, _, h, by simp [List.suffix_cons_iff], rfl, .inr ⟨rfl, _, rfl⟩⟩
  | escaped h => exact ⟨_, _, h, by simp [List.suffix_cons_iff], rfl, .inr ⟨rfl, _, rfl⟩⟩
  | confirmed h _ _ => exact ⟨_, _, h, by simp [List.suffix_cons_iff], rfl, .inr ⟨rfl, _, rfl⟩⟩
  | interrupted h _ => exact ⟨_, _, h, by simp [List.suffix_cons_iff], rfl, .inr ⟨rfl, _, rfl⟩⟩
  | passed h _ _ => exact ⟨_, _, h, by simp [List.suffix_cons_iff], rfl, .inr ⟨rfl, _, rfl⟩⟩
  | stopped h _ _ => exact ⟨_, _, h, by simp [List.suffix_cons_iff], rfl, .inr ⟨rfl, _, rfl⟩⟩
  | hinted h _ _ _ _ => exact ⟨_, _, h, by simp [List.suffix_cons_iff], rfl, .inr ⟨rfl, _, rfl⟩⟩
  | failed h _ _ _ => exact ⟨_, _, h, by simp [List.suffix_cons_iff], rfl, .inr ⟨rfl, _, rfl⟩⟩
  | timedOut h _ _ _ => exact ⟨_, _, h, by simp [List.suffix_cons_iff], rfl, .inl rfl⟩
  | lasted h _ _ _ => exact ⟨_, _, h, by simp [List.suffix_cons_iff], rfl, .inl rfl⟩
  | disturbed h _ => exact ⟨_, _, h, by simp [List.suffix_cons_iff], rfl, .inl rfl⟩

end Concluded

end PollingAssertions
