import Mathlib.Logic.Relation
import PollingAssertions.Context.Derive
import PollingAssertions.Proofs.Context.Nearest
import PollingAssertions.Proofs.Polling.Reporting
import PollingAssertions.Session.World

/-!
# The slip of a run

A run whose context has an attacher writes the text of its last attempt on a slip. The
slip is attached before anything else happens and taken off again at the very end,
however the run ends. In between the clock, the attempts and the pauses do what they
like, and they may well attach slips of their own: an assertion that is made inside a
probe does. What the run itself does to the attachers is separated from that by
following its worlds step by step. Each step is taken by foreign code, or it leaves the
attachers alone (`Poller.Drifts`).

The slip belongs to the run. Nobody else writes on it, and then it says at any time what
the run wrote last. An assertion inside a probe is no exception, as it only writes on a
slip of its own.

## Main definitions

* `Desk.Attached` — a slip was attached once to the attacher of a name, and to no other.
* `Poller.Lets`, `Poller.Drifts` — steps that foreign code takes, and worlds between which
  only foreign code has changed the attachers.
* `Poller.SparesAttachers`, `Poller.SparesSlip` — foreign code leaves the attachers, or a
  slip, alone.

## Main results

* `Poller.drifts_of_course` — while a run polls, only foreign code changes the attachers.
* `Poller.slip_of_course` — what the slip says at any time.
* `Poller.run_attached` — the attachment of a run.
* `Poller.conclude_sparesSlip` — assertions leave the slips of each other alone.
-/

namespace PollingAssertions

/-! ## Interrupted attempts -/

section

variable {plan : Plan} {phase : Phase} {journal earlier : List Event} {stop : StopSignal}

/-- While nothing is decided, no attempt was interrupted. -/
theorem Pending.not_interrupted (h : Pending plan [] phase journal) :
    ¬ .attempted (.interrupted stop) :: earlier <:+ journal := by
  intro hsuffix
  induction h with
  | starting => simp at hsuffix
  | judged _ _ ih | rested _ _ ih | resumed _ _ ih =>
      simp only [List.suffix_cons_iff, reduceCtorEq, List.cons.injEq, Event.attempted.injEq,
        false_and, false_or] at hsuffix
      exact ih hsuffix

/-- An attempt that was interrupted leaves the reason of the run as it was. -/
theorem Concluded.reason_of_interrupted {ending : Ending} (h : Concluded plan [] journal ending)
    (hsuffix : .attempted (.interrupted stop) :: earlier <:+ journal) :
    Journal.reason journal = Journal.reason earlier := by
  cases h <;>
    simp only [List.suffix_cons_iff, reduceCtorEq, List.cons.injEq, Event.attempted.injEq,
      Judgement.interrupted.injEq, false_and, false_or] at hsuffix
  case confirmed hpending _ _ =>
    rcases hsuffix with ⟨_, rfl⟩ | hsuffix
    · rfl
    · exact absurd hsuffix hpending.not_interrupted
  case interrupted hpending _ =>
    rcases hsuffix with ⟨_, rfl⟩ | hsuffix
    · rfl
    · exact absurd hsuffix hpending.not_interrupted
  all_goals exact absurd hsuffix (Pending.not_interrupted ‹_›)

end

/-! ## Worlds and their desk -/

namespace Action

variable {σ α : Type} {x : Action σ α} {s t : σ}

/-- The world that an action leaves, whether it returns or unwinds. -/
def after (x : Action σ α) (s : σ) : σ :=
  match x s with
  | .ok _ t => t
  | .error _ t => t

theorem after_ok {a : α} (h : x s = .ok a t) : x.after s = t := by
  unfold after
  rw [h]

theorem after_error {payload : Payload} (h : x s = .error payload t) : x.after s = t := by
  unfold after
  rw [h]

theorem after_bind {β : Type} {f : α → Action σ β} {a : α} (h : x s = .ok a t) :
    (x >>= f).after s = (f a).after t := by
  unfold after
  rw [bind_ok h]

end Action

/-- Worlds that keep their desk apart from contexts, from checkers and from what is noted of
deferred reasons. -/
class DeskApart (σ : Type) [HasDesk σ] [HasContexts σ] [HasCheckers σ] [ReasonLog σ] : Prop where
  get_contexts : ∀ (contexts : Contexts) (s : σ),
    HasDesk.part.get (HasContexts.part.set contexts s) = HasDesk.part.get s
  get_checkers : ∀ (checkers : Checkers) (s : σ),
    HasDesk.part.get (HasCheckers.part.set checkers s) = HasDesk.part.get s
  get_workedOut : ∀ (reason : String) (s : σ),
    HasDesk.part.get (ReasonLog.workedOut reason s) = HasDesk.part.get s

instance : DeskApart Session.World := ⟨fun _ _ => rfl, fun _ _ => rfl, fun _ _ => rfl⟩

section

variable {σ : Type} [HasDesk σ] [HasContexts σ] [HasCheckers σ] [ReasonLog σ] [DeskApart σ]

theorem Contexts.desk_isDoneIn (context? : Option ContextId) (s : σ) :
    HasDesk.part.get (isDoneIn context? s).2 = HasDesk.part.get s := by
  cases context? with
  | none => rfl
  | some c => exact DeskApart.get_contexts _ s

theorem Checker.desk_clear (checker : CheckerId) (s : σ) :
    HasDesk.part.get (clear checker s) = HasDesk.part.get s :=
  DeskApart.get_checkers _ s

theorem ReasonLog.desk_ask (reasons : List String) (s : σ) :
    HasDesk.part.get (reasons.foldl (fun s reason => workedOut reason s) s) =
      HasDesk.part.get s := by
  induction reasons generalizing s with
  | nil => rfl
  | cons reason reasons ih =>
      rw [List.foldl_cons, ih]
      exact DeskApart.get_workedOut reason s

end

/-- Attaching gives a new slip to the nearest attacher. -/
theorem Progress.attach?_of_nearest {σ : Type} [HasContexts σ] [HasDesk σ] {c : ContextId}
    {name : String} {s : σ} (h : (HasContexts.part.get s).Nearest c name) :
    attach? (some c) s =
      (some ⟨name, (HasDesk.part.get s).slips.size⟩,
        HasDesk.part.set ((HasDesk.part.get s).attach name "").2 s) := by
  have hfound : (some c).bind (HasContexts.part.get s).attacher? = some name :=
    Contexts.attacher?_eq_some_iff.2 h
  unfold attach?
  rw [hfound]
  rfl

/-! ## What attaching does to a desk -/

namespace Desk

/-- Since a desk looked as `before`, a slip has been attached once to the attacher of a
name, and taken off again so many times. No other attacher has changed. -/
def Attached (before : Desk) (name : String) (detached : Nat) (desk : Desk) : Prop :=
  ∀ other, desk.attacher other =
    if other = name then
      ⟨some before.slips.size, (before.attacher name).attached + 1,
        (before.attacher name).detached + detached⟩
    else before.attacher other

variable {before desk desk' : Desk} {name text : String} {detached : Nat}

theorem attached_attach (before : Desk) (name text : String) :
    before.Attached name 0 (before.attach name text).2 :=
  fun other => attacher_attach before name text other

theorem Attached.congr (h : before.Attached name detached desk)
    (hsame : ∀ other, desk'.attacher other = desk.attacher other) :
    before.Attached name detached desk' := by
  intro other
  rw [hsame]
  exact h other

theorem Attached.detach (h : before.Attached name detached desk) (slip : Nat) :
    before.Attached name (detached + 1) (desk.detach ⟨name, slip⟩) := by
  intro other
  rw [attacher_detach, h name, h other]
  by_cases hother : other = name
  · rw [if_pos hother, if_pos rfl, if_pos hother]
    rfl
  · rw [if_neg hother, if_neg hother, if_neg hother]

/-- The attacher reports what its slip says. -/
theorem Attached.report?_eq (h : before.Attached name detached desk)
    (htext : desk.slips[before.slips.size]? = some text) : desk.report? name = some text := by
  unfold report?
  rw [h name, if_pos rfl, Option.map_some, Array.getD_eq_getD_getElem?, htext, Option.getD_some]

end Desk

/-- Publishing a text leaves the attachers alone. -/
theorem Progress.attachers_publish {σ : Type} [HasDesk σ] (attachment? : Option Attachment)
    (reason : String) (s : σ) :
    (HasDesk.part.get (publish attachment? reason s)).attachers =
      (HasDesk.part.get s).attachers := by
  cases attachment? with
  | none => rfl
  | some attachment =>
      unfold publish
      rw [Part.get_update]
      rfl

/-- Attaching makes a slip that was not there before. -/
theorem Progress.attach?_spares {σ : Type} [HasContexts σ] [HasDesk σ] {slip : Nat} {text : String}
    {s : σ} (context? : Option ContextId) (h : (HasDesk.part.get s).slips[slip]? = some text) :
    (HasDesk.part.get (attach? context? s).2).slips[slip]? = some text ∧
      ∀ attachment, (attach? context? s).1 = some attachment → attachment.slip ≠ slip := by
  unfold attach?
  split
  · rename_i name _
    constructor
    · rw [HasDesk.part.get_set]
      exact Desk.slip?_attach_other h name ""
    · intro attachment hattachment
      cases hattachment
      obtain ⟨hslip, _⟩ := Array.getElem?_eq_some_iff.1 h
      exact Nat.ne_of_gt hslip
  · refine ⟨h, fun attachment hattachment => ?_⟩
    cases hattachment

/-- Detaching leaves the texts of the slips alone. -/
theorem Progress.slips_detach {σ : Type} [HasDesk σ] (attachment? : Option Attachment) (s : σ) :
    (HasDesk.part.get (detach attachment? s)).slips = (HasDesk.part.get s).slips := by
  cases attachment? with
  | none => rfl
  | some attachment =>
      unfold detach
      rw [Part.get_update]
      rfl

/-! ## Steps taken by foreign code -/

namespace Poller

section

variable {σ : Type} [ReasonLog σ] [HasCheckers σ]

/-- Foreign code takes a step while an assertion is polled: the clock is read, an attempt
is made, or a pause is taken. -/
inductive Lets (poller : Poller σ) (assertion : Assertion σ) : σ → σ → Prop
  | now {v : σ} : Lets poller assertion v (poller.clock.now v).2
  | attempt {v : σ} : Lets poller assertion v (assertion.attempt.after v)
  | sleep {d : Span} {v : σ} :
      Lets poller assertion v ((poller.clock.sleep d assertion.settings.context?).after v)

namespace Lets

variable {poller : Poller σ} {assertion : Assertion σ} {v w : σ}

theorem of_now {now : Span} (h : poller.clock.now v = (now, w)) : poller.Lets assertion v w := by
  have hworld : (poller.clock.now v).2 = w := congrArg Prod.snd h
  rw [← hworld]
  exact .now

theorem of_attempt {answer : Except ConfigError Judgement}
    (h : assertion.attempt v = .ok answer w) : poller.Lets assertion v w := by
  rw [← Action.after_ok h]
  exact .attempt

theorem of_sleep {d : Span}
    (h : poller.clock.sleep d assertion.settings.context? v = .ok () w) :
    poller.Lets assertion v w := by
  rw [← Action.after_ok h]
  exact .sleep

end Lets

variable [HasDesk σ] (poller : Poller σ) (assertion : Assertion σ)

/-- On the way from one world to another only foreign code has changed the attachers. -/
def Drifts : σ → σ → Prop :=
  Relation.ReflTransGen fun v w => poller.Lets assertion v w ∨
    (HasDesk.part.get w).attachers = (HasDesk.part.get v).attachers

/-- Foreign code attaches and detaches nothing. -/
def SparesAttachers : Prop :=
  ∀ v w, poller.Lets assertion v w → ∀ other,
    (HasDesk.part.get w).attacher other = (HasDesk.part.get v).attacher other

/-- Foreign code does not write on a slip once there is one. -/
def SparesSlip (slip : Nat) : Prop :=
  ∀ v w text, poller.Lets assertion v w → (HasDesk.part.get v).slips[slip]? = some text →
    (HasDesk.part.get w).slips[slip]? = some text

variable {poller assertion} {v w : σ}

/-- A slip that foreign code does not write on is not written on by what it does last. -/
theorem SparesSlip.left {slip : Nat} {text : String} (h : poller.SparesSlip assertion slip)
    (htext : (HasDesk.part.get v).slips[slip]? = some text)
    (hlast : w = v ∨ poller.Lets assertion v w) :
    (HasDesk.part.get w).slips[slip]? = some text := by
  rcases hlast with rfl | hlets
  · exact htext
  · exact h v w text hlets htext

/-- Attachers that foreign code leaves alone stay as they are. -/
theorem Drifts.attacher_eq (h : poller.Drifts assertion v w)
    (hspares : poller.SparesAttachers assertion) (other : String) :
    (HasDesk.part.get w).attacher other = (HasDesk.part.get v).attacher other := by
  induction h with
  | refl => rfl
  | @tail u w _ hstep ih =>
      rw [← ih]
      rcases hstep with hlets | hsame
      · exact hspares u w hlets other
      · exact Desk.attacher_congr hsame other

end

section

variable {σ : Type} [ReasonLog σ] [HasCheckers σ] [HasContexts σ] [HasDesk σ] [DeskApart σ]
  {poller : Poller σ} {assertion : Assertion σ} {attachment? : Option Attachment}
  {started : Span} {event : Event} {journal : List Event} {s v w : σ}

/-- What an event of a run does: foreign code takes a step, or nothing happens to the
desk; an attempt that was evaluated has its text published on top of that. -/
theorem steps_of_occurs (journal : List Event)
    (h : Occurs (poller.surroundings assertion attachment?) started event v w) :
    ∃ u, (poller.Lets assertion v u ∨ HasDesk.part.get u = HasDesk.part.get v) ∧
      ((w = u ∧ Journal.reason (event :: journal) = Journal.reason journal) ∨
        ∃ e, event = .attempted (.evaluated e) ∧ w = Progress.publish attachment? e.reason u) := by
  cases h with
  | looked hdone =>
      have hworld : (Contexts.isDoneIn assertion.settings.context? v).2 = w :=
        congrArg Prod.snd hdone
      refine ⟨w, .inr ?_, .inl ⟨rfl, rfl⟩⟩
      rw [← hworld]
      exact Contexts.desk_isDoneIn _ v
  | began => exact ⟨v, .inr rfl, .inl ⟨rfl, rfl⟩⟩
  | interrupted hattempt => exact ⟨w, .inl (.of_attempt hattempt), .inl ⟨rfl, rfl⟩⟩
  | evaluated hattempt => exact ⟨_, .inl (.of_attempt hattempt), .inr ⟨_, rfl, rfl⟩⟩
  | @reasoned stop _ _ hreason =>
      have hworld : stop.asked.foldl (fun s reason => ReasonLog.workedOut reason s) v = w := by
        cases hreason
        rfl
      refine ⟨w, .inr ?_, .inl ⟨rfl, rfl⟩⟩
      rw [← hworld]
      exact ReasonLog.desk_ask _ v
  | elapsed hnow => exact ⟨w, .inl (.of_now hnow), .inl ⟨rfl, rfl⟩⟩
  | paused hsleep => exact ⟨w, .inl (.of_sleep hsleep), .inl ⟨rfl, rfl⟩⟩

/-- While a run is polling only foreign code changes the attachers. -/
theorem drifts_of_course
    (h : Course (poller.surroundings assertion attachment?) started s journal w) :
    poller.Drifts assertion s w := by
  induction h with
  | nil => exact .refl
  | @cons event journal t w _ hevent ih =>
      obtain ⟨u, hstep, hends⟩ := steps_of_occurs journal hevent
      have hdrifts : poller.Drifts assertion s u := by
        refine ih.tail ?_
        rcases hstep with hlets | hsame
        · exact .inl hlets
        · exact .inr (by rw [hsame])
      rcases hends with ⟨rfl, _⟩ | ⟨e, _, rfl⟩
      · exact hdrifts
      · exact hdrifts.tail (.inr (Progress.attachers_publish _ _ _))

/-- A slip that foreign code leaves alone says what it said before, unless the run writes
on it. -/
theorem slip_of_occurs (journal : List Event) {slip : Nat} {text : String}
    (hspares : poller.SparesSlip assertion slip)
    (h : Occurs (poller.surroundings assertion attachment?) started event v w)
    (htext : (HasDesk.part.get v).slips[slip]? = some text) :
    ∃ u, (HasDesk.part.get u).slips[slip]? = some text ∧
      ((w = u ∧ Journal.reason (event :: journal) = Journal.reason journal) ∨
        ∃ e, event = .attempted (.evaluated e) ∧ w = Progress.publish attachment? e.reason u) := by
  obtain ⟨u, hstep, hends⟩ := steps_of_occurs journal h
  refine ⟨u, ?_, hends⟩
  rcases hstep with hlets | hsame
  · exact hspares v u text hlets htext
  · rw [hsame]
    exact htext

/-- The slip of a run says what the last verdict of the run said. -/
theorem slip_of_course {name : String} {slip : Nat} (hspares : poller.SparesSlip assertion slip)
    (h : Course (poller.surroundings assertion (some ⟨name, slip⟩)) started s journal w)
    (hempty : (HasDesk.part.get s).slips[slip]? = some "") :
    (HasDesk.part.get w).slips[slip]? = some (Journal.reason journal) := by
  induction h with
  | nil => exact hempty
  | @cons event journal v w _ hevent ih =>
      obtain ⟨u, htext, hends⟩ := slip_of_occurs journal hspares hevent ih
      rcases hends with ⟨rfl, hreason⟩ | ⟨e, rfl, rfl⟩
      · rw [hreason]
        exact htext
      · unfold Progress.publish
        rw [Part.get_update]
        obtain ⟨hslip, _⟩ := Array.getElem?_eq_some_iff.1 htext
        exact Desk.slip?_write _ hslip

/-- A run leaves the slips of other runs alone. -/
theorem other_slip_of_course {slip : Nat} {text : String}
    (hspares : poller.SparesSlip assertion slip)
    (hother : ∀ attachment, attachment? = some attachment → attachment.slip ≠ slip)
    (h : Course (poller.surroundings assertion attachment?) started s journal w)
    (htext : (HasDesk.part.get s).slips[slip]? = some text) :
    (HasDesk.part.get w).slips[slip]? = some text := by
  induction h with
  | nil => exact htext
  | @cons event journal v w _ hevent ih =>
      obtain ⟨u, htext', hends⟩ := slip_of_occurs journal hspares hevent ih
      rcases hends with ⟨rfl, _⟩ | ⟨e, _, rfl⟩
      · exact htext'
      · cases attachment? with
        | none => exact htext'
        | some attachment =>
            unfold Progress.publish
            rw [Part.get_update, Desk.slip?_write_other (hother _ rfl)]
            exact htext'

/-! ## The attachment of a run -/

variable {limit : Nat} {ending? : Option Ending} {run : Run σ}

omit [DeskApart σ] in
/-- However a run ends, its slip is detached after what was done last. -/
theorem run_left (h : poller.run assertion limit s = (ending?, run)) :
    ∃ w polled, poller.Reaches assertion s run.journal w ∧
      (polled = w ∨ poller.Lets assertion w polled) ∧
      run.world = Progress.detach (assertion.slip? s) polled := by
  cases ending? with
  | none =>
      obtain ⟨w, _, hrun, hworld⟩ := run_stands h
      exact ⟨w, w, hrun, .inl rfl, hworld⟩
  | some ending =>
      obtain ⟨w, polled, _, hrun, hleaves, hworld⟩ := run_over h
      refine ⟨w, polled, hrun, ?_, hworld⟩
      cases hleaves with
      | passed => exact .inl rfl
      | failed => exact .inl rfl
      | refused hattempt _ => exact .inr (.of_attempt hattempt)
      | escaped hattempt _ =>
          have hleft : assertion.attempt.after w = polled := Action.after_error hattempt
          rw [← hleft]
          exact .inr .attempt
      | @disturbed _ _ _ d _ _ hsleep _ =>
          have hleft : (poller.clock.sleep d assertion.settings.context?).after w = polled :=
            Action.after_error hsleep
          rw [← hleft]
          exact .inr .sleep

/-- From attaching on, only foreign code changes the attachers. -/
theorem drifts_of_reaches {journal : List Event} (h : poller.Reaches assertion s journal v) :
    poller.Drifts assertion (Progress.attach? assertion.settings.context? s).2 v := by
  have hstart : poller.Drifts assertion (Progress.attach? assertion.settings.context? s).2
      (poller.outset assertion s).world := .single (.inl .now)
  exact hstart.trans (drifts_of_course h)

omit [DeskApart σ] in
/-- When an attempt is begun, the text to be reported is that of the attempt before. -/
theorem reason_of_began (h : poller.run assertion limit s = (ending?, run)) {earlier : List Event}
    (hbegan : .began :: earlier <:+ run.journal) :
    Journal.reason earlier = Journal.lastText (Journal.attempts earlier) := by
  obtain ⟨opening, rfl, hpending⟩ := run_opening_of_began h hbegan
  exact hpending.reason_eq

omit [DeskApart σ] in
/-- An attempt that is interrupted leaves the text to be reported as it was. -/
theorem reason_of_interrupted (h : poller.run assertion limit s = (ending?, run))
    {earlier : List Event} {stop : StopSignal} {t : σ} (hbegan : .began :: earlier <:+ run.journal)
    (hcourse : poller.Reaches assertion s earlier v)
    (hattempt : assertion.attempt v = .ok (.ok (.interrupted stop)) t) :
    Journal.reason run.journal = Journal.lastText (Journal.attempts earlier) := by
  rw [← reason_of_began h hbegan]
  have hattempted := run_attempted h hbegan hcourse hattempt
  cases ending? with
  | none =>
      obtain ⟨_, hpending, _⟩ := run_stands h
      exact absurd hattempted hpending.not_interrupted
  | some ending =>
      obtain ⟨_, _, hconcluded, _⟩ := run_over h
      have hreason : Journal.reason run.journal = Journal.reason (.began :: earlier) :=
        hconcluded.reason_of_interrupted hattempted
      exact hreason

omit [HasContexts σ] [DeskApart σ] in
/-- Attachers that foreign code leaves alone stand as if attached once. -/
theorem attached_of_drifts {before : Desk} {name : String}
    (hspares : poller.SparesAttachers assertion)
    (h : poller.Drifts assertion (HasDesk.part.set (before.attach name "").2 s) v) :
    before.Attached name 0 (HasDesk.part.get v) := by
  have hattached : before.Attached name 0
      (HasDesk.part.get (HasDesk.part.set (before.attach name "").2 s)) := by
    rw [HasDesk.part.get_set]
    exact Desk.attached_attach before name ""
  exact hattached.congr (h.attacher_eq hspares)

section

variable {c : ContextId} {name : String} {before : Desk}
  (hcontext : assertion.settings.context? = some c)
  (hnearest : (HasContexts.part.get s).Nearest c name) (hbefore : HasDesk.part.get s = before)

include hcontext hnearest hbefore

omit [ReasonLog σ] [HasCheckers σ] [DeskApart σ] in
theorem attach?_of_nearest :
    Progress.attach? assertion.settings.context? s =
      (some ⟨name, before.slips.size⟩, HasDesk.part.set (before.attach name "").2 s) := by
  rw [hcontext, Progress.attach?_of_nearest hnearest, hbefore]

omit [ReasonLog σ] [HasCheckers σ] [DeskApart σ] in
theorem slip?_of_nearest : assertion.slip? s = some ⟨name, before.slips.size⟩ :=
  congrArg Prod.fst (attach?_of_nearest hcontext hnearest hbefore)

/-- From attaching on, only foreign code changes the attachers. -/
theorem drifts_of_attached {journal : List Event} (h : poller.Reaches assertion s journal v) :
    poller.Drifts assertion (HasDesk.part.set (before.attach name "").2 s) v := by
  have hdrifts := drifts_of_reaches h
  rw [attach?_of_nearest hcontext hnearest hbefore] at hdrifts
  exact hdrifts

/-- While a run with a slip is polling, its slip says what its last verdict said. -/
theorem slip_of_reaches (hspares : poller.SparesSlip assertion before.slips.size)
    {journal : List Event} (h : poller.Reaches assertion s journal v) :
    (HasDesk.part.get v).slips[before.slips.size]? = some (Journal.reason journal) := by
  have hcourse : Course (poller.surroundings assertion (some ⟨name, before.slips.size⟩))
      (poller.outset assertion s).started (poller.outset assertion s).world journal v := by
    rw [← slip?_of_nearest hcontext hnearest hbefore]
    exact h
  refine slip_of_course hspares hcourse (hspares _ _ "" .now ?_)
  rw [attach?_of_nearest hcontext hnearest hbefore, HasDesk.part.get_set]
  exact Desk.slip?_attach before name ""

/-- What a run leaves: it drifted away from where its slip was attached, and then the slip was
detached. -/
theorem run_left_attached (h : poller.run assertion limit s = (ending?, run)) :
    ∃ w polled, poller.Reaches assertion s run.journal w ∧
      (polled = w ∨ poller.Lets assertion w polled) ∧
      poller.Drifts assertion (HasDesk.part.set (before.attach name "").2 s) polled ∧
      run.world = HasDesk.part.update (Desk.detach ⟨name, before.slips.size⟩) polled := by
  obtain ⟨w, polled, hrun, hlast, hworld⟩ := run_left h
  rw [slip?_of_nearest hcontext hnearest hbefore] at hworld
  refine ⟨w, polled, hrun, hlast, ?_, hworld⟩
  have hdrifts := drifts_of_attached hcontext hnearest hbefore hrun
  rcases hlast with rfl | hlets
  · exact hdrifts
  · exact hdrifts.tail (.inl hlets)

/-- Attachers that foreign code leaves alone stand in the end as if attached and detached once. -/
theorem detached_of_run (h : poller.run assertion limit s = (ending?, run))
    (hspares : poller.SparesAttachers assertion) :
    before.Attached name 1 (HasDesk.part.get run.world) := by
  obtain ⟨_, polled, _, _, hdrifts, hworld⟩ := run_left_attached hcontext hnearest hbefore h
  rw [hworld, Part.get_update]
  exact (attached_of_drifts hspares hdrifts).detach _

/-- When an attempt is begun, its slip says what the attempt before said. -/
theorem slip_of_began (h : poller.run assertion limit s = (ending?, run))
    (hspares : poller.SparesSlip assertion before.slips.size) {earlier : List Event}
    (hbegan : .began :: earlier <:+ run.journal) (hcourse : poller.Reaches assertion s earlier v)
    (checker : CheckerId) :
    (HasDesk.part.get (Checker.clear checker v)).slips[before.slips.size]? =
      some (Journal.lastText (Journal.attempts earlier)) := by
  rw [Checker.desk_clear, ← reason_of_began h hbegan]
  exact slip_of_reaches hcontext hnearest hbefore hspares hcourse

/-- In the end the slip of a run says what the last attempt said that was evaluated. -/
theorem slip_of_run (h : poller.run assertion limit s = (ending?, run))
    (hspares : poller.SparesSlip assertion before.slips.size) :
    (HasDesk.part.get run.world).slips[before.slips.size]? =
      some (Journal.reason run.journal) := by
  obtain ⟨w, polled, hrun, hlast, _, hworld⟩ := run_left_attached hcontext hnearest hbefore h
  rw [hworld, Part.get_update]
  have hreached := slip_of_reaches hcontext hnearest hbefore hspares hrun
  exact hspares.left hreached hlast

end

/-- The attachment of a run whose context has an attacher. A new slip is attached to the
nearest attacher before anything else, the starting time included, and is detached after
everything else, before what the run has come to is settled. In between only foreign code
changes the attachers; if it does not, then each of them stands as if attached once, and in
the end detached once, or not at all. If foreign code does not write on the slip, then the
slip says, whenever an attempt calls its function, what the attempt before said, and in the
end what the last attempt said that was evaluated. An attempt that is interrupted makes no
difference to that. -/
theorem run_attached {c : ContextId} {name : String} {before : Desk}
    (h : poller.run assertion limit s = (ending?, run))
    (hvalid : assertion.probe.validate assertion.kind assertion.settings = .ok ())
    (hcontext : assertion.settings.context? = some c)
    (hnearest : (HasContexts.part.get s).Nearest c name) (hbefore : HasDesk.part.get s = before) :
    (∃ attached polled w,
        attached = HasDesk.part.set (before.attach name "").2 s ∧
        before.Attached name 0 (HasDesk.part.get attached) ∧
        (poller.outset assertion s).world = (poller.clock.now attached).2 ∧
        poller.Reaches assertion s run.journal w ∧
        (polled = w ∨ poller.Lets assertion w polled) ∧
        poller.Drifts assertion attached polled ∧
        run.world = HasDesk.part.update (Desk.detach ⟨name, before.slips.size⟩) polled ∧
        poller.conclude assertion limit s =
          (ending?.elim (return none) fun ending =>
            poller.settle assertion ending >>= fun holds => return some holds) run.world) ∧
      (poller.SparesAttachers assertion →
        (∀ journal v, poller.Reaches assertion s journal v →
          before.Attached name 0 (HasDesk.part.get v)) ∧
        before.Attached name 1 (HasDesk.part.get run.world)) ∧
      (poller.SparesSlip assertion before.slips.size →
        (∀ earlier v checker, .began :: earlier <:+ run.journal →
          poller.Reaches assertion s earlier v →
          (HasDesk.part.get (Checker.clear checker v)).slips[before.slips.size]? =
            some (Journal.lastText (Journal.attempts earlier))) ∧
        (HasDesk.part.get run.world).slips[before.slips.size]? =
          some (Journal.reason run.journal) ∧
        ∀ earlier v stop t, .began :: earlier <:+ run.journal →
          poller.Reaches assertion s earlier v →
          assertion.attempt v = .ok (.ok (.interrupted stop)) t →
          Journal.reason run.journal = Journal.lastText (Journal.attempts earlier)) ∧
      (poller.SparesAttachers assertion → poller.SparesSlip assertion before.slips.size →
        (∀ earlier v checker, .began :: earlier <:+ run.journal →
          poller.Reaches assertion s earlier v →
          (HasDesk.part.get (Checker.clear checker v)).report? name =
            some (Journal.lastText (Journal.attempts earlier))) ∧
        (HasDesk.part.get run.world).report? name = some (Journal.reason run.journal)) := by
  obtain ⟨w, polled, hrun, hlast, hdrifts, hworld⟩ :=
    run_left_attached hcontext hnearest hbefore h
  have hattached : poller.SparesAttachers assertion → ∀ journal v,
      poller.Reaches assertion s journal v → before.Attached name 0 (HasDesk.part.get v) :=
    fun hspares _ _ hcourse =>
      attached_of_drifts hspares (drifts_of_attached hcontext hnearest hbefore hcourse)
  refine ⟨⟨_, polled, w, rfl, ?_, ?_, hrun, hlast, hdrifts, hworld, conclude_polled h hvalid⟩,
    fun hspares => ⟨hattached hspares, detached_of_run hcontext hnearest hbefore h hspares⟩,
    fun hspares => ⟨fun earlier v checker hbegan hcourse => ?_,
      slip_of_run hcontext hnearest hbefore h hspares,
      fun earlier v stop t => reason_of_interrupted h⟩,
    fun hspares hslips => ⟨fun earlier v checker hbegan hcourse => ?_, ?_⟩⟩
  · rw [HasDesk.part.get_set]
    exact Desk.attached_attach before name ""
  · unfold outset
    rw [attach?_of_nearest hcontext hnearest hbefore]
    rfl
  · exact slip_of_began hcontext hnearest hbefore h hspares hbegan hcourse checker
  · have hcalled : before.Attached name 0 (HasDesk.part.get (Checker.clear checker v)) := by
      rw [Checker.desk_clear]
      exact hattached hspares earlier v hcourse
    have htext := slip_of_began hcontext hnearest hbefore h hslips hbegan hcourse checker
    exact hcalled.report?_eq htext
  · have hdetached := detached_of_run hcontext hnearest hbefore h hspares
    exact hdetached.report?_eq (slip_of_run hcontext hnearest hbefore h hslips)

end

end Poller

/-! ## A context with an attacher -/

/-- A world with a context that brings an attacher along, and one derived from it. -/
def Session.World.attended : Session.World :=
  { Session.World.starting 0 with
    contexts := ((Contexts.empty.background.2.derive 0 (.attacher "a")).2.derive 1 .cancellable).2 }

/-- Waits too short a time, in the derived context. -/
def Assertion.attended : Assertion Session.World :=
  { Assertion.since .eventually true 4 2 9 with settings := ⟨some 4, some 2, some 2, []⟩ }

/-- The virtual clock leaves the desk alone, and so do the attempts. -/
theorem Poller.desk_of_lets_attended {v w : Session.World}
    (h : Poller.virtual.Lets Assertion.attended v w) : w.desk = v.desk := by
  cases h with
  | now => rfl
  | attempt =>
      obtain ⟨answer, hattempt⟩ : ∃ answer, Assertion.attended.attempt v = .ok answer v :=
        Assertion.attempt_since .eventually true 4 2 9 v
      rw [Action.after_ok hattempt]
  | @sleep d =>
      have hlooked : (Contexts.isDoneIn (some 2) v).2.desk = v.desk :=
        Contexts.desk_isDoneIn (some 2) v
      cases hanswer : Contexts.isDoneIn (some 2) v with
      | mk done t =>
          rw [hanswer] at hlooked
          have hslept : Clock.virtual.sleep d (some 2) v = .ok () (if done then t else
              HasVirtualClock.part.update (VirtualClock.sleep d) t) := by
            unfold Clock.virtual
            simp only [hanswer]
            cases done <;> rfl
          have hleft : (Clock.virtual.sleep d (some 2)).after v = if done then t else
              HasVirtualClock.part.update (VirtualClock.sleep d) t := Action.after_ok hslept
          show ((Clock.virtual.sleep d (some 2)).after v).desk = v.desk
          rw [hleft, ← hlooked]
          cases done <;> rfl

/-- Its attacher has been attached and detached once, and reports the last text. -/
theorem Poller.run_attached_attended :
    (Poller.virtual.run Assertion.attended 9 Session.World.attended).2.world.desk.attacher "a" =
        ⟨some 0, 1, 1⟩ ∧
      (Poller.virtual.run Assertion.attended 9 Session.World.attended).2.world.desk.report? "a" =
        some "too early" := by
  have hreason : Journal.reason
      (Poller.virtual.run Assertion.attended 9 Session.World.attended).2.journal = "too early" := by
    decide +kernel
  have hrun : Poller.virtual.run Assertion.attended 9 Session.World.attended =
      ((Poller.virtual.run Assertion.attended 9 Session.World.attended).1,
        (Poller.virtual.run Assertion.attended 9 Session.World.attended).2) := rfl
  have hnearest : (HasContexts.part.get Session.World.attended).Nearest 2 "a" :=
    .inherited rfl rfl rfl (by decide) (.own rfl rfl)
  have hattachers : Poller.virtual.SparesAttachers Assertion.attended := by
    intro v w hlets other
    exact congrArg (Desk.attacher · other) (desk_of_lets_attended hlets)
  have hslips : Poller.virtual.SparesSlip Assertion.attended 0 := by
    intro v w text hlets htext
    have hdesk : HasDesk.part.get w = HasDesk.part.get v := desk_of_lets_attended hlets
    rw [hdesk]
    exact htext
  obtain ⟨-, hcount, -, hreport⟩ := run_attached hrun rfl rfl hnearest rfl
  have hattached := (hcount hattachers).2 "a"
  have hreported := (hreport hattachers hslips).2
  rw [hreason] at hreported
  exact ⟨hattached, hreported⟩

/-! ## An assertion inside an assertion -/

namespace Action

variable {σ α β : Type} [HasDesk σ] {x : Action σ α} {f : α → Action σ β} {slip : Nat}

/-- An action does not write on a slip once there is one, whether it returns or unwinds. -/
def SparesSlip (x : Action σ α) (slip : Nat) : Prop :=
  ∀ s text, (HasDesk.part.get s).slips[slip]? = some text →
    (HasDesk.part.get (x.after s)).slips[slip]? = some text

theorem SparesSlip.pure (a : α) : (Pure.pure a : Action σ α).SparesSlip slip :=
  fun _ _ htext => htext

theorem SparesSlip.bind (hx : x.SparesSlip slip) (hf : ∀ a, (f a).SparesSlip slip) :
    (x >>= f).SparesSlip slip := by
  intro s text htext
  have hleft := hx s text htext
  cases hstep : x s with
  | ok a t =>
      rw [after_ok hstep] at hleft
      have hrest : (x >>= f).after s = (f a).after t := by
        unfold after
        rw [bind_ok hstep]
      rw [hrest]
      exact hf a t text hleft
  | error payload t =>
      rw [after_error hstep] at hleft
      rw [after_error (bind_error hstep)]
      exact hleft

end Action

namespace Poller

section

variable {σ : Type} [ReasonLog σ] [HasCheckers σ] [HasContexts σ] [HasDesk σ] {poller : Poller σ}
  {assertion : Assertion σ} {slip : Nat}

omit [HasCheckers σ] [HasContexts σ] in
theorem settle_sparesSlip (hhandler : ∀ failure, (poller.handler failure).SparesSlip slip)
    (hdescribe : assertion.describe.SparesSlip slip) (ending : Ending) :
    (poller.settle assertion ending).SparesSlip slip := by
  rw [← settle_describedBy]
  cases ending with
  | passed => exact .pure true
  | failed termination reason d =>
      exact .bind hdescribe fun text => .bind (hhandler _) fun _ => .pure false
  | refused e => exact .bind (hhandler _) fun _ => .pure false
  | escaped payload => exact fun _ _ htext => htext

variable [DeskApart σ]

/-- Polling leaves the slips of other runs alone, if foreign code does. -/
theorem run_sparesSlip (hspares : poller.SparesSlip assertion slip) {limit : Nat} {s : σ}
    {ending? : Option Ending} {run : Run σ} (h : poller.run assertion limit s = (ending?, run))
    {text : String} (htext : (HasDesk.part.get s).slips[slip]? = some text) :
    (HasDesk.part.get run.world).slips[slip]? = some text := by
  obtain ⟨hattached, hother⟩ := Progress.attach?_spares assertion.settings.context? htext
  obtain ⟨w, polled, hrun, hlast, hworld⟩ := run_left h
  have hstart : (HasDesk.part.get (poller.outset assertion s).world).slips[slip]? = some text :=
    hspares _ _ text .now hattached
  have hreached := other_slip_of_course hspares hother hrun hstart
  rw [hworld, Progress.slips_detach]
  exact hspares.left hreached hlast

/-- An assertion that is made inside a probe writes on its own slip only. So the probe spares
the slips that were there before, if what it does otherwise spares them. -/
theorem conclude_sparesSlip (hspares : poller.SparesSlip assertion slip)
    (hhandler : ∀ failure, (poller.handler failure).SparesSlip slip)
    (hdescribe : assertion.describe.SparesSlip slip) (limit : Nat) :
    (poller.conclude assertion limit).SparesSlip slip := by
  intro s text htext
  have hcall : ∀ {x : Action σ (Option Bool)} {t : σ}, poller.conclude assertion limit s = x t →
      x.SparesSlip slip → (HasDesk.part.get t).slips[slip]? = some text →
      (HasDesk.part.get ((poller.conclude assertion limit).after s)).slips[slip]? = some text := by
    intro x t heq hx htext'
    have hleft : (poller.conclude assertion limit).after s = x.after t := by
      unfold Action.after
      rw [heq]
    rw [hleft]
    exact hx t text htext'
  cases hvalid : assertion.probe.validate assertion.kind assertion.settings with
  | error e =>
      exact hcall (conclude_rejected hvalid) (.bind (hhandler _) fun _ => .pure _) htext
  | ok _ =>
      cases hrun : poller.run assertion limit s with
      | mk ending? run =>
          refine hcall (conclude_polled hrun hvalid) ?_ (run_sparesSlip hspares hrun htext)
          cases ending? with
          | none => exact .pure none
          | some ending => exact .bind (settle_sparesSlip hhandler hdescribe ending) fun _ => .pure _

end

end Poller

end PollingAssertions
