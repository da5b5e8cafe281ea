import Mathlib.Logic.Relation
import PollingAssertions.Proofs.Context.History

/-!
# Why a context is done

An error comes to a context in one of four ways: somebody cancels it, somebody notices that
its deadline has passed, its parent hands on an error, or it is derived from a parent that
is done. Whichever way comes first counts. For all of them this module says once what a step
can do to the errors of a forest: nothing; or it ends one context that has a reason to be
done, and all below it; or it gives the error of a parent to a new child.

Everything else follows from that. In one step there is one error, it is only given to
contexts that have none, and the reason for it is the one that it names, in the forest as it
was before the step.

## Main definitions

* `Contexts.Reason` — the reason that an error names.
* `Contexts.Effect` — what a step does to the errors.
* `Contexts.After` — one forest comes after another.

## Main results

* `Contexts.Step.effect` — the effects of all steps.
* `Contexts.Effect.given` — who is given an error, and why.
* `Contexts.Recorded.handed_on` — whoever descends from a context that is ended is ended.
* `Contexts.History.reason` — every error has its reason.
* `Contexts.History.error_final` — errors last, have their reason, and are shared.
-/

namespace PollingAssertions

/-- What a context knows once somebody waits for it with a waker. -/
def Context.awaitedBy (waker : String) (context : Context) : Context :=
  if context.wakers.contains waker then context
  else { context with wakers := context.wakers ++ [waker] }

namespace Contexts

variable {cs cs' : Contexts} {deeds new : List Deed} {c p x : ContextId} {e : ContextError}

/-! ## The errors of a forest -/

theorem stored?_of_at? {context : Context} (found : cs.at? c = some context) :
    cs.stored? c = context.error? := by
  rw [stored?, found, Option.bind_some]

theorem stored?_eq_none_iff : cs.stored? c = none ↔ ¬ cs.Settled c := by
  unfold Settled
  cases cs.stored? c <;> simp

/-- A context keeps what it has, or it is given the error that spreads. -/
theorem stored?_spread (cs : Contexts) (e : ContextError) (there : ContextId → Bool)
    (pending : List ContextId) (x : ContextId) :
    (cs.spread e there pending).stored? x = cs.stored? x ∨
      cs.stored? x = none ∧ (cs.spread e there pending).stored? x = some e := by
  rcases at?_spread cs e there pending x with hsame | ⟨context, found, hundone, _, hended⟩
  · left
    rw [stored?, hsame, stored?]
  · right
    rw [stored?_of_at? found, stored?_of_at? hended]
    exact ⟨hundone, rfl⟩

/-- Whoever is on the list, is there and has no error is given the one that spreads. -/
theorem stored?_spread_of_open {there : ContextId → Bool} {pending : List ContextId}
    (hx : x ∈ pending) (hthere : there x = true) (hmade : cs.Made x) (hopen : cs.stored? x = none) :
    (cs.spread e there pending).stored? x = some e := by
  have hsettled : (cs.spread e there pending).Settled x := settled_spread hx hthere hmade
  rcases stored?_spread cs e there pending x with hsame | ⟨_, hgiven⟩
  · exact absurd hsettled (stored?_eq_none_iff.1 (hsame.trans hopen))
  · exact hgiven

theorem made_of_mem_lineage (h : x ∈ cs.lineage c) : cs.Made x := by
  induction c using Nat.strongRecOn with
  | ind c ih =>
      obtain ⟨hmade, rfl | ⟨p, _, holder, hx⟩⟩ := mem_lineage_iff.1 h
      · exact hmade
      · exact ih p holder hx

theorem made_of_present (h : cs.present x = true) : cs.Made x := by
  obtain ⟨_, _, hx⟩ := present_iff.1 h
  exact made_of_mem_lineage hx

/-- Whoever is ended has the error, if it is there and had none. -/
theorem stored?_finish_self (hpresent : cs.present c = true) (hopen : cs.stored? c = none) :
    (cs.finish e c).stored? c = some e :=
  stored?_spread_of_open List.mem_cons_self hpresent (made_of_present hpresent) hopen

/-- Asking for an error that is known changes nothing. -/
theorem error_of_stored? (h : cs.stored? c = some e) : cs.error c = (some e, cs) := by
  unfold error
  rw [h]

/-- A context whose deadline has passed says so, if nothing came before. -/
theorem error_of_expired (hopen : cs.stored? c = none) (hexpired : cs.expired c = true)
    (hpresent : cs.present c = true) : (cs.error c).1 = some .deadlineExceeded := by
  have hgiven : (cs.finish .deadlineExceeded c).stored? c = some .deadlineExceeded :=
    stored?_finish_self hpresent hopen
  unfold error
  rw [hopen]
  simp only [hexpired, if_true]
  exact hgiven

/-- What somebody who asks is told was known, or is noticed now. -/
theorem stored?_or_expired_of_error (h : (cs.error c).1 = some e) :
    cs.stored? c = some e ∨
      e = .deadlineExceeded ∧ cs.stored? c = none ∧ cs.expired c = true := by
  unfold error at h
  cases hstored : cs.stored? c with
  | some e' =>
      rw [hstored] at h
      exact .inl h
  | none =>
      rw [hstored] at h
      by_cases hexpired : cs.expired c = true
      · simp only [hexpired, if_true] at h
        rcases stored?_spread cs .deadlineExceeded cs.present [c] c with hsame | ⟨_, hgiven⟩
        · cases hstored.symm.trans (hsame.symm.trans h)
        · exact .inr ⟨Option.some.inj (h.symm.trans hgiven), rfl, hexpired⟩
      · simp only [hexpired] at h
        cases h

/-- What was said is known from then on. -/
theorem stored?_of_error {after : Contexts} (h : cs.error c = (some e, after)) :
    after.stored? c = some e := by
  unfold error at h
  cases hstored : cs.stored? c with
  | some e' =>
      simp only [hstored, Prod.mk.injEq] at h
      obtain ⟨hsome, rfl⟩ := h
      exact hstored.trans hsome
  | none =>
      by_cases hexpired : cs.expired c = true
      · simp only [hstored, hexpired, if_true, Prod.mk.injEq] at h
        obtain ⟨hsome, rfl⟩ := h
        exact hsome
      · simp [hstored, hexpired] at h

/-! ## Reasons -/

/-- The reason that an error names: a cancellation of the context or of one above it, or a
deadline requested for one of these, which has come at an instant. -/
def Reason (deeds : List Deed) (instant : Span) (c : ContextId) : ContextError → Prop
  | .cancelled => Cancelled deeds c
  | .deadlineExceeded => Due deeds instant c

theorem Reason.of_parent {instant : Span} {requested? : Option Span}
    (h : Reason deeds instant p e) (hderived : .derived c p requested? ∈ deeds) :
    Reason deeds instant c e := by
  cases e with
  | cancelled => exact Cancelled.of_parent h hderived
  | deadlineExceeded => exact Due.of_parent h hderived

theorem Reason.later {more : List Deed} {instant later : Span} (h : Reason deeds instant c e)
    (hsub : deeds ⊆ more) (hle : instant ≤ later) : Reason more later c e := by
  cases e with
  | cancelled => exact Cancelled.more hsub h
  | deadlineExceeded => exact (Due.more hsub h).mono hle

/-! ## What a step can do -/

/-- What a step does to the errors of a forest: it gives none; or it ends one context that
has a reason to be done, and whoever is below; or it makes a child, which begins with the
error of its parent. -/
inductive Effect (deeds : List Deed) (cs cs' : Contexts) : Prop
  | nothing : (∀ x, cs'.stored? x = cs.stored? x) → Effect deeds cs cs'
  | ended {c : ContextId} {e : ContextError} : Recorded deeds cs →
      Reason deeds cs.instant c e → cs' = cs.finish e c → Effect deeds cs cs'
  | born {p : ContextId} {requested? : Option Span} :
      .derived cs.contexts.size p requested? ∈ deeds →
      cs'.stored? cs.contexts.size = cs.stored? p →
      (∀ x, x ≠ cs.contexts.size → cs'.stored? x = cs.stored? x) → Effect deeds cs cs'

theorem stored?_add_of_ne {context : Context} (h : x ≠ cs.contexts.size) :
    (cs.add context).2.stored? x = cs.stored? x := by
  rw [stored?, at?_add_of_ne h, stored?]

theorem stored?_size : cs.stored? cs.contexts.size = none := by
  rw [stored?_eq_none_iff]
  intro hdone
  obtain ⟨context, found, _⟩ := settled_iff.1 hdone
  exact not_made_size ⟨context, found⟩

theorem stored?_add {context : Context} (hundone : context.error? = none) :
    (cs.add context).2.stored? x = cs.stored? x := by
  by_cases hx : x = cs.contexts.size
  · subst hx
    rw [stored?_of_at? at?_add_self, hundone, stored?_size]
  · exact stored?_add_of_ne hx

theorem Alike.stored? (h : cs'.Alike cs) : cs'.stored? x = cs.stored? x := by
  unfold Contexts.stored?
  rcases h x with hsame | ⟨context, _, _, found, found'⟩
  · rw [hsame]
  · rw [found, found']
    rfl

/-- Asking ends a context or changes nothing. -/
theorem error_eq (cs : Contexts) (c : ContextId) :
    (cs.error c).2 = cs ∨
      cs.expired c = true ∧ (cs.error c).2 = cs.finish .deadlineExceeded c := by
  unfold error
  cases cs.stored? c with
  | some e => exact .inl rfl
  | none =>
      by_cases hexpired : cs.expired c = true
      · right
        rw [if_pos hexpired]
        exact ⟨hexpired, rfl⟩
      · rw [if_neg hexpired]
        exact .inl rfl

/-- A poll is answered with the error of the context, or a context that has none takes down who
waits for it, and nothing else changes. -/
theorem pollDone_cases (cs : Contexts) (c : ContextId) (waker : String) :
    (∃ e, cs.pollDone c waker = (some e, (cs.error c).2) ∧ (cs.error c).1 = some e) ∨
      cs.stored? c = none ∧
        cs.pollDone c waker = (none, cs.update c (Context.awaitedBy waker)) := by
  cases hanswer : cs.error c with
  | mk e? after =>
      cases e? with
      | some e =>
          refine .inl ⟨e, ?_, rfl⟩
          unfold pollDone
          rw [hanswer]
      | none =>
          have hasked : cs.isDone c = (false, after) := by
            rw [isDone, hanswer]
            rfl
          have hsame : after = cs := isDone_unchanged hasked
          subst hsame
          have hopen : after.stored? c = none := by
            cases hstored : after.stored? c with
            | none => rfl
            | some e => cases hanswer.symm.trans (error_of_stored? hstored)
          refine .inr ⟨hopen, ?_⟩
          unfold pollDone
          rw [hanswer]
          rfl

theorem alike_awaited {waker : String} : (cs.update c (Context.awaitedBy waker)).Alike cs := by
  refine alike_update fun context => ?_
  by_cases hregistered : context.wakers.contains waker = true
  · exact ⟨context.children, context.wakers, by rw [Context.awaitedBy, if_pos hregistered]⟩
  · exact ⟨context.children, context.wakers ++ [waker],
      by rw [Context.awaitedBy, if_neg hregistered]⟩

theorem instant_addChild {configure : Context → Context} :
    (cs.addChild p configure).2.instant = cs.instant := by
  rw [addChild_eq]
  cases (cs.grown p configure).stored? p with
  | none => exact instant_update
  | some e => exact instant_spread

theorem derive_fst (cs : Contexts) (p : ContextId) (how : Derivation) :
    (cs.derive p how).1 = cs.contexts.size := by
  obtain ⟨configure, instant, -, -, -, heq⟩ := derive_eq cs p how
  rw [heq, addChild_eq]

theorem stored?_grown {configure : Context → Context} {requested? : Option Span}
    (hconfigures : Configures configure requested?) :
    (cs.grown p configure).stored? x = cs.stored? x :=
  stored?_add (hconfigures.error? _)

/-- A new child begins with the error of its parent, if that has one. -/
theorem stored?_addChild_self {configure : Context → Context} {requested? : Option Span}
    (hconfigures : Configures configure requested?) :
    (cs.addChild p configure).2.stored? cs.contexts.size = cs.stored? p := by
  have hopen : (cs.grown p configure).stored? cs.contexts.size = none := by
    rw [grown, stored?_of_at? at?_add_self, hconfigures.error?]
    rfl
  rw [addChild_eq, stored?_grown hconfigures]
  cases cs.stored? p with
  | none => exact alike_entered.stored?.trans hopen
  | some e =>
      have hmade : (cs.grown p configure).Made cs.contexts.size := made_add.2 (.inl rfl)
      have hheld : cs.contexts.size ∈ (cs.grown p configure).held := List.mem_cons_self
      exact stored?_spread_of_open List.mem_cons_self (present_of_held hheld hmade) hmade hopen

theorem stored?_addChild_of_ne {configure : Context → Context} {requested? : Option Span}
    (hconfigures : Configures configure requested?) (hx : x ≠ cs.contexts.size) :
    (cs.addChild p configure).2.stored? x = cs.stored? x := by
  rw [addChild_eq, stored?_grown hconfigures]
  cases cs.stored? p with
  | none => exact alike_entered.stored?.trans (stored?_grown hconfigures)
  | some e =>
      -- the new child has no children to hand its error on to
      have hspared : ((cs.grown p configure).spread e (cs.grown p configure).present
          [cs.contexts.size]).at? x = (cs.grown p configure).at? x := by
        refine at?_spread_of_spared (p := (· = cs.contexts.size)) (by simp) ?_ hx
        rintro _ rfl child hchild
        rw [children_grown_self hconfigures] at hchild
        cases hchild
      show ((cs.grown p configure).finish e cs.contexts.size).stored? x = cs.stored? x
      rw [stored?, finish, hspared, ← stored?, stored?_grown hconfigures]

/-- A derived context begins with the error of its parent, and nobody else is given one. -/
theorem stored?_derive (cs : Contexts) (p : ContextId) (how : Derivation) :
    (cs.derive p how).2.stored? cs.contexts.size = cs.stored? p ∧
      ∀ x, x ≠ cs.contexts.size → (cs.derive p how).2.stored? x = cs.stored? x := by
  obtain ⟨configure, instant, hconfigures, -, -, heq⟩ := derive_eq cs p how
  rw [heq]
  -- reading the clock has no bearing on errors
  have hself : (({ cs with instant } : Contexts).addChild p configure).2.stored? cs.contexts.size =
      cs.stored? p := stored?_addChild_self hconfigures
  have hothers : ∀ x, x ≠ cs.contexts.size →
      (({ cs with instant } : Contexts).addChild p configure).2.stored? x = cs.stored? x :=
    fun x hx => stored?_addChild_of_ne hconfigures hx
  exact ⟨hself, hothers⟩

theorem held_error : (cs.error c).2.held = cs.held := by
  rcases error_eq cs c with hsame | ⟨_, hended⟩
  · rw [hsame]
  · rw [hended, finish, held_spread]

/-- Every step has one of the three effects. -/
theorem Step.effect (hstep : Step cs new cs') (h : Kept deeds cs) :
    Effect (new ++ deeds) cs cs' := by
  have hexpired : ∀ {c}, cs.expired c = true → Reason deeds cs.instant c .deadlineExceeded :=
    fun hexpired => (h.recorded.expired_iff (made_of_expired hexpired)).1 hexpired
  have hasked : ∀ c, Effect deeds cs (cs.error c).2 := by
    intro c
    rcases error_eq cs c with hsame | ⟨hpassed, hended⟩
    · rw [hsame]
      exact .nothing fun _ => rfl
    · exact .ended h.recorded (hexpired hpassed) hended
  cases hstep with
  | background => exact .nothing fun x => stored?_add rfl
  | @derived p how hheld =>
      obtain ⟨hself, hothers⟩ := stored?_derive cs p how
      have hrecorded : Deed.derived cs.contexts.size p (cs.requested? how) ∈
          [.derived (cs.derive p how).1 p (cs.requested? how)] ++ deeds := by
        rw [derive_fst]
        exact List.mem_cons_self
      exact .born hrecorded hself hothers
  | @cancelled c hmade =>
      have hcancelled : Cancelled (.cancelled c :: deeds) c := ⟨c, .self, List.mem_cons_self⟩
      exact .ended (h.recorded.cancel hmade) (e := .cancelled) hcancelled rfl
  | asked c => exact hasked c
  | polled c waker =>
      rcases pollDone_cases cs c waker with ⟨e, hanswer, _⟩ | ⟨_, hanswer⟩
      · rw [hanswer]
        exact hasked c
      · rw [hanswer]
        exact .nothing fun x => alike_awaited.stored?
  | noticed hpassed => exact .ended h.recorded (hexpired hpassed) rfl
  | passed d => exact .nothing fun _ => rfl
  | held _ => exact .nothing fun _ => rfl
  | released c => exact .nothing fun _ => rfl

/-- Time never goes back. -/
theorem Step.instant_le (hstep : Step cs new cs') (h : Kept deeds cs) :
    cs.instant ≤ cs'.instant := by
  have hfinished : ∀ {c e}, cs.instant ≤ (cs.finish e c).instant := by
    intro c e
    exact Nat.le_of_eq instant_spread.symm
  have hasked : ∀ c, cs.instant ≤ (cs.error c).2.instant := by
    intro c
    rcases error_eq cs c with hsame | ⟨_, hended⟩
    · exact Nat.le_of_eq (congrArg (·.instant) hsame.symm)
    · rw [hended]
      exact hfinished
  cases hstep with
  | background => exact Nat.le_refl _
  | @derived p how hheld =>
      obtain ⟨configure, instant, -, -, hinstant, heq⟩ := derive_eq cs p how
      obtain ⟨hle, _⟩ := hinstant h.instant_le
      rw [heq, instant_addChild]
      exact hle
  | cancelled _ => exact hfinished
  | asked c => exact hasked c
  | polled c waker =>
      rcases pollDone_cases cs c waker with ⟨e, hanswer, _⟩ | ⟨_, hanswer⟩
      · rw [hanswer]
        exact hasked c
      · rw [hanswer]
        exact Nat.le_of_eq instant_update.symm
  | noticed _ => exact hfinished
  | passed d => exact Span.le_add d h.instant_le
  | held _ => exact Nat.le_refl _
  | released c => exact Nat.le_refl _

/-- In one step there is one error. It is given to contexts that have none, and there is the
reason for it that it names. -/
theorem Effect.given (h : Effect deeds cs cs') (hkin : ∀ {p x}, x ∈ cs.children p →
      cs.parent? x = some p)
    (hreason : ∀ {c e}, cs.stored? c = some e → Reason deeds cs.instant c e) :
    ∃ e, ∀ x, cs'.stored? x = cs.stored? x ∨
      cs.stored? x = none ∧ cs'.stored? x = some e ∧ Reason deeds cs.instant x e := by
  cases h with
  | nothing hsame => exact ⟨.cancelled, fun x => .inl (hsame x)⟩
  | @ended c e hrecorded hcause hended =>
      refine ⟨e, fun x => ?_⟩
      subst hended
      by_cases hx : Reason deeds cs.instant x e
      · exact (stored?_spread cs e cs.present [c] x).imp_right fun hgiven =>
          ⟨hgiven.1, hgiven.2, hx⟩
      · -- the children of contexts that have a reason have it too
        left
        have hbelow : ∀ p, Reason deeds cs.instant p e → ∀ child ∈ cs.children p,
            Reason deeds cs.instant child e := by
          intro p hp child hchild
          obtain ⟨requested?, hderived⟩ := hrecorded.derived_iff.1 (hkin hchild)
          exact hp.of_parent hderived
        have hspared : (cs.spread e cs.present [c]).at? x = cs.at? x :=
          at?_spread_of_spared (p := fun x => Reason deeds cs.instant x e) (by simpa using hcause)
            hbelow hx
        rw [finish, stored?, hspared, stored?]
  | @born p requested? hderived hborn hsame =>
      cases hstored : cs.stored? p with
      | none =>
          refine ⟨.cancelled, fun x => .inl ?_⟩
          by_cases hx : x = cs.contexts.size
          · rw [hx, hborn, hstored, stored?_size]
          · exact hsame x hx
      | some e =>
          refine ⟨e, fun x => ?_⟩
          by_cases hx : x = cs.contexts.size
          · subst hx
            exact .inr ⟨stored?_size, hborn.trans hstored, (hreason hstored).of_parent hderived⟩
          · exact .inl (hsame x hx)

/-- Whoever descends from a context that is ended is ended with it, as far as it is there. -/
theorem Recorded.handed_on (h : Recorded deeds cs) (htidy : cs.Tidy cs.present [])
    (hbelow : Descends deeds x p) (hpresent : cs.present x = true)
    (hdone : (cs.finish e c).Settled p) : (cs.finish e c).Settled x := by
  have htold : (cs.spread e cs.present [c]).Tidy cs.present [] :=
    (htidy.mono (fun _ hx => hx) (List.nil_subset _)).spread
  induction hbelow with
  | self => exact hdone
  | up hderived _ ih =>
      have hparent := h.derived_iff.2 ⟨_, hderived⟩
      have hthere := present_parent hpresent hparent (h.older hparent) (h.parent_made hparent)
      exact (htold.handed (parent?_spread.trans hparent) hpresent (ih hthere hdone)).resolve_right
        List.not_mem_nil

/-- Every error has its reason. -/
theorem History.reason (h : History cs deeds) :
    ∀ {c e}, cs.stored? c = some e → Reason deeds cs.instant c e := by
  induction h with
  | starting _ =>
      intro c e hstored
      obtain ⟨context, found, _⟩ := settled_iff.1 ⟨e, hstored⟩
      exact absurd (made_iff.1 ⟨context, found⟩) (Nat.not_lt_zero c)
  | @step cs cs' deeds new hhistory hstep ih =>
      intro c e hstored
      have hkept := hhistory.kept
      have hle := hstep.instant_le hkept
      have hsub : deeds ⊆ new ++ deeds := List.subset_append_right _ _
      obtain ⟨given, hgiven⟩ := (hstep.effect hkept).given hkept.tidy.kin fun hknown =>
        (ih hknown).later hsub (Nat.le_refl _)
      rcases hgiven c with hsame | ⟨_, hnew, hreason⟩
      · exact (ih (hsame.symm.trans hstored)).later hsub hle
      · cases hnew.symm.trans hstored
        exact hreason.later (List.Subset.refl _) hle

/-- In one step there is one error, which is given for a reason to contexts that have none. -/
theorem History.given (h : History cs deeds) (hstep : Step cs new cs') :
    ∃ e, ∀ x, cs'.stored? x = cs.stored? x ∨
      cs.stored? x = none ∧ cs'.stored? x = some e ∧ Reason (new ++ deeds) cs.instant x e :=
  (hstep.effect h.kept).given h.kept.tidy.kin fun hknown =>
    h.reason hknown |>.later (List.subset_append_right _ _) (Nat.le_refl _)

/-! ## What lasts -/

/-- One forest comes after another, by any number of steps. -/
def After : Contexts → Contexts → Prop := Relation.ReflTransGen fun cs cs' => ∃ new, Step cs new cs'

/-- A context that has an error keeps it. -/
theorem History.stored?_after {later : Contexts} (h : History cs deeds) (hafter : After cs later)
    (hstored : cs.stored? c = some e) : later.stored? c = some e := by
  have hkeeps : later.stored? c = some e ∧ ∃ deeds, History later deeds := by
    induction hafter with
    | refl => exact ⟨hstored, deeds, h⟩
    | tail _ hstep ih =>
        obtain ⟨hknown, before, hhistory⟩ := ih
        obtain ⟨new, hstep⟩ := hstep
        obtain ⟨given, hgiven⟩ := hhistory.given hstep
        refine ⟨?_, _, hhistory.step hstep⟩
        rcases hgiven c with hsame | ⟨hnone, _⟩
        · exact hsame.trans hknown
        · cases hknown.symm.trans hnone
  exact hkeeps.1

/-! ## Who shares an error -/

/-- Nobody descends from a younger context. -/
theorem Recorded.le_of_descends (h : Recorded deeds cs) (hbelow : Descends deeds x p) : p ≤ x := by
  induction hbelow with
  | self => exact Nat.le_refl _
  | up hderived _ ih =>
      exact Nat.le_trans ih (Nat.le_of_lt (h.older (h.derived_iff.2 ⟨_, hderived⟩)))

/-- When a context is given an error, whoever descends from it, is there and has none is given
the same one. -/
theorem History.shared (h : History cs deeds) (hstep : Step cs new cs')
    (hopen : cs.stored? c = none) (hgiven : cs'.stored? c = some e)
    (hbelow : Descends (new ++ deeds) x c) (hpresent : cs.present x = true)
    (hx : cs.stored? x = none) : cs'.stored? x = some e := by
  have hdone : cs'.Settled x := by
    cases hstep.effect h.kept with
    | nothing hsame => cases hopen.symm.trans ((hsame c).symm.trans hgiven)
    | ended hrecorded hreason hended =>
        subst hended
        exact hrecorded.handed_on h.kept.tidy hbelow hpresent ⟨e, hgiven⟩
    | born hderived hborn hsame =>
        -- nobody who was there before descends from the new child
        have hchild : c = cs.contexts.size := by
          by_cases hne : c = cs.contexts.size
          · exact hne
          · cases hopen.symm.trans ((hsame c hne).symm.trans hgiven)
        subst hchild
        have hle : cs.contexts.size ≤ x := (h.step hstep).kept.recorded.le_of_descends hbelow
        exact absurd (made_iff.1 (made_of_present hpresent)) (Nat.not_lt.2 hle)
  obtain ⟨one, hone⟩ := h.given hstep
  have hsame : ∀ {y e'}, cs.stored? y = none → cs'.stored? y = some e' → e' = one := by
    intro y e' hnone hsome
    rcases hone y with heq | ⟨_, hnew, _⟩
    · cases hnone.symm.trans (heq.symm.trans hsome)
    · exact Option.some.inj (hsome.symm.trans hnew)
  obtain ⟨e', he'⟩ := hdone
  rw [he', hsame hx he', hsame hopen hgiven]

/-! ## Children of contexts that are done -/

/-- A child is done with the error that its parent has, or would be found to have. -/
theorem History.error_derive (h : History cs deeds) (hheld : p ∈ cs.held) (how : Derivation)
    (hparent : (cs.error p).1 = some e) :
    ((cs.derive p how).2.error (cs.derive p how).1).1 = some e := by
  obtain ⟨hborn, _⟩ := stored?_derive cs p how
  rw [derive_fst]
  rcases stored?_or_expired_of_error hparent with hstored | ⟨rfl, hopen, hexpired⟩
  · exact congrArg Prod.fst (error_of_stored? (hborn.trans hstored))
  · -- nobody has noticed yet that the deadline, which the child shares, has passed
    have hstep : Step cs [.derived (cs.derive p how).1 p (cs.requested? how)]
        (cs.derive p how).2 := .derived how hheld
    have hkept := (h.step hstep).kept
    have hmade : (cs.derive p how).2.Made cs.contexts.size := by
      refine hkept.recorded.held_made ?_
      rw [held_derive, derive_fst]
      exact List.mem_cons_self
    have hdue : Due deeds cs.instant p :=
      (h.kept.recorded.expired_iff (made_of_expired hexpired)).1 hexpired
    have hderived : Deed.derived cs.contexts.size p (cs.requested? how) ∈
        [Deed.derived (cs.derive p how).1 p (cs.requested? how)] ++ deeds := by
      rw [derive_fst]
      exact List.mem_cons_self
    have hchild : (cs.derive p how).2.expired cs.contexts.size = true := by
      refine (hkept.recorded.expired_iff hmade).2 ?_
      exact ((hdue.more (List.subset_append_right _ _)).of_parent hderived).mono
        (hstep.instant_le h.kept)
    refine error_of_expired (hborn.trans hopen) hchild (present_of_held ?_ hmade)
    rw [held_derive, derive_fst]
    exact List.mem_cons_self

/-! ## The theorem -/

/-- Whatever is done to a forest: an error that somebody was told is told from then on. It is a
cancellation only if the context or one above it was cancelled. It is an exceeded deadline
only if the deadline of the context had passed when the error was given. A child begins with
the error of its parent, and if the parent would be found to be done, so would the child at
once, for the same reason. And when a context is given an error, then so is, in the same
step, whoever descends from it, is there and has none; and it is the same error. -/
theorem History.error_final (h : History cs deeds) :
    (∀ c e after later, cs.error c = (some e, after) → After after later →
        later.error c = (some e, later)) ∧
      (∀ c, (cs.error c).1 = some .cancelled → Cancelled deeds c) ∧
      (∀ new cs' c, Step cs new cs' → cs.stored? c = none →
        cs'.stored? c = some .deadlineExceeded →
        ∃ deadline, cs'.deadline? c = some deadline ∧ deadline ≤ cs.instant) ∧
      (∀ p how, p ∈ cs.held →
        (cs.derive p how).2.stored? (cs.derive p how).1 = cs.stored? p ∧
          ∀ e, (cs.error p).1 = some e →
            ((cs.derive p how).2.error (cs.derive p how).1).1 = some e) ∧
      ∀ new cs' c e, Step cs new cs' → cs.stored? c = none → cs'.stored? c = some e →
        ∀ x, Descends (new ++ deeds) x c → cs.present x = true → cs.stored? x = none →
          cs'.stored? x = some e := by
  refine ⟨fun c e after later hasked hafter => ?_, fun c hasked => ?_,
    fun new cs' c hstep hopen hgiven => ?_, fun p how hheld => ⟨?_, fun e hasked =>
      h.error_derive hheld how hasked⟩,
    fun new cs' c e hstep hopen hgiven x hbelow hpresent hx =>
      h.shared hstep hopen hgiven hbelow hpresent hx⟩
  · have hhistory : History after deeds := by
      have hstep : History (cs.error c).2 deeds := h.step (.asked c)
      rwa [hasked] at hstep
    exact error_of_stored? (hhistory.stored?_after hafter (stored?_of_error hasked))
  · rcases stored?_or_expired_of_error hasked with hstored | ⟨heq, _⟩
    · exact h.reason hstored
    · cases heq
  · obtain ⟨one, hone⟩ := h.given hstep
    rcases hone c with hsame | ⟨_, hnew, hreason⟩
    · cases hopen.symm.trans (hsame.symm.trans hgiven)
    · cases hgiven.symm.trans hnew
      have hmade : cs'.Made c := by
        obtain ⟨context, found, _⟩ := settled_iff.1 ⟨_, hgiven⟩
        exact ⟨context, found⟩
      exact ((h.step hstep).kept.recorded.deadline_iff hmade cs.instant).2 hreason
  · rw [derive_fst]
    exact (stored?_derive cs p how).1

/-- A background context with a child whose deadline is past, and a grandchild. Nobody has noticed
yet. -/
def overdue : Contexts :=
  ((empty.background.2.derive 0 (.deadline firstInstant)).2.derive 1 (.value "user"
    (.ofString "ada"))).2

theorem history_overdue :
    History overdue [.derived 2 1 none, .derived 1 0 (some firstInstant)] ∧
      overdue.held = [2, 1, 0] := by
  have hinstant : firstInstant ≤ Span.max := by decide
  have hchild : History (empty.background.2.derive 0 (.deadline firstInstant)).2
      [.derived 1 0 (some firstInstant)] :=
    .step (.step (.starting hinstant) .background) (.derived _ List.mem_cons_self)
  have hheld : 1 ∈ (empty.background.2.derive 0 (.deadline firstInstant)).2.held := by
    rw [held_derive]
    exact List.mem_cons_self
  refine ⟨.step hchild (.derived (.value "user" (.ofString "ada")) hheld), ?_⟩
  rw [overdue, held_derive, held_derive]
  rfl

/-- If the grandchild is asked first and then the child is cancelled, the grandchild keeps the
error that came first, and a child of it has the same one. If the child is cancelled first,
the grandchild is told. -/
theorem error_final_overdue :
    (∃ after, overdue.error 2 = (some .deadlineExceeded, after) ∧
        (after.cancel 1).error 2 = (some .deadlineExceeded, after.cancel 1)) ∧
      ((overdue.derive 2 .cancellable).2.error 3).1 = some .deadlineExceeded ∧
      (overdue.cancel 1).stored? 2 = some .cancelled := by
  obtain ⟨hhistory, hheld⟩ := history_overdue
  have hmember : 2 ∈ overdue.held ∧ 1 ∈ overdue.held := by simp [hheld]
  have hmade : ∀ {c}, c ∈ overdue.held → overdue.Made c := fun hc =>
    hhistory.kept.recorded.held_made hc
  have hpresent : ∀ {c}, c ∈ overdue.held → overdue.present c = true := fun hc =>
    present_of_held hc (hmade hc)
  have hopen : overdue.stored? 2 = none ∧ overdue.stored? 1 = none := by decide +kernel
  have hexpired : overdue.expired 2 = true := by decide +kernel
  have hasked : (overdue.error 2).1 = some .deadlineExceeded :=
    error_of_expired hopen.1 hexpired (hpresent hmember.1)
  obtain ⟨hlasts, -, -, hderived, hshared⟩ := hhistory.error_final
  refine ⟨⟨(overdue.error 2).2, Prod.ext hasked rfl, ?_⟩, ?_, ?_⟩
  · refine hlasts _ _ _ _ (Prod.ext hasked rfl) (.single ⟨_, .cancelled ?_⟩)
    refine (hhistory.step (.asked 2)).kept.recorded.held_made ?_
    rw [held_error]
    exact hmember.2
  · exact (hderived 2 .cancellable hmember.1).2 _ hasked
  · have hcancelled : (overdue.cancel 1).stored? 1 = some .cancelled :=
      stored?_finish_self (hpresent hmember.2) hopen.2
    exact hshared _ _ 1 _ (.cancelled (hmade hmember.2)) hopen.2 hcancelled 2
      (.up (List.mem_cons_of_mem _ List.mem_cons_self) .self) (hpresent hmember.1) hopen.1

end Contexts

end PollingAssertions
