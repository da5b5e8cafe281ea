import PollingAssertions.Proofs.Context.Growth

/-!
# When a context is done

A forest is in the hands of many: contexts are derived, cancelled, asked and
waited for, deadlines come and are noticed by their watchers or by whoever asks.
Whatever is done in whatever order, a context that is held is done exactly if it
or one of its ancestors has been cancelled, or a deadline requested for one of
them has come.

## Main definitions

* `Contexts.Step`, `Contexts.History` — what can be done to a forest, and any
  number of such steps.

## Main results

* `Contexts.Kept.step` — one step keeps the invariant.
* `Contexts.History.kept` — so does a history.
* `Contexts.History.pass`, `Contexts.History.waitUntil` — waiting is made of such
  steps.
* `Contexts.History.isDone_iff` — when a context is done.
-/

namespace PollingAssertions.Contexts

/-- What can be done to a forest, with the deeds that are recorded of it. Time
moves on its own; the watchers of deadlines notice it later, one by one. -/
inductive Step (cs : Contexts) : List Deed → Contexts → Prop
  | background : Step cs [] cs.background.2
  | derived {parent : ContextId} (how : Derivation) : parent ∈ cs.held →
      Step cs [.derived (cs.derive parent how).1 parent (cs.requested? how)]
        (cs.derive parent how).2
  | cancelled {c : ContextId} : cs.Made c → Step cs [.cancelled c] (cs.cancel c)
  /-- Somebody asked for the error of a context, or whether it is done. -/
  | asked (c : ContextId) : Step cs [] (cs.error c).2
  | polled (c : ContextId) (waker : String) : Step cs [] (cs.pollDone c waker).2
  | noticed {c : ContextId} : cs.expired c = true → Step cs [] (cs.finish .deadlineExceeded c)
  | passed (d : Span) : Step cs [] { cs with instant := cs.instant.add d }
  | held {c : ContextId} : c ∈ cs.held → Step cs [] (cs.hold c)
  | released (c : ContextId) : Step cs [] (cs.release c)

/-- Any number of steps from an empty forest, with everything that was recorded. -/
inductive History : Contexts → List Deed → Prop
  | starting {instant : Span} : instant ≤ Span.max → History { empty with instant } []
  | step {cs cs' : Contexts} {deeds new : List Deed} :
      History cs deeds → Step cs new cs' → History cs' (new ++ deeds)

variable {cs cs' : Contexts} {deeds : List Deed} {c x : ContextId}

/-! ## The invariant is kept -/

/-- An empty forest has nothing to agree on. -/
theorem kept_starting {instant : Span} (hle : instant ≤ Span.max) :
    Kept [] { empty with instant } := by
  have hmade : ∀ {c}, ¬ Made { empty with instant } c := by
    intro c hc
    exact Nat.not_lt_zero c (made_iff.1 hc)
  refine ⟨⟨fun hc => ?_, fun hc => ?_, fun {c p} => ?_, fun hp => ?_, fun hc => ?_⟩, hle,
    ⟨fun hx => ?_, fun hp => ?_, fun hp => ?_⟩, fun hdone => ?_, fun hc => ?_⟩
  · cases hc
  · cases hc
  · constructor
    · intro hp
      exact absurd (.of_parent hp) hmade
    · intro hderived
      obtain ⟨_, hderived⟩ := hderived
      cases hderived
  · exact absurd (.of_parent hp) hmade
  · exact absurd hc hmade
  · exact absurd (.of_child hx) hmade
  · exact absurd (.of_parent hp) hmade
  · exact absurd (.of_parent hp) hmade
  · obtain ⟨context, found, _⟩ := settled_iff.1 hdone
    exact absurd ⟨context, found⟩ hmade
  · cases hc

/-- One step keeps the invariant. -/
theorem Kept.step {new : List Deed} (h : Kept deeds cs) (hstep : Step cs new cs') :
    Kept (new ++ deeds) cs' := by
  have hstill : cs.instant ≤ cs.instant := Nat.le_refl _
  cases hstep with
  | background => exact h.background
  | derived how hheld => exact h.derive hheld how
  | cancelled hmade => exact h.cancel hmade
  | asked c => exact h.error c
  | polled c waker => exact h.poll c waker
  | noticed hexpired => exact h.notice hexpired
  | passed d =>
      exact h.of_contexts_eq rfl (fun _ hc => hc) (Span.le_add d h.instant_le) (Span.add_le_max _ _)
  | held hc =>
      refine h.of_contexts_eq rfl (fun x hx => ?_) hstill h.instant_le
      rcases List.mem_cons.1 hx with rfl | hx
      · exact hc
      · exact hx
  | released c =>
      exact h.of_contexts_eq rfl (fun x hx => List.mem_of_mem_erase hx) hstill h.instant_le

theorem History.kept (h : History cs deeds) : Kept deeds cs := by
  induction h with
  | starting hle => exact kept_starting hle
  | step _ hstep ih => exact ih.step hstep

/-! ## Waiting -/

theorem expired_finish {e : ContextError} : (cs.finish e c).expired x = cs.expired x := by
  unfold expired finish
  rw [deadline?_spread, instant_spread]

/-- The watchers of deadlines that have passed notice it one by one. -/
theorem History.notice_all (h : History cs deeds) (watched : List ContextId)
    (hexpired : ∀ c ∈ watched, cs.expired c = true) :
    History (watched.foldl (fun cs c => cs.finish .deadlineExceeded c) cs) deeds := by
  induction watched generalizing cs with
  | nil => exact h
  | cons c watched ih =>
      refine ih (h.step (.noticed (hexpired c List.mem_cons_self))) fun d hd => ?_
      rw [expired_finish]
      exact hexpired d (List.mem_cons_of_mem c hd)

/-- Letting time pass, with all watchers at work, is part of a history. -/
theorem History.pass (h : History cs deeds) (d : Span) : History (cs.pass d) deeds := by
  have hlater : History { cs with instant := cs.instant.add d } deeds := h.step (.passed d)
  refine hlater.notice_all _ fun c hc => ?_
  rw [List.mem_filter, Bool.and_eq_true] at hc
  exact hc.2.2

/-- So is waiting for a context. -/
theorem History.waitUntil (h : History cs deeds) (c : ContextId) (until? : Option Span) :
    History (cs.waitUntil c until?).2 deeds := by
  have hasked : History (cs.isDone c).2 deeds := h.step (.asked c)
  unfold Contexts.waitUntil
  cases hdone : cs.isDone c with
  | mk done after =>
      rw [hdone] at hasked
      cases done with
      | true => exact hasked
      | false =>
          cases hinstant : earlier until? (after.deadline? c) with
          | none => simpa only [hinstant] using hasked
          | some instant =>
              have hpassed : History (after.passUntil instant) deeds := hasked.pass _
              have hagain : History ((after.passUntil instant).isDone c).2 deeds :=
                hpassed.step (.asked c)
              simpa only [hinstant] using hagain

/-! ## Contexts that are there -/

/-- A context that is there is done if it has an error or its deadline has passed. -/
theorem isDone_iff_settled_or_expired (hpresent : cs.present c = true) :
    (cs.isDone c).1 = true ↔ cs.Settled c ∨ cs.expired c = true := by
  rw [isDone_eq_true_iff, hpresent]
  simp

/-- Errors reach everybody below who is there. -/
theorem Kept.settled_of_descends {a : ContextId} (h : Kept deeds cs) (hbelow : Descends deeds c a)
    (hpresent : cs.present c = true) (hdone : cs.Settled a) : cs.Settled c := by
  induction hbelow with
  | self => exact hdone
  | up hderived _ ih =>
      have hparent := h.recorded.derived_iff.2 ⟨_, hderived⟩
      have hthere := present_parent hpresent hparent (h.recorded.older hparent)
        (h.recorded.parent_made hparent)
      exact (h.tidy.handed hparent hpresent (ih hthere hdone)).resolve_right List.not_mem_nil

/-- Cancelling a context leaves all those as they are that do not descend from it. -/
theorem Kept.at?_cancel (h : Kept deeds cs) (hapart : ¬ Descends deeds x c) :
    (cs.cancel c).at? x = cs.at? x := by
  refine at?_spread_of_spared (p := fun y => Descends deeds y c) (fun y hy => ?_)
    (fun y hy child hchild => ?_) hapart
  · rw [List.mem_singleton.1 hy]
    exact .self
  · obtain ⟨requested?, hderived⟩ := h.recorded.derived_iff.1 (h.tidy.kin hchild)
    exact .up hderived hy

/-- Whatever has been done to a forest, a context that is held is done exactly if it
or an ancestor was cancelled or a deadline requested for one of them has come.
Cancelling a context changes nothing for those that do not descend from it. -/
theorem History.isDone_iff (h : History cs deeds) (hheld : c ∈ cs.held) :
    ((cs.isDone c).1 = true ↔ Cancelled deeds c ∨ Due deeds cs.instant c) ∧
      ∀ d, ¬ Descends deeds c d →
        (cs.cancel d).at? c = cs.at? c ∧ ((cs.cancel d).isDone c).1 = (cs.isDone c).1 := by
  have hkept := h.kept
  have hmade : cs.Made c := hkept.recorded.held_made hheld
  have hpresent : cs.present c = true := present_of_held hheld hmade
  constructor
  · rw [isDone_iff_settled_or_expired hpresent, hkept.recorded.expired_iff hmade]
    constructor
    · intro hdone
      rcases hdone with hdone | hdue
      · exact hkept.settled hdone
      · exact .inr hdue
    · intro hreason
      rcases hreason with ⟨a, hbelow, hcancelled⟩ | hdue
      · -- the ancestor is there because the context is, so it was told, and told the context
        have hthere : cs.present a = true := hkept.recorded.present_of_descends hbelow hpresent
        exact .inl (hkept.settled_of_descends hbelow hpresent (hkept.cancelled hcancelled hthere))
      · exact .inr hdue
  · intro d hapart
    have hsame : (cs.cancel d).at? c = cs.at? c := hkept.at?_cancel hapart
    have hmade' : (cs.cancel d).Made c := made_spread.2 hmade
    have hheld' : c ∈ (cs.cancel d).held := by
      rw [cancel, finish, held_spread]
      exact hheld
    have hinstant : (cs.cancel d).instant = cs.instant := instant_spread
    refine ⟨hsame, Bool.eq_iff_iff.2 ?_⟩
    rw [isDone_iff_settled_or_expired (present_of_held hheld' hmade'),
      isDone_iff_settled_or_expired hpresent, settled_iff, settled_iff, expired, expired,
      deadline?, deadline?, hsame, hinstant]

/-- A background context with a child that can be cancelled, and a grandchild. -/
def family : Contexts :=
  ((empty.background.2.derive 0 .cancellable).2.derive 1 (.value "user" (.ofString "ada"))).2

/-- Cancelling the child is felt by the grandchild and not by the background context. -/
theorem isDone_family_cancelled :
    ((family.cancel 1).isDone 2).1 = true ∧
      ((family.cancel 1).isDone 0).1 = (family.isDone 0).1 := by
  have hinstant : firstInstant ≤ Span.max := by decide
  have hempty : History empty [] := .starting hinstant
  have hchild : History (empty.background.2.derive 0 .cancellable).2 [.derived 1 0 none] :=
    .step (.step hempty .background) (.derived .cancellable List.mem_cons_self)
  have hheld : 1 ∈ (empty.background.2.derive 0 .cancellable).2.held := by
    rw [held_derive]
    exact List.mem_cons_self
  have hfamily : History family [.derived 2 1 none, .derived 1 0 none] :=
    .step hchild (.derived (.value "user" (.ofString "ada")) hheld)
  have hmembers : family.held = [2, 1, 0] := by
    rw [family, held_derive, held_derive]
    rfl
  have hcancelled : History (family.cancel 1) [.cancelled 1, .derived 2 1 none, .derived 1 0 none] :=
    .step hfamily (.cancelled (hfamily.kept.recorded.held_made (by simp [hmembers])))
  have hheld' : 2 ∈ (family.cancel 1).held := by
    rw [cancel, finish, held_spread, hmembers]
    exact List.mem_cons_self
  constructor
  · refine (hcancelled.isDone_iff hheld').1.2 (.inl ⟨1, ?_, List.mem_cons_self⟩)
    exact .up (List.mem_cons_of_mem _ List.mem_cons_self) .self
  · have hroot : 0 ∈ family.held := by simp [hmembers]
    refine ((hfamily.isDone_iff hroot).2 1 fun hbelow => ?_).2
    -- nobody is above the background context
    cases hbelow with
    | up hderived _ => simp at hderived

end PollingAssertions.Contexts
