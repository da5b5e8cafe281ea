import PollingAssertions.Context.Derive

/-!
# How an error spreads

An error is handed from a context to its children by a list of contexts that
are still to be visited. What becomes of each context on the way is simple: it
stays as it is, or it is ended. Which contexts are ended takes an invariant:
children of a context that is done are done themselves or still on the list,
and an undone child of an undone context is listed by it. Both only have to
hold of children that are still there.

## Main definitions

* `Contexts.parent?`, `Contexts.children`, `Contexts.Settled` — what there is to
  know of a context here.
* `Context.ended` — what becomes of a context that is given an error.
* `Contexts.Tidy` — the invariant.

## Main results

* `Contexts.spread_preserves` — what a single step preserves, spreading does.
* `Contexts.at?_spread` — what becomes of each context.
* `Contexts.at?_spread_of_spared` — who is left alone.
* `Contexts.settled_spread`, `Contexts.Tidy.spread` — who is ended.
-/

namespace PollingAssertions

/-- What becomes of a context that is given an error. -/
def Context.ended (e : ContextError) (context : Context) : Context :=
  { context with error? := some e, children := [], wakers := [] }

namespace Contexts

variable {cs : Contexts} {e : ContextError} {there : ContextId → Bool} {context : Context}
  {c p x : ContextId} {pending : List ContextId}

/-- The parent of a context. -/
def parent? (cs : Contexts) (c : ContextId) : Option ContextId := (cs.at? c).bind (·.parent?)

/-- The contexts that a context will hand its error to. -/
def children (cs : Contexts) (c : ContextId) : List ContextId := (cs.at? c).elim [] (·.children)

/-- A context has been given an error. -/
def Settled (cs : Contexts) (c : ContextId) : Prop := ∃ e, cs.stored? c = some e

/-- The contexts that have been made. -/
def Made (cs : Contexts) (c : ContextId) : Prop := ∃ context, cs.at? c = some context

theorem made_iff : cs.Made c ↔ c < cs.contexts.size := by
  unfold Made at?
  constructor
  · intro h
    obtain ⟨context, found⟩ := h
    exact (Array.getElem?_eq_some_iff.1 found).1
  · intro h
    exact ⟨_, Array.getElem?_eq_getElem h⟩

theorem settled_iff : cs.Settled c ↔ ∃ context, cs.at? c = some context ∧ context.error? ≠ none := by
  unfold Settled stored?
  cases cs.at? c with
  | none => simp
  | some context => simp [Option.ne_none_iff_exists']

theorem parent?_of_at? (found : cs.at? c = some context) : cs.parent? c = context.parent? := by
  rw [parent?, found, Option.bind_some]

theorem children_of_at? (found : cs.at? c = some context) : cs.children c = context.children := by
  rw [children, found, Option.elim_some]

theorem Made.of_parent (h : cs.parent? c = some p) : cs.Made c := by
  cases found : cs.at? c with
  | some context => exact ⟨context, found⟩
  | none =>
      rw [parent?, found] at h
      cases h

theorem Made.of_child (h : x ∈ cs.children c) : cs.Made c := by
  cases found : cs.at? c with
  | some context => exact ⟨context, found⟩
  | none =>
      rw [children, found] at h
      cases h

/-! ## One context is ended -/

theorem at?_settle_self (found : cs.at? c = some context) :
    (cs.settle e c context).at? c = some (context.ended e) := by
  obtain ⟨inRange, -⟩ := Array.getElem?_eq_some_iff.1 found
  show (cs.contexts.setIfInBounds c (context.ended e))[c]? = some (context.ended e)
  rw [Array.getElem?_setIfInBounds_self_of_lt inRange]

theorem at?_settle_of_ne (h : x ≠ c) : (cs.settle e c context).at? x = cs.at? x :=
  Array.getElem?_setIfInBounds_ne (Ne.symm h)

theorem settled_settle (found : cs.at? c = some context) :
    (cs.settle e c context).Settled x ↔ x = c ∨ cs.Settled x := by
  by_cases hx : x = c
  · subst hx
    simp [settled_iff, at?_settle_self found, Context.ended]
  · rw [settled_iff, at?_settle_of_ne hx, ← settled_iff]
    simp [hx]

theorem parent?_settle (found : cs.at? c = some context) :
    (cs.settle e c context).parent? x = cs.parent? x := by
  by_cases hx : x = c
  · subst hx
    rw [parent?_of_at? (at?_settle_self found), parent?_of_at? found]
    rfl
  · rw [parent?, at?_settle_of_ne hx, parent?]

theorem children_settle_self (found : cs.at? c = some context) :
    (cs.settle e c context).children c = [] := by
  rw [children_of_at? (at?_settle_self found)]
  rfl

theorem children_settle_of_ne (h : x ≠ c) : (cs.settle e c context).children x = cs.children x := by
  rw [children, at?_settle_of_ne h, children]

/-! ## An error is handed on -/

/-- What is preserved when one context is left out, and when one is ended and its
children are listed for it, is preserved until nobody is left. -/
theorem spread_preserves {p : Contexts → List ContextId → Prop}
    (hskip : ∀ cs c pending,
      (∀ context, cs.at? c = some context → context.error? = none → there c = false) →
      p cs (c :: pending) → p cs pending)
    (hsettle : ∀ cs c context pending, cs.at? c = some context → context.error? = none →
      there c = true → p cs (c :: pending) → p (cs.settle e c context) (context.children ++ pending))
    (h : p cs pending) : p (cs.spread e there pending) [] := by
  fun_induction spread e there cs pending with
  | case1 cs => exact h
  | case2 cs c pending found ih =>
      refine ih (hskip cs c pending (fun context hsome _ => ?_) h)
      cases hsome.symm.trans found
  | case3 cs c pending context found hopen ih =>
      exact ih (hsettle cs c context pending found hopen.1 hopen.2 h)
  | case4 cs c pending context found hclosed ih =>
      refine ih (hskip cs c pending (fun context' hsome hundone => ?_) h)
      cases hsome.symm.trans found
      exact Bool.eq_false_iff.2 fun hthere => hclosed ⟨hundone, hthere⟩

@[simp] theorem held_spread : (cs.spread e there pending).held = cs.held :=
  spread_preserves (p := fun after _ => after.held = cs.held) (fun _ _ _ _ h => h)
    (fun _ _ _ _ _ _ _ h => h) rfl

@[simp] theorem instant_spread : (cs.spread e there pending).instant = cs.instant :=
  spread_preserves (p := fun after _ => after.instant = cs.instant) (fun _ _ _ _ h => h)
    (fun _ _ _ _ _ _ _ h => h) rfl

/-- A context stays as it is, or it is ended because it had no error and was
still there. -/
theorem at?_spread (cs : Contexts) (e : ContextError) (there : ContextId → Bool)
    (pending : List ContextId) (x : ContextId) :
    (cs.spread e there pending).at? x = cs.at? x ∨
      ∃ context, cs.at? x = some context ∧ context.error? = none ∧ there x = true ∧
        (cs.spread e there pending).at? x = some (context.ended e) := by
  refine spread_preserves (p := fun after _ => after.at? x = cs.at? x ∨
    ∃ context, cs.at? x = some context ∧ context.error? = none ∧ there x = true ∧
      after.at? x = some (context.ended e)) (fun _ _ _ _ h => h) ?_ (.inl rfl)
  intro now c context pending found hundone hthere h
  by_cases hx : x = c
  · subst hx
    rcases h with hsame | ⟨before, _, _, _, hended⟩
    · exact .inr ⟨context, hsame.symm.trans found, hundone, hthere, at?_settle_self found⟩
    · -- a context that was ended has an error already
      rw [found, Option.some.injEq] at hended
      rw [hended] at hundone
      cases hundone
  · rw [at?_settle_of_ne hx]
    exact h

theorem parent?_spread : (cs.spread e there pending).parent? x = cs.parent? x := by
  rcases at?_spread cs e there pending x with hsame | ⟨context, found, _, _, hended⟩
  · rw [parent?, hsame, parent?]
  · rw [parent?_of_at? hended, parent?_of_at? found]
    rfl

theorem deadline?_spread : (cs.spread e there pending).deadline? x = cs.deadline? x := by
  rcases at?_spread cs e there pending x with hsame | ⟨context, found, _, _, hended⟩
  · rw [deadline?, hsame, deadline?]
  · rw [deadline?, hended, deadline?, found]
    rfl

theorem made_spread : (cs.spread e there pending).Made x ↔ cs.Made x := by
  unfold Made
  rcases at?_spread cs e there pending x with hsame | ⟨context, found, _, _, hended⟩
  · rw [hsame]
  · simp [found, hended]

/-- No context loses its error. -/
theorem Settled.spread (h : cs.Settled x) : (cs.spread e there pending).Settled x := by
  obtain ⟨context, found, hdone⟩ := settled_iff.1 h
  rcases at?_spread cs e there pending x with hsame | ⟨context', found', hundone, _⟩
  · exact settled_iff.2 ⟨context, hsame.trans found, hdone⟩
  · cases found.symm.trans found'
    exact absurd hundone hdone

/-- Contexts that are neither on the list nor below anybody on it are left alone. -/
theorem at?_spread_of_spared {p : ContextId → Prop} (hpending : ∀ c ∈ pending, p c)
    (hchildren : ∀ c, p c → ∀ child ∈ cs.children c, p child) (hspared : ¬ p x) :
    (cs.spread e there pending).at? x = cs.at? x := by
  have h : (∀ c ∈ ([] : List ContextId), p c) ∧
      (∀ c, p c → ∀ child ∈ (cs.spread e there pending).children c, p child) ∧
      (cs.spread e there pending).at? x = cs.at? x := by
    refine spread_preserves (p := fun after pending => (∀ c ∈ pending, p c) ∧
      (∀ c, p c → ∀ child ∈ after.children c, p child) ∧ after.at? x = cs.at? x) ?_ ?_
      ⟨hpending, hchildren, rfl⟩
    · intro now c pending _ h
      exact ⟨fun d hd => h.1 d (List.mem_cons_of_mem c hd), h.2⟩
    · intro now c context pending found _ _ h
      obtain ⟨hlisted, hbelow, hsame⟩ := h
      have hc : p c := hlisted c List.mem_cons_self
      refine ⟨fun d hd => ?_, fun d hd child hchild => ?_, ?_⟩
      · rcases List.mem_append.1 hd with hd | hd
        · exact hbelow c hc d (by rw [children_of_at? found]; exact hd)
        · exact hlisted d (List.mem_cons_of_mem c hd)
      · by_cases hdc : d = c
        · subst hdc
          rw [children_settle_self found] at hchild
          cases hchild
        · rw [children_settle_of_ne hdc] at hchild
          exact hbelow d hd child hchild
      · have hxc : x ≠ c := by
          intro heq
          exact hspared (heq ▸ hc)
        rw [at?_settle_of_ne hxc, hsame]
  exact h.2.2

/-- Contexts on the list that are still there are done in the end. -/
theorem settled_spread (hx : x ∈ pending) (hthere : there x = true) (hmade : cs.Made x) :
    (cs.spread e there pending).Settled x := by
  have h : (cs.spread e there pending).Made x ∧
      (x ∈ ([] : List ContextId) ∨ (cs.spread e there pending).Settled x) := by
    refine spread_preserves (p := fun after pending => after.Made x ∧
      (x ∈ pending ∨ after.Settled x)) ?_ ?_ ⟨hmade, .inl hx⟩
    · intro now c pending hleft h
      obtain ⟨hmade, hlisted | hdone⟩ := h
      · rcases List.mem_cons.1 hlisted with rfl | hlisted
        · -- it is left out only because it has an error
          obtain ⟨context, found⟩ := hmade
          by_cases hundone : context.error? = none
          · cases hthere.symm.trans (hleft context found hundone)
          · exact ⟨⟨context, found⟩, .inr (settled_iff.2 ⟨context, found, hundone⟩)⟩
        · exact ⟨hmade, .inl hlisted⟩
      · exact ⟨hmade, .inr hdone⟩
    · intro now c context pending found _ _ h
      obtain ⟨hmade, h⟩ := h
      have hmade' : (now.settle e c context).Made x := by
        by_cases hxc : x = c
        · subst hxc
          exact ⟨_, at?_settle_self found⟩
        · unfold Made
          rw [at?_settle_of_ne hxc]
          exact hmade
      rw [settled_settle found]
      rcases h with hlisted | hdone
      · rcases List.mem_cons.1 hlisted with rfl | hlisted
        · exact ⟨hmade', .inr (.inl rfl)⟩
        · exact ⟨hmade', .inl (List.mem_append_right _ hlisted)⟩
      · exact ⟨hmade', .inr (.inr hdone)⟩
  rcases h.2 with h | h
  · cases h
  · exact h

/-- Errors have been handed on to the contexts that are there, as far as these are
not still to be visited, and can be handed on. -/
structure Tidy (cs : Contexts) (there : ContextId → Bool) (pending : List ContextId) : Prop where
  /-- Only children are listed. -/
  kin : ∀ {p x}, x ∈ cs.children p → cs.parent? x = some p
  handed : ∀ {p x}, cs.parent? x = some p → there x = true → cs.Settled p →
    cs.Settled x ∨ x ∈ pending
  listed : ∀ {p x}, cs.parent? x = some p → there x = true → ¬ cs.Settled p → ¬ cs.Settled x →
    x ∈ cs.children p

theorem Tidy.spread (h : cs.Tidy there pending) : (cs.spread e there pending).Tidy there [] := by
  refine spread_preserves (p := fun after pending => after.Tidy there pending) ?_ ?_ h
  · intro now c pending hleft h
    refine ⟨h.kin, fun {p x} hparent hthere hdone => ?_, h.listed⟩
    rcases h.handed hparent hthere hdone with hsettled | hlisted
    · exact .inl hsettled
    · rcases List.mem_cons.1 hlisted with rfl | hlisted
      · obtain ⟨context, found⟩ := Made.of_parent hparent
        by_cases hundone : context.error? = none
        · cases hthere.symm.trans (hleft context found hundone)
        · exact .inl (settled_iff.2 ⟨context, found, hundone⟩)
      · exact .inr hlisted
  · intro now c context pending found hundone _ h
    have hopen : ¬ now.Settled c := by
      intro hdone
      obtain ⟨context', found', herror⟩ := settled_iff.1 hdone
      cases found.symm.trans found'
      exact herror hundone
    refine ⟨fun {p x} hchild => ?_, fun {p x} hparent hthere hdone => ?_,
      fun {p x} hparent hthere hp hx => ?_⟩
    · rw [parent?_settle found]
      by_cases hpc : p = c
      · rw [hpc, children_settle_self found] at hchild
        cases hchild
      · rw [children_settle_of_ne hpc] at hchild
        exact h.kin hchild
    · rw [parent?_settle found] at hparent
      rw [settled_settle found] at hdone ⊢
      by_cases hx : now.Settled x
      · exact .inl (.inr hx)
      rcases hdone with rfl | hdone
      · -- the children that are there have just been listed
        have hchild : x ∈ now.children p := h.listed hparent hthere hopen hx
        rw [children_of_at? found] at hchild
        exact .inr (List.mem_append_left _ hchild)
      · rcases h.handed hparent hthere hdone with hsettled | hlisted
        · exact absurd hsettled hx
        · rcases List.mem_cons.1 hlisted with rfl | hlisted
          · exact .inl (.inl rfl)
          · exact .inr (List.mem_append_right _ hlisted)
    · rw [parent?_settle found] at hparent
      rw [settled_settle found, not_or] at hp hx
      rw [children_settle_of_ne hp.1]
      exact h.listed hparent hthere hp.2 hx.2

end Contexts

end PollingAssertions
