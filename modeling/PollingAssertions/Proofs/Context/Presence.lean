import PollingAssertions.Proofs.Context.Spread

/-!
# Which contexts are still there

A context is there as long as it is held, or its deadline is watched, or a
context derived from it is there. So whoever is there has all its ancestors
there, and no context comes back: ending contexts, giving up holds and deriving
contexts from held ones leaves no more of the old contexts than there were.

## Main definitions

* `Contexts.Anchored` — the contexts that last by themselves.
* `Contexts.Alike` — two forests that differ in who waits and who is listed at
  most, as far as contexts go.

## Main results

* `Contexts.present_iff` — who is there.
* `Contexts.present_parent` — parents of contexts that are there are there.
* `Contexts.present_of_present` — when no context comes back.
* `Contexts.isDone_unchanged` — asking changes nothing unless the answer is yes.
* `Contexts.isDone_eq_true_iff` — when a context is done.
-/

namespace PollingAssertions.Contexts

variable {cs cs' : Contexts} {c p x : ContextId}

/-- A context lasts by itself: it is held, or its deadline is being watched. -/
def Anchored (cs : Contexts) (c : ContextId) : Prop :=
  c ∈ cs.held ∨ ∃ context, cs.at? c = some context ∧ context.isGuarded = true

theorem mem_anchors_iff : c ∈ cs.anchors ↔ cs.Anchored c := by
  have hguarded : (c < cs.contexts.size ∧ (cs.at? c).any Context.isGuarded = true) ↔
      ∃ context, cs.at? c = some context ∧ context.isGuarded = true := by
    rw [Option.any_eq_true, ← made_iff]
    constructor
    · intro h
      exact h.2
    · intro h
      obtain ⟨context, found, hguarded⟩ := h
      exact ⟨⟨context, found⟩, context, found, hguarded⟩
  simp only [anchors, Anchored, List.mem_append, List.mem_filter, List.mem_range, hguarded]

/-- A context is below itself, and below whatever its parent is below. -/
theorem mem_lineage_iff :
    x ∈ cs.lineage c ↔
      cs.Made c ∧ (x = c ∨ ∃ p, cs.parent? c = some p ∧ p < c ∧ x ∈ cs.lineage p) := by
  rw [lineage]
  cases found : cs.at? c with
  | none => simp [Made, found]
  | some context =>
      have hmade : cs.Made c := ⟨context, found⟩
      rw [parent?_of_at? found]
      cases hparent : context.parent? with
      | none => simp [hmade, hparent]
      | some p =>
          by_cases holder : p < c
          · simp [hmade, hparent, holder]
          · simp [hmade, hparent, holder]

theorem self_mem_lineage (h : cs.Made c) : c ∈ cs.lineage c := mem_lineage_iff.2 ⟨h, .inl rfl⟩

/-- Forests that agree on parents up to some context agree on its lineage. -/
theorem lineage_congr (hmade : ∀ x ≤ c, cs'.Made x ↔ cs.Made x)
    (hparent : ∀ x ≤ c, cs'.parent? x = cs.parent? x) : x ∈ cs'.lineage c ↔ x ∈ cs.lineage c := by
  induction c using Nat.strongRecOn with
  | ind c ih =>
      rw [mem_lineage_iff, mem_lineage_iff, hmade c (Nat.le_refl c), hparent c (Nat.le_refl c)]
      have hbelow : ∀ p, p < c → (x ∈ cs'.lineage p ↔ x ∈ cs.lineage p) := by
        intro p hp
        refine ih p hp (fun y hy => hmade y ?_) fun y hy => hparent y ?_
        · exact Nat.le_trans hy (Nat.le_of_lt hp)
        · exact Nat.le_trans hy (Nat.le_of_lt hp)
      constructor
      · intro h
        obtain ⟨hc, rfl | ⟨p, hp, holder, hx⟩⟩ := h
        · exact ⟨hc, .inl rfl⟩
        · exact ⟨hc, .inr ⟨p, hp, holder, (hbelow p holder).1 hx⟩⟩
      · intro h
        obtain ⟨hc, rfl | ⟨p, hp, holder, hx⟩⟩ := h
        · exact ⟨hc, .inl rfl⟩
        · exact ⟨hc, .inr ⟨p, hp, holder, (hbelow p holder).2 hx⟩⟩

/-- The lineage of a context goes on with the parent of each of its members. -/
theorem parent_mem_lineage (hx : x ∈ cs.lineage c) (hparent : cs.parent? x = some p)
    (holder : p < x) (hmade : cs.Made p) : p ∈ cs.lineage c := by
  induction c using Nat.strongRecOn with
  | ind c ih =>
      rw [mem_lineage_iff] at hx ⊢
      obtain ⟨hc, rfl | ⟨q, hq, hless, hx⟩⟩ := hx
      · exact ⟨hc, .inr ⟨p, hparent, holder, self_mem_lineage hmade⟩⟩
      · exact ⟨hc, .inr ⟨q, hq, hless, ih q hless hx⟩⟩

/-- A context is there if it is above one that lasts by itself. -/
theorem present_iff : cs.present c = true ↔ ∃ a, cs.Anchored a ∧ c ∈ cs.lineage a := by
  simp only [present, List.any_eq_true, mem_anchors_iff, List.contains_iff_mem]

theorem present_of_held (hheld : c ∈ cs.held) (hmade : cs.Made c) : cs.present c = true :=
  present_iff.2 ⟨c, .inl hheld, self_mem_lineage hmade⟩

theorem present_parent (hx : cs.present x = true) (hparent : cs.parent? x = some p) (holder : p < x)
    (hmade : cs.Made p) : cs.present p = true := by
  obtain ⟨a, hanchored, hbelow⟩ := present_iff.1 hx
  exact present_iff.2 ⟨a, hanchored, parent_mem_lineage hbelow hparent holder hmade⟩

/-- No context comes back as long as none begins to last by itself. -/
theorem present_of_present (hmade : ∀ x, cs'.Made x ↔ cs.Made x)
    (hparent : ∀ x, cs'.parent? x = cs.parent? x)
    (hanchored : ∀ a, cs'.Anchored a → cs.Anchored a) (h : cs'.present x = true) :
    cs.present x = true := by
  obtain ⟨a, ha, hx⟩ := present_iff.1 h
  refine present_iff.2 ⟨a, hanchored a ha, ?_⟩
  exact (lineage_congr (fun y _ => hmade y) fun y _ => hparent y).1 hx

/-- A context that is given an error lasts by itself no longer than before. -/
theorem Anchored.of_spread {e : ContextError} {there : ContextId → Bool}
    {pending : List ContextId} (h : (cs.spread e there pending).Anchored c) : cs.Anchored c := by
  rcases h with hheld | ⟨context, found, hguarded⟩
  · rw [held_spread] at hheld
    exact .inl hheld
  · rcases at?_spread cs e there pending c with hsame | ⟨before, _, _, _, hended⟩
    · exact .inr ⟨context, hsame.symm.trans found, hguarded⟩
    · -- nobody watches the deadline of a context that is done
      cases hended.symm.trans found
      simp [Context.isGuarded, Context.ended] at hguarded

/-- Spreading an error brings no context back. -/
theorem present_of_spread {e : ContextError} {there : ContextId → Bool}
    {pending : List ContextId} (h : (cs.spread e there pending).present x = true) :
    cs.present x = true :=
  present_of_present (fun _ => made_spread) (fun _ => parent?_spread) (fun _ => .of_spread) h

theorem made_of_expired (h : cs.expired c = true) : cs.Made c := by
  obtain ⟨deadline, hdeadline, _⟩ := (Option.any_eq_true _ _).1 h
  obtain ⟨context, found, _⟩ := Option.bind_eq_some_iff.1 hdeadline
  exact ⟨context, found⟩

/-- A context that is gone takes no error. -/
theorem finish_of_gone {e : ContextError} (h : cs.present c = false) : cs.finish e c = cs := by
  rw [finish, spread]
  split
  · rw [spread]
  · rw [dif_neg (by simp [h]), spread]

/-- Asking about a context that is found not to be done changes nothing. -/
theorem isDone_unchanged (h : cs.isDone c = (false, cs')) : cs' = cs := by
  unfold isDone error at h
  cases hstored : cs.stored? c with
  | some e => simp [hstored] at h
  | none =>
      by_cases hexpired : cs.expired c = true
      · simp only [hstored, hexpired, if_true, Prod.mk.injEq] at h
        obtain ⟨hnone, rfl⟩ := h
        apply finish_of_gone
        by_cases hpresent : cs.present c = true
        · -- it would have taken the error
          obtain ⟨e, he⟩ : (cs.finish .deadlineExceeded c).Settled c :=
            settled_spread List.mem_cons_self hpresent (made_of_expired hexpired)
          simp [he] at hnone
        · exact Bool.eq_false_iff.2 hpresent
      · simp only [hstored, hexpired] at h
        cases h
        rfl

/-- A context is done if it has an error, or if its deadline has passed and it is still
there to notice. -/
theorem isDone_eq_true_iff :
    (cs.isDone c).1 = true ↔ cs.Settled c ∨ cs.expired c = true ∧ cs.present c = true := by
  unfold isDone error
  cases herror : cs.stored? c with
  | some e => simp [Settled, herror]
  | none =>
      have hopen : ¬ cs.Settled c := by simp [Settled, herror]
      by_cases hexpired : cs.expired c = true
      · by_cases hpresent : cs.present c = true
        · obtain ⟨e, he⟩ : (cs.finish .deadlineExceeded c).Settled c :=
            settled_spread List.mem_cons_self hpresent (made_of_expired hexpired)
          simp [hexpired, hpresent, he]
        · simp [hexpired, hpresent, hopen, finish_of_gone (Bool.eq_false_iff.2 hpresent), herror]
      · simp [hexpired, hopen]

/-! ## Forests that differ in little -/

/-- Two forests have the same contexts, up to who is listed by them and who waits for
them. -/
def Alike (cs' cs : Contexts) : Prop :=
  ∀ x, cs'.at? x = cs.at? x ∨
    ∃ context children wakers, cs.at? x = some context ∧
      cs'.at? x = some { context with children, wakers }

namespace Alike

variable (h : cs'.Alike cs)

include h

theorem made : cs'.Made x ↔ cs.Made x := by
  unfold Made
  rcases h x with hsame | ⟨context, _, _, found, found'⟩
  · rw [hsame]
  · simp [found, found']

theorem parent? : cs'.parent? x = cs.parent? x := by
  rcases h x with hsame | ⟨context, _, _, found, found'⟩
  · rw [Contexts.parent?, hsame, Contexts.parent?]
  · rw [parent?_of_at? found', parent?_of_at? found]

theorem settled : cs'.Settled x ↔ cs.Settled x := by
  unfold Settled stored?
  rcases h x with hsame | ⟨context, _, _, found, found'⟩
  · rw [hsame]
  · rw [found, found']
    rfl

theorem deadline? : cs'.deadline? x = cs.deadline? x := by
  unfold Contexts.deadline?
  rcases h x with hsame | ⟨context, _, _, found, found'⟩
  · rw [hsame]
  · rw [found, found']
    rfl

theorem anchored (hheld : ∀ c ∈ cs'.held, c ∈ cs.held) (hx : cs'.Anchored x) : cs.Anchored x := by
  rcases hx with hx | ⟨context', found'', hguarded⟩
  · exact .inl (hheld x hx)
  · rcases h x with hsame | ⟨context, _, _, found, found'⟩
    · exact .inr ⟨context', hsame.symm.trans found'', hguarded⟩
    · cases found'.symm.trans found''
      exact .inr ⟨context, found, hguarded⟩

theorem present (hheld : ∀ c ∈ cs'.held, c ∈ cs.held) (hx : cs'.present x = true) :
    cs.present x = true :=
  present_of_present (fun _ => h.made) (fun _ => h.parent?) (fun _ => h.anchored hheld) hx

end Alike

/-- No context comes undone as time goes by. -/
theorem isDone_later {later : Span} (hle : cs.instant ≤ later) (h : (cs.isDone c).1 = true) :
    (({ cs with instant := later } : Contexts).isDone c).1 = true := by
  have halike : cs.Alike { cs with instant := later } := fun _ => .inl rfl
  rw [isDone_eq_true_iff] at h ⊢
  rcases h with hsettled | ⟨hexpired, hpresent⟩
  · exact .inl (halike.settled.1 hsettled)
  · right
    refine ⟨?_, halike.present (fun _ hx => hx) hpresent⟩
    obtain ⟨deadline, hdeadline, hpassed⟩ := (Option.any_eq_true _ _).1 hexpired
    have hlater : deadline ≤ later := Nat.le_trans (of_decide_eq_true hpassed) hle
    exact (Option.any_eq_true _ _).2 ⟨deadline, hdeadline, decide_eq_true hlater⟩

theorem at?_update_self {f : Context → Context} {context : Context}
    (found : cs.at? c = some context) : (cs.update c f).at? c = some (f context) := by
  obtain ⟨inRange, -⟩ := Array.getElem?_eq_some_iff.1 found
  rw [update, found]
  exact Array.getElem?_setIfInBounds_self_of_lt inRange

theorem at?_update_of_ne {f : Context → Context} (h : x ≠ c) :
    (cs.update c f).at? x = cs.at? x := by
  unfold update
  cases cs.at? c with
  | none => rfl
  | some context => exact Array.getElem?_setIfInBounds_ne (Ne.symm h)

@[simp] theorem held_update {f : Context → Context} : (cs.update c f).held = cs.held := by
  unfold update
  cases cs.at? c <;> rfl

@[simp] theorem instant_update {f : Context → Context} :
    (cs.update c f).instant = cs.instant := by
  unfold update
  cases cs.at? c <;> rfl

theorem alike_update {f : Context → Context}
    (h : ∀ context, ∃ children wakers, f context = { context with children, wakers }) :
    (cs.update c f).Alike cs := by
  intro x
  by_cases hx : x = c
  · subst hx
    cases found : cs.at? x with
    | none =>
        left
        rw [update, found, found]
    | some context =>
        obtain ⟨children, wakers, heq⟩ := h context
        exact .inr ⟨context, children, wakers, rfl, by rw [at?_update_self found, heq]⟩
  · exact .inl (at?_update_of_ne hx)

theorem children_update {f : Context → Context}
    (h : ∀ context, (f context).children = context.children) :
    (cs.update c f).children x = cs.children x := by
  by_cases hx : x = c
  · subst hx
    cases found : cs.at? x with
    | none => rw [update, found]
    | some context =>
        rw [children_of_at? (at?_update_self found), children_of_at? found, h context]
  · rw [children, at?_update_of_ne hx, children]

/-! ## One context more -/

section

variable {context : Context}

theorem at?_add_self : (cs.add context).2.at? cs.contexts.size = some context :=
  Array.getElem?_push_size

theorem at?_add_of_ne (h : x ≠ cs.contexts.size) : (cs.add context).2.at? x = cs.at? x := by
  show (cs.contexts.push context)[x]? = cs.contexts[x]?
  rw [Array.getElem?_push, if_neg h]

theorem not_made_size : ¬ cs.Made cs.contexts.size := by
  rw [made_iff]
  exact Nat.lt_irrefl _

theorem Made.ne_size (h : cs.Made x) : x ≠ cs.contexts.size := by
  intro heq
  subst heq
  exact not_made_size h

theorem made_add : (cs.add context).2.Made x ↔ x = cs.contexts.size ∨ cs.Made x := by
  unfold Made
  by_cases hx : x = cs.contexts.size
  · subst hx
    simp [at?_add_self]
  · rw [at?_add_of_ne hx]
    simp [hx]

theorem settled_add (hundone : context.error? = none) :
    (cs.add context).2.Settled x ↔ cs.Settled x := by
  by_cases hx : x = cs.contexts.size
  · subst hx
    constructor
    · intro h
      obtain ⟨context', found, hdone⟩ := settled_iff.1 h
      rw [at?_add_self, Option.some.injEq] at found
      subst found
      exact absurd hundone hdone
    · intro h
      obtain ⟨context', found, _⟩ := settled_iff.1 h
      exact absurd ⟨context', found⟩ not_made_size
  · rw [settled_iff, at?_add_of_ne hx, ← settled_iff]

theorem parent?_add_self : (cs.add context).2.parent? cs.contexts.size = context.parent? :=
  parent?_of_at? at?_add_self

theorem parent?_add_of_ne (h : x ≠ cs.contexts.size) :
    (cs.add context).2.parent? x = cs.parent? x := by
  rw [parent?, at?_add_of_ne h, parent?]

theorem children_add_self : (cs.add context).2.children cs.contexts.size = context.children :=
  children_of_at? at?_add_self

theorem children_add_of_ne (h : x ≠ cs.contexts.size) :
    (cs.add context).2.children x = cs.children x := by
  rw [children, at?_add_of_ne h, children]

theorem lineage_add (h : c < cs.contexts.size) :
    x ∈ (cs.add context).2.lineage c ↔ x ∈ cs.lineage c := by
  have hne : ∀ y ≤ c, y ≠ cs.contexts.size := fun y hy =>
    Nat.ne_of_lt (Nat.lt_of_le_of_lt hy h)
  refine lineage_congr (fun y hy => ?_) fun y hy => parent?_add_of_ne (hne y hy)
  rw [made_add]
  simp [hne y hy]

/-- A context that is made below a held one brings nobody back. -/
theorem present_of_add (hparent : ∀ p, context.parent? = some p → p ∈ cs.held)
    (hx : x ≠ cs.contexts.size) (h : (cs.add context).2.present x = true) :
    cs.present x = true := by
  obtain ⟨a, ha, hbelow⟩ := present_iff.1 h
  by_cases hac : a = cs.contexts.size
  · subst hac
    obtain ⟨_, heq | ⟨p, hp, hless, hbelow⟩⟩ := mem_lineage_iff.1 hbelow
    · exact absurd heq hx
    · rw [parent?_add_self] at hp
      exact present_iff.2 ⟨p, .inl (hparent p hp), (lineage_add hless).1 hbelow⟩
  · obtain ⟨hmade, _⟩ := mem_lineage_iff.1 hbelow
    have hless : a < cs.contexts.size := made_iff.1 ((made_add.1 hmade).resolve_left hac)
    refine present_iff.2 ⟨a, ?_, (lineage_add hless).1 hbelow⟩
    rcases ha with hheld | hguarded
    · exact .inl ((List.mem_cons.1 hheld).resolve_left hac)
    · rw [at?_add_of_ne hac] at hguarded
      exact .inr hguarded

end

end PollingAssertions.Contexts
