import PollingAssertions.Proofs.Context.Record

/-!
# Deriving contexts keeps the record

A new context is first added to the forest and then made known to its parent.
If the parent is done, the new context is given its error; otherwise it is
entered among the children, and the children that are gone are struck off. In
between the forest is not in order, but only the new context is to blame.

## Main definitions

* `Contexts.requested?`, `Contexts.bindingOf?` — the deadline that a derivation requests,
  and the binding that it adds.
* `Contexts.grown` — a new child, before its parent knows of it.

## Main results

* `Contexts.derive_eq` — every derivation adds a child.
* `Contexts.Recorded.grow` — the record of a derivation is right.
* `Contexts.Kept.derive`, `Contexts.Kept.background` — making contexts keeps the
  invariant.
-/

namespace PollingAssertions.Contexts

variable {cs : Contexts} {deeds : List Deed} {c p x : ContextId}

/-- The deadline that a derivation requests. -/
def requested? (cs : Contexts) : Derivation → Option Span
  | .timeout d => after? cs.instant d
  | .deadline instant => some instant
  | .cancellable | .value _ _ | .attacher _ => none

/-- What a derivation adds to a new context: it may make the deadline earlier, and
does not bear on who its relatives are and on whether it is done. -/
structure Configures (configure : Context → Context) (requested? : Option Span) : Prop where
  parent? : ∀ context, (configure context).parent? = context.parent?
  error? : ∀ context, (configure context).error? = context.error?
  children : ∀ context, (configure context).children = context.children
  deadline? : ∀ context, (configure context).deadline? =
    requested?.elim context.deadline? fun requested => some (effective context.deadline? requested)

/-- The earlier one of two deadlines has come if one of them has. -/
theorem effective_le_iff {own : Option Span} {requested instant : Span} :
    effective own requested ≤ instant ↔
      requested ≤ instant ∨ ∃ deadline, own = some deadline ∧ deadline ≤ instant := by
  cases own with
  | none => simp [effective]
  | some deadline =>
      simp only [Option.some.injEq, exists_eq_left']
      by_cases hless : deadline < requested
      · rw [effective, if_pos hless]
        exact ⟨.inr, fun h => h.elim (Nat.le_trans (Nat.le_of_lt hless)) id⟩
      · rw [effective, if_neg hless]
        exact ⟨.inl, fun h => h.elim id (Nat.le_trans (Nat.not_lt.1 hless))⟩

/-- The binding that a derivation adds. -/
def bindingOf? : Derivation → Option (String × Datum)
  | .value key bound => some (key, bound)
  | .cancellable | .timeout _ | .deadline _ | .attacher _ => none

/-- Deriving a context adds a child, perhaps after a look at the clock. -/
theorem derive_eq (cs : Contexts) (parent : ContextId) (how : Derivation) :
    ∃ configure instant, Configures configure (cs.requested? how) ∧
      (∀ context, context.binding? = none → (configure context).binding? = bindingOf? how) ∧
      (cs.instant ≤ Span.max → cs.instant ≤ instant ∧ instant ≤ Span.max) ∧
      cs.derive parent how = { cs with instant }.addChild parent configure := by
  have hstill : cs.instant ≤ Span.max → cs.instant ≤ cs.instant ∧ cs.instant ≤ Span.max :=
    fun hle => ⟨Nat.le_refl _, hle⟩
  have hplain : Configures id none := ⟨fun _ => rfl, fun _ => rfl, fun _ => rfl, fun _ => rfl⟩
  have hrequest : ∀ instant, Configures (fun context =>
      { context with deadline? := some (effective context.deadline? instant), watched := true })
      (some instant) :=
    fun _ => ⟨fun _ => rfl, fun _ => rfl, fun _ => rfl, fun _ => rfl⟩
  cases how with
  | cancellable => exact ⟨id, cs.instant, hplain, fun _ hnone => hnone, hstill, rfl⟩
  | deadline instant =>
      exact ⟨_, cs.instant, hrequest instant, fun _ hnone => hnone, hstill, rfl⟩
  | value key bound =>
      exact ⟨fun context => { context with binding? := some (key, bound) }, cs.instant,
        ⟨fun _ => rfl, fun _ => rfl, fun _ => rfl, fun _ => rfl⟩, fun _ _ => rfl, hstill, rfl⟩
  | attacher name =>
      exact ⟨fun context => { context with attacher? := some name }, cs.instant,
        ⟨fun _ => rfl, fun _ => rfl, fun _ => rfl, fun _ => rfl⟩, fun _ hnone => hnone, hstill, rfl⟩
  | timeout d =>
      have hread : cs.instant ≤ Span.max →
          cs.instant ≤ cs.instant.add moment ∧ cs.instant.add moment ≤ Span.max :=
        fun hle => ⟨Span.le_add moment hle, Span.add_le_max _ _⟩
      cases hafter : after? cs.instant d with
      | none =>
          refine ⟨id, cs.instant.add moment, ?_, fun _ hnone => hnone, hread, ?_⟩
          · rw [requested?, hafter]
            exact hplain
          · simp only [derive, read, hafter]
      | some instant =>
          have hconfigures := hrequest instant
          rw [← hafter] at hconfigures
          refine ⟨_, cs.instant.add moment, hconfigures, fun _ hnone => hnone, hread, ?_⟩
          simp only [derive, read, hafter]
          rfl

section

variable {requested? : Option Span}

/-- Whoever was made before has the same ancestors after a child was derived. -/
theorem descends_derived (h : Recorded deeds cs) (hmade : cs.Made c) :
    Descends (.derived cs.contexts.size p requested? :: deeds) c x ↔ Descends deeds c x := by
  constructor
  · intro hbelow
    induction hbelow with
    | self => exact .self
    | up hderived _ ih =>
        rcases List.mem_cons.1 hderived with heq | hderived
        · cases heq
          exact absurd hmade not_made_size
        · exact .up hderived (ih (h.parent_made (h.derived_iff.2 ⟨_, hderived⟩)))
  · intro hbelow
    exact hbelow.mono (List.subset_cons_self _ _)

theorem due_derived (h : Recorded deeds cs) (hmade : cs.Made c) {instant : Span} :
    Due (.derived cs.contexts.size p requested? :: deeds) instant c ↔ Due deeds instant c := by
  unfold Due
  constructor
  · intro hdue
    obtain ⟨a, parent, deadline, hbelow, hrequested, hle⟩ := hdue
    rw [descends_derived h hmade] at hbelow
    rcases List.mem_cons.1 hrequested with heq | hrequested
    · cases heq
      exact absurd (h.descends_made hbelow hmade) not_made_size
    · exact ⟨a, parent, deadline, hbelow, hrequested, hle⟩
  · intro hdue
    obtain ⟨a, parent, deadline, hbelow, hrequested, hle⟩ := hdue
    exact ⟨a, parent, deadline, (descends_derived h hmade).2 hbelow,
      List.mem_cons_of_mem _ hrequested, hle⟩

/-- A child is due at its own deadline, and whenever its parent is. -/
theorem due_child (h : Recorded deeds cs) (hmade : cs.Made p) {instant : Span} :
    Due (.derived cs.contexts.size p requested? :: deeds) instant cs.contexts.size ↔
      (∃ deadline, requested? = some deadline ∧ deadline ≤ instant) ∨ Due deeds instant p := by
  constructor
  · intro hdue
    obtain ⟨a, parent, deadline, hbelow, hrequested, hle⟩ := hdue
    cases hbelow with
    | self =>
        rcases List.mem_cons.1 hrequested with heq | hrequested
        · cases heq
          exact .inl ⟨deadline, rfl, hle⟩
        · have hparent := h.derived_iff.2 ⟨_, hrequested⟩
          exact absurd (.of_parent hparent) not_made_size
    | up hderived hbelow =>
        rcases List.mem_cons.1 hderived with heq | hderived
        · cases heq
          exact .inr ((due_derived h hmade).1 ⟨a, parent, deadline, hbelow, hrequested, hle⟩)
        · have hparent := h.derived_iff.2 ⟨_, hderived⟩
          exact absurd (.of_parent hparent) not_made_size
  · intro hdue
    rcases hdue with ⟨deadline, rfl, hle⟩ | hdue
    · exact ⟨_, p, deadline, .self, List.mem_cons_self, hle⟩
    · exact ((due_derived h hmade).2 hdue).of_parent List.mem_cons_self

end

/-- A new context without children is the only one that may have to be told of an
error, and only if its parent is done. -/
theorem Tidy.add {context : Context} {pending : List ContextId} (h : cs.Tidy cs.present [])
    (hundone : context.error? = none) (hchildren : context.children = [])
    (hparent : ∀ p, context.parent? = some p →
      p ∈ cs.held ∧ cs.Settled p ∧ cs.contexts.size ∈ pending) :
    (cs.add context).2.Tidy (cs.add context).2.present pending := by
  have hthere : ∀ {x}, x ≠ cs.contexts.size → (cs.add context).2.present x = true →
      cs.present x = true :=
    present_of_add fun p hp => (hparent p hp).1
  refine ⟨fun {q x} hx => ?_, fun {q x} hq hpresent hdone => ?_,
    fun {q x} hq hpresent hopen hx => ?_⟩
  · by_cases hnew : q = cs.contexts.size
    · subst hnew
      rw [children_add_self, hchildren] at hx
      cases hx
    · rw [children_add_of_ne hnew] at hx
      have hq : cs.parent? x = some q := h.kin hx
      rw [parent?_add_of_ne (Made.of_parent hq).ne_size, hq]
  · rw [settled_add hundone] at hdone ⊢
    by_cases hnew : x = cs.contexts.size
    · subst hnew
      rw [parent?_add_self] at hq
      exact .inr (hparent q hq).2.2
    · rw [parent?_add_of_ne hnew] at hq
      exact .inl ((h.handed hq (hthere hnew hpresent) hdone).resolve_right List.not_mem_nil)
  · rw [settled_add hundone] at hopen hx
    by_cases hnew : x = cs.contexts.size
    · subst hnew
      rw [parent?_add_self] at hq
      exact absurd (hparent q hq).2.1 hopen
    · rw [parent?_add_of_ne hnew] at hq
      have hlisted : x ∈ cs.children q := h.listed hq (hthere hnew hpresent) hopen hx
      rwa [children_add_of_ne (Made.of_child hlisted).ne_size]

/-- A new child in the forest, before its relatives know of it. -/
def grown (cs : Contexts) (parent : ContextId) (configure : Context → Context) : Contexts :=
  (cs.add (configure
    { Context.background with parent? := some parent, deadline? := cs.deadline? parent })).2

theorem addChild_eq (cs : Contexts) (parent : ContextId) (configure : Context → Context) :
    cs.addChild parent configure = (cs.contexts.size,
      match (cs.grown parent configure).stored? parent with
      | some e => (cs.grown parent configure).finish e cs.contexts.size
      | none => (cs.grown parent configure).enter parent cs.contexts.size) := by
  show (match (cs.grown parent configure).stored? parent with
    | some e => (cs.contexts.size, (cs.grown parent configure).finish e cs.contexts.size)
    | none => (cs.contexts.size, (cs.grown parent configure).enter parent cs.contexts.size)) = _
  split <;> rfl

section

variable {configure : Context → Context} {requested? : Option Span}

/-- The record is extended by the derivation of the new child. -/
theorem Recorded.grow (h : Recorded deeds cs) (hconfigures : Configures configure requested?)
    (hheld : p ∈ cs.held) :
    Recorded (.derived cs.contexts.size p requested? :: deeds) (cs.grown p configure) := by
  have hp : cs.Made p := h.held_made hheld
  have hparent : (cs.grown p configure).parent? cs.contexts.size = some p := by
    rw [grown, parent?_add_self, hconfigures.parent?]
  have hdeadline : (cs.grown p configure).deadline? cs.contexts.size =
      requested?.elim (cs.deadline? p) fun requested =>
        some (effective (cs.deadline? p) requested) := by
    rw [deadline?, grown, at?_add_self, Option.bind_some, hconfigures.deadline?]
  refine ⟨fun {c} hc => ?_, fun {c} hc => ?_, fun {c q} => ?_, fun {c q} hq => ?_,
    fun {c} hc instant => ?_⟩
  · rcases List.mem_cons.1 hc with rfl | hc
    · exact made_add.2 (.inl rfl)
    · exact made_add.2 (.inr (h.held_made hc))
  · rcases List.mem_cons.1 hc with heq | hc
    · cases heq
    · exact made_add.2 (.inr (h.cancelled_made hc))
  · by_cases hnew : c = cs.contexts.size
    · subst hnew
      rw [hparent, Option.some.injEq]
      constructor
      · intro heq
        subst heq
        exact ⟨requested?, List.mem_cons_self⟩
      · intro hderived
        obtain ⟨other, hderived⟩ := hderived
        rcases List.mem_cons.1 hderived with heq | hderived
        · cases heq
          rfl
        · exact absurd (.of_parent (h.derived_iff.2 ⟨_, hderived⟩)) not_made_size
    · rw [grown, parent?_add_of_ne hnew, h.derived_iff]
      simp [hnew]
  · by_cases hnew : c = cs.contexts.size
    · subst hnew
      rw [hparent, Option.some.injEq] at hq
      subst hq
      exact made_iff.1 hp
    · rw [grown, parent?_add_of_ne hnew] at hq
      exact h.older hq
  · rcases made_add.1 hc with rfl | hc
    · rw [hdeadline, due_child h hp, ← h.deadline_iff hp]
      cases requested? with
      | none => simp
      | some requested => simp [effective_le_iff]
    · rw [due_derived h hc, ← h.deadline_iff hc, deadline?, grown, at?_add_of_ne hc.ne_size,
        deadline?]

/-- A new child is undone and lists nobody, and everybody else stays as it was. -/
theorem settled_grown (hconfigures : Configures configure requested?) :
    (cs.grown p configure).Settled x ↔ cs.Settled x :=
  settled_add (hconfigures.error? _)

theorem present_of_grown (hconfigures : Configures configure requested?) (hheld : p ∈ cs.held)
    (hx : x ≠ cs.contexts.size) (h : (cs.grown p configure).present x = true) :
    cs.present x = true := by
  refine present_of_add (fun q hq => ?_) hx h
  rw [hconfigures.parent?, Option.some.injEq] at hq
  subst hq
  exact hheld

theorem children_grown_self (hconfigures : Configures configure requested?) :
    (cs.grown p configure).children cs.contexts.size = [] := by
  rw [grown, children_of_at? at?_add_self, hconfigures.children]
  rfl

theorem children_grown_of_ne (hx : x ≠ cs.contexts.size) :
    (cs.grown p configure).children x = cs.children x := by
  rw [grown, children, at?_add_of_ne hx, children]

theorem alike_entered : ((cs.grown p configure).enter p cs.contexts.size).Alike
    (cs.grown p configure) :=
  alike_update fun context => ⟨_, context.wakers, rfl⟩

/-- Entering a child strikes off who is gone. -/
theorem mem_children_entered (hmade : cs.Made p) :
    x ∈ ((cs.grown p configure).enter p cs.contexts.size).children p ↔
      (x ∈ cs.children p ∧ (cs.grown p configure).present x = true) ∨ x = cs.contexts.size := by
  obtain ⟨context, found⟩ := hmade
  have found' : (cs.grown p configure).at? p = some context := by
    rw [grown, at?_add_of_ne (Made.ne_size ⟨context, found⟩), found]
  rw [enter, children_of_at? (at?_update_self found'), children_of_at? found]
  simp

theorem children_entered_of_ne {q : ContextId} (hq : q ≠ p) :
    ((cs.grown p configure).enter p cs.contexts.size).children q =
      (cs.grown p configure).children q := by
  rw [enter, children, at?_update_of_ne hq, children]

/-- If the parent is not done, nobody has to be told after the child was entered. -/
theorem Tidy.entered (h : cs.Tidy cs.present []) (hconfigures : Configures configure requested?)
    (hheld : p ∈ cs.held) (hmade : cs.Made p) (hopen : ¬ cs.Settled p) :
    ((cs.grown p configure).enter p cs.contexts.size).Tidy
      ((cs.grown p configure).enter p cs.contexts.size).present [] := by
  have hhold : ∀ c ∈ ((cs.grown p configure).enter p cs.contexts.size).held,
      c ∈ (cs.grown p configure).held := by
    intro c hc
    rwa [enter, held_update] at hc
  have hparent : (cs.grown p configure).parent? cs.contexts.size = some p := by
    rw [Contexts.grown, parent?_add_self, hconfigures.parent?]
  have hold : ∀ {x}, x ≠ cs.contexts.size →
      (cs.grown p configure).parent? x = cs.parent? x := fun hx => parent?_add_of_ne hx
  have hkin : ∀ {q x}, x ∈ cs.children q → (cs.grown p configure).parent? x = some q := by
    intro q x hx
    have hq : cs.parent? x = some q := h.kin hx
    rw [hold (Made.of_parent hq).ne_size, hq]
  refine ⟨fun {q x} hx => ?_, fun {q x} hq hpresent hdone => ?_,
    fun {q x} hq hpresent hundone hx => ?_⟩
  · rw [alike_entered.parent?]
    by_cases hqp : q = p
    · subst hqp
      rcases (mem_children_entered hmade).1 hx with hx | rfl
      · exact hkin hx.1
      · exact hparent
    · rw [children_entered_of_ne hqp] at hx
      by_cases hnew : q = cs.contexts.size
      · subst hnew
        rw [children_grown_self hconfigures] at hx
        cases hx
      · rw [children_grown_of_ne hnew] at hx
        exact hkin hx
  · rw [alike_entered.parent?] at hq
    rw [alike_entered.settled, settled_grown hconfigures] at hdone ⊢
    by_cases hnew : x = cs.contexts.size
    · -- the parent of the new child is not done
      subst hnew
      cases hparent.symm.trans hq
      exact absurd hdone hopen
    · have hthere := present_of_grown hconfigures hheld hnew (alike_entered.present hhold hpresent)
      rw [hold hnew] at hq
      exact h.handed hq hthere hdone
  · rw [alike_entered.parent?] at hq
    rw [alike_entered.settled, settled_grown hconfigures] at hundone hx
    have hpresent' := alike_entered.present hhold hpresent
    by_cases hnew : x = cs.contexts.size
    · subst hnew
      cases hparent.symm.trans hq
      exact (mem_children_entered hmade).2 (.inr rfl)
    · have hthere := present_of_grown hconfigures hheld hnew hpresent'
      rw [hold hnew] at hq
      have hlisted : x ∈ cs.children q := h.listed hq hthere hundone hx
      by_cases hqp : q = p
      · subst hqp
        exact (mem_children_entered hmade).2 (.inl ⟨hlisted, hpresent'⟩)
      · rwa [children_entered_of_ne hqp, children_grown_of_ne (Made.of_child hlisted).ne_size]

namespace Kept

variable (h : Kept deeds cs)

include h

theorem grow (hconfigures : Configures configure requested?) (hheld : p ∈ cs.held) :
    Kept (.derived cs.contexts.size p requested? :: deeds) (cs.addChild p configure).2 := by
  have hp : cs.Made p := h.recorded.held_made hheld
  have hrecorded := h.recorded.grow hconfigures hheld
  have hsettled : ∀ {x}, (cs.grown p configure).Settled x →
      Cancelled (.derived cs.contexts.size p requested? :: deeds) x ∨
        Due (.derived cs.contexts.size p requested? :: deeds) cs.instant x := by
    intro x hx
    exact (h.settled ((settled_grown hconfigures).1 hx)).imp (.more (List.subset_cons_self _ _))
      (.more (List.subset_cons_self _ _))
  have hcancelled : ∀ {x}, .cancelled x ∈ Deed.derived cs.contexts.size p requested? :: deeds →
      (cs.grown p configure).present x = true → (cs.grown p configure).Settled x := by
    intro x hx hpresent
    rcases List.mem_cons.1 hx with heq | hx
    · cases heq
    · have hne : x ≠ cs.contexts.size := (h.recorded.cancelled_made hx).ne_size
      exact (settled_grown hconfigures).2
        (h.cancelled hx (present_of_grown hconfigures hheld hne hpresent))
  rw [addChild_eq]
  cases herror : (cs.grown p configure).stored? p with
  | some e =>
      have hdone : (cs.grown p configure).Settled p := ⟨e, herror⟩
      have hreason : Cancelled (.derived cs.contexts.size p requested? :: deeds) cs.contexts.size ∨
          Due (.derived cs.contexts.size p requested? :: deeds) cs.instant cs.contexts.size :=
        (hsettled hdone).imp (fun hp => hp.of_parent List.mem_cons_self) fun hp =>
          hp.of_parent List.mem_cons_self
      have htidy : (cs.grown p configure).Tidy (cs.grown p configure).present
          [cs.contexts.size] := by
        refine h.tidy.add (hconfigures.error? _) (hconfigures.children _) fun q hq => ?_
        rw [hconfigures.parent?, Option.some.injEq] at hq
        subst hq
        exact ⟨hheld, (settled_grown hconfigures).1 hdone, List.mem_cons_self⟩
      exact .finish hrecorded h.instant_le htidy hsettled
        (fun hx hpresent => .inl (hcancelled hx hpresent)) hreason
  | none =>
      have hopen : ¬ cs.Settled p := by
        intro hdone
        obtain ⟨e, he⟩ := (settled_grown hconfigures).2 hdone
        cases herror.symm.trans he
      have hhold : ∀ c ∈ ((cs.grown p configure).enter p cs.contexts.size).held,
          c ∈ (cs.grown p configure).held := by
        intro c hc
        rwa [enter, held_update] at hc
      have hinstant : ((cs.grown p configure).enter p cs.contexts.size).instant = cs.instant :=
        instant_update
      refine ⟨hrecorded.alike alike_entered hhold, ?_, h.tidy.entered hconfigures hheld hp hopen,
        fun hx => ?_, fun hx hpresent => ?_⟩
      · rw [hinstant]
        exact h.instant_le
      · rw [hinstant]
        exact hsettled (alike_entered.settled.1 hx)
      · exact alike_entered.settled.2 (hcancelled hx (alike_entered.present hhold hpresent))

/-- Deriving a context from a held one keeps the invariant. -/
theorem derive (hheld : p ∈ cs.held) (how : Derivation) :
    Kept (.derived (cs.derive p how).1 p (cs.requested? how) :: deeds) (cs.derive p how).2 := by
  obtain ⟨configure, instant, hconfigures, -, hinstant, heq⟩ := derive_eq cs p how
  obtain ⟨hle, hmax⟩ := hinstant h.instant_le
  have hlater : Kept deeds { cs with instant } := h.of_contexts_eq rfl (fun _ hc => hc) hle hmax
  have hchild : (cs.derive p how).1 = cs.contexts.size := by
    rw [heq, addChild_eq]
  rw [hchild, heq]
  exact hlater.grow hconfigures hheld

/-- A background context has no relatives. -/
theorem background : Kept deeds cs.background.2 := by
  have hnew : ∀ {q requested?}, .derived cs.contexts.size q requested? ∉ deeds := by
    intro q requested? hderived
    have hparent := h.recorded.derived_iff.2 ⟨_, hderived⟩
    exact not_made_size (.of_parent hparent)
  have hundue : ∀ {instant}, ¬ Due deeds instant cs.contexts.size := by
    intro instant hdue
    obtain ⟨a, parent, deadline, hbelow, hrequested, _⟩ := hdue
    cases hbelow with
    | self => exact hnew hrequested
    | up hderived _ => exact hnew hderived
  refine ⟨⟨fun {c} hc => ?_, fun {c} hc => ?_, fun {c q} => ?_, fun {c q} hq => ?_,
    fun {c} hc instant => ?_⟩, h.instant_le, ?_, fun {c} hc => ?_, fun {c} hc hpresent => ?_⟩
  · rcases List.mem_cons.1 hc with rfl | hc
    · exact made_add.2 (.inl rfl)
    · exact made_add.2 (.inr (h.recorded.held_made hc))
  · exact made_add.2 (.inr (h.recorded.cancelled_made hc))
  · by_cases hc : c = cs.contexts.size
    · subst hc
      rw [Contexts.background, parent?_add_self]
      simp [Context.background, hnew]
    · rw [Contexts.background, parent?_add_of_ne hc]
      exact h.recorded.derived_iff
  · by_cases hc : c = cs.contexts.size
    · subst hc
      rw [Contexts.background, parent?_add_self] at hq
      cases hq
    · rw [Contexts.background, parent?_add_of_ne hc] at hq
      exact h.recorded.older hq
  · rcases made_add.1 hc with rfl | hc
    · rw [Contexts.background, deadline?, at?_add_self]
      simp [Context.background, hundue]
    · rw [← h.recorded.deadline_iff hc, Contexts.background, deadline?, at?_add_of_ne hc.ne_size,
        deadline?]
  · refine h.tidy.add rfl rfl fun p hp => ?_
    cases hp
  · exact h.settled ((settled_add rfl).1 hc)
  · have hne : c ≠ cs.contexts.size := (h.recorded.cancelled_made hc).ne_size
    refine (settled_add rfl).2 (h.cancelled hc (present_of_add (fun p hp => ?_) hne hpresent))
    cases hp

end Kept

end

/-- A derived context is held, in addition to those that were. -/
theorem held_derive (cs : Contexts) (p : ContextId) (how : Derivation) :
    (cs.derive p how).2.held = (cs.derive p how).1 :: cs.held := by
  obtain ⟨configure, instant, -, -, -, heq⟩ := derive_eq cs p how
  rw [heq, addChild_eq]
  split
  · rw [finish, held_spread]
    rfl
  · rw [enter, held_update]
    rfl

end PollingAssertions.Contexts
