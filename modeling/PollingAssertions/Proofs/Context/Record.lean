import PollingAssertions.Proofs.Context.Presence

/-!
# A record of what was done to contexts

Whether a context is done is stored with it, handed down when it changes, and
noticed late if it is a matter of time. What it is meant to say is simpler: a
context is done if it or one of its ancestors has been cancelled, or if a
deadline that was requested for it or one of its ancestors has come. To compare
the two, this module keeps a record of the derivations and cancellations in a
forest, says how the forest has to agree with it, and shows that this is kept
when errors are given and when time passes.

## Main definitions

* `Deed`, `Contexts.Descends` — the record, and who derives from whom by it.
* `Contexts.Cancelled`, `Contexts.Due` — the two reasons to be done.
* `Contexts.Recorded`, `Contexts.Kept` — the invariant.

## Main results

* `Contexts.Kept.finish` — a context that has a reason to be done may be given
  an error.
* `Contexts.Kept.cancel`, `Contexts.Kept.error`, `Contexts.Kept.poll` — what
  follows for the operations on contexts.
-/

namespace PollingAssertions

/-- Something that was done to a forest and bears on when its contexts are done. -/
inductive Deed where
  /-- A context was derived from another one, and perhaps a deadline requested. -/
  | derived (child parent : ContextId) (requested? : Option Span)
  | cancelled (c : ContextId)

namespace Contexts

/-- A context is another one or was derived from it, in any number of steps. -/
inductive Descends (deeds : List Deed) : ContextId → ContextId → Prop
  | self {c : ContextId} : Descends deeds c c
  | up {c p a : ContextId} {requested? : Option Span} :
      .derived c p requested? ∈ deeds → Descends deeds p a → Descends deeds c a

/-- A context or one that it descends from was cancelled. -/
def Cancelled (deeds : List Deed) (c : ContextId) : Prop :=
  ∃ a, Descends deeds c a ∧ .cancelled a ∈ deeds

/-- A deadline requested for a context or for one that it descends from has come
at an instant. -/
def Due (deeds : List Deed) (instant : Span) (c : ContextId) : Prop :=
  ∃ a parent deadline, Descends deeds c a ∧ .derived a parent (some deadline) ∈ deeds ∧
    deadline ≤ instant

variable {cs cs' : Contexts} {deeds : List Deed} {c p x : ContextId}

/-! ## What the record says -/

theorem Descends.mono {more : List Deed} (h : Descends deeds c p) (hsub : deeds ⊆ more) :
    Descends more c p := by
  induction h with
  | self => exact .self
  | up hderived _ ih => exact .up (hsub hderived) ih

/-- Cancelling leaves everybody's descent as it is. -/
theorem descends_cancelled {d : ContextId} :
    Descends (.cancelled d :: deeds) c p ↔ Descends deeds c p := by
  constructor
  · intro h
    induction h with
    | self => exact .self
    | up hderived _ ih =>
        rcases List.mem_cons.1 hderived with heq | hderived
        · cases heq
        · exact .up hderived ih
  · intro h
    exact h.mono (List.subset_cons_self _ _)

theorem due_cancelled {d : ContextId} {instant : Span} :
    Due (.cancelled d :: deeds) instant c ↔ Due deeds instant c := by
  simp [Due, descends_cancelled]

/-- What was requested for a parent is requested for its children. -/
theorem Due.of_parent {requested? : Option Span} {instant : Span} (h : Due deeds instant p)
    (hderived : .derived c p requested? ∈ deeds) : Due deeds instant c := by
  obtain ⟨a, parent, deadline, hbelow, hrequested, hle⟩ := h
  exact ⟨a, parent, deadline, .up hderived hbelow, hrequested, hle⟩

theorem Cancelled.of_parent {requested? : Option Span} (h : Cancelled deeds p)
    (hderived : .derived c p requested? ∈ deeds) : Cancelled deeds c := by
  obtain ⟨a, hbelow, hcancelled⟩ := h
  exact ⟨a, .up hderived hbelow, hcancelled⟩

/-- A reason to be done stays one, whatever else is recorded. -/
theorem Cancelled.more {more : List Deed} (hsub : deeds ⊆ more) (h : Cancelled deeds c) :
    Cancelled more c := by
  obtain ⟨a, hbelow, hcancelled⟩ := h
  exact ⟨a, hbelow.mono hsub, hsub hcancelled⟩

theorem Due.more {more : List Deed} {instant : Span} (hsub : deeds ⊆ more)
    (h : Due deeds instant c) : Due more instant c := by
  obtain ⟨a, parent, deadline, hbelow, hrequested, hle⟩ := h
  exact ⟨a, parent, deadline, hbelow.mono hsub, hsub hrequested, hle⟩

theorem Due.mono {instant later : Span} (h : Due deeds instant c) (hle : instant ≤ later) :
    Due deeds later c := by
  obtain ⟨a, parent, deadline, hbelow, hrequested, hdeadline⟩ := h
  exact ⟨a, parent, deadline, hbelow, hrequested, Nat.le_trans hdeadline hle⟩

/-! ## The invariant -/

/-- The record agrees with what the contexts of a forest know of themselves. -/
structure Recorded (deeds : List Deed) (cs : Contexts) : Prop where
  held_made : ∀ {c}, c ∈ cs.held → cs.Made c
  cancelled_made : ∀ {c}, .cancelled c ∈ deeds → cs.Made c
  derived_iff : ∀ {c p}, cs.parent? c = some p ↔ ∃ requested?, .derived c p requested? ∈ deeds
  /-- A parent is older than its children. -/
  older : ∀ {c p}, cs.parent? c = some p → p < c
  /-- Its deadline is the earliest one that was requested. -/
  deadline_iff : ∀ {c}, cs.Made c → ∀ instant,
    (∃ deadline, cs.deadline? c = some deadline ∧ deadline ≤ instant) ↔ Due deeds instant c

namespace Recorded

variable (h : Recorded deeds cs)

include h

theorem parent_made (hparent : cs.parent? c = some p) : cs.Made p := by
  have hmade : c < cs.contexts.size := made_iff.1 (.of_parent hparent)
  exact made_iff.2 (Nat.lt_trans (h.older hparent) hmade)

theorem descends_made (hbelow : Descends deeds c p) (hmade : cs.Made c) : cs.Made p := by
  induction hbelow with
  | self => exact hmade
  | up hderived _ ih => exact ih (h.parent_made (h.derived_iff.2 ⟨_, hderived⟩))

/-- Whoever is there has everybody there that it descends from. -/
theorem present_of_descends (hbelow : Descends deeds c p) (hpresent : cs.present c = true) :
    cs.present p = true := by
  induction hbelow with
  | self => exact hpresent
  | up hderived _ ih =>
      have hparent := h.derived_iff.2 ⟨_, hderived⟩
      exact ih (present_parent hpresent hparent (h.older hparent) (h.parent_made hparent))

theorem expired_iff (hmade : cs.Made c) : cs.expired c = true ↔ Due deeds cs.instant c := by
  rw [← h.deadline_iff hmade, expired, Option.any_eq_true]
  simp only [decide_eq_true_eq]

end Recorded

/-- The record agrees with the forest, errors have been handed on, and they have
been given to all who were cancelled and to nobody without reason. -/
structure Kept (deeds : List Deed) (cs : Contexts) : Prop where
  recorded : Recorded deeds cs
  instant_le : cs.instant ≤ Span.max
  tidy : cs.Tidy cs.present []
  settled : ∀ {c}, cs.Settled c → Cancelled deeds c ∨ Due deeds cs.instant c
  cancelled : ∀ {c}, .cancelled c ∈ deeds → cs.present c = true → cs.Settled c

theorem Tidy.mono {there there' : ContextId → Bool} {pending pending' : List ContextId}
    (h : cs.Tidy there pending) (hthere : ∀ x, there' x = true → there x = true)
    (hpending : pending ⊆ pending') : cs.Tidy there' pending' where
  kin := h.kin
  handed hparent hx hdone := (h.handed hparent (hthere _ hx) hdone).imp_right (@hpending _)
  listed hparent hx := h.listed hparent (hthere _ hx)

/-! ## Giving an error -/

theorem Recorded.spread {e : ContextError} {there : ContextId → Bool} {pending : List ContextId}
    (h : Recorded deeds cs) : Recorded deeds (cs.spread e there pending) where
  held_made hheld := by
    rw [held_spread] at hheld
    exact made_spread.2 (h.held_made hheld)
  cancelled_made hcancelled := made_spread.2 (h.cancelled_made hcancelled)
  derived_iff := by
    intro c p
    rw [parent?_spread]
    exact h.derived_iff
  older hparent := by
    rw [parent?_spread] at hparent
    exact h.older hparent
  deadline_iff hmade := by
    rw [deadline?_spread]
    exact h.deadline_iff (made_spread.1 hmade)

theorem Recorded.cancel (h : Recorded deeds cs) (hmade : cs.Made c) :
    Recorded (.cancelled c :: deeds) cs where
  held_made := h.held_made
  cancelled_made hcancelled := by
    rcases List.mem_cons.1 hcancelled with heq | hcancelled
    · cases heq
      exact hmade
    · exact h.cancelled_made hcancelled
  derived_iff := by
    intro c p
    simp [h.derived_iff]
  older := h.older
  deadline_iff hmade instant := by
    rw [due_cancelled]
    exact h.deadline_iff hmade instant

theorem Recorded.alike (h : Recorded deeds cs) (halike : cs'.Alike cs)
    (hheld : ∀ c ∈ cs'.held, c ∈ cs.held) : Recorded deeds cs' where
  held_made hc := halike.made.2 (h.held_made (hheld _ hc))
  cancelled_made hc := halike.made.2 (h.cancelled_made hc)
  derived_iff := by
    intro c p
    rw [halike.parent?]
    exact h.derived_iff
  older hparent := h.older (halike.parent?.symm.trans hparent)
  deadline_iff hmade := by
    rw [halike.deadline?]
    exact h.deadline_iff (halike.made.1 hmade)

/-- A context may be given an error if there is a reason for it to be done. Before
that, it may be the only one that has been cancelled and not been told, and the
only one whose parent's error has not been handed on. -/
theorem Kept.finish {e : ContextError} (hrecorded : Recorded deeds cs)
    (hinstant : cs.instant ≤ Span.max) (htidy : cs.Tidy cs.present [c])
    (hsettled : ∀ {x}, cs.Settled x → Cancelled deeds x ∨ Due deeds cs.instant x)
    (hcancelled : ∀ {x}, .cancelled x ∈ deeds → cs.present x = true → cs.Settled x ∨ x = c)
    (hreason : Cancelled deeds c ∨ Due deeds cs.instant c) : Kept deeds (cs.finish e c) where
  recorded := hrecorded.spread
  instant_le := by
    rw [Contexts.finish, instant_spread]
    exact hinstant
  tidy := htidy.spread.mono (fun _ => present_of_spread) (List.Subset.refl _)
  settled := by
    intro x hx
    rw [Contexts.finish, instant_spread]
    by_cases hdone : Cancelled deeds x ∨ Due deeds cs.instant x
    · exact hdone
    · -- the children of contexts that have a reason to be done have it too
      have hbelow : ∀ p, Cancelled deeds p ∨ Due deeds cs.instant p → ∀ child ∈ cs.children p,
          Cancelled deeds child ∨ Due deeds cs.instant child := by
        intro p hp child hchild
        obtain ⟨requested?, hderived⟩ := hrecorded.derived_iff.1 (htidy.kin hchild)
        rcases hp with hp | hp
        · exact .inl (hp.of_parent hderived)
        · exact .inr (hp.of_parent hderived)
      have hsame : (cs.spread e cs.present [c]).at? x = cs.at? x :=
        at?_spread_of_spared (p := fun x => Cancelled deeds x ∨ Due deeds cs.instant x)
          (by simpa using hreason) hbelow hdone
      have hsettled' : cs.Settled x := by
        rw [Contexts.finish, settled_iff, hsame, ← settled_iff] at hx
        exact hx
      exact hsettled hsettled'
  cancelled := by
    intro x hx hpresent
    rcases hcancelled hx (present_of_spread hpresent) with hdone | rfl
    · exact hdone.spread
    · exact settled_spread List.mem_cons_self (present_of_spread hpresent)
        (hrecorded.cancelled_made hx)

namespace Kept

variable (h : Kept deeds cs)

include h

theorem cancel (hmade : cs.Made c) : Kept (.cancelled c :: deeds) (cs.cancel c) := by
  refine .finish (h.recorded.cancel hmade) h.instant_le
    (h.tidy.mono (fun _ hx => hx) (List.nil_subset _)) (fun hdone => ?_) (fun hx hpresent => ?_)
    (.inl ⟨c, .self, List.mem_cons_self⟩)
  · exact (h.settled hdone).imp (.more (List.subset_cons_self _ _))
      (.more (List.subset_cons_self _ _))
  · rcases List.mem_cons.1 hx with heq | hx
    · cases heq
      exact .inr rfl
    · exact .inl (h.cancelled hx hpresent)

/-- Whoever notices that a deadline has passed may say so. -/
theorem notice (hexpired : cs.expired c = true) : Kept deeds (cs.finish .deadlineExceeded c) := by
  exact .finish h.recorded h.instant_le (h.tidy.mono (fun _ hx => hx) (List.nil_subset _)) h.settled
    (fun hx hpresent => .inl (h.cancelled hx hpresent))
    (.inr ((h.recorded.expired_iff (made_of_expired hexpired)).1 hexpired))

theorem error (c : ContextId) : Kept deeds (cs.error c).2 := by
  unfold Contexts.error
  cases cs.stored? c with
  | some e => exact h
  | none =>
      by_cases hexpired : cs.expired c = true
      · rw [if_pos hexpired]
        exact h.notice hexpired
      · rw [if_neg hexpired]
        exact h

/-- Nothing is lost if the contexts stay as they are, fewer are held, and time goes
on. -/
theorem alike (halike : cs'.Alike cs) (hchildren : ∀ x, cs'.children x = cs.children x)
    (hheld : ∀ c ∈ cs'.held, c ∈ cs.held) (hinstant : cs.instant ≤ cs'.instant)
    (hle : cs'.instant ≤ Span.max) : Kept deeds cs' where
  recorded := h.recorded.alike halike hheld
  instant_le := hle
  tidy :=
    { kin := by
        intro p x hchild
        rw [hchildren] at hchild
        rw [halike.parent?]
        exact h.tidy.kin hchild
      handed := by
        intro p x hparent hpresent
        rw [halike.parent?] at hparent
        rw [halike.settled, halike.settled]
        exact h.tidy.handed hparent (halike.present hheld hpresent)
      listed := by
        intro p x hparent hpresent
        rw [halike.parent?] at hparent
        rw [halike.settled, halike.settled, hchildren]
        exact h.tidy.listed hparent (halike.present hheld hpresent) }
  settled hdone := (h.settled (halike.settled.1 hdone)).imp_right fun hdue => hdue.mono hinstant
  cancelled hc hpresent := halike.settled.2 (h.cancelled hc (halike.present hheld hpresent))

/-- Moving a clock, holding a context that is held and giving up a hold leave the
contexts as they are. -/
theorem of_contexts_eq (hsame : cs'.contexts = cs.contexts) (hheld : ∀ c ∈ cs'.held, c ∈ cs.held)
    (hinstant : cs.instant ≤ cs'.instant) (hle : cs'.instant ≤ Span.max) : Kept deeds cs' := by
  have hat : ∀ x, cs'.at? x = cs.at? x := by
    intro x
    rw [at?, hsame, at?]
  refine h.alike (fun x => .inl (hat x)) (fun x => ?_) hheld hinstant hle
  rw [children, hat, children]

theorem poll (c : ContextId) (waker : String) : Kept deeds (cs.pollDone c waker).2 := by
  have hkept := h.error c
  unfold pollDone
  cases hanswer : cs.error c with
  | mk e? after =>
      rw [hanswer] at hkept
      cases e? with
      | some e => exact hkept
      | none =>
          have hwaits : ∀ context : Context, ∃ wakers,
              (if context.wakers.contains waker then context
              else { context with wakers := context.wakers ++ [waker] }) =
                { context with wakers } := by
            intro context
            by_cases hregistered : context.wakers.contains waker = true
            · exact ⟨context.wakers, by rw [if_pos hregistered]⟩
            · exact ⟨context.wakers ++ [waker], by rw [if_neg hregistered]⟩
          refine hkept.alike (alike_update fun context => ?_) (fun x => children_update ?_)
            (fun c hc => ?_) ?_ ?_
          · obtain ⟨wakers, heq⟩ := hwaits context
            exact ⟨context.children, wakers, heq⟩
          · intro context
            obtain ⟨wakers, heq⟩ := hwaits context
            rw [heq]
          · rwa [held_update] at hc
          · exact Nat.le_of_eq instant_update.symm
          · rw [instant_update]
            exact hkept.instant_le

end Kept

end Contexts

end PollingAssertions
