import Mathlib.Data.List.Basic
import PollingAssertions.Proofs.Context.Cause

/-!
# Who is woken, and when

A poll that finds a context undone leaves its waker with the context. When the context is
given an error, whatever the reason, everybody who left a waker there is woken, once for
each context however often it polled it, and the context forgets them. Nobody else is ever
woken.

To say so without a look at what contexts keep to themselves, this module follows a forest
through all that can be done to it and keeps a record of the polls that were left pending.
The record decides who is woken by each of the moves.

## Main definitions

* `Contexts.Move` — everything that can be done to a forest, as data.
* `Contexts.Attended` — the forests that moves can lead to, with the pending polls.
* `Contexts.waiting` — whose polls on a context are pending.
* `Contexts.Wakes` — a change gives errors to some contexts, each of which wakes whoever
  waits for it.
* `Contexts.Marks` — the same while an error is still spreading.

## Main results

* `Contexts.wakes_spread` — what spreading an error does to those who wait.
* `Contexts.Move.wakes` — so does every move.
* `Contexts.Attended.wakers_eq` — a context keeps exactly those whose polls are pending.
* `Contexts.Attended.woken_once` — who is woken, and when.
-/

namespace PollingAssertions.Contexts

variable {cs cs' mid : Contexts} {c x : ContextId} {w : String}
  {polls : List (ContextId × String)}

/-! ## Who waits -/

/-- The wakers that were left with a context. -/
def wakers (cs : Contexts) (c : ContextId) : List String := (cs.at? c).elim [] (·.wakers)

/-- Puts somebody at the end of a list, unless they are on it. -/
def enlist (w : String) (ws : List String) : List String := if ws.contains w then ws else ws ++ [w]

/-- Those whose polls on a context are pending, each of them once, in the order of their first
poll. The polls are given latest first. -/
def waiting : List (ContextId × String) → ContextId → List String
  | [], _ => []
  | (d, w) :: earlier, c => if d = c then enlist w (waiting earlier c) else waiting earlier c

theorem count_enlist {v : String} {ws : List String} (h : ws.count v ≤ 1) :
    (enlist w ws).count v = if v = w then 1 else ws.count v := by
  unfold enlist
  by_cases hlisted : ws.contains w = true
  · rw [if_pos hlisted]
    have hmem : 0 < ws.count w := List.count_pos_iff.2 (List.contains_iff_mem.1 hlisted)
    by_cases hv : v = w
    · subst hv
      rw [if_pos rfl]
      omega
    · rw [if_neg hv]
  · rw [if_neg hlisted]
    have hnot : w ∉ ws := fun hmem => hlisted (List.contains_iff_mem.2 hmem)
    by_cases hv : v = w
    · subst hv
      simp [List.count_eq_zero_of_not_mem hnot]
    · simp [hv, Ne.symm hv]

/-- Nobody waits twice for a context. -/
theorem count_waiting : (waiting polls c).count w = if (c, w) ∈ polls then 1 else 0 := by
  induction polls with
  | nil => simp [waiting]
  | cons poll earlier ih =>
      obtain ⟨d, v⟩ := poll
      have hle : (waiting earlier c).count w ≤ 1 := by
        rw [ih]
        split <;> omega
      by_cases hd : d = c
      · subst hd
        rw [waiting, if_pos rfl, count_enlist hle, ih]
        by_cases hw : w = v
        · simp [hw]
        · simp [hw]
      · have hne : (c, w) ≠ (d, v) := by
          intro heq
          cases heq
          exact hd rfl
        rw [waiting, if_neg hd, ih]
        simp [hne]

theorem wakers_of_at? {context : Context} (found : cs.at? c = some context) :
    cs.wakers c = context.wakers := by
  rw [wakers, found, Option.elim_some]

/-! ## Waking -/

/-- A change gives errors to some contexts. Each of them wakes, once and in the order of their
coming, whoever waits for it, and forgets them; nobody else is woken or forgotten. -/
def Wakes (cs cs' : Contexts) : Prop :=
  ∃ marked : List ContextId, marked.Nodup ∧
    (∀ c, c ∈ marked ↔ cs.stored? c = none ∧ cs'.Settled c) ∧
    cs'.woken = cs.woken ++ marked.flatMap cs.wakers ∧
    ∀ c, cs'.wakers c = if c ∈ marked then [] else cs.wakers c

/-- Two forests are the same to those who wait. -/
structure Same (cs cs' : Contexts) : Prop where
  stored? : ∀ c, cs'.stored? c = cs.stored? c
  wakers : ∀ c, cs'.wakers c = cs.wakers c
  woken : cs'.woken = cs.woken

theorem Same.trans (h : Same cs mid) (h' : Same mid cs') : Same cs cs' where
  stored? c := (h'.stored? c).trans (h.stored? c)
  wakers c := (h'.wakers c).trans (h.wakers c)
  woken := h'.woken.trans h.woken

theorem Same.settled (h : Same cs cs') : cs'.Settled c ↔ cs.Settled c := by
  unfold Settled
  rw [h.stored?]

/-- Where no error is given, nobody is woken. -/
theorem Same.wakes (h : Same cs cs') : Wakes cs cs' := by
  refine ⟨[], List.nodup_nil, fun c => ?_, ?_, fun c => ?_⟩
  · rw [h.settled, stored?_eq_none_iff]
    simp
  · simp [h.woken]
  · simp [h.wakers]

theorem Same.wakes_trans (h : Same cs mid) (h' : Wakes mid cs') : Wakes cs cs' := by
  obtain ⟨marked, hnodup, hmarked, hwoken, hwakers⟩ := h'
  have hsame : mid.wakers = cs.wakers := funext h.wakers
  refine ⟨marked, hnodup, fun c => ?_, ?_, fun c => ?_⟩
  · rw [hmarked, h.stored?]
  · rw [hwoken, h.woken, hsame]
  · rw [hwakers, h.wakers]

/-- While an error spreads: these contexts were given it, one after the other, and forgot who
waited for them; all others are as they were. -/
structure Marks (cs now : Contexts) (marked : List ContextId) : Prop where
  nodup : marked.Nodup
  given : ∀ x ∈ marked, cs.stored? x = none ∧ now.Settled x ∧ now.wakers x = []
  spared : ∀ x, x ∉ marked → now.at? x = cs.at? x
  woken : now.woken = cs.woken ++ marked.flatMap cs.wakers

namespace Marks

variable {now : Contexts} {marked : List ContextId}

theorem nil (cs : Contexts) : Marks cs cs [] :=
  ⟨List.nodup_nil, by simp, fun _ _ => rfl, by simp⟩

/-- A context without an error is not marked yet, so those who wait for it are those who waited
before. -/
theorem settle {e : ContextError} {context : Context} (h : Marks cs now marked)
    (found : now.at? c = some context) (hundone : context.error? = none) :
    Marks cs (now.settle e c context) (marked ++ [c]) := by
  have hnew : c ∉ marked := by
    intro hc
    obtain ⟨context', found', hdone⟩ := settled_iff.1 (h.given c hc).2.1
    cases found.symm.trans found'
    exact hdone hundone
  have hat : cs.at? c = some context := (h.spared c hnew).symm.trans found
  refine ⟨?_, fun x hx => ?_, fun x hx => ?_, ?_⟩
  · rw [List.nodup_append]
    refine ⟨h.nodup, by simp, fun a ha b hb heq => ?_⟩
    rw [heq, List.mem_singleton.1 hb] at ha
    exact hnew ha
  · rcases List.mem_append.1 hx with hold | hx
    · have hne : x ≠ c := by
        intro heq
        exact hnew (heq ▸ hold)
      obtain ⟨hopen, hdone, hnobody⟩ := h.given x hold
      refine ⟨hopen, (settled_settle found).2 (.inr hdone), ?_⟩
      rw [wakers, at?_settle_of_ne hne]
      exact hnobody
    · rw [List.mem_singleton.1 hx]
      refine ⟨(stored?_of_at? hat).trans hundone, (settled_settle found).2 (.inl rfl), ?_⟩
      rw [wakers_of_at? (at?_settle_self found)]
      rfl
  · rw [List.mem_append, not_or, List.mem_singleton] at hx
    rw [at?_settle_of_ne hx.2, h.spared x hx.1]
  · show now.woken ++ context.wakers = _
    rw [h.woken, List.flatMap_append, List.flatMap_singleton, wakers_of_at? hat,
      List.append_assoc]

theorem wakes (h : Marks cs now marked) : Wakes cs now := by
  refine ⟨marked, h.nodup, fun x => ?_, h.woken, fun x => ?_⟩
  · constructor
    · intro hx
      exact ⟨(h.given x hx).1, (h.given x hx).2.1⟩
    · rintro ⟨hopen, hdone⟩
      by_cases hx : x ∈ marked
      · exact hx
      · rw [settled_iff, h.spared x hx, ← settled_iff] at hdone
        exact absurd hdone (stored?_eq_none_iff.1 hopen)
  · by_cases hx : x ∈ marked
    · rw [if_pos hx, (h.given x hx).2.2]
    · rw [if_neg hx, wakers, h.spared x hx, wakers]

end Marks

/-- An error that spreads wakes whoever waits for the contexts that are given it. -/
theorem wakes_spread {e : ContextError} {there : ContextId → Bool} {pending : List ContextId} :
    Wakes cs (cs.spread e there pending) := by
  have hmarks : ∃ marked, Marks cs (cs.spread e there pending) marked := by
    refine spread_preserves (p := fun now _ => ∃ marked, Marks cs now marked)
      (fun _ _ _ _ h => h) ?_ ⟨[], .nil cs⟩
    intro now c context pending found hundone _ h
    obtain ⟨marked, h⟩ := h
    exact ⟨marked ++ [c], h.settle found hundone⟩
  obtain ⟨marked, h⟩ := hmarks
  exact h.wakes

theorem wakes_error : Wakes cs (cs.error c).2 := by
  rcases error_eq cs c with hsame | ⟨_, hended⟩
  · rw [hsame]
    exact Same.wakes ⟨fun _ => rfl, fun _ => rfl, rfl⟩
  · rw [hended]
    exact wakes_spread

/-! ## Everything that can be done -/

theorem same_add {context : Context} (hundone : context.error? = none)
    (hnobody : context.wakers = []) : Same cs (cs.add context).2 where
  stored? _ := stored?_add hundone
  wakers c := by
    by_cases hc : c = cs.contexts.size
    · subst hc
      have hunmade : cs.at? cs.contexts.size = none := by
        cases found : cs.at? cs.contexts.size with
        | none => rfl
        | some context => exact absurd ⟨context, found⟩ not_made_size
      rw [wakers_of_at? at?_add_self, hnobody, wakers, hunmade, Option.elim_none]
    · rw [wakers, at?_add_of_ne hc, wakers]
  woken := rfl

/-- Entering a child makes no difference to those who wait. -/
theorem same_enter {p : ContextId} : Same cs (cs.enter p c) where
  stored? _ := (alike_update fun context => ⟨_, context.wakers, rfl⟩).stored?
  wakers x := by
    by_cases hx : x = p
    · subst hx
      cases found : cs.at? x with
      | none => rw [enter, update, found]
      | some context =>
          rw [enter, wakers_of_at? (at?_update_self found), wakers_of_at? found]
    · rw [enter, wakers, at?_update_of_ne hx, wakers]
  woken := by
    unfold enter update
    cases cs.at? p <;> rfl

theorem wakes_addChild {p : ContextId} {configure : Context → Context}
    (hundone : ∀ context, (configure context).error? = context.error?)
    (hnobody : ∀ context, (configure context).wakers = context.wakers) :
    Wakes cs (cs.addChild p configure).2 := by
  have hgrown : Same cs (cs.grown p configure) := same_add (hundone _) (hnobody _)
  rw [addChild_eq]
  cases (cs.grown p configure).stored? p with
  | none => exact hgrown.wakes_trans same_enter.wakes
  | some e => exact hgrown.wakes_trans wakes_spread

/-- The passing of time alone gives no error. -/
theorem same_instant {instant : Span} : Same cs { cs with instant } :=
  ⟨fun _ => rfl, fun _ => rfl, rfl⟩

theorem wakes_derive {p : ContextId} (how : Derivation) : Wakes cs (cs.derive p how).2 := by
  cases how with
  | cancellable | value key bound | attacher name | deadline instant =>
      exact wakes_addChild (fun _ => rfl) fun _ => rfl
  | timeout d =>
      have hread : Same cs cs.read.2 := same_instant
      have hplain : Wakes cs.read.2 (cs.read.2.addChild p id).2 :=
        wakes_addChild (fun _ => rfl) fun _ => rfl
      have hdeadline : ∀ instant, Wakes cs.read.2 (cs.read.2.addDeadline p instant).2 :=
        fun _ => wakes_addChild (fun _ => rfl) fun _ => rfl
      cases hafter : after? cs.instant d with
      | none =>
          have heq : cs.derive p (.timeout d) = cs.read.2.addChild p id := by
            simp only [derive, read, hafter]
          rw [heq]
          exact hread.wakes_trans hplain
      | some instant =>
          have heq : cs.derive p (.timeout d) = cs.read.2.addDeadline p instant := by
            simp only [derive, read, hafter]
          rw [heq]
          exact hread.wakes_trans (hdeadline instant)

/-- Everything that can be done to a forest. The watchers of deadlines notice one by one that
theirs has passed. -/
inductive Move where
  | background
  | derive (parent : ContextId) (how : Derivation)
  | cancel (c : ContextId)
  | ask (c : ContextId)
  | poll (c : ContextId) (waker : String)
  | notice (c : ContextId)
  | pass (d : Span)
  | hold (c : ContextId)
  | release (c : ContextId)

namespace Move

/-- Whoever derives a context, polls it or takes another hold on it holds it. A context that
is cancelled was made, and a deadline that is noticed has passed. -/
def Possible (cs : Contexts) : Move → Prop
  | .derive c _ | .poll c _ | .hold c => c ∈ cs.held
  | .cancel c => cs.Made c
  | .notice c => cs.expired c = true
  | .background | .ask _ | .pass _ | .release _ => True

/-- The forest after a move. -/
def after (cs : Contexts) : Move → Contexts
  | .background => cs.background.2
  | .derive parent how => (cs.derive parent how).2
  | .cancel c => cs.cancel c
  | .ask c => (cs.error c).2
  | .poll c waker => (cs.pollDone c waker).2
  | .notice c => cs.finish .deadlineExceeded c
  | .pass d => { cs with instant := cs.instant.add d }
  | .hold c => cs.hold c
  | .release c => cs.release c

/-- The poll that a move leaves pending. -/
def pending (cs : Contexts) : Move → List (ContextId × String)
  | .poll c waker => if (cs.pollDone c waker).1 = none then [(c, waker)] else []
  | _ => []

/-- Every move is a step of a history. -/
theorem step {m : Move} (h : m.Possible cs) : ∃ new, Step cs new (m.after cs) := by
  cases m with
  | background => exact ⟨_, .background⟩
  | derive parent how => exact ⟨_, .derived how h⟩
  | cancel c => exact ⟨_, .cancelled h⟩
  | ask c => exact ⟨_, .asked c⟩
  | poll c waker => exact ⟨_, .polled c waker⟩
  | notice c => exact ⟨_, .noticed h⟩
  | pass d => exact ⟨_, .passed d⟩
  | hold c => exact ⟨_, .held h⟩
  | release c => exact ⟨_, .released c⟩

/-- A move wakes whoever waits for the contexts to which it gives an error, or it leaves a poll
pending. -/
theorem wakes (m : Move) (cs : Contexts) :
    m.pending cs = [] ∧ Wakes cs (m.after cs) ∨
      ∃ c waker, m = .poll c waker ∧ m.pending cs = [(c, waker)] ∧ cs.stored? c = none ∧
        m.after cs = cs.update c (Context.awaitedBy waker) := by
  have hsame : ∀ {cs'}, (∀ c, cs'.at? c = cs.at? c) → cs'.woken = cs.woken → Wakes cs cs' := by
    intro cs' hat hwoken
    refine Same.wakes ⟨fun c => ?_, fun c => ?_, hwoken⟩
    · rw [Contexts.stored?, hat, Contexts.stored?]
    · rw [wakers, hat, wakers]
  cases m with
  | background => exact .inl ⟨rfl, (same_add rfl rfl).wakes⟩
  | derive parent how => exact .inl ⟨rfl, wakes_derive how⟩
  | cancel c => exact .inl ⟨rfl, wakes_spread⟩
  | ask c => exact .inl ⟨rfl, wakes_error⟩
  | poll c waker =>
      rcases pollDone_cases cs c waker with ⟨e, hanswer, _⟩ | ⟨hopen, hanswer⟩
      · left
        simp only [pending, after, hanswer]
        exact ⟨rfl, wakes_error⟩
      · right
        refine ⟨c, waker, rfl, ?_, hopen, ?_⟩
        · simp only [pending, hanswer]
          rfl
        · simp only [after, hanswer]
  | notice c => exact .inl ⟨rfl, wakes_spread⟩
  | pass d => exact .inl ⟨rfl, hsame (fun _ => rfl) rfl⟩
  | hold c => exact .inl ⟨rfl, hsame (fun _ => rfl) rfl⟩
  | release c => exact .inl ⟨rfl, hsame (fun _ => rfl) rfl⟩

end Move

/-! ## Histories with their pending polls -/

/-- The forests that moves can lead to, with the polls that were left pending, latest first. -/
inductive Attended : Contexts → List (ContextId × String) → Prop
  | starting {instant : Span} : instant ≤ Span.max → Attended { empty with instant } []
  | move {cs : Contexts} {polls : List (ContextId × String)} {m : Move} :
      Attended cs polls → m.Possible cs → Attended (m.after cs) (m.pending cs ++ polls)

theorem Attended.history (h : Attended cs polls) : ∃ deeds, History cs deeds := by
  induction h with
  | starting hle => exact ⟨[], .starting hle⟩
  | move _ hpossible ih =>
      obtain ⟨deeds, hhistory⟩ := ih
      obtain ⟨new, hstep⟩ := Move.step hpossible
      exact ⟨new ++ deeds, hhistory.step hstep⟩

theorem Attended.stored?_after {m : Move} {e : ContextError} (h : Attended cs polls)
    (hpossible : m.Possible cs) (hstored : cs.stored? c = some e) :
    (m.after cs).stored? c = some e := by
  obtain ⟨deeds, hhistory⟩ := h.history
  exact hhistory.stored?_after (.single (Move.step hpossible)) hstored

/-- What a context keeps of its wakers after one more poll. -/
theorem wakers_awaited (hmade : cs.Made c) :
    (cs.update c (Context.awaitedBy w)).wakers x =
      if c = x then enlist w (cs.wakers x) else cs.wakers x := by
  by_cases hx : x = c
  · subst hx
    obtain ⟨context, found⟩ := hmade
    rw [wakers_of_at? (at?_update_self found), wakers_of_at? found, if_pos rfl, Context.awaitedBy,
      enlist]
    split <;> rfl
  · rw [wakers, at?_update_of_ne hx, if_neg (Ne.symm hx), wakers]

/-- A poll that finds a context undone is left pending. -/
theorem Attended.polled (h : Attended cs polls) (hheld : c ∈ cs.held)
    (hlive : (cs.pollDone c w).1 = none) : Attended (cs.pollDone c w).2 ((c, w) :: polls) := by
  have hpending : (Move.poll c w).pending cs = [(c, w)] := if_pos hlive
  have hmoved := h.move (m := .poll c w) hheld
  rwa [hpending] at hmoved

theorem settled_awaited :
    (cs.update x (Context.awaitedBy w)).Settled c ↔ cs.Settled c := by
  unfold Settled
  rw [alike_awaited.stored?]

/-- A context that is not done keeps exactly those whose polls are pending. -/
theorem Attended.wakers_eq (h : Attended cs polls) (hopen : cs.stored? c = none) :
    cs.wakers c = waiting polls c := by
  induction h with
  | starting _ => rfl
  | @move cs polls m hattended hpossible ih =>
      rcases m.wakes cs with ⟨hpending, hwakes⟩ | ⟨d, waker, rfl, hpending, _, hafter⟩
      · obtain ⟨marked, _, hmarked, _, hwakers⟩ := hwakes
        have hunmarked : c ∉ marked := by
          intro hc
          exact stored?_eq_none_iff.1 hopen ((hmarked c).1 hc).2
        -- errors last, so the context was undone before the move too
        have hbefore : cs.stored? c = none := by
          cases hstored : cs.stored? c with
          | none => rfl
          | some e => cases hopen.symm.trans (hattended.stored?_after hpossible hstored)
        rw [hwakers, if_neg hunmarked, hpending]
        exact ih hbefore
      · obtain ⟨deeds, hhistory⟩ := hattended.history
        have hmade : cs.Made d := hhistory.kept.recorded.held_made hpossible
        rw [hafter, alike_awaited.stored?] at hopen
        rw [hafter, wakers_awaited hmade, hpending, ih hopen]
        rfl

/-- A move wakes those whose polls on the contexts to which it gives an error are pending. -/
theorem Attended.woken_after {m : Move} (h : Attended cs polls) (hpossible : m.Possible cs) :
    ∃ marked : List ContextId, marked.Nodup ∧
      (∀ c, c ∈ marked ↔ cs.stored? c = none ∧ (m.after cs).Settled c) ∧
      (m.after cs).woken = cs.woken ++ marked.flatMap (waiting polls) := by
  rcases m.wakes cs with ⟨_, hwakes⟩ | ⟨d, waker, rfl, _, _, hafter⟩
  · obtain ⟨marked, hnodup, hmarked, hwoken, _⟩ := hwakes
    refine ⟨marked, hnodup, hmarked, ?_⟩
    rw [hwoken, List.flatMap_congr fun c hc => h.wakers_eq ((hmarked c).1 hc).1]
  · refine ⟨[], List.nodup_nil, fun c => ?_, ?_⟩
    · rw [stored?_eq_none_iff, hafter, settled_awaited]
      simp
    · rw [hafter, List.flatMap_nil, List.append_nil, update]
      cases cs.at? d <;> rfl

/-- Nobody begins to wait for a context that is done. -/
theorem Move.waiting_pending {m : Move} (hdone : (m.after cs).Settled c) :
    waiting (m.pending cs ++ polls) c = waiting polls c := by
  rcases m.wakes cs with ⟨hpending, _⟩ | ⟨d, waker, rfl, hpending, hopen, hafter⟩
  · rw [hpending, List.nil_append]
  · have hne : d ≠ c := by
      intro heq
      rw [hafter, settled_awaited, ← heq] at hdone
      exact stored?_eq_none_iff.1 hopen hdone
    rw [hpending, List.singleton_append, waiting, if_neg hne]

/-- Of all that ever waited, those were woken who waited for contexts that are done. -/
theorem Attended.woken_eq (h : Attended cs polls) :
    ∃ marked : List ContextId, marked.Nodup ∧ (∀ c, c ∈ marked ↔ cs.Settled c) ∧
      cs.woken = marked.flatMap (waiting polls) := by
  induction h with
  | @starting instant _ =>
      refine ⟨[], List.nodup_nil, fun c => ?_, rfl⟩
      have hopen : ({ empty with instant } : Contexts).stored? c = none := rfl
      simp [stored?_eq_none_iff.1 hopen]
  | @move cs polls m hattended hpossible ih =>
      obtain ⟨old, hold, hdone, hwoken⟩ := ih
      obtain ⟨new, hnew, hgiven, hmore⟩ := hattended.woken_after hpossible
      have hall : ∀ c, c ∈ old ++ new ↔ (m.after cs).Settled c := by
        intro c
        rw [List.mem_append, hdone, hgiven, stored?_eq_none_iff]
        constructor
        · rintro (⟨e, hstored⟩ | ⟨_, hc⟩)
          · exact ⟨e, hattended.stored?_after hpossible hstored⟩
          · exact hc
        · intro hc
          by_cases hbefore : cs.Settled c
          · exact .inl hbefore
          · exact .inr ⟨hbefore, hc⟩
      refine ⟨old ++ new, ?_, hall, ?_⟩
      · rw [List.nodup_append]
        refine ⟨hold, hnew, fun c hc c' hc' heq => ?_⟩
        subst heq
        exact stored?_eq_none_iff.1 ((hgiven c).1 hc').1 ((hdone c).1 hc)
      · -- the polls that count are those from before the contexts were done
        rw [List.flatMap_congr fun c hc => Move.waiting_pending ((hall c).1 hc), hmore, hwoken,
          List.flatMap_append]

/-- Of those who wait for some contexts, each is counted once for every context on which a poll
of theirs is pending. -/
theorem count_flatMap_waiting {marked : List ContextId} :
    (marked.flatMap (waiting polls)).count w = marked.countP fun c => decide ((c, w) ∈ polls) := by
  induction marked with
  | nil => rfl
  | cons c marked ih =>
      rw [List.flatMap_cons, List.count_append, List.countP_cons, ih, count_waiting, Nat.add_comm]
      simp

theorem pollDone_fst : (cs.pollDone c w).1 = (cs.error c).1 := by
  unfold pollDone
  rcases cs.error c with ⟨_ | e, after⟩ <;> rfl

/-- A poll of a context that is found to be done does no more than ask for its error. -/
theorem pollDone_of_error {e : ContextError} (h : (cs.error c).1 = some e) :
    cs.pollDone c w = cs.error c := by
  rcases pollDone_cases cs c w with ⟨e', hanswer, hasked⟩ | ⟨_, hanswer⟩
  · rw [hanswer]
    exact Prod.ext hasked.symm rfl
  · cases (congrArg Prod.fst hanswer).symm.trans (pollDone_fst.trans h)

/-- Whatever is done to a forest: so far, everybody was woken as often as there are contexts
that are done and on which a poll of theirs was left pending. With every further move, everybody
is woken once for each context that is given an error by it and on which a poll of theirs is
pending; from then on all polls of that context are answered with its error, and nobody is
taken down for it. A poll is left pending only if the context is not found to be done, and
otherwise takes down nobody. -/
theorem Attended.woken_once (h : Attended cs polls) :
    (∃ marked : List ContextId, marked.Nodup ∧ (∀ c, c ∈ marked ↔ cs.Settled c) ∧
        ∀ w, cs.wakes w = marked.countP fun c => decide ((c, w) ∈ polls)) ∧
      (∀ m : Move, m.Possible cs → ∃ marked : List ContextId, marked.Nodup ∧
        (∀ c, c ∈ marked ↔ cs.stored? c = none ∧ (m.after cs).Settled c) ∧
        (∀ w, (m.after cs).wakes w =
          cs.wakes w + marked.countP fun c => decide ((c, w) ∈ polls)) ∧
        ∀ c ∈ marked, ∃ e, (m.after cs).stored? c = some e ∧
          ∀ later, After (m.after cs) later → ∀ w, later.pollDone c w = (some e, later)) ∧
      ∀ c w, (cs.pollDone c w).1 = (cs.error c).1 ∧
        ∀ e, (cs.error c).1 = some e → cs.pollDone c w = cs.error c := by
  refine ⟨?_, fun m hpossible => ?_, fun c w => ⟨pollDone_fst, fun e => pollDone_of_error⟩⟩
  · obtain ⟨marked, hnodup, hmarked, hwoken⟩ := h.woken_eq
    refine ⟨marked, hnodup, hmarked, fun w => ?_⟩
    rw [Contexts.wakes, hwoken, count_flatMap_waiting]
  · obtain ⟨marked, hnodup, hmarked, hwoken⟩ := h.woken_after hpossible
    refine ⟨marked, hnodup, hmarked, fun w => ?_, fun c hc => ?_⟩
    · rw [Contexts.wakes, hwoken, List.count_append, count_flatMap_waiting, Contexts.wakes]
    · obtain ⟨e, hstored⟩ := ((hmarked c).1 hc).2
      obtain ⟨deeds, hhistory⟩ := (h.move hpossible).history
      refine ⟨e, hstored, fun later hafter w => ?_⟩
      have hasked := error_of_stored? (hhistory.stored?_after hafter hstored)
      rw [pollDone_of_error (congrArg Prod.fst hasked), hasked]

/-- A context that can be cancelled, with a child. Two wait for the child, and one of them waits
for the context too and has polled it twice. -/
def awaited : Contexts :=
  ((((((empty.background.2.derive 0 .cancellable).2.derive 1 (.value "user"
    (.ofString "ada"))).2.pollDone 1 "a").2.pollDone 1 "a").2.pollDone 2 "a").2.pollDone 2 "b").2

theorem attended_awaited :
    Attended awaited [(2, "b"), (2, "a"), (1, "a"), (1, "a")] ∧ awaited.held = [2, 1, 0] := by
  have hinstant : firstInstant ≤ Span.max := by decide
  have hroot : Attended empty.background.2 [] :=
    .move (m := .background) (.starting hinstant) trivial
  have hchild : Attended (empty.background.2.derive 0 .cancellable).2 [] :=
    .move (m := .derive 0 .cancellable) hroot List.mem_cons_self
  have hfamily := hchild.move (m := .derive 1 (.value "user" (.ofString "ada"))) (by
    show 1 ∈ (empty.background.2.derive 0 .cancellable).2.held
    decide +kernel)
  have hfirst := hfamily.polled (c := 1) (w := "a") (by decide +kernel) (by decide +kernel)
  have hsecond := hfirst.polled (c := 1) (w := "a") (by decide +kernel) (by decide +kernel)
  have hthird := hsecond.polled (c := 2) (w := "a") (by decide +kernel) (by decide +kernel)
  have hfourth := hthird.polled (c := 2) (w := "b") (by decide +kernel) (by decide +kernel)
  exact ⟨hfourth, by decide +kernel⟩

/-- When the context is cancelled, each of the two is woken for each context, and nobody is taken
down any more. -/
theorem woken_once_awaited :
    (awaited.cancel 1).wakes "a" = 2 ∧ (awaited.cancel 1).wakes "b" = 1 ∧
      (awaited.cancel 1).pollDone 2 "b" = (some .cancelled, awaited.cancel 1) := by
  obtain ⟨hattended, hheld⟩ := attended_awaited
  obtain ⟨deeds, hhistory⟩ := hattended.history
  have hmember : 1 ∈ awaited.held ∧ 2 ∈ awaited.held := by simp [hheld]
  have hmade : ∀ {c}, c ∈ awaited.held → awaited.Made c := fun hc =>
    hhistory.kept.recorded.held_made hc
  have hopen : awaited.stored? 1 = none ∧ awaited.stored? 2 = none := by decide +kernel
  have hparent : awaited.parent? 2 = some 1 := by decide +kernel
  have hquiet : awaited.wakes "a" = 0 ∧ awaited.wakes "b" = 0 := by decide +kernel
  have hstep : Step awaited [.cancelled 1] (awaited.cancel 1) := .cancelled (hmade hmember.1)
  have hone : (awaited.cancel 1).stored? 1 = some .cancelled :=
    stored?_finish_self (present_of_held hmember.1 (hmade hmember.1)) hopen.1
  have htwo : (awaited.cancel 1).stored? 2 = some .cancelled := by
    obtain ⟨requested?, hderived⟩ := hhistory.kept.recorded.derived_iff.1 hparent
    exact hhistory.shared hstep hopen.1 hone
      (.up (List.mem_append_right _ hderived) .self)
      (present_of_held hmember.2 (hmade hmember.2)) hopen.2
  obtain ⟨-, hmoves, -⟩ := hattended.woken_once
  obtain ⟨marked, hnodup, hmarked, hwakes, hanswers⟩ := hmoves (.cancel 1) (hmade hmember.1)
  have hmem : 1 ∈ marked ∧ 2 ∈ marked :=
    ⟨(hmarked 1).2 ⟨hopen.1, _, hone⟩, (hmarked 2).2 ⟨hopen.2, _, htwo⟩⟩
  have hcount : ∀ {p : ContextId → Bool} {l : List ContextId}, l.Nodup →
      (∀ c, c ∈ marked ∧ p c = true ↔ c ∈ l) → marked.countP p = l.length := by
    intro p l hl hp
    rw [List.countP_eq_length_filter]
    exact ((List.perm_ext_iff_of_nodup (hnodup.filter _) hl).2 fun c => by
      rw [List.mem_filter, hp]).length_eq
  refine ⟨?_, ?_, ?_⟩
  · refine (hwakes "a").trans ?_
    rw [hquiet.1, hcount (l := [1, 2]) (by decide) fun c => ?_]
    · rfl
    · grind
  · refine (hwakes "b").trans ?_
    rw [hquiet.2, hcount (l := [2]) (by decide) fun c => ?_]
    · rfl
    · grind
  · obtain ⟨e, hstored, hlasts⟩ := hanswers 2 hmem.2
    cases htwo.symm.trans hstored
    exact hlasts _ .refl "b"

end PollingAssertions.Contexts
