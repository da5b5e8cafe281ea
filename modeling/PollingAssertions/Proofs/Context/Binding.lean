import PollingAssertions.Proofs.Context.Cause
import PollingAssertions.Proofs.Context.Nearest

/-!
# What a context binds to a key

A value is looked for in a context and then in its ancestors, and the search ends
at the first context that binds the key, even if it binds a value of another type
than the one that is wanted. What a context binds and whose child it is are settled
when it is made. Everything else about it changes all the time, and with it the
lists that hang on the same contexts, but none of that has a bearing on the search.

So the answer can be read off the derivations that made the context and its
ancestors, and it is the same at all times.

## Main definitions

* `Contexts.Pedigree` — the derivations that made a context and its ancestors.
* `Contexts.Innermost` — the binding of a key that counts.
* `Contexts.heritage?` — what is settled when a context is made.
* `Contexts.bound?` — the binding that the search finds.

## Main results

* `Contexts.Step.heritage?` — no step changes the heritage of a context.
* `Contexts.Pedigree.bound?_eq` — the search through the forest is a search through
  the pedigree.
* `Contexts.History.value?_innermost` — which value is found, at all times.
-/

namespace PollingAssertions

namespace Contexts

/-- A binding, if it is one of the key. -/
def ofKey? (key : String) (binding? : Option (String × Datum)) : Option (String × Datum) :=
  binding?.filter fun binding => binding.1 == key

/-- The derivations that made a context and its ancestors, its own first. Whatever is done to the
forest later is no part of them. -/
inductive Pedigree : Contexts → ContextId → List Derivation → Prop
  | background {cs : Contexts} {deeds : List Deed} :
      History cs deeds → Pedigree cs.background.2 cs.background.1 []
  | derived {cs : Contexts} {parent : ContextId} {line : List Derivation} (how : Derivation) :
      Pedigree cs parent line → parent ∈ cs.held →
      Pedigree (cs.derive parent how).2 (cs.derive parent how).1 (how :: line)
  | later {cs cs' : Contexts} {c : ContextId} {line : List Derivation} {new : List Deed} :
      Pedigree cs c line → Step cs new cs' → Pedigree cs' c line

/-- The binding of a key that comes first in a pedigree, and so is nearest to the context. -/
def Innermost (line : List Derivation) (key : String) (bound : Datum) : Prop :=
  ∃ before after, line = before ++ .value key bound :: after ∧
    ∀ how ∈ before, ∀ other, how ≠ .value key other

/-- What is settled about a context when it is made: its parent and its binding. -/
def heritage? (cs : Contexts) (c : ContextId) :
    Option (Option ContextId × Option (String × Datum)) :=
  (cs.at? c).map fun context => (context.parent?, context.binding?)

/-- The binding of a key in a context or else in the nearest ancestor that has one. -/
def bound? (cs : Contexts) (c : ContextId) (key : String) : Option (String × Datum) :=
  (cs.lineage c).findSome? fun i => (cs.at? i).bind fun context => ofKey? key context.binding?

variable {cs cs' : Contexts} {deeds new : List Deed} {c p x : ContextId} {context : Context}
  {key : String} {type : Ty} {line : List Derivation} {bound : Datum}

/-! ## The search -/

theorem value?_eq (cs : Contexts) (c : ContextId) (key : String) (type : Ty) :
    cs.value? c key type = (cs.bound? c key).bind fun binding =>
      if binding.2.type == type then some binding.2.value else none := by
  have hown : (fun i => ((cs.at? i).bind (·.binding?)).filter fun binding => binding.1 == key) =
      fun i => (cs.at? i).bind fun context => ofKey? key context.binding? := by
    funext i
    cases cs.at? i <;> rfl
  unfold value? bound?
  rw [hown]
  split
  · next hfound => rw [hfound, Option.bind_some]
  · next hnone => rw [hnone, Option.bind_none]

theorem heritage?_of_at? (found : cs.at? c = some context) :
    cs.heritage? c = some (context.parent?, context.binding?) := by
  rw [heritage?, found, Option.map_some]

/-- The search looks at the binding of a context and then goes on with its parent. -/
theorem bound?_eq (cs : Contexts) (c : ContextId) (key : String) :
    cs.bound? c key = (cs.heritage? c).bind fun heritage => (ofKey? key heritage.2).or
      ((heritage.1.filter fun p => decide (p < c)).bind fun p => cs.bound? p key) := by
  cases found : cs.at? c with
  | none =>
      rw [heritage?, found, bound?, lineage, found]
      rfl
  | some context =>
      rw [heritage?_of_at? found, Option.bind_some]
      exact findSome?_lineage _ found

/-- Forests that agree on heritage up to some context agree on what is found from there. -/
theorem bound?_congr (h : ∀ x ≤ c, cs'.heritage? x = cs.heritage? x) :
    cs'.bound? c key = cs.bound? c key := by
  induction c using Nat.strongRecOn with
  | ind c ih =>
      rw [bound?_eq cs', bound?_eq cs, h c (Nat.le_refl c)]
      cases cs.heritage? c with
      | none => rfl
      | some heritage =>
          obtain ⟨parent?, binding?⟩ := heritage
          rw [Option.bind_some, Option.bind_some]
          cases parent? with
          | none => rfl
          | some p =>
              by_cases holder : p < c
              · have hparent : cs'.bound? p key = cs.bound? p key :=
                  ih p holder fun x hx => h x (Nat.le_trans hx (Nat.le_of_lt holder))
                rw [Option.filter_some, decide_eq_true holder, if_pos rfl, Option.bind_some,
                  Option.bind_some, hparent]
              · rw [Option.filter_some, decide_eq_false holder]
                rfl

/-! ## No step changes the heritage of a context -/

theorem heritage?_spread {e : ContextError} {there : ContextId → Bool} {pending : List ContextId} :
    (cs.spread e there pending).heritage? x = cs.heritage? x := by
  rcases at?_spread cs e there pending x with hsame | ⟨context, found, _, _, hended⟩
  · rw [heritage?, hsame, heritage?]
  · rw [heritage?_of_at? hended, heritage?_of_at? found]
    rfl

theorem Alike.heritage? (h : cs'.Alike cs) : cs'.heritage? x = cs.heritage? x := by
  rcases h x with hsame | ⟨context, _, _, found, found'⟩
  · rw [Contexts.heritage?, hsame, Contexts.heritage?]
  · rw [heritage?_of_at? found', heritage?_of_at? found]

theorem heritage?_add_of_ne (h : x ≠ cs.contexts.size) :
    (cs.add context).2.heritage? x = cs.heritage? x := by
  rw [heritage?, at?_add_of_ne h, heritage?]

/-- Making a new child known, or telling it that its parent is done, leaves all heritage as it
is. -/
theorem heritage?_addChild {configure : Context → Context} :
    (cs.addChild p configure).2.heritage? x = (cs.grown p configure).heritage? x := by
  rw [addChild_eq]
  cases (cs.grown p configure).stored? p with
  | none => exact alike_entered.heritage?
  | some e => exact heritage?_spread

theorem heritage?_addChild_of_ne {configure : Context → Context} (h : x ≠ cs.contexts.size) :
    (cs.addChild p configure).2.heritage? x = cs.heritage? x :=
  heritage?_addChild.trans (heritage?_add_of_ne h)

theorem heritage?_derive_of_ne (how : Derivation) (h : x ≠ cs.contexts.size) :
    (cs.derive p how).2.heritage? x = cs.heritage? x := by
  obtain ⟨configure, instant, -, -, -, heq⟩ := derive_eq cs p how
  have hadded : (({ cs with instant } : Contexts).addChild p configure).2.heritage? x =
      ({ cs with instant } : Contexts).heritage? x := heritage?_addChild_of_ne h
  rw [heq]
  exact hadded

/-- A derived context is a child of its parent and binds what its derivation says. -/
theorem heritage?_derive_self (cs : Contexts) (p : ContextId) (how : Derivation) :
    (cs.derive p how).2.heritage? cs.contexts.size = some (some p, bindingOf? how) := by
  obtain ⟨configure, instant, hconfigures, hbinding, -, heq⟩ := derive_eq cs p how
  have hborn : (({ cs with instant } : Contexts).grown p configure).heritage? cs.contexts.size =
      some (some p, bindingOf? how) := by
    rw [grown, heritage?_of_at? at?_add_self, hconfigures.parent?, hbinding _ rfl]
  rw [heq, heritage?_addChild]
  exact hborn

theorem heritage?_error : (cs.error c).2.heritage? x = cs.heritage? x := by
  rcases error_eq cs c with hsame | ⟨_, hended⟩
  · rw [hsame]
  · rw [hended, finish, heritage?_spread]

/-- Only two steps have a bearing on heritage, and they make a new context. -/
theorem Step.heritage_cases (hstep : Step cs new cs') :
    (∀ x, cs'.heritage? x = cs.heritage? x) ∨ cs' = cs.background.2 ∨
      ∃ p how, p ∈ cs.held ∧ cs' = (cs.derive p how).2 := by
  cases hstep with
  | background => exact .inr (.inl rfl)
  | derived how hheld => exact .inr (.inr ⟨_, how, hheld, rfl⟩)
  | cancelled _ => exact .inl fun x => heritage?_spread
  | asked c => exact .inl fun x => heritage?_error
  | polled c waker =>
      left
      intro x
      rcases pollDone_cases cs c waker with ⟨e, hanswer, _⟩ | ⟨_, hanswer⟩
      · rw [hanswer]
        exact heritage?_error
      · rw [hanswer]
        exact alike_awaited.heritage?
  | noticed _ => exact .inl fun x => heritage?_spread
  | passed d => exact .inl fun x => rfl
  | held _ => exact .inl fun x => rfl
  | released c => exact .inl fun x => rfl

/-- Whatever is done, the contexts that were there before keep their heritage. -/
theorem Step.heritage? (hstep : Step cs new cs') (hmade : cs.Made x) :
    cs'.heritage? x = cs.heritage? x := by
  rcases hstep.heritage_cases with hsame | rfl | ⟨p, how, _, rfl⟩
  · exact hsame x
  · exact heritage?_add_of_ne hmade.ne_size
  · exact heritage?_derive_of_ne how hmade.ne_size

/-- So what is found from a context stays the same. -/
theorem Step.bound? (hstep : Step cs new cs') (hmade : cs.Made c) :
    cs'.bound? c key = cs.bound? c key := by
  refine bound?_congr fun x hx => hstep.heritage? ?_
  exact made_iff.2 (Nat.lt_of_le_of_lt hx (made_iff.1 hmade))

theorem made_iff_heritage? : cs.Made x ↔ (cs.heritage? x).isSome = true := by
  rw [heritage?, Option.isSome_map, Option.isSome_iff_exists]
  rfl

theorem Step.made (hstep : Step cs new cs') (hmade : cs.Made x) : cs'.Made x := by
  rw [made_iff_heritage?, hstep.heritage? hmade]
  exact made_iff_heritage?.1 hmade

/-- What is found from a context is the same at all later times. -/
theorem After.bound? (hafter : After cs cs') (hmade : cs.Made c) :
    cs'.Made c ∧ cs'.bound? c key = cs.bound? c key := by
  induction hafter with
  | refl => exact ⟨hmade, rfl⟩
  | tail _ hstep ih =>
      obtain ⟨new, hstep⟩ := hstep
      obtain ⟨hstill, hsame⟩ := ih
      exact ⟨hstep.made hstill, (hstep.bound? hstill).trans hsame⟩

/-! ## Pedigrees -/

theorem made_derive (cs : Contexts) (p : ContextId) (how : Derivation) :
    (cs.derive p how).2.Made (cs.derive p how).1 := by
  rw [made_iff_heritage?, derive_fst, heritage?_derive_self]
  rfl

theorem Pedigree.made (h : Pedigree cs c line) : cs.Made c := by
  induction h with
  | background _ => exact made_add.2 (.inl rfl)
  | derived how _ _ _ => exact made_derive _ _ how
  | later _ hstep ih => exact hstep.made ih

/-- The search through the forest is a search through the pedigree. -/
theorem Pedigree.bound?_eq (h : Pedigree cs c line) :
    cs.bound? c key = line.findSome? fun how => ofKey? key (bindingOf? how) := by
  induction h with
  | @background cs deeds _ =>
      have hroot : cs.background.2.heritage? cs.background.1 = some (none, none) :=
        heritage?_of_at? at?_add_self
      rw [Contexts.bound?_eq, hroot]
      rfl
  | @derived cs p line how hparent _ ih =>
      have hless : p < cs.contexts.size := made_iff.1 hparent.made
      -- the parent was there before, so the search goes on from it as it did before
      have hsame : (cs.derive p how).2.bound? p key = cs.bound? p key :=
        bound?_congr fun x hx =>
          heritage?_derive_of_ne how (Nat.ne_of_lt (Nat.lt_of_le_of_lt hx hless))
      rw [derive_fst, Contexts.bound?_eq, heritage?_derive_self, Option.bind_some,
        Option.filter_some, decide_eq_true hless, if_pos rfl, Option.bind_some, hsame, ih,
        List.findSome?_cons]
      cases ofKey? key (bindingOf? how) <;> rfl
  | later hbefore hstep ih => rw [hstep.bound? hbefore.made, ih]

theorem ofKey?_eq_some_iff {how : Derivation} {binding : String × Datum} :
    ofKey? key (bindingOf? how) = some binding ↔ binding.1 = key ∧ how = .value key binding.2 := by
  obtain ⟨other, bound⟩ := binding
  cases how with
  | value own datum =>
      simp only [bindingOf?, ofKey?, Option.filter_some, beq_iff_eq]
      by_cases hown : own = key
      · subst hown
        simp [eq_comm]
      · simp [hown]
  | _ => simp [bindingOf?, ofKey?]

theorem ofKey?_eq_none_iff {how : Derivation} :
    ofKey? key (bindingOf? how) = none ↔ ∀ other, how ≠ .value key other := by
  rw [Option.eq_none_iff_forall_ne_some]
  constructor
  · intro h other heq
    exact h (key, other) (ofKey?_eq_some_iff.2 ⟨rfl, heq⟩)
  · intro h binding hbinding
    exact h _ (ofKey?_eq_some_iff.1 hbinding).2

/-- What a search through a pedigree finds is the innermost binding. -/
theorem findSome?_eq_some_iff_innermost {binding : String × Datum} :
    (line.findSome? fun how => ofKey? key (bindingOf? how)) = some binding ↔
      binding.1 = key ∧ Innermost line key binding.2 := by
  rw [List.findSome?_eq_some_iff]
  constructor
  · rintro ⟨before, how, after, rfl, hfound, hbefore⟩
    obtain ⟨hkey, rfl⟩ := ofKey?_eq_some_iff.1 hfound
    exact ⟨hkey, before, after, rfl, fun other hother => ofKey?_eq_none_iff.1 (hbefore other hother)⟩
  · rintro ⟨hkey, before, after, rfl, hbefore⟩
    exact ⟨before, _, after, rfl, ofKey?_eq_some_iff.2 ⟨hkey, rfl⟩,
      fun other hother => ofKey?_eq_none_iff.2 (hbefore other hother)⟩

theorem Pedigree.bound?_eq_some_iff (h : Pedigree cs c line) {binding : String × Datum} :
    cs.bound? c key = some binding ↔ binding.1 = key ∧ Innermost line key binding.2 := by
  rw [h.bound?_eq, findSome?_eq_some_iff_innermost]

theorem Pedigree.exists_history (h : Pedigree cs c line) : ∃ deeds, History cs deeds := by
  induction h with
  | background hhistory => exact ⟨_, hhistory.step .background⟩
  | derived how _ hheld ih =>
      obtain ⟨deeds, hhistory⟩ := ih
      exact ⟨_, hhistory.step (.derived how hheld)⟩
  | later _ hstep ih =>
      obtain ⟨deeds, hhistory⟩ := ih
      exact ⟨_, hhistory.step hstep⟩

/-- Every context of a forest has a pedigree. -/
theorem History.exists_pedigree (h : History cs deeds) (hmade : cs.Made c) :
    ∃ line, Pedigree cs c line := by
  induction h generalizing c with
  | starting hle => exact absurd (made_iff.1 hmade) (Nat.not_lt_zero c)
  | @step cs cs' deeds new hbefore hstep ih =>
      by_cases hold : cs.Made c
      · obtain ⟨line, hline⟩ := ih hold
        exact ⟨line, hline.later hstep⟩
      · rcases hstep.heritage_cases with hsame | rfl | ⟨p, how, hheld, rfl⟩
        · rw [made_iff_heritage?, hsame, ← made_iff_heritage?] at hmade
          exact absurd hmade hold
        · obtain rfl : c = cs.background.1 := (made_add.1 hmade).resolve_right hold
          exact ⟨[], .background hbefore⟩
        · have hchild : c = cs.contexts.size := by
            by_cases hne : c = cs.contexts.size
            · exact hne
            · rw [made_iff_heritage?, heritage?_derive_of_ne how hne, ← made_iff_heritage?] at hmade
              exact absurd hmade hold
          obtain ⟨line, hline⟩ := ih (hbefore.kept.recorded.held_made hheld)
          rw [hchild, ← derive_fst cs p how]
          exact ⟨how :: line, hline.derived how hheld⟩

/-! ## The theorem -/

/-- The value that is found for a key is the one that the innermost derivation with this key has
bound, if it has the type that is wanted. If it has another type nothing is found, whatever is
bound further out. The answer is the same at all later times. -/
theorem History.value?_innermost (h : History cs deeds) :
    (∀ c, cs.Made c → ∃ line, Pedigree cs c line) ∧
      ∀ c line, Pedigree cs c line → ∀ key type,
        (∀ v, cs.value? c key type = some v ↔ Innermost line key ⟨type, v⟩) ∧
        (∀ bound, Innermost line key bound → bound.type ≠ type → cs.value? c key type = none) ∧
        ((∀ bound, ¬ Innermost line key bound) → cs.value? c key type = none) ∧
        ∀ later, After cs later → later.value? c key type = cs.value? c key type := by
  refine ⟨fun c => h.exists_pedigree, fun c line hline key type => ⟨fun v => ?_,
    fun bound hbound hother => ?_, fun hnone => ?_, fun later hafter => ?_⟩⟩
  · rw [value?_eq, Option.bind_eq_some_iff]
    constructor
    · rintro ⟨⟨other, bound⟩, hfound, hvalue⟩
      obtain ⟨-, hinnermost⟩ := hline.bound?_eq_some_iff.1 hfound
      split at hvalue
      · next htype =>
          cases hvalue
          rw [← eq_of_beq htype]
          exact hinnermost
      · cases hvalue
    · intro hinnermost
      exact ⟨(key, ⟨type, v⟩), hline.bound?_eq_some_iff.2 ⟨rfl, hinnermost⟩, if_pos BEq.rfl⟩
  · have hfound : cs.bound? c key = some (key, bound) :=
      hline.bound?_eq_some_iff.2 ⟨rfl, hbound⟩
    rw [value?_eq, hfound, Option.bind_some, if_neg]
    exact fun htype => hother (eq_of_beq htype)
  · have hnothing : cs.bound? c key = none :=
      Option.eq_none_iff_forall_ne_some.2 fun binding hbinding =>
        hnone _ (hline.bound?_eq_some_iff.1 hbinding).2
    rw [value?_eq, hnothing, Option.bind_none]
  · rw [value?_eq, value?_eq, (hafter.bound? hline.made).2]

/-- A context that binds a number to a key, and a child of it that can be cancelled. -/
def numbered : Contexts :=
  ((empty.background.2.derive 0 (.value "k" ⟨.i32, .integer 1⟩)).2.derive 1 .cancellable).2

/-- Below the child the key is bound to a text. Then the text is found there and the number is
not, and cancelling the child changes nothing of that. -/
theorem value?_innermost_text :
    (numbered.derive 2 (.value "k" (.ofString "two"))).2.value? 3 "k" .string =
        some (.text "two") ∧
      (numbered.derive 2 (.value "k" (.ofString "two"))).2.value? 3 "k" .i32 = none ∧
      ((numbered.derive 2 (.value "k" (.ofString "two"))).2.cancel 2).value? 3 "k" .string =
        some (.text "two") := by
  have hinstant : firstInstant ≤ Span.max := by decide
  have hroot : Pedigree empty.background.2 0 [] := .background (.starting hinstant)
  have hnumber : Pedigree (empty.background.2.derive 0 (.value "k" ⟨.i32, .integer 1⟩)).2 1
      [.value "k" ⟨.i32, .integer 1⟩] := hroot.derived _ List.mem_cons_self
  have hchild : Pedigree numbered 2 [.cancellable, .value "k" ⟨.i32, .integer 1⟩] :=
    hnumber.derived _ (by rw [held_derive]; exact List.mem_cons_self)
  have hheld : 2 ∈ numbered.held := by
    rw [numbered, held_derive]
    exact List.mem_cons_self
  have hstep := Step.derived (.value "k" (.ofString "two")) hheld
  generalize hline : (numbered.derive 2 (.value "k" (.ofString "two"))).2 = forest at hstep ⊢
  have htext : Pedigree forest 3
      [.value "k" (.ofString "two"), .cancellable, .value "k" ⟨.i32, .integer 1⟩] :=
    hline ▸ hchild.derived _ hheld
  have hinnermost : Innermost
      [.value "k" (.ofString "two"), .cancellable, .value "k" ⟨.i32, .integer 1⟩] "k"
      (.ofString "two") := ⟨[], _, rfl, fun _ hnone => by cases hnone⟩
  obtain ⟨deeds, hhistory⟩ := htext.exists_history
  obtain ⟨-, hfound⟩ := hhistory.value?_innermost
  obtain ⟨hiff, -, -, hlasts⟩ := hfound 3 _ htext "k" .string
  obtain ⟨-, hother, -, -⟩ := hfound 3 _ htext "k" .i32
  have hvalue : forest.value? 3 "k" .string = some (.text "two") := (hiff _).2 hinnermost
  refine ⟨hvalue, hother _ hinnermost (fun heq => by cases heq), ?_⟩
  rw [hlasts _ (.single ⟨_, .cancelled (hstep.made hchild.made)⟩), hvalue]

end Contexts

end PollingAssertions
