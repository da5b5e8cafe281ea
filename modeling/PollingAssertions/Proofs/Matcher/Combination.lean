import PollingAssertions.Matcher.Combinator

/-!
# Consulting combined matchers

Matchers are combined by `negation`, `allOf` and `anyOf`, to any depth, and what stands at the
leaves of such a combination is foreign: it may keep a memory, fail to judge, or unwind. This
module says which leaves are consulted for a verdict, in which order, and what the verdict is.

The leaves are numbered from left to right. Given a reply of each leaf there is one result, by
three-valued logic: `allOf` takes the first reply that does not simply match, `anyOf` the first
that does not simply fail to match, and `negation` turns an answer around and keeps an error. (To
unwind is a fourth value, and decides like an error.) The verdict is that result, but only some of
the leaves are consulted for it: their numbers increase, what they say settles the result whatever
the other leaves would have said, and each of them, before it is consulted, could still decide the
result. So nothing is consulted that is not needed, and nothing twice.

As the result depends on the replies alone, two combinations with the same leaves and the same
result for all replies are the same matcher: they consult the same leaves in the same worlds. That
is how the laws of negation and of nesting are proved.

## Main definitions

* `Combination`, `Combination.judge` — combinations and the judges they stand for.
* `Combination.result` — the result of the replies of the leaves.
* `Combination.Consults` — leaves are consulted one after another.
* `Combination.Settles` — some replies settle a result, each of them being needed.
* `Combination.Takes` — the course of a verdict: the two together.

## Main results

* `Combination.exists_takes` — each verdict takes a course.
* `Combination.Takes.unique` — and only one.
* `Combination.verdict_sequential` — the course of each verdict, and the laws.
-/

namespace PollingAssertions

theorem Action.caught_injective {σ α : Type} {x y : Action σ α} {s : σ}
    (h : x.caught s = y.caught s) : x s = y s := by
  unfold caught at h
  cases hx : x s <;> cases hy : y s <;> rw [hx, hy] at h <;> cases h <;> rfl

/-- Judges that are combined, or what else stands at the leaves. -/
inductive Combination (β : Type) where
  | leaf (b : β)
  | negation (member : Combination β)
  | allOf (members : List (Combination β))
  | anyOf (members : List (Combination β))

namespace Combination

/-- What a leaf says when it is consulted, or what it unwinds with. -/
abbrev Reply := Except Payload (Except MatchError Bool)

namespace Reply

/-- The leaf has answered, and this is the answer. -/
def isAnswer (answer : Bool) : Reply → Bool
  | .ok (.ok given) => given == answer
  | _ => false

/-- The opposite answer; what is no answer stays as it is. -/
def opposite : Reply → Reply := Except.map (Except.map (!·))

/-- The first reply that does not give the expected answer, and that answer if there is none. -/
def firstOther (expected : Bool) (replies : List Reply) : Reply :=
  (replies.find? fun reply => !isAnswer expected reply).getD (.ok (.ok expected))

@[simp] theorem firstOther_nil (expected : Bool) : firstOther expected [] = .ok (.ok expected) :=
  rfl

theorem firstOther_cons (expected : Bool) (reply : Reply) (replies : List Reply) :
    firstOther expected (reply :: replies) =
      if isAnswer expected reply then firstOther expected replies else reply := by
  unfold firstOther
  rw [List.find?_cons]
  cases isAnswer expected reply <;> rfl

theorem isAnswer_iff {answer : Bool} {reply : Reply} :
    isAnswer answer reply = true ↔ reply = .ok (.ok answer) := by
  rcases reply with payload | e | given <;> simp [isAnswer]

@[simp] theorem opposite_opposite (reply : Reply) : opposite (opposite reply) = reply := by
  rcases reply with payload | e | given <;> simp [opposite, Except.map]

theorem isAnswer_opposite (answer : Bool) (reply : Reply) :
    isAnswer answer (opposite reply) = isAnswer (!answer) reply := by
  rcases reply with payload | e | given
  · rfl
  · rfl
  · cases answer <;> cases given <;> rfl

/-- The opposite of the first reply that is not what was expected. -/
theorem opposite_firstOther (expected : Bool) (replies : List Reply) :
    opposite (firstOther expected replies) = firstOther (!expected) (replies.map opposite) := by
  induction replies with
  | nil => rfl
  | cons reply replies ih =>
      rw [List.map_cons, firstOther_cons, firstOther_cons, isAnswer_opposite, Bool.not_not]
      split
      · exact ih
      · rfl

/-- Replies can be gone through in two parts. -/
theorem firstOther_append (expected : Bool) (replies others : List Reply) :
    firstOther expected (replies ++ others) =
      firstOther expected [firstOther expected replies, firstOther expected others] := by
  induction replies with
  | nil =>
      rw [List.nil_append, firstOther_nil, firstOther_cons, if_pos (isAnswer_iff.2 rfl),
        firstOther_cons]
      split
      · rename_i h
        rw [isAnswer_iff.1 h, firstOther_nil]
      · rfl
  | cons reply replies ih =>
      rw [List.cons_append, firstOther_cons, ih, firstOther_cons expected reply replies]
      split
      · rfl
      · rename_i h
        rw [firstOther_cons, if_neg h]

end Reply

variable {β : Type}

/-- What holds of the leaves, and of a combination if it holds of its members, holds. -/
@[elab_as_elim, induction_eliminator]
theorem induct {motive : Combination β → Prop} (leaf : ∀ b, motive (.leaf b))
    (negation : ∀ member, motive member → motive (.negation member))
    (allOf : ∀ members, (∀ member ∈ members, motive member) → motive (.allOf members))
    (anyOf : ∀ members, (∀ member ∈ members, motive member) → motive (.anyOf members)) :
    ∀ tree, motive tree
  | .leaf b => leaf b
  | .negation member => negation member (induct leaf negation allOf anyOf member)
  | .allOf members => allOf members fun member _ => induct leaf negation allOf anyOf member
  | .anyOf members => anyOf members fun member _ => induct leaf negation allOf anyOf member

/-! ## Leaves and results -/

mutual

/-- The leaves from left to right. -/
def leaves : Combination β → List β
  | .leaf b => [b]
  | .negation member => member.leaves
  | .allOf members => leavesOfAll members
  | .anyOf members => leavesOfAll members

/-- The leaves of some combinations from left to right. -/
def leavesOfAll : List (Combination β) → List β
  | [] => []
  | member :: members => member.leaves ++ leavesOfAll members

end

mutual

/-- The result of the replies of the leaves, which are numbered from `first` on. -/
def result (replies : Nat → Reply) (first : Nat) : Combination β → Reply
  | .leaf _ => replies first
  | .negation member => (result replies first member).opposite
  | .allOf members => Reply.firstOther true (results replies first members)
  | .anyOf members => Reply.firstOther false (results replies first members)

/-- The results of some combinations, which are numbered one after the other. -/
def results (replies : Nat → Reply) (first : Nat) : List (Combination β) → List Reply
  | [] => []
  | member :: members =>
      result replies first member :: results replies (first + member.leaves.length) members

end

section

variable {b : β} {i : Nat} {member : Combination β}

/-- The leaves of the first combination come first. -/
theorem leaf_of_first (members : List (Combination β)) (h : member.leaves[i]? = some b) :
    (leavesOfAll (member :: members))[i]? = some b := by
  rw [leavesOfAll, List.getElem?_append_left (List.getElem?_eq_some_iff.1 h).1]
  exact h

/-- The leaves of the other combinations follow. -/
theorem leaf_of_others (member : Combination β) {members : List (Combination β)}
    (h : (leavesOfAll members)[i]? = some b) :
    (leavesOfAll (member :: members))[member.leaves.length + i]? = some b := by
  rw [leavesOfAll, List.getElem?_append_right (Nat.le_add_right _ _), Nat.add_sub_cancel_left]
  exact h

end

theorem leavesOfAll_append (members others : List (Combination β)) :
    leavesOfAll (members ++ others) = leavesOfAll members ++ leavesOfAll others := by
  induction members with
  | nil => rfl
  | cons member members ih => simp [leavesOfAll, ih]

theorem leavesOfAll_negation (members : List (Combination β)) :
    leavesOfAll (members.map negation) = leavesOfAll members := by
  induction members with
  | nil => rfl
  | cons member members ih => simp [leavesOfAll, leaves, ih]

theorem results_append (replies : Nat → Reply) (first : Nat)
    (members others : List (Combination β)) :
    results replies first (members ++ others) = results replies first members ++
      results replies (first + (leavesOfAll members).length) others := by
  induction members generalizing first with
  | nil => rfl
  | cons member members ih => simp [results, leavesOfAll, ih, Nat.add_assoc]

theorem results_negation (replies : Nat → Reply) (first : Nat) (members : List (Combination β)) :
    results replies first (members.map negation) =
      (results replies first members).map Reply.opposite := by
  induction members generalizing first with
  | nil => rfl
  | cons member members ih => simp [results, result, leaves, ih]

/-! ## The judges -/

section

variable {σ α : Type} [ReasonLog σ] [Subject α]

mutual

/-- The judge that a combination of judges stands for. -/
def judge : Combination (Judge σ α) → Judge σ α
  | .leaf judge => judge
  | .negation member => member.judge.negation
  | .allOf members => Judge.allOf (judges members)
  | .anyOf members => Judge.anyOf (judges members)

/-- The judges that some combinations stand for. -/
def judges : List (Combination (Judge σ α)) → List (Judge σ α)
  | [] => []
  | member :: members => member.judge :: judges members

end

/-! ## Consulting the leaves -/

/-- Leaves are consulted about a subject, one after another, and say this. Nothing else happens in
between. -/
inductive Consults (leafAt : Nat → Option (Judge σ α)) (subject : α) :
    List (Nat × Reply) → σ → σ → Prop
  | done {s : σ} : Consults leafAt subject [] s s
  | next {number : Nat} {judge : Judge σ α} {reply : Reply} {said : List (Nat × Reply)}
      {s t u : σ} :
      leafAt number = some judge → (judge.verdict subject).caught s = .ok reply u →
      Consults leafAt subject said u t → Consults leafAt subject ((number, reply) :: said) s t

/-- These leaves reply so, among others. -/
def Agrees (replies : Nat → Reply) (said : List (Nat × Reply)) : Prop :=
  ∀ one ∈ said, replies one.1 = one.2

/-- What some leaves say settles a value of the replies of all leaves. The leaves stand in their
order, and each of them is needed: if it gave no answer, that would be the value, after what was
said before it and whatever the others would say. -/
structure Settles (value : (Nat → Reply) → Reply) (first last : Nat) (said : List (Nat × Reply))
    (reply : Reply) : Prop where
  ordered : said.Pairwise fun one other => one.1 < other.1
  within : ∀ one ∈ said, first ≤ one.1 ∧ one.1 < last
  settled : ∀ replies, Agrees replies said → value replies = reply
  needed : ∀ before one after, said = before ++ one :: after → ∀ replies, Agrees replies before →
    (∀ answer, replies one.1 ≠ .ok (.ok answer)) → value replies = replies one.1

omit [ReasonLog σ] [Subject α] in
theorem Consults.append {leafAt : Nat → Option (Judge σ α)} {subject : α}
    {said said' : List (Nat × Reply)} {s t u : σ} (h : Consults leafAt subject said s u)
    (h' : Consults leafAt subject said' u t) : Consults leafAt subject (said ++ said') s t := by
  induction h with
  | done => exact h'
  | next hleaf hsaid _ ih => exact .next hleaf hsaid (ih h')

end

theorem agrees_append {replies : Nat → Reply} {said said' : List (Nat × Reply)} :
    Agrees replies (said ++ said') ↔ Agrees replies said ∧ Agrees replies said' := by
  unfold Agrees
  rw [List.forall_mem_append]

namespace Settles

variable {value value' : (Nat → Reply) → Reply} {first middle last : Nat}
  {said said' : List (Nat × Reply)} {reply reply' : Reply} {expected : Bool}

theorem leaf (number : Nat) (reply : Reply) :
    Settles (fun replies => replies number) number (number + 1) [(number, reply)] reply where
  ordered := List.pairwise_singleton _ _
  within one hone := by
    rw [List.mem_singleton.1 hone]
    exact ⟨Nat.le_refl _, Nat.lt_succ_self _⟩
  settled replies hagrees := hagrees _ (List.mem_singleton_self _)
  needed before one after hsaid replies _ _ := by
    cases before with
    | nil =>
        cases hsaid
        rfl
    | cons _ before => simp at hsaid

theorem opposite (h : Settles value first last said reply) :
    Settles (fun replies => (value replies).opposite) first last said reply.opposite where
  ordered := h.ordered
  within := h.within
  settled replies hagrees := congrArg Reply.opposite (h.settled replies hagrees)
  needed before one after hsaid replies hagrees hno := by
    rw [h.needed before one after hsaid replies hagrees hno]
    -- what is no answer has no opposite
    rcases hreply : replies one.1 with payload | e | answer
    · rfl
    · rfl
    · exact absurd hreply (hno answer)

theorem nil (number : Nat) (reply : Reply) : Settles (fun _ => reply) number number [] reply where
  ordered := .nil
  within := by simp
  settled _ _ := rfl
  needed before one after hsaid := by simp at hsaid

/-- The first value is the expected answer, so the second one counts. -/
theorem next (h : Settles value first middle said (.ok (.ok expected)))
    (h' : Settles value' middle last said' reply) (hle : first ≤ middle ∧ middle ≤ last) :
    Settles (fun replies =>
        if (value replies).isAnswer expected then value' replies else value replies)
      first last (said ++ said') reply where
  ordered := by
    refine List.pairwise_append.2 ⟨h.ordered, h'.ordered, fun one hone other hother => ?_⟩
    exact Nat.lt_of_lt_of_le (h.within one hone).2 (h'.within other hother).1
  within one hone := by
    rcases List.mem_append.1 hone with hone | hone
    · exact ⟨(h.within one hone).1, Nat.lt_of_lt_of_le (h.within one hone).2 hle.2⟩
    · exact ⟨Nat.le_trans hle.1 (h'.within one hone).1, (h'.within one hone).2⟩
  settled replies hagrees := by
    obtain ⟨hfirst, hsecond⟩ := agrees_append.1 hagrees
    rw [h.settled replies hfirst, if_pos (Reply.isAnswer_iff.2 rfl)]
    exact h'.settled replies hsecond
  needed before one after hsaid replies hagrees hno := by
    rcases List.append_eq_append_iff.1 hsaid with ⟨rest, rfl, hrest⟩ | ⟨rest, hrest, hafter⟩
    · -- the first part is over, and what it said is the expected answer
      obtain ⟨hfirst, hsecond⟩ := agrees_append.1 hagrees
      rw [h.settled replies hfirst, if_pos (Reply.isAnswer_iff.2 rfl)]
      exact h'.needed rest one after hrest replies hsecond hno
    · cases rest with
      | nil =>
          rw [List.append_nil] at hrest
          subst hrest
          rw [h.settled replies hagrees, if_pos (Reply.isAnswer_iff.2 rfl)]
          exact h'.needed [] one after hafter.symm replies (by simp [Agrees]) hno
      | cons head rest =>
          cases hafter
          rw [h.needed before one rest hrest replies hagrees hno, if_neg]
          intro hanswer
          exact hno expected (Reply.isAnswer_iff.1 hanswer)

/-- The first value is not the expected answer, and counts. -/
theorem decided (h : Settles value first middle said reply)
    (hother : reply.isAnswer expected = false)
    (hle : middle ≤ last) :
    Settles (fun replies =>
        if (value replies).isAnswer expected then value' replies else value replies)
      first last said reply where
  ordered := h.ordered
  within one hone := ⟨(h.within one hone).1, Nat.lt_of_lt_of_le (h.within one hone).2 hle⟩
  settled replies hagrees := by
    rw [h.settled replies hagrees, hother]
    rfl
  needed before one after hsaid replies hagrees hno := by
    rw [h.needed before one after hsaid replies hagrees hno, if_neg]
    intro hanswer
    exact hno expected (Reply.isAnswer_iff.1 hanswer)

/-- What was said can be said, and so can anything by a leaf that has not been consulted. -/
theorem exists_agrees (h : said.Pairwise fun one other => one.1 < other.1) :
    ∃ replies, Agrees replies said := by
  induction said with
  | nil => exact ⟨fun _ => .ok (.ok true), by simp [Agrees]⟩
  | cons one said ih =>
      obtain ⟨hlt, hsaid⟩ := List.pairwise_cons.1 h
      obtain ⟨replies, hreplies⟩ := ih hsaid
      refine ⟨fun number => if number = one.1 then one.2 else replies number,
        fun other hother => ?_⟩
      rcases List.mem_cons.1 hother with rfl | hother
      · exact if_pos rfl
      · exact (if_neg (Nat.ne_of_gt (hlt other hother))).trans (hreplies other hother)

end Settles

theorem Agrees.set {replies : Nat → Reply} {said : List (Nat × Reply)} (h : Agrees replies said)
    {number : Nat} (hnew : ∀ one ∈ said, one.1 < number) (reply : Reply) :
    Agrees (fun other => if other = number then reply else replies other) said :=
  fun one hone => (if_neg (Nat.ne_of_lt (hnew one hone))).trans (h one hone)

namespace Settles

variable {value : (Nat → Reply) → Reply} {first last : Nat}
  {before after after' : List (Nat × Reply)}
  {one other : Nat × Reply} {reply reply' : Reply}

/-- Before a leaf is consulted, nothing is decided. -/
theorem undecided (h : Settles value first last (before ++ one :: after) reply) :
    ∃ replies replies', Agrees replies before ∧ Agrees replies' before ∧
      value replies ≠ value replies' := by
  obtain ⟨hordered, -, hlt⟩ := List.pairwise_append.1 h.ordered
  have hnew : ∀ earlier ∈ before, earlier.1 < one.1 := fun earlier hearlier =>
    hlt earlier hearlier one List.mem_cons_self
  obtain ⟨replies, hreplies⟩ := exists_agrees hordered
  have hvalue : ∀ e : MatchError,
      value (fun number => if number = one.1 then .ok (.error e) else replies number) =
        .ok (.error e) := by
    intro e
    have hset : (if one.1 = one.1 then .ok (.error e) else replies one.1 : Reply) =
        .ok (.error e) := if_pos rfl
    rw [h.needed before one after rfl _ (hreplies.set hnew _) fun answer => by rw [hset]; simp]
    exact hset
  refine ⟨_, _, hreplies.set hnew (.ok (.error ⟨"one"⟩)),
    hreplies.set hnew (.ok (.error ⟨"other"⟩)), ?_⟩
  rw [hvalue, hvalue]
  simp

/-- It is settled which leaf is consulted next. -/
theorem next_unique (h : Settles value first last (before ++ one :: after) reply)
    (h' : Settles value first last (before ++ other :: after') reply') : one.1 = other.1 := by
  obtain ⟨hordered, -, hlt⟩ := List.pairwise_append.1 h.ordered
  obtain ⟨-, -, hlt'⟩ := List.pairwise_append.1 h'.ordered
  obtain ⟨replies, hreplies⟩ := exists_agrees hordered
  have hone : ∀ earlier ∈ before, earlier.1 < one.1 := fun earlier hearlier =>
    hlt earlier hearlier one List.mem_cons_self
  have hother : ∀ earlier ∈ before, earlier.1 < other.1 := fun earlier hearlier =>
    hlt' earlier hearlier other List.mem_cons_self
  have hagrees :=
    (hreplies.set hone (.ok (.error ⟨"one"⟩))).set hother (.ok (.error ⟨"other"⟩))
  -- both leaves fail to judge, each with an error of its own, and each decides the value
  refine Classical.byContradiction fun hne => ?_
  have hvalue := h.needed before one after rfl _ hagrees fun answer => by simp [hne]
  rw [h'.needed before other after' rfl _ hagrees fun answer => by simp] at hvalue
  simp [hne] at hvalue

end Settles

/-! ## The course of a verdict -/

section

variable {σ α : Type} [ReasonLog σ] [Subject α] {leafAt : Nat → Option (Judge σ α)} {subject : α}
  {s t t' : σ} {said said' : List (Nat × Reply)} {reply reply' : Reply}

/-- The course of a verdict: these leaves are consulted, which settles this reply. -/
structure Takes (tree : Combination (Judge σ α)) (subject : α) (s : σ) (said : List (Nat × Reply))
    (reply : Reply) (t : σ) : Prop where
  comes : (tree.judge.verdict subject).caught s = .ok reply t
  consults : Consults (tree.leaves[·]?) subject said s t
  settles : Settles (fun replies => tree.result replies 0) 0 tree.leaves.length said reply

omit [ReasonLog σ] [Subject α] in
theorem caught_negation {judge : Judge σ α} (h : (judge.verdict subject).caught s = .ok reply t) :
    (judge.negation.verdict subject).caught s = .ok reply.opposite t := by
  cases hverdict : judge.verdict subject s with
  | ok answer u =>
      cases h.symm.trans (Action.caught_ok hverdict)
      exact Action.caught_ok (Action.bind_ok hverdict)
  | error payload u =>
      cases h.symm.trans (Action.caught_error hverdict)
      exact Action.caught_error (Action.bind_error hverdict)

omit [ReasonLog σ] [Subject α] in
/-- The others are consulted if the first judge gives the expected answer. -/
theorem caught_consultWhile (expected : Bool) {judge : Judge σ α} (others : List (Judge σ α))
    (h : (judge.verdict subject).caught s = .ok reply t) :
    (Judge.consultWhile expected subject (judge :: others)).caught s =
      if reply.isAnswer expected then (Judge.consultWhile expected subject others).caught t
      else .ok reply t := by
  cases hverdict : judge.verdict subject s with
  | error payload u =>
      cases h.symm.trans (Action.caught_error hverdict)
      exact Action.caught_error (Action.bind_error hverdict)
  | ok verdict u =>
      cases h.symm.trans (Action.caught_ok hverdict)
      have hconsulted : Judge.consultWhile expected subject (judge :: others) s = _ :=
        Action.bind_ok hverdict
      unfold Action.caught
      rw [hconsulted]
      cases verdict with
      | error e => rfl
      | ok given => cases expected <;> cases given <;> rfl

/-- The course of consulting some combinations, if each of them takes a course. -/
private theorem exists_settles_while (expected : Bool) (subject : α)
    (members : List (Combination (Judge σ α))) (first : Nat)
    (hleaves : ∀ i judge, (leavesOfAll members)[i]? = some judge → leafAt (first + i) = some judge)
    (hmembers : ∀ member ∈ members, ∀ first,
      (∀ i judge, member.leaves[i]? = some judge → leafAt (first + i) = some judge) → ∀ s,
      ∃ said reply t, (member.judge.verdict subject).caught s = .ok reply t ∧
        Consults leafAt subject said s t ∧ Settles (fun replies => member.result replies first)
          first (first + member.leaves.length) said reply) (s : σ) :
    ∃ said reply t,
      (Judge.consultWhile expected subject (judges members)).caught s = .ok reply t ∧
      Consults leafAt subject said s t ∧
      Settles (fun replies => Reply.firstOther expected (results replies first members)) first
        (first + (leavesOfAll members).length) said reply := by
  induction members generalizing first s with
  | nil => exact ⟨[], _, s, rfl, .done, .nil first _⟩
  | cons member members ih =>
      have hlength : first + (leavesOfAll (member :: members)).length =
          first + member.leaves.length + (leavesOfAll members).length := by
        simp [leavesOfAll, Nat.add_assoc]
      simp only [results, Reply.firstOther_cons, hlength]
      obtain ⟨said, reply, u, hcomes, hconsults, hsettles⟩ :=
        hmembers member List.mem_cons_self first
          (fun i judge hi => hleaves i judge (leaf_of_first members hi)) s
      cases hanswer : Reply.isAnswer expected reply with
      | false =>
          refine ⟨said, reply, u, ?_, hconsults, hsettles.decided hanswer (Nat.le_add_right _ _)⟩
          rw [judges, caught_consultWhile expected _ hcomes, hanswer]
          rfl
      | true =>
          obtain ⟨said', reply', t, hcomes', hconsults', hsettles'⟩ :=
            ih (first + member.leaves.length)
              (fun i judge hi => by
                rw [Nat.add_assoc]
                exact hleaves _ judge (leaf_of_others member hi))
              (fun other hother => hmembers other (List.mem_cons_of_mem _ hother)) u
          rw [Reply.isAnswer_iff.1 hanswer] at hsettles
          refine ⟨said ++ said', reply', t, ?_, hconsults.append hconsults',
            hsettles.next hsettles' ⟨Nat.le_add_right _ _, Nat.le_add_right _ _⟩⟩
          rw [judges, caught_consultWhile expected _ hcomes, hanswer]
          exact hcomes'

/-- Wherever the leaves of a combination stand among others, its verdict takes a course. -/
private theorem exists_settles (tree : Combination (Judge σ α)) (subject : α) : ∀ first,
    (∀ i judge, tree.leaves[i]? = some judge → leafAt (first + i) = some judge) → ∀ s,
    ∃ said reply t, (tree.judge.verdict subject).caught s = .ok reply t ∧
      Consults leafAt subject said s t ∧ Settles (fun replies => tree.result replies first)
        first (first + tree.leaves.length) said reply := by
  induction tree with
  | leaf judge =>
      intro first hleaves s
      obtain ⟨reply, t, hsaid⟩ : ∃ reply t, (judge.verdict subject).caught s = .ok reply t := by
        unfold Action.caught
        split
        · exact ⟨_, _, rfl⟩
        · exact ⟨_, _, rfl⟩
      exact ⟨[(first, reply)], reply, t, hsaid, .next (hleaves 0 judge rfl) hsaid .done,
        .leaf first reply⟩
  | negation member ih =>
      intro first hleaves s
      obtain ⟨said, reply, t, hcomes, hconsults, hsettles⟩ := ih first hleaves s
      exact ⟨said, Reply.opposite reply, t, caught_negation hcomes, hconsults, hsettles.opposite⟩
  | allOf members ih =>
      intro first hleaves s
      exact exists_settles_while true subject members first hleaves ih s
  | anyOf members ih =>
      intro first hleaves s
      exact exists_settles_while false subject members first hleaves ih s

/-- Each verdict takes a course. -/
theorem exists_takes (tree : Combination (Judge σ α)) (subject : α) (s : σ) :
    ∃ said reply t, tree.Takes subject s said reply t := by
  have hleaves : ∀ i judge, tree.leaves[i]? = some judge →
      (tree.leaves[·]?) (0 + i) = some judge := by
    intro i judge hi
    rwa [Nat.zero_add]
  obtain ⟨said, reply, t, hcomes, hconsults, hsettles⟩ := exists_settles tree subject 0 hleaves s
  rw [Nat.zero_add] at hsettles
  exact ⟨said, reply, t, hcomes, hconsults, hsettles⟩

omit [ReasonLog σ] [Subject α] in
private theorem Consults.unique {value : (Nat → Reply) → Reply} {first last : Nat}
    (before : List (Nat × Reply)) (h : Consults leafAt subject said s t)
    (h' : Consults leafAt subject said' s t')
    (hsettles : Settles value first last (before ++ said) reply)
    (hsettles' : Settles value first last (before ++ said') reply') : said = said' ∧ t = t' := by
  induction h generalizing before said' with
  | done =>
      cases h' with
      | done => exact ⟨rfl, rfl⟩
      | next _ _ _ =>
          obtain ⟨replies, replies', hagrees, hagrees', hne⟩ := hsettles'.undecided
          rw [List.append_nil] at hsettles
          rw [hsettles.settled _ hagrees, hsettles.settled _ hagrees'] at hne
          exact absurd rfl hne
  | next hleaf hsaid _ ih =>
      cases h' with
      | done =>
          obtain ⟨replies, replies', hagrees, hagrees', hne⟩ := hsettles.undecided
          rw [List.append_nil] at hsettles'
          rw [hsettles'.settled _ hagrees, hsettles'.settled _ hagrees'] at hne
          exact absurd rfl hne
      | next hleaf' hsaid' hrest =>
          -- the same leaf is consulted in the same world
          cases hsettles.next_unique hsettles'
          cases hleaf.symm.trans hleaf'
          cases hsaid.symm.trans hsaid'
          rw [List.append_cons] at hsettles hsettles'
          obtain ⟨rfl, rfl⟩ := ih _ hrest hsettles hsettles'
          exact ⟨rfl, rfl⟩

/-- Combinations with the same leaves and the same result of all replies take the same courses. -/
theorem Takes.unique_of_result {tree other : Combination (Judge σ α)}
    (hleaves : tree.leaves = other.leaves)
    (hresult : ∀ replies, tree.result replies 0 = other.result replies 0)
    (h : tree.Takes subject s said reply t) (h' : other.Takes subject s said' reply' t') :
    said = said' ∧ reply = reply' ∧ t = t' := by
  have hconsults := h'.consults
  have hsettles := h'.settles
  rw [← hleaves] at hconsults hsettles
  simp only [← hresult] at hsettles
  obtain ⟨rfl, rfl⟩ := h.consults.unique [] hconsults h.settles hsettles
  obtain ⟨replies, hagrees⟩ := Settles.exists_agrees h.settles.ordered
  exact ⟨rfl, (h.settles.settled _ hagrees).symm.trans (hsettles.settled _ hagrees), rfl⟩

/-- A verdict takes one course only. -/
theorem Takes.unique {tree : Combination (Judge σ α)} (h : tree.Takes subject s said reply t)
    (h' : tree.Takes subject s said' reply' t') : said = said' ∧ reply = reply' ∧ t = t' :=
  h.unique_of_result rfl (fun _ => rfl) h'

/-! ## Laws -/

/-- Two combinations give the same verdicts, by the same consultations and with the same changes
of the world. -/
structure SameVerdict (tree other : Combination (Judge σ α)) : Prop where
  verdict : tree.judge.verdict = other.judge.verdict
  takes : ∀ subject s said reply t,
    tree.Takes subject s said reply t ↔ other.Takes subject s said reply t

/-- It is enough that the leaves are the same and that their replies have the same result. -/
theorem sameVerdict_of_result {tree other : Combination (Judge σ α)}
    (hleaves : tree.leaves = other.leaves)
    (hresult : ∀ replies, tree.result replies 0 = other.result replies 0) :
    tree.SameVerdict other := by
  have hsame : ∀ subject s said reply t said' reply' t',
      tree.Takes subject s said reply t → other.Takes subject s said' reply' t' →
      said = said' ∧ reply = reply' ∧ t = t' :=
    fun _ _ _ _ _ _ _ _ h h' => h.unique_of_result hleaves hresult h'
  refine ⟨funext fun subject => funext fun s => ?_, fun subject s said reply t => ⟨?_, ?_⟩⟩
  · obtain ⟨said, reply, t, htree⟩ := exists_takes tree subject s
    obtain ⟨said', reply', t', hother⟩ := exists_takes other subject s
    obtain ⟨rfl, rfl, rfl⟩ := hsame _ _ _ _ _ _ _ _ htree hother
    exact Action.caught_injective (htree.comes.trans hother.comes.symm)
  · intro htree
    obtain ⟨said', reply', t', hother⟩ := exists_takes other subject s
    obtain ⟨rfl, rfl, rfl⟩ := hsame _ _ _ _ _ _ _ _ htree hother
    exact hother
  · intro hother
    obtain ⟨said', reply', t', htree⟩ := exists_takes tree subject s
    obtain ⟨rfl, rfl, rfl⟩ := hsame _ _ _ _ _ _ _ _ htree hother
    exact htree

theorem negation_allOf (members : List (Combination (Judge σ α))) :
    (negation (.allOf members)).SameVerdict (.anyOf (members.map negation)) := by
  refine sameVerdict_of_result (leavesOfAll_negation members).symm fun replies => ?_
  show Reply.opposite (Reply.firstOther true (results replies 0 members)) =
    Reply.firstOther false (results replies 0 (members.map negation))
  rw [Reply.opposite_firstOther, results_negation]
  rfl

theorem negation_anyOf (members : List (Combination (Judge σ α))) :
    (negation (.anyOf members)).SameVerdict (.allOf (members.map negation)) := by
  refine sameVerdict_of_result (leavesOfAll_negation members).symm fun replies => ?_
  show Reply.opposite (Reply.firstOther false (results replies 0 members)) =
    Reply.firstOther true (results replies 0 (members.map negation))
  rw [Reply.opposite_firstOther, results_negation]
  rfl

theorem negation_negation (member : Combination (Judge σ α)) :
    (negation (.negation member)).SameVerdict member :=
  sameVerdict_of_result rfl fun replies => Reply.opposite_opposite (member.result replies 0)

theorem allOf_append (members others : List (Combination (Judge σ α))) :
    (allOf (members ++ others)).SameVerdict (.allOf [.allOf members, .allOf others]) := by
  refine sameVerdict_of_result ?_ fun replies => ?_
  · show leavesOfAll (members ++ others) = leavesOfAll members ++ (leavesOfAll others ++ [])
    rw [leavesOfAll_append, List.append_nil]
  · show Reply.firstOther true (results replies 0 (members ++ others)) =
      Reply.firstOther true [Reply.firstOther true (results replies 0 members),
        Reply.firstOther true (results replies (0 + (leavesOfAll members).length) others)]
    rw [results_append, Reply.firstOther_append]

/-- For each verdict the leaves are consulted in one way. That is from left to right, and while
nothing is decided; the verdict is the result of what they say. Negation may be moved from a
combination to its members, two negations are none, and a part of `allOf` may be an `allOf` of its
own; the same leaves are then consulted, with the same changes of the world. -/
theorem verdict_sequential :
    (∀ (tree : Combination (Judge σ α)) (subject : α) (s : σ),
      ∃ said reply t, tree.Takes subject s said reply t ∧
        (∀ said' reply' t', tree.Takes subject s said' reply' t' →
          said' = said ∧ reply' = reply ∧ t' = t) ∧
        (said.map (·.1)).Pairwise (· < ·) ∧
        (∀ replies, Agrees replies said → tree.result replies 0 = reply) ∧
        ∀ before one after, said = before ++ one :: after → ∃ replies replies',
          Agrees replies before ∧ Agrees replies' before ∧
            tree.result replies 0 ≠ tree.result replies' 0) ∧
      (∀ members : List (Combination (Judge σ α)),
        (negation (.allOf members)).SameVerdict (.anyOf (members.map negation))) ∧
      (∀ members : List (Combination (Judge σ α)),
        (negation (.anyOf members)).SameVerdict (.allOf (members.map negation))) ∧
      (∀ member : Combination (Judge σ α), (negation (.negation member)).SameVerdict member) ∧
      ∀ members others : List (Combination (Judge σ α)),
        (allOf (members ++ others)).SameVerdict (.allOf [.allOf members, .allOf others]) := by
  refine ⟨fun tree subject s => ?_, negation_allOf, negation_anyOf, negation_negation, allOf_append⟩
  obtain ⟨said, reply, t, htakes⟩ := exists_takes tree subject s
  refine ⟨said, reply, t, htakes, fun said' reply' t' h => h.unique htakes,
    List.pairwise_map.2 htakes.settles.ordered, htakes.settles.settled, ?_⟩
  rintro before one after rfl
  exact htakes.settles.undecided

end

end Combination

end PollingAssertions
