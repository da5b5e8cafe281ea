import PollingAssertions.Proofs.Matcher.Combination
import PollingAssertions.Proofs.Matcher.Showing
import PollingAssertions.Proofs.Polling.Expecting
import PollingAssertions.Proofs.Polling.Hinting

/-!
# How many messages an attempt takes

A matcher that waits at a channel takes a message whenever it is asked for its verdict, and only
then. An attempt asks for one verdict, but it also asks for a text, even if it passes, and then
perhaps for a hint; and to answer these, `allOf` and `anyOf` ask their members for verdicts once
more. So one attempt may take several messages.

How many it may take is counted here, question by question, along the combination in which the
matcher stands (`Budget`). The count is a bound for every content of the channel and whatever
stands beside the matcher, as long as that leaves the channel alone. No fixed bound holds for all
combinations: each `allOf` around a matcher that does not match costs another message for the text
and yet another one for the hint.

## Main definitions

* `Drains`, `Action.TakesAtMost` — so many messages were taken, and nothing else was done.
* `Budget` — how many messages the four questions may take.
* `Judge.Within`, `Judge.Spares` — a judge keeps to a budget, or takes nothing.
* `Combination.budget` — the budget of a combination in which one leaf takes messages.

## Main results

* `Combination.within_budget` — a combination keeps to its budget.
* `Assertion.attempt_drains` — how many messages an attempt takes.
* `Assertion.attempt_nested` — attempts that take as many as they may, and more than any number.
-/

namespace PollingAssertions

open HasChannels

/-! ## Taking messages -/

section

variable {σ : Type} [HasChannels σ] {number limit limit' : Nat} {s t u : σ}

/-- From one world to another, at most so many messages have been taken out of a channel, and
none has been added. -/
def Drains (number limit : Nat) (s t : σ) : Prop :=
  ∃ taken, (channelIn number s).queue = taken ++ (channelIn number t).queue ∧ taken.length ≤ limit

namespace Drains

theorem of_queue_eq (h : (channelIn number t).queue = (channelIn number s).queue) :
    Drains number limit s t :=
  ⟨[], h.symm, Nat.zero_le _⟩

theorem mono (h : Drains number limit s t) (hle : limit ≤ limit') : Drains number limit' s t := by
  obtain ⟨taken, hqueue, hlength⟩ := h
  exact ⟨taken, hqueue, Nat.le_trans hlength hle⟩

theorem trans (h : Drains number limit s t) (h' : Drains number limit' t u) :
    Drains number (limit + limit') s u := by
  obtain ⟨taken, hqueue, hlength⟩ := h
  obtain ⟨taken', hqueue', hlength'⟩ := h'
  refine ⟨taken ++ taken', by rw [hqueue, hqueue', List.append_assoc], ?_⟩
  rw [List.length_append]
  exact Nat.add_le_add hlength hlength'

end Drains

/-- Whatever comes of an action, it takes at most so many messages out of a channel. -/
def Action.TakesAtMost {α : Type} (number limit : Nat) (x : Action σ α) : Prop :=
  ∀ s, Drains number limit s (x.after s)

namespace Action.TakesAtMost

variable {α β : Type} {x : Action σ α} {f : α → Action σ β}

theorem pure (a : α) : (Pure.pure a : Action σ α).TakesAtMost number limit :=
  fun _ => .of_queue_eq rfl

theorem mono (h : x.TakesAtMost number limit) (hle : limit ≤ limit') :
    x.TakesAtMost number limit' :=
  fun s => (h s).mono hle

theorem bind (hx : x.TakesAtMost number limit)
    (hf : ∀ a s t, x s = .ok a t → (f a).TakesAtMost number limit') :
    (x >>= f).TakesAtMost number (limit + limit') := by
  intro s
  have hfirst := hx s
  cases hstep : x s with
  | ok a t =>
      rw [Action.after_ok hstep] at hfirst
      rw [Action.after_bind hstep]
      exact hfirst.trans (hf a s t hstep t)
  | error payload t =>
      rw [Action.after_error hstep] at hfirst
      rw [Action.after_error (Action.bind_error hstep)]
      exact hfirst.mono (Nat.le_add_right _ _)

/-- What follows takes nothing. -/
theorem before (hx : x.TakesAtMost number limit) (hf : ∀ a, (f a).TakesAtMost number 0) :
    (x >>= f).TakesAtMost number limit :=
  hx.bind fun a _ _ _ => hf a

end Action.TakesAtMost

end

/-! ## Budgets -/

/-- How many messages each of the four questions may take. -/
structure Budget where
  verdict : Nat
  failureText : Nat
  negatedText : Nat
  hint : Nat
deriving DecidableEq, Repr

namespace Budget

/-- Nothing is taken. -/
def nothing : Budget := ⟨0, 0, 0, 0⟩

/-- Each verdict may take a message. -/
def byVerdict : Budget := ⟨1, 0, 0, 0⟩

/-- The budget of two that are asked one after the other. -/
def plus (b c : Budget) : Budget :=
  ⟨b.verdict + c.verdict, b.failureText + c.failureText, b.negatedText + c.negatedText,
    b.hint + c.hint⟩

/-- The budget of a negation. -/
def negation (b : Budget) : Budget := ⟨b.verdict, b.negatedText, b.failureText, 0⟩

/-- The budget of an `allOf`: for its failure text and its hint, verdicts are asked for again. -/
def allOf (b : Budget) : Budget :=
  ⟨b.verdict, b.verdict + b.failureText, 0, b.verdict + b.hint⟩

/-- The budget of an `anyOf`: for its text against a match, verdicts are asked for again. -/
def anyOf (b : Budget) : Budget := ⟨b.verdict, b.failureText, b.verdict + b.negatedText, 0⟩

/-- The budget of what an attempt asks after the verdict: for a text, and perhaps for a hint. -/
def afterwards (b : Budget) (positive hinting : Bool) : Nat :=
  (if positive then b.failureText else b.negatedText) + (if hinting then b.hint else 0)

end Budget

/-! ## Judges that keep to a budget -/

section

variable {σ : Type} [HasChannels σ] {number place : Nat} {subject : Datum} {b c : Budget}
  {judge : Judge σ Datum} {judges : List (Judge σ Datum)}

namespace Judge

/-- A judge that is asked about a subject takes no more messages than its budget allows. -/
structure Within (number : Nat) (subject : Datum) (b : Budget) (judge : Judge σ Datum) : Prop where
  verdict : (judge.verdict subject).TakesAtMost number b.verdict
  failureText : (judge.failureText subject).TakesAtMost number b.failureText
  negatedText : (judge.negatedText subject).TakesAtMost number b.negatedText
  hint : (judge.hint subject).TakesAtMost number b.hint

/-- A judge that is asked about a subject leaves a channel alone. -/
def Spares (number : Nat) (subject : Datum) (judge : Judge σ Datum) : Prop :=
  judge.Within number subject .nothing

theorem Within.plus_left (h : judge.Within number subject b) (c : Budget) :
    judge.Within number subject (b.plus c) where
  verdict := h.verdict.mono (Nat.le_add_right _ _)
  failureText := h.failureText.mono (Nat.le_add_right _ _)
  negatedText := h.negatedText.mono (Nat.le_add_right _ _)
  hint := h.hint.mono (Nat.le_add_right _ _)

theorem Within.plus_right (h : judge.Within number subject c) (b : Budget) :
    judge.Within number subject (b.plus c) where
  verdict := h.verdict.mono (Nat.le_add_left _ _)
  failureText := h.failureText.mono (Nat.le_add_left _ _)
  negatedText := h.negatedText.mono (Nat.le_add_left _ _)
  hint := h.hint.mono (Nat.le_add_left _ _)

theorem Within.textFor (h : judge.Within number subject b) (positive : Bool) :
    (judge.textFor positive subject).TakesAtMost number
      (if positive then b.failureText else b.negatedText) := by
  cases positive with
  | true => exact h.failureText
  | false => exact h.negatedText

theorem Within.negation (h : judge.Within number subject b) :
    judge.negation.Within number subject b.negation where
  verdict := h.verdict.before fun _ => .pure _
  failureText := h.negatedText
  negatedText := h.failureText
  hint := .pure _

/-- Some judges keep to a budget between them. -/
inductive Share (number : Nat) (subject : Datum) : List (Judge σ Datum) → Budget → Prop
  | nil : Share number subject [] .nothing
  | cons {judge : Judge σ Datum} {judges : List (Judge σ Datum)} {b c : Budget} :
      judge.Within number subject b → Share number subject judges c →
      Share number subject (judge :: judges) (b.plus c)

namespace Share

/-- Each of them keeps to the budget on its own. -/
theorem within (h : Share number subject judges b) (hmem : judge ∈ judges) :
    judge.Within number subject b := by
  induction h with
  | nil => cases hmem
  | cons hfirst _ ih =>
      rcases List.mem_cons.1 hmem with rfl | hmem
      · exact hfirst.plus_left _
      · exact (ih hmem).plus_right _

theorem consultWhile (h : Share number subject judges b) (expected : Bool) :
    (Judge.consultWhile expected subject judges).TakesAtMost number b.verdict := by
  induction h with
  | nil => exact .pure _
  | cons hfirst _ ih =>
      refine hfirst.verdict.bind fun answer _ _ _ => ?_
      cases answer with
      | error e => exact .pure _
      | ok verdict =>
          by_cases hexpected : verdict = expected
          · simp only [hexpected, if_true]
            exact ih
          · simp only [hexpected, if_false]
            exact .pure _

theorem firstWith (h : Share number subject judges b) (wanted : Except MatchError Bool → Bool) :
    (Judge.firstWith wanted subject judges).TakesAtMost number b.verdict := by
  induction h with
  | nil => exact .pure _
  | cons hfirst _ ih =>
      refine hfirst.verdict.bind fun answer _ _ _ => ?_
      split
      · exact .pure _
      · exact ih

theorem failureTexts (h : Share number subject judges b) :
    (Judge.failureTexts subject judges).TakesAtMost number b.failureText := by
  induction h with
  | nil => exact .pure _
  | cons hfirst _ ih =>
      exact hfirst.failureText.bind fun _ _ _ _ => ih.before fun _ => .pure _

/-- A question that is passed on to the one that is found, which costs the verdicts before. -/
theorem passed_on {α : Type} {wanted : Except MatchError Bool → Bool} {limit : Nat}
    {question : Option (Judge σ Datum) → Action σ α} (h : Share number subject judges b)
    (hfound : ∀ judge ∈ judges, (question (some judge)).TakesAtMost number limit)
    (hnone : (question none).TakesAtMost number 0) :
    (Judge.firstWith wanted subject judges >>= question).TakesAtMost number
      (b.verdict + limit) := by
  refine (h.firstWith wanted).bind fun found? s t hstep => ?_
  cases found? with
  | none => exact hnone.mono (Nat.zero_le _)
  | some judge => exact hfound judge (mem_of_firstWith hstep)

end Share

end Judge

variable [ReasonLog σ] [HasReasons σ] [ReasonsApart σ]

theorem ReasonLog.channelIn_ask (number : Nat) (asked : List String) (s : σ) :
    channelIn number ((ReasonLog.ask asked : Action σ Unit).after s) = channelIn number s := by
  show channelIn number (asked.foldl (fun s reason => ReasonLog.workedOut reason s) s) = _
  induction asked generalizing s with
  | nil => rfl
  | cons reason asked ih =>
      rw [List.foldl_cons, ih]
      unfold channelIn
      rw [ReasonsApart.channels_workedOut]

theorem ReasonLog.ask_takes (asked : List String) :
    (ReasonLog.ask asked : Action σ Unit).TakesAtMost number 0 :=
  fun s => .of_queue_eq (congrArg Channel.queue (channelIn_ask number asked s))

theorem expectationOf_takes (subject : Datum) (relation : String) :
    (expectationOf subject relation : Action σ String).TakesAtMost number 0 :=
  (ReasonLog.ask_takes _).before fun _ => .pure _

namespace Judge

namespace Share

theorem allOf (h : Share number subject judges b) :
    (Judge.allOf judges).Within number subject b.allOf where
  verdict := h.consultWhile true
  failureText := h.passed_on (fun _ hmem => (h.within hmem).failureText) (expectationOf_takes _ _)
  negatedText := expectationOf_takes _ _
  hint := h.passed_on (fun _ hmem => (h.within hmem).hint) (.pure _)

theorem anyOf (h : Share number subject judges b) :
    (Judge.anyOf judges).Within number subject b.anyOf where
  verdict := h.consultWhile false
  failureText := h.failureTexts.before fun _ => (expectationOf_takes _ _).before fun _ => .pure _
  negatedText := h.passed_on (fun _ hmem => (h.within hmem).negatedText) (expectationOf_takes _ _)
  hint := .pure _

end Share

/-- A judge that looks at its subject only leaves all channels alone. -/
theorem spares_ofSubject (holds : Datum → Bool) (words negatedWords : String) :
    (ofSubject holds words negatedWords : Judge σ Datum).Spares number subject where
  verdict := .pure _
  failureText := expectationOf_takes _ _
  negatedText := expectationOf_takes _ _
  hint := .pure _

/-! ### At the channel -/

omit [ReasonLog σ] [HasReasons σ] [ReasonsApart σ] in
theorem take_of_receiver (type : Ty) (number : Nat) (s : σ) :
    ∃ t, take ⟨type, .receiver number⟩ s = .ok (channelIn number s).tryReceive.1 t ∧
      channelIn number t = (channelIn number s).tryReceive.2 := by
  obtain ⟨sent, hsent⟩ : ∃ sent : σ → List Value,
      ∀ channels s, sent (HasChannels.part.set channels s) = sent s := ⟨fun _ => [], fun _ _ => rfl⟩
  obtain ⟨t, htake, hchannel, -⟩ := take_receiver type number 0 hsent s
  exact ⟨t, htake, hchannel⟩

omit [ReasonLog σ] [HasReasons σ] [ReasonsApart σ] in
theorem take_takes (type : Ty) (number : Nat) :
    (take ⟨type, .receiver number⟩ : Action σ Received).TakesAtMost number 1 := by
  intro s
  obtain ⟨t, htake, hchannel⟩ := take_of_receiver type number s
  rw [Action.after_ok htake]
  cases hqueue : (channelIn number s).queue with
  | nil =>
      refine .of_queue_eq ?_
      rw [hchannel]
      unfold Channel.tryReceive
      rw [hqueue]
      exact hqueue
  | cons message queue =>
      refine ⟨[message], ?_, Nat.le_refl 1⟩
      rw [hchannel]
      unfold Channel.tryReceive
      rw [hqueue]
      rfl

omit [ReasonLog σ] [HasReasons σ] [ReasonsApart σ] in
theorem rememberClosed_takes (observer : Nat) :
    (rememberClosed observer : Action σ Unit).TakesAtMost number 0 := by
  intro s
  refine .of_queue_eq (congrArg Channel.queue ?_)
  show (HasChannels.part.get (HasChannels.part.update (Channels.noteClosed observer) s)).channel
    number = _
  rw [Part.get_update, Channels.channel_noteClosed]
  rfl

theorem receivesText_takes (observer : Nat) :
    (receivesText observer subject : Action σ String).TakesAtMost number 0 := by
  refine (expectationOf_takes _ _).before fun text => ?_
  have hseen : (hasSeenClosed observer : Action σ Bool).TakesAtMost number 0 :=
    fun s => .of_queue_eq rfl
  refine hseen.before fun saw => ?_
  split
  · exact .pure _
  · exact .pure _

theorem within_receives (type : Ty) (number observer : Nat) :
    (receives observer : Judge σ Datum).Within number ⟨type, .receiver number⟩ .byVerdict where
  verdict := by
    refine (take_takes type number).before fun received => ?_
    cases received with
    | message v => exact .pure _
    | empty => exact .pure _
    | disconnected => exact (rememberClosed_takes observer).before fun _ => .pure _
  failureText := receivesText_takes observer
  negatedText := expectationOf_takes _ _
  hint := by
    have hseen : (hasSeenClosed observer : Action σ Bool).TakesAtMost number 0 :=
      fun s => .of_queue_eq rfl
    refine hseen.before fun saw => ?_
    split
    · exact (receivesText_takes observer).before fun _ => .pure _
    · exact .pure _

theorem within_closed (type : Ty) (number : Nat) :
    (closed : Judge σ Datum).Within number ⟨type, .receiver number⟩ .byVerdict where
  verdict := by
    refine (take_takes type number).before fun received => ?_
    cases received with
    | message v => exact (ReasonLog.ask_takes _).before fun _ => .pure _
    | empty => exact .pure _
    | disconnected => exact .pure _
  failureText := expectationOf_takes _ _
  negatedText := expectationOf_takes _ _
  hint := .pure _

/-! ### In an attempt -/

omit [ReasonLog σ] [HasReasons σ] [ReasonsApart σ] in
/-- To judge a subject takes what the verdict takes, and what is taken afterwards. -/
theorem Within.evaluate (h : judge.Within number subject b) (positive hinting : Bool)
    (stop? : Option StopSignal) :
    (judge.evaluate positive hinting stop? subject).TakesAtMost number
      (b.verdict + b.afterwards positive hinting) := by
  rw [evaluate_eq]
  have hassess : (judge.assess positive subject).TakesAtMost number
      (b.verdict + if positive then b.failureText else b.negatedText) := by
    refine h.verdict.bind fun answer _ _ _ => ?_
    cases answer with
    | error e => exact .pure _
    | ok verdict => exact (h.textFor positive).before fun _ => .pure _
  have hexplain : ∀ said, (judge.explain hinting stop? subject said).TakesAtMost number
      (if hinting then b.hint else 0) := by
    intro said
    unfold explain
    by_cases hasked : (hinting && !said.1) = true
    · rw [if_pos hasked, if_pos (Bool.and_eq_true_iff.1 hasked).1]
      exact h.hint.before fun _ => .pure _
    · rw [if_neg hasked]
      exact .pure _
  unfold Budget.afterwards
  rw [← Nat.add_assoc]
  exact hassess.bind fun said _ _ _ => hexplain said

end Judge

end

/-! ## Combinations with one leaf that takes messages -/

namespace Combination

section

variable {β : Type}

mutual

/-- The budget of a combination with its leaves numbered from `first` on. The leaf of one number
takes messages. -/
def budget (place first : Nat) : Combination β → Budget
  | .leaf _ => if first = place then .byVerdict else .nothing
  | .negation member => (budget place first member).negation
  | .allOf members => (budgetOfAll place first members).allOf
  | .anyOf members => (budgetOfAll place first members).anyOf

/-- The budget of some combinations between them. -/
def budgetOfAll (place first : Nat) : List (Combination β) → Budget
  | [] => .nothing
  | member :: members =>
      (budget place first member).plus (budgetOfAll place (first + member.leaves.length) members)

end

private theorem verdict_budgetOfAll (place : Nat) (members : List (Combination β)) (first : Nat)
    (h : ∀ member ∈ members, ∀ first, (member.budget place first).verdict =
      if first ≤ place ∧ place < first + member.leaves.length then 1 else 0) :
    (budgetOfAll place first members).verdict =
      if first ≤ place ∧ place < first + (leavesOfAll members).length then 1 else 0 := by
  induction members generalizing first with
  | nil =>
      rw [leavesOfAll, List.length_nil, if_neg (by omega)]
      rfl
  | cons member members ih =>
      have hmembers := ih (first + member.leaves.length) fun other hother =>
        h other (List.mem_cons_of_mem _ hother)
      have hmember := h member List.mem_cons_self first
      simp only [budgetOfAll, Budget.plus, leavesOfAll, List.length_append, hmember, hmembers]
      split <;> split <;> split <;> omega

/-- A verdict takes one message at most, as the leaf is consulted once at most. -/
theorem verdict_budget (place : Nat) (tree : Combination β) (first : Nat) :
    (tree.budget place first).verdict =
      if first ≤ place ∧ place < first + tree.leaves.length then 1 else 0 := by
  induction tree generalizing first with
  | leaf b =>
      have hiff : (first ≤ place ∧ place < first + (leaf b).leaves.length) ↔ first = place := by
        simp only [leaves, List.length_singleton]
        omega
      rw [budget]
      by_cases hplace : first = place
      · rw [if_pos hplace, if_pos (hiff.2 hplace)]
        rfl
      · rw [if_neg hplace, if_neg fun h => hplace (hiff.1 h)]
        rfl
  | negation member ih => exact ih first
  | allOf members ih => exact verdict_budgetOfAll place members first ih
  | anyOf members ih => exact verdict_budgetOfAll place members first ih

end

section

variable {σ : Type} [HasChannels σ] [ReasonLog σ] [HasReasons σ] [ReasonsApart σ] {number : Nat}
  {subject : Datum}

omit [HasReasons σ] [ReasonsApart σ] in
/-- Combinations that keep to their budgets share the budget of all. -/
private theorem share_budgetOfAll (place : Nat) (members : List (Combination (Judge σ Datum)))
    (first : Nat)
    (hleaves : ∀ i (judge : Judge σ Datum), (leavesOfAll members)[i]? = some judge →
      judge.Within number subject (if first + i = place then .byVerdict else .nothing))
    (hmembers : ∀ member ∈ members, ∀ first,
      (∀ i (judge : Judge σ Datum), member.leaves[i]? = some judge → judge.Within number subject
        (if first + i = place then .byVerdict else .nothing)) →
      member.judge.Within number subject (member.budget place first)) :
    Judge.Share number subject (judges members) (budgetOfAll place first members) := by
  induction members generalizing first with
  | nil => exact .nil
  | cons member members ih =>
      rw [judges, budgetOfAll]
      have hmember := hmembers member List.mem_cons_self first fun i judge hi =>
        hleaves i judge (leaf_of_first members hi)
      refine .cons hmember (ih (first + member.leaves.length) (fun i judge hi => ?_)
        fun other hother => hmembers other (List.mem_cons_of_mem _ hother))
      rw [Nat.add_assoc]
      exact hleaves _ judge (leaf_of_others member hi)

/-- If one leaf takes a message for each verdict at most, and all others take nothing, then the
combination keeps to its budget. -/
theorem within_budget (place : Nat) (tree : Combination (Judge σ Datum)) (first : Nat)
    (hleaves : ∀ i (judge : Judge σ Datum), tree.leaves[i]? = some judge →
      judge.Within number subject (if first + i = place then .byVerdict else .nothing)) :
    tree.judge.Within number subject (tree.budget place first) := by
  induction tree generalizing first with
  | leaf judge => exact hleaves 0 judge rfl
  | negation member ih => exact (ih first hleaves).negation
  | allOf members ih => exact (share_budgetOfAll place members first hleaves ih).allOf
  | anyOf members ih => exact (share_budgetOfAll place members first hleaves ih).anyOf

end

end Combination

/-! ## Attempts -/

section

variable {σ : Type} [HasChannels σ] [ReasonLog σ] [HasReasons σ] [ReasonsApart σ] {number : Nat}

/-- An attempt that is judged by its value takes what the judge may take. -/
theorem Invocation.evaluateValue_takes {judge : Judge σ Datum} {b : Budget}
    {invocation : Invocation} (positive hinting : Bool)
    (hvalue : ∀ value, invocation.value? = some value → judge.Within number value b) :
    (invocation.evaluateValue judge positive hinting).TakesAtMost number
      (b.verdict + b.afterwards positive hinting) := by
  cases invocation with
  | interrupted stop => exact .pure _
  | aborted failure? => cases failure? <;> exact .pure _
  | returned value extras failure? stop? =>
      cases failure? with
      | some failure => exact .pure _
      | none =>
          cases hextra : unexpectedExtra? 0 extras with
          | some found =>
              simp only [evaluateValue, hextra]
              exact ((ReasonLog.ask_takes _).before fun _ => .pure _).mono (Nat.zero_le _)
          | none =>
              simp only [evaluateValue, hextra]
              exact ((hvalue value rfl).evaluate positive hinting stop?).before fun _ => .pure _

variable [HasCheckers σ] {assertion : Assertion σ} {tree : Combination (Judge σ Datum)}
  {place observer : Nat} {type : Ty} {invocation : Invocation} {v u : σ}

/-- In a combination there is one leaf that takes messages from a channel. After the probe of an
attempt has produced the receiver of that channel, the attempt takes one message at most for the
verdict, and what the budget of the combination allows for the text and the hint. -/
theorem Assertion.attempt_drains (hmatcher : assertion.matcher = tree.judge.toMatcher)
    (hleaf : tree.leaves[place]? = some (Judge.receives observer) ∨
      tree.leaves[place]? = some Judge.closed)
    (hothers : ∀ i (judge : Judge σ Datum), tree.leaves[i]? = some judge → i ≠ place →
      judge.Spares number ⟨type, .receiver number⟩)
    (hproduces : assertion.probe.Produces assertion.kind assertion.settings v invocation u)
    (hvalue : ∀ value, invocation.value? = some value → value = ⟨type, .receiver number⟩) :
    Drains number
      (1 + (tree.budget place 0).afterwards assertion.positive assertion.wantsHints) u
      (assertion.attempt.after v) := by
  have hleaves : ∀ i (judge : Judge σ Datum), tree.leaves[i]? = some judge →
      judge.Within number ⟨type, .receiver number⟩
        (if 0 + i = place then .byVerdict else .nothing) := by
    intro i judge hjudge
    rw [Nat.zero_add]
    by_cases hplace : i = place
    · rw [if_pos hplace]
      subst hplace
      rcases hleaf with hleaf | hleaf
      · cases hjudge.symm.trans hleaf
        exact Judge.within_receives type number observer
      · cases hjudge.symm.trans hleaf
        exact Judge.within_closed type number
    · rw [if_neg hplace]
      exact hothers i judge hjudge hplace
  have hwithin : tree.judge.Within number ⟨type, .receiver number⟩ (tree.budget place 0) :=
    Combination.within_budget place tree 0 hleaves
  have honce : (tree.budget place 0).verdict ≤ 1 := by
    rw [Combination.verdict_budget]
    split <;> omega
  have hvalues : assertion.matcher.outcomes? assertion.probe.returnsNothing = none := by
    rw [hmatcher]
    cases assertion.probe.returnsNothing <;> rfl
  unfold attempt
  rw [Action.after_bind hproduces.invoke]
  dsimp only
  rw [Invocation.evaluate_of_values hvalues, hmatcher]
  have hjudged : (invocation.evaluateValue tree.judge assertion.positive
      assertion.wantsHints).TakesAtMost number ((tree.budget place 0).verdict +
        (tree.budget place 0).afterwards assertion.positive assertion.wantsHints) := by
    refine Invocation.evaluateValue_takes _ _ fun value hreturned => ?_
    rw [hvalue value hreturned]
    exact hwithin
  exact (hjudged.before fun _ => .pure _).mono (Nat.add_le_add_right honce _) u

end

/-! ## Looking again and again -/

section

variable {σ : Type} [HasChannels σ] [ReasonLog σ] {number observer n : Nat} {type : Ty}
  {message : Value} {queue : List Value} {s v : σ}

/-- A message that is there is received. -/
theorem Judge.receives_verdict_of_cons (type : Ty) (observer : Nat)
    (h : (channelIn number s).queue = message :: queue) :
    ∃ t, (Judge.receives observer).verdict ⟨type, .receiver number⟩ s = .ok (.ok true) t ∧
      (channelIn number t).queue = queue := by
  obtain ⟨t, htake, hchannel⟩ := take_of_receiver type number s
  have hreceive : (channelIn number s).tryReceive =
      (.message message, { channelIn number s with queue }) := by
    unfold Channel.tryReceive
    rw [h]
  rw [hreceive] at htake hchannel
  exact ⟨t, Action.bind_ok htake, congrArg Channel.queue hchannel⟩

namespace Combination

/-- A matcher that wants no message to be received, in so many `allOf`, one inside the other. -/
def nested (observer : Nat) : Nat → Combination (Judge σ Datum)
  | 0 => .negation (.leaf (Judge.receives observer))
  | n + 1 => .allOf [nested observer n]

theorem leaves_nested (observer n : Nat) :
    (nested observer n : Combination (Judge σ Datum)).leaves = [Judge.receives observer] := by
  induction n with
  | zero => rfl
  | succ n ih => rw [nested, leaves, leavesOfAll, ih, leavesOfAll, List.append_nil]

theorem budget_nested (observer n : Nat) :
    (nested observer n : Combination (Judge σ Datum)).budget 0 0 = ⟨1, n, 0, n⟩ := by
  induction n with
  | zero => rfl
  | succ n ih =>
      rw [nested, budget, budgetOfAll, ih, budgetOfAll]
      simp [Budget.allOf, Budget.plus, Budget.nothing, Nat.add_comm]

/-- A message that is there is taken for the verdict, which is that this is wrong. -/
theorem nested_verdict (type : Ty) (observer n : Nat)
    (h : (channelIn number s).queue = message :: queue) :
    ∃ t, (nested observer n).judge.verdict ⟨type, .receiver number⟩ s = .ok (.ok false) t ∧
      (channelIn number t).queue = queue := by
  induction n with
  | zero =>
      obtain ⟨t, hverdict, hqueue⟩ := Judge.receives_verdict_of_cons type observer h
      exact ⟨t, Action.bind_ok hverdict, hqueue⟩
  | succ n ih =>
      obtain ⟨t, hverdict, hqueue⟩ := ih
      exact ⟨t, Action.bind_ok hverdict, hqueue⟩

/-- A question that every `allOf` passes on takes a message in each of them, to find the member
that it is passed on to. -/
theorem nested_question {α : Type} (type : Ty) (observer : Nat)
    (question : Judge σ Datum → Action σ α)
    (hlast : ∀ s, ∃ a, question (nested observer 0).judge s = .ok a s)
    (hpassed : ∀ n s t, Judge.firstWith (fun v => !Judge.matched v) ⟨type, .receiver number⟩
        [(nested observer n).judge] s = .ok (some (nested observer n).judge) t →
      question (nested observer (n + 1)).judge s = question (nested observer n).judge t)
    (n : Nat) (h : n ≤ (channelIn number s).queue.length) :
    ∃ a t, question (nested observer n).judge s = .ok a t ∧
      (channelIn number t).queue = (channelIn number s).queue.drop n := by
  induction n generalizing s with
  | zero =>
      obtain ⟨a, ha⟩ := hlast s
      exact ⟨a, s, ha, rfl⟩
  | succ n ih =>
      obtain ⟨message, queue, hqueue⟩ :=
        List.exists_cons_of_length_pos (Nat.lt_of_lt_of_le n.succ_pos h)
      obtain ⟨t, hverdict, hrest⟩ := nested_verdict type observer n hqueue
      rw [hqueue, List.length_cons] at h
      obtain ⟨a, u, ha, hdropped⟩ := ih (s := t) (by rw [hrest]; exact Nat.le_of_succ_le_succ h)
      refine ⟨a, u, (hpassed n s t (Action.bind_ok hverdict)).trans ha, ?_⟩
      rw [hdropped, hrest, hqueue, List.drop_succ_cons]

end Combination

variable [HasCheckers σ] {assertion : Assertion σ}

/-- An attempt can take as many messages as its budget allows. That can be more than any given
number, though there is only one leaf. -/
theorem Assertion.attempt_nested (hkind : assertion.kind = .eventually)
    (hprobe : assertion.probe = .observed ⟨type, .receiver number⟩)
    (hmatcher : assertion.matcher = (Combination.nested observer n).judge.toMatcher)
    (hpositive : assertion.positive = true)
    (hqueue : 1 + (n + n) ≤ (channelIn number v).queue.length) :
    (Combination.nested observer n : Combination (Judge σ Datum)).leaves =
        [Judge.receives observer] ∧
      1 + ((Combination.nested observer n : Combination (Judge σ Datum)).budget 0 0).afterwards
        assertion.positive assertion.wantsHints = 1 + (n + n) ∧
      (channelIn number (assertion.attempt.after v)).queue =
        (channelIn number v).queue.drop (1 + (n + n)) := by
  have hhints : assertion.wantsHints = true := by
    unfold wantsHints
    rw [hkind, hprobe]
    rfl
  refine ⟨Combination.leaves_nested observer n, ?_, ?_⟩
  · rw [Combination.budget_nested, hpositive, hhints]
    rfl
  · -- one message for the verdict, and so many each for the text and for the hint
    obtain ⟨message, queue, hcons⟩ :=
      List.exists_cons_of_length_pos (Nat.lt_of_lt_of_le (Nat.add_pos_left Nat.one_pos _) hqueue)
    rw [hcons, List.length_cons] at hqueue
    obtain ⟨s, hverdict, hfirst⟩ := Combination.nested_verdict type observer n hcons
    have hleft : n + n ≤ (channelIn number s).queue.length := by
      rw [hfirst]
      omega
    obtain ⟨text, t, htext, hsecond⟩ := Combination.nested_question type observer
      (fun judge => judge.failureText ⟨type, .receiver number⟩) (fun _ => ⟨_, rfl⟩)
      (fun _ _ _ hfound => Action.bind_ok hfound) n (Nat.le_trans (Nat.le_add_left n n) hleft)
    obtain ⟨hint?, u, hhint, hthird⟩ := Combination.nested_question type observer
      (fun judge => judge.hint ⟨type, .receiver number⟩) (fun _ => ⟨_, rfl⟩)
      (fun _ _ _ hfound => Action.bind_ok hfound) n (s := t) (by
        rw [hsecond, List.length_drop]
        omega)
    have hassess : (Combination.nested observer n).judge.assess true ⟨type, .receiver number⟩ v =
        .ok (false, text) t := (Action.bind_ok hverdict).trans (Action.bind_ok htext)
    have hjudged : (Combination.nested observer n).judge.evaluate true true none
        ⟨type, .receiver number⟩ v = .ok ⟨false, text, none, hint?⟩ u := by
      rw [Judge.evaluate_eq, Action.bind_ok hassess]
      exact Action.bind_ok hhint
    have hattempt : assertion.attempt v = .ok (.ok (.evaluated ⟨false, text, none, hint?⟩)) u := by
      have hproduces : assertion.probe.Produces assertion.kind assertion.settings v
          (.returned ⟨type, .receiver number⟩ [] none none) v := by
        rw [hprobe]
        exact .observed
      refine attempt_of_judged hproduces ?_
      rw [hmatcher, hpositive, hhints, hprobe]
      exact Action.bind_ok hjudged
    rw [Action.after_ok hattempt, hthird, hsecond, hfirst, hcons, List.drop_drop, Nat.add_comm 1,
      List.drop_succ_cons]

end

/-! ## Two messages where one is wanted -/

/-- Two conditions at once; the second one is that a message is received. -/
def Combination.held : Combination (Judge Session.World Datum) :=
  .allOf [.leaf (Judge.satisfies (fun _ => true) "hold"), .leaf (Judge.receives 0)]

/-- A receiver should give a message every time. -/
def Assertion.held : Assertion Session.World where
  kind := .consistently
  probe := .observed ⟨.receiver (.integer .i32), .receiver 0⟩
  settings := ⟨some 20, some 10, none, []⟩
  matcher := Combination.held.judge.toMatcher
  positive := true
  description? := none

/-- A channel with two messages. -/
def Session.World.twoMessages : Session.World :=
  .withChannel [.integer 1, .integer 2] true

/-- The first condition has nothing to do with the channel. -/
theorem Combination.spares_held (i : Nat) (judge : Judge Session.World Datum)
    (h : held.leaves[i]? = some judge) (hplace : i ≠ 1) :
    judge.Spares 0 ⟨.receiver (.integer .i32), .receiver 0⟩ := by
  rcases i with _ | _ | i
  · cases h
    exact Judge.spares_ofSubject _ _ _
  · exact absurd rfl hplace
  · cases h

/-- The first attempt takes two messages at most. -/
theorem Assertion.attempt_drains_held :
    Drains 0 2 Session.World.twoMessages (held.attempt.after Session.World.twoMessages) := by
  have hmatcher : held.matcher = Combination.held.judge.toMatcher := rfl
  have hproduces : held.probe.Produces held.kind held.settings Session.World.twoMessages
      (.returned ⟨.receiver (.integer .i32), .receiver 0⟩ [] none none)
      Session.World.twoMessages := .observed
  refine attempt_drains hmatcher (.inl rfl) Combination.spares_held hproduces fun value hvalue => ?_
  cases hvalue
  rfl

/-- It takes both, although it passes. -/
theorem Assertion.attempt_drains_not_once :
    (∃ e t, held.attempt Session.World.twoMessages = .ok (.ok (.evaluated e)) t ∧
      e.passed = true) ∧
      ¬ Drains 0 1 Session.World.twoMessages (held.attempt.after Session.World.twoMessages) := by
  refine ⟨⟨_, _, rfl, rfl⟩, ?_⟩
  rintro ⟨taken, hqueue, hlength⟩
  have hleft : (channelIn 0 (held.attempt.after Session.World.twoMessages)).queue = [] := rfl
  rw [hleft, List.append_nil] at hqueue
  rw [← hqueue] at hlength
  exact absurd hlength (by decide)

end PollingAssertions
