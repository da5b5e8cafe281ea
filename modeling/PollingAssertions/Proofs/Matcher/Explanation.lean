import PollingAssertions.Matcher.Value
import PollingAssertions.Proofs.Matcher.Combination
import PollingAssertions.Proofs.Polling.Stopping
import PollingAssertions.Session.World

/-!
# How combined matchers explain themselves

To explain a verdict, a combination consults its members once more and passes the question on to
one of them. If the members are pure, so that they answer alike each time, this is the member that
has decided the verdict: the first of an `allOf` that did not match, the first of an `anyOf` that
did. Below a negation the text for the other direction is asked for. So the explanation of a wrong
verdict goes down the members that decided it, and comes to a leaf, or to a combination that has no
single member to blame and speaks for all of them; the verdict of that one is wrong as well, in the
direction of its text.

A leaf is pure if no world changes what it says. It may do something to the world all the same; a
text that works out a deferred reason does.

## Main definitions

* `Judge.IsPure` — a judge answers alike in all worlds.
* `Combination.Decides` — the member that decides a verdict.
* `Combination.StandsIn` — a combination stands somewhere in another one.
* `Combination.Explains` — the text of one combination is that of another.

## Main results

* `Combination.isPure` — combinations of pure judges are pure.
* `Combination.Decides.failureText`, `Combination.Decides.negatedText` — the member that decides
  explains.
* `Combination.exists_explains` — a wrong verdict is explained by one that is wrong itself.
* `Combination.explained` — all of this, for every place in a combination.
-/

namespace PollingAssertions

/-! ## Actions that always return the same -/

namespace Action

variable {σ α β : Type} {x y : Action σ α} {f : α → Action σ β} {a b : α}

theorem Gives.unique [Nonempty σ] (h : x.Gives (· = a)) (h' : x.Gives (· = b)) : a = b := by
  obtain ⟨s⟩ := ‹Nonempty σ›
  obtain ⟨_, t, hstep, rfl⟩ := h s
  obtain ⟨_, t', hstep', rfl⟩ := h' s
  cases hstep.symm.trans hstep'
  rfl

/-- What follows an action that always returns the same. -/
theorem Gives.followed {p : β → Prop} (hx : x.Gives (· = a)) (hf : (f a).Gives p) :
    (x >>= f).Gives p :=
  .bind hx fun _ h => h ▸ hf

/-- Two actions always return the same. -/
def Alike (x y : Action σ α) : Prop := ∃ a, x.Gives (· = a) ∧ y.Gives (· = a)

end Action

/-! ## Pure judges -/

section

variable {σ α : Type}

/-- A judge answers every question about a subject in the same way in all worlds. -/
structure Judge.IsPure (judge : Judge σ α) (subject : α) : Prop where
  verdict : ∃ answer, (judge.verdict subject).Gives (· = answer)
  failureText : ∃ text, (judge.failureText subject).Gives (· = text)
  negatedText : ∃ text, (judge.negatedText subject).Gives (· = text)
  hint : ∃ hint?, (judge.hint subject).Gives (· = hint?)

theorem Judge.IsPure.textFor {judge : Judge σ α} {subject : α} (h : judge.IsPure subject)
    (positive : Bool) : ∃ text, (judge.textFor positive subject).Gives (· = text) := by
  cases positive with
  | true => exact h.failureText
  | false => exact h.negatedText

theorem Judge.IsPure.negation {judge : Judge σ α} {subject : α} (h : judge.IsPure subject) :
    judge.negation.IsPure subject where
  verdict := by
    obtain ⟨answer, hanswer⟩ := h.verdict
    exact ⟨_, hanswer.followed (.pure rfl)⟩
  failureText := h.negatedText
  negatedText := h.failureText
  hint := ⟨none, .pure rfl⟩

theorem expectationOf_gives [ReasonLog σ] [Subject α] (subject : α) (relation : String) :
    ∃ text, (expectationOf subject relation : Action σ String).Gives (· = text) :=
  ⟨_, fun _ => ⟨_, _, rfl, rfl⟩⟩

end

namespace Combination

variable {σ α : Type} [ReasonLog σ] [Subject α] {subject : α} {expected : Bool}
  {members : List (Combination (Judge σ α))} {child : Combination (Judge σ α)}
  {said : Except MatchError Bool}

/-! ## The member that decides -/

/-- A member decides, and says this: it is the first one that does not give the expected answer. -/
inductive Decides (subject : α) (expected : Bool) :
    List (Combination (Judge σ α)) → Combination (Judge σ α) → Except MatchError Bool → Prop
  | here {child : Combination (Judge σ α)} {said : Except MatchError Bool}
      {after : List (Combination (Judge σ α))} :
      (child.judge.verdict subject).Gives (· = said) → said ≠ .ok expected →
      Decides subject expected (child :: after) child said
  | later {member child : Combination (Judge σ α)} {members : List (Combination (Judge σ α))}
      {said : Except MatchError Bool} :
      (member.judge.verdict subject).Gives (· = .ok expected) →
      Decides subject expected members child said →
      Decides subject expected (member :: members) child said

namespace Decides

theorem mem (h : Decides subject expected members child said) : child ∈ members := by
  induction h with
  | here _ _ => exact List.mem_cons_self
  | later _ _ ih => exact List.mem_cons_of_mem _ ih

theorem verdict (h : Decides subject expected members child said) :
    (child.judge.verdict subject).Gives (· = said) := by
  induction h with
  | here hsaid _ => exact hsaid
  | later _ _ ih => exact ih

theorem unexpected (h : Decides subject expected members child said) : said ≠ .ok expected := by
  induction h with
  | here _ hother => exact hother
  | later _ _ ih => exact ih

/-- The combination says what that member says. -/
theorem consultWhile (h : Decides subject expected members child said) :
    (Judge.consultWhile expected subject (judges members)).Gives (· = said) := by
  induction h with
  | @here child said after hsaid hother =>
      refine hsaid.followed ?_
      cases said with
      | error e => exact .pure rfl
      | ok answer =>
          have hne : answer ≠ expected := fun heq => hother (heq ▸ rfl)
          simp only [hne, if_false]
          exact .pure rfl
  | later hmember _ ih =>
      refine hmember.followed ?_
      simp only [if_true]
      exact ih

/-- Looking for a judge with a wanted verdict finds that member, if its verdict is wanted and the
expected answer is not. -/
theorem firstWith {wanted : Except MatchError Bool → Bool}
    (h : Decides subject expected members child said) (hexpected : wanted (.ok expected) = false)
    (hsaid : wanted said = true) :
    (Judge.firstWith wanted subject (judges members)).Gives (· = some child.judge) := by
  induction h with
  | here hchild _ =>
      refine hchild.followed ?_
      simp only [hsaid, if_true]
      exact .pure rfl
  | later hmember _ ih =>
      refine hmember.followed ?_
      simp only [hexpected, Bool.false_eq_true, if_false]
      exact ih hsaid

end Decides

/-- All members give the expected answer, or one of them decides. -/
theorem forall_or_decides (expected : Bool) (h : ∀ member ∈ members, member.judge.IsPure subject) :
    (∀ member ∈ members, (member.judge.verdict subject).Gives (· = .ok expected)) ∨
      ∃ child said, Decides subject expected members child said := by
  induction members with
  | nil => exact .inl (by simp)
  | cons member members ih =>
      obtain ⟨hmember, hmembers⟩ := List.forall_mem_cons.1 h
      obtain ⟨answer, hanswer⟩ := hmember.verdict
      by_cases hexpected : answer = .ok expected
      · subst hexpected
        rcases ih hmembers with hall | ⟨child, said, hdecides⟩
        · exact .inl (List.forall_mem_cons.2 ⟨hanswer, hall⟩)
        · exact .inr ⟨child, said, .later hanswer hdecides⟩
      · exact .inr ⟨member, answer, .here hanswer hexpected⟩

theorem consultWhile_of_forall
    (h : ∀ member ∈ members, (member.judge.verdict subject).Gives (· = .ok expected)) :
    (Judge.consultWhile expected subject (judges members)).Gives (· = .ok expected) := by
  induction members with
  | nil => exact .pure rfl
  | cons member members ih =>
      obtain ⟨hmember, hmembers⟩ := List.forall_mem_cons.1 h
      refine hmember.followed ?_
      simp only [if_true]
      exact ih hmembers

/-! ## Combinations of pure judges -/

/-- Looking for a judge among pure members has always the same outcome, and finds a member. -/
theorem exists_firstWith (wanted : Except MatchError Bool → Bool)
    (h : ∀ member ∈ members, member.judge.IsPure subject) :
    ∃ found?, (Judge.firstWith wanted subject (judges members)).Gives (· = found?) ∧
      ∀ found, found? = some found → found.IsPure subject := by
  induction members with
  | nil => exact ⟨none, .pure rfl, fun _ hsome => by cases hsome⟩
  | cons member members ih =>
      obtain ⟨hmember, hmembers⟩ := List.forall_mem_cons.1 h
      obtain ⟨answer, hanswer⟩ := hmember.verdict
      cases hwanted : wanted answer with
      | true =>
          refine ⟨some member.judge, hanswer.followed ?_, fun found hsome => ?_⟩
          · simp only [hwanted, if_true]
            exact .pure rfl
          · cases hsome
            exact hmember
      | false =>
          obtain ⟨found?, hfound, hpure⟩ := ih hmembers
          refine ⟨found?, hanswer.followed ?_, hpure⟩
          simp only [hwanted, Bool.false_eq_true, if_false]
          exact hfound

omit [ReasonLog σ] [Subject α] in
/-- A question that is passed on to a judge that was found has always the same answer. -/
theorem exists_passed_on {γ : Type} {find : Action σ (Option (Judge σ α))}
    {question : Judge σ α → Action σ γ} {otherwise : Action σ γ}
    (hfind : ∃ found?, find.Gives (· = found?) ∧
      ∀ found, found? = some found → found.IsPure subject)
    (hquestion : ∀ found : Judge σ α, found.IsPure subject → ∃ c, (question found).Gives (· = c))
    (hotherwise : ∃ c, otherwise.Gives (· = c)) :
    ∃ c, (find >>= fun found? => match found? with
      | some found => question found
      | none => otherwise).Gives (· = c) := by
  obtain ⟨found?, hfound, hpure⟩ := hfind
  cases found? with
  | none =>
      obtain ⟨c, hc⟩ := hotherwise
      exact ⟨c, hfound.followed hc⟩
  | some found =>
      obtain ⟨c, hc⟩ := hquestion found (hpure found rfl)
      exact ⟨c, hfound.followed hc⟩

/-- The verdict on pure members is always the same. -/
theorem exists_consultWhile (expected : Bool)
    (h : ∀ member ∈ members, member.judge.IsPure subject) :
    ∃ answer, (Judge.consultWhile expected subject (judges members)).Gives (· = answer) := by
  rcases forall_or_decides expected h with hall | ⟨child, said, hdecides⟩
  · exact ⟨_, consultWhile_of_forall hall⟩
  · exact ⟨_, hdecides.consultWhile⟩

theorem exists_failureTexts (h : ∀ member ∈ members, member.judge.IsPure subject) :
    ∃ texts, (Judge.failureTexts subject (judges members)).Gives (· = texts) := by
  induction members with
  | nil => exact ⟨[], .pure rfl⟩
  | cons member members ih =>
      obtain ⟨hmember, hmembers⟩ := List.forall_mem_cons.1 h
      obtain ⟨text, htext⟩ := hmember.failureText
      obtain ⟨texts, htexts⟩ := ih hmembers
      exact ⟨_, htext.followed (htexts.followed (.pure rfl))⟩

theorem isPure_allOf (h : ∀ member ∈ members, member.judge.IsPure subject) :
    (allOf members).judge.IsPure subject where
  verdict := exists_consultWhile true h
  failureText := exists_passed_on (exists_firstWith _ h) (fun _ hfound => hfound.failureText)
    (expectationOf_gives _ _)
  negatedText := expectationOf_gives _ _
  hint := exists_passed_on (exists_firstWith _ h) (fun _ hfound => hfound.hint) ⟨none, .pure rfl⟩

theorem isPure_anyOf (h : ∀ member ∈ members, member.judge.IsPure subject) :
    (anyOf members).judge.IsPure subject where
  verdict := exists_consultWhile false h
  failureText := by
    obtain ⟨texts, htexts⟩ := exists_failureTexts h
    obtain ⟨head, hhead⟩ :=
      expectationOf_gives (σ := σ) subject "to satisfy at least one of:"
    exact ⟨_, htexts.followed (hhead.followed (.pure rfl))⟩
  negatedText := exists_passed_on (exists_firstWith _ h) (fun _ hfound => hfound.negatedText)
    (expectationOf_gives _ _)
  hint := ⟨none, .pure rfl⟩

theorem mem_leavesOfAll {β : Type} {b : β} {members : List (Combination β)} :
    b ∈ leavesOfAll members ↔ ∃ member ∈ members, b ∈ member.leaves := by
  induction members with
  | nil => simp [leavesOfAll]
  | cons member members ih => simp [leavesOfAll, ih]

/-- A combination of pure judges is pure. -/
theorem isPure {tree : Combination (Judge σ α)} (h : ∀ judge ∈ tree.leaves, judge.IsPure subject) :
    tree.judge.IsPure subject := by
  induction tree with
  | leaf judge => exact h judge List.mem_cons_self
  | negation member ih => exact (ih h).negation
  | allOf members ih =>
      exact isPure_allOf fun member hmember => ih member hmember fun judge hjudge =>
        h judge (mem_leavesOfAll.2 ⟨member, hmember, hjudge⟩)
  | anyOf members ih =>
      exact isPure_anyOf fun member hmember => ih member hmember fun judge hjudge =>
        h judge (mem_leavesOfAll.2 ⟨member, hmember, hjudge⟩)

/-! ## Passing a question on -/

section

variable {p : String → Prop}

/-- The member that has decided an `allOf` did not match, so it is found again. -/
theorem Decides.firstWith_allOf (h : Decides subject true members child said) :
    (Judge.firstWith (fun v => !Judge.matched v) subject (judges members)).Gives
      (· = some child.judge) := by
  refine h.firstWith rfl ?_
  cases said with
  | error e => rfl
  | ok answer =>
      cases answer with
      | true => exact absurd rfl h.unexpected
      | false => rfl

/-- The failure text of an `allOf` is that of the member that has decided it. -/
theorem Decides.failureText (h : Decides subject true members child said)
    (hchild : (child.judge.failureText subject).Gives p) :
    ((allOf members).judge.failureText subject).Gives p :=
  h.firstWith_allOf.followed hchild

/-- The hint of an `allOf` is that of the member that has decided it. -/
theorem Decides.hint {p : Option String → Prop} (h : Decides subject true members child said)
    (hchild : (child.judge.hint subject).Gives p) : ((allOf members).judge.hint subject).Gives p :=
  h.firstWith_allOf.followed hchild

/-- The text against a match of an `anyOf` is that of the member that has decided it by a match. -/
theorem Decides.negatedText (h : Decides subject false members child (.ok true))
    (hchild : (child.judge.negatedText subject).Gives p) :
    ((anyOf members).judge.negatedText subject).Gives p :=
  (h.firstWith rfl rfl).followed hchild

end

/-- A verdict that is not the expected one was decided by a member. -/
theorem decides_of_gives [Nonempty σ] (h : ∀ member ∈ members, member.judge.IsPure subject)
    (hsaid : (Judge.consultWhile expected subject (judges members)).Gives (· = said))
    (hother : said ≠ .ok expected) : ∃ child, Decides subject expected members child said := by
  rcases forall_or_decides expected h with hall | ⟨child, answer, hdecides⟩
  · exact absurd (hsaid.unique (consultWhile_of_forall hall)) hother
  · cases hsaid.unique hdecides.consultWhile
    exact ⟨child, hdecides⟩

/-- The members of a combination are pure if its leaves are. -/
theorem isPure_of_mem (h : ∀ judge ∈ leavesOfAll members, judge.IsPure subject) :
    ∀ member ∈ members, member.judge.IsPure subject := fun member hmember =>
  isPure fun judge hjudge => h judge (mem_leavesOfAll.2 ⟨member, hmember, hjudge⟩)

/-- If all members match, an `allOf` gives no hint. -/
theorem hint_of_forall
    (h : ∀ member ∈ members, (member.judge.verdict subject).Gives (· = .ok true)) :
    ((allOf members).judge.hint subject).Gives (· = none) := by
  have hnone : (Judge.firstWith (fun v => !Judge.matched v) subject (judges members)).Gives
      (· = none) := by
    induction members with
    | nil => exact .pure rfl
    | cons member members ih =>
        obtain ⟨hmember, hmembers⟩ := List.forall_mem_cons.1 h
        exact hmember.followed (ih hmembers)
  exact hnone.followed (.pure rfl)

/-- A combination stands in another one, at any depth. -/
inductive StandsIn {β : Type} (node : Combination β) : Combination β → Prop
  | self : StandsIn node node
  | negation {member : Combination β} : StandsIn node member → StandsIn node (.negation member)
  | allOf {member : Combination β} {members : List (Combination β)} :
      member ∈ members → StandsIn node member → StandsIn node (.allOf members)
  | anyOf {member : Combination β} {members : List (Combination β)} :
      member ∈ members → StandsIn node member → StandsIn node (.anyOf members)

theorem StandsIn.leaves {β : Type} {node tree : Combination β} (h : node.StandsIn tree) {b : β}
    (hb : b ∈ node.leaves) : b ∈ tree.leaves := by
  induction h with
  | self => exact hb
  | negation _ ih => exact ih
  | allOf hmember _ ih => exact mem_leavesOfAll.2 ⟨_, hmember, ih⟩
  | anyOf hmember _ ih => exact mem_leavesOfAll.2 ⟨_, hmember, ih⟩

/-! ## What a wrong verdict is explained by -/

/-- The text of a combination in one direction is passed on to one that stands in it, in the same
direction or in the other. -/
inductive Explains (subject : α) :
    Combination (Judge σ α) → Bool → Combination (Judge σ α) → Bool → Prop
  | self (tree : Combination (Judge σ α)) (positive : Bool) :
      Explains subject tree positive tree positive
  | negation {member node : Combination (Judge σ α)} {positive direction : Bool} :
      Explains subject member (!positive) node direction →
      Explains subject (.negation member) positive node direction
  | allOf {members : List (Combination (Judge σ α))} {child node : Combination (Judge σ α)}
      {direction : Bool} : Decides subject true members child (.ok false) →
      Explains subject child true node direction →
      Explains subject (.allOf members) true node direction
  | anyOf {members : List (Combination (Judge σ α))} {child node : Combination (Judge σ α)}
      {direction : Bool} : Decides subject false members child (.ok true) →
      Explains subject child false node direction →
      Explains subject (.anyOf members) false node direction

/-- A text is passed on only to what stands in the combination. -/
theorem Explains.standsIn {tree node : Combination (Judge σ α)} {positive direction : Bool}
    (h : Explains subject tree positive node direction) : node.StandsIn tree := by
  induction h with
  | self _ _ => exact .self
  | negation _ ih => exact .negation ih
  | allOf hdecides _ ih => exact .allOf hdecides.mem ih
  | anyOf hdecides _ ih => exact .anyOf hdecides.mem ih

/-- A text that is passed on is the text of the combination that it comes from. -/
theorem Explains.textFor {tree node : Combination (Judge σ α)} {positive direction : Bool}
    {p : String → Prop} (h : Explains subject tree positive node direction)
    (hnode : (node.judge.textFor direction subject).Gives p) :
    (tree.judge.textFor positive subject).Gives p := by
  induction h with
  | self tree positive => exact hnode
  | @negation _ _ positive _ _ ih =>
      cases positive with
      | true => exact ih hnode
      | false => exact ih hnode
  | allOf hdecides _ ih => exact hdecides.failureText (ih hnode)
  | anyOf hdecides _ ih => exact hdecides.negatedText (ih hnode)

/-- The text of a combination in a direction is its own: it is a leaf, or there is no single member
to blame. -/
def HasOwnText {β : Type} : Combination β → Bool → Prop
  | .leaf _, _ => True
  | .negation _, _ => False
  | .allOf _, positive => positive = false
  | .anyOf _, positive => positive = true

/-- A wrong verdict is explained by a combination with a text of its own, which is wrong in the
direction of that text. -/
theorem exists_explains [Nonempty σ] {tree : Combination (Judge σ α)} {positive : Bool}
    (h : ∀ judge ∈ tree.leaves, judge.IsPure subject)
    (hwrong : (tree.judge.verdict subject).Gives (· = .ok (!positive))) :
    ∃ node direction, Explains subject tree positive node direction ∧ node.HasOwnText direction ∧
      (node.judge.verdict subject).Gives (· = .ok (!direction)) := by
  induction tree generalizing positive with
  | leaf judge => exact ⟨_, _, .self _ _, trivial, hwrong⟩
  | negation member ih =>
      have hmember : ∀ judge ∈ member.leaves, judge.IsPure subject := h
      obtain ⟨answer, hanswer⟩ := (isPure hmember).verdict
      have hflipped : ((negation member).judge.verdict subject).Gives (· = answer.map (!·)) :=
        hanswer.followed (.pure rfl)
      have hright : answer = .ok (!!positive) := by
        have heq := hflipped.unique hwrong
        cases answer with
        | error e => cases heq
        | ok answer => cases answer <;> cases positive <;> simp_all [Except.map]
      obtain ⟨node, direction, hexplains, hown, hnode⟩ := ih hmember (hright ▸ hanswer)
      exact ⟨node, direction, .negation hexplains, hown, hnode⟩
  | allOf members ih =>
      cases positive with
      | false => exact ⟨_, _, .self _ _, rfl, hwrong⟩
      | true =>
          obtain ⟨child, hdecides⟩ := decides_of_gives (isPure_of_mem h) hwrong (by simp)
          obtain ⟨node, direction, hexplains, hown, hnode⟩ := ih child hdecides.mem
            (fun judge hjudge => h judge (mem_leavesOfAll.2 ⟨child, hdecides.mem, hjudge⟩))
            hdecides.verdict
          exact ⟨node, direction, .allOf hdecides hexplains, hown, hnode⟩
  | anyOf members ih =>
      cases positive with
      | true => exact ⟨_, _, .self _ _, rfl, hwrong⟩
      | false =>
          obtain ⟨child, hdecides⟩ := decides_of_gives (isPure_of_mem h) hwrong (by simp)
          obtain ⟨node, direction, hexplains, hown, hnode⟩ := ih child hdecides.mem
            (fun judge hjudge => h judge (mem_leavesOfAll.2 ⟨child, hdecides.mem, hjudge⟩))
            hdecides.verdict
          exact ⟨node, direction, .anyOf hdecides hexplains, hown, hnode⟩

/-- Wherever an `allOf` stands in a combination of pure judges, its failure text and its hint are
those of the member that has decided it, and it gives no hint if it matches. Wherever an `anyOf`
stands, its text against a match is that of the member whose match has decided it. A negation
exchanges the two texts of its member. Neither of these two gives hints. So a wrong verdict of the
whole is explained by a part whose verdict is wrong in the direction of its text. -/
theorem explained [Nonempty σ] {tree : Combination (Judge σ α)}
    (h : ∀ judge ∈ tree.leaves, judge.IsPure subject) :
    (∀ members : List (Combination (Judge σ α)), (allOf members).StandsIn tree →
        (∀ said, ((allOf members).judge.verdict subject).Gives (· = said) → said ≠ .ok true →
          ∃ child, Decides subject true members child said ∧
            ((allOf members).judge.failureText subject).Alike (child.judge.failureText subject) ∧
            ((allOf members).judge.hint subject).Alike (child.judge.hint subject)) ∧
        (((allOf members).judge.verdict subject).Gives (· = .ok true) →
          ((allOf members).judge.hint subject).Gives (· = none))) ∧
      (∀ members : List (Combination (Judge σ α)), (anyOf members).StandsIn tree →
        (((anyOf members).judge.verdict subject).Gives (· = .ok true) →
          ∃ child, Decides subject false members child (.ok true) ∧
            ((anyOf members).judge.negatedText subject).Alike (child.judge.negatedText subject)) ∧
        ((anyOf members).judge.hint subject).Gives (· = none)) ∧
      (∀ member : Combination (Judge σ α), (negation member).StandsIn tree →
        ((negation member).judge.failureText subject).Alike (member.judge.negatedText subject) ∧
        ((negation member).judge.negatedText subject).Alike (member.judge.failureText subject) ∧
        ((negation member).judge.hint subject).Gives (· = none)) ∧
      ∀ positive, (tree.judge.verdict subject).Gives (· = .ok (!positive)) →
        ∃ node direction, Explains subject tree positive node direction ∧
          node.HasOwnText direction ∧ (node.judge.verdict subject).Gives (· = .ok (!direction)) ∧
          (tree.judge.textFor positive subject).Alike (node.judge.textFor direction subject) := by
  refine ⟨fun members hstands => ?_, fun members hstands => ?_, fun member hstands => ?_,
    fun positive hwrong => ?_⟩
  · have hpure := isPure_of_mem fun judge hjudge => h judge (hstands.leaves hjudge)
    refine ⟨fun said hsaid hother => ?_, fun hmatches => ?_⟩
    · obtain ⟨child, hdecides⟩ := decides_of_gives hpure hsaid hother
      obtain ⟨text, htext⟩ := (hpure child hdecides.mem).failureText
      obtain ⟨hint?, hhint⟩ := (hpure child hdecides.mem).hint
      exact ⟨child, hdecides, ⟨text, hdecides.failureText htext, htext⟩,
        ⟨hint?, hdecides.hint hhint, hhint⟩⟩
    · rcases forall_or_decides true hpure with hall | ⟨child, said, hdecides⟩
      · exact hint_of_forall hall
      · exact absurd (hdecides.consultWhile.unique hmatches) hdecides.unexpected
  · have hpure := isPure_of_mem fun judge hjudge => h judge (hstands.leaves hjudge)
    refine ⟨fun hmatches => ?_, .pure rfl⟩
    obtain ⟨child, hdecides⟩ := decides_of_gives hpure hmatches (by simp)
    obtain ⟨text, htext⟩ := (hpure child hdecides.mem).negatedText
    exact ⟨child, hdecides, text, hdecides.negatedText htext, htext⟩
  · have hpure : member.judge.IsPure subject :=
      isPure fun judge hjudge => h judge (hstands.leaves hjudge)
    obtain ⟨text, htext⟩ := hpure.failureText
    obtain ⟨negated, hnegated⟩ := hpure.negatedText
    exact ⟨⟨negated, hnegated, hnegated⟩, ⟨text, htext, htext⟩, .pure rfl⟩
  · obtain ⟨node, direction, hexplains, hown, hverdict⟩ := exists_explains h hwrong
    obtain ⟨text, htext⟩ :=
      (isPure fun judge hjudge => h judge (hexplains.standsIn.leaves hjudge)).textFor direction
    exact ⟨node, direction, hexplains, hown, hverdict, text, hexplains.textFor htext, htext⟩

end Combination

/-! ## A number that is excluded -/

theorem Judge.isPure_compared {σ : Type} [ReasonLog σ] (relation : Relation)
    (other subject : Datum) : (Judge.compared relation other : Judge σ Datum).IsPure subject where
  verdict := ⟨_, .pure rfl⟩
  failureText := ⟨_, fun _ => ⟨_, _, rfl, rfl⟩⟩
  negatedText := ⟨_, fun _ => ⟨_, _, rfl, rfl⟩⟩
  hint := ⟨none, .pure rfl⟩

/-- A number of the type that messages call `i32`. -/
def Datum.ofInt (n : Int) : Datum := ⟨.integer .i32, .integer n⟩

theorem Judge.compared_ofInt {relation : Relation} {m n : Int} {answer : Bool}
    (h : relation.holds (some (compare m n)) = answer) :
    ((Judge.compared relation (Datum.ofInt n) : Judge Session.World Datum).verdict
      (Datum.ofInt m)).Gives (· = .ok answer) := by
  have hcompare : (Datum.ofInt m).value.compare? (Datum.ofInt n).value = some (compare m n) := by
    rw [Datum.ofInt, Datum.ofInt, Value.compare?]
  exact .pure (by rw [hcompare, h])

/-- A number that is three or five. -/
def Combination.threeOrFive : List (Combination (Judge Session.World Datum)) :=
  [.leaf (Judge.compared .equal (Datum.ofInt 3)), .leaf (Judge.compared .equal (Datum.ofInt 5))]

/-- A number above zero that is neither three nor five. -/
def Combination.exclusive : Combination (Judge Session.World Datum) :=
  .allOf [.leaf (Judge.compared .greater (Datum.ofInt 0)), .negation (.anyOf threeOrFive)]

/-- That five is excluded is explained by a part that gives the wrong verdict itself. -/
theorem Combination.explained_exclusive :
    (exclusive.judge.verdict (Datum.ofInt 5)).Gives (· = .ok false) ∧
      ∃ node direction, Explains (Datum.ofInt 5) exclusive true node direction ∧
        node.HasOwnText direction ∧
        (node.judge.verdict (Datum.ofInt 5)).Gives (· = .ok (!direction)) ∧
        (exclusive.judge.failureText (Datum.ofInt 5)).Alike
          (node.judge.textFor direction (Datum.ofInt 5)) := by
  have hfive : Decides (Datum.ofInt 5) false threeOrFive
      (.leaf (Judge.compared .equal (Datum.ofInt 5))) (.ok true) := by
    refine .later ?_ (.here ?_ (by simp))
    · exact Judge.compared_ofInt (by decide)
    · exact Judge.compared_ofInt (by decide)
  have hverdict : (exclusive.judge.verdict (Datum.ofInt 5)).Gives (· = .ok false) := by
    refine Decides.consultWhile (.later ?_ (.here ?_ (by simp)))
    · exact Judge.compared_ofInt (by decide)
    · exact hfive.consultWhile.followed (.pure rfl)
  have hpure : ∀ judge ∈ exclusive.leaves, judge.IsPure (Datum.ofInt 5) := by
    intro judge hjudge
    rcases hjudge with _ | ⟨_, _ | ⟨_, _ | ⟨_, hjudge⟩⟩⟩
    · exact Judge.isPure_compared _ _ _
    · exact Judge.isPure_compared _ _ _
    · exact Judge.isPure_compared _ _ _
    · cases hjudge
  have : Nonempty Session.World := ⟨.starting 0⟩
  obtain ⟨-, -, -, hexplained⟩ := explained hpure
  exact ⟨hverdict, hexplained true hverdict⟩

end PollingAssertions
