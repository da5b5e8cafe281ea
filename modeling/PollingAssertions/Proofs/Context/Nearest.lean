import PollingAssertions.Context.Basic

/-!
# The nearest attacher

A progress attacher is looked for in a context and then in its ancestors. So the one that
is found is the context's own, or else the one nearest to its parent. Parents are older
than their children, which makes an end to the search.

## Main definitions

* `Contexts.Nearest` — the attacher nearest to a context.

## Main results

* `Contexts.findSome?_lineage` — a search goes up from parent to parent.
* `Contexts.attacher?_eq_some_iff` — the attacher that is found is the nearest one.
-/

namespace PollingAssertions

namespace Contexts

/-- The attacher nearest to a context: its own, or else the one nearest to its parent, which is
always older. -/
inductive Nearest (cs : Contexts) : ContextId → String → Prop
  | own {c : ContextId} {context : Context} {name : String} :
      cs.at? c = some context → context.attacher? = some name → Nearest cs c name
  | inherited {c p : ContextId} {context : Context} {name : String} :
      cs.at? c = some context → context.attacher? = none → context.parent? = some p → p < c →
      Nearest cs p name → Nearest cs c name

variable {cs : Contexts} {c : ContextId} {name : String}

/-- A search through a context and its ancestors looks at the context itself and then goes on
with its parent. -/
theorem findSome?_lineage {α : Type} (f : Context → Option α) {context : Context}
    (h : cs.at? c = some context) :
    ((cs.lineage c).findSome? fun i => (cs.at? i).bind f) = (f context).or
      ((context.parent?.filter fun p => decide (p < c)).bind fun p =>
        (cs.lineage p).findSome? fun i => (cs.at? i).bind f) := by
  have hown : (cs.at? c).bind f = f context := by rw [h, Option.bind_some]
  rw [lineage]
  simp only [h]
  cases hparent : context.parent? with
  | none =>
      simp only [List.findSome?_cons, List.findSome?_nil, hown, Option.filter_none,
        Option.bind_none, Option.or_none]
      cases f context <;> rfl
  | some p =>
      by_cases holder : p < c
      · simp only [holder, if_true, List.findSome?_cons, hown, Option.filter_some, decide_true,
          Option.bind_some]
        cases f context <;> rfl
      · simp only [holder, if_false, List.findSome?_cons, List.findSome?_nil, hown,
          Option.filter_some, decide_false, Bool.false_eq_true, Option.bind_none, Option.or_none]
        cases f context <;> rfl

/-- Looking for an attacher goes up from a context to its parent. -/
theorem attacher?_eq {context : Context} (h : cs.at? c = some context) :
    cs.attacher? c = context.attacher?.or
      ((context.parent?.filter fun p => decide (p < c)).bind cs.attacher?) :=
  findSome?_lineage (·.attacher?) h

theorem attacher?_of_unknown (h : cs.at? c = none) : cs.attacher? c = none := by
  unfold attacher?
  rw [lineage, h]
  rfl

/-- The search finds the nearest attacher. -/
theorem Nearest.attacher?_eq_some (h : cs.Nearest c name) : cs.attacher? c = some name := by
  induction h with
  | own hat hname => rw [attacher?_eq hat, hname, Option.some_or]
  | inherited hat hown hparent holder _ ih =>
      rw [attacher?_eq hat, hown, Option.none_or, hparent, Option.filter_some, decide_eq_true holder,
        if_pos rfl, Option.bind_some]
      exact ih

/-- What the search finds is the nearest attacher. -/
theorem nearest_of_attacher? (h : cs.attacher? c = some name) : cs.Nearest c name := by
  induction c using Nat.strongRecOn with
  | ind c ih =>
      cases found : cs.at? c with
      | none => cases (attacher?_of_unknown found).symm.trans h
      | some context =>
          rw [attacher?_eq found, Option.or_eq_some_iff] at h
          rcases h with hown | ⟨hown, hsearch⟩
          · exact .own found hown
          · obtain ⟨p, hparent, hfound⟩ := Option.bind_eq_some_iff.1 hsearch
            rw [Option.filter_eq_some_iff, decide_eq_true_iff] at hparent
            obtain ⟨hparent, holder⟩ := hparent
            exact .inherited found hown hparent holder (ih p holder hfound)

/-- The attacher that is found is the nearest one. -/
theorem attacher?_eq_some_iff : cs.attacher? c = some name ↔ cs.Nearest c name :=
  ⟨nearest_of_attacher?, Nearest.attacher?_eq_some⟩

end Contexts

end PollingAssertions
