import PollingAssertions.Probe.Source

/-!
# Taking from a source

A parameter may ask its source for a context, for the next argument and for
all that are left, in any order and as often as it likes. Each of these calls
moves the cursor past the arguments it hands out and past no others, so what
has been handed out is always the beginning of the list of arguments. A
context is handed out as an argument only if nothing was handed out before it.

## Main definitions

* `Taking` — the three calls.
* `Source.unused` — the arguments that nobody has taken.
* `Source.handed`, `Source.after` — what a call hands out, and the source it
  leaves; `Source.handedAll` and `Source.afterAll` are the same for calls one
  after the other.
* `Source.Taken` — the arguments that have been handed out are those before
  the cursor.

## Main results

* `Source.exists_taken` — what a single call does.
* `Source.Taken.step`, `Source.Taken.run` — a call keeps this, and so do any
  number of calls.
* `Source.handedAll_eq_take` — what is handed out by calls in any order.
-/

namespace PollingAssertions

/-- A call that takes from a source. -/
inductive Taking where
  | context
  | next
  | rest
deriving DecidableEq, Repr

namespace Source

/-- The arguments that nobody has taken. -/
def unused (source : Source) : List Argument := source.arguments.drop source.cursor

/-- The arguments that a call hands out. A context is one of them if the cursor has moved. -/
def handed (source : Source) : Taking → List Argument
  | .context =>
      match source.takeContext with
      | (some c, after) => if after.cursor = source.cursor then [] else [.context c]
      | (none, _) => []
  | .next => source.next.1.toList
  | .rest => source.rest.1

/-- The source that a call leaves. -/
def after (source : Source) : Taking → Source
  | .context => source.takeContext.2
  | .next => source.next.2
  | .rest => source.rest.2

/-- The arguments that calls hand out, in the order of the calls. -/
def handedAll (source : Source) : List Taking → List Argument
  | [] => []
  | call :: calls => source.handed call ++ (source.after call).handedAll calls

/-- The source that calls leave. -/
def afterAll (source : Source) (calls : List Taking) : Source := calls.foldl after source

variable {start source : Source} {given : List Argument} {call : Taking}

theorem afterAll_append (source : Source) (calls more : List Taking) :
    source.afterAll (calls ++ more) = (source.afterAll calls).afterAll more :=
  List.foldl_append

/-! ## A single call -/

theorem forwarded?_eq_some_iff {arguments : List Argument} {c : ContextId} :
    forwarded? arguments = some c ↔ arguments.head? = some (.context c) := by
  cases arguments with
  | nil => simp [forwarded?]
  | cons argument arguments => cases argument <;> simp [forwarded?, Argument.context?]

theorem takeContext_of_forwarded {c : ContextId} (hfirst : source.cursor = 0)
    (hforwarded : forwarded? source.arguments = some c) :
    source.takeContext = (some c, { source with cursor := 1 }) := by
  unfold takeContext
  rw [if_pos hfirst, hforwarded]

theorem takeContext_of_late (h : source.cursor ≠ 0) :
    source.takeContext = (source.context?, source) := by
  unfold takeContext
  rw [if_neg h]

theorem takeContext_of_none (h : forwarded? source.arguments = none) :
    source.takeContext = (source.context?, source) := by
  unfold takeContext
  rw [h, ite_self]

theorem handed_context_of_eq (h : source.takeContext = (source.context?, source)) :
    source.handed .context = [] := by
  simp only [handed, h]
  cases source.context? with
  | none => rfl
  | some c => exact if_pos rfl

theorem next_of_unused_nil (h : source.unused = []) : source.next = (none, source) := by
  have hpeek : source.peek? = none := by
    rw [peek?, List.getElem?_eq_none_iff]
    exact List.drop_eq_nil_iff.1 h
  unfold next
  rw [hpeek]

theorem next_of_unused_cons {argument : Argument} {others : List Argument}
    (h : source.unused = argument :: others) :
    source.next = (some argument, { source with cursor := source.cursor + 1 }) := by
  have hpeek : source.peek? = some argument := by
    have hhead : source.unused.head? = some argument := by rw [h]; rfl
    rw [unused, List.head?_drop] at hhead
    exact hhead
  unfold next
  rw [hpeek]

theorem unused_next {argument : Argument} {others : List Argument}
    (h : source.unused = argument :: others) :
    ({ source with cursor := source.cursor + 1 } : Source).unused = others := by
  have htail : source.unused.tail = others := by rw [h]; rfl
  rw [unused, List.tail_drop] at htail
  exact htail

theorem unused_of_first (h : source.cursor = 0) : source.unused = source.arguments := by
  rw [unused, h, List.drop_zero]

/-- Each call hands out the arguments that it moves the cursor past, and changes nothing else. -/
theorem exists_taken (hcursor : source.cursor ≤ source.arguments.length) (call : Taking) :
    ∃ n, source.cursor + n ≤ source.arguments.length ∧
      source.after call = { source with cursor := source.cursor + n } ∧
      source.handed call = source.unused.take n := by
  have hlength : source.unused.length = source.arguments.length - source.cursor :=
    List.length_drop
  have hconfigured : source.takeContext = (source.context?, source) →
      ∃ n, source.cursor + n ≤ source.arguments.length ∧
        source.after .context = { source with cursor := source.cursor + n } ∧
        source.handed .context = source.unused.take n := by
    intro heq
    refine ⟨0, hcursor, ?_, handed_context_of_eq heq⟩
    rw [after, heq]
    rfl
  cases call with
  | context =>
      by_cases hfirst : source.cursor = 0
      · cases hforwarded : forwarded? source.arguments with
        | none => exact hconfigured (takeContext_of_none hforwarded)
        | some c =>
            have heq := takeContext_of_forwarded hfirst hforwarded
            obtain ⟨others, hothers⟩ : ∃ others, source.arguments = .context c :: others :=
              List.head?_eq_some_iff.1 (forwarded?_eq_some_iff.1 hforwarded)
            refine ⟨1, ?_, ?_, ?_⟩
            · rw [hfirst, hothers, List.length_cons]
              omega
            · rw [after, heq, hfirst]
            · rw [unused_of_first hfirst, hothers]
              simp [handed, heq, hfirst]
      · exact hconfigured (takeContext_of_late hfirst)
  | next =>
      cases hunused : source.unused with
      | nil =>
          have heq := next_of_unused_nil hunused
          refine ⟨0, hcursor, ?_, ?_⟩
          · rw [after, heq]
            rfl
          · rw [handed, heq]
            rfl
      | cons argument others =>
          have heq := next_of_unused_cons hunused
          rw [hunused, List.length_cons] at hlength
          refine ⟨1, by omega, by rw [after, heq], ?_⟩
          rw [handed, heq]
          rfl
  | rest =>
      refine ⟨source.unused.length, by omega, ?_, ?_⟩
      · show { source with cursor := source.arguments.length } = _
        rw [hlength, Nat.add_sub_cancel' hcursor]
      · rw [List.take_length]
        rfl

/-! ## Any number of calls -/

/-- The arguments that have been handed out are those before the cursor, and nothing but the
cursor has changed. -/
structure Taken (start : Source) (given : List Argument) (source : Source) : Prop where
  same : source = { start with cursor := source.cursor }
  cursor_le : source.cursor ≤ start.arguments.length
  given_eq : given = start.arguments.take source.cursor

theorem Taken.arguments_eq (h : Taken start given source) : source.arguments = start.arguments := by
  rw [h.same]

theorem Taken.context?_eq (h : Taken start given source) : source.context? = start.context? := by
  rw [h.same]

/-- A call keeps it, and does not move the cursor back. -/
theorem Taken.step (h : Taken start given source) (call : Taking) :
    Taken start (given ++ source.handed call) (source.after call) ∧
      source.cursor ≤ (source.after call).cursor := by
  have hcursor : source.cursor ≤ source.arguments.length := by
    rw [h.arguments_eq]
    exact h.cursor_le
  obtain ⟨n, hle, hafter, hhanded⟩ := exists_taken hcursor call
  rw [h.arguments_eq] at hle
  rw [unused, h.arguments_eq] at hhanded
  rw [hafter]
  refine ⟨⟨?_, hle, ?_⟩, Nat.le_add_right _ _⟩
  · rw [h.same]
  · rw [h.given_eq, hhanded, List.take_add]

/-- So do any number of calls. -/
theorem Taken.run (h : Taken start given source) (calls : List Taking) :
    Taken start (given ++ source.handedAll calls) (source.afterAll calls) ∧
      source.cursor ≤ (source.afterAll calls).cursor := by
  induction calls generalizing given source with
  | nil =>
      rw [handedAll, List.append_nil]
      exact ⟨h, Nat.le_refl _⟩
  | cons call calls ih =>
      obtain ⟨hstep, hle⟩ := h.step call
      obtain ⟨hrun, hle'⟩ := ih hstep
      rw [handedAll, ← List.append_assoc]
      exact ⟨hrun, Nat.le_trans hle hle'⟩

theorem taken_fresh (checker : CheckerId) (context? : Option ContextId)
    (arguments : List Argument) :
    Taken (fresh checker context? arguments) [] (fresh checker context? arguments) :=
  ⟨rfl, Nat.zero_le _, rfl⟩

/-- Nothing is left once everything that was left has been taken. -/
theorem Taken.cursor_of_rest (h : Taken start given source) {calls : List Taking}
    (hrest : .rest ∈ calls) : (source.afterAll calls).cursor = start.arguments.length := by
  obtain ⟨before, more, rfl⟩ := List.append_of_mem hrest
  obtain ⟨hbefore, _⟩ := h.run before
  obtain ⟨hstep, _⟩ := hbefore.step .rest
  obtain ⟨hmore, hle⟩ := hstep.run more
  rw [afterAll_append]
  have hend : ((source.afterAll before).after .rest).cursor = start.arguments.length :=
    congrArg List.length hbefore.arguments_eq
  exact Nat.le_antisymm hmore.cursor_le (hend ▸ hle)

/-- Whatever is called in whatever order, the arguments that have been handed out, one after the
other, are those before the cursor, which only moves forward and not beyond the last argument.
A context that stands first among the arguments is handed out if nothing was handed out before
it, and in all other cases the context is the configured one. After everything that was left has
been taken, nothing is left. -/
theorem handedAll_eq_take (checker : CheckerId) (context? : Option ContextId)
    (arguments : List Argument) (calls : List Taking) :
    let start := fresh checker context? arguments
    let source := start.afterAll calls
    start.handedAll calls = arguments.take source.cursor ∧
      source.cursor ≤ arguments.length ∧
      source = { start with cursor := source.cursor } ∧
      (∀ more, source.cursor ≤ (source.afterAll more).cursor) ∧
      (∀ c, arguments.head? = some (.context c) → start.handedAll calls = [] →
        source.takeContext = (some c, { source with cursor := 1 })) ∧
      ((∀ c, arguments.head? ≠ some (.context c)) ∨ start.handedAll calls ≠ [] →
        source.takeContext = (context?, source)) ∧
      (.rest ∈ calls → source.cursor = arguments.length ∧ source.next = (none, source) ∧
        source.rest = ([], source)) := by
  intro start source
  obtain ⟨htaken, -⟩ := (taken_fresh checker context? arguments).run calls
  rw [List.nil_append] at htaken
  have harguments : source.arguments = arguments := htaken.arguments_eq
  have hgiven : start.handedAll calls = arguments.take source.cursor := htaken.given_eq
  refine ⟨hgiven, htaken.cursor_le, htaken.same, fun more => (htaken.run more).2,
    fun c hhead hnothing => ?_, fun hlate => ?_, fun hrest => ?_⟩
  · have hfirst : source.cursor = 0 := by
      rw [hgiven, List.take_eq_nil_iff] at hnothing
      rcases hnothing with hzero | rfl
      · exact hzero
      · cases hhead
    refine takeContext_of_forwarded hfirst ?_
    rw [harguments]
    exact forwarded?_eq_some_iff.2 hhead
  · have hconfigured : source.takeContext = (source.context?, source) := by
      rcases hlate with hother | hsome
      · refine takeContext_of_none (Option.eq_none_iff_forall_ne_some.2 fun c hc => ?_)
        rw [harguments] at hc
        exact hother c (forwarded?_eq_some_iff.1 hc)
      · refine takeContext_of_late fun hzero => hsome ?_
        rw [hgiven, hzero, List.take_zero]
    rw [hconfigured, htaken.context?_eq]
    rfl
  · have hend : source.cursor = arguments.length :=
      (taken_fresh checker context? arguments).cursor_of_rest hrest
    have hleft : source.unused = [] := by
      rw [unused, harguments, hend, List.drop_length]
    refine ⟨hend, next_of_unused_nil hleft, ?_⟩
    have hlength : source.arguments.length = source.cursor := by rw [harguments, hend]
    show (source.unused, { source with cursor := source.arguments.length }) = ([], source)
    rw [hleft, hlength]

/-- A context that stands first is handed out once and the arguments after it follow. The second
context is the configured one, and the call after everything finds nothing. -/
theorem handedAll_eq_take_forwarded :
    let start := fresh 0 (some 7) [.context 3, .value (.ofString "a"), .value (.ofString "b")]
    let source := start.afterAll [.context, .context, .next, .rest]
    start.handedAll [.context, .context, .next, .rest] =
        [.context 3, .value (.ofString "a"), .value (.ofString "b")] ∧
      (start.afterAll [.context]).takeContext = (some 7, start.afterAll [.context]) ∧
      source.next = (none, source) := by
  intro start source
  have hall := handedAll_eq_take 0 (some 7)
    [.context 3, .value (.ofString "a"), .value (.ofString "b")] [.context, .context, .next, .rest]
  have hfirst := handedAll_eq_take 0 (some 7)
    [.context 3, .value (.ofString "a"), .value (.ofString "b")] [.context]
  obtain ⟨hgiven, -, -, -, -, -, hrest⟩ := hall
  obtain ⟨-, -, -, -, -, hlate, -⟩ := hfirst
  have hsome : (fresh 0 (some 7) [.context 3, .value (.ofString "a"),
      .value (.ofString "b")]).handedAll [.context] ≠ [] := by
    intro hnothing
    cases hnothing
  exact ⟨hgiven, hlate (.inr hsome), (hrest (by simp)).2.1⟩

end Source

end PollingAssertions
