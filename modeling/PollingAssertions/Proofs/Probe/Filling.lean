import PollingAssertions.Proofs.Polling.Course
import PollingAssertions.Proofs.Probe.Order
import PollingAssertions.Proofs.Probe.Taking
import PollingAssertions.Session.World

/-!
# Checking before filling

The check of a shape counts values and tries each argument on its parameter.
The filling walks over the arguments with a cursor. They are written apart
from each other, and here it is shown that they agree for the ready-made
parameters: the check succeeds exactly if the order is right, the probe can
report, and filling succeeds and uses every argument.

What comes between the two is a table (`Lineup.Receives`): which value each
single parameter has from which argument, and which values the rest has. The
check holds exactly if there is such a table, and the filling yields it.

## Main definitions

* `Param.Ready` — the ready-made parameters.
* `Lineup` — ready-made parameters in order.
* `Lineup.Receives` — what the arguments amount to.
* `Param.leaves` — what filling leaves of a source.

## Main results

* `Shape.validate_eq_ok_iff` — what the check finds out, without counting.
* `Shape.validate_ok_iff_filled` — the check and the filling agree, and
  what each parameter is filled with.
-/

namespace PollingAssertions

/-! ## Conversions of all arguments -/

/-- Conversions succeed for a whole list exactly if they do one by one. -/
theorem mapM_eq_some_iff {α β : Type} {f : α → Option β} {as : List α} {bs : List β} :
    as.mapM f = some bs ↔ as.map f = bs.map some := by
  induction as generalizing bs with
  | nil => cases bs <;> simp
  | cons a as ih =>
      rw [List.mapM_cons, List.map_cons]
      cases ha : f a with
      | none => cases bs <;> simp
      | some b =>
          cases bs with
          | nil => cases hbs : as.mapM f <;> simp
          | cons b' bs =>
              rw [List.map_cons, List.cons.injEq, Option.some.injEq, ← ih]
              cases hbs : as.mapM f <;> simp

theorem exists_map_eq_map_some_iff {α β : Type} {f : α → Option β} {as : List α} :
    (∃ bs : List β, as.map f = bs.map some) ↔ ∀ a ∈ as, (f a).isSome = true := by
  constructor
  · rintro ⟨bs, h⟩ a ha
    have hmem : f a ∈ bs.map some := by
      rw [← h]
      exact List.mem_map_of_mem ha
    obtain ⟨b, _, hb⟩ := List.mem_map.1 hmem
    exact Option.isSome_of_eq_some hb.symm
  · intro h
    induction as with
    | nil => exact ⟨[], rfl⟩
    | cons a as ih =>
        obtain ⟨b, hb⟩ := Option.isSome_iff_exists.1 (h a List.mem_cons_self)
        obtain ⟨bs, hbs⟩ := ih fun a ha => h a (List.mem_cons_of_mem _ ha)
        exact ⟨b :: bs, by rw [List.map_cons, List.map_cons, hb, hbs]⟩

/-! ## Ready-made parameters in order -/

namespace Param

/-- The parameters that come ready made. -/
inductive Ready : Param → Prop
  | checker : Ready .checker
  | context : Ready .context
  | fixed (forwarded : Forwarded) : Ready (.fixed forwarded)
  | rest (forwarded : Forwarded) : Ready (.rest forwarded)

/-- The source as filling parameters leaves it. -/
def leaves (params : List Param) (source : Source) : Source :=
  params.foldl (fun source param => (param.fetch source).2) source

theorem fetchAll_cons {kind : Kind} {signature : String} {position : Nat} {param : Param}
    {params : List Param} {source : Source} {delivered : List Delivered} :
    fetchAll kind signature position (param :: params) source = .ok delivered ↔
      ∃ d ds, (param.fetch source).1 = some d ∧
        fetchAll kind signature (position + 1) params (param.fetch source).2 = .ok ds ∧
        delivered = d :: ds := by
  rw [fetchAll]
  cases hfetch : param.fetch source with
  | mk found after =>
      cases found with
      | none => simp
      | some d =>
          cases hothers : fetchAll kind signature (position + 1) params after with
          | error e => simp [hothers, Except.map]
          | ok ds => simp [hothers, Except.map, eq_comm]

end Param

/-- The ready-made parameters of a function that are in order. -/
structure Lineup where
  checker : Bool
  context : Bool
  fixed : List Forwarded
  rest? : Option Forwarded

namespace Lineup

/-- The parameters that take arguments. -/
def tail (fixed : List Forwarded) (rest? : Option Forwarded) : List Param :=
  fixed.map .fixed ++ (rest?.map .rest).toList

/-- All parameters. -/
def params (lineup : Lineup) : List Param :=
  List.replicate lineup.checker.toNat .checker ++
    (List.replicate lineup.context.toNat .context ++ tail lineup.fixed lineup.rest?)

theorem map_kind_tail (fixed : List Forwarded) (rest? : Option Forwarded) :
    (tail fixed rest?).map (·.kind) = Shape.inOrder false false fixed.length rest?.isSome := by
  cases rest? with
  | none => simp [tail, Shape.inOrder, Param.fixed, List.map_const', Function.comp_def]
  | some forwarded =>
      simp [tail, Shape.inOrder, Param.fixed, Param.rest, List.map_const', Function.comp_def]

theorem map_kind_params (lineup : Lineup) :
    lineup.params.map (·.kind) = Shape.inOrder lineup.checker lineup.context lineup.fixed.length
      lineup.rest?.isSome := by
  rw [params, List.map_append, List.map_append, map_kind_tail]
  simp [Shape.inOrder, List.map_replicate, Param.checker, Param.context]

theorem checker_mem_iff (lineup : Lineup) :
    .checker ∈ lineup.params.map (·.kind) ↔ lineup.checker = true := by
  rw [map_kind_params]
  cases lineup.checker <;> simp [Shape.inOrder]

/-- Ready-made parameters that begin with single arguments, perhaps followed
by a rest. -/
private theorem exists_tail {params : List Param} (hready : ∀ p ∈ params, p.Ready) {n : Nat}
    {rest : Bool} (hkinds : params.map (·.kind) = Shape.inOrder false false n rest) :
    ∃ fixed rest?, params = tail fixed rest? := by
  induction n generalizing params with
  | zero =>
      cases rest with
      | false =>
          rw [Shape.inOrder_nothing, List.map_eq_nil_iff] at hkinds
          exact ⟨[], none, hkinds⟩
      | true =>
          rw [Shape.inOrder_rest, List.map_eq_singleton_iff] at hkinds
          obtain ⟨param, rfl, hkind⟩ := hkinds
          cases hready param List.mem_cons_self with
          | rest forwarded => exact ⟨[], some forwarded, rfl⟩
          | checker => cases hkind
          | context => cases hkind
          | fixed forwarded => cases hkind
  | succ n ih =>
      rw [Shape.inOrder_fixed, List.map_eq_cons_iff] at hkinds
      obtain ⟨param, params, rfl, hkind, hothers⟩ := hkinds
      obtain ⟨fixed, rest?, rfl⟩ := ih (fun p hp => hready p (List.mem_cons_of_mem _ hp)) hothers
      cases hready param List.mem_cons_self with
      | fixed forwarded => exact ⟨forwarded :: fixed, rest?, rfl⟩
      | checker => cases hkind
      | context => cases hkind
      | rest forwarded => cases hkind

private theorem eq_replicate_of_kind {params : List Param} {param : Param} {n : Nat}
    (hkinds : params.map (·.kind) = List.replicate n param.kind)
    (honly : ∀ p ∈ params, p.kind = param.kind → p = param) :
    params = List.replicate n param := by
  rw [List.eq_replicate_iff, List.length_map] at hkinds
  rw [List.eq_replicate_iff]
  exact ⟨hkinds.1, fun p hp => honly p hp (hkinds.2 _ (List.mem_map_of_mem hp))⟩

/-- Ready-made parameters whose kinds are in order are lined up. -/
theorem exists_params {params : List Param} (hready : ∀ p ∈ params, p.Ready)
    (hordered : Shape.Ordered (params.map (·.kind))) : ∃ lineup : Lineup, params = lineup.params := by
  obtain ⟨checker, context, n, rest, hkinds⟩ := hordered
  rw [Shape.inOrder, List.map_eq_append_iff] at hkinds
  obtain ⟨checkers, others, rfl, hcheckers, hothers⟩ := hkinds
  rw [List.map_eq_append_iff] at hothers
  obtain ⟨contexts, others, rfl, hcontexts, hothers⟩ := hothers
  have hkinds : others.map (·.kind) = Shape.inOrder false false n rest := hothers
  obtain ⟨fixed, rest?, rfl⟩ := exists_tail (fun p hp => hready p (by simp [hp])) hkinds
  have hcheckers : checkers = List.replicate checker.toNat .checker := by
    refine eq_replicate_of_kind hcheckers fun p hp hkind => ?_
    cases hready p (by simp [hp]) with
    | checker => rfl
    | context => cases hkind
    | fixed forwarded => cases hkind
    | rest forwarded => cases hkind
  have hcontexts : contexts = List.replicate context.toNat .context := by
    refine eq_replicate_of_kind hcontexts fun p hp hkind => ?_
    cases hready p (by simp [hp]) with
    | context => rfl
    | checker => cases hkind
    | fixed forwarded => cases hkind
    | rest forwarded => cases hkind
  exact ⟨⟨checker, context, fixed, rest?⟩, by rw [hcheckers, hcontexts]; rfl⟩

/-! ## What the arguments amount to -/

/-- Each single parameter has the value of the argument in its place, and the
rest, if there is one, has the values of all the others. -/
structure Receives (fixed : List Forwarded) (rest? : Option Forwarded) (arguments : List Argument)
    (values others : List Value) : Prop where
  length_eq : values.length = fixed.length
  fixed_eq : List.zipWith Forwarded.convert fixed arguments = values.map some
  rest_eq : match rest? with
    | some forwarded => (arguments.drop fixed.length).map forwarded.convert = others.map some
    | none => arguments.drop fixed.length = [] ∧ others = []

section

variable {fixed : List Forwarded} {rest? : Option Forwarded} {forwarded : Forwarded}
  {arguments : List Argument} {values others : List Value}

theorem receives_nil_none : Receives [] none arguments values others ↔
    values = [] ∧ arguments = [] ∧ others = [] := by
  constructor
  · intro h
    obtain ⟨hlength, _, hrest⟩ := h
    exact ⟨List.length_eq_zero_iff.1 hlength, hrest⟩
  · intro h
    obtain ⟨rfl, rfl, rfl⟩ := h
    exact ⟨rfl, rfl, rfl, rfl⟩

theorem receives_nil_some : Receives [] (some forwarded) arguments values others ↔
    values = [] ∧ arguments.map forwarded.convert = others.map some := by
  constructor
  · intro h
    obtain ⟨hlength, _, hrest⟩ := h
    exact ⟨List.length_eq_zero_iff.1 hlength, hrest⟩
  · intro h
    obtain ⟨rfl, hrest⟩ := h
    exact ⟨rfl, rfl, hrest⟩

theorem not_receives_cons_nil : ¬ Receives (forwarded :: fixed) rest? [] values others := by
  intro h
  obtain ⟨hlength, hfixed, _⟩ := h
  have hnil : values = [] := by simpa using hfixed.symm
  rw [hnil] at hlength
  cases hlength

theorem receives_cons_cons {argument : Argument} :
    Receives (forwarded :: fixed) rest? (argument :: arguments) values others ↔
      ∃ v vs, forwarded.convert argument = some v ∧ Receives fixed rest? arguments vs others ∧
        values = v :: vs := by
  constructor
  · intro h
    obtain ⟨hlength, hfixed, hrest⟩ := h
    rw [List.zipWith_cons_cons] at hfixed
    obtain ⟨v, vs, rfl, hv, hvs⟩ := List.map_eq_cons_iff.1 hfixed.symm
    exact ⟨v, vs, hv.symm, ⟨by simpa using hlength, hvs.symm, hrest⟩, rfl⟩
  · intro h
    obtain ⟨v, vs, hv, ⟨hlength, hfixed, hrest⟩, rfl⟩ := h
    refine ⟨by simpa using hlength, ?_, hrest⟩
    rw [List.zipWith_cons_cons, hv, hfixed, List.map_cons]

end

/-! ## What the check finds out -/

section

variable {fixed : List Forwarded} {rest? : Option Forwarded} {arguments : List Argument}

/-- There is an argument for each single parameter, and none is left over
unless a rest takes it. -/
def Suffices (fixed : List Forwarded) (rest? : Option Forwarded) (arguments : List Argument) :
    Prop :=
  match rest? with
  | some _ => fixed.length ≤ arguments.length
  | none => arguments.length = fixed.length

private theorem suffices_cons_cons {forwarded : Forwarded} {argument : Argument} :
    Suffices (forwarded :: fixed) rest? (argument :: arguments) ↔
      Suffices fixed rest? arguments := by
  cases rest? <;> simp [Suffices]

private theorem refused?_fixed_cons {forwarded : Forwarded} {argument : Argument}
    {position : Nat} :
    Shape.refused? position (tail (forwarded :: fixed) rest?) (argument :: arguments) = none ↔
      (forwarded.convert argument).isSome = true ∧
        Shape.refused? (position + 1) (tail fixed rest?) arguments = none := by
  show (if (forwarded.convert argument).isSome = true then
      Shape.refused? (position + 1) (tail fixed rest?) arguments
    else some (position, Param.fixed forwarded, argument)) = none ↔ _
  by_cases hv : (forwarded.convert argument).isSome = true
  · simp [hv]
  · simp [hv]

private theorem refused?_rest {forwarded : Forwarded} {position : Nat} :
    Shape.refused? position [.rest forwarded] arguments = none ↔
      ∃ others : List Value, arguments.map forwarded.convert = others.map some := by
  rw [exists_map_eq_map_some_iff]
  have hfind : Shape.refused? position [.rest forwarded] arguments = none ↔
      arguments.find? (fun argument => !(forwarded.convert argument).isSome) = none := by
    have hkind : (Param.rest forwarded).kind = .variadic := rfl
    have haccepts : ∀ argument, (Param.rest forwarded).accepts argument =
        (forwarded.convert argument).isSome := fun _ => rfl
    simp only [Shape.refused?, hkind, haccepts]
    cases arguments.find? fun argument => !(forwarded.convert argument).isSome <;> simp
  rw [hfind, List.find?_eq_none]
  simp [Option.isSome_iff_ne_none]

/-- The check of the arguments holds exactly if they amount to values for all
parameters. -/
theorem refused?_tail_iff {position : Nat} :
    (Suffices fixed rest? arguments ∧
        Shape.refused? position (tail fixed rest?) arguments = none) ↔
      ∃ values others, Receives fixed rest? arguments values others := by
  induction fixed generalizing position arguments with
  | nil =>
      cases rest? with
      | none =>
          simp only [receives_nil_none]
          constructor
          · intro h
            obtain ⟨hlength, _⟩ := h
            exact ⟨[], [], rfl, List.length_eq_zero_iff.1 hlength, rfl⟩
          · intro h
            obtain ⟨_, _, rfl, rfl, rfl⟩ := h
            exact ⟨rfl, rfl⟩
      | some forwarded =>
          simp only [receives_nil_some]
          constructor
          · intro h
            obtain ⟨_, hrest⟩ := h
            obtain ⟨others, hothers⟩ := refused?_rest.1 hrest
            exact ⟨[], others, rfl, hothers⟩
          · intro h
            obtain ⟨_, others, rfl, hothers⟩ := h
            exact ⟨Nat.zero_le _, refused?_rest.2 ⟨others, hothers⟩⟩
  | cons forwarded fixed ih =>
      cases arguments with
      | nil =>
          constructor
          · intro h
            obtain ⟨hlength, _⟩ := h
            cases rest? <;> cases hlength
          · intro h
            obtain ⟨_, _, hreceives⟩ := h
            exact absurd hreceives not_receives_cons_nil
      | cons argument arguments =>
          simp only [receives_cons_cons]
          rw [suffices_cons_cons, refused?_fixed_cons, and_left_comm, ih]
          constructor
          · intro h
            obtain ⟨hv, values, others, hreceives⟩ := h
            obtain ⟨v, hv⟩ := Option.isSome_iff_exists.1 hv
            exact ⟨v :: values, others, v, values, hv, hreceives, rfl⟩
          · intro h
            obtain ⟨_, others, v, values, hv, hreceives, rfl⟩ := h
            exact ⟨Option.isSome_of_eq_some hv, values, others, hreceives⟩

end

/-- The arguments that are not for the context. -/
def remaining (lineup : Lineup) (arguments : List Argument) : List Argument :=
  arguments.drop (lineup.context && (Source.forwarded? arguments).isSome).toNat

section

variable {shape : Shape} {lineup : Lineup} {arguments : List Argument}

private theorem supplied_eq (h : shape.params = lineup.params) :
    shape.supplied arguments =
      lineup.checker.toNat + lineup.context.toNat + (lineup.remaining arguments).length := by
  have hkinds : shape.params.map (·.kind) = Shape.inOrder lineup.checker lineup.context
      lineup.fixed.length lineup.rest?.isSome := by
    rw [h, map_kind_params]
  rw [Shape.supplied_eq_of_inOrder hkinds, Shape.forwardsContext,
    Shape.takesContext_eq_of_inOrder hkinds, remaining]

private theorem fits_iff_suffices (h : shape.params = lineup.params) :
    shape.fits arguments = true ↔
      Suffices lineup.fixed lineup.rest? (lineup.remaining arguments) := by
  have hkinds : shape.params.map (·.kind) = Shape.inOrder lineup.checker lineup.context
      lineup.fixed.length lineup.rest?.isSome := by
    rw [h, map_kind_params]
  rw [Shape.fits, Shape.isVariadic_eq_of_inOrder hkinds, Shape.length_eq_of_inOrder hkinds,
    supplied_eq h]
  cases lineup.rest? with
  | none => simp [Suffices]
  | some forwarded => simp [Suffices]

/-- A checker and a context take part in the check only by their number. -/
private theorem refused?_params_iff {position : Nat} :
    (Suffices lineup.fixed lineup.rest? arguments ∧
        Shape.refused? position lineup.params arguments = none) ↔
      ∃ values others, Receives lineup.fixed lineup.rest? arguments values others := by
  obtain ⟨checker, context, fixed, rest?⟩ := lineup
  cases checker <;> cases context
  case false.false => exact refused?_tail_iff
  case false.true =>
    show (_ ∧ Shape.refused? (position + 1) (tail fixed rest?) arguments = none) ↔ _
    exact refused?_tail_iff
  case true.false =>
    show (_ ∧ Shape.refused? (position + 1) (tail fixed rest?) arguments = none) ↔ _
    exact refused?_tail_iff
  case true.true =>
    show (_ ∧ Shape.refused? (position + 1 + 1) (tail fixed rest?) arguments = none) ↔ _
    exact refused?_tail_iff

/-- What the check finds out about ready-made parameters that are in order,
in terms of the arguments alone. -/
theorem validate_eq_ok_iff (h : shape.params = lineup.params) {kind : Kind}
    {context? : Option ContextId} :
    shape.validate kind context? arguments = .ok () ↔
      (shape.returning = .nothing → lineup.checker = true) ∧
        (lineup.context = true → ((Source.forwarded? arguments).or context?).isSome = true) ∧
        ∃ values others, Receives lineup.fixed lineup.rest? (lineup.remaining arguments) values
          others := by
  have hkinds : shape.params.map (·.kind) = Shape.inOrder lineup.checker lineup.context
      lineup.fixed.length lineup.rest?.isSome := by
    rw [h, map_kind_params]
  have hsound : shape.isSound = true ↔ (shape.returning = .nothing → lineup.checker = true) := by
    rw [Shape.isSound, hkinds, Shape.ascending_inOrder, Shape.takesChecker_eq_of_inOrder hkinds]
    cases shape.returning <;> simp
  have hcontext : (shape.wantsContext arguments && context?.isNone) = false ↔
      (lineup.context = true → ((Source.forwarded? arguments).or context?).isSome = true) := by
    rw [Shape.wantsContext, Shape.forwardsContext, Shape.takesContext_eq_of_inOrder hkinds]
    cases lineup.context <;> cases Source.forwarded? arguments <;> cases context? <;> simp
  have hremaining : arguments.drop (shape.forwardsContext arguments).toNat =
      lineup.remaining arguments := by
    rw [Shape.forwardsContext, Shape.takesContext_eq_of_inOrder hkinds, remaining]
  have hrefused : (Suffices lineup.fixed lineup.rest? (lineup.remaining arguments) ∧
      Shape.refused? 0 lineup.params (lineup.remaining arguments) = none) ↔
        ∃ values others, Receives lineup.fixed lineup.rest? (lineup.remaining arguments) values
          others :=
    refused?_params_iff
  rw [← hsound, ← hcontext, ← hrefused, ← fits_iff_suffices h, Shape.validate, hremaining, h]
  -- the four checks are independent of each other from here on
  cases shape.isSound with
  | false => simp
  | true =>
      cases shape.wantsContext arguments && context?.isNone with
      | true => simp
      | false =>
          cases shape.fits arguments with
          | false => simp
          | true =>
              cases Shape.refused? 0 lineup.params (lineup.remaining arguments) <;> simp

end

/-! ## What filling comes to -/

section

variable {kind : Kind} {signature : String} {position : Nat} {fixed : List Forwarded}
  {rest? : Option Forwarded} {forwarded : Forwarded} {source : Source}
  {delivered : List Delivered}

/-- The values of single parameters and of a rest, as they are delivered. -/
def deliveredTail (rest? : Option Forwarded) (values others : List Value) : List Delivered :=
  values.map .value ++ rest?.toList.map fun _ => .rest others

private theorem fetch_fixed_nil (h : source.unused = []) :
    (Param.fixed forwarded).fetch source = (none, source) := by
  show (((source.next).1.bind forwarded.convert).map Delivered.value, (source.next).2) = _
  rw [Source.next_of_unused_nil h]
  rfl

private theorem fetch_fixed_cons {argument : Argument} {others : List Argument}
    (h : source.unused = argument :: others) :
    (Param.fixed forwarded).fetch source =
      ((forwarded.convert argument).map .value, { source with cursor := source.cursor + 1 }) := by
  show (((source.next).1.bind forwarded.convert).map Delivered.value, (source.next).2) = _
  rw [Source.next_of_unused_cons h]
  rfl

private theorem fetch_rest :
    (Param.rest forwarded).fetch source =
      ((source.unused.mapM forwarded.convert).map .rest,
        { source with cursor := source.arguments.length }) :=
  rfl

/-- Filling the parameters that take arguments succeeds and leaves nothing
exactly if the arguments amount to values for them. -/
theorem fetchAll_tail_iff :
    (Param.fetchAll kind signature position (tail fixed rest?) source = .ok delivered ∧
        (Param.leaves (tail fixed rest?) source).unused = []) ↔
      ∃ values others, Receives fixed rest? source.unused values others ∧
        delivered = deliveredTail rest? values others := by
  induction fixed generalizing position source delivered with
  | nil =>
      cases rest? with
      | none =>
          simp only [receives_nil_none]
          constructor
          · intro h
            obtain ⟨hfilled, hunused⟩ := h
            cases hfilled
            exact ⟨[], [], ⟨rfl, hunused, rfl⟩, rfl⟩
          · intro h
            obtain ⟨_, _, ⟨rfl, hunused, rfl⟩, rfl⟩ := h
            exact ⟨rfl, hunused⟩
      | some forwarded =>
          have htail : tail [] (some forwarded) = [Param.rest forwarded] := rfl
          simp only [receives_nil_some]
          rw [htail, Param.fetchAll_cons, fetch_rest]
          constructor
          · intro h
            obtain ⟨⟨d, ds, hd, hds, rfl⟩, _⟩ := h
            obtain ⟨others, hothers, rfl⟩ := Option.map_eq_some_iff.1 hd
            cases hds
            exact ⟨[], others, ⟨rfl, mapM_eq_some_iff.1 hothers⟩, rfl⟩
          · intro h
            obtain ⟨_, others, ⟨rfl, hothers⟩, rfl⟩ := h
            refine ⟨⟨.rest others, [], ?_, rfl, rfl⟩, ?_⟩
            · rw [mapM_eq_some_iff.2 hothers]
              rfl
            · exact List.drop_length
  | cons forwarded fixed ih =>
      have htail : tail (forwarded :: fixed) rest? = Param.fixed forwarded :: tail fixed rest? := rfl
      rw [htail, Param.fetchAll_cons]
      cases hunused : source.unused with
      | nil =>
          rw [fetch_fixed_nil hunused]
          constructor
          · intro h
            obtain ⟨⟨_, _, hd, _⟩, _⟩ := h
            cases hd
          · intro h
            obtain ⟨_, _, hreceives, _⟩ := h
            exact absurd hreceives not_receives_cons_nil
      | cons argument arguments =>
          have hleaves : Param.leaves (Param.fixed forwarded :: tail fixed rest?) source =
              Param.leaves (tail fixed rest?) { source with cursor := source.cursor + 1 } := by
            show Param.leaves (tail fixed rest?) ((Param.fixed forwarded).fetch source).2 = _
            rw [fetch_fixed_cons hunused]
          rw [hleaves, fetch_fixed_cons hunused]
          simp only [receives_cons_cons]
          constructor
          · intro h
            obtain ⟨⟨d, ds, hd, hds, rfl⟩, hnone⟩ := h
            obtain ⟨v, hv, rfl⟩ := Option.map_eq_some_iff.1 hd
            obtain ⟨values, others, hreceives, rfl⟩ := ih.1 ⟨hds, hnone⟩
            rw [Source.unused_next hunused] at hreceives
            exact ⟨v :: values, others, ⟨v, values, hv, hreceives, rfl⟩, rfl⟩
          · intro h
            obtain ⟨_, others, ⟨v, values, hv, hreceives, rfl⟩, rfl⟩ := h
            rw [← Source.unused_next hunused] at hreceives
            obtain ⟨hds, hnone⟩ := ih.2 ⟨values, others, hreceives, rfl⟩
            exact ⟨⟨.value v, _, by rw [hv]; rfl, hds, rfl⟩, hnone⟩

end

section

variable {kind : Kind} {signature : String} {position : Nat} {lineup : Lineup}
  {checker : CheckerId} {context? : Option ContextId} {arguments : List Argument}
  {delivered : List Delivered}

/-- What all parameters are filled with, given the context there is and the
values of the arguments. -/
def filled (lineup : Lineup) (checker : CheckerId) (context? : Option ContextId)
    (values others : List Value) : List Delivered :=
  List.replicate lineup.checker.toNat (.checker checker) ++
    ((if lineup.context then context?.toList.map .context else []) ++
      deliveredTail lineup.rest? values others)

private theorem fetch_context_fresh :
    Param.context.fetch (.fresh checker context? arguments) =
      (((Source.forwarded? arguments).or context?).map .context,
        ⟨checker, context?, arguments, (Source.forwarded? arguments).isSome.toNat⟩) := by
  show (((Source.fresh checker context? arguments).takeContext).1.map Delivered.context,
    ((Source.fresh checker context? arguments).takeContext).2) = _
  cases hforwarded : Source.forwarded? arguments with
  | none => simp [Source.takeContext, Source.fresh, hforwarded]
  | some c => simp [Source.takeContext, Source.fresh, hforwarded]

private theorem fetchAll_context_iff {context : Bool} {fixed : List Forwarded}
    {rest? : Option Forwarded} :
    (Param.fetchAll kind signature position
          (List.replicate context.toNat .context ++ tail fixed rest?)
          (.fresh checker context? arguments) = .ok delivered ∧
        (Param.leaves (List.replicate context.toNat .context ++ tail fixed rest?)
          (.fresh checker context? arguments)).unused = []) ↔
      (context = true → ((Source.forwarded? arguments).or context?).isSome = true) ∧
        ∃ values others,
          Receives fixed rest?
            (arguments.drop (context && (Source.forwarded? arguments).isSome).toNat)
            values others ∧
          delivered = (if context then
              ((Source.forwarded? arguments).or context?).toList.map .context else []) ++
            deliveredTail rest? values others := by
  cases context with
  | false =>
      have hiff : (Param.fetchAll kind signature position (tail fixed rest?)
            (.fresh checker context? arguments) = .ok delivered ∧
          (Param.leaves (tail fixed rest?) (.fresh checker context? arguments)).unused = []) ↔
            ∃ values others, Receives fixed rest? arguments values others ∧
              delivered = deliveredTail rest? values others :=
        fetchAll_tail_iff
      simpa using hiff
  | true =>
      have hparams : List.replicate true.toNat Param.context ++ tail fixed rest? =
          Param.context :: tail fixed rest? := rfl
      have hleaves : Param.leaves (Param.context :: tail fixed rest?)
            (.fresh checker context? arguments) =
          Param.leaves (tail fixed rest?)
            ⟨checker, context?, arguments, (Source.forwarded? arguments).isSome.toNat⟩ := by
        show Param.leaves (tail fixed rest?)
          (Param.context.fetch (.fresh checker context? arguments)).2 = _
        rw [fetch_context_fresh]
      rw [hparams, Param.fetchAll_cons, hleaves, fetch_context_fresh, Bool.true_and]
      constructor
      · intro h
        obtain ⟨⟨d, ds, hd, hds, rfl⟩, hnone⟩ := h
        obtain ⟨c, hc, rfl⟩ := Option.map_eq_some_iff.1 hd
        obtain ⟨values, others, hreceives, rfl⟩ := fetchAll_tail_iff.1 ⟨hds, hnone⟩
        refine ⟨fun _ => Option.isSome_of_eq_some hc, values, others, hreceives, ?_⟩
        rw [hc]
        rfl
      · intro h
        obtain ⟨hsome, values, others, hreceives, rfl⟩ := h
        obtain ⟨c, hc⟩ := Option.isSome_iff_exists.1 (hsome rfl)
        have hunused : Receives fixed rest? (Source.unused
            ⟨checker, context?, arguments, (Source.forwarded? arguments).isSome.toNat⟩)
            values others := hreceives
        obtain ⟨hds, hnone⟩ := fetchAll_tail_iff.2 ⟨values, others, hunused, rfl⟩
        refine ⟨⟨.context c, _, ?_, hds, ?_⟩, hnone⟩
        · rw [hc]
          rfl
        · rw [hc]
          rfl

/-- Filling ready-made parameters that are in order succeeds and uses every
argument exactly if there is a context for a parameter that wants one, and
the other arguments amount to values for the other parameters. -/
theorem fetchAll_params_iff :
    (Param.fetchAll kind signature 0 lineup.params (.fresh checker context? arguments) =
          .ok delivered ∧
        (Param.leaves lineup.params (.fresh checker context? arguments)).unused = []) ↔
      (lineup.context = true → ((Source.forwarded? arguments).or context?).isSome = true) ∧
        ∃ values others,
          Receives lineup.fixed lineup.rest? (lineup.remaining arguments) values others ∧
          delivered = lineup.filled checker ((Source.forwarded? arguments).or context?)
            values others := by
  obtain ⟨takesChecker, context, fixed, rest?⟩ := lineup
  cases takesChecker with
  | false => exact fetchAll_context_iff
  | true =>
      have hparams : Lineup.params ⟨true, context, fixed, rest?⟩ =
          Param.checker :: (List.replicate context.toNat .context ++ tail fixed rest?) := rfl
      rw [hparams, Param.fetchAll_cons]
      constructor
      · intro h
        obtain ⟨⟨d, ds, hd, hds, rfl⟩, hnone⟩ := h
        obtain ⟨hsome, values, others, hreceives, rfl⟩ := fetchAll_context_iff.1 ⟨hds, hnone⟩
        cases hd
        exact ⟨hsome, values, others, hreceives, rfl⟩
      · intro h
        obtain ⟨hsome, values, others, hreceives, rfl⟩ := h
        obtain ⟨hds, hnone⟩ := fetchAll_context_iff.2 ⟨hsome, values, others, hreceives, rfl⟩
        exact ⟨⟨.checker checker, _, rfl, hds, rfl⟩, hnone⟩

end

end Lineup

/-! ## The check and the filling agree -/

section

variable {σ : Type} [HasCheckers σ] {shape : Shape} {checker : CheckerId}
  {body : List Delivered → Action σ Output} {delivered : List Delivered}

/-- A call whose parameters can all be filled is not refused. -/
theorem Probe.invoke_ne_refused {kind : Kind} {settings : Settings}
    (hfilled : Param.fetchAll kind shape.signature 0 shape.params
      (.fresh checker settings.context? settings.arguments) = .ok delivered)
    (s t : σ) (e : ConfigError) :
    (Probe.function shape checker body).invoke kind settings s ≠ .ok (.error e) t := by
  intro hrefused
  unfold invoke at hrefused
  obtain ⟨_, u, _, hbody⟩ := Action.bind_eq_ok_iff.1 hrefused
  rw [hfilled] at hbody
  obtain ⟨ended, v, _, hended⟩ := Action.bind_eq_ok_iff.1 hbody
  obtain ⟨invocation, w, _, hreturn⟩ := Action.bind_eq_ok_iff.1 hended
  cases hreturn

/-- Nor is an attempt. -/
theorem Assertion.attempt_ne_refused [ReasonLog σ] {assertion : Assertion σ}
    (hprobe : assertion.probe = .function shape checker body)
    (hfilled : Param.fetchAll assertion.kind shape.signature 0 shape.params
      (.fresh checker assertion.settings.context? assertion.settings.arguments) = .ok delivered)
    (s t : σ) (e : ConfigError) : assertion.attempt s ≠ .ok (.error e) t := by
  intro hrefused
  unfold attempt at hrefused
  obtain ⟨answer, u, hinvoke, hjudge⟩ := Action.bind_eq_ok_iff.1 hrefused
  cases answer with
  | error e' =>
      rw [hprobe] at hinvoke
      exact Probe.invoke_ne_refused hfilled s u e' hinvoke
  | ok invocation =>
      obtain ⟨judgement, v, _, hreturn⟩ := Action.bind_eq_ok_iff.1 hjudge
      cases hreturn

namespace Shape

theorem ordered_of_validate {kind : Kind} {context? : Option ContextId} {arguments : List Argument}
    (hok : shape.validate kind context? arguments = .ok ()) :
    Ordered (shape.params.map (·.kind)) := by
  have hsound : shape.isSound = true := by
    cases hunsound : shape.isSound with
    | true => rfl
    | false =>
        rw [validate, hunsound] at hok
        cases hok
  rw [isSound, Bool.and_eq_true] at hsound
  exact ordered_of_ascending hsound.1

/-- The check of ready-made parameters succeeds exactly if they are in order,
the function can report, and filling them from left to right succeeds and
leaves no argument. Then a context among the arguments has precedence over
the configured one, each single parameter has the value of the argument in
its place, the rest has the values of all others, and no run is refused. -/
theorem validate_ok_iff_filled [ReasonLog σ] [HasContexts σ] [HasDesk σ]
    (hready : ∀ p ∈ shape.params, p.Ready) (kind : Kind) (checker : CheckerId)
    (context? : Option ContextId) (arguments : List Argument) :
    (shape.validate kind context? arguments = .ok () ↔
      Ordered (shape.params.map (·.kind)) ∧
        (shape.returning = .nothing → .checker ∈ shape.params.map (·.kind)) ∧
        ∃ delivered, Param.fetchAll kind shape.signature 0 shape.params
              (.fresh checker context? arguments) = .ok delivered ∧
            (Param.leaves shape.params (.fresh checker context? arguments)).unused = []) ∧
      (shape.validate kind context? arguments = .ok () →
        (∃ (lineup : Lineup) (values others : List Value), shape.params = lineup.params ∧
          (lineup.context = true → ((Source.forwarded? arguments).or context?).isSome = true) ∧
          Lineup.Receives lineup.fixed lineup.rest? (lineup.remaining arguments) values others ∧
          Param.fetchAll kind shape.signature 0 shape.params (.fresh checker context? arguments) =
            .ok (lineup.filled checker ((Source.forwarded? arguments).or context?) values others)) ∧
        ∀ (poller : Poller σ) (assertion : Assertion σ) (body : List Delivered → Action σ Output),
          assertion.probe = .function shape checker body → assertion.kind = kind →
          assertion.settings.context? = context? → assertion.settings.arguments = arguments →
          ∀ limit s e run, poller.run assertion limit s ≠ (some (.refused e), run)) := by
  have hfilled : shape.validate kind context? arguments = .ok () →
      ∃ (lineup : Lineup) (values others : List Value), shape.params = lineup.params ∧
        (shape.returning = .nothing → lineup.checker = true) ∧
        (lineup.context = true → ((Source.forwarded? arguments).or context?).isSome = true) ∧
        Lineup.Receives lineup.fixed lineup.rest? (lineup.remaining arguments) values others ∧
        Param.fetchAll kind shape.signature 0 shape.params (.fresh checker context? arguments) =
          .ok (lineup.filled checker ((Source.forwarded? arguments).or context?) values others) ∧
        (Param.leaves shape.params (.fresh checker context? arguments)).unused = [] := by
    intro hok
    obtain ⟨lineup, hparams⟩ := Lineup.exists_params hready (ordered_of_validate hok)
    obtain ⟨hreport, hcontext, values, others, hreceives⟩ :=
      (Lineup.validate_eq_ok_iff hparams).1 hok
    obtain ⟨hfetch, hunused⟩ :=
      Lineup.fetchAll_params_iff.2 ⟨hcontext, values, others, hreceives, rfl⟩
    rw [← hparams] at hfetch hunused
    exact ⟨lineup, values, others, hparams, hreport, hcontext, hreceives, hfetch, hunused⟩
  refine ⟨⟨fun hok => ?_, ?_⟩, fun hok => ?_⟩
  · obtain ⟨lineup, values, others, hparams, hreport, _, _, hfetch, hunused⟩ := hfilled hok
    refine ⟨ordered_of_validate hok, ?_, _, hfetch, hunused⟩
    rw [hparams, Lineup.checker_mem_iff]
    exact hreport
  · intro h
    obtain ⟨hordered, hreport, delivered, hfetch, hunused⟩ := h
    obtain ⟨lineup, hparams⟩ := Lineup.exists_params hready hordered
    rw [hparams] at hfetch hunused
    rw [hparams, Lineup.checker_mem_iff] at hreport
    obtain ⟨hcontext, values, others, hreceives, _⟩ :=
      Lineup.fetchAll_params_iff.1 ⟨hfetch, hunused⟩
    exact (Lineup.validate_eq_ok_iff hparams).2 ⟨hreport, hcontext, values, others, hreceives⟩
  · obtain ⟨lineup, values, others, hparams, _, hcontext, hreceives, hfetch, _⟩ := hfilled hok
    refine ⟨⟨lineup, values, others, hparams, hcontext, hreceives, hfetch⟩, ?_⟩
    rintro poller assertion body hprobe rfl rfl rfl limit s e run hrun
    obtain ⟨t, u, _, _, hleaves, _⟩ := Poller.run_over hrun
    cases hleaves with
    | refused hattempt => exact Assertion.attempt_ne_refused hprobe hfetch t u e hattempt

/-- A function of a checker, a context, a text and more texts accepts a context
and three texts, although none is configured, and can be filled with them. -/
theorem validate_filled_texts :
    (∀ p ∈ [Param.checker, .context, .fixed .string, .rest .string], p.Ready) ∧
      ∃ delivered, Param.fetchAll .eventually ""
          0 [.checker, .context, .fixed .string, .rest .string]
          (.fresh 0 none [.context 3, .value (.ofString "a"), .value (.ofString "b"),
            .value (.ofString "c")]) = .ok delivered := by
  have hready : ∀ p ∈ [Param.checker, .context, .fixed .string, .rest .string], p.Ready := by
    simp only [List.forall_mem_cons]
    exact ⟨.checker, .context, .fixed _, .rest _, by simp⟩
  have hagree := @validate_ok_iff_filled Session.World _
    ⟨[.checker, .context, .fixed .string, .rest .string], .nothing, ""⟩ _ _ _ hready .eventually 0
    none [.context 3, .value (.ofString "a"), .value (.ofString "b"), .value (.ofString "c")]
  obtain ⟨_, _, delivered, hfilled, _⟩ := hagree.1.1 rfl
  exact ⟨hready, delivered, hfilled⟩

end Shape

end

end PollingAssertions
