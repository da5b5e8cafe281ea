import PollingAssertions.Probe.Shape

/-!
# The order of parameters

Parameters are in order if a checker comes first, then a context, then any
number of single arguments and a rest at the end, where everything may be
missing. `Shape.ascending` decides this by looking at neighbours. Here the
order is written down as a whole, and what a shape counts and looks up is
worked out for parameters that are in order.

## Main definitions

* `Shape.inOrder` — the kinds of parameters that are in order.
* `Shape.Ordered` — being in order.

## Main results

* `Shape.ascending_iff_ordered` — the neighbours tell whether the whole is in
  order.
* `Shape.length_eq_of_inOrder` — the number of parameters, by kind.
* `Shape.supplied_eq_of_inOrder` — the number of values for them.
* `Shape.length_of_ordered` — the counts of a shape add up to the whole if the
  parameters are in order, which is seen from neighbours.
-/

namespace PollingAssertions

namespace Shape

/-- Perhaps a checker, perhaps a context, some single arguments and perhaps a
rest. -/
def inOrder (checker context : Bool) (fixed : Nat) (rest : Bool) : List ParamKind :=
  List.replicate checker.toNat .checker ++ (List.replicate context.toNat .context ++
    (List.replicate fixed .fixed ++ List.replicate rest.toNat .variadic))

/-- The kinds of parameters that are in order. -/
def Ordered (kinds : List ParamKind) : Prop :=
  ∃ checker context fixed rest, kinds = inOrder checker context fixed rest

/-! ## Neighbours -/

section

variable {checker context rest : Bool} {fixed : Nat}

@[simp] theorem inOrder_checker :
    inOrder true context fixed rest = .checker :: inOrder false context fixed rest := rfl

@[simp] theorem inOrder_context :
    inOrder false true fixed rest = .context :: inOrder false false fixed rest := rfl

@[simp] theorem inOrder_fixed :
    inOrder false false (fixed + 1) rest = .fixed :: inOrder false false fixed rest := rfl

@[simp] theorem inOrder_rest : inOrder false false 0 true = [.variadic] := rfl

@[simp] theorem inOrder_nothing : inOrder false false 0 false = [] := rfl

end

theorem ascending_cons {kind : ParamKind} {kinds : List ParamKind} :
    ascending (kind :: kinds) = true ↔
      (∀ next ∈ kinds.head?, follows kind next = true) ∧ ascending kinds = true := by
  cases kinds with
  | nil => simp [ascending]
  | cons next others => simp [ascending]

theorem ascending_inOrder (checker context : Bool) (fixed : Nat) (rest : Bool) :
    ascending (inOrder checker context fixed rest) = true := by
  -- from the end to the beginning, each kind is put before those that may come later
  have hrest : ascending (inOrder false false 0 rest) = true := by cases rest <;> rfl
  have hfixed : ascending (inOrder false false fixed rest) = true := by
    induction fixed with
    | zero => exact hrest
    | succ fixed ih =>
        rw [inOrder_fixed, ascending_cons]
        refine ⟨?_, ih⟩
        cases fixed <;> cases rest <;> simp [follows, ParamKind.rank]
  have hcontext : ascending (inOrder false context fixed rest) = true := by
    cases context with
    | false => exact hfixed
    | true =>
        rw [inOrder_context, ascending_cons]
        refine ⟨?_, hfixed⟩
        cases fixed <;> cases rest <;> simp [follows, ParamKind.rank]
  cases checker with
  | false => exact hcontext
  | true =>
      rw [inOrder_checker, ascending_cons]
      refine ⟨?_, hcontext⟩
      cases context <;> cases fixed <;> cases rest <;> simp [follows, ParamKind.rank]

theorem ordered_of_ascending {kinds : List ParamKind} (h : ascending kinds = true) :
    Ordered kinds := by
  induction kinds with
  | nil => exact ⟨false, false, 0, false, rfl⟩
  | cons kind kinds ih =>
      rw [ascending_cons] at h
      obtain ⟨hhead, htail⟩ := h
      obtain ⟨checker, context, fixed, rest, rfl⟩ := ih htail
      cases kind with
      | checker =>
          cases checker with
          | false => exact ⟨true, context, fixed, rest, rfl⟩
          | true => simp [follows, ParamKind.rank] at hhead
      | context =>
          cases checker with
          | true => simp [follows, ParamKind.rank] at hhead
          | false =>
              cases context with
              | false => exact ⟨false, true, fixed, rest, rfl⟩
              | true => simp [follows, ParamKind.rank] at hhead
      | fixed =>
          cases checker with
          | true => simp [follows, ParamKind.rank] at hhead
          | false =>
              cases context with
              | false => exact ⟨false, false, fixed + 1, rest, rfl⟩
              | true => simp [follows, ParamKind.rank] at hhead
      | variadic =>
          have hnil : inOrder checker context fixed rest = [] := by
            cases hkinds : inOrder checker context fixed rest with
            | nil => rfl
            | cons next others =>
                rw [hkinds] at hhead
                have hfollows := hhead next rfl
                cases next <;> cases hfollows
          exact ⟨false, false, 0, true, by rw [hnil]; rfl⟩

/-- A rest comes last, single arguments come one after the other, and so on,
exactly if this holds of any two neighbours. -/
theorem ascending_iff_ordered {kinds : List ParamKind} :
    ascending kinds = true ↔ Ordered kinds := by
  constructor
  · exact ordered_of_ascending
  · intro h
    obtain ⟨checker, context, fixed, rest, rfl⟩ := h
    exact ascending_inOrder checker context fixed rest

/-! ## What a shape counts -/

section

variable {shape : Shape} {checker context rest : Bool} {fixed : Nat}

theorem takesChecker_eq_of_inOrder
    (h : shape.params.map (·.kind) = inOrder checker context fixed rest) :
    shape.takesChecker = checker := by
  have hhead : (shape.params.map (·.kind)).head?.any (· == .checker) = shape.takesChecker := by
    simp [takesChecker, List.head?_map, Option.any_map]
  rw [← hhead, h]
  cases checker <;> cases context <;> cases fixed <;> cases rest <;> rfl

theorem takesContext_eq_of_inOrder
    (h : shape.params.map (·.kind) = inOrder checker context fixed rest) :
    shape.takesContext = context := by
  have hany : (shape.params.map (·.kind)).any (· == .context) = shape.takesContext := by
    simp [takesContext, List.any_map, Function.comp_def]
  rw [← hany, h]
  cases checker <;> cases context <;> cases rest <;> simp [inOrder]

theorem isVariadic_eq_of_inOrder
    (h : shape.params.map (·.kind) = inOrder checker context fixed rest) :
    shape.isVariadic = rest := by
  have hlast : (shape.params.map (·.kind)).getLast?.any (· == .variadic) = shape.isVariadic := by
    simp [isVariadic, List.getLast?_map, Option.any_map]
  rw [← hlast, h]
  simp only [inOrder, List.getLast?_append, List.getLast?_replicate]
  cases checker <;> cases context <;> cases fixed <;> cases rest <;> rfl

theorem length_eq_of_inOrder
    (h : shape.params.map (·.kind) = inOrder checker context fixed rest) :
    shape.params.length = checker.toNat + context.toNat + fixed + rest.toNat := by
  have hlength : (shape.params.map (·.kind)).length = shape.params.length := List.length_map _
  rw [← hlength, h]
  simp only [inOrder, List.length_append, List.length_replicate]
  omega

theorem fixedCount_eq_of_inOrder
    (h : shape.params.map (·.kind) = inOrder checker context fixed rest) :
    shape.fixedCount = fixed := by
  have hcount : (shape.params.map (·.kind)).countP (· == .fixed) = shape.fixedCount := by
    rw [List.countP_map]
    rfl
  rw [← hcount, h]
  cases checker <;> cases context <;> cases rest <;>
    simp [inOrder, List.countP_append, List.countP_replicate]

/-- A context that comes with the arguments is in the place of one that is injected. -/
theorem supplied_eq_of_inOrder {arguments : List Argument}
    (h : shape.params.map (·.kind) = inOrder checker context fixed rest) :
    shape.supplied arguments = checker.toNat + context.toNat +
      (arguments.drop (shape.forwardsContext arguments).toNat).length := by
  rw [supplied, wantsContext, forwardsContext, takesChecker_eq_of_inOrder h,
    takesContext_eq_of_inOrder h, List.length_drop]
  cases context with
  | false => simp
  | true =>
      cases arguments with
      | nil => simp [Source.forwarded?]
      | cons argument arguments =>
          cases hforwarded : Source.forwarded? (argument :: arguments) with
          | none => simp
          | some c =>
              simp
              omega

end

/-- Parameters are in order exactly if neighbours are. What looks only at the first parameter,
at the last one, for any context and for single arguments then accounts for all parameters, so
that counting values comes to comparing the arguments with the single ones. -/
theorem length_of_ordered (kinds : List ParamKind) :
    (ascending kinds = true ↔ Ordered kinds) ∧
      (Ordered kinds → ∀ shape : Shape, shape.params.map (·.kind) = kinds →
        shape.params.length = shape.takesChecker.toNat + shape.takesContext.toNat +
          shape.fixedCount + shape.isVariadic.toNat ∧
        ∀ arguments, shape.supplied arguments + shape.fixedCount + shape.isVariadic.toNat =
          shape.params.length +
            (arguments.drop (shape.forwardsContext arguments).toNat).length) := by
  refine ⟨ascending_iff_ordered, fun hordered shape hkinds => ?_⟩
  obtain ⟨checker, context, fixed, rest, hform⟩ := hordered
  have hinOrder : shape.params.map (·.kind) = inOrder checker context fixed rest :=
    hkinds.trans hform
  have hlength : shape.params.length = shape.takesChecker.toNat + shape.takesContext.toNat +
      shape.fixedCount + shape.isVariadic.toNat := by
    rw [length_eq_of_inOrder hinOrder, takesChecker_eq_of_inOrder hinOrder,
      takesContext_eq_of_inOrder hinOrder, fixedCount_eq_of_inOrder hinOrder,
      isVariadic_eq_of_inOrder hinOrder]
  refine ⟨hlength, fun arguments => ?_⟩
  rw [hlength, supplied_eq_of_inOrder hinOrder, takesChecker_eq_of_inOrder hinOrder,
    takesContext_eq_of_inOrder hinOrder]
  omega

/-- A checker, a context, two numbers and any number of texts. -/
theorem length_of_ordered_each :
    Ordered [.checker, .context, .fixed, .fixed, .variadic] ∧
      (⟨[.checker, .context, .fixed (.ofType .i32), .fixed (.ofType .i32), .rest .string],
        .value, ""⟩ : Shape).params.length = 1 + 1 + 2 + 1 := by
  have hordered : Ordered [.checker, .context, .fixed, .fixed, .variadic] :=
    (length_of_ordered _).1.1 rfl
  exact ⟨hordered, ((length_of_ordered _).2 hordered
    ⟨[.checker, .context, .fixed (.ofType .i32), .fixed (.ofType .i32), .rest .string],
      .value, ""⟩ rfl).1⟩

end Shape

end PollingAssertions
