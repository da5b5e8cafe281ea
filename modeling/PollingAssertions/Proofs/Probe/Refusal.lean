import PollingAssertions.Proofs.Probe.Order

/-!
# What a check blames

The check of a shape stops at the first thing that is wrong. Here it is written down
what each of its four errors means, for parameters of any kind, those of the user's own
included, and without the counting and walking that the check does.

The last error needs most care. Arguments and parameters are walked over together, yet
they are not in step: a checker and a context have their places among the parameters but
take no argument, a context that comes with the arguments is not counted, and a rest
takes any number of arguments. `Shape.Owns` says directly which parameter an argument
belongs to. The walk is compared with it by way of the list of all arguments with the
parameters that the walk means them for (`Shape.meant`).

## Main definitions

* `Shape.Malformed`, `Shape.LacksContext`, `Shape.Suffices` — what the first three errors
  are about.
* `Shape.left` — the arguments without a context that comes with them.
* `Shape.Owns` — the parameter that an argument belongs to.
* `Shape.Rejects` — each error, with what it means.

## Main results

* `Shape.owns_iff_of_inOrder` — the position of the parameter that an argument belongs to.
* `Shape.refused?_eq_some_iff` — the walk finds the first argument that is refused.
* `Shape.validate_eq_error_iff_rejects` — what each error of the check means.
-/

namespace PollingAssertions

namespace Shape

/-! ## What may be wrong with a shape -/

/-- The parameters are not in order, or the probe has no way to report. -/
def Malformed (shape : Shape) : Prop :=
  ¬ Ordered (shape.params.map (·.kind)) ∨
    (shape.returning = .nothing ∧ ∀ param ∈ shape.params, param.kind ≠ .checker)

/-- There is a parameter for a context, but no context: the first argument is none, and none
is configured. -/
def LacksContext (shape : Shape) (context? : Option ContextId) (arguments : List Argument) :
    Prop :=
  (∃ param ∈ shape.params, param.kind = .context) ∧
    (∀ c, arguments.head? ≠ some (.context c)) ∧ context? = none

/-- The arguments without a context that comes with them. -/
def left (shape : Shape) (arguments : List Argument) : List Argument :=
  arguments.drop (shape.forwardsContext arguments).toNat

/-- There is an argument for each single parameter, and none is left over unless a rest
takes it. -/
def Suffices (shape : Shape) (arguments : List Argument) : Prop :=
  if shape.isVariadic then shape.fixedCount ≤ (shape.left arguments).length
  else (shape.left arguments).length = shape.fixedCount

/-- An argument belongs to the single parameter that has as many single ones before it as
the argument has arguments before it, and to a rest that has no more of them before it. -/
def Owns (params : List Param) (index position : Nat) (param : Param) : Prop :=
  params[position]? = some param ∧
    ((param.kind = .fixed ∧ (params.take position).countP (·.kind == .fixed) = index) ∨
      (param.kind = .variadic ∧ (params.take position).countP (·.kind == .fixed) ≤ index))

/-- Each error that a check can end with, and what it means. -/
inductive Rejects (shape : Shape) (kind : Kind) (context? : Option ContextId)
    (arguments : List Argument) : ConfigError → Prop
  | signature (hform : shape.Malformed) :
      Rejects shape kind context? arguments (.invalidSignature kind.name shape.signature)
  | context (hform : ¬ shape.Malformed) (hcontext : shape.LacksContext context? arguments) :
      Rejects shape kind context? arguments (.missingContext kind.name)
  | count (hform : ¬ shape.Malformed) (hcontext : ¬ shape.LacksContext context? arguments)
      (hcount : ¬ shape.Suffices arguments) :
      Rejects shape kind context? arguments (.argumentCount kind.name shape.signature
        shape.params.length
        (shape.takesChecker.toNat + (shape.wantsContext arguments).toNat + arguments.length))
  | type (hform : ¬ shape.Malformed) (hcontext : ¬ shape.LacksContext context? arguments)
      (hcount : shape.Suffices arguments) {index position : Nat} {param : Param}
      {argument : Argument} (hargument : (shape.left arguments)[index]? = some argument)
      (howner : Owns shape.params index position param)
      (hrefused : param.accepts argument = false)
      (hearlier : ∀ before < index, ∀ earlier, (shape.left arguments)[before]? = some earlier →
        ∀ place owner, Owns shape.params before place owner → owner.accepts earlier = true) :
      Rejects shape kind context? arguments
        (.argumentType kind.name shape.signature position param.name argument.type.name)

/-! ## The parameter that an argument belongs to -/

section

variable {param owner : Param} {params : List Param} {index position : Nat}

theorem not_owns_nil : ¬ Owns [] index position owner := by simp [Owns]

/-- A parameter that takes no argument only shifts the positions. -/
theorem owns_cons_of_other (hfixed : param.kind ≠ .fixed) (hrest : param.kind ≠ .variadic) :
    Owns (param :: params) index position owner ↔
      ∃ place, position = place + 1 ∧ Owns params index place owner := by
  cases position with
  | zero =>
      simp only [Owns, List.getElem?_cons_zero, Option.some.injEq]
      constructor
      · rintro ⟨rfl, ⟨hkind, -⟩ | ⟨hkind, -⟩⟩
        · exact absurd hkind hfixed
        · exact absurd hkind hrest
      · rintro ⟨place, hplace, -⟩
        cases hplace
  | succ position => simp [Owns, hfixed]

/-- The first argument belongs to the first parameter if that is a single one ... -/
theorem owns_cons_zero (hfixed : param.kind = .fixed) :
    Owns (param :: params) 0 position owner ↔ position = 0 ∧ owner = param := by
  cases position with
  | zero =>
      simp only [Owns, List.getElem?_cons_zero, Option.some.injEq, List.take_zero,
        List.countP_nil, true_and]
      constructor
      · rintro ⟨rfl, -⟩
        rfl
      · rintro rfl
        exact ⟨rfl, .inl ⟨hfixed, trivial⟩⟩
  | succ position => simp [Owns, hfixed]

/-- ... and the others belong to those after it. -/
theorem owns_cons_succ (hfixed : param.kind = .fixed) :
    Owns (param :: params) (index + 1) position owner ↔
      ∃ place, position = place + 1 ∧ Owns params index place owner := by
  cases position with
  | zero =>
      simp only [Owns, List.getElem?_cons_zero, Option.some.injEq, List.take_zero,
        List.countP_nil]
      constructor
      · rintro ⟨rfl, ⟨-, hindex⟩ | ⟨hkind, -⟩⟩
        · cases hindex
        · rw [hfixed] at hkind
          cases hkind
      · rintro ⟨place, hplace, -⟩
        cases hplace
  | succ position => simp [Owns, hfixed]

/-- All arguments belong to a rest that stands alone. -/
theorem owns_singleton (hrest : param.kind = .variadic) :
    Owns [param] index position owner ↔ position = 0 ∧ owner = param := by
  cases position with
  | zero =>
      simp only [Owns, List.getElem?_cons_zero, Option.some.injEq, List.take_zero,
        List.countP_nil, true_and]
      constructor
      · rintro ⟨rfl, -⟩
        rfl
      · rintro rfl
        exact ⟨rfl, .inr ⟨hrest, Nat.zero_le _⟩⟩
  | succ position => simp [Owns]

/-- A position in a list with one more parameter in front. -/
private theorem exists_shifted {place : Nat} {p : Prop} :
    (∃ before, position = before + 1 ∧ params[before]? = some owner ∧ before = place ∧ p) ↔
      (param :: params)[position]? = some owner ∧ position = place + 1 ∧ p := by
  cases position with
  | zero => simp
  | succ position =>
      constructor
      · rintro ⟨before, hposition, howner, hplace, hp⟩
        obtain rfl : position = before := Nat.succ.inj hposition
        exact ⟨howner, congrArg (· + 1) hplace, hp⟩
      · rintro ⟨howner, hplace, hp⟩
        exact ⟨position, rfl, howner, Nat.succ.inj hplace, hp⟩

private theorem owns_iff_of_inOrder_tail {fixed : Nat} {rest : Bool}
    (h : params.map (·.kind) = inOrder false false fixed rest) :
    Owns params index position owner ↔
      params[position]? = some owner ∧ position = min index fixed ∧
        (index < fixed ∨ rest = true) := by
  induction fixed generalizing params index position with
  | zero =>
      cases rest with
      | false =>
          rw [inOrder_nothing, List.map_eq_nil_iff] at h
          subst h
          simp [not_owns_nil]
      | true =>
          rw [inOrder_rest, List.map_eq_singleton_iff] at h
          obtain ⟨param, rfl, hkind⟩ := h
          rw [owns_singleton hkind]
          cases position with
          | zero => simp [eq_comm]
          | succ position => simp
  | succ fixed ih =>
      rw [inOrder_fixed, List.map_eq_cons_iff] at h
      obtain ⟨param, params, rfl, hkind, hothers⟩ := h
      cases index with
      | zero =>
          rw [owns_cons_zero hkind]
          cases position with
          | zero => simp [eq_comm]
          | succ position => simp
      | succ index =>
          rw [owns_cons_succ hkind, Nat.succ_min_succ]
          simp only [ih hothers, Nat.succ_lt_succ_iff]
          exact exists_shifted

private theorem owns_iff_of_inOrder_context {context rest : Bool} {fixed : Nat}
    (h : params.map (·.kind) = inOrder false context fixed rest) :
    Owns params index position owner ↔
      params[position]? = some owner ∧ position = context.toNat + min index fixed ∧
        (index < fixed ∨ rest = true) := by
  cases context with
  | false =>
      rw [owns_iff_of_inOrder_tail h, Bool.toNat_false, Nat.zero_add]
  | true =>
      rw [inOrder_context, List.map_eq_cons_iff] at h
      obtain ⟨param, params, rfl, hkind, hothers⟩ := h
      rw [owns_cons_of_other (by rw [hkind]; decide) (by rw [hkind]; decide), Bool.toNat_true,
        Nat.add_comm 1]
      simp only [owns_iff_of_inOrder_tail hothers]
      exact exists_shifted

/-- Where the parameter stands that an argument belongs to: after the checker and the
context, and there at the argument's own place or, if it comes later, where the rest is. -/
theorem owns_iff_of_inOrder {checker context rest : Bool} {fixed : Nat}
    (h : params.map (·.kind) = inOrder checker context fixed rest) :
    Owns params index position owner ↔
      params[position]? = some owner ∧
        position = checker.toNat + context.toNat + min index fixed ∧
        (index < fixed ∨ rest = true) := by
  cases checker with
  | false =>
      rw [owns_iff_of_inOrder_context h, Bool.toNat_false, Nat.zero_add]
  | true =>
      rw [inOrder_checker, List.map_eq_cons_iff] at h
      obtain ⟨param, params, rfl, hkind, hothers⟩ := h
      rw [owns_cons_of_other (by rw [hkind]; decide) (by rw [hkind]; decide), Bool.toNat_true,
        Nat.add_assoc, Nat.add_comm 1]
      simp only [owns_iff_of_inOrder_context hothers]
      exact exists_shifted

end

/-! ## The walk -/

/-- All arguments with the parameters, and their positions, that the walk means them for. -/
def meant (position : Nat) : List Param → List Argument → List (Nat × Param × Argument)
  | [], _ => []
  | param :: params, arguments =>
      match param.kind, arguments with
      | .fixed, argument :: others =>
          (position, param, argument) :: meant (position + 1) params others
      | .variadic, arguments =>
          arguments.map (position, param, ·) ++ meant (position + 1) params []
      | _, arguments => meant (position + 1) params arguments

section

variable {param : Param} {params : List Param} {arguments : List Argument}
  {argument : Argument} {start index position : Nat}

/-- The walk stops at the first argument that the parameter refuses that it is meant for. -/
theorem refused?_eq_find? :
    refused? start params arguments =
      (meant start params arguments).find? fun (_, param, argument) => !param.accepts argument := by
  induction params generalizing start arguments with
  | nil => rfl
  | cons param params ih =>
      cases hkind : param.kind with
      | checker => simp [refused?, meant, hkind, ih]
      | context => simp [refused?, meant, hkind, ih]
      | fixed =>
          cases arguments with
          | nil => simp [refused?, meant, hkind, ih]
          | cons argument others =>
              cases haccepts : param.accepts argument <;>
                simp [refused?, meant, hkind, haccepts, ih]
      | variadic =>
          simp only [refused?, meant, hkind, ih, List.find?_append, List.find?_map,
            Function.comp_def]
          cases arguments.find? fun argument => !param.accepts argument <;> rfl

/-- Positions in a list with one more parameter in front, seen from further ahead. -/
private theorem exists_start_succ {p : Nat → Prop} :
    (∃ place, position = start + 1 + place ∧ p place) ↔
      ∃ place, position = start + place ∧ ∃ before, place = before + 1 ∧ p before := by
  constructor
  · rintro ⟨place, hposition, hplace⟩
    exact ⟨place + 1, by omega, place, rfl, hplace⟩
  · rintro ⟨_, hposition, before, rfl, hbefore⟩
    exact ⟨before, by omega, hbefore⟩

/-- A parameter that takes no argument only shifts the positions. -/
theorem meant_cons_of_other (hfixed : param.kind ≠ .fixed) (hrest : param.kind ≠ .variadic) :
    meant start (param :: params) arguments = meant (start + 1) params arguments := by
  cases hkind : param.kind with
  | checker => simp [meant, hkind]
  | context => simp [meant, hkind]
  | fixed => exact absurd hkind hfixed
  | variadic => exact absurd hkind hrest

/-- If the parameters are in order, the walk means each argument for the parameter that it
belongs to. -/
theorem getElem?_meant (h : ascending (params.map (·.kind)) = true) :
    (meant start params arguments)[index]? = some (position, param, argument) ↔
      arguments[index]? = some argument ∧
        ∃ place, position = start + place ∧ Owns params index place param := by
  induction params generalizing start arguments index with
  | nil => simp [meant, not_owns_nil]
  | cons first params ih =>
      rw [List.map_cons, ascending_cons] at h
      obtain ⟨hnext, hothers⟩ := h
      have hshift (hfixed : first.kind ≠ .fixed) (hrest : first.kind ≠ .variadic) :
          (meant start (first :: params) arguments)[index]? = some (position, param, argument) ↔
            arguments[index]? = some argument ∧
              ∃ place, position = start + place ∧ Owns (first :: params) index place param := by
        simp only [owns_cons_of_other hfixed hrest]
        rw [meant_cons_of_other hfixed hrest, ih hothers, exists_start_succ]
      cases hkind : first.kind with
      | checker => exact hshift (by rw [hkind]; decide) (by rw [hkind]; decide)
      | context => exact hshift (by rw [hkind]; decide) (by rw [hkind]; decide)
      | fixed =>
          cases arguments with
          | nil =>
              have hnone : meant start (first :: params) [] = meant (start + 1) params [] := by
                simp [meant, hkind]
              rw [hnone, ih hothers]
              simp
          | cons next others =>
              have hfirst : meant start (first :: params) (next :: others) =
                  (start, first, next) :: meant (start + 1) params others := by
                simp [meant, hkind]
              rw [hfirst]
              cases index with
              | zero =>
                  simp only [owns_cons_zero hkind, List.getElem?_cons_zero, Option.some.injEq,
                    Prod.mk.injEq]
                  constructor
                  · rintro ⟨rfl, rfl, rfl⟩
                    exact ⟨rfl, 0, rfl, rfl, rfl⟩
                  · rintro ⟨rfl, _, rfl, rfl, rfl⟩
                    exact ⟨rfl, rfl, rfl⟩
              | succ index =>
                  simp only [owns_cons_succ hkind, List.getElem?_cons_succ]
                  rw [ih hothers, exists_start_succ]
      | variadic =>
          -- no kind may follow a rest
          have hlast : params = [] := by
            cases params with
            | nil => rfl
            | cons next others =>
                have hfollows := hnext next.kind rfl
                rw [hkind] at hfollows
                cases hafter : next.kind <;> rw [hafter] at hfollows <;> cases hfollows
          subst hlast
          have hall : meant start [first] arguments = arguments.map (start, first, ·) := by
            simp [meant, hkind]
          simp only [hall, owns_singleton hkind, List.getElem?_map, Option.map_eq_some_iff,
            Prod.mk.injEq]
          constructor
          · rintro ⟨_, hfound, rfl, rfl, rfl⟩
            exact ⟨hfound, 0, rfl, rfl, rfl⟩
          · rintro ⟨hfound, _, rfl, rfl, rfl⟩
            exact ⟨argument, hfound, rfl, rfl, rfl⟩

/-- If the parameters are in order, the walk finds the first argument that is refused by
the parameter it belongs to. -/
theorem refused?_eq_some_iff (h : ascending (params.map (·.kind)) = true) :
    refused? 0 params arguments = some (position, param, argument) ↔
      ∃ index, arguments[index]? = some argument ∧ Owns params index position param ∧
        param.accepts argument = false ∧
        ∀ before < index, ∀ earlier, arguments[before]? = some earlier →
          ∀ place owner, Owns params before place owner → owner.accepts earlier = true := by
  have hmeant : ∀ {index position param argument},
      (meant 0 params arguments)[index]? = some (position, param, argument) ↔
        arguments[index]? = some argument ∧ Owns params index position param := by
    intro index position param argument
    rw [getElem?_meant h]
    simp
  rw [refused?_eq_find?, List.find?_eq_some_iff_getElem]
  constructor
  · rintro ⟨hrefused, index, hindex, hat, hbefore⟩
    obtain ⟨hargument, howner⟩ := hmeant.1 (List.getElem?_eq_some_iff.2 ⟨hindex, hat⟩)
    refine ⟨index, hargument, howner, by simpa using hrefused,
      fun before hlt earlier hearlier place owner howns => ?_⟩
    obtain ⟨_, hentry⟩ := List.getElem?_eq_some_iff.1 (hmeant.2 ⟨hearlier, howns⟩)
    have haccepts := hbefore before hlt
    rw [hentry] at haccepts
    simpa using haccepts
  · rintro ⟨index, hargument, howner, hrefused, hearlier⟩
    obtain ⟨hindex, hat⟩ := List.getElem?_eq_some_iff.1 (hmeant.2 ⟨hargument, howner⟩)
    refine ⟨by simpa using hrefused, index, hindex, hat, fun before hlt => ?_⟩
    obtain ⟨⟨place, owner, earlier⟩, hentry⟩ :
      ∃ entry, (meant 0 params arguments)[before] = entry := ⟨_, rfl⟩
    obtain ⟨hfound, howns⟩ := hmeant.1 (List.getElem?_eq_some_iff.2 ⟨_, hentry⟩)
    rw [hentry]
    simpa using hearlier before hlt earlier hfound place owner howns

end

/-! ## The four errors -/

section

variable {shape : Shape} {context? : Option ContextId} {arguments : List Argument}

theorem takesContext_iff :
    shape.takesContext = true ↔ ∃ param ∈ shape.params, param.kind = .context := by
  simp [takesContext, List.any_eq_true]

theorem ordered_of_not_malformed (h : ¬ shape.Malformed) :
    Ordered (shape.params.map (·.kind)) :=
  Classical.byContradiction fun hnot => h (.inl hnot)

/-- What the first test finds out. -/
theorem isSound_iff_not_malformed : shape.isSound = true ↔ ¬ shape.Malformed := by
  rw [isSound, Bool.and_eq_true, ascending_iff_ordered, Malformed, not_or,
    Classical.not_not]
  refine and_congr_right fun ⟨checker, context, fixed, rest, hkinds⟩ => ?_
  have hchecker : (∀ param ∈ shape.params, param.kind ≠ .checker) ↔ checker = false := by
    have hmem : (∀ param ∈ shape.params, param.kind ≠ .checker) ↔
        .checker ∉ shape.params.map (·.kind) := by simp
    rw [hmem, hkinds]
    cases checker <;> simp [inOrder]
  rw [hchecker, takesChecker_eq_of_inOrder hkinds]
  cases checker <;> cases shape.returning <;> simp

/-- What the second test finds out. -/
theorem lacksContext_iff :
    (shape.wantsContext arguments && context?.isNone) = true ↔
      shape.LacksContext context? arguments := by
  have hforwarded : Source.forwarded? arguments = none ↔
      ∀ c, arguments.head? ≠ some (.context c) := by
    cases arguments with
    | nil => simp [Source.forwarded?]
    | cons argument arguments =>
        cases argument <;> simp [Source.forwarded?, Argument.context?]
  rw [LacksContext, ← takesContext_iff, ← hforwarded, wantsContext, forwardsContext]
  cases shape.takesContext <;> cases Source.forwarded? arguments <;> simp

/-- What the third test finds out. -/
theorem fits_iff_suffices (h : ¬ shape.Malformed) :
    shape.fits arguments = true ↔ shape.Suffices arguments := by
  obtain ⟨checker, context, fixed, rest, hkinds⟩ := ordered_of_not_malformed h
  rw [fits, Suffices, left, isVariadic_eq_of_inOrder hkinds, length_eq_of_inOrder hkinds,
    supplied_eq_of_inOrder hkinds, fixedCount_eq_of_inOrder hkinds]
  cases rest with
  | false => simp
  | true => simp

/-- An error of the check says what is wrong. -/
theorem rejects_of_validate {kind : Kind} {e : ConfigError}
    (h : shape.validate kind context? arguments = .error e) :
    shape.Rejects kind context? arguments e := by
  rw [validate] at h
  split at h
  case isTrue hsound =>
    cases h
    refine .signature (Classical.byContradiction fun hform => ?_)
    rw [isSound_iff_not_malformed.2 hform] at hsound
    cases hsound
  case isFalse hsound =>
    have hform : ¬ shape.Malformed := isSound_iff_not_malformed.1 (by simpa using hsound)
    split at h
    case isTrue hcontext =>
      cases h
      exact .context hform (lacksContext_iff.1 hcontext)
    case isFalse hcontext =>
      rw [lacksContext_iff] at hcontext
      split at h
      case isTrue hfits =>
        cases h
        refine .count hform hcontext fun hcount => ?_
        rw [(fits_iff_suffices hform).2 hcount] at hfits
        cases hfits
      case isFalse hfits =>
        have hcount : shape.Suffices arguments := (fits_iff_suffices hform).1 (by simpa using hfits)
        split at h
        case h_1 position param argument hrefused =>
          cases h
          have hascending := ascending_iff_ordered.2 (ordered_of_not_malformed hform)
          obtain ⟨index, hargument, howner, hrefused, hearlier⟩ :=
            (refused?_eq_some_iff hascending).1 hrefused
          exact .type hform hcontext hcount hargument howner hrefused hearlier
        case h_2 => cases h

/-- The check ends with an error exactly if that error says what is wrong. If the parameters
are in order, arguments belong to the parameters after the checker and the context, one to
each single parameter, and those that are left to the rest. -/
theorem validate_eq_error_iff_rejects (shape : Shape) (kind : Kind)
    (context? : Option ContextId) (arguments : List Argument) :
    (∀ e, shape.validate kind context? arguments = .error e ↔
        shape.Rejects kind context? arguments e) ∧
      (∀ checker context fixed rest,
        shape.params.map (·.kind) = inOrder checker context fixed rest →
        ∀ index position owner, Owns shape.params index position owner ↔
          shape.params[position]? = some owner ∧
            position = checker.toNat + context.toNat + min index fixed ∧
            (index < fixed ∨ rest = true)) := by
  refine ⟨fun e => ⟨rejects_of_validate, fun h => ?_⟩,
    fun checker context fixed rest hkinds index position owner => owns_iff_of_inOrder hkinds⟩
  have hcontext : ¬ shape.LacksContext context? arguments →
      (shape.wantsContext arguments && context?.isNone) = false := by
    rw [← lacksContext_iff, Bool.not_eq_true]
    exact id
  cases h with
  | signature hform =>
      have hsound : shape.isSound = false := by
        rw [← Bool.not_eq_true, isSound_iff_not_malformed]
        exact not_not_intro hform
      rw [validate, hsound]
      rfl
  | context hform hlacks =>
      rw [validate, isSound_iff_not_malformed.2 hform, lacksContext_iff.2 hlacks]
      rfl
  | count hform hlacks hcount =>
      have hfits : shape.fits arguments = false := by
        rw [← Bool.not_eq_true, fits_iff_suffices hform]
        exact hcount
      rw [validate, isSound_iff_not_malformed.2 hform, hcontext hlacks, hfits]
      rfl
  | type hform hlacks hcount hargument howner hrefused hearlier =>
      have hascending := ascending_iff_ordered.2 (ordered_of_not_malformed hform)
      have hfound := (refused?_eq_some_iff hascending).2
        ⟨_, hargument, howner, hrefused, hearlier⟩
      rw [left] at hfound
      rw [validate, isSound_iff_not_malformed.2 hform, hcontext hlacks,
        (fits_iff_suffices hform).2 hcount, hfound]
      rfl

/-- The context that comes first is nobody's argument, the checker has a place. -/
example :
    validate ⟨[.checker, .context, .fixed .string, .rest .string], .nothing, "fn"⟩ .eventually none
        [.context 0, .value (.ofString "a"), .value (.ofString "b"), .context 0] =
      .error (.argumentType "Eventually" "fn" 3 "...String" "Context") :=
  rfl

end

end Shape

end PollingAssertions
