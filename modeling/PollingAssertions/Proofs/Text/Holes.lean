import PollingAssertions.Polling.Report

/-!
# Templates that are written and filled

Writing a template doubles the braces of every literal and puts an empty pair of braces
where a hole is. Filling reads it again from the front, with one character of
lookahead. The braces of a template can stand next to each other in many ways: a literal
may end with a brace that opens where a hole begins, or begin with one that closes where a
hole ended. Whatever they are, filling takes the characters two by two as they were
written, and so it never takes a half of one piece together with a half of the next.

What is inserted for a hole is not read again, whatever braces it has.

## Main results

* `Template.fill_escape_append` — filling passes over a literal and starts anew behind it.
* `Template.fill_write` — filling what was written puts the arguments between the literals.
* `Description.render_written` — so does rendering, which works out the arguments that have
  a hole and no others.
-/

namespace PollingAssertions

namespace Template

variable {c : Char} {rest first : List Char} {arguments others : List (List Char)}

/-! ## One piece at a time -/

/-- A doubled brace is taken as one. -/
theorem fill_doubled (h : c = opening ∨ c = closing) :
    fill (c :: c :: rest) arguments = c :: fill rest arguments := by
  have hdoubled : c = opening ∧ c = opening ∨ c = closing ∧ c = closing := by simpa using h
  simp only [fill]
  rw [if_pos hdoubled]

/-- A character that is no brace is taken as it is, whatever follows. -/
theorem fill_plain (h : ¬ (c = opening ∨ c = closing)) :
    fill (c :: rest) arguments = c :: fill rest arguments := by
  obtain ⟨hopening, hclosing⟩ := not_or.1 h
  cases rest with
  | nil => rfl
  | cons next rest => simp [fill, hopening, hclosing]

/-- The first argument goes into the first hole. -/
theorem fill_hole_cons (text : List Char) :
    fill (hole ++ rest) (text :: arguments) = text ++ fill rest arguments := by
  simp [hole, fill, opening, closing]

/-- A hole without an argument is written as a hole again. -/
theorem fill_hole_nil : fill (hole ++ rest) [] = hole ++ fill rest [] := by
  simp [hole, fill, opening, closing]

theorem holes_doubled (h : c = opening ∨ c = closing) : holes (c :: c :: rest) = holes rest := by
  have hdoubled : c = opening ∧ c = opening ∨ c = closing ∧ c = closing := by simpa using h
  rw [holes, if_pos hdoubled]

theorem holes_plain (h : ¬ (c = opening ∨ c = closing)) : holes (c :: rest) = holes rest := by
  obtain ⟨hopening, hclosing⟩ := not_or.1 h
  cases rest with
  | nil => rfl
  | cons next rest => simp [holes, hopening, hclosing]

theorem holes_hole : holes (hole ++ rest) = holes rest + 1 := by
  simp [hole, holes, opening, closing]

/-! ## Whole templates -/

theorem escape_cons (c : Char) (literal : List Char) :
    escape (c :: literal) =
      (if c = opening ∨ c = closing then [c, c] else [c]) ++ escape literal :=
  List.flatMap_cons

/-- Filling passes over a literal that was written, and starts anew behind it. -/
theorem fill_escape_append (literal rest : List Char) (arguments : List (List Char)) :
    fill (escape literal ++ rest) arguments = literal ++ fill rest arguments := by
  induction literal with
  | nil => rfl
  | cons c literal ih =>
      rw [escape_cons]
      by_cases hbrace : c = opening ∨ c = closing
      · simp only [if_pos hbrace, List.cons_append, List.nil_append]
        rw [fill_doubled hbrace, ih]
      · simp only [if_neg hbrace, List.cons_append, List.nil_append]
        rw [fill_plain hbrace, ih]

theorem holes_escape_append (literal rest : List Char) :
    holes (escape literal ++ rest) = holes rest := by
  induction literal with
  | nil => rfl
  | cons c literal ih =>
      rw [escape_cons]
      by_cases hbrace : c = opening ∨ c = closing
      · simp only [if_pos hbrace, List.cons_append, List.nil_append]
        rw [holes_doubled hbrace, ih]
      · simp only [if_neg hbrace, List.cons_append, List.nil_append]
        rw [holes_plain hbrace, ih]

/-- Filling what was written puts the arguments between the literals. -/
theorem fill_write (first : List Char) (others arguments : List (List Char)) :
    fill (write first others) arguments = interleave first others arguments := by
  -- the last literal has nothing behind it
  have hlast (literal : List Char) (arguments : List (List Char)) :
      fill (escape literal) arguments = literal := by
    simpa [fill] using fill_escape_append literal [] arguments
  induction others generalizing first arguments with
  | nil => rw [write, interleave, hlast]
  | cons next others ih =>
      rw [write, List.append_assoc, fill_escape_append]
      cases arguments with
      | nil => rw [fill_hole_nil, ih, interleave, List.append_assoc]
      | cons text arguments => rw [fill_hole_cons, ih, interleave, List.append_assoc]

/-- A template that was written has a hole between any two neighbouring literals. -/
theorem holes_write (first : List Char) (others : List (List Char)) :
    holes (write first others) = others.length := by
  induction others generalizing first with
  | nil => simpa [write, holes] using holes_escape_append first []
  | cons next others ih =>
      rw [write, List.append_assoc, holes_escape_append, holes_hole, ih, List.length_cons]

/-- Arguments beyond the last hole make no difference. -/
theorem interleave_take (first : List Char) (others arguments : List (List Char)) :
    interleave first others (arguments.take others.length) =
      interleave first others arguments := by
  induction others generalizing first arguments with
  | nil => simp [interleave]
  | cons next others ih =>
      cases arguments with
      | nil => simp [interleave]
      | cons text arguments => simp [interleave, ih]

end Template

namespace Description

open Template

/-- Rendering a template that was written gives the literals with the plain texts of the
arguments between them. A hole without an argument is an empty pair of braces, and arguments
beyond the last hole are not even worked out. -/
theorem render_written {σ : Type} [ReasonLog σ] (first : List Char)
    (others : List (List Char)) :
    (∀ texts : List (List Char),
      fill (write first others) texts = interleave first others texts) ∧
    ∀ (arguments : List Datum) (s : σ),
      (Description.template (String.ofList (write first others)) arguments).render s =
        .ok
          (String.ofList
            (interleave first others (arguments.map fun argument => argument.value.plain.toList)))
          (((arguments.take others.length).flatMap fun argument => argument.value.plainAsked).foldl
            (fun s reason => ReasonLog.workedOut reason s) s) := by
  refine ⟨fill_write first others, fun arguments s => ?_⟩
  have hused : interleave first others
      ((arguments.take others.length).map fun argument => argument.value.plain.toList) =
        interleave first others (arguments.map fun argument => argument.value.plain.toList) := by
    rw [List.map_take, interleave_take]
  simp only [Description.render, String.toList_ofList, holes_write, fill_write, hused]
  rfl

/-- A literal that ends with a brace before a hole, one that begins with a brace behind it,
and a hole too many. -/
example :
    Template.write ['\x7b'] [['\x7d', ' '], []] = "\x7b\x7b\x7b\x7d\x7d\x7d \x7b\x7d".toList ∧
      Template.fill (Template.write ['\x7b'] [['\x7d', ' '], []]) [['1']] =
        "\x7b1\x7d \x7b\x7d".toList := by
  decide

end Description

end PollingAssertions
