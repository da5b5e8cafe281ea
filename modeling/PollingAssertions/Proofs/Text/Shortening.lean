import PollingAssertions.Text.TypeName

/-!
# What shortening does to a type name

A character that cannot be part of a path ends the one before it, so that a name may be
cut there and its parts be shortened on their own. All else follows from this one equation
(`shorten_append_separator`) and from what becomes of a single path.

A path loses everything up to its last double colon. What is left has no double colon,
however many colons stood in a row, and a text without a double colon stays as it is.
Shortening twice is therefore shortening once.

Between the parts of a type expression there is always a character that ends a path. The
induction over type expressions joins the parts at these characters; it is the same for
all ways of writing paths that shortening leads from one to the other (`shorten_print`).

## Main definitions

* `TypeName.Fronts`, `TypeName.Between` — texts that stand in front of a part of a name, or
  between two parts.

## Main results

* `TypeName.shorten_append_separator` — a name may be cut at a separator.
* `TypeName.shorten_of_unscoped` — a text without a double colon stays as it is.
* `TypeExpr.shorten_print` — shortening a type expression shortens its paths.
* `TypeName.shorten_compositional` — the short name of a type expression, cutting names, and
  shortening twice.
-/

namespace PollingAssertions

namespace TypeName

variable {c : Char} {xs ys path later : List Char}

/-! ## Double colons -/

theorem afterDouble?_cons (c : Char) (cs : List Char) :
    afterDouble? (c :: cs) =
      (afterDouble? cs).or (if c = ':' ∧ cs.head? = some ':' then some cs.tail else none) := by
  rw [afterDouble?]
  cases afterDouble? cs <;> rfl

/-- There is something after the last double colon exactly if there is a double colon. -/
theorem afterDouble?_eq_none_iff : afterDouble? xs = none ↔ ¬ [':', ':'] <:+: xs := by
  induction xs with
  | nil => simp [afterDouble?]
  | cons c cs ih =>
      have hfront : [':', ':'] <+: c :: cs ↔ c = ':' ∧ cs.head? = some ':' := by
        cases cs with
        | nil => simp [List.cons_prefix_cons]
        | cons next cs => simp [List.cons_prefix_cons, eq_comm]
      rw [afterDouble?_cons, Option.or_eq_none_iff, ih, List.infix_cons_iff, hfront, not_or,
        and_comm]
      simp

/-- The last double colon of a text is the last one of any longer text that ends with it. -/
theorem afterDouble?_append (h : afterDouble? ys = some later) :
    afterDouble? (xs ++ ys) = some later := by
  induction xs with
  | nil => exact h
  | cons c xs ih => rw [List.cons_append, afterDouble?_cons, ih, Option.some_or]

/-- A text that has no double colon and does not begin with a colon is all that follows one
in front of it. -/
theorem afterDouble?_colons (h : afterDouble? ys = none) (hhead : ys.head? ≠ some ':') :
    afterDouble? (':' :: ':' :: ys) = some ys := by
  simp [afterDouble?_cons, h, hhead]

/-- Nothing after the last double colon is a double colon. -/
theorem afterDouble?_later (h : afterDouble? xs = some later) : afterDouble? later = none := by
  induction xs with
  | nil => simp [afterDouble?] at h
  | cons c cs ih =>
      rw [afterDouble?_cons] at h
      cases hcs : afterDouble? cs with
      | some _ =>
          rw [hcs, Option.some_or] at h
          exact ih (hcs.trans h)
      | none =>
          rw [hcs, Option.none_or, Option.ite_none_right_eq_some] at h
          obtain ⟨-, hlater⟩ := h
          cases hlater
          -- the colon behind `c` comes before all that is left
          rw [afterDouble?_eq_none_iff] at hcs ⊢
          exact fun hdouble => hcs (hdouble.trans (List.tail_suffix cs).isInfix)

theorem unqualified_of_unscoped (h : afterDouble? path = none) : unqualified path = path := by
  rw [unqualified, h, Option.getD_none]

/-- The last component of a path has no scopes. -/
theorem unscoped_unqualified (path : List Char) : afterDouble? (unqualified path) = none := by
  rw [unqualified]
  cases h : afterDouble? path with
  | none => exact h
  | some later => exact afterDouble?_later h

/-! ## Separators -/

theorem shortenFrom_append_separator (hc : inPath c = false) (path xs ys : List Char) :
    shortenFrom path (xs ++ c :: ys) = shortenFrom path xs ++ c :: shortenFrom [] ys := by
  induction xs generalizing path with
  | nil => simp [shortenFrom, hc]
  | cons x xs ih =>
      rw [List.cons_append, shortenFrom, shortenFrom]
      by_cases hx : inPath x = true
      · rw [if_pos hx, if_pos hx, ih]
      · rw [if_neg hx, if_neg hx, ih, List.append_assoc, List.cons_append]

/-- A name that is all one path. -/
theorem shortenFrom_path (h : ∀ x ∈ xs, inPath x = true) :
    shortenFrom path xs = unqualified (path.reverse ++ xs) := by
  induction xs generalizing path with
  | nil => rw [shortenFrom, List.append_nil]
  | cons x xs ih =>
      obtain ⟨hx, hxs⟩ := List.forall_mem_cons.1 h
      rw [shortenFrom, if_pos hx, ih hxs, List.reverse_cons, List.append_assoc,
        List.singleton_append]

/-- A text without a double colon stays as it is. -/
theorem shortenFrom_of_unscoped (path xs : List Char)
    (h : afterDouble? (path.reverse ++ xs) = none) :
    shortenFrom path xs = path.reverse ++ xs := by
  induction xs generalizing path with
  | nil =>
      rw [List.append_nil] at h ⊢
      exact unqualified_of_unscoped h
  | cons x xs ih =>
      rw [shortenFrom]
      split
      · rw [ih _ (by simpa using h)]
        simp
      · -- neither part has a double colon, as the whole has none
        rw [afterDouble?_eq_none_iff] at h
        have hpath : afterDouble? path.reverse = none :=
          afterDouble?_eq_none_iff.2 fun hdouble =>
            h (hdouble.trans (List.prefix_append _ _).isInfix)
        have hxs : afterDouble? xs = none :=
          afterDouble?_eq_none_iff.2 fun hdouble =>
            h (hdouble.trans ((List.suffix_cons x xs).trans (List.suffix_append _ _)).isInfix)
        rw [unqualified_of_unscoped hpath, ih [] hxs]
        rfl

theorem shortenFrom_shortenFrom (path xs : List Char) :
    shortenFrom [] (shortenFrom path xs) = shortenFrom path xs := by
  have hword (path : List Char) :
      shortenFrom [] (unqualified path.reverse) = unqualified path.reverse :=
    shortenFrom_of_unscoped [] _ (unscoped_unqualified _)
  induction xs generalizing path with
  | nil => exact hword path
  | cons x xs ih =>
      rw [shortenFrom]
      by_cases hx : inPath x = true
      · rw [if_pos hx, ih]
      · rw [if_neg hx, shortenFrom_append_separator (Bool.eq_false_iff.2 hx), hword, ih]

/-! ## Texts -/

/-- A name may be cut at a separator, and its parts be shortened on their own. -/
theorem shorten_append_separator (hc : inPath c = false) (x y : String) :
    shorten (x ++ String.singleton c ++ y) =
      shorten x ++ String.singleton c ++ shorten y := by
  apply String.ext
  simp [shorten, shortenFrom_append_separator hc]

theorem shorten_of_unscoped {text : String} (h : afterDouble? text.toList = none) :
    shorten text = text := by
  have htext : shortenFrom [] text.toList = text.toList := shortenFrom_of_unscoped [] _ h
  rw [shorten, htext, String.ofList_toList]

theorem shorten_shorten (text : String) : shorten (shorten text) = shorten text := by
  rw [shorten, shorten, String.toList_ofList, shortenFrom_shortenFrom]

/-! ## Parts of a name -/

/-- Whether a text ends with a separator. -/
def ends (text : String) : Bool := text.toList.getLast?.any (!inPath ·)

/-- Whether a text begins with a separator. -/
def begins (text : String) : Bool := text.toList.head?.any (!inPath ·)

variable {x y text : String}

theorem shorten_append_of_ends (h : ends x = true) (y : String) :
    shorten (x ++ y) = shorten x ++ shorten y := by
  obtain ⟨c, hlast, hc⟩ := (Option.any_eq_true _ _).1 h
  obtain ⟨front, hx⟩ := List.getLast?_eq_some_iff.1 hlast
  have hsep : inPath c = false := by simpa using hc
  apply String.ext
  simp [shorten, hx, shortenFrom_append_separator hsep, shortenFrom, unqualified, afterDouble?]

theorem shorten_append_of_begins (h : begins y = true) (x : String) :
    shorten (x ++ y) = shorten x ++ shorten y := by
  obtain ⟨c, hfirst, hc⟩ := (Option.any_eq_true _ _).1 h
  obtain ⟨rest, hy⟩ := List.head?_eq_some_iff.1 hfirst
  have hsep : inPath c = false := by simpa using hc
  have hrest : shortenFrom [] (c :: rest) = c :: shortenFrom [] rest :=
    shortenFrom_append_separator hsep [] [] rest
  apply String.ext
  simp [shorten, hy, shortenFrom_append_separator hsep, hrest]

theorem ends_append (h : ends y = true) (x : String) : ends (x ++ y) = true := by
  obtain ⟨c, hlast, hc⟩ := (Option.any_eq_true _ _).1 h
  simp [ends, List.getLast?_append, hlast, hc]

/-- A text that stays as it is and that a new part of a name may come behind. -/
structure Fronts (text : String) : Prop where
  fixed : shorten text = text
  ends : text = "" ∨ ends text = true

namespace Fronts

theorem empty : Fronts "" := ⟨rfl, .inl rfl⟩

theorem shorten_append (h : Fronts text) (x : String) :
    shorten (text ++ x) = text ++ shorten x := by
  rcases h.ends with rfl | hends
  · rw [String.empty_append, String.empty_append]
  · rw [shorten_append_of_ends hends, h.fixed]

theorem append (h : Fronts x) (h' : Fronts y) : Fronts (x ++ y) := by
  refine ⟨by rw [h.shorten_append, h'.fixed], ?_⟩
  rcases h'.ends with rfl | hends
  · rw [String.append_empty]
    exact h.ends
  · exact .inr (ends_append hends x)

end Fronts

/-- A text that may stand between two parts of a name. -/
structure Between (text : String) : Prop extends Fronts text where
  begins : begins text = true

namespace Between

theorem shorten_between (h : Between text) (x y : String) :
    shorten (x ++ text ++ y) = shorten x ++ text ++ shorten y := by
  have hbegins : TypeName.begins (text ++ y) = true := by
    obtain ⟨c, hfirst, hc⟩ := (Option.any_eq_true _ _).1 h.begins
    simp [TypeName.begins, List.head?_append, hfirst, hc]
  rw [String.append_assoc, shorten_append_of_begins hbegins, h.shorten_append,
    String.append_assoc]

/-- Parts of a name with the same text between any two neighbours. -/
theorem shorten_joined (h : Between text) (parts : List String) :
    shorten (Text.joined text parts) = Text.joined text (parts.map shorten) := by
  induction parts with
  | nil => rfl
  | cons part parts ih =>
      cases parts with
      | nil => rfl
      | cons next parts =>
          rw [Text.joined, h.shorten_between, ih]
          · rfl
          · simp

end Between

/-- The texts in front of a part of a type expression. -/
theorem fronts_of_mem :
    ∀ text ∈ ["(", "[", "fn(", "&", "mut ", "*mut ", "*const ", "dyn ", "'"], Fronts text := by
  have htable : ∀ text ∈ ["(", "[", "fn(", "&", "mut ", "*mut ", "*const ", "dyn ", "'"],
      afterDouble? text.toList = none ∧ ends text = true := by
    decide +kernel
  exact fun text hmem => ⟨shorten_of_unscoped (htable text hmem).1, .inr (htable text hmem).2⟩

/-- The texts between two parts of a type expression. -/
theorem between_of_mem :
    ∀ text ∈ ["<", "(", ", ", " + ", " -> ", " = ", "; ", " "], Between text := by
  have htable : ∀ text ∈ ["<", "(", ", ", " + ", " -> ", " = ", "; ", " "],
      afterDouble? text.toList = none ∧ ends text = true ∧ begins text = true := by
    decide +kernel
  intro text hmem
  obtain ⟨hunscoped, hends, hbegins⟩ := htable text hmem
  exact ⟨⟨shorten_of_unscoped hunscoped, .inr hends⟩, hbegins⟩

/-- The texts behind a part of a type expression. -/
theorem shorten_append_of_mem : ∀ text ∈ [">", ")", ",)", "]"], ∀ x,
    shorten (x ++ text) = shorten x ++ text := by
  have htable : ∀ text ∈ [">", ")", ",)", "]"],
      afterDouble? text.toList = none ∧ begins text = true := by
    decide +kernel
  intro text hmem x
  obtain ⟨hunscoped, hbegins⟩ := htable text hmem
  rw [shorten_append_of_begins hbegins, shorten_of_unscoped hunscoped]

/-! ## Paths -/

theorem inPath_of_inName (h : inName c = true) : inPath c = true := by
  rw [inPath, h, Bool.true_or]

theorem inName_colon : inName ':' = false := by decide +kernel

namespace Name

theorem colon_not_mem (name : Name) : ':' ∉ name.text.toList := fun hcolon => by
  have hspelled := List.all_eq_true.1 name.spelled ':' hcolon
  rw [inName_colon] at hspelled
  cases hspelled

theorem unscoped (name : Name) : afterDouble? name.text.toList = none :=
  afterDouble?_eq_none_iff.2 fun hdouble => name.colon_not_mem (hdouble.subset (by simp))

theorem head?_ne_colon (name : Name) : name.text.toList.head? ≠ some ':' :=
  fun hhead => name.colon_not_mem (List.mem_of_mem_head? hhead)

theorem shorten_text (name : Name) : shorten name.text = name.text :=
  shorten_of_unscoped name.unscoped

end Name

end TypeName

namespace TypeExpr

open PollingAssertions.TypeName
open Text (joined)

theorem fullPath_cons (scope : Name) (scopes : List Name) (name : Name) :
    fullPath (scope :: scopes) name = scope.text ++ "::" ++ fullPath scopes name := by
  have hrest : ((scopes ++ [name]).map (·.text)) ≠ [] := by simp
  rw [fullPath, List.cons_append, List.map_cons, joined, fullPath]
  exact hrest

theorem inPath_of_mem_fullPath {scopes : List Name} {name : Name} :
    ∀ c ∈ (fullPath scopes name).toList, inPath c = true := by
  have hword (word : Name) : ∀ c ∈ word.text.toList, inPath c = true :=
    fun c hc => inPath_of_inName (List.all_eq_true.1 word.spelled c hc)
  induction scopes with
  | nil => exact hword name
  | cons scope scopes ih =>
      intro c hc
      rw [fullPath_cons, String.toList_append, String.toList_append] at hc
      rcases List.mem_append.1 hc with hc | hc
      · rcases List.mem_append.1 hc with hc | hc
        · exact hword scope c hc
        · have hcolon : c = ':' := by simpa using hc
          rw [hcolon, inPath, inName_colon]
          rfl
      · exact ih c hc

/-- The name of a path is its last component. -/
theorem unqualified_fullPath (scopes : List Name) (name : Name) :
    unqualified (fullPath scopes name).toList = name.text.toList := by
  induction scopes with
  | nil => exact unqualified_of_unscoped name.unscoped
  | cons scope scopes ih =>
      rw [fullPath_cons, String.append_assoc, String.toList_append, String.toList_append]
      have hrest : afterDouble? ("::".toList ++ (fullPath scopes name).toList) =
          some name.text.toList := by
        cases hlater : afterDouble? (fullPath scopes name).toList with
        | some later =>
            rw [unqualified, hlater, Option.getD_some] at ih
            rw [← ih]
            exact afterDouble?_append hlater
        | none =>
            rw [unqualified_of_unscoped hlater] at ih
            rw [ih]
            exact afterDouble?_colons name.unscoped name.head?_ne_colon
      rw [unqualified, afterDouble?_append hrest, Option.getD_some]

theorem shorten_fullPath (scopes : List Name) (name : Name) :
    shorten (fullPath scopes name) = name.text := by
  have hpath : shortenFrom [] (fullPath scopes name).toList = name.text.toList := by
    rw [shortenFrom_path inPath_of_mem_fullPath, List.reverse_nil, List.nil_append,
      unqualified_fullPath]
  rw [shorten, hpath, String.ofList_toList]

/-! ## Type expressions -/

theorem shorten_toString (n : Nat) : shorten (toString n) = toString n := by
  refine shorten_of_unscoped (afterDouble?_eq_none_iff.2 fun hdouble => ?_)
  have hcolon : ':' ∈ Nat.toDigits 10 n := by
    simpa using hdouble.subset (List.mem_cons_self : ':' ∈ [':', ':'])
  have hdigit : (':').isDigit = true := Nat.isDigit_of_mem_toDigits (by decide) (by decide) hcolon
  exact absurd hdigit (by decide)

theorem shorten_lifetimeText (name : Name) : shorten (lifetimeText name) = lifetimeText name := by
  rw [lifetimeText, (fronts_of_mem "'" (by simp)).shorten_append, name.shorten_text]

theorem fronts_lifetimeText (name : Name) : Fronts (lifetimeText name ++ " ") where
  fixed := by
    have hspace := (between_of_mem " " (by simp)).shorten_between (lifetimeText name) ""
    rwa [String.append_empty, shorten_lifetimeText, Fronts.empty.fixed, String.append_empty]
      at hspace
  ends := .inr (ends_append (by decide +kernel) _)

section

variable {path path' : List Name → Name → String}

mutual

/-- Shortening a type expression shortens its paths. -/
theorem shorten_print (hpath : ∀ scopes name, shorten (path scopes name) = path' scopes name) :
    ∀ t, shorten (print path t) = print path' t
  | named scopes name arguments => by
      rw [print, print]
      split
      · rw [String.append_empty, String.append_empty, hpath]
      · rw [← String.append_assoc, ← String.append_assoc, ← String.append_assoc,
          ← String.append_assoc, shorten_append_of_mem ">" (by simp),
          (between_of_mem "<" (by simp)).shorten_between,
          (between_of_mem ", " (by simp)).shorten_joined, hpath, shorten_printAll hpath]
  | applied scopes name parameters => by
      rw [print, print, shorten_append_of_mem ")" (by simp),
        (between_of_mem "(" (by simp)).shorten_between,
        (between_of_mem ", " (by simp)).shorten_joined, hpath, shorten_printAll hpath]
  | binding name value => by
      rw [print, print, (between_of_mem " = " (by simp)).shorten_between, name.shorten_text,
        shorten_print hpath]
  | constant verbatim => shorten_of_unscoped verbatim.unscoped
  | lifetime name => shorten_lifetimeText name
  | reference life mutable target => by
      have hlife : Fronts (life.elim "" fun name => lifetimeText name ++ " ") := by
        cases life with
        | none => exact Fronts.empty
        | some name => exact fronts_lifetimeText name
      have hmutable : Fronts (if mutable = true then "mut " else "") := by
        split
        · exact fronts_of_mem "mut " (by simp)
        · exact Fronts.empty
      have hfront := ((fronts_of_mem "&" (by simp)).append hlife).append hmutable
      rw [print, print, hfront.shorten_append, shorten_print hpath]
  | pointer mutable target => by
      have hstar : Fronts (if mutable = true then "*mut " else "*const ") := by
        split
        · exact fronts_of_mem "*mut " (by simp)
        · exact fronts_of_mem "*const " (by simp)
      rw [print, print, hstar.shorten_append, shorten_print hpath]
  | tuple members => by
      have hlast : ∀ x, shorten (x ++ if members.length = 1 then ",)" else ")") =
          shorten x ++ if members.length = 1 then ",)" else ")" := by
        split
        · exact shorten_append_of_mem ",)" (by simp)
        · exact shorten_append_of_mem ")" (by simp)
      rw [print, print, hlast, (fronts_of_mem "(" (by simp)).shorten_append,
        (between_of_mem ", " (by simp)).shorten_joined, shorten_printAll hpath]
  | slice member => by
      rw [print, print, shorten_append_of_mem "]" (by simp),
        (fronts_of_mem "[" (by simp)).shorten_append, shorten_print hpath]
  | array member length => by
      rw [print, print, shorten_append_of_mem "]" (by simp),
        (between_of_mem "; " (by simp)).shorten_between, shorten_toString,
        (fronts_of_mem "[" (by simp)).shorten_append, shorten_print hpath]
  | procedure parameters => by
      rw [print, print, shorten_append_of_mem ")" (by simp),
        (fronts_of_mem "fn(" (by simp)).shorten_append,
        (between_of_mem ", " (by simp)).shorten_joined, shorten_printAll hpath]
  | returning callable result => by
      rw [print, print, (between_of_mem " -> " (by simp)).shorten_between,
        shorten_print hpath callable, shorten_print hpath result]
  | qualified words target => by
      rw [print, print, (between_of_mem " " (by simp)).shorten_between,
        shorten_of_unscoped words.unscoped, shorten_print hpath]
  | dynamic bounds => by
      rw [print, print, (fronts_of_mem "dyn " (by simp)).shorten_append,
        (between_of_mem " + " (by simp)).shorten_joined, shorten_printAll hpath]

theorem shorten_printAll
    (hpath : ∀ scopes name, shorten (path scopes name) = path' scopes name) :
    ∀ ts, (printAll path ts).map shorten = printAll path' ts
  | [] => rfl
  | t :: ts => by rw [printAll, printAll, List.map_cons, shorten_print hpath t,
      shorten_printAll hpath ts]

end

end

end TypeExpr

namespace TypeName

/-- Shortening the full name of a type expression leaves the last component of every path,
and all else as it is. A name may be cut at every character that is neither a letter nor a
digit, no underscore and no colon, and its parts be shortened on their own. Shortening twice
is shortening once. -/
theorem shorten_compositional :
    (∀ t : TypeExpr, shorten t.full = t.short) ∧
    (∀ (c : Char) (x y : String), Text.isAlphanumeric c = false → c ≠ '_' → c ≠ ':' →
      shorten (x ++ String.singleton c ++ y) = shorten x ++ String.singleton c ++ shorten y) ∧
    ∀ text : String, shorten (shorten text) = shorten text := by
  refine ⟨TypeExpr.shorten_print TypeExpr.shorten_fullPath, ?_, shorten_shorten⟩
  intro c x y hletter hunderscore hcolon
  have hc : inPath c = false := by simp [inPath, inName, hletter, hunderscore, hcolon]
  exact shorten_append_separator hc x y

/-- Three colons in a row, and a path that ends with two. -/
example : shorten "a:::b<c::>" = "b<>" := by decide +kernel

/-- A vector of durations is cut at its bracket. -/
theorem shorten_compositional_bracket :
    (Text.isAlphanumeric '<' = false ∧ '<' ≠ '_' ∧ '<' ≠ ':') ∧
    shorten ("alloc::vec::Vec" ++ String.singleton '<' ++ "core::time::Duration>") =
      shorten "alloc::vec::Vec" ++ String.singleton '<' ++ shorten "core::time::Duration>" := by
  have hbracket : Text.isAlphanumeric '<' = false := by decide +kernel
  exact ⟨⟨hbracket, by decide, by decide⟩,
    shorten_compositional.2.1 '<' _ _ hbracket (by decide) (by decide)⟩

end TypeName

end PollingAssertions
