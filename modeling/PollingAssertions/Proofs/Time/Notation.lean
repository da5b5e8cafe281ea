import Mathlib.Data.List.TakeWhile
import PollingAssertions.Time.Reading

/-!
# How spans of time are written

Reading a span takes a text apart: white space comes off its ends, the characters of a numeral
are taken from the front, and white space comes off the ends of what is left, which has to be
the name of a unit. Here the texts that can be read are put together instead, from a numeral,
white space and a name. The two agree, and there is only one way to put a text together, because
a numeral has none of the characters that white space and names begin with.

## Main definitions

* `Text.Trimmed` — texts without white space at their ends.
* `Numeral.Spelled` — numerals, and the numbers they spell.
* `Span.Unit.names` — the names of the units.
* `Span.Written` — written spans.

## Main results

* `Text.trim_trim` — white space comes off once.
* `Numeral.spelled_of_eq_some`, `Numeral.Spelled.ofChars?_eq` — what is read as a numeral is
  one, and the other way round.
* `Span.exists_written`, `Span.ofChars?_of_written` — what is read as a span is written as
  one, and read as what it is put together from.
* `Span.ofChars?_natural` — digits followed by the name of a unit.
-/

namespace PollingAssertions

section Heads

variable {p : Char → Bool} {cs : List Char}

theorem takeWhile_of_head (h : ∀ c ∈ cs.head?, p c = false) : cs.takeWhile p = [] := by
  cases cs with
  | nil => rfl
  | cons c cs => simp [h c rfl]

theorem dropWhile_of_head (h : ∀ c ∈ cs.head?, p c = false) : cs.dropWhile p = cs := by
  cases cs with
  | nil => rfl
  | cons c cs => simp [h c rfl]

end Heads

/-! ## White space at the ends -/

namespace Text

variable {cs blanks : List Char}

/-- Texts without white space at their ends. -/
def Trimmed (cs : List Char) : Prop :=
  (∀ c ∈ cs.head?, isBlank c = false) ∧ ∀ c ∈ cs.getLast?, isBlank c = false

/-- What is left when white space came off the front does not begin with white space. -/
theorem head_dropWhile (cs : List Char) :
    ∀ c ∈ (cs.dropWhile isBlank).head?, isBlank c = false := by
  intro c hc
  have hhead := List.head?_dropWhile_not isBlank cs
  rw [Option.mem_def.1 hc] at hhead
  exact hhead

theorem getLast?_of_suffix {c : Char} (h : blanks <:+ cs) (hc : c ∈ blanks.getLast?) :
    c ∈ cs.getLast? := by
  obtain ⟨front, rfl⟩ := h
  rw [List.getLast?_append, Option.mem_def.1 hc]
  rfl

/-- Where the end is no white space, it only comes off the front. -/
theorem trim_of_getLast (h : ∀ c ∈ cs.getLast?, isBlank c = false) :
    trim cs = cs.dropWhile isBlank := by
  have hlast : ∀ c ∈ (cs.dropWhile isBlank).reverse.head?, isBlank c = false := by
    intro c hc
    rw [List.head?_reverse] at hc
    exact h c (getLast?_of_suffix (List.dropWhile_suffix _) hc)
  rw [trim, dropWhile_of_head hlast, List.reverse_reverse]

theorem trim_of_trimmed (h : Trimmed cs) : trim cs = cs := by
  rw [trim_of_getLast h.2, dropWhile_of_head h.1]

theorem trimmed_of_forall (h : ∀ c ∈ cs, isBlank c = false) : Trimmed cs :=
  ⟨fun c hc => h c (List.mem_of_mem_head? hc), fun c hc => h c (List.mem_of_mem_getLast? hc)⟩

theorem trimmed_trim (cs : List Char) : Trimmed (trim cs) := by
  constructor
  · -- what comes off the end leaves the front alone
    intro c hc
    rw [trim, List.head?_reverse] at hc
    have hfront := getLast?_of_suffix (List.dropWhile_suffix _) hc
    rw [List.getLast?_reverse] at hfront
    exact head_dropWhile cs c hfront
  · intro c hc
    rw [trim, List.getLast?_reverse] at hc
    exact head_dropWhile _ c hc

/-- White space comes off once. -/
theorem trim_trim (cs : List Char) : trim (trim cs) = trim cs := trim_of_trimmed (trimmed_trim cs)

/-- White space in front of a text comes off. -/
theorem trim_append (hblanks : ∀ c ∈ blanks, isBlank c = true) (h : Trimmed cs) :
    trim (blanks ++ cs) = cs := by
  rw [trim, List.dropWhile_append_of_pos hblanks, ← trim, trim_of_trimmed h]

end Text

/-! ## Numerals -/

namespace Numeral

variable {cs : List Char} {n : Numeral}

/-- Numerals, which are digits with at most one point before, among or behind them, and the
numbers they spell. -/
inductive Spelled : List Char → Numeral → Prop
  | whole {digits : List Char} (hdigits : ∀ c ∈ digits, c.isDigit = true) (hsome : digits ≠ []) :
      Spelled digits ⟨ofDigits digits, 0⟩
  | pointed {digits fraction : List Char} (hdigits : ∀ c ∈ digits, c.isDigit = true)
      (hfraction : ∀ c ∈ fraction, c.isDigit = true) (hsome : digits ++ fraction ≠ []) :
      Spelled (digits ++ '.' :: fraction) ⟨ofDigits (digits ++ fraction), fraction.length⟩

theorem Spelled.isNumeral (h : Spelled cs n) : ∀ c ∈ cs, Span.isNumeral c = true := by
  cases h with
  | whole hdigits _ => exact fun c hc => by rw [Span.isNumeral, hdigits c hc, Bool.true_or]
  | pointed hdigits hfraction _ =>
      intro c hc
      rcases List.mem_append.1 hc with hc | hc
      · rw [Span.isNumeral, hdigits c hc, Bool.true_or]
      · rcases List.mem_cons.1 hc with rfl | hc
        · rfl
        · rw [Span.isNumeral, hfraction c hc, Bool.true_or]

theorem Spelled.ne_nil (h : Spelled cs n) : cs ≠ [] := by
  cases h with
  | whole _ hsome => exact hsome
  | pointed _ _ _ => simp

/-- What is read as a numeral is one. -/
theorem spelled_of_eq_some (h : ofChars? cs = some n) : Spelled cs n := by
  have hsplit : cs.takeWhile Char.isDigit ++ cs.dropWhile Char.isDigit = cs :=
    List.takeWhile_append_dropWhile
  have hdigits : ∀ c ∈ cs.takeWhile Char.isDigit, c.isDigit = true :=
    fun c hc => List.mem_takeWhile_imp hc
  rw [ofChars?] at h
  generalize cs.takeWhile Char.isDigit = digits at h hsplit hdigits
  cases hrest : cs.dropWhile Char.isDigit with
  | nil =>
      rw [hrest, List.append_nil] at hsplit
      simp only [hrest] at h
      split at h
      · cases h
      · next hsome =>
          cases h
          rw [← hsplit]
          exact .whole hdigits (by simpa using hsome)
  | cons c fraction =>
      rw [hrest] at hsplit
      simp only [hrest] at h
      split at h
      · next hpoint =>
          cases h
          obtain ⟨rfl, hfraction, hsome⟩ := hpoint
          rw [← hsplit]
          refine .pointed hdigits (List.all_eq_true.1 hfraction) ?_
          simpa using hsome
      · cases h

/-- Every numeral is read as the number that it spells. -/
theorem Spelled.ofChars?_eq (h : Spelled cs n) : ofChars? cs = some n := by
  cases h with
  | whole hdigits hsome =>
      have hnone : cs.dropWhile Char.isDigit = [] := List.dropWhile_eq_nil_iff.2 hdigits
      have hall : cs.takeWhile Char.isDigit = cs := List.takeWhile_eq_self_iff.2 hdigits
      simp [ofChars?, hnone, hall, hsome]
  | @pointed digits fraction hdigits hfraction hsome =>
      have hpoint : ('.' :: fraction).dropWhile Char.isDigit = '.' :: fraction := rfl
      have hnone : ('.' :: fraction).takeWhile Char.isDigit = [] := rfl
      have hall : fraction.all Char.isDigit = true := List.all_eq_true.2 hfraction
      have hsome' : digits = [] → fraction ≠ [] := by
        rintro rfl
        exact hsome
      simpa [ofChars?, List.takeWhile_append_of_pos hdigits,
        List.dropWhile_append_of_pos hdigits, hpoint, hnone, hall] using hsome'

theorem ofDigits_toDigits (n : Nat) : ofDigits (Nat.toDigits 10 n) = n :=
  Nat.ofDigitChars_ten_toDigits

/-- The decimal digits of a number spell it. -/
theorem spelled_toDigits (n : Nat) : Spelled (Nat.toDigits 10 n) ⟨n, 0⟩ := by
  have hspelled : Spelled (Nat.toDigits 10 n) ⟨ofDigits (Nat.toDigits 10 n), 0⟩ :=
    .whole (fun c hc => Nat.isDigit_of_mem_toDigits (by decide) (by decide) hc)
      Nat.toDigits_ne_nil
  rwa [ofDigits_toDigits] at hspelled

end Numeral

/-! ## Spans -/

namespace Span

namespace Unit

/-- The names of the units. -/
def names : List (String × Unit) :=
  [("ns", nanoseconds), ("us", microseconds), ("\u00b5s", microseconds), ("", milliseconds),
    ("ms", milliseconds), ("s", seconds), ("m", minutes), ("h", hours)]

theorem ofChars?_eq_some_iff {cs : List Char} {unit : Unit} :
    ofChars? cs = some unit ↔ ∃ name, (name, unit) ∈ names ∧ name.toList = cs := by
  constructor
  · intro h
    unfold ofChars? at h
    split at h
    all_goals cases h
    · exact ⟨"ns", by decide, rfl⟩
    · exact ⟨"us", by decide, rfl⟩
    · exact ⟨"\u00b5s", by decide, rfl⟩
    · exact ⟨"", by decide, rfl⟩
    · exact ⟨"ms", by decide, rfl⟩
    · exact ⟨"s", by decide, rfl⟩
    · exact ⟨"m", by decide, rfl⟩
    · exact ⟨"h", by decide, rfl⟩
  · have hread : ∀ entry ∈ names, ofChars? entry.1.toList = some entry.2 := by decide
    rintro ⟨name, hname, rfl⟩
    exact hread (name, unit) hname

variable {name : String} {unit : Unit}

/-- No name has white space in it. -/
theorem isBlank_of_mem_names (h : (name, unit) ∈ names) :
    ∀ c ∈ name.toList, Text.isBlank c = false := by
  have hall : (names.all fun entry => entry.1.toList.all fun c => !Text.isBlank c) = true := by
    decide
  intro c hc
  have hname := List.all_eq_true.1 (List.all_eq_true.1 hall _ h) c hc
  rwa [Bool.not_eq_true'] at hname

/-- No name begins with a character of a numeral. -/
theorem head_of_mem_names (h : (name, unit) ∈ names) :
    ∀ c ∈ name.toList.head?, isNumeral c = false := by
  have hall : (names.all fun entry => entry.1.toList.head?.all fun c => !isNumeral c) = true := by
    decide
  intro c hc
  have hname := List.all_eq_true.1 hall _ h
  rw [Option.mem_def.1 hc, Option.all_some, Bool.not_eq_true'] at hname
  exact hname

end Unit

/-- Written spans, with nothing around them: a numeral, the name of a unit, and white space
between them. -/
inductive Written : List Char → Numeral → Unit → Prop
  | intro {number blanks : List Char} {name : String} {n : Numeral} {unit : Unit}
      (hnumber : Numeral.Spelled number n) (hblanks : ∀ c ∈ blanks, Text.isBlank c = true)
      (hname : (name, unit) ∈ Unit.names) : Written (number ++ (blanks ++ name.toList)) n unit

theorem Written.ne_nil {cs : List Char} {n : Numeral} {unit : Unit} (h : Written cs n unit) :
    cs ≠ [] := by
  obtain ⟨hnumber, -, -⟩ := h
  simp [hnumber.ne_nil]

/-- White space is no part of a numeral. -/
theorem isNumeral_of_isBlank {c : Char} (h : Text.isBlank c = true) : isNumeral c = false := by
  rw [← Bool.not_eq_true]
  intro hnumeral
  rw [isNumeral, Bool.or_eq_true] at hnumeral
  rcases hnumeral with hdigit | hpoint
  · obtain ⟨hlower, hupper⟩ : 48 ≤ c.toNat ∧ c.toNat ≤ 57 := Char.isDigit_iff_toNat.1 hdigit
    simp only [Text.isBlank, Bool.or_eq_true, Bool.and_eq_true, decide_eq_true_eq, beq_iff_eq] at h
    omega
  · rw [beq_iff_eq.1 hpoint] at h
    cases h

/-- What follows the numeral of a written span does not begin with a character of a numeral. -/
theorem head_of_blanks {blanks : List Char} {name : String} {unit : Unit}
    (hblanks : ∀ c ∈ blanks, Text.isBlank c = true) (hname : (name, unit) ∈ Unit.names) :
    ∀ c ∈ (blanks ++ name.toList).head?, isNumeral c = false := by
  cases blanks with
  | nil => exact Unit.head_of_mem_names hname
  | cons c blanks =>
      rintro _ ⟨rfl⟩
      exact isNumeral_of_isBlank (hblanks c List.mem_cons_self)

/-- What is read as a span is written as one. -/
theorem exists_written {cs : List Char} {d : Span} (h : ofChars? cs = some d) :
    ∃ n unit, Written (Text.trim cs) n unit ∧ ofParts? n unit = some d := by
  have htrimmed := Text.trimmed_trim cs
  rw [ofChars?] at h
  generalize Text.trim cs = value at h htrimmed
  split at h
  · next n unit hnumber hunit =>
      obtain ⟨name, hname, hrest⟩ := Unit.ofChars?_eq_some_iff.1 hunit
      -- the text has no white space at its end, so what is taken off the rest is in front
      rw [Text.trim_of_getLast fun c hc =>
        htrimmed.2 c (Text.getLast?_of_suffix (List.dropWhile_suffix _) hc)] at hrest
      have hwritten : Written (value.takeWhile isNumeral ++
          ((value.dropWhile isNumeral).takeWhile Text.isBlank ++ name.toList)) n unit :=
        .intro (Numeral.spelled_of_eq_some hnumber) (fun c hc => List.mem_takeWhile_imp hc) hname
      rw [hrest, List.takeWhile_append_dropWhile, List.takeWhile_append_dropWhile] at hwritten
      exact ⟨n, unit, hwritten, h⟩
  · cases h

/-- White space around a span is no part of it. -/
theorem ofChars?_trim (cs : List Char) : ofChars? (Text.trim cs) = ofChars? cs := by
  rw [ofChars?, ofChars?, Text.trim_trim]

/-- A written span is read as the numeral and the unit that it is put together from. -/
theorem ofChars?_of_written {cs : List Char} {n : Numeral} {unit : Unit}
    (h : Written (Text.trim cs) n unit) : ofChars? cs = ofParts? n unit := by
  rw [ofChars?]
  generalize Text.trim cs = value at h
  obtain ⟨hnumber, hblanks, hname⟩ := h
  have hhead := head_of_blanks hblanks hname
  have hname' := Text.trimmed_of_forall (Unit.isBlank_of_mem_names hname)
  rw [List.takeWhile_append_of_pos hnumber.isNumeral, takeWhile_of_head hhead, List.append_nil,
    List.dropWhile_append_of_pos hnumber.isNumeral, dropWhile_of_head hhead,
    Text.trim_append hblanks hname', hnumber.ofChars?_eq,
    Unit.ofChars?_eq_some_iff.2 ⟨_, hname, rfl⟩]

section Naturals

variable {name : String} {unit : Unit}

/-- Digits followed by the name of a unit have nothing around them. -/
theorem trim_natural (n : Nat) (hname : (name, unit) ∈ Unit.names) :
    Text.trim (Nat.toDigits 10 n ++ name.toList) = Nat.toDigits 10 n ++ name.toList := by
  refine Text.trim_of_trimmed (Text.trimmed_of_forall fun c hc => ?_)
  rcases List.mem_append.1 hc with hdigit | hletter
  · rw [← Bool.not_eq_true]
    intro hblank
    have hnumeral := (Numeral.spelled_toDigits n).isNumeral c hdigit
    rw [isNumeral_of_isBlank hblank] at hnumeral
    cases hnumeral
  · exact Unit.isBlank_of_mem_names hname c hletter

/-- Digits followed by the name of a unit are read as so many of that unit. -/
theorem ofChars?_natural (n : Nat) (hname : (name, unit) ∈ Unit.names) :
    ofChars? (Nat.toDigits 10 n ++ name.toList) = ofParts? ⟨n, 0⟩ unit := by
  have hblanks : ∀ c ∈ ([] : List Char), Text.isBlank c = true := fun _ hc => by cases hc
  refine ofChars?_of_written ?_
  rw [trim_natural n hname]
  exact .intro (Numeral.spelled_toDigits n) hblanks hname

end Naturals

end Span

end PollingAssertions
