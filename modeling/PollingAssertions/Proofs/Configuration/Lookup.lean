import PollingAssertions.Configuration.Defaults
import PollingAssertions.Proofs.Time.Precision

/-!
# Defaults that are set from outside

Each default can be set by the text of a variable. The variables are looked up one after the
other, and each of them concerns its own field only: it leaves the field as it is, gives it the
span that its text spells, or is refused. The first one that is refused ends the lookup.

Which texts are spans does not depend on the variable. Their notation says so, except for large
numbers, where it depends on what double precision makes of the number and the unit.

## Main definitions

* `Defaults.Heeds` — what a field is after its variable was looked up.
* `Defaults.Refused` — a variable with a text that is no span.

## Main results

* `Defaults.overriddenBy_cases` — how a lookup ends.
* `Defaults.ofLookup_reads` — the defaults that come out, and the texts that are spans.
* `Defaults.read_natural` — what becomes of a whole number of units.
-/

namespace PollingAssertions.Defaults

variable {lookup : String → Option String} {field : Field} {text : String} {d d' d'' : Span}

/-! ## One variable -/

theorem read_of_some (field : Field) (h : Span.ofChars? text.toList = some d) :
    read field text = .ok d := by
  simp only [read, Span.ofChars?_trim, h]

theorem read_of_none (field : Field) (h : Span.ofChars? text.toList = none) :
    read field text =
      .error (.invalidDuration field.setting (String.ofList (Text.trim text.toList))) := by
  simp only [read, Span.ofChars?_trim, h]

/-- There is only one reason to refuse a text. -/
theorem eq_invalidDuration {e : ConfigError} (h : read field text = .error e) :
    e = .invalidDuration field.setting (String.ofList (Text.trim text.toList)) := by
  cases hread : Span.ofChars? text.toList with
  | none => exact (Except.error.inj ((read_of_none field hread).symm.trans h)).symm
  | some d => cases (read_of_some field hread).symm.trans h

/-- A text that is not written as a span is refused. -/
theorem read_of_not_written (field : Field) (text : String)
    (h : ∀ n unit, ¬ Span.Written (Text.trim text.toList) n unit) :
    read field text =
      .error (.invalidDuration field.setting (String.ofList (Text.trim text.toList))) := by
  refine read_of_none field (Option.eq_none_iff_forall_ne_some.2 fun d hd => ?_)
  obtain ⟨n, unit, hwritten, -⟩ := Span.exists_written hd
  exact h n unit hwritten

/-- A text that is written as a span, with a number up to a million, is read. -/
theorem exists_read_eq_ok (field : Field) (text : String) (n : Numeral) (unit : Span.Unit)
    (hwritten : Span.Written (Text.trim text.toList) n unit) (hle : n.value ≤ 1000000) :
    ∃ d, read field text = .ok d := by
  obtain ⟨d, hd⟩ := Span.exists_ofParts?_eq_some n unit hle
  exact ⟨d, read_of_some field ((Span.ofChars?_of_written hwritten).trans hd)⟩

/-- What a field that was `d` is after its variable was looked up. -/
def Heeds (lookup : String → Option String) (field : Field) (d d' : Span) : Prop :=
  match lookup field.setting with
  | none => d' = d
  | some text => read field text = .ok d'

/-- A field whose variable is there and has a text that is no span. -/
def Refused (lookup : String → Option String) (field : Field) : Prop :=
  ∃ text e, lookup field.setting = some text ∧ read field text = .error e

theorem Heeds.not_refused (h : Heeds lookup field d d') : ¬ Refused lookup field := by
  rintro ⟨text, e, hpresent, herror⟩
  simp [Heeds, hpresent, herror] at h

theorem exists_heeds (h : ¬ Refused lookup field) (d : Span) :
    ∃ d', Heeds lookup field d d' := by
  unfold Heeds
  split
  · exact ⟨d, rfl⟩
  · next text hpresent =>
      cases hread : read field text with
      | error e => exact absurd ⟨text, e, hpresent, hread⟩ h
      | ok d' => exact ⟨d', rfl⟩

theorem Heeds.trans (h : Heeds lookup field d d') (h' : Heeds lookup field d' d'') :
    Heeds lookup field d d'' := by
  unfold Heeds at h h' ⊢
  split
  · next habsent =>
      simp only [habsent] at h h'
      exact h'.trans h
  · next text hpresent => simpa only [hpresent] using h'

/-! ## All variables -/

theorem set_get (defaults : Defaults) (field : Field) :
    defaults.set (defaults.get field) field = defaults := by
  cases field <;> rfl

theorem Field.mem_all (field : Field) : field ∈ Field.all := by
  cases field <;> decide

/-- A variable that is not refused sets its field, and the lookup goes on. -/
theorem overriddenBy_of_heeds {defaults : Defaults} {fields : List Field}
    (h : Heeds lookup field (defaults.get field) d) :
    overriddenBy lookup defaults (field :: fields) =
      overriddenBy lookup (defaults.set d field) fields := by
  cases hlookup : lookup field.setting with
  | none =>
      simp only [Heeds, hlookup] at h
      simp only [overriddenBy, hlookup, h, set_get]
  | some text =>
      simp only [Heeds, hlookup] at h
      simp only [overriddenBy, hlookup, h]

/-- A variable that is refused ends the lookup. -/
theorem overriddenBy_of_error {defaults : Defaults} {fields : List Field} {e : ConfigError}
    (hpresent : lookup field.setting = some text) (h : read field text = .error e) :
    overriddenBy lookup defaults (field :: fields) = .error e := by
  simp only [overriddenBy, hpresent, h]

/-- A lookup sets every field from its own variable and leaves the others, or it ends with the
first variable that is refused. -/
theorem overriddenBy_cases (lookup : String → Option String) (defaults : Defaults)
    (fields : List Field) :
    (∃ defaults', overriddenBy lookup defaults fields = .ok defaults' ∧
      (∀ field ∈ fields, Heeds lookup field (defaults.get field) (defaults'.get field)) ∧
      ∀ field ∉ fields, defaults'.get field = defaults.get field) ∨
    ∃ before field after text e, fields = before ++ field :: after ∧
      (∀ other ∈ before, ¬ Refused lookup other) ∧ lookup field.setting = some text ∧
      read field text = .error e ∧ overriddenBy lookup defaults fields = .error e := by
  induction fields generalizing defaults with
  | nil => exact .inl ⟨defaults, rfl, by simp, fun _ _ => rfl⟩
  | cons field fields ih =>
      by_cases hrefused : Refused lookup field
      · obtain ⟨text, e, hpresent, herror⟩ := hrefused
        exact .inr ⟨[], field, fields, text, e, rfl, by simp, hpresent, herror,
          overriddenBy_of_error hpresent herror⟩
      · obtain ⟨d, hd⟩ := exists_heeds hrefused (defaults.get field)
        rw [overriddenBy_of_heeds hd]
        rcases ih (defaults.set d field) with
          ⟨defaults', hok, hheeds, hothers⟩ |
          ⟨before, refused, after, text, e, rfl, hbefore, hpresent, hread, herror⟩
        · refine .inl ⟨defaults', hok, fun other hother => ?_, fun other hother => ?_⟩
          · by_cases hrest : other ∈ fields
            · have hlater := hheeds other hrest
              rw [get_set] at hlater
              split at hlater
              · next hsame =>
                  subst hsame
                  exact hd.trans hlater
              · exact hlater
            · obtain rfl : other = field := (List.mem_cons.1 hother).resolve_right hrest
              rw [hothers other hrest, get_set, if_pos rfl]
              exact hd
          · rw [List.mem_cons, not_or] at hother
            rw [hothers other hother.2, get_set, if_neg hother.1]
        · refine .inr ⟨field :: before, refused, after, text, e, rfl, fun other hother => ?_,
            hpresent, hread, herror⟩
          rcases List.mem_cons.1 hother with rfl | hother
          · exact hrefused
          · exact hbefore other hother

/-- The defaults that variables lead to. Whether the lookup fails depends on whether a variable
is there with a text that is refused; the first such variable is reported, with its text. If
there is none, every field is set from its own variable, and keeps its value where there is no
variable. A text that is not written as a span is refused, and a text that is written as one,
with a number up to a million, is not. -/
theorem ofLookup_reads (lookup : String → Option String) :
    ((∃ e, ofLookup lookup = .error e) ↔ ∃ field, Refused lookup field) ∧
    (∀ e, ofLookup lookup = .error e →
      ∃ before field after text, Field.all = before ++ field :: after ∧
        (∀ other ∈ before, ¬ Refused lookup other) ∧
        Refused lookup field ∧ lookup field.setting = some text ∧
        e = .invalidDuration field.setting (String.ofList (Text.trim text.toList))) ∧
    (∀ defaults, ofLookup lookup = .ok defaults →
      ∀ field, Heeds lookup field (builtIn.get field) (defaults.get field)) ∧
    (∀ field text, (∀ n unit, ¬ Span.Written (Text.trim text.toList) n unit) →
      read field text =
        .error (.invalidDuration field.setting (String.ofList (Text.trim text.toList)))) ∧
    ∀ field text n unit, Span.Written (Text.trim text.toList) n unit →
      n.value ≤ 1000000 → ∃ d, read field text = .ok d := by
  rcases overriddenBy_cases lookup builtIn Field.all with
    ⟨defaults', hok, hheeds, -⟩ |
    ⟨before, field, after, text, e, hall, hbefore, hpresent, hread, herror⟩
  · rw [← ofLookup] at hok
    refine ⟨⟨?_, ?_⟩, ?_, ?_, read_of_not_written, exists_read_eq_ok⟩
    · rintro ⟨e, herror⟩
      cases hok.symm.trans herror
    · rintro ⟨field, hrefused⟩
      exact absurd hrefused (hheeds field field.mem_all).not_refused
    · intro e herror
      cases hok.symm.trans herror
    · intro defaults hdefaults field
      cases hok.symm.trans hdefaults
      exact hheeds field field.mem_all
  · rw [← ofLookup] at herror
    have hrefused : Refused lookup field := ⟨text, e, hpresent, hread⟩
    refine ⟨⟨fun _ => ⟨field, hrefused⟩, fun _ => ⟨e, herror⟩⟩, ?_, ?_, read_of_not_written,
      exists_read_eq_ok⟩
    · intro e' herror'
      cases herror.symm.trans herror'
      exact ⟨before, field, after, text, hall, hbefore, hrefused, hpresent,
        eq_invalidDuration hread⟩
    · intro defaults hdefaults
      cases herror.symm.trans hdefaults

/-- A lookup that finds one variable. -/
def single (field : Field) (text : String) (setting : String) : Option String :=
  if setting = field.setting then some text else none

/-- A text that is refused, one that is read, and what each of them does to the lookup. -/
theorem ofLookup_reads_single :
    (∃ field, Refused (single .eventuallyInterval " soon ") field) ∧
    (∃ (field : Field) (text : String),
      single .eventuallyInterval " soon " field.setting = some text ∧
      ConfigError.invalidDuration Field.eventuallyInterval.setting "soon" =
        .invalidDuration field.setting (String.ofList (Text.trim text.toList))) ∧
    Heeds (single .eventuallyInterval "1.5 s") .eventuallyInterval (10 * Span.millisecond)
      1500000000 ∧
    Heeds (single .eventuallyInterval "1.5 s") .consistentlyInterval (10 * Span.millisecond)
      (10 * Span.millisecond) ∧
    read .eventuallyTimeout " " = .error (.invalidDuration Field.eventuallyTimeout.setting "") ∧
    ∃ d, read .eventuallyTimeout "1.5 s" = .ok d := by
  have herror : ofLookup (single .eventuallyInterval " soon ") =
      .error (.invalidDuration Field.eventuallyInterval.setting "soon") := by decide +kernel
  have hok : ofLookup (single .eventuallyInterval "1.5 s") =
      .ok (builtIn.set 1500000000 .eventuallyInterval) := by decide +kernel
  obtain ⟨hfails, hreports, -, hrefuses, haccepts⟩ :=
    ofLookup_reads (single .eventuallyInterval " soon ")
  obtain ⟨-, -, hsets, -, -⟩ := ofLookup_reads (single .eventuallyInterval "1.5 s")
  obtain ⟨-, field, -, text, -, -, -, hpresent, hreport⟩ := hreports _ herror
  refine ⟨hfails.1 ⟨_, herror⟩, ⟨field, text, hpresent, hreport⟩,
    hsets _ hok .eventuallyInterval, hsets _ hok .consistentlyInterval, ?_, ?_⟩
  · refine hrefuses .eventuallyTimeout " " fun n unit hwritten => ?_
    -- nothing is left of the text, not even the digits of a number
    exact hwritten.ne_nil (by decide)
  · have hwritten : Span.Written (['1'] ++ '.' :: ['5'] ++ ([' '] ++ "s".toList)) ⟨15, 1⟩
        .seconds :=
      .intro (.pointed (List.forall_mem_singleton.2 rfl) (List.forall_mem_singleton.2 rfl)
        (List.cons_ne_nil _ _)) (List.forall_mem_singleton.2 rfl) (by decide)
    exact haccepts .eventuallyTimeout "1.5 s" ⟨15, 1⟩ .seconds hwritten
      (by norm_num [Numeral.value])

/-! ## Whole numbers of units -/

section Naturals

variable {name : String} {unit : Span.Unit}

/-- Digits and the name of a unit are read with a product in double precision. -/
theorem read_toString (field : Field) (n : ℕ) (hname : (name, unit) ∈ Span.Unit.names) :
    read field (toString n ++ name) =
      match Span.reading? (Span.product n unit) with
      | some d => .ok d
      | none => .error (.invalidDuration field.setting (toString n ++ name)) := by
  have htext : (toString n ++ name).toList = Nat.toDigits 10 n ++ name.toList := by
    rw [String.toList_append, Nat.toString_eq_ofList_toDigits, String.toList_ofList]
  have hread : Span.ofChars? (toString n ++ name).toList =
      Span.reading? (Span.product n unit) := by
    rw [htext, Span.ofChars?_natural n hname, Span.ofParts?_eq]
    simp [Numeral.value]
  have htrim : String.ofList (Text.trim (toString n ++ name).toList) = toString n ++ name := by
    rw [htext, Span.trim_natural n hname, ← htext, String.ofList_toList]
  cases hreading : Span.reading? (Span.product n unit) with
  | none => rw [read_of_none field (hread.trans hreading), htrim]
  | some d => rw [read_of_some field (hread.trans hreading)]

/-- What becomes of a whole number of units. Below the bound the reading is the product in
double precision, at most the greatest reading. It is exact if the exact number of nanoseconds
is a number of double precision, as it is up to `2 ^ 53`, and hardly wrong otherwise. From the
bound on the text is refused unless that product is the bound itself, which it is only just
above the bound. -/
theorem read_natural (field : Field) (n : ℕ) (hname : (name, unit) ∈ Span.Unit.names) :
    (n * unit.nanos < Span.readingBound →
      ∃ d : Span, read field (toString n ++ name) = .ok d ∧
        (d : ℚ) = min (Span.product n unit) (Span.readingBound - 1) ∧
        |(d : ℚ) - (n * unit.nanos : ℕ)| * 2 ^ 51 ≤ (n * unit.nanos : ℕ) ∧
        (Format.double.Holds ((n * unit.nanos : ℕ) : ℚ) → d = n * unit.nanos)) ∧
    (n * unit.nanos ≤ 2 ^ 53 → read field (toString n ++ name) = .ok (n * unit.nanos)) ∧
    (Span.readingBound ≤ n * unit.nanos → Span.product n unit ≠ Span.readingBound →
      read field (toString n ++ name) =
        .error (.invalidDuration field.setting (toString n ++ name))) ∧
    (Span.readingBound + 2 ^ 12 < n * unit.nanos →
      Span.product n unit ≠ Span.readingBound) := by
  rw [read_toString field n hname]
  refine ⟨fun hlt => ?_, fun hsmall => ?_, fun hge hne => ?_, fun hgt => ?_⟩
  · obtain ⟨d, hread, hd⟩ := Span.reading?_product_of_lt hlt
    exact ⟨d, by rw [hread], hd⟩
  · have hlt : n * unit.nanos < Span.readingBound := hsmall.trans_lt (by decide)
    obtain ⟨d, hread, -, -, hexact⟩ := Span.reading?_product_of_lt hlt
    rw [hread, hexact (Format.holds_natCast (by decide) hsmall)]
  · rw [Span.reading?_product_of_ge hge hne]
  · exact (Span.lt_product hgt).ne'

/-- One number for each of the three ranges. -/
theorem read_natural_examples :
    (∃ d : Span, read .eventuallyTimeout (toString 9007199254740993 ++ "ns") = .ok d ∧
      |(d : ℚ) - (9007199254740993 * Span.Unit.nanoseconds.nanos : ℕ)| * 2 ^ 51 ≤
        (9007199254740993 * Span.Unit.nanoseconds.nanos : ℕ)) ∧
    read .eventuallyTimeout (toString 250 ++ "ms") = .ok (250 * Span.Unit.milliseconds.nanos) ∧
    read .eventuallyTimeout (toString 5124096 ++ "h") =
      .error (.invalidDuration Field.eventuallyTimeout.setting (toString 5124096 ++ "h")) := by
  have hns : ("ns", Span.Unit.nanoseconds) ∈ Span.Unit.names := by decide
  have hms : ("ms", Span.Unit.milliseconds) ∈ Span.Unit.names := by decide
  have hh : ("h", Span.Unit.hours) ∈ Span.Unit.names := by decide
  obtain ⟨hread, -⟩ := read_natural .eventuallyTimeout 9007199254740993 hns
  obtain ⟨-, hexact, -⟩ := read_natural .eventuallyTimeout 250 hms
  obtain ⟨-, -, hrefuses, hbeyond⟩ := read_natural .eventuallyTimeout 5124096 hh
  obtain ⟨d, hd, -, herror, -⟩ := hread (by decide)
  exact ⟨⟨d, hd, herror⟩, hexact (by decide), hrefuses (by decide) (hbeyond (by decide))⟩

/-- Beyond `2 ^ 53` nanoseconds a reading need not be exact. -/
theorem not_read_exactly :
    ¬ ∀ (field : Field) (n : ℕ) (name : String) (unit : Span.Unit),
      (name, unit) ∈ Span.Unit.names → n * unit.nanos < Span.readingBound →
        read field (toString n ++ name) = .ok (n * unit.nanos) := by
  intro h
  have hread : read .eventuallyInterval (toString 9007199254740993 ++ "ns") =
      .ok 9007199254740992 := by decide +kernel
  have hclaim := h .eventuallyInterval 9007199254740993 "ns" .nanoseconds (by decide) (by decide)
  cases hclaim.symm.trans hread

end Naturals

end PollingAssertions.Defaults
