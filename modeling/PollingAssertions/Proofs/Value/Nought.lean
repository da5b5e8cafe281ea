import Mathlib.Data.List.Forall2
import PollingAssertions.Probe.Basic

/-!
# The zero of a type

Whether a value is zero is decided by looking at the value alone. Measured against its
type it comes to being equal to the one zero that the type has. For numbers this is 0,
of either sign if there are two, for texts and collections the empty one, whatever the
members could be; an option is zero only if it is absent and a result only as the
success of a zero; a tuple is zero if all its members are, and what is behind a pointer
is not told from the pointer. `Ty.Nought` writes these rules down once more, without
looking at how zeros are found or compared.

A number that is none differs from itself, and a stop signal is equal to nothing. So a
value with one of these in a place that counts is no zero, and a type that has a stop
signal in such a place has no zero at all.

## Main definitions

* `Ty.Has` — the values of a type.
* `Ty.Measured` — the types whose values can be measured against a zero.
* `Ty.Nought` — being zero, by the rules.

## Main results

* `Ty.Measured.isZero_of_nought`, `Ty.Measured.nought_of_isZero` — zeros are found by
  the rules.
* `Ty.Measured.nought_iff_equal` — they are what is equal to the zero of the type.
* `Ty.isZero_iff_equal_zero` — all of it together, for extra values too.
-/

namespace PollingAssertions

namespace Ty

/-- The values of a type. Pointers leave no trace in a value. -/
inductive Has : Ty → Value → Prop
  | integer {type : IntType} {n : Int} : type.admits n = true → Has (.integer type) (.integer n)
  | single (x : Binary) : Has .single (.float .single x)
  | double (x : Binary) : Has .double (.float .double x)
  | boolean (b : Bool) : Has .boolean (.boolean b)
  | character (c : Char) : Has .character (.character c)
  | unit : Has .unit .unit
  | text (s : String) : Has .text (.text s)
  | string (s : String) : Has .string (.text s)
  | borrowedText (s : String) : Has .borrowedText (.text s)
  | span {d : Span} : d ≤ Span.max → Has .span (.span d)
  | stop (signal : StopSignal) : Has .stopSignal (.stop signal)
  | outcome (o : CallbackOutcome) : Has .outcome (.outcome o)
  | labelled (name : String) (parts : List Value) : Has (.user name) (.labelled name parts)
  | record (name : String) (fields : List (String × Value)) : Has (.user name) (.record name fields)
  | absent (member : Ty) : Has (.option member) .absent
  | present {member : Ty} {v : Value} : Has member v → Has (.option member) (.present v)
  | ok {value error : Ty} {v : Value} : Has value v → Has (.result value error) (.ok v)
  | error {value error : Ty} {v : Value} : Has error v → Has (.result value error) (.error v)
  | vector {member : Ty} {vs : List Value} :
      (∀ v ∈ vs, Has member v) → Has (.vector member) (.sequence vs)
  | queue {member : Ty} {vs : List Value} :
      (∀ v ∈ vs, Has member v) → Has (.queue member) (.sequence vs)
  | slice {member : Ty} {vs : List Value} :
      (∀ v ∈ vs, Has member v) → Has (.slice member) (.sequence vs)
  | hashSet {member : Ty} {vs : List Value} :
      (∀ v ∈ vs, Has member v) → Has (.hashSet member) (.set vs)
  | treeSet {member : Ty} {vs : List Value} :
      (∀ v ∈ vs, Has member v) → Has (.treeSet member) (.set vs)
  | hashMap {key value : Ty} {entries : List (Value × Value)} :
      (∀ entry ∈ entries, Has key entry.1) → (∀ entry ∈ entries, Has value entry.2) →
      Has (.hashMap key value) (.map entries)
  | treeMap {key value : Ty} {entries : List (Value × Value)} :
      (∀ entry ∈ entries, Has key entry.1) → (∀ entry ∈ entries, Has value entry.2) →
      Has (.treeMap key value) (.map entries)
  | reference {target : Ty} {v : Value} : Has target v → Has (.reference target) v
  | box {target : Ty} {v : Value} : Has target v → Has (.box target) v
  | counted {target : Ty} {v : Value} : Has target v → Has (.counted target) v
  | shared {target : Ty} {v : Value} : Has target v → Has (.shared target) v
  | receiver (message : Ty) (channel : Nat) : Has (.receiver message) (.receiver channel)
  | tuple {members : List Ty} {vs : List Value} :
      List.Forall₂ Has members vs → Has (.tuple members) (.tuple vs)

/-- The types whose values can be measured against a zero. What an option, a collection or the
error of a result is made of is of no account. -/
inductive Measured : Ty → Prop
  | integer (type : IntType) : Measured (.integer type)
  | single : Measured .single
  | double : Measured .double
  | boolean : Measured .boolean
  | character : Measured .character
  | unit : Measured .unit
  | text : Measured .text
  | string : Measured .string
  | borrowedText : Measured .borrowedText
  | span : Measured .span
  | stopSignal : Measured .stopSignal
  | option (member : Ty) : Measured (.option member)
  | result {value : Ty} (error : Ty) : Measured value → Measured (.result value error)
  | vector (member : Ty) : Measured (.vector member)
  | queue (member : Ty) : Measured (.queue member)
  | slice (member : Ty) : Measured (.slice member)
  | hashSet (member : Ty) : Measured (.hashSet member)
  | treeSet (member : Ty) : Measured (.treeSet member)
  | hashMap (key value : Ty) : Measured (.hashMap key value)
  | treeMap (key value : Ty) : Measured (.treeMap key value)
  | reference {target : Ty} : Measured target → Measured (.reference target)
  | box {target : Ty} : Measured target → Measured (.box target)
  | counted {target : Ty} : Measured target → Measured (.counted target)
  | shared {target : Ty} : Measured target → Measured (.shared target)
  | tuple {members : List Ty} : (∀ t ∈ members, Measured t) → Measured (.tuple members)

/-- Being zero. There is no rule for numbers that are none, for something present, for errors and
for stop signals. -/
inductive Nought : Ty → Value → Prop
  | integer (type : IntType) : Nought (.integer type) (.integer 0)
  | single (negative : Bool) (exponent : Int) :
      Nought .single (.float .single (.finite negative 0 exponent))
  | double (negative : Bool) (exponent : Int) :
      Nought .double (.float .double (.finite negative 0 exponent))
  | boolean : Nought .boolean (.boolean false)
  | character : Nought .character (.character '\x00')
  | unit : Nought .unit .unit
  | text : Nought .text (.text "")
  | string : Nought .string (.text "")
  | borrowedText : Nought .borrowedText (.text "")
  | span : Nought .span (.span 0)
  | option (member : Ty) : Nought (.option member) .absent
  | result {value : Ty} {v : Value} (error : Ty) :
      Nought value v → Nought (.result value error) (.ok v)
  | vector (member : Ty) : Nought (.vector member) (.sequence [])
  | queue (member : Ty) : Nought (.queue member) (.sequence [])
  | slice (member : Ty) : Nought (.slice member) (.sequence [])
  | hashSet (member : Ty) : Nought (.hashSet member) (.set [])
  | treeSet (member : Ty) : Nought (.treeSet member) (.set [])
  | hashMap (key value : Ty) : Nought (.hashMap key value) (.map [])
  | treeMap (key value : Ty) : Nought (.treeMap key value) (.map [])
  | reference {target : Ty} {v : Value} : Nought target v → Nought (.reference target) v
  | box {target : Ty} {v : Value} : Nought target v → Nought (.box target) v
  | counted {target : Ty} {v : Value} : Nought target v → Nought (.counted target) v
  | shared {target : Ty} {v : Value} : Nought target v → Nought (.shared target) v
  | tuple {members : List Ty} {vs : List Value} :
      List.Forall₂ Nought members vs → Nought (.tuple members) (.tuple vs)

end Ty

open Ty (Has Measured Nought zeros?)

variable {type : Ty} {members : List Ty} {v w zero : Value} {vs ws zeros : List Value}

/-! ## Equality, member by member -/

namespace Value

theorem equal_iff : v.equal w = true ↔ v.compare? w = some .eq := beq_iff_eq

/-- A comparison ends in a draw if it does twice. -/
theorem first_eq_draw_iff {a : Option Ordering} {b : Unit → Option Ordering} :
    first a b = some .eq ↔ a = some .eq ∧ b () = some .eq := by
  cases a with
  | none => simp [first]
  | some o => cases o <;> simp [first]

theorem compareAll?_nil_iff : compareAll? vs [] = some .eq ↔ vs = [] := by
  cases vs <;> simp [compareAll?]

theorem compareAll?_cons_iff :
    compareAll? (v :: vs) (w :: ws) = some .eq ↔
      v.compare? w = some .eq ∧ compareAll? vs ws = some .eq := by
  rw [compareAll?, first_eq_draw_iff]

theorem compareEntries?_nil_iff {entries : List (Value × Value)} :
    compareEntries? entries [] = some .eq ↔ entries = [] := by
  cases entries with
  | nil => simp [compareEntries?]
  | cons entry entries =>
      obtain ⟨k, v⟩ := entry
      simp [compareEntries?]

end Value

open Value (compareAll? allZero)

namespace Ty

/-! ## Zeros are found by the rules -/

theorem allZero_of_noughts (h : ∀ t ∈ members, ∀ v, Nought t v → v.isZero = true)
    (hnoughts : List.Forall₂ Nought members vs) : allZero vs = true := by
  induction hnoughts with
  | nil => rfl
  | cons hnought _ ih =>
      rw [allZero, h _ List.mem_cons_self _ hnought,
        ih fun t ht => h t (List.mem_cons_of_mem _ ht)]
      rfl

theorem noughts_of_allZero (h : ∀ t ∈ members, ∀ v, Has t v → v.isZero = true → Nought t v)
    (hall : List.Forall₂ Has members vs) (hzero : allZero vs = true) :
    List.Forall₂ Nought members vs := by
  induction hall with
  | nil => exact .nil
  | cons hhas _ ih =>
      rw [allZero, Bool.and_eq_true] at hzero
      exact .cons (h _ List.mem_cons_self _ hhas hzero.1)
        (ih (fun t ht => h t (List.mem_cons_of_mem _ ht)) hzero.2)

/-- What is zero by the rules is found to be zero. -/
theorem Measured.isZero_of_nought (h : Measured type) (hnought : Nought type v) :
    v.isZero = true := by
  induction h generalizing v with
  | result error _ ih =>
      cases hnought with
      | result _ hvalue =>
          rw [Value.isZero]
          exact ih hvalue
  | reference _ ih =>
      cases hnought with
      | reference htarget => exact ih htarget
  | box _ ih =>
      cases hnought with
      | box htarget => exact ih htarget
  | counted _ ih =>
      cases hnought with
      | counted htarget => exact ih htarget
  | shared _ ih =>
      cases hnought with
      | shared htarget => exact ih htarget
  | tuple _ ih =>
      cases hnought with
      | tuple hnoughts =>
          rw [Value.isZero]
          exact allZero_of_noughts (fun t ht v => ih t ht) hnoughts
  | _ => cases hnought <;> rfl

theorem exists_finite_of_isZero {x : Binary} (h : x.isZero = true) :
    ∃ negative exponent, x = .finite negative 0 exponent := by
  cases x with
  | finite negative m exponent =>
      obtain rfl := eq_of_beq h
      exact ⟨negative, exponent, rfl⟩
  | nan => cases h
  | infinite _ => cases h

/-- What is found to be zero is so by the rules, if it is a value of the type. -/
theorem Measured.nought_of_isZero (h : Measured type) (hhas : Has type v)
    (hzero : v.isZero = true) : Nought type v := by
  induction h generalizing v with
  | integer | character | span =>
      cases hhas
      obtain rfl := eq_of_beq hzero
      constructor
  | single | double =>
      cases hhas
      obtain ⟨negative, exponent, rfl⟩ := exists_finite_of_isZero hzero
      constructor
  | boolean =>
      cases hhas with
      | boolean b =>
          cases b with
          | false => exact .boolean
          | true => cases hzero
  | unit =>
      cases hhas
      exact .unit
  | text | string | borrowedText =>
      cases hhas
      obtain rfl := String.isEmpty_iff.1 hzero
      constructor
  | stopSignal =>
      cases hhas
      cases hzero
  | option member =>
      cases hhas with
      | absent => exact .option member
      | present _ => cases hzero
  | result error _ ih =>
      cases hhas with
      | ok hvalue =>
          rw [Value.isZero] at hzero
          exact .result error (ih hvalue hzero)
      | error _ => cases hzero
  | vector | queue | slice | hashSet | treeSet | hashMap | treeMap =>
      cases hhas
      obtain rfl := List.isEmpty_iff.1 hzero
      constructor
  | reference _ ih | box _ ih | counted _ ih | shared _ ih =>
      cases hhas
      next htarget =>
        constructor
        exact ih htarget hzero
  | tuple _ ih =>
      cases hhas with
      | tuple hall =>
          rw [Value.isZero] at hzero
          exact .tuple (noughts_of_allZero (fun t ht v => ih t ht) hall hzero)

/-! ## Zeros are equal to the zero of the type -/

theorem zeros?_cons {t : Ty} {ts : List Ty} :
    zeros? (t :: ts) = some zeros ↔
      ∃ v vs, t.zero? = some v ∧ zeros? ts = some vs ∧ zeros = v :: vs := by
  rw [zeros?]
  cases t.zero? <;> cases zeros? ts <;> simp [eq_comm]

theorem allZero_iff_equal (h : ∀ t ∈ members, ∀ v, Has t v →
      (v.isZero = true ↔ ∃ zero, t.zero? = some zero ∧ v.compare? zero = some .eq))
    (hall : List.Forall₂ Has members vs) :
    allZero vs = true ↔ ∃ zeros, zeros? members = some zeros ∧ compareAll? vs zeros = some .eq := by
  induction hall with
  | nil => simp [allZero, zeros?, compareAll?]
  | @cons t v members vs hhas _ ih =>
      rw [allZero, Bool.and_eq_true, h t List.mem_cons_self v hhas,
        ih fun t ht => h t (List.mem_cons_of_mem _ ht)]
      constructor
      · rintro ⟨⟨zero, hzero, hequal⟩, zeros, hzeros, hequals⟩
        exact ⟨zero :: zeros, zeros?_cons.2 ⟨zero, zeros, hzero, hzeros, rfl⟩,
          Value.compareAll?_cons_iff.2 ⟨hequal, hequals⟩⟩
      · rintro ⟨all, hall, hequal⟩
        obtain ⟨zero, zeros, hzero, hzeros, rfl⟩ := zeros?_cons.1 hall
        obtain ⟨hhead, htail⟩ := Value.compareAll?_cons_iff.1 hequal
        exact ⟨⟨zero, hzero, hhead⟩, zeros, hzeros, htail⟩

/-- What is found to be zero is what is equal to the zero of the type. -/
theorem Measured.isZero_iff_equal (h : Measured type) (hhas : Has type v) :
    v.isZero = true ↔ ∃ zero, type.zero? = some zero ∧ v.compare? zero = some .eq := by
  induction h generalizing v with
  | integer | boolean | character | unit | text | string | borrowedText | span =>
      cases hhas
      simp [Value.isZero, zero?, Value.compare?]
  | single =>
      cases hhas
      simp [Value.isZero, zero?, Value.compare?, ← Binary.equal_zero_iff .single, Binary.equal]
  | double =>
      cases hhas
      simp [Value.isZero, zero?, Value.compare?, ← Binary.equal_zero_iff .double, Binary.equal]
  | stopSignal =>
      cases hhas
      simp [Value.isZero, zero?]
  | option member =>
      cases hhas <;> simp [Value.isZero, zero?, Value.compare?]
  | result error _ ih =>
      cases hhas with
      | ok hvalue => simp [Value.isZero, zero?, ih hvalue, Value.compare?]
      | error _ => simp [Value.isZero, zero?, Value.compare?]
  | vector | queue | slice | hashSet | treeSet =>
      cases hhas
      simp [Value.isZero, zero?, Value.compare?, Value.compareAll?_nil_iff]
  | hashMap | treeMap =>
      cases hhas
      simp [Value.isZero, zero?, Value.compare?, Value.compareEntries?_nil_iff]
  | reference _ ih | box _ ih | counted _ ih | shared _ ih =>
      cases hhas
      next htarget =>
        rw [zero?]
        exact ih htarget
  | tuple _ ih =>
      cases hhas with
      | tuple hall =>
          rw [Value.isZero, zero?, allZero_iff_equal (fun t ht v => ih t ht) hall]
          simp [Value.compare?]

/-! ## The zero of a type is one -/

theorem admits_zero (t : IntType) : t.admits 0 = true := by
  cases t <;> decide

theorem noughts_of_zeros?
    (h : ∀ t ∈ members, ∀ zero, t.zero? = some zero → Has t zero ∧ Nought t zero)
    (hzeros : zeros? members = some zeros) :
    List.Forall₂ Has members zeros ∧ List.Forall₂ Nought members zeros := by
  induction members generalizing zeros with
  | nil =>
      obtain rfl : [] = zeros := Option.some.inj hzeros
      exact ⟨.nil, .nil⟩
  | cons t ts ih =>
      obtain ⟨zero, zeros, hzero, hothers, rfl⟩ := zeros?_cons.1 hzeros
      obtain ⟨hhas, hnought⟩ := h t List.mem_cons_self zero hzero
      obtain ⟨hall, hnoughts⟩ := ih (fun t ht => h t (List.mem_cons_of_mem _ ht)) hothers
      exact ⟨.cons hhas hall, .cons hnought hnoughts⟩

/-- The zero of a type is a value of it and zero by the rules. -/
theorem Measured.nought_of_zero? (h : Measured type) (hzero : type.zero? = some zero) :
    Has type zero ∧ Nought type zero := by
  induction h generalizing zero with
  | integer type =>
      cases hzero
      exact ⟨.integer (admits_zero type), .integer type⟩
  | single =>
      cases hzero
      exact ⟨.single _, .single false _⟩
  | double =>
      cases hzero
      exact ⟨.double _, .double false _⟩
  | span =>
      cases hzero
      exact ⟨.span (Nat.zero_le _), .span⟩
  | boolean | character | unit | text | string | borrowedText | option =>
      cases hzero
      refine ⟨?_, ?_⟩ <;> constructor
  | vector | queue | slice | hashSet | treeSet | hashMap | treeMap =>
      cases hzero
      refine ⟨?_, ?_⟩ <;> constructor <;> simp
  | stopSignal => cases hzero
  | result error _ ih =>
      obtain ⟨inner, hinner, rfl⟩ := Option.map_eq_some_iff.1 hzero
      obtain ⟨hhas, hnought⟩ := ih hinner
      exact ⟨.ok hhas, .result error hnought⟩
  | reference _ ih | box _ ih | counted _ ih | shared _ ih =>
      rw [zero?] at hzero
      obtain ⟨hhas, hnought⟩ := ih hzero
      refine ⟨?_, ?_⟩ <;> constructor <;> assumption
  | tuple _ ih =>
      rw [zero?] at hzero
      obtain ⟨zeros, hzeros, rfl⟩ := Option.map_eq_some_iff.1 hzero
      obtain ⟨hall, hnoughts⟩ := noughts_of_zeros? (fun t ht zero => ih t ht) hzeros
      exact ⟨.tuple hall, .tuple hnoughts⟩

/-! ## The theorem -/

/-- A value of a type that can be measured is found to be zero, and likewise as an extra value,
exactly if it is equal to the one zero of the type, and that is exactly if it is zero by the rules.
The zero of the type is itself a value of the type and zero by the rules. A number that is none
is no zero of any such type, and no more is a stop signal. -/
theorem isZero_iff_equal_zero (htype : Measured type) (hhas : Has type v) :
    (v.isZero = true ↔ ∃ zero, type.zero? = some zero ∧ v.equal zero = true) ∧
      ((Extra.ofDatum ⟨type, v⟩).isZero = true ↔
        ∃ zero, type.zero? = some zero ∧ v.equal zero = true) ∧
      (v.isZero = true ↔ Nought type v) ∧
      (∀ zero, type.zero? = some zero → Has type zero ∧ Nought type zero) ∧
      ∀ form signal, ¬ Nought type (.float form .nan) ∧ ¬ Nought type (.stop signal) := by
  have hequal : v.isZero = true ↔ ∃ zero, type.zero? = some zero ∧ v.equal zero = true := by
    simp only [Value.equal_iff]
    exact htype.isZero_iff_equal hhas
  refine ⟨hequal, hequal, ⟨htype.nought_of_isZero hhas, htype.isZero_of_nought⟩,
    fun zero => htype.nought_of_zero?, fun form signal => ⟨fun hnan => ?_, fun hstop => ?_⟩⟩
  · cases htype.isZero_of_nought hnan
  · cases htype.isZero_of_nought hstop

/-- A negative zero, the success of an empty text behind a pointer, no signals behind another one,
and something absent are zero together. With a number that is none in the first place they are
not. -/
theorem isZero_iff_equal_zero_nested :
    (Value.tuple [.float .double (Format.double.zero true), .ok (.text ""), .sequence [],
        .absent]).isZero = true ∧
      ¬ (Value.tuple [.float .double .nan, .ok (.text ""), .sequence [], .absent]).isZero = true := by
  have htype : Measured (.tuple [.double, .result (.box .string) .stopSignal,
      .reference (.vector .stopSignal), .option i32]) := by
    refine .tuple fun t ht => ?_
    simp only [List.mem_cons, List.not_mem_nil, or_false] at ht
    rcases ht with rfl | rfl | rfl | rfl
    · exact .double
    · exact .result _ (.box .string)
    · exact .reference (.vector _)
    · exact .option _
  have hhas : ∀ x, Has (.tuple [.double, .result (.box .string) .stopSignal,
      .reference (.vector .stopSignal), .option i32])
      (.tuple [.float .double x, .ok (.text ""), .sequence [], .absent]) := fun x =>
    .tuple (.cons (.double x) (.cons (.ok (.box (.string "")))
      (.cons (.reference (.vector (by simp))) (.cons (.absent _) .nil))))
  constructor
  · refine (isZero_iff_equal_zero htype (hhas _)).2.2.1.2 (.tuple ?_)
    exact .cons (.double true _) (.cons (.result _ (.box .string))
      (.cons (.reference (.vector _)) (.cons (.option _) .nil)))
  · intro hzero
    -- the members are zero one by one, and the first one is not
    cases (isZero_iff_equal_zero htype (hhas _)).2.2.1.1 hzero with
    | tuple hnoughts =>
        cases hnoughts with
        | cons hnan _ => cases hnan

end Ty

end PollingAssertions
