import PollingAssertions.Checker.Failure
import PollingAssertions.Number.Binary
import PollingAssertions.StopSignal
import PollingAssertions.Text.Template
import PollingAssertions.Time.Span

/-!
# Typed values

Probes return values of many types, and matchers, arguments and messages
treat them alike. A value carries the structure that messages show; its
type is a separate `Ty`, which only gives the name and decides what an
argument may be forwarded to. Pointers belong to the type alone: a value
behind a pointer is the value itself.

## Main definitions

* `Ty`, `Ty.name` — types and how messages name them.
* `Ty.same` — whether two types are the same.
* `Value` — values.
* `Datum` — a value with its type.

## Main results

* `Ty.same_self`, `Ty.eq_of_same` — this is equality.
-/

namespace PollingAssertions

/-- The integer types. -/
inductive IntType where
  | i8 | i16 | i32 | i64 | i128 | isize
  | u8 | u16 | u32 | u64 | u128 | usize
deriving DecidableEq, Repr

namespace IntType

/-- The name of an integer type. -/
def name : IntType → String
  | i8 => "i8"
  | i16 => "i16"
  | i32 => "i32"
  | i64 => "i64"
  | i128 => "i128"
  | isize => "isize"
  | u8 => "u8"
  | u16 => "u16"
  | u32 => "u32"
  | u64 => "u64"
  | u128 => "u128"
  | usize => "usize"

/-- Whether the type has negative numbers. -/
def signed : IntType → Bool
  | i8 | i16 | i32 | i64 | i128 | isize => true
  | _ => false

/-- How many bits a number of the type has. -/
def bits : IntType → Nat
  | i8 | u8 => 8
  | i16 | u16 => 16
  | i32 | u32 => 32
  | i64 | u64 | isize | usize => 64
  | i128 | u128 => 128

/-- Whether a number belongs to the type. -/
def admits (t : IntType) (n : Int) : Bool :=
  if t.signed then
    decide (-(Nat.pow 2 (t.bits - 1) : Nat) ≤ n ∧ n < (Nat.pow 2 (t.bits - 1) : Nat))
  else decide (0 ≤ n ∧ n < (Nat.pow 2 t.bits : Nat))

end IntType

/-- The types of values. -/
inductive Ty where
  | integer (type : IntType)
  | single
  | double
  | boolean
  | character
  | unit
  /-- Text of unknown size, which occurs behind a pointer. -/
  | text
  | string
  | borrowedText
  | span
  | stopSignal
  | outcome
  | context
  /-- A type that the user of the library defines. -/
  | user (name : String)
  | option (member : Ty)
  | result (value error : Ty)
  | vector (member : Ty)
  | queue (member : Ty)
  | hashSet (member : Ty)
  | treeSet (member : Ty)
  | hashMap (key value : Ty)
  | treeMap (key value : Ty)
  | slice (member : Ty)
  | reference (target : Ty)
  | box (target : Ty)
  | counted (target : Ty)
  | shared (target : Ty)
  | receiver (message : Ty)
  /-- A primary value together with extra values. -/
  | returns (primary : Ty)
  | tuple (members : List Ty)
deriving Repr, Inhabited

namespace Ty

mutual

/-- How messages name a type. -/
def name : Ty → String
  | integer type => type.name
  | single => "f32"
  | double => "f64"
  | boolean => "bool"
  | character => "char"
  | unit => "()"
  | text => "str"
  | string => "String"
  | borrowedText => "Cow<'_, str>"
  | span => "Duration"
  | stopSignal => "StopTrying"
  | outcome => "CallbackOutcome"
  | context => "Context"
  | user name => name
  | option member => "Option<" ++ member.name ++ ">"
  | result value error => "Result<" ++ value.name ++ ", " ++ error.name ++ ">"
  | vector member => "Vec<" ++ member.name ++ ">"
  | queue member => "VecDeque<" ++ member.name ++ ">"
  | hashSet member => "HashSet<" ++ member.name ++ ">"
  | treeSet member => "BTreeSet<" ++ member.name ++ ">"
  | hashMap key value => "HashMap<" ++ key.name ++ ", " ++ value.name ++ ">"
  | treeMap key value => "BTreeMap<" ++ key.name ++ ", " ++ value.name ++ ">"
  | slice member => "[" ++ member.name ++ "]"
  | reference target => "&" ++ target.name
  | box target => "Box<" ++ target.name ++ ">"
  | counted target => "Rc<" ++ target.name ++ ">"
  | shared target => "Arc<" ++ target.name ++ ">"
  | receiver message => "Receiver<" ++ message.name ++ ">"
  | returns primary => "Returns<" ++ primary.name ++ ">"
  | tuple members =>
      "(" ++ Text.joined ", " (names members) ++ (if members.length = 1 then ",)" else ")")

/-- The names of several types. -/
def names : List Ty → List String
  | [] => []
  | t :: ts => t.name :: names ts

end

mutual

/-- Whether two types are the same. -/
def same : Ty → Ty → Bool
  | integer type, integer type' => type == type'
  | user name, user name' => name == name'
  | option t, option t' | vector t, vector t' | queue t, queue t' | hashSet t, hashSet t'
  | treeSet t, treeSet t' | slice t, slice t' | reference t, reference t' | box t, box t'
  | counted t, counted t' | shared t, shared t' | receiver t, receiver t'
  | returns t, returns t' => same t t'
  | result t u, result t' u' | hashMap t u, hashMap t' u' | treeMap t u, treeMap t' u' =>
      same t t' && same u u'
  | tuple ts, tuple ts' => sames ts ts'
  | single, single | double, double | boolean, boolean | character, character | unit, unit
  | text, text | string, string | borrowedText, borrowedText | span, span
  | stopSignal, stopSignal | outcome, outcome | context, context => true
  | _, _ => false

/-- Whether two lists consist of the same types. -/
def sames : List Ty → List Ty → Bool
  | [], [] => true
  | t :: ts, t' :: ts' => same t t' && sames ts ts'
  | _, _ => false

end

instance : BEq Ty := ⟨same⟩

mutual

/-- Every type is found to be the same as itself. -/
theorem same_self : (t : Ty) → same t t = true
  | integer _ | user _ => by simp [same]
  | option t | vector t | queue t | hashSet t | treeSet t | slice t | reference t | box t
  | counted t | shared t | receiver t | returns t => by simp [same, same_self t]
  | result t u | hashMap t u | treeMap t u => by simp [same, same_self t, same_self u]
  | tuple ts => by simp [same, sames_self ts]
  | single | double | boolean | character | unit | text | string | borrowedText | span
  | stopSignal | outcome | context => by simp [same]

theorem sames_self : (ts : List Ty) → sames ts ts = true
  | [] => by simp [sames]
  | t :: ts => by simp [sames, same_self t, sames_self ts]

end
mutual

/-- Types that are found to be the same are equal. -/
theorem eq_of_same : (t t' : Ty) → same t t' = true → t = t'
  | integer type, t', h | user name, t', h => by
      cases t' <;> simp only [same, Bool.false_eq_true, beq_iff_eq] at h
      rw [h]
  | option t, t', h | vector t, t', h | queue t, t', h | hashSet t, t', h | treeSet t, t', h
  | slice t, t', h | reference t, t', h | box t, t', h | counted t, t', h | shared t, t', h
  | receiver t, t', h | returns t, t', h => by
      cases t' <;> simp only [same, Bool.false_eq_true] at h
      rw [eq_of_same _ _ h]
  | result t u, t', h | hashMap t u, t', h | treeMap t u, t', h => by
      cases t' <;> simp only [same, Bool.false_eq_true, Bool.and_eq_true] at h
      rw [eq_of_same _ _ h.1, eq_of_same _ _ h.2]
  | tuple ts, t', h => by
      cases t' <;> simp only [same, Bool.false_eq_true] at h
      rw [eq_of_sames _ _ h]
  | single, t', h | double, t', h | boolean, t', h | character, t', h | unit, t', h | text, t', h
  | string, t', h | borrowedText, t', h | span, t', h | stopSignal, t', h | outcome, t', h
  | context, t', h => by
      cases t' <;> first | rfl | simp only [same, Bool.false_eq_true] at h

theorem eq_of_sames : (ts ts' : List Ty) → sames ts ts' = true → ts = ts'
  | [], [], _ => rfl
  | [], _ :: _, h => by simp only [sames, Bool.false_eq_true] at h
  | t :: ts, [], h => by simp only [sames, Bool.false_eq_true] at h
  | t :: ts, t' :: ts', h => by
      rw [sames, Bool.and_eq_true] at h
      rw [eq_of_same t t' h.1, eq_of_sames ts ts' h.2]

end

instance : LawfulBEq Ty where
  rfl := same_self _
  eq_of_beq := eq_of_same _ _

/-- The type of numbers most probes count with. -/
def i32 : Ty := integer .i32

/-- Text with a fixed home, which arguments borrow. -/
def staticText : Ty := reference text

end Ty

/-- Values of all types. -/
inductive Value where
  | integer (n : Int)
  | float (form : Format) (x : Binary)
  | boolean (b : Bool)
  | character (c : Char)
  | unit
  | text (s : String)
  | span (d : Span)
  | absent
  | present (v : Value)
  | ok (v : Value)
  | error (v : Value)
  | sequence (members : List Value)
  | set (members : List Value)
  | map (entries : List (Value × Value))
  | tuple (members : List Value)
  /-- A named value with unnamed parts, `Point(3, 4)`. -/
  | labelled (name : String) (parts : List Value)
  /-- A named value with named parts. -/
  | record (name : String) (fields : List (String × Value))
  | stop (signal : StopSignal)
  | outcome (o : CallbackOutcome)
  /-- The receiving end of the channel of this number. -/
  | receiver (channel : Nat)
deriving Repr, Inhabited

/-- A value with its type. -/
structure Datum where
  type : Ty
  value : Value
deriving Repr, Inhabited

namespace Datum

/-- A text with its type. -/
def ofString (s : String) : Datum := ⟨.string, .text s⟩

/-- The outcome of a probe with its type. -/
def ofOutcome (o : CallbackOutcome) : Datum := ⟨.outcome, .outcome o⟩

/-- The stop signal a returned value amounts to: a signal, a present signal
or the error of a result that has no other value. -/
def signal? (d : Datum) : Option StopSignal :=
  match d.type, d.value with
  | .stopSignal, .stop s => some s
  | .option .stopSignal, .present (.stop s) => some s
  | .result .unit .stopSignal, .error (.stop s) => some s
  | _, _ => none

end Datum

end PollingAssertions
