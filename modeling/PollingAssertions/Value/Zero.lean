import PollingAssertions.Value.Order

/-!
# Zero values

The extra values of a probe have to be zero. A number is zero as 0 of
either sign, a text or a collection when it is empty whatever its members
could be, an option only when it is absent and a result only as the success
of a zero; tuples and named values are zero part by part, and a stop signal
never is.

`Value.isZero` decides this on the value alone. `Ty.zero?` gives the one
zero of a type, against which it is measured, and `Ty.number?` the other
numbers of types that have numbers.

## Main definitions

* `Value.isZero` — whether a value is zero.
* `Ty.zero?` — the zero of a type, if it has one.
* `Ty.number?` — a number as a value of a type.
-/

namespace PollingAssertions

namespace Value

mutual

/-- Whether a value is zero. -/
def isZero : Value → Bool
  | integer n => n == 0
  | float _ x => x.isZero
  | boolean b => !b
  | character c => c == '\x00'
  | unit => true
  | text s => s.isEmpty
  | span d => d == 0
  | absent => true
  | present _ => false
  | ok v => v.isZero
  | error _ => false
  | sequence members => members.isEmpty
  | set members => members.isEmpty
  | map entries => entries.isEmpty
  | tuple members => allZero members
  | labelled _ parts => allZero parts
  | record _ fields => fieldsZero fields
  | stop _ => false
  | outcome _ => false
  | receiver _ => false

/-- Whether all of several values are zero. -/
def allZero : List Value → Bool
  | [] => true
  | v :: vs => v.isZero && allZero vs

/-- Whether all named parts are zero. -/
def fieldsZero : List (String × Value) → Bool
  | [] => true
  | (_, v) :: fields => v.isZero && fieldsZero fields

end

end Value

namespace Ty

mutual

/-- The zero of a type. Signals, outcomes, channels, contexts and types of
the user have none. -/
def zero? : Ty → Option Value
  | integer _ => some (.integer 0)
  | single => some (.float .single (Format.single.zero false))
  | double => some (.float .double (Format.double.zero false))
  | boolean => some (.boolean false)
  | character => some (.character '\x00')
  | unit => some .unit
  | text | string | borrowedText => some (.text "")
  | span => some (.span 0)
  | option _ => some .absent
  | result value _ => value.zero?.map .ok
  | vector _ | queue _ | slice _ => some (.sequence [])
  | hashSet _ | treeSet _ => some (.set [])
  | hashMap _ _ | treeMap _ _ => some (.map [])
  | reference target | box target | counted target | shared target => target.zero?
  | tuple members => (zeros? members).map .tuple
  | stopSignal | outcome | context | user _ | receiver _ | returns _ => none

/-- The zeros of several types. -/
def zeros? : List Ty → Option (List Value)
  | [] => some []
  | t :: ts =>
      match t.zero?, zeros? ts with
      | some v, some vs => some (v :: vs)
      | _, _ => none

end

/-- A number as a value of a type: a whole number, the nearest floating-point
number, or so many nanoseconds. -/
def number? (n : Nat) : Ty → Option Value
  | integer _ => some (.integer n)
  | single => some (.float .single (Format.single.round false n 1))
  | double => some (.float .double (Format.double.round false n 1))
  | span => some (.span n)
  | reference target | box target | counted target | shared target => target.number? n
  | _ => none

end Ty

end PollingAssertions
