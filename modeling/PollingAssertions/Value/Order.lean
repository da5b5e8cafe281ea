import PollingAssertions.Value.Basic

/-!
# Comparing values

Values of one type are compared member by member: the first members that
differ decide, and a shorter collection comes before its extensions.
Nothing comes before something, a success before an error, false before
true, and texts and characters follow the code points. Numbers that do not
compare leave everything that contains them incomparable, so the order is
partial; equality is being comparable and equal.

## Main definitions

* `Value.compare?` — the partial order.
* `Value.equal` — equality.
-/

namespace PollingAssertions.Value

/-- The verdict of the first of two comparisons unless it is a draw. -/
def first (a : Option Ordering) (b : Unit → Option Ordering) : Option Ordering :=
  match a with
  | some .eq => b ()
  | verdict => verdict

/-- Equality as a comparison that knows no less and greater. -/
def sameOnly (same : Bool) : Option Ordering := if same then some .eq else none

mutual

/-- The partial order of the values of one type. -/
def compare? : Value → Value → Option Ordering
  | integer m, integer n => some (compare m n)
  | float _ x, float _ y => x.compare? y
  | boolean a, boolean b => some (compare a b)
  | character c, character d => some (compare c d)
  | unit, unit => some .eq
  | text s, text t => some (compare s t)
  | span d, span e => some (compare (d : Nat) e)
  | absent, absent => some .eq
  | absent, present _ => some .lt
  | present _, absent => some .gt
  | present v, present w => v.compare? w
  | ok v, ok w => v.compare? w
  | ok _, error _ => some .lt
  | error _, ok _ => some .gt
  | error v, error w => v.compare? w
  | sequence vs, sequence ws => compareAll? vs ws
  | set vs, set ws => compareAll? vs ws
  | map vs, map ws => compareEntries? vs ws
  | tuple vs, tuple ws => compareAll? vs ws
  | labelled _ vs, labelled _ ws => compareAll? vs ws
  | record _ vs, record _ ws => compareFields? vs ws
  | outcome o, outcome p => sameOnly (o == p)
  | _, _ => none

/-- The order of two collections. -/
def compareAll? : List Value → List Value → Option Ordering
  | [], [] => some .eq
  | [], _ :: _ => some .lt
  | _ :: _, [] => some .gt
  | v :: vs, w :: ws => first (v.compare? w) fun _ => compareAll? vs ws

/-- The order of two maps, by keys and then by values. -/
def compareEntries? : List (Value × Value) → List (Value × Value) → Option Ordering
  | [], [] => some .eq
  | [], _ :: _ => some .lt
  | _ :: _, [] => some .gt
  | (k, v) :: vs, (l, w) :: ws =>
      first (k.compare? l) fun _ => first (v.compare? w) fun _ => compareEntries? vs ws

/-- The order of two records, part by part. -/
def compareFields? : List (String × Value) → List (String × Value) → Option Ordering
  | [], [] => some .eq
  | [], _ :: _ => some .lt
  | _ :: _, [] => some .gt
  | (_, v) :: vs, (_, w) :: ws => first (v.compare? w) fun _ => compareFields? vs ws

end

/-- Equality of values. -/
def equal (v w : Value) : Bool := v.compare? w == some .eq

end PollingAssertions.Value
