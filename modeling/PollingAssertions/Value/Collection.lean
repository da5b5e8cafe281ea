import PollingAssertions.Value.Order

/-!
# Sorted collections

A sorted set or map is made of values in any order. It holds them in
ascending order and each only once; a key that occurs again keeps its place
and takes the later value.

## Main definitions

* `Value.sortedSet`, `Value.sortedMap` — the two collections.
-/

namespace PollingAssertions.Value

/-- Puts a value in its place unless it is there. -/
def insertMember (v : Value) : List Value → List Value
  | [] => [v]
  | w :: ws =>
      match v.compare? w with
      | some .lt => v :: w :: ws
      | some .eq => w :: ws
      | _ => w :: insertMember v ws

/-- Puts an entry in its place, or replaces the value of its key. -/
def insertEntry (k v : Value) : List (Value × Value) → List (Value × Value)
  | [] => [(k, v)]
  | (l, w) :: entries =>
      match k.compare? l with
      | some .lt => (k, v) :: (l, w) :: entries
      | some .eq => (l, v) :: entries
      | _ => (l, w) :: insertEntry k v entries

/-- The sorted set of some values. -/
def sortedSet (members : List Value) : Value :=
  set (members.foldl (fun sorted v => insertMember v sorted) [])

/-- The sorted map of some entries. -/
def sortedMap (entries : List (Value × Value)) : Value :=
  map (entries.foldl (fun sorted entry => insertEntry entry.1 entry.2 sorted) [])

end PollingAssertions.Value
