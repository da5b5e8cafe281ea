import PollingAssertions.Value.Basic

/-!
# Reading the names of types

A type is written as messages name it: a word, a word with arguments in
angle brackets, members in parentheses, a slice in square brackets, or `&`
before any of these. A word that stands for no other type names a type of
the user.

Reading goes from left to right and never back; each step takes at least
one character, so the number of characters bounds the depth.

## Main definitions

* `Ty.ofChars?`, `Ty.ofName?` — the type that a name stands for.
-/

namespace PollingAssertions

namespace IntType

/-- All integer types. -/
def all : List IntType := [i8, i16, i32, i64, i128, isize, u8, u16, u32, u64, u128, usize]

/-- The integer type of a name. -/
def ofName? (name : String) : Option IntType := all.find? fun type => type.name == name

end IntType

namespace Ty

/-- Whether a character can be part of a word. -/
def inWord (c : Char) : Bool := c.isAlphanum || c == '_'

/-- The type that a single word names. -/
def ofWord (word : String) : Ty :=
  match IntType.ofName? word with
  | some type => integer type
  | none =>
      match word with
      | "f32" => single
      | "f64" => double
      | "bool" => boolean
      | "char" => character
      | "str" => text
      | "String" => string
      | "Duration" => span
      | "StopTrying" => stopSignal
      | "CallbackOutcome" => outcome
      | "Context" => context
      | _ => user word

/-- The type that a word with arguments names. -/
def ofApplied? : String → List Ty → Option Ty
  | "Cow", [text] => some borrowedText
  | "Option", [member] => some (option member)
  | "Result", [value, error] => some (result value error)
  | "Vec", [member] => some (vector member)
  | "VecDeque", [member] => some (queue member)
  | "HashSet", [member] => some (hashSet member)
  | "BTreeSet", [member] => some (treeSet member)
  | "HashMap", [key, value] => some (hashMap key value)
  | "BTreeMap", [key, value] => some (treeMap key value)
  | "Box", [target] => some (box target)
  | "Rc", [target] => some (counted target)
  | "Arc", [target] => some (shared target)
  | "Receiver", [message] => some (receiver message)
  | "Returns", [primary] => some (returns primary)
  | _, _ => none

/-- What follows the spaces at the front. -/
def skipSpaces (cs : List Char) : List Char := cs.dropWhile (· == ' ')

mutual

/-- Reads a type from the front; gives what is left as well. -/
def readFront : Nat → List Char → Option (Ty × List Char)
  | 0, _ => none
  | fuel + 1, cs =>
      match skipSpaces cs with
      | '&' :: rest => (readFront fuel rest).map fun (target, rest) => (reference target, rest)
      | '[' :: rest =>
          match readFront fuel rest with
          | some (member, ']' :: rest) => some (slice member, rest)
          | _ => none
      | '(' :: rest =>
          match readMembers fuel ')' rest with
          | some ([], rest) => some (unit, rest)
          | some (members, rest) => some (tuple members, rest)
          | none => none
      | cs =>
          let word := String.ofList (cs.takeWhile inWord)
          match cs.dropWhile inWord with
          | '<' :: rest =>
              match readMembers fuel '>' rest with
              | some (members, rest) => (ofApplied? word members).map (·, rest)
              | none => none
          | rest => if word.isEmpty then none else some (ofWord word, rest)

/-- Reads types with commas between them up to a closing character. -/
def readMembers : Nat → Char → List Char → Option (List Ty × List Char)
  | 0, _, _ => none
  | fuel + 1, closing, cs =>
      match skipSpaces cs with
      | [] => none
      | c :: rest =>
          if c = closing then some ([], rest)
          else
            match readFront fuel (c :: rest) with
            | none => none
            | some (member, rest) =>
                match skipSpaces rest with
                | ',' :: rest =>
                    (readMembers fuel closing rest).map fun (members, rest) =>
                      (member :: members, rest)
                | c :: rest => if c = closing then some ([member], rest) else none
                | [] => none

end

/-- The type that a whole text names. -/
def ofChars? (cs : List Char) : Option Ty :=
  match readFront (2 * cs.length + 1) cs with
  | some (type, []) => some type
  | _ => none

/-- The type of a name. -/
def ofName? (name : String) : Option Ty := ofChars? name.toList

end Ty

end PollingAssertions
