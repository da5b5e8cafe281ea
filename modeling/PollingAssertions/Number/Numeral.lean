import PollingAssertions.Number.Binary

/-!
# Reading numbers from text

A *numeral* is a run of decimal digits with at most one point among, before
or behind them; at least one digit is required and neither a sign nor an
exponent belongs to it. Its value is the exact quotient
`digits / 10 ^ places`, and rounding that quotient once gives the nearest
floating-point number.

A *literal* is a numeral with an optional sign in front and an optional
decimal exponent behind, or one of the words for infinity and for `nan`.

## Main definitions

* `Numeral.ofChars?` — the numeral a list of characters spells.
* `Binary.ofLiteral?` — the number a literal stands for.
-/

namespace PollingAssertions

/-- The exact decimal number `digits / 10 ^ places`. -/
structure Numeral where
  digits : Nat
  places : Nat
deriving DecidableEq, Repr

namespace Numeral

/-- The value of one decimal digit. -/
def digitValue (c : Char) : Nat := c.toNat - '0'.toNat

/-- The number a run of decimal digits spells. -/
def ofDigits (cs : List Char) : Nat := cs.foldl (fun n c => 10 * n + digitValue c) 0

/-- Reads a numeral: digits, then perhaps a point and more digits, with a
digit on at least one side of the point. -/
def ofChars? (cs : List Char) : Option Numeral :=
  let whole := cs.takeWhile Char.isDigit
  match cs.dropWhile Char.isDigit with
  | [] => if whole.isEmpty then none else some ⟨ofDigits whole, 0⟩
  | c :: fraction =>
      if c = '.' ∧ fraction.all Char.isDigit ∧ ¬(whole.isEmpty ∧ fraction.isEmpty) then
        some ⟨ofDigits (whole ++ fraction), fraction.length⟩
      else none

/-- The number nearest to a numeral. -/
def toBinary (form : Format) (negative : Bool) (n : Numeral) : Binary :=
  form.round negative n.digits (Nat.pow 10 n.places)

end Numeral

namespace Binary

/-- Beyond this decimal exponent a literal is surely infinite, and below
its opposite surely zero, in every format used here. -/
def exponentLimit : Nat := 5000

/-- The number nearest to `n · 10 ^ shift`. Literals far outside the range
of the format are settled without writing out the power of ten. -/
def ofScaled (form : Format) (negative : Bool) (n : Numeral) (shift : Int) : Binary :=
  let scale := shift - (n.places : Int)
  if n.digits = 0 then form.zero negative
  else if (exponentLimit : Int) < scale then .infinite negative
  else if scale < -((exponentLimit + n.digits.log2 : Nat) : Int) then form.zero negative
  else form.round negative (n.digits * Nat.pow 10 scale.toNat) (Nat.pow 10 (-scale).toNat)

/-- Reads the exponent of a literal: an optional sign and digits. -/
def exponent? (cs : List Char) : Option Int :=
  let read (digits : List Char) : Option Nat :=
    if digits.isEmpty || !digits.all Char.isDigit then none
    else some (Numeral.ofDigits digits)
  match cs with
  | '-' :: digits => (read digits).map fun n => -(n : Int)
  | '+' :: digits => (read digits).map fun n => (n : Int)
  | digits => (read digits).map fun n => (n : Int)

/-- Reads a literal without its sign. -/
def ofUnsigned? (form : Format) (negative : Bool) (cs : List Char) : Option Binary :=
  let word := String.ofList (cs.map Char.toLower)
  if word = "inf" ∨ word = "infinity" then some (.infinite negative)
  else if word = "nan" then some .nan
  else
    let isMark (c : Char) : Bool := c == 'e' || c == 'E'
    let mantissa := cs.takeWhile (!isMark ·)
    match cs.dropWhile (!isMark ·) with
    | [] => (Numeral.ofChars? mantissa).map (ofScaled form negative · 0)
    | _ :: power => do
        let n ← Numeral.ofChars? mantissa
        let shift ← exponent? power
        some (ofScaled form negative n shift)

/-- The number of the format a literal stands for, if the text is one. -/
def ofLiteral? (form : Format) (text : String) : Option Binary :=
  match text.toList with
  | '-' :: cs => ofUnsigned? form true cs
  | '+' :: cs => ofUnsigned? form false cs
  | cs => ofUnsigned? form false cs

end Binary

end PollingAssertions
