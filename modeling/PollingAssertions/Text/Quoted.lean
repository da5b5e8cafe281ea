import PollingAssertions.Text.Classes

/-!
# Quoted text

Text and characters inside messages are quoted. The quote itself, the
backslash, tab, line feed, carriage return and the null character get a
backslash; a character that extends the one before it or is not printed is
written by its code point in hexadecimal, and every other character stands
for itself.

Text is quoted by `"` and a character by `'`, and each of the two quotes
is escaped only where it closes.

## Main definitions

* `escape` — how one character is written between the given quotes.
* `quote`, `quoteChar` — text and a character with their quotes.
-/

namespace PollingAssertions.Text

/-- A backslash, `u` and the code point in braces. -/
def codePoint (c : Char) : List Char :=
  '\\' :: 'u' :: '\x7b' :: (Nat.toDigits 16 c.toNat ++ ['\x7d'])

/-- How a character is written between two quotes. -/
def escape (mark c : Char) : List Char :=
  if c = '\x00' then ['\\', '0']
  else if c = '\t' then ['\\', 't']
  else if c = '\r' then ['\\', 'r']
  else if c = '\n' then ['\\', 'n']
  else if c = '\\' ∨ c = mark then ['\\', c]
  else if ' ' ≤ c ∧ c ≤ '~' then [c]
  else if isExtending c ∨ isUnprintable c then codePoint c
  else [c]

/-- Text between double quotes. -/
def quote (text : String) : String :=
  String.ofList ('"' :: (text.toList.flatMap (escape '"') ++ ['"']))

/-- A character between single quotes. -/
def quoteChar (c : Char) : String :=
  String.ofList ('\'' :: (escape '\'' c ++ ['\'']))

end PollingAssertions.Text
