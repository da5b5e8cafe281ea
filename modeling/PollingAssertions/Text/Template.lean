/-!
# Putting texts together

Texts in a row are joined by a separator, and texts for given places fill
the holes of a template.

In a template a doubled brace stands for the brace itself and an empty
pair of braces is a hole. Holes take the arguments in order, each inserted
as it is; a hole without an argument is written as an empty pair again,
and arguments without a hole are ignored. A brace that is neither doubled
nor part of a hole stands for itself.

`Template.write` goes the other way: it writes the template for a sequence
of literal texts with holes between them.

## Main definitions

* `Text.joined` — texts with a separator between any two neighbours.
* `Template.fill` — a template with its holes filled.
* `Template.holes` — how many holes a template has.
* `Template.write` — the template of literals with holes between them.
* `Template.interleave` — what filling it has to give.
-/

namespace PollingAssertions

/-- Texts with a separator between any two neighbours. -/
def Text.joined (separator : String) : List String → String
  | [] => ""
  | [text] => text
  | text :: others => text ++ separator ++ joined separator others

namespace Template

/-- The brace that opens a hole and the one that closes it. -/
def opening : Char := '\x7b'
@[inherit_doc opening] def closing : Char := '\x7d'

/-- An empty pair of braces. -/
def hole : List Char := [opening, closing]

/-- Fills the holes of a template with texts. -/
def fill : List Char → List (List Char) → List Char
  | [], _ => []
  | [c], _ => [c]
  | c :: next :: rest, arguments =>
      if c = opening ∧ next = opening ∨ c = closing ∧ next = closing then
        c :: fill rest arguments
      else if c = opening ∧ next = closing then
        match arguments with
        | text :: others => text ++ fill rest others
        | [] => hole ++ fill rest []
      else c :: fill (next :: rest) arguments

/-- How many holes a template has. -/
def holes : List Char → Nat
  | [] => 0
  | [_] => 0
  | c :: next :: rest =>
      if c = opening ∧ next = opening ∨ c = closing ∧ next = closing then holes rest
      else if c = opening ∧ next = closing then holes rest + 1
      else holes (next :: rest)

/-- A literal text as a template: its braces are doubled. -/
def escape (literal : List Char) : List Char :=
  literal.flatMap fun c => if c = opening ∨ c = closing then [c, c] else [c]

/-- The template of a literal, then a hole and a literal for each further
literal. -/
def write (first : List Char) : List (List Char) → List Char
  | [] => escape first
  | next :: others => escape first ++ hole ++ write next others

/-- Literals with one argument, or an empty pair of braces, between any two
neighbours. -/
def interleave (first : List Char) : List (List Char) → List (List Char) → List Char
  | [], _ => first
  | next :: others, text :: arguments => first ++ text ++ interleave next others arguments
  | next :: others, [] => first ++ hole ++ interleave next others []

end Template

end PollingAssertions
