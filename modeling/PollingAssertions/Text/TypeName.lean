import PollingAssertions.Text.Classes
import PollingAssertions.Text.Template

/-!
# Short type names

A type is named in full by its path, `alloc::vec::Vec<core::time::Duration>`;
messages show each path by its last component only, `Vec<Duration>`. A path
is a maximal run of letters, digits, underscores and colons, and its last
component is what follows its last double colon. All other characters stay
as they are.

`TypeExpr` is the grammar of such names. Its words are names by their type,
so that every expression can be written. One printer serves for full and
for short names: it is told how to write a path.

## Main definitions

* `shorten` — a full name with every path reduced to its last component.
* `Name`, `Verbatim` — the words of a path, and texts without a path.
* `TypeExpr.full`, `TypeExpr.short` — the two names of a type expression.
-/

namespace PollingAssertions

namespace TypeName

/-- Whether a character can be part of a name. -/
def inName (c : Char) : Bool := Text.isAlphanumeric c || c == '_'

/-- Whether a character can be part of a path. -/
def inPath (c : Char) : Bool := inName c || c == ':'

/-- What follows the last double colon, if there is one. -/
def afterDouble? : List Char → Option (List Char)
  | [] => none
  | c :: cs =>
      match afterDouble? cs with
      | some later => some later
      | none => if c = ':' ∧ cs.head? = some ':' then some cs.tail else none

/-- The last component of a path. -/
def unqualified (path : List Char) : List Char := (afterDouble? path).getD path

/-- Shortens a name of which `path`, in reverse, has been read but not yet
written. -/
def shortenFrom (path : List Char) : List Char → List Char
  | [] => unqualified path.reverse
  | c :: cs =>
      if inPath c then shortenFrom (c :: path) cs
      else unqualified path.reverse ++ c :: shortenFrom [] cs

/-- A full name with every path reduced to its last component. -/
def shorten (full : String) : String := String.ofList (shortenFrom [] full.toList)

/-- A word of letters, digits and underscores. -/
structure Name where
  text : String
  spelled : text.toList.all inName = true

/-- A text without a path: no two colons stand next to each other. -/
structure Verbatim where
  text : String
  unscoped : afterDouble? text.toList = none

end TypeName

open PollingAssertions.TypeName (Name Verbatim)

/-- Type expressions as they occur in full type names. -/
inductive TypeExpr where
  /-- A path of scopes, the name at its end and the arguments of that name. -/
  | named (scopes : List Name) (name : Name) (arguments : List TypeExpr)
  /-- A path whose arguments are parameters, as of a trait of functions. -/
  | applied (scopes : List Name) (name : Name) (parameters : List TypeExpr)
  /-- An argument that is given by its name. -/
  | binding (name : Name) (value : TypeExpr)
  /-- An argument that is no type. -/
  | constant (text : Verbatim)
  | lifetime (name : Name)
  | reference (lifetime : Option Name) (mutable : Bool) (target : TypeExpr)
  | pointer (mutable : Bool) (target : TypeExpr)
  | tuple (members : List TypeExpr)
  | slice (member : TypeExpr)
  | array (member : TypeExpr) (length : Nat)
  | procedure (parameters : List TypeExpr)
  /-- Something with parameters, and what it results in. -/
  | returning (callable result : TypeExpr)
  /-- A type with words in front of it, such as a calling convention. -/
  | qualified (words : Verbatim) (target : TypeExpr)
  | dynamic (bounds : List TypeExpr)

namespace TypeExpr

open Text (joined)

/-- A tick and the name of a lifetime. -/
def lifetimeText (name : Name) : String := "'" ++ name.text

mutual

/-- Writes a type expression, leaving the writing of paths to `path`. -/
def print (path : List Name → Name → String) : TypeExpr → String
  | named scopes name arguments =>
      path scopes name ++
        (if arguments.isEmpty then "" else "<" ++ joined ", " (printAll path arguments) ++ ">")
  | applied scopes name parameters =>
      path scopes name ++ "(" ++ joined ", " (printAll path parameters) ++ ")"
  | binding name value => name.text ++ " = " ++ print path value
  | constant verbatim => verbatim.text
  | lifetime name => lifetimeText name
  | reference life mutable target =>
      "&" ++ (life.elim "" fun name => lifetimeText name ++ " ") ++
        (if mutable then "mut " else "") ++ print path target
  | pointer mutable target => (if mutable then "*mut " else "*const ") ++ print path target
  | tuple members =>
      "(" ++ joined ", " (printAll path members) ++ (if members.length = 1 then ",)" else ")")
  | slice member => "[" ++ print path member ++ "]"
  | array member length => "[" ++ print path member ++ "; " ++ toString length ++ "]"
  | procedure parameters => "fn(" ++ joined ", " (printAll path parameters) ++ ")"
  | returning callable result => print path callable ++ " -> " ++ print path result
  | qualified words target => words.text ++ " " ++ print path target
  | dynamic bounds => "dyn " ++ joined " + " (printAll path bounds)

/-- Writes several type expressions. -/
def printAll (path : List Name → Name → String) : List TypeExpr → List String
  | [] => []
  | t :: ts => print path t :: printAll path ts

end

/-- A path with all its scopes. -/
def fullPath (scopes : List Name) (name : Name) : String :=
  joined "::" ((scopes ++ [name]).map (·.text))

/-- The full name: every path with all its scopes. -/
def full : TypeExpr → String := print fullPath

/-- The short name: every path by its last component. -/
def short : TypeExpr → String := print fun _ name => name.text

end TypeExpr

end PollingAssertions
