import SchemaBinding.Text.Sanitized
import SchemaBinding.Text.SnakeCase
import SchemaBinding.Naming.Keyword

/-! Field names: the identifier of a property, in snake case. -/
namespace SchemaBinding
namespace Naming

open Text

/-- A hyphen in front of a property name is a sign; the rest is the name. -/
def splitSign : List Char → Bool × List Char
  | '-' :: cs => (true, cs)
  | cs => (false, cs)

/-- Makes an identifier of a name in snake case. `self` gets an underscore behind, another keyword
becomes a raw identifier, and a digit in front gets an underscore before it. -/
def escapeField (ident : List Char) : String :=
  let s := String.ofList ident
  if s == "self" then "self_"
  else if isKeyword s then "r#" ++ s
  else if ident.head?.any Char.isDigit then "_" ++ s
  else s

/-- The field name of a property; one without letters and digits is called `_`. -/
def fieldName [Transliteration] [SnakeCasing] (name : String) : String :=
  let (negative, body) := splitSign name.toList
  match snakeCase (sanitize body) with
  | [] => "_"
  | ident => escapeField (if negative then "negative_".toList ++ ident else ident)

end Naming
end SchemaBinding
