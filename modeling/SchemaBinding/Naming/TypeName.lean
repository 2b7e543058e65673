import SchemaBinding.Text.Transliteration
import SchemaBinding.Text.Capitalized

/-! Type names: the identifier of a declaration, in words that begin with a capital. -/
namespace SchemaBinding
namespace Naming

open Text

inductive NameError
  /-- Nothing of the declared name is left after cleaning. -/
  | empty (raw : String)
  deriving DecidableEq

def NameError.message : NameError → String
  | .empty raw => String.join ["declaration name '", raw, "' produces an empty identifier"]

def isSeparator (c : Char) : Bool := c == '-' || c == '_' || c == '.' || c == ' '

/-- A name that shows its words by capitals alone, such as `XMLHttpRequest`. -/
def isMixedCase (cs : List Char) : Bool :=
  !cs.any isSeparator && cs.any Char.isUpper && cs.any Char.isLower

def capitalizeFirst : List Char → List Char
  | [] => []
  | c :: cs => c.toUpper :: cs

/-- The letters and digits of the name in ASCII text. A name in mixed case keeps its capitals;
any other is capitalised word by word. -/
def typeWords (cs : List Char) : List Char :=
  if isMixedCase cs then capitalizeFirst (cs.filter Char.isAlphanum)
  else (capitalizeWords cs).filter Char.isAlphanum

/-- The type name of a declared name. An identifier begins with no digit, so such a name gets
a `T` in front. -/
def typeName [Transliteration] (raw : String) : Except NameError String :=
  match typeWords (transliterate raw.toList) with
  | [] => .error (.empty raw)
  | c :: cs => .ok (String.ofList (if c.isDigit then 'T' :: c :: cs else c :: cs))

end Naming
end SchemaBinding
