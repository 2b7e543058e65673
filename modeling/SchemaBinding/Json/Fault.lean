import SchemaBinding.Json.Basic
import SchemaBinding.Decimal.Shortest
import SchemaBinding.Text.Quoted

/-! Why a JSON text or value cannot be decoded. -/
namespace SchemaBinding
namespace Json

inductive Found
  | null
  | bool (b : Bool)
  | number (n : Number)
  | string (s : String)
  | sequence
  | map
  | unitVariant
  deriving DecidableEq

inductive Wanted
  | string
  | sequence
  | unit
  /-- A record type. -/
  | record (type : String)
  /-- A union whose values name their variant in a member. -/
  | tagged (type : String)
  | variantName
  /-- The position of one of so many variants. -/
  | variantIndex (count : Nat)
  | stringOrMap
  | oneMember
  | payload
  /-- So many elements for a type. -/
  | elementsOf (type : String) (count : Nat)
  | elements (count : Nat)
  | fewerElements
  deriving DecidableEq

/-- Ways for well-formed JSON to miss the shape that is wanted. -/
inductive Mismatch
  | wrongType (found : Found) (wanted : Wanted)
  | wrongValue (found : Found) (wanted : Wanted)
  | wrongLength (length : Nat) (wanted : Wanted)
  | missingField (name : String)
  | duplicateField (name : String)
  | unknownField (name : String) (known : List String)
  | unknownVariant (name : String) (known : List String)
  deriving DecidableEq

inductive Fault
  /-- The text ends too early. -/
  | truncated
  /-- The text is no JSON. -/
  | malformed
  | mismatch (cause : Mismatch)
  deriving DecidableEq

def found : Json → Found
  | .null => .null
  | .bool b => .bool b
  | .number n => .number n
  | .string s => .string s
  | .array _ => .sequence
  | .object _ => .map

def Found.describe : Found → String
  | .null => "null"
  | .bool b => String.join ["boolean `", if b then "true" else "false", "`"]
  | .number (.integer n) => String.join ["integer `", toString n, "`"]
  | .number (.real x) => String.join ["floating point `", x.text, "`"]
  | .string s => String.join ["string ", Text.quoted s]
  | .sequence => "sequence"
  | .map => "map"
  | .unitVariant => "unit variant"

def countElements (n : Nat) : String :=
  String.join [toString n, if n = 1 then " element" else " elements"]

def Wanted.describe : Wanted → String
  | .string => "a string"
  | .sequence => "a sequence"
  | .unit => "unit"
  | .record type => String.join ["struct ", type]
  | .tagged type => String.join ["internally tagged enum ", type]
  | .variantName => "variant identifier"
  | .variantIndex count => String.join ["variant index 0 <= i < ", toString count]
  | .stringOrMap => "string or map"
  | .oneMember => "map with a single key"
  | .payload => "newtype variant"
  | .elementsOf type count => String.join ["struct ", type, " with ", countElements count]
  | .elements count => String.join [countElements count, " in sequence"]
  | .fewerElements => "fewer elements in array"

def ticked (s : String) : String := String.join ["`", s, "`"]

/-- The names that would have been known. -/
def alternatives : List String → String
  | [a] => ticked a
  | [a, b] => String.join [ticked a, " or ", ticked b]
  | names => String.join ["one of ", ", ".intercalate (names.map ticked)]

def Mismatch.message : Mismatch → String
  | .wrongType found wanted =>
    String.join ["invalid type: ", found.describe, ", expected ", wanted.describe]
  | .wrongValue found wanted =>
    String.join ["invalid value: ", found.describe, ", expected ", wanted.describe]
  | .wrongLength length wanted =>
    String.join ["invalid length ", toString length, ", expected ", wanted.describe]
  | .missingField name => String.join ["missing field ", ticked name]
  | .duplicateField name => String.join ["duplicate field ", ticked name]
  | .unknownField name known =>
    String.join ["unknown field ", ticked name, ", expected ", alternatives known]
  | .unknownVariant name known =>
    String.join ["unknown variant ", ticked name, ", expected ", alternatives known]

end Json
end SchemaBinding
