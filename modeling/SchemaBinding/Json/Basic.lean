import SchemaBinding.Decimal.Binary64

/-! JSON values. The members of an object keep their order. -/
namespace SchemaBinding

/-- Numbers written without point and exponent are integers while they fit 64 bits. -/
inductive Json.Number
  | integer (n : Int)
  | real (x : Decimal.Binary64)
  deriving DecidableEq

inductive Json
  | null
  | bool (b : Bool)
  | number (n : Json.Number)
  | string (s : String)
  | array (items : List Json)
  | object (members : List (String × Json))

namespace Json

def member? (name : String) : Json → Option Json
  | .object members => members.lookup name
  | _ => none

def ofMembers (members : List (String × Option Json)) : Json :=
  .object (members.filterMap fun m => m.2.map (m.1, ·))

end Json
end SchemaBinding
