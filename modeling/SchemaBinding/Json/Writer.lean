import SchemaBinding.Json.Strings

/-! JSON text without gaps. -/
namespace SchemaBinding
namespace Json

def Number.text : Number → String
  | .integer n => toString n
  | .real x => x.text

mutual

def write : Json → List Char
  | .null => "null".toList
  | .bool b => (if b then "true" else "false").toList
  | .number n => n.text.toList
  | .string s => writeString s.toList
  | .array items => '[' :: (writeItems items ++ [']'])
  | .object members => '{' :: (writeMembers members ++ ['}'])

def writeItems : List Json → List Char
  | [] => []
  | [v] => write v
  | v :: rest => write v ++ ',' :: writeItems rest

def writeMembers : List (String × Json) → List Char
  | [] => []
  | [(name, v)] => writeString name.toList ++ ':' :: write v
  | (name, v) :: rest => writeString name.toList ++ ':' :: (write v ++ ',' :: writeMembers rest)

end

def text (v : Json) : String := String.ofList v.write

end Json
end SchemaBinding
