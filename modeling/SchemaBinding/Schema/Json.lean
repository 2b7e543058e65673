import SchemaBinding.Schema.Basic
import SchemaBinding.Json.Decode

/-! Schema types as JSON: objects that name their kind in the member `type`. The kind says which
other members count; all others are ignored. -/
namespace SchemaBinding
namespace Schema

open Json

def ofOption : Option String → Json
  | some s => .string s
  | none => .null

def ofStrings (values : List (Option String)) : Json := .array (values.map ofOption)

def toJson : Schema → Json
  | array items => .object [("type", .string Kind.array.literal), ("items", items.toJson)]
  | object name hint =>
    .ofMembers [("type", some (.string Kind.object.literal)), ("name", some (.string name)),
      ("package_hint", hint.map .string)]
  | string name values hint =>
    .ofMembers [("type", some (.string Kind.string.literal)), ("name", some (.string name)),
      ("enum_values", values.map ofStrings), ("package_hint", hint.map .string)]
  | s => .object [("type", .string s.kind.literal)]

def kindNamed (v : Json) : Except Fault Kind := do variantNamed (← v.asString .variantName)

/-- Below the root a kind may also be given by its position. -/
def kindNumbered : Json → Except Fault Kind
  | .number (.integer (.ofNat n)) =>
    match (Labelled.all : List Kind)[n]? with
    | some kind => .ok kind
    | none =>
      .error (.mismatch (.wrongValue (.number (.integer n))
        (.variantIndex (Labelled.all : List Kind).length)))
  | v => kindNamed v

def kindAmong (decode : Json → Except Fault Kind) (ms : List (String × Json)) :
    Except Fault Kind := do
  let step := fun kind (m : String × Json) =>
    if m.1 == "type" then once "type" kind (decode m.2) else pure kind
  required "type" (← ms.foldlM step none)

structure Draft where
  name : Option String := none
  enumValues : Option (Option (List (Option String))) := none
  packageHint : Option (Option String) := none

def asText : Json → Except Fault String := asString .string

def asHint : Json → Except Fault (Option String) := asOption asText

def asEnumValues : Json → Except Fault (Option (List (Option String))) :=
  asOption (asList (asOption asText))

/-- Takes in one member; only strings are `valued`, which is to have enum values. -/
def Draft.member (valued : Bool) (d : Draft) (m : String × Json) : Except Fault Draft :=
  match m.1 with
  | "name" => return { d with name := ← once "name" d.name (asText m.2) }
  | "package_hint" =>
    return { d with packageHint := ← once "package_hint" d.packageHint (asHint m.2) }
  | "enum_values" =>
    if valued then
      return { d with enumValues := ← once "enum_values" d.enumValues (asEnumValues m.2) }
    else pure d
  | _ => pure d

def ofMembers (kind : Kind) (ms : List (String × Json)) : Except Fault Schema :=
  match kind with
  | .any => pure any
  | .number => pure number
  | .integer => pure integer
  | .boolean => pure boolean
  | .dateTime => pure dateTime
  | .timeOnly => pure timeOnly
  | .dateOnly => pure dateOnly
  | .array => .error (.mismatch (.missingField "items"))
  | .object => do
    let d ← ms.foldlM (Draft.member false) {}
    return object (← required "name" d.name) d.packageHint.join
  | .string => do
    let d ← ms.foldlM (Draft.member true) {}
    return string (← required "name" d.name) d.enumValues.join d.packageHint.join

/-- A schema type without items from the list elements behind its kind. -/
def ofItems (kind : Kind) (items : List Json) : Except Fault Schema :=
  let leaf := fun s => ofElements (.elements 0) (pure s) items
  match kind with
  | .any => leaf any
  | .number => leaf number
  | .integer => leaf integer
  | .boolean => leaf boolean
  | .dateTime => leaf dateTime
  | .timeOnly => leaf timeOnly
  | .dateOnly => leaf dateOnly
  | .array => .error (.mismatch (.wrongLength 0 (.elementsOf "variant SchemaType::Array" 1)))
  | .object =>
    ofElements (.elements 2) (do
      let name ← requiredElement "variant SchemaType::Object" 0 2 (nextElement asText)
      return object name (← nextElement asHint).join) items
  | .string =>
    ofElements (.elements 3) (do
      let name ← requiredElement "variant SchemaType::String" 0 3 (nextElement asText)
      let values ← nextElement asEnumValues
      return string name values.join (← nextElement asHint).join) items

mutual

/-- A schema type from an object, or from a list with the kind in front. -/
def decode (kindOf : Json → Except Fault Kind) : Json → Except Fault Schema
  | .object ms => do
    let kind ← kindAmong kindOf ms
    if kind = .array then return array (← required "items" (← itemsAmong none ms))
    else ofMembers kind ms
  | .array [] => .error (.mismatch (.missingField "type"))
  | .array (first :: rest) => do decodeBehind (← kindOf first) rest
  | v => v.refuse (.tagged "SchemaType")

def decodeBehind (kind : Kind) : List Json → Except Fault Schema
  | [] => ofItems kind []
  | items :: more =>
    if kind = .array then do
      let s ← decode kindNumbered items
      if more.isEmpty then pure (array s)
      else .error (.mismatch (.wrongLength (more.length + 1) (.elements 1)))
    else ofItems kind (items :: more)

/-- The items of an array among the members of its object. -/
def itemsAmong (found : Option Schema) : List (String × Json) → Except Fault (Option Schema)
  | [] => pure found
  | (name, v) :: ms => do
    if name == "items" then itemsAmong (← once "items" found (decode kindNumbered v)) ms
    else itemsAmong found ms

end

def ofJson (v : Json) : Except Fault Schema := decode kindNamed v

/-- Reads the kind as soon as it comes by and keeps the rest until the whole value is there. -/
def reader (room : Nat) : Reader Schema := do
  let inner := room - 1
  let kind : Reader Json := do
    let name ← Reader.asString .variantName
    let kind : Kind ← variantNamed name
    pure (.string kind.literal)
  match ← Reader.peek with
  | some '{' =>
    Reader.descend room do
      let step := fun (ms : List (String × Json)) name => do
        if name == "type" then
          let kind ← once name (ms.lookup name) (Reader.colon *> kind)
          pure (ms ++ kind.toList.map (name, ·))
        else
          Reader.colon
          return ms ++ [(name, ← Reader.value .full inner)]
      let ms ← Reader.members .full step []
      liftM (ofJson (.object ms))
  | some '[' =>
    Reader.descend room do
      match ← Reader.nextElement true kind with
      | none => liftM (ofJson (.array []))
      | some kind =>
        let step := fun items => return items ++ [← Reader.value .full inner]
        let items ← Reader.foldElements step ((← get).length + 1) false []
        liftM (ofJson (.array (kind :: items)))
  | _ => Reader.wrongType (.tagged "SchemaType")

def ofText (text : String) : Except Fault Schema := (reader Reader.maxDepth).ofText text

end Schema
end SchemaBinding
