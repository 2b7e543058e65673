import SchemaBinding.Json.Reader
import SchemaBinding.Label

/-! Decoding by shape, from a value and from text. Both ways find the same mismatches; they part
where text can show more, as with repeated names, or where it is read too early to look ahead. -/
namespace SchemaBinding
namespace Json

variable {α β : Type}

-- The parts of a record come from named members in any order, or from list elements by position.
-- These steps are the same for values and for text.
section Record

variable {m : Type → Type} [Monad m] [MonadExceptOf Fault m]

/-- Fills the slot of a field, which may be named only once. -/
def once (name : String) (slot : Option α) (read : m α) : m (Option α) :=
  match slot with
  | some _ => throw (.mismatch (.duplicateField name))
  | none => some <$> read

/-- The content of a slot that has to be filled. -/
def required (name : String) : Option α → m α
  | some a => pure a
  | none => throw (.mismatch (.missingField name))

/-- An element that has to be there, after `position` others of a record of `count`. -/
def requiredElement (type : String) (position count : Nat) (element : m (Option α)) : m α := do
  match ← element with
  | some a => pure a
  | none => throw (.mismatch (.wrongLength position (.elementsOf type count)))

def variantNamed [Labelled α] (name : String) : m α :=
  match Labelled.ofLabel? α name with
  | some a => pure a
  | none => throw (.mismatch (.unknownVariant name (Labelled.labels α)))

end Record

def refuse (v : Json) (wanted : Wanted) : Except Fault α :=
  .error (.mismatch (.wrongType v.found wanted))

def asString (wanted : Wanted) : Json → Except Fault String
  | .string s => .ok s
  | v => v.refuse wanted

def asUnit : Json → Except Fault Unit
  | .null => .ok ()
  | v => v.refuse .unit

def asOption (decode : Json → Except Fault α) : Json → Except Fault (Option α)
  | .null => .ok none
  | v => some <$> decode v

def asList (decode : Json → Except Fault α) : Json → Except Fault (List α)
  | .array items => items.mapM decode
  | v => v.refuse .sequence

/-- A variant is written as a string, or as an object with the name of the variant as its only
member and the payload of the variant as the value of that. -/
def asVariant [Labelled α] (bare : α → Except Fault β) (payload : α → Json → Except Fault β) :
    Json → Except Fault β
  | .string name => variantNamed name >>= bare
  | .object [(name, v)] => do payload (← variantNamed name) v
  | .object _ => .error (.mismatch (.wrongValue .map .oneMember))
  | v => v.refuse .stringOrMap

/-- A variant without payload. -/
def asLabel [Labelled α] : Json → Except Fault α :=
  asVariant (α := α) pure fun a v => do
    v.asUnit
    pure a

/-- Takes the elements of a list one by one. -/
abbrev Elements := StateT (List Json) (Except Fault)

def nextElement (decode : Json → Except Fault α) : Elements (Option α) := do
  match ← get with
  | [] => pure none
  | v :: rest =>
    set rest
    some <$> (decode v : Except Fault α)

/-- A record from a list, of whose elements none may be left over. -/
def ofElements (wanted : Wanted) (record : Elements α) (items : List Json) : Except Fault α := do
  let (a, rest) ← record.run items
  if rest.isEmpty then pure a else .error (.mismatch (.wrongLength items.length wanted))

namespace Reader

def asString (wanted : Wanted) : Reader String := do
  match ← peek with
  | some '"' => string .full
  | _ => wrongType wanted

def asUnit : Reader Unit := do
  match ← peek with
  | some 'n' => word "null".toList
  | _ => wrongType .unit

def asOption (read : Reader α) : Reader (Option α) := do
  match ← peek with
  | some 'n' => word "null".toList *> pure none
  | _ => some <$> read

def asList (room : Nat) (read : Reader α) : Reader (List α) := do
  match ← peek with
  | some '[' =>
    descend room do
      return (← elements (fun items => return (← read) :: items) []).reverse
  | _ => wrongType .sequence

/-- Other values than strings and objects are not even looked at. -/
def asVariant [Labelled α] (room : Nat) (bare : α → Reader β) (payload : α → Reader β) :
    Reader β := do
  match ← peek with
  | none => throw .truncated
  | some '"' => bare (← variantNamed (← string .full))
  | some '{' =>
    descend room do
      let variant ← variantNamed (← name .full)
      colon
      let b ← payload variant
      close '}'
      pure b
  | some _ => throw .malformed

def asLabel [Labelled α] (room : Nat) : Reader α :=
  asVariant (α := α) room pure fun a => do
    asUnit
    pure a

/-- The next element of a list, which is the first one or comes after a comma. -/
def nextElement (first : Bool) (read : Reader α) : Reader (Option α) := do
  if ← more ']' first then some <$> read else pure none

/-- A record from an object or a list. -/
def asRecord (room : Nat) (type : String) (fromMembers fromElements : Reader α) : Reader α := do
  match ← peek with
  | some '{' => descend room fromMembers
  | some '[' =>
    descend room do
      let a ← fromElements
      close ']'
      pure a
  | _ => wrongType (.record type)

end Reader
end Json
end SchemaBinding
