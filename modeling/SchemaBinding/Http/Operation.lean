import SchemaBinding.Http.Verb
import SchemaBinding.Json.Decode

/-! API operations: one verb on one resource path. -/
namespace SchemaBinding

structure Operation where
  verb : Verb
  path : String
  operationId : Option String
  deriving DecidableEq

/-- How methods of a client are called, by the verb of the operation that they stand for. -/
abbrev MethodNames := Verb → String

namespace MethodNames

/-- The usual names; a verb without one of its own is called by its literal in lowercase. -/
def standard : MethodNames
  | .post => "save"
  | .put => "update"
  | .get => "get"
  | .delete => "delete"
  | .patch => "patch"
  | verb => String.ofList (verb.literal.toList.map Char.toLower)

def nameFor (names : MethodNames) (operation : Operation) : String := names operation.verb

end MethodNames

namespace Operation

open Json

def toJson (o : Operation) : Json :=
  .ofMembers [("verb", some (.string o.verb.jsonName)), ("path", some (.string o.path)),
    ("operation_id", o.operationId.map .string)]

structure Draft where
  verb : Option Verb := none
  path : Option String := none
  operationId : Option (Option String) := none

section

variable {m : Type → Type} [Monad m] [MonadExceptOf Fault m]

def Draft.member (verb : m Verb) (path : m String) (operationId : m (Option String))
    (other : m Unit) (d : Draft) (name : String) : m Draft :=
  match name with
  | "verb" => return { d with verb := ← once name d.verb verb }
  | "path" => return { d with path := ← once name d.path path }
  | "operation_id" => return { d with operationId := ← once name d.operationId operationId }
  | _ => do
    other
    pure d

def Draft.complete (d : Draft) : m Operation := do
  let verb ← required "verb" d.verb
  let path ← required "path" d.path
  pure { verb, path, operationId := d.operationId.join }

def fromElements (verb : m (Option Verb)) (path : m (Option String))
    (operationId : m (Option (Option String))) : m Operation := do
  let verb ← requiredElement "Operation" 0 3 verb
  let path ← requiredElement "Operation" 1 3 path
  return { verb, path, operationId := (← operationId).join }

end

def ofJson : Json → Except Fault Operation
  | .object ms => do
    let d ← ms.foldlM (fun d (name, v) =>
      d.member v.asLabel (v.asString .string) (asOption (Json.asString .string) v) (pure ()) name) {}
    Draft.complete d
  | .array items =>
    ofElements .fewerElements (fromElements (nextElement Json.asLabel)
      (nextElement (Json.asString .string)) (nextElement (asOption (Json.asString .string)))) items
  | v => v.refuse (.record "Operation")

def reader (room : Nat) : Reader Operation :=
  let inner := room - 1
  let text := Reader.asString .string
  Reader.asRecord room "Operation"
    (do
      let step := fun (d : Draft) name =>
        d.member (Reader.colon *> Reader.asLabel inner) (Reader.colon *> text)
          (Reader.colon *> Reader.asOption text) (Reader.colon *> Reader.skip) name
      (← Reader.members .full step {}).complete)
    (fromElements (Reader.nextElement true (Reader.asLabel inner)) (Reader.nextElement false text)
      (Reader.nextElement false (Reader.asOption text)))

def listOfText (text : String) : Except Fault (List Operation) :=
  (Reader.asList Reader.maxDepth (reader (Reader.maxDepth - 1))).ofText text

end Operation
end SchemaBinding
