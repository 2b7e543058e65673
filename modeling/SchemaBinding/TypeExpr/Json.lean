import SchemaBinding.TypeExpr.Basic
import SchemaBinding.Json.Decode

/-! Type references as JSON: an object with the name of the variant as its only member. -/
namespace SchemaBinding

open Json

namespace Declared

def toJson (d : Declared) : Json :=
  .object [("package", .string d.package), ("name", .string d.name),
    ("kind", .string d.kind.literal)]

structure Draft where
  package : Option String := none
  name : Option String := none
  kind : Option DeclKind := none

section

variable {m : Type → Type} [Monad m] [MonadExceptOf Fault m]

def Draft.member (text : m String) (kind : m DeclKind) (other : m Unit) (d : Draft)
    (name : String) : m Draft :=
  match name with
  | "package" => return { d with package := ← once name d.package text }
  | "name" => return { d with name := ← once name d.name text }
  | "kind" => return { d with kind := ← once name d.kind kind }
  | _ => do
    other
    pure d

def Draft.complete (d : Draft) : m Declared := do
  let package ← required "package" d.package
  let name ← required "name" d.name
  let kind ← required "kind" d.kind
  pure { package, name, kind }

def fromElements (package name : m (Option String)) (kind : m (Option DeclKind)) :
    m Declared := do
  let package ← requiredElement "NamedType" 0 3 package
  let name ← requiredElement "NamedType" 1 3 name
  let kind ← requiredElement "NamedType" 2 3 kind
  pure { package, name, kind }

end

def ofJson : Json → Except Fault Declared
  | .object ms => do
    let d ← ms.foldlM (fun d (name, v) =>
      Draft.member (v.asString .string) v.asLabel (pure ()) d name) {}
    Draft.complete d
  | .array items =>
    let text := nextElement (Json.asString .string)
    ofElements .fewerElements (fromElements text text (nextElement Json.asLabel)) items
  | v => v.refuse (.record "NamedType")

def reader (room : Nat) : Reader Declared :=
  let inner := room - 1
  let text := Reader.asString .string
  Reader.asRecord room "NamedType"
    (do
      let step := Draft.member (Reader.colon *> text) (Reader.colon *> Reader.asLabel inner)
        (Reader.colon *> Reader.skip)
      (← Reader.members .full step {}).complete)
    (fromElements (Reader.nextElement true text) (Reader.nextElement false text)
      (Reader.nextElement false (Reader.asLabel inner)))

end Declared

namespace TypeExpr

inductive Variant
  | builtin
  | sequence
  | named
  deriving DecidableEq

def Variant.literal : Variant → String
  | builtin => "builtin"
  | sequence => "sequence"
  | named => "named"

instance : Labelled Variant where
  all := [.builtin, .sequence, .named]
  label := Variant.literal

instance : LawfulLabelled Variant where
  mem_all a := by cases a <;> decide
  label_injective {a b} h := by
    cases a <;> cases b <;> first | rfl | exact absurd h (by decide)

def toJson : TypeExpr → Json
  | builtin b => .object [(Variant.builtin.literal, .string b.literal)]
  | sequence item => .object [(Variant.sequence.literal, item.toJson)]
  | named d => .object [(Variant.named.literal, d.toJson)]

/-- Every variant has a payload, so that its name alone is not enough. -/
def lacksPayload : Fault := .mismatch (.wrongType .unitVariant .payload)

def ofJson : Json → Except Fault TypeExpr
  | .string name => do
    let _ : Variant ← variantNamed name
    throw lacksPayload
  | .object [(name, v)] => do
    match ← (variantNamed name : Except Fault Variant) with
    | .builtin => return builtin (← v.asLabel)
    | .sequence => return sequence (← ofJson v)
    | .named => return named (← Declared.ofJson v)
  | .object _ => .error (.mismatch (.wrongValue .map .oneMember))
  | v => v.refuse .stringOrMap

/-- A type reference whose items, if it is a sequence, are read by `item`. -/
def readerOver (room : Nat) (item : Reader TypeExpr) : Reader TypeExpr :=
  Reader.asVariant (α := Variant) room (fun _ => throw lacksPayload) fun
    | .builtin => return builtin (← Reader.asLabel (room - 1))
    | .sequence => return sequence (← item)
    | .named => return named (← Declared.reader (room - 1))

def reader : Nat → Reader TypeExpr
  | 0 => readerOver 0 (throw .malformed)
  | room + 1 => fun cs => readerOver (room + 1) (reader room) cs

def ofText (text : String) : Except Fault TypeExpr := (reader Reader.maxDepth).ofText text

end TypeExpr
end SchemaBinding
