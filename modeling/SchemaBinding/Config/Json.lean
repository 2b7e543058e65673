import SchemaBinding.Config.Basic
import SchemaBinding.Json.Decode
import SchemaBinding.Json.Writer

/-! Settings as JSON. A field that is left out is that of the standard settings; unknown ones are
refused. -/
namespace SchemaBinding
namespace Config

open Json

def toJson (c : Config) : Json :=
  .object [("number_mapping", .string c.numberMapping.jsonName),
    ("default_package", .string c.defaultPackage), ("root_module", .string c.rootModule)]

def fieldNames : List String := ["number_mapping", "default_package", "root_module"]

section

variable {m : Type → Type} [Monad m] [MonadExceptOf Fault m]

def Builder.member (mapping : m NumberMapping) (text : m String) (b : Builder) (name : String) :
    m Builder :=
  match name with
  | "number_mapping" => return { b with numberMapping := ← once name b.numberMapping mapping }
  | "default_package" => return { b with defaultPackage := ← once name b.defaultPackage text }
  | "root_module" => return { b with rootModule := ← once name b.rootModule text }
  | _ => throw (.mismatch (.unknownField name fieldNames))

def Builder.fromElements (mapping : m (Option NumberMapping)) (package root : m (Option String)) :
    m Builder := do
  let numberMapping ← mapping
  let defaultPackage ← package
  let rootModule ← root
  pure { numberMapping, defaultPackage, rootModule }

end

def ofJson : Json → Except Fault Config
  | .object ms => do
    let b ← ms.foldlM (fun b (name, v) => Builder.member v.asLabel (v.asString .string) b name) {}
    pure (standard.override b)
  | .array items => do
    let text := nextElement (Json.asString .string)
    let b ← ofElements .fewerElements
      (Builder.fromElements (nextElement Json.asLabel) text text) items
    pure (standard.override b)
  | v => v.refuse (.record "ResolverConfig")

def reader (room : Nat) : Reader Config := do
  let inner := room - 1
  let text := Reader.asString .string
  let step := Builder.member (Reader.colon *> Reader.asLabel inner) (Reader.colon *> text)
  let b ← Reader.asRecord room "ResolverConfig" (Reader.members .full step {})
    (Builder.fromElements (Reader.nextElement true (Reader.asLabel inner))
      (Reader.nextElement false text) (Reader.nextElement false text))
  pure (standard.override b)

def ofText (text : String) : Except Fault Config := (reader Reader.maxDepth).ofText text

end Config
end SchemaBinding
