import SchemaBinding.Schema.Basic
import SchemaBinding.TypeExpr.Target

/-! What a resolver reports while it works. -/
namespace SchemaBinding

inductive Event.Level
  | warn
  | debug
  | trace
  deriving DecidableEq

inductive Event
  /-- A resolver was set up that turns numbers into floating point. -/
  | floatNumbers
  /-- A declaration got its name and its package. -/
  | declared (rawName : String) (type : Declared)
  /-- A node of a schema type was resolved. -/
  | resolved (kind : Schema.Kind) (type : TypeExpr)
  deriving DecidableEq

namespace Event

open Text

def level : Event → Level
  | floatNumbers => .warn
  | declared .. => .debug
  | resolved .. => .trace

def message : Event → String
  | floatNumbers =>
    "number types resolve to floating point; generated code differs from the integer default"
  | declared .. => "Resolved named type reference."
  | resolved .. => "Resolved schema type."

def fields [Transliteration] [SnakeCasing] : Event → List (String × String)
  | floatNumbers => []
  | declared rawName d =>
    [("raw_name", rawName), ("name", d.name), ("package", d.package), ("kind", d.kind.literal)]
  | resolved kind t => [("kind", kind.literal), ("resolved", t.display)]

end Event
end SchemaBinding
