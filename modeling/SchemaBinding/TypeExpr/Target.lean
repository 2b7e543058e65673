import SchemaBinding.TypeExpr.Basic
import SchemaBinding.Naming.ModulePath

/-! How a target language writes type references. -/
namespace SchemaBinding

open Text

/-- The spellings of a target language. -/
structure Target where
  any : String
  integer : String
  float : String
  boolean : String
  dateTime : String
  time : String
  date : String
  string : String
  /-- What stands in front of the item type of a sequence. -/
  sequenceOpen : String
  sequenceClose : String
  pathSeparator : String
  /-- The module that a package becomes. -/
  moduleOf : String → String

namespace Target

def rust [Transliteration] [SnakeCasing] : Target where
  any := "serde_json::Value"
  integer := "i32"
  float := "f64"
  boolean := "bool"
  dateTime := "chrono::DateTime<chrono::Utc>"
  time := "chrono::NaiveTime"
  date := "chrono::NaiveDate"
  string := "String"
  sequenceOpen := "Vec<"
  sequenceClose := ">"
  pathSeparator := "::"
  moduleOf := Naming.modulePath

def java [Transliteration] : Target where
  any := "java.lang.Object"
  integer := "java.lang.Integer"
  float := "java.lang.Double"
  boolean := "java.lang.Boolean"
  dateTime := "java.time.ZonedDateTime"
  time := "org.joda.time.LocalTime"
  date := "java.time.LocalDate"
  string := "java.lang.String"
  sequenceOpen := "java.util.List<"
  sequenceClose := ">"
  pathSeparator := "."
  moduleOf := Naming.dottedPackage

def builtin (target : Target) : Builtin → String
  | .any => target.any
  | .integer => target.integer
  | .float => target.float
  | .boolean => target.boolean
  | .dateTime => target.dateTime
  | .time => target.time
  | .date => target.date
  | .string => target.string

def sequence (target : Target) (item : String) : String :=
  target.sequenceOpen ++ item ++ target.sequenceClose

end Target

def builtinModule : String := "types"

namespace TypeExpr

def typeName (target : Target) : TypeExpr → String
  | builtin b => target.builtin b
  | sequence item => target.sequence (item.typeName target)
  | named d => Naming.exportedName d.name

/-- The name with its path, which begins with the root if there is one. The names of builtin types
are complete as they are. -/
def qualifiedName (target : Target) (root : Option String) : TypeExpr → String
  | builtin b => target.builtin b
  | sequence item => target.sequence (item.qualifiedName target root)
  | named d =>
    let module := target.moduleOf d.package
    target.pathSeparator.intercalate
      (root.toList ++ (if module.isEmpty then [] else [module]) ++ [Naming.exportedName d.name])

def moduleName (target : Target) (t : TypeExpr) : String :=
  match t.innermost with
  | named d => target.moduleOf d.package
  | _ => builtinModule

/-- References are shown in Rust. -/
def display [Transliteration] [SnakeCasing] (t : TypeExpr) : String := t.typeName .rust

end TypeExpr
end SchemaBinding
