import SchemaBinding.TypeExpr.Basic
import SchemaBinding.Naming.ModulePath
import SchemaBinding.Ascending

/-! The imports that a generated module needs for its references: one line for each other module,
in ascending order, with the names from that module. -/
namespace SchemaBinding

open Text

namespace Imports

/-- A generated name and the module that it comes from. -/
structure Entry where
  module : String
  name : String
  deriving DecidableEq

def entries [Transliteration] [SnakeCasing] (current : String) (refs : List TypeExpr) :
    List Entry :=
  (refs.filterMap fun t => t.innermost.declared?.map fun d =>
    { module := Naming.modulePath d.package, name := Naming.exportedName d.name : Entry }).filter
      fun e => e.module != current

def modules (entries : List Entry) : List String := ascending (entries.map Entry.module)

def namesFrom (entries : List Entry) (module : String) : List String :=
  ascending ((entries.filter fun e => e.module == module).map Entry.name)

/-- Several names stand in braces. -/
def group : List String → String
  | [name] => name
  | names => "\x7b" ++ ", ".intercalate names ++ "\x7d"

/-- A line, without those of its parts that are empty. -/
def line (root module : String) (names : List String) : String :=
  "::".intercalate ([root, module, group names].filter fun part => !part.isEmpty)

end Imports

def importLines [Transliteration] [SnakeCasing] (refs : List TypeExpr) (current root : String) :
    List String :=
  let entries := Imports.entries current refs
  (Imports.modules entries).map fun module =>
    Imports.line root module (Imports.namesFrom entries module)

end SchemaBinding
