import SchemaBinding.Config.Basic
import SchemaBinding.Naming.TypeName
import SchemaBinding.Resolver.Event
import SchemaBinding.Resolver.Placement
import SchemaBinding.Text.Quoted
import SchemaBinding.TypeExpr.Imports

/-! Resolving schema types into type references. A resolution has a result and leaves a log, which
it keeps when it fails: the placements that were asked for, and the events. -/
namespace SchemaBinding

inductive ResolveError
  | unusableName (kind : Schema.Kind) (source : Naming.NameError)
  | emptyPackage (name : String)
  deriving DecidableEq

def ResolveError.message : ResolveError → String
  | .unusableName kind _ => String.join [kind.literal, " type has an unusable declaration name"]
  | .emptyPackage name =>
    String.join ["package resolver returned an empty package for '", name, "'"]

abbrev NamingRule := String → Except Naming.NameError String

structure Resolver where
  placement : Placement
  naming : NamingRule
  numbers : NumberMapping
  rootModule : String

/-- The traces of a resolution, oldest first. -/
structure Log where
  /-- The nodes whose placement was asked for, and the answers. -/
  placements : List (Schema × String) := []
  events : List Event := []
  deriving DecidableEq

abbrev Resolution := ExceptT ResolveError (StateM Log)

namespace Resolution

def report (event : Event) : Resolution Unit :=
  modify fun log => { log with events := log.events ++ [event] }

/-- Asks for the placement of a node. -/
def place (placement : Placement) (node : Schema) : Resolution String := do
  let package := placement node
  modify fun log => { log with placements := log.placements ++ [(node, package)] }
  pure package

/-- The result and the log of a resolution on its own. -/
def outcome (resolution : Resolution α) : Except ResolveError α × Log := resolution.run.run {}

end Resolution

/-- A string declaration is plain text if it is called `string`, in whatever case, or lists no
values. -/
def isPlainString (name : String) (values : Option (List (Option String))) : Bool :=
  name.toList.map Char.toLower == "string".toList || values.all List.isEmpty

namespace Resolver

open Resolution Text

def ofPlacement [Transliteration] (placement : Placement) (config : Config) : Resolver where
  placement := placement
  naming := Naming.typeName
  numbers := config.numberMapping
  rootModule := config.rootModule

def ofConfig [Transliteration] (config : Config) : Resolver :=
  ofPlacement (.byHint config.defaultPackage) config

/-- What is reported when a resolver is set up. -/
def setupEvents (config : Config) : List Event :=
  match config.numberMapping with
  | .integer => []
  | .float => [.floatNumbers]

def withNaming (r : Resolver) (naming : NamingRule) : Resolver := { r with naming := naming }

def numberType (r : Resolver) : Builtin :=
  match r.numbers with
  | .integer => .integer
  | .float => .float

/-- The reference to a declaration, which needs a name first and then a package. -/
def declare (r : Resolver) (node : Schema) (rawName : String) (kind : DeclKind) :
    Resolution TypeExpr := do
  match r.naming rawName with
  | .error source => throw (.unusableName node.kind source)
  | .ok name =>
    let package ← place r.placement node
    if Text.blank package then throw (.emptyPackage name)
    else do
      let type : Declared := { package, name, kind }
      report (.declared rawName type)
      pure (.named type)

def finish (node : Schema) (type : TypeExpr) : Resolution TypeExpr := do
  report (.resolved node.kind type)
  pure type

/-- An array becomes a sequence of what its items become; every other node stands alone. -/
def resolve (r : Resolver) : Schema → Resolution TypeExpr
  | .any => finish .any (.builtin .any)
  | .number => finish .number (.builtin r.numberType)
  | .integer => finish .integer (.builtin .integer)
  | .boolean => finish .boolean (.builtin .boolean)
  | .dateTime => finish .dateTime (.builtin .dateTime)
  | .timeOnly => finish .timeOnly (.builtin .time)
  | .dateOnly => finish .dateOnly (.builtin .date)
  | .array items => do
    let item ← r.resolve items
    finish (.array items) (.sequence item)
  | .object name hint => do
    let type ← r.declare (.object name hint) name .object
    finish (.object name hint) type
  | .string name values hint => do
    let type ←
      if isPlainString name values then pure (.builtin .string)
      else r.declare (.string name values hint) name .enumeration
    finish (.string name values hint) type

/-- Resolves one after the other, up to the first that fails. -/
def resolveAll (r : Resolver) (schemas : List Schema) : Resolution (List TypeExpr) :=
  schemas.mapM r.resolve

/-- The path of a reference in Rust, under the root module unless that is empty. -/
def rustPath [Transliteration] [SnakeCasing] (r : Resolver) (type : TypeExpr) : String :=
  type.qualifiedName .rust (if r.rootModule.isEmpty then none else some r.rootModule)

def imports [Transliteration] [SnakeCasing] (r : Resolver) (refs : List TypeExpr)
    (current : String) : List String :=
  importLines refs current r.rootModule

/-- The settings of the resolver; its rules cannot be shown. -/
def describe (r : Resolver) : String :=
  let mapping := match r.numbers with
    | .integer => "Integer"
    | .float => "Float"
  String.join ["TypeResolver \x7b number_mapping: ", mapping, ", root_module: ",
    Text.quoted r.rootModule, ", .. \x7d"]

end Resolver
end SchemaBinding
