import SchemaBinding.Label

/-! Settings of a generation run. -/
namespace SchemaBinding

/-- What numbers of a schema become. -/
inductive NumberMapping
  /-- The same as integers, so that fractions are lost. -/
  | integer
  | float
  deriving DecidableEq

namespace NumberMapping

def literal : NumberMapping → String
  | integer => "integer"
  | float => "float"

def ofWord? : String → Option NumberMapping
  | "integer" => some integer
  | "float" => some float
  | _ => none

theorem ofWord?_eq_some_iff {s : String} {mapping : NumberMapping} :
    ofWord? s = some mapping ↔ s = mapping.literal := by
  constructor
  · intro h
    unfold ofWord? at h
    split at h <;> cases h <;> rfl
  · rintro rfl
    cases mapping <;> rfl

/-- The mapping as it is written in JSON. -/
def jsonName : NumberMapping → String
  | integer => "integer"
  | float => "float"

theorem jsonName_eq_literal (mapping : NumberMapping) : mapping.jsonName = mapping.literal := by
  cases mapping <;> rfl

instance : Labelled NumberMapping where
  all := [integer, float]
  label := jsonName

instance : LawfulLabelled NumberMapping where
  mem_all a := by cases a <;> decide
  label_injective {a b} h := by
    cases a <;> cases b <;> first | rfl | exact absurd h (by decide)

end NumberMapping

structure Config where
  numberMapping : NumberMapping
  /-- The package of declarations that carry no hint. -/
  defaultPackage : String
  /-- The module that generated types live under; if empty, paths are relative. -/
  rootModule : String
  deriving DecidableEq

/-- Settings that may be left out. -/
structure Config.Builder where
  numberMapping : Option NumberMapping := none
  defaultPackage : Option String := none
  rootModule : Option String := none
  deriving DecidableEq

def Config.defaultPackageName : String := "models"

def Config.defaultRootModule : String := "crate"

/-- What is left out takes its default. -/
def Config.Builder.build (b : Config.Builder) : Config where
  numberMapping := b.numberMapping.getD .integer
  defaultPackage := b.defaultPackage.getD Config.defaultPackageName
  rootModule := b.rootModule.getD Config.defaultRootModule

def Config.standard : Config := Config.Builder.build {}

/-- The settings with those that a builder has in the place of theirs. -/
def Config.override (c : Config) (b : Config.Builder) : Config where
  numberMapping := b.numberMapping.getD c.numberMapping
  defaultPackage := b.defaultPackage.getD c.defaultPackage
  rootModule := b.rootModule.getD c.rootModule

/-- The standard settings leave everything to the builder, and its defaults are theirs. -/
theorem Config.override_standard (b : Config.Builder) : Config.standard.override b = b.build := rfl

end SchemaBinding
