import SchemaBinding.Label

/-! Schema types: what an API description says about the shape of a value. -/
namespace SchemaBinding

inductive Schema
  | any
  | number
  | integer
  | boolean
  | dateTime
  | timeOnly
  | dateOnly
  | array (items : Schema)
  | object (name : String) (packageHint : Option String)
  /-- Text. Without an `enum` facet there are no enum values; the values may be empty. -/
  | string (name : String) (enumValues : Option (List (Option String)))
      (packageHint : Option String)
  deriving DecidableEq

namespace Schema

inductive Kind
  | any
  | number
  | integer
  | boolean
  | dateTime
  | timeOnly
  | dateOnly
  | array
  | object
  | string
  deriving DecidableEq

def Kind.literal : Kind → String
  | any => "any"
  | number => "number"
  | integer => "integer"
  | boolean => "boolean"
  | dateTime => "date-time"
  | timeOnly => "time-only"
  | dateOnly => "date-only"
  | array => "array"
  | object => "object"
  | string => "string"

instance : Labelled Kind where
  all := [.any, .number, .integer, .boolean, .dateTime, .timeOnly, .dateOnly, .array, .object,
    .string]
  label := Kind.literal

instance : LawfulLabelled Kind where
  mem_all a := by cases a <;> decide
  label_injective {a b} h := by
    cases a <;> cases b <;> first | rfl | exact absurd h (by decide)

def kind : Schema → Kind
  | any => .any
  | number => .number
  | integer => .integer
  | boolean => .boolean
  | dateTime => .dateTime
  | timeOnly => .timeOnly
  | dateOnly => .dateOnly
  | array _ => .array
  | object .. => .object
  | string .. => .string

/-- An object declaration without a package hint. -/
def ofObject (name : String) : Schema := object name none

/-- A string declaration without enum facet and package hint. -/
def ofString (name : String) : Schema := string name none none

def ofEnum (name : String) (values : List String) : Schema :=
  string name (some (values.map some)) none

/-- Places a declaration; schema types without a name stay as they are. -/
def withPackageHint (package : String) : Schema → Schema
  | object name _ => object name (some package)
  | string name values _ => string name values (some package)
  | s => s

def declaredName : Schema → Option String
  | object name _ => some name
  | string name _ _ => some name
  | _ => none

def packageHint : Schema → Option String
  | object _ hint => hint
  | string _ _ hint => hint
  | _ => none

def innermost : Schema → Schema
  | array items => items.innermost
  | s => s

def arrayDepth : Schema → Nat
  | array items => items.arrayDepth + 1
  | _ => 0

def nest (s : Schema) : Nat → Schema
  | 0 => s
  | n + 1 => array (s.nest n)

@[simp] theorem innermost_nest (s : Schema) (n : Nat) : (s.nest n).innermost = s.innermost := by
  induction n with
  | zero => rfl
  | succ n ih => simpa [nest, innermost] using ih

@[simp] theorem arrayDepth_nest (s : Schema) (n : Nat) :
    (s.nest n).arrayDepth = s.arrayDepth + n := by
  induction n with
  | zero => rfl
  | succ n ih => simp [nest, arrayDepth, ih, Nat.add_assoc]

theorem nest_innermost (s : Schema) : s.innermost.nest s.arrayDepth = s := by
  induction s with
  | array items ih => simpa [innermost, arrayDepth, nest] using ih
  | _ => rfl

theorem kind_innermost_ne_array (s : Schema) : s.innermost.kind ≠ .array := by
  induction s with
  | array items ih => exact ih
  | _ => simp [innermost, kind]

end Schema
end SchemaBinding
