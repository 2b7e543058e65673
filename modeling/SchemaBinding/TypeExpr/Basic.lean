import SchemaBinding.Label

/-! Type references: what schema types become in generated code. -/
namespace SchemaBinding

inductive Builtin
  | any
  | integer
  | float
  | boolean
  /-- An instant with its time zone. -/
  | dateTime
  | time
  | date
  | string
  deriving DecidableEq, Ord

namespace Builtin

def literal : Builtin → String
  | any => "any"
  | integer => "integer"
  | float => "float"
  | boolean => "boolean"
  | dateTime => "date-time"
  | time => "time"
  | date => "date"
  | string => "string"

instance : Labelled Builtin where
  all := [any, integer, float, boolean, dateTime, time, date, string]
  label := literal

instance : LawfulLabelled Builtin where
  mem_all a := by cases a <;> decide
  label_injective {a b} h := by
    cases a <;> cases b <;> first | rfl | exact absurd h (by decide)

end Builtin

inductive DeclKind
  | object
  | enumeration
  deriving DecidableEq, Ord

namespace DeclKind

def literal : DeclKind → String
  | object => "object"
  | enumeration => "enum"

instance : Labelled DeclKind where
  all := [object, enumeration]
  label := literal

instance : LawfulLabelled DeclKind where
  mem_all a := by cases a <;> decide
  label_injective {a b} h := by
    cases a <;> cases b <;> first | rfl | exact absurd h (by decide)

end DeclKind

/-- A generated type in its package. The order is by package, then name, then kind; texts are
compared by code points. -/
structure Declared where
  package : String
  name : String
  kind : DeclKind
  deriving DecidableEq, Ord

inductive TypeExpr
  | builtin (type : Builtin)
  | sequence (item : TypeExpr)
  | named (type : Declared)
  deriving DecidableEq

namespace TypeExpr

def declared? : TypeExpr → Option Declared
  | named d => some d
  | _ => none

def depth : TypeExpr → Nat
  | sequence item => item.depth + 1
  | _ => 0

def innermost : TypeExpr → TypeExpr
  | sequence item => item.innermost
  | t => t

def nest (t : TypeExpr) : Nat → TypeExpr
  | 0 => t
  | n + 1 => sequence (t.nest n)

@[simp] theorem innermost_nest (t : TypeExpr) (n : Nat) :
    (t.nest n).innermost = t.innermost := by
  induction n with
  | zero => rfl
  | succ n ih => simpa [nest, innermost] using ih

@[simp] theorem depth_nest (t : TypeExpr) (n : Nat) : (t.nest n).depth = t.depth + n := by
  induction n with
  | zero => rfl
  | succ n ih => simp [nest, depth, ih, Nat.add_assoc]

theorem nest_innermost (t : TypeExpr) : t.innermost.nest t.depth = t := by
  induction t with
  | sequence item ih => simpa [innermost, depth, nest] using ih
  | _ => rfl

end TypeExpr
end SchemaBinding
