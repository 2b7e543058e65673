import SchemaBinding.Label

/-! Request verbs. -/
namespace SchemaBinding

inductive Verb
  | get
  | head
  | post
  | put
  | delete
  | connect
  | options
  | trace
  | patch
  deriving DecidableEq, Ord

namespace Verb

def literal : Verb → String
  | get => "GET"
  | head => "HEAD"
  | post => "POST"
  | put => "PUT"
  | delete => "DELETE"
  | connect => "CONNECT"
  | options => "OPTIONS"
  | trace => "TRACE"
  | patch => "PATCH"

/-- The verb that a word is, letter by letter. -/
def ofWord? : String → Option Verb
  | "GET" => some get
  | "HEAD" => some head
  | "POST" => some post
  | "PUT" => some put
  | "DELETE" => some delete
  | "CONNECT" => some connect
  | "OPTIONS" => some options
  | "TRACE" => some trace
  | "PATCH" => some patch
  | _ => none

theorem ofWord?_eq_some_iff {s : String} {v : Verb} : ofWord? s = some v ↔ s = v.literal := by
  constructor
  · intro h
    unfold ofWord? at h
    split at h <;> cases h <;> rfl
  · rintro rfl
    cases v <;> rfl

/-- The verb as it is written in JSON. -/
def jsonName : Verb → String
  | get => "GET"
  | head => "HEAD"
  | post => "POST"
  | put => "PUT"
  | delete => "DELETE"
  | connect => "CONNECT"
  | options => "OPTIONS"
  | trace => "TRACE"
  | patch => "PATCH"

theorem jsonName_eq_literal (v : Verb) : v.jsonName = v.literal := by cases v <;> rfl

instance : Labelled Verb where
  all := [get, head, post, put, delete, connect, options, trace, patch]
  label := jsonName

instance : LawfulLabelled Verb where
  mem_all a := by cases a <;> decide
  label_injective {a b} h := by
    cases a <;> cases b <;> first | rfl | exact absurd h (by decide)

end Verb

end SchemaBinding
