import SchemaBinding.Resolver.Basic

/-! Results of resolutions, without their logs. Main statements: an array has the result of its
items in a sequence, a declaration is named and then placed, and any other schema type has the
builtin type of its kind. -/
namespace SchemaBinding

namespace Schema

/-- The schema types that are generated under a name: objects, and strings that are not called
`string` and have enum values. -/
inductive Declares : Schema → String → DeclKind → Prop
  | object (name : String) (hint : Option String) : Declares (.object name hint) name .object
  | enumeration {name : String} {values : List (Option String)} (hint : Option String)
      (hname : name.toList.map Char.toLower ≠ "string".toList) (hvalues : values ≠ []) :
      Declares (.string name (some values) hint) name .enumeration

theorem Declares.kind_eq_object_iff {s : Schema} {raw : String} {kind : DeclKind}
    (h : s.Declares raw kind) : kind = .object ↔ s.kind = .object := by
  cases h <;> simp [Schema.kind]

def Kind.builtin? (numbers : NumberMapping) : Kind → Option Builtin
  | any => some .any
  | number =>
    match numbers with
    | .integer => some .integer
    | .float => some .float
  | integer => some .integer
  | boolean => some .boolean
  | dateTime => some .dateTime
  | timeOnly => some .time
  | dateOnly => some .date
  | string => some .string
  | array => none
  | object => none

end Schema

theorem isPlainString_eq_false_iff {name : String} {values : Option (List (Option String))} :
    isPlainString name values = false ↔
      name.toList.map Char.toLower ≠ "string".toList ∧ ∃ vs, values = some vs ∧ vs ≠ [] := by
  cases values with
  | none => simp [isPlainString]
  | some vs => simp [isPlainString]

namespace Resolution

variable {α β : Type}

/-- The result of a resolution on its own. -/
def result (resolution : Resolution α) : Except ResolveError α := resolution.outcome.1

theorem run_bind (resolution : Resolution α) (next : α → Resolution β) (log : Log) :
    (resolution >>= next).run.run log =
      match resolution.run.run log with
      | (.ok a, log') => (next a).run.run log'
      | (.error e, log') => (.error e, log') := by
  rw [ExceptT.run_bind, StateT.run_bind]
  rcases resolution.run.run log with ⟨_ | _, _⟩ <;> rfl

theorem run_place (placement : Placement) (node : Schema) (log : Log) :
    (place placement node).run.run log =
      (.ok (placement node),
        { log with placements := log.placements ++ [(node, placement node)] }) :=
  rfl

theorem result_bind_of_ok (resolution : Resolution α) {next : α → Resolution β} {f : α → β}
    (hnext : ∀ a log, ((next a).run.run log).1 = .ok (f a)) :
    (resolution >>= next).result = resolution.result.map f := by
  simp only [result, outcome, run_bind]
  rcases h : resolution.run.run {} with ⟨_ | a, log⟩
  · rfl
  · exact hnext a log

end Resolution

namespace Resolver

open Resolution

theorem result_finish (node : Schema) (resolution : Resolution TypeExpr) :
    (resolution >>= finish node).result = resolution.result := by
  rw [result_bind_of_ok resolution (f := id) fun a log => rfl]
  cases resolution.result <;> rfl

variable (r : Resolver)

theorem result_declare (node : Schema) (raw : String) (kind : DeclKind) :
    (r.declare node raw kind).result =
      match r.naming raw with
      | .error source => .error (.unusableName node.kind source)
      | .ok name =>
        if Text.blank (r.placement node) then .error (.emptyPackage name)
        else .ok (.named ⟨r.placement node, name, kind⟩) := by
  rw [declare]
  cases r.naming raw with
  | error source => rfl
  | ok name =>
    simp only [result, outcome, run_bind, run_place]
    split <;> rfl

theorem result_declare_eq_ok_iff {node : Schema} {raw : String} {kind : DeclKind} {t : TypeExpr} :
    (r.declare node raw kind).result = .ok t ↔
      ∃ name, r.naming raw = .ok name ∧ Text.blank (r.placement node) = false ∧
        t = .named ⟨r.placement node, name, kind⟩ := by
  rw [result_declare]
  cases r.naming raw with
  | error source => simp
  | ok name => cases Text.blank (r.placement node) <;> simp [eq_comm]

theorem result_declare_eq_error_iff {node : Schema} {raw : String} {kind : DeclKind}
    {e : ResolveError} :
    (r.declare node raw kind).result = .error e ↔
      (∃ source, r.naming raw = .error source ∧ e = .unusableName node.kind source) ∨
        ∃ name, r.naming raw = .ok name ∧ Text.blank (r.placement node) = true ∧
          e = .emptyPackage name := by
  rw [result_declare]
  cases r.naming raw with
  | error source =>
    constructor
    · intro h
      cases h
      exact Or.inl ⟨source, rfl, rfl⟩
    · rintro (⟨source', h, rfl⟩ | ⟨name, h, -⟩) <;> cases h
      rfl
  | ok name => cases Text.blank (r.placement node) <;> simp [eq_comm]

@[simp] theorem result_resolve_array (items : Schema) :
    (r.resolve (.array items)).result = (r.resolve items).result.map .sequence := by
  rw [resolve, result_bind_of_ok]
  exact fun a log => rfl

theorem result_resolve_of_declares {s : Schema} {raw : String} {kind : DeclKind}
    (h : s.Declares raw kind) : (r.resolve s).result = (r.declare s raw kind).result := by
  cases h with
  | object hint => rw [resolve, result_finish]
  | enumeration hint hname hvalues =>
    have hplain := isPlainString_eq_false_iff.mpr ⟨hname, _, rfl, hvalues⟩
    simp only [resolve, hplain, Bool.false_eq_true, if_false]
    exact result_finish _ _

theorem result_resolve_of_not_declares {s : Schema} (harray : s.kind ≠ .array)
    (h : ¬∃ raw kind, s.Declares raw kind) :
    ∃ b, s.kind.builtin? r.numbers = some b ∧ (r.resolve s).result = .ok (.builtin b) := by
  cases s with
  | array items => exact absurd rfl harray
  | object name hint => exact absurd ⟨name, _, .object name hint⟩ h
  | string name values hint =>
    have hplain : isPlainString name values = true := by
      rw [← Bool.not_eq_false]
      intro hplain
      obtain ⟨hname, vs, rfl, hvs⟩ := isPlainString_eq_false_iff.mp hplain
      exact h ⟨name, _, .enumeration hint hname hvs⟩
    refine ⟨.string, rfl, ?_⟩
    simp only [resolve, hplain]
    rfl
  | number =>
    refine ⟨r.numberType, ?_, rfl⟩
    simp only [Schema.kind, Schema.Kind.builtin?, numberType]
    cases r.numbers <;> rfl
  | _ => exact ⟨_, rfl, rfl⟩

end Resolver
end SchemaBinding
