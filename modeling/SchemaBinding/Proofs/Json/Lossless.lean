import SchemaBinding.Http.Operation
import SchemaBinding.Proofs.Json.Written
import SchemaBinding.Proofs.Schema.RoundTrip
import SchemaBinding.TypeExpr.Json

/-! What is written as a value is decoded again. Main statement: schema types, type references and
operations are all written without loss, null is nothing but an enum value that is not there, and
options that are not there are left out. -/
namespace SchemaBinding

open Json

theorem Declared.ofJson_toJson (d : Declared) : ofJson d.toJson = .ok d := by
  have hkind : (Json.string d.kind.literal).asLabel = .ok d.kind := asLabel_label d.kind
  simp only [toJson, ofJson, List.foldlM_cons, List.foldlM_nil, Draft.member, hkind]
  rfl

namespace TypeExpr

theorem variantNamed_literal (variant : Variant) :
    (variantNamed variant.literal : Except Fault Variant) = .ok variant := by
  show variantNamed (Labelled.label variant) = _
  rw [variantNamed, Labelled.ofLabel?_label]
  rfl

theorem ofJson_toJson (t : TypeExpr) : ofJson t.toJson = .ok t := by
  induction t with
  | builtin b =>
    have hb : (Json.string b.literal).asLabel = .ok b := asLabel_label b
    rw [toJson, ofJson, variantNamed_literal]
    show builtin <$> (Json.string b.literal).asLabel = _
    rw [hb]
    rfl
  | sequence item ih =>
    rw [toJson, ofJson, variantNamed_literal]
    show sequence <$> ofJson item.toJson = _
    rw [ih]
    rfl
  | named d =>
    rw [toJson, ofJson, variantNamed_literal]
    show named <$> Declared.ofJson d.toJson = _
    rw [d.ofJson_toJson]
    rfl

end TypeExpr

namespace Operation

def fields (o : Operation) : List (String × Json) :=
  ("verb", .string o.verb.jsonName) :: ("path", .string o.path) ::
    (o.operationId.map fun id => ("operation_id", .string id)).toList

theorem toJson_eq (o : Operation) : o.toJson = .object o.fields := by
  cases hid : o.operationId <;> simp [toJson, fields, ofMembers, hid]

theorem ofJson_toJson (o : Operation) : ofJson o.toJson = .ok o := by
  have hverb : (Json.string o.verb.jsonName).asLabel = .ok o.verb := asLabel_label o.verb
  obtain ⟨verb, path, id⟩ := o
  rw [toJson_eq]
  cases id <;> simp [fields, ofJson, Draft.member, hverb] <;> rfl

theorem mem_fields_iff {o : Operation} {name : String} {v : Json} :
    (name, v) ∈ o.fields ↔
      (name = "verb" ∧ v = .string o.verb.jsonName) ∨ (name = "path" ∧ v = .string o.path) ∨
        (name = "operation_id" ∧ ∃ id, o.operationId = some id ∧ v = .string id) := by
  cases hid : o.operationId <;> simp [fields, hid]

theorem holds_toJson_iff {o : Operation} {path : List Step} {w : Json} :
    o.toJson.Holds path w ↔
      (path = [] ∧ w = o.toJson) ∨ ∃ name, path = [.member name] ∧ (name, w) ∈ o.fields := by
  rw [toJson_eq, holds_object_iff]
  apply or_congr_right
  constructor
  · rintro ⟨name, v, rest, rfl, hfield, h⟩
    have hstring : ∃ s, v = .string s := by
      rcases mem_fields_iff.mp hfield with ⟨-, rfl⟩ | ⟨-, rfl⟩ | ⟨-, id, -, rfl⟩ <;> exact ⟨_, rfl⟩
    obtain ⟨s, rfl⟩ := hstring
    obtain ⟨rfl, rfl⟩ := holds_string_iff.mp h
    exact ⟨name, rfl, hfield⟩
  · rintro ⟨name, rfl, hfield⟩
    exact ⟨name, w, [], rfl, hfield, .here w⟩

theorem not_holds_null_toJson (o : Operation) (path : List Step) : ¬o.toJson.Holds path .null := by
  intro h
  rcases holds_toJson_iff.mp h with ⟨-, hroot⟩ | ⟨name, -, hfield⟩
  · rw [toJson_eq] at hroot
    cases hroot
  · rcases mem_fields_iff.mp hfield with ⟨-, hv⟩ | ⟨-, hv⟩ | ⟨-, _, -, hv⟩ <;> cases hv

theorem holds_operationId_toJson_iff {o : Operation} {path : List Step} {w : Json} :
    o.toJson.Holds (path ++ [.member "operation_id"]) w ↔
      path = [] ∧ ∃ id, o.operationId = some id ∧ w = .string id := by
  rw [holds_toJson_iff]
  constructor
  · rintro (⟨hpath, -⟩ | ⟨name, hpath, hfield⟩)
    · simp at hpath
    · rw [← List.nil_append [Step.member name]] at hpath
      obtain ⟨rfl, hname⟩ := List.append_inj' hpath rfl
      cases hname
      exact ⟨rfl, by simpa using mem_fields_iff.mp hfield⟩
  · rintro ⟨rfl, hid⟩
    exact Or.inr ⟨"operation_id", rfl, mem_fields_iff.mpr (Or.inr (Or.inr ⟨rfl, hid⟩))⟩

end Operation

/-- What is decoded from a written value is what was written, and what is not there is left out
instead of being null. -/
theorem Json.lossless_written_values :
    Lossless Schema.toJson Schema.ofJson ∧ Lossless TypeExpr.toJson TypeExpr.ofJson ∧
      Lossless Operation.toJson Operation.ofJson ∧
      (∀ (s : Schema) (path : List Step), s.toJson.Holds path .null ↔
        ∃ values i, s.innermost.enumValues = some values ∧ values[i]? = some none ∧
          path = s.itemsPath ++ [.member "enum_values", .element i]) ∧
      (∀ (o : Operation) (path : List Step), ¬o.toJson.Holds path .null) ∧
      (∀ (s : Schema) (path : List Step) (v : Json),
        s.toJson.Holds (path ++ [.member "enum_values"]) v ↔
          path = s.itemsPath ∧
            ∃ values, s.innermost.enumValues = some values ∧ v = Schema.ofStrings values) ∧
      (∀ (s : Schema) (path : List Step) (v : Json),
        s.toJson.Holds (path ++ [.member "package_hint"]) v ↔
          path = s.itemsPath ∧ ∃ hint, s.innermost.packageHint = some hint ∧ v = .string hint) ∧
      ∀ (o : Operation) (path : List Step) (v : Json),
        o.toJson.Holds (path ++ [.member "operation_id"]) v ↔
          path = [] ∧ ∃ id, o.operationId = some id ∧ v = .string id := by
  have hschema := lossless_of_decode_write Schema.ofJson_toJson
  have htype := lossless_of_decode_write TypeExpr.ofJson_toJson
  have hoperation := lossless_of_decode_write Operation.ofJson_toJson
  refine ⟨hschema, htype, hoperation, ?_, Operation.not_holds_null_toJson, ?_, ?_, ?_⟩
  · exact fun _ _ => Schema.holds_null_toJson_iff
  · exact fun _ _ _ => Schema.holds_enumValues_toJson_iff
  · exact fun _ _ _ => Schema.holds_packageHint_toJson_iff
  · exact fun _ _ _ => Operation.holds_operationId_toJson_iff

end SchemaBinding
