import SchemaBinding.Schema.Json
import SchemaBinding.Proofs.Json.Holds

/-! Schema types as values. Main statements: a schema type is decoded from the value that it is
written as, the only nulls in that value are enum values, and options that are not there leave no
member behind. -/
namespace SchemaBinding
namespace Schema

open Json

def enumValues : Schema → Option (List (Option String))
  | string _ values _ => values
  | _ => none

def fields : Schema → List (String × Json)
  | array items => [("items", items.toJson)]
  | object name hint =>
    ("name", .string name) :: (hint.map fun h => ("package_hint", .string h)).toList
  | string name values hint =>
    ("name", .string name) :: ((values.map fun vs => ("enum_values", ofStrings vs)).toList ++
      (hint.map fun h => ("package_hint", .string h)).toList)
  | _ => []

theorem toJson_eq (s : Schema) :
    s.toJson = .object (("type", .string s.kind.literal) :: s.fields) := by
  cases s with
  | object name hint => cases hint <;> rfl
  | string name values hint => cases values <;> cases hint <;> rfl
  | _ => rfl

theorem mem_fields_iff {s : Schema} (hs : s.kind ≠ .array) {name : String} {v : Json} :
    (name, v) ∈ s.fields ↔
      (name = "name" ∧ ∃ raw, s.declaredName = some raw ∧ v = .string raw) ∨
        (name = "enum_values" ∧ ∃ values, s.enumValues = some values ∧ v = ofStrings values) ∨
          (name = "package_hint" ∧ ∃ hint, s.packageHint = some hint ∧ v = .string hint) := by
  cases s with
  | array items => exact absurd rfl hs
  | object raw hint => cases hint <;> simp [fields, declaredName, enumValues, packageHint]
  | string raw values hint =>
    cases values <;> cases hint <;> simp [fields, declaredName, enumValues, packageHint]
  | _ => simp [fields, declaredName, enumValues, packageHint]

theorem asEnumValues_ofStrings (values : List (Option String)) :
    asEnumValues (ofStrings values) = .ok (some values) := by
  have hentry : ∀ entry : Option String, asOption asText (ofOption entry) = .ok entry := by
    intro entry
    cases entry <;> rfl
  show some <$> (values.map ofOption).mapM (asOption asText) = _
  rw [mapM_map_write hentry]
  rfl

/-- A decoder of kinds that knows them by their literals, whatever else it may know them by. -/
def KnowsLiterals (kindOf : Json → Except Fault Kind) : Prop :=
  ∀ kind : Kind, kindOf (.string kind.literal) = .ok kind

theorem knowsLiterals_kindNamed : KnowsLiterals kindNamed := by
  intro kind
  show (variantNamed (Labelled.label kind) : Except Fault Kind) = _
  rw [variantNamed, Labelled.ofLabel?_label]
  rfl

theorem knowsLiterals_kindNumbered : KnowsLiterals kindNumbered := knowsLiterals_kindNamed

variable {kindOf : Json → Except Fault Kind}

theorem kindAmong_cons {kind : Kind} (hkind : kindOf (.string kind.literal) = .ok kind)
    {ms : List (String × Json)} (hms : ∀ m ∈ ms, m.1 ≠ "type") :
    kindAmong kindOf (("type", .string kind.literal) :: ms) = .ok kind := by
  have hrest : ∀ found : Option Kind, ms.foldlM (fun kind (m : String × Json) =>
      if m.1 == "type" then once "type" kind (kindOf m.2) else pure kind) found = .ok found := by
    intro found
    induction ms with
    | nil => rfl
    | cons m ms ih =>
      obtain ⟨hm, hms⟩ := List.forall_mem_cons.mp hms
      rw [List.foldlM_cons, if_neg (by simpa using hm)]
      exact ih hms
  rw [kindAmong, List.foldlM_cons]
  simp only [beq_self_eq_true, if_true, hkind]
  show (ms.foldlM _ (some kind) >>= required "type") = _
  rw [hrest]
  rfl

theorem ne_type_of_mem_fields {s : Schema} {m : String × Json} (h : m ∈ s.fields) :
    m.1 ≠ "type" := by
  by_cases hs : s.kind = .array
  · cases s <;> simp_all [fields, kind]
  · rcases (mem_fields_iff hs).mp h with ⟨hname, -⟩ | ⟨hname, -⟩ | ⟨hname, -⟩ <;> simp [hname]

theorem kindAmong_toJson (hkind : KnowsLiterals kindOf) (s : Schema) :
    kindAmong kindOf (("type", .string s.kind.literal) :: s.fields) = .ok s.kind :=
  kindAmong_cons (hkind s.kind) fun _ => ne_type_of_mem_fields

theorem decode_toJson (hkind : KnowsLiterals kindOf) (s : Schema) :
    decode kindOf s.toJson = .ok s := by
  induction s generalizing kindOf with
  | array items ih =>
    have hitems := ih knowsLiterals_kindNumbered
    rw [toJson_eq, decode, kindAmong_toJson hkind]
    simp only [fields, itemsAmong, beq_self_eq_true, if_true, hitems]
    rfl
  | object name hint =>
    rw [toJson_eq, decode, kindAmong_toJson hkind]
    cases hint <;> rfl
  | string name values hint =>
    rw [toJson_eq, decode, kindAmong_toJson hkind]
    cases values with
    | none => cases hint <;> rfl
    | some values =>
      have hvalues := asEnumValues_ofStrings values
      cases hint <;> simp [fields, ofMembers, Draft.member, hvalues] <;> rfl
  | _ =>
    rw [toJson_eq, decode, kindAmong_toJson hkind]
    rfl

theorem ofJson_toJson (s : Schema) : ofJson s.toJson = .ok s :=
  decode_toJson knowsLiterals_kindNamed s

/-- The path to what is inside of all arrays. -/
def itemsPath (s : Schema) : List Step := List.replicate s.arrayDepth (.member "items")

theorem holds_ofStrings_iff {values : List (Option String)} {path : List Step} {w : Json} :
    (ofStrings values).Holds path w ↔
      (path = [] ∧ w = ofStrings values) ∨
        ∃ i entry, path = [.element i] ∧ values[i]? = some entry ∧ w = ofOption entry := by
  have hentry : ∀ (entry : Option String) (rest : List Step),
      (ofOption entry).Holds rest w ↔ rest = [] ∧ w = ofOption entry := by
    intro entry rest
    cases entry <;> simp [ofOption]
  rw [ofStrings, holds_array_iff]
  apply or_congr_right
  constructor
  · rintro ⟨i, v, rest, rfl, hitem, h⟩
    rw [List.getElem?_map, Option.map_eq_some_iff] at hitem
    obtain ⟨entry, hitem, rfl⟩ := hitem
    obtain ⟨rfl, rfl⟩ := (hentry entry rest).mp h
    exact ⟨i, entry, rfl, hitem, rfl⟩
  · rintro ⟨i, entry, rfl, hitem, rfl⟩
    exact ⟨i, ofOption entry, [], rfl, by simp [hitem], .here _⟩

theorem holds_array_toJson_iff {items : Schema} {path : List Step} {w : Json} :
    (array items).toJson.Holds path w ↔
      (path = [] ∧ w = (array items).toJson) ∨
        (path = [.member "type"] ∧ w = .string Kind.array.literal) ∨
          ∃ rest, path = .member "items" :: rest ∧ items.toJson.Holds rest w := by
  rw [toJson, holds_object_iff]
  apply or_congr_right
  constructor
  · rintro ⟨name, v, rest, rfl, hmember, h⟩
    simp only [List.mem_cons, Prod.mk.injEq, List.not_mem_nil, or_false] at hmember
    rcases hmember with ⟨rfl, rfl⟩ | ⟨rfl, rfl⟩
    · exact Or.inl (by simpa using h)
    · exact Or.inr ⟨rest, rfl, h⟩
  · rintro (⟨rfl, rfl⟩ | ⟨rest, rfl, h⟩)
    · exact ⟨"type", _, [], rfl, by simp, .here _⟩
    · exact ⟨"items", _, rest, rfl, by simp, h⟩

/-- On the way through the arrays there are objects and kinds, and then comes what is inside. -/
theorem holds_innermost_or_way {s : Schema} {path : List Step} {w : Json}
    (h : s.toJson.Holds path w) :
    (∃ rest, path = s.itemsPath ++ rest ∧ s.innermost.toJson.Holds rest w) ∨
      (w ≠ .null ∧ ∀ step ∈ path, step = .member "items" ∨ step = .member "type") := by
  induction s generalizing path with
  | array items ih =>
    rcases holds_array_toJson_iff.mp h with ⟨rfl, rfl⟩ | ⟨rfl, rfl⟩ | ⟨rest, rfl, hitems⟩
    · exact Or.inr (by simp [toJson])
    · exact Or.inr (by simp)
    · rcases ih hitems with ⟨rest, rfl, hin⟩ | ⟨hw, hsteps⟩
      · exact Or.inl ⟨rest, rfl, hin⟩
      · exact Or.inr ⟨hw, by simpa using hsteps⟩
  | _ => exact Or.inl ⟨path, rfl, h⟩

theorem holds_itemsPath_append {s : Schema} {rest : List Step} {w : Json}
    (h : s.innermost.toJson.Holds rest w) : s.toJson.Holds (s.itemsPath ++ rest) w := by
  induction s with
  | array items ih => exact holds_array_toJson_iff.mpr (Or.inr (Or.inr ⟨_, rfl, ih h⟩))
  | _ => exact h

/-- What a schema type without items holds: itself, its kind, its fields and its enum values. -/
theorem holds_toJson_iff {s : Schema} (hs : s.kind ≠ .array) {path : List Step} {w : Json} :
    s.toJson.Holds path w ↔
      (path = [] ∧ w = s.toJson) ∨ (path = [.member "type"] ∧ w = .string s.kind.literal) ∨
        (∃ name, path = [.member name] ∧ (name, w) ∈ s.fields) ∨
          ∃ values i entry, s.enumValues = some values ∧ values[i]? = some entry ∧
            path = [.member "enum_values", .element i] ∧ w = ofOption entry := by
  rw [toJson_eq, holds_object_iff]
  apply or_congr_right
  constructor
  · rintro ⟨name, v, rest, rfl, hmember, h⟩
    rcases List.mem_cons.mp hmember with hkind | hfield
    · cases hkind
      exact Or.inl (by simpa using h)
    · rcases (mem_fields_iff hs).mp hfield with
        ⟨-, raw, -, rfl⟩ | ⟨rfl, values, hvalues, rfl⟩ | ⟨-, hint, -, rfl⟩
      · obtain ⟨rfl, rfl⟩ := holds_string_iff.mp h
        exact Or.inr (Or.inl ⟨name, rfl, hfield⟩)
      · rcases holds_ofStrings_iff.mp h with ⟨rfl, rfl⟩ | ⟨i, entry, rfl, hitem, rfl⟩
        · exact Or.inr (Or.inl ⟨_, rfl, hfield⟩)
        · exact Or.inr (Or.inr ⟨values, i, entry, hvalues, hitem, rfl, rfl⟩)
      · obtain ⟨rfl, rfl⟩ := holds_string_iff.mp h
        exact Or.inr (Or.inl ⟨name, rfl, hfield⟩)
  · rintro (⟨rfl, rfl⟩ | ⟨name, rfl, hfield⟩ | ⟨values, i, entry, hvalues, hitem, rfl, rfl⟩)
    · exact ⟨"type", _, [], rfl, by simp, .here _⟩
    · exact ⟨name, w, [], rfl, List.mem_cons_of_mem _ hfield, .here _⟩
    · have hfield := (mem_fields_iff hs).mpr (Or.inr (Or.inl ⟨rfl, values, hvalues, rfl⟩))
      have hentry := holds_ofStrings_iff.mpr (Or.inr ⟨i, entry, rfl, hitem, rfl⟩)
      exact ⟨"enum_values", _, [.element i], rfl, List.mem_cons_of_mem _ hfield, hentry⟩

/-- Null stands for an enum value that is not there, and for nothing else. -/
theorem holds_null_toJson_iff {s : Schema} {path : List Step} :
    s.toJson.Holds path .null ↔
      ∃ values i, s.innermost.enumValues = some values ∧ values[i]? = some none ∧
        path = s.itemsPath ++ [.member "enum_values", .element i] := by
  have hs := s.kind_innermost_ne_array
  constructor
  · intro h
    rcases holds_innermost_or_way h with ⟨rest, rfl, hin⟩ | ⟨hw, -⟩
    · rcases (holds_toJson_iff hs).mp hin with
        ⟨-, hroot⟩ | ⟨-, hkind⟩ | ⟨name, -, hfield⟩ | ⟨values, i, entry, hvalues, hitem, rfl, hentry⟩
      · rw [toJson_eq] at hroot
        cases hroot
      · cases hkind
      · rcases (mem_fields_iff hs).mp hfield with ⟨-, _, -, hv⟩ | ⟨-, _, -, hv⟩ | ⟨-, _, -, hv⟩ <;>
          cases hv
      · cases entry with
        | none => exact ⟨values, i, hvalues, hitem, rfl⟩
        | some value => cases hentry
    · exact absurd rfl hw
  · rintro ⟨values, i, hvalues, hitem, rfl⟩
    refine holds_itemsPath_append ((holds_toJson_iff hs).mpr ?_)
    exact Or.inr (Or.inr (Or.inr ⟨values, i, none, hvalues, hitem, rfl, rfl⟩))

theorem holds_member_toJson_iff {s : Schema} {path : List Step} {name : String} {w : Json}
    (hname : name ≠ "items" ∧ name ≠ "type") :
    s.toJson.Holds (path ++ [.member name]) w ↔
      path = s.itemsPath ∧ (name, w) ∈ s.innermost.fields := by
  have hs := s.kind_innermost_ne_array
  constructor
  · intro h
    rcases holds_innermost_or_way h with ⟨rest, hrest, hin⟩ | ⟨-, hsteps⟩
    · rcases (holds_toJson_iff hs).mp hin with
        ⟨rfl, -⟩ | ⟨rfl, -⟩ | ⟨other, rfl, hfield⟩ | ⟨values, i, entry, -, -, rfl, -⟩
      · have hmem : Step.member name ∈ s.itemsPath := by
          rw [List.append_nil] at hrest
          simp [← hrest]
        have hitems := List.eq_of_mem_replicate hmem
        simp [hname.1] at hitems
      · have hlast := (List.append_inj' hrest rfl).2
        simp [hname.2] at hlast
      · obtain ⟨hpath, hlast⟩ := List.append_inj' hrest rfl
        cases hlast
        exact ⟨hpath, hfield⟩
      · have hlast := congrArg List.getLast? hrest
        simp at hlast
    · have hlast := hsteps (.member name) (by simp)
      simp [hname] at hlast
  · rintro ⟨rfl, hfield⟩
    refine holds_itemsPath_append ((holds_toJson_iff hs).mpr ?_)
    exact Or.inr (Or.inr (Or.inl ⟨name, rfl, hfield⟩))

theorem holds_packageHint_toJson_iff {s : Schema} {path : List Step} {w : Json} :
    s.toJson.Holds (path ++ [.member "package_hint"]) w ↔
      path = s.itemsPath ∧ ∃ hint, s.innermost.packageHint = some hint ∧ w = .string hint := by
  rw [holds_member_toJson_iff (by decide), mem_fields_iff s.kind_innermost_ne_array]
  simp

theorem holds_enumValues_toJson_iff {s : Schema} {path : List Step} {w : Json} :
    s.toJson.Holds (path ++ [.member "enum_values"]) w ↔
      path = s.itemsPath ∧
        ∃ values, s.innermost.enumValues = some values ∧ w = ofStrings values := by
  rw [holds_member_toJson_iff (by decide), mem_fields_iff s.kind_innermost_ne_array]
  simp

end Schema
end SchemaBinding
