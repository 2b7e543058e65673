import SchemaBinding.Json.Decode

/-! Where a value holds what. Main statements: a list or an object holds itself and what its elements
or members hold, and nothing stands inside of a string or of null. Beside it stands what it means
that values are written without loss: every one is decoded from what it is written as. -/
namespace SchemaBinding
namespace Json

inductive Step
  | element (i : Nat)
  | member (name : String)
  deriving DecidableEq

/-- What a value holds at the end of a path. Members may repeat a name. -/
inductive Holds : Json → List Step → Json → Prop
  | here (v : Json) : Holds v [] v
  | element {items : List Json} {i : Nat} {path : List Step} {v w : Json}
      (hitem : items[i]? = some v) (h : Holds v path w) :
      Holds (.array items) (.element i :: path) w
  | member {ms : List (String × Json)} {name : String} {path : List Step} {v w : Json}
      (hmember : (name, v) ∈ ms) (h : Holds v path w) :
      Holds (.object ms) (.member name :: path) w

section

variable {path : List Step} {w : Json}

@[simp] theorem holds_nil_iff {v : Json} : v.Holds [] w ↔ w = v := by
  constructor
  · rintro ⟨⟩
    rfl
  · rintro rfl
    exact .here w

@[simp] theorem holds_null_iff : null.Holds path w ↔ path = [] ∧ w = .null := by
  constructor
  · rintro ⟨⟩
    exact ⟨rfl, rfl⟩
  · rintro ⟨rfl, rfl⟩
    exact .here .null

@[simp] theorem holds_string_iff {s : String} :
    (string s).Holds path w ↔ path = [] ∧ w = .string s := by
  constructor
  · rintro ⟨⟩
    exact ⟨rfl, rfl⟩
  · rintro ⟨rfl, rfl⟩
    exact .here (.string s)

theorem holds_array_iff {items : List Json} :
    (array items).Holds path w ↔
      (path = [] ∧ w = .array items) ∨
        ∃ i v rest, path = .element i :: rest ∧ items[i]? = some v ∧ v.Holds rest w := by
  constructor
  · intro h
    cases h with
    | here => exact Or.inl ⟨rfl, rfl⟩
    | element hitem h => exact Or.inr ⟨_, _, _, rfl, hitem, h⟩
  · rintro (⟨rfl, rfl⟩ | ⟨i, v, rest, rfl, hitem, h⟩)
    · exact .here _
    · exact .element hitem h

theorem holds_object_iff {ms : List (String × Json)} :
    (object ms).Holds path w ↔
      (path = [] ∧ w = .object ms) ∨
        ∃ name v rest, path = .member name :: rest ∧ (name, v) ∈ ms ∧ v.Holds rest w := by
  constructor
  · intro h
    cases h with
    | here => exact Or.inl ⟨rfl, rfl⟩
    | member hmember h => exact Or.inr ⟨_, _, _, rfl, hmember, h⟩
  · rintro (⟨rfl, rfl⟩ | ⟨name, v, rest, rfl, hmember, h⟩)
    · exact .here _
    · exact .member hmember h

end

variable {α : Type}

/-- Every value is decoded from what it is written as, so that decoding and writing again changes
nothing. -/
structure Lossless (write : α → Json) (decode : Json → Except Fault α) : Prop where
  decode_write (a : α) : decode (write a) = .ok a
  stable {v w : Json} (h : write <$> decode v = .ok w) : write <$> decode w = .ok w

theorem lossless_of_decode_write {write : α → Json} {decode : Json → Except Fault α}
    (h : ∀ a, decode (write a) = .ok a) : Lossless write decode where
  decode_write := h
  stable {v w} hw := by
    cases hv : decode v with
    | error fault =>
      rw [hv] at hw
      cases hw
    | ok a =>
      rw [hv] at hw
      cases hw
      rw [h]
      rfl

theorem mapM_map_write {write : α → Json} {decode : Json → Except Fault α}
    (h : ∀ a, decode (write a) = .ok a) (as : List α) : (as.map write).mapM decode = .ok as := by
  induction as with
  | nil => rfl
  | cons a as ih =>
    rw [List.map_cons, List.mapM_cons, h, ih]
    rfl

end Json
end SchemaBinding
