import SchemaBinding.Proofs.Naming.TypeName
import SchemaBinding.Text.Scripts

/-! The letters of type names. Main statement: a type name is a capital with letters and digits behind
it, and holds the letters and digits of the declared name in their order, each in upper or lower case,
with a `T` in front if the first one is a digit. -/
namespace SchemaBinding
namespace Naming

open Text

theorem map_toLower_capitalizeFirst (cs : List Char) :
    (capitalizeFirst cs).map Char.toLower = cs.map Char.toLower := by
  cases cs with
  | nil => rfl
  | cons c cs => simp [capitalizeFirst]

theorem map_toLower_typeWords (cs : List Char) :
    (typeWords cs).map Char.toLower = (cs.filter Char.isAlphanum).map Char.toLower := by
  rw [typeWords]
  split
  · exact map_toLower_capitalizeFirst _
  · rw [← filter_map_toLower, map_toLower_capitalizeWords, filter_map_toLower]

section

variable [Transliteration]

def letters (raw : String) : List Char := (transliterate raw.toList).filter Char.isAlphanum

/-- A name without letters and digits is refused as it was declared. Any other becomes an identifier
that holds its letters and digits. -/
theorem typeName_letters (raw : String) :
    (∀ e, typeName raw = .error e ↔ ¬Usable raw ∧ e = .empty raw) ∧
      (Usable raw → ∃ name body, typeName raw = .ok name ∧ IsTypeName name ∧
        name.toList = digitMark (letters raw) ++ body ∧
        body.map Char.toLower = (letters raw).map Char.toLower) := by
  refine ⟨fun e => typeName_eq_error_iff, fun h => ?_⟩
  have hname := typeName_of_usable h
  refine ⟨_, typeWords (transliterate raw.toList), hname, isTypeName_of_typeName hname, ?_, ?_⟩
  · rw [String.toList_ofList, digitMark_typeWords, letters]
  · exact map_toLower_typeWords _

end

attribute [local instance] Transliteration.byScript

theorem typeName_letters_digit :
    Usable "3-größe" ∧ ∃ body, typeName "3-größe" = .ok "T3Grosse" ∧ IsTypeName "T3Grosse" ∧
      "T3Grosse".toList = 'T' :: body ∧ body.map Char.toLower = "3grosse".toList := by
  have husable : Usable "3-größe" := ⟨'3', by decide +kernel, by decide⟩
  have hletters : letters "3-größe" = "3grosse".toList := by decide +kernel
  have hresult : typeName "3-größe" = .ok "T3Grosse" := by cbv
  obtain ⟨name, body, hname, htype, hbody, hlower⟩ := (typeName_letters "3-größe").2 husable
  rw [hresult] at hname
  cases hname
  rw [hletters] at hbody hlower
  exact ⟨husable, body, hresult, htype, hbody, hlower⟩

end Naming
end SchemaBinding
