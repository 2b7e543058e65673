import SchemaBinding.Text.Ascii
import SchemaBinding.Text.Blank

/-! Transliteration to ASCII, character by character, by any spelling that leaves ASCII alone and
writes no letter or digit for white space. -/
namespace SchemaBinding
namespace Text

/-- How each character is spelled in ASCII. A character without a spelling is dropped. -/
class Transliteration where
  spell : Char → List Char
  spell_of_isAscii : ∀ c, isAscii c = true → spell c = [c]
  not_isAlphanum_of_isBlank : ∀ c, isBlank c = true → ∀ d ∈ spell c, d.isAlphanum = false

variable [Transliteration] {cs : List Char}

def transliterate (cs : List Char) : List Char := cs.flatMap Transliteration.spell

@[simp] theorem transliterate_nil : transliterate [] = [] := rfl

@[simp] theorem transliterate_append (cs ds : List Char) :
    transliterate (cs ++ ds) = transliterate cs ++ transliterate ds := by
  simp [transliterate]

theorem transliterate_eq_self (h : ∀ c ∈ cs, isAscii c = true) : transliterate cs = cs := by
  induction cs with
  | nil => rfl
  | cons c cs ih =>
    have hc := Transliteration.spell_of_isAscii c (h c (by simp))
    have ih := ih fun d hd => h d (by simp [hd])
    simp only [transliterate] at ih
    simp [transliterate, hc, ih]

theorem not_isAlphanum_of_mem_transliterate (h : ∀ c ∈ cs, isBlank c = true) :
    ∀ d ∈ transliterate cs, d.isAlphanum = false := by
  intro d hd
  obtain ⟨c, hc, hd⟩ := List.mem_flatMap.mp hd
  exact Transliteration.not_isAlphanum_of_isBlank c (h c hc) d hd

end Text
end SchemaBinding
