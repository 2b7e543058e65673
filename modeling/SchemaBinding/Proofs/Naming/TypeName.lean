import SchemaBinding.Naming.TypeName
import SchemaBinding.Proofs.Text.Capitalized

/-! Type names. Main statements: a declared name is usable if its transliteration has a letter or a
digit, and its type name then is a capital with letters and digits behind it. -/
namespace SchemaBinding
namespace Naming

open Text

theorem isSeparator_spec {c : Char} (hc : isSeparator c = true) :
    c.isAlphanum = false ∧ isAscii c = true := by
  simp only [isSeparator, Bool.or_eq_true, beq_iff_eq] at hc
  rcases hc with ((rfl | rfl) | rfl) | rfl <;> decide

theorem head?_typeWords (cs : List Char) :
    (typeWords cs).head? = (cs.filter Char.isAlphanum).head?.map Char.toUpper := by
  unfold typeWords
  split
  · cases cs.filter Char.isAlphanum <;> rfl
  · exact head?_filter_capitalizeWords cs

theorem isAlphanum_of_mem_typeWords {cs : List Char} {c : Char} (h : c ∈ typeWords cs) :
    c.isAlphanum = true := by
  unfold typeWords at h
  split at h
  · cases hcs : cs.filter Char.isAlphanum with
    | nil => simp [hcs, capitalizeFirst] at h
    | cons d ds =>
      have hall : ∀ e ∈ d :: ds, e.isAlphanum = true := by
        intro e he
        rw [← hcs] at he
        exact (List.mem_filter.mp he).2
      rw [hcs, capitalizeFirst] at h
      rcases List.mem_cons.mp h with rfl | h
      · simpa using hall d (by simp)
      · exact hall c (by simp [h])
  · exact (List.mem_filter.mp h).2

theorem isUpper_or_isDigit_of_typeWords {c : Char} {cs ds : List Char}
    (h : typeWords cs = c :: ds) : c.isUpper = true ∨ c.isDigit = true := by
  have hmem : c ∈ typeWords cs := by simp [h]
  have halnum := isAlphanum_of_mem_typeWords hmem
  have hhead := head?_typeWords cs
  rw [h, List.head?_cons, eq_comm, Option.map_eq_some_iff] at hhead
  obtain ⟨d, -, rfl⟩ := hhead
  rw [isAlphanum_eq, Bool.or_eq_true] at halnum
  simpa using halnum

theorem typeWords_eq_nil_iff {cs : List Char} :
    typeWords cs = [] ↔ ∀ c ∈ cs, c.isAlphanum = false := by
  rw [← List.head?_eq_none_iff, head?_typeWords]
  simp

/-- What stands in front of the words of a type name: an identifier begins with no digit. -/
def digitMark (words : List Char) : List Char :=
  if words.head?.any Char.isDigit then ['T'] else []

theorem digitMark_typeWords (cs : List Char) :
    digitMark (typeWords cs) = digitMark (cs.filter Char.isAlphanum) := by
  have hdigit : (typeWords cs).head?.any Char.isDigit =
      (cs.filter Char.isAlphanum).head?.any Char.isDigit := by
    rw [head?_typeWords, Option.any_map]
    congr 1
    funext c
    exact isDigit_toUpper c
  rw [digitMark, digitMark, hdigit]

/-- A capital with letters and digits behind it. -/
def IsTypeName (name : String) : Prop :=
  ∃ c cs, name.toList = c :: cs ∧ c.isUpper = true ∧ ∀ d ∈ cs, d.isAlphanum = true

theorem IsTypeName.isAlphanum {name : String} (h : IsTypeName name) {c : Char}
    (hc : c ∈ name.toList) : c.isAlphanum = true := by
  obtain ⟨d, ds, hname, hd, hds⟩ := h
  rw [hname] at hc
  rcases List.mem_cons.mp hc with rfl | hc
  · simp [isAlphanum_eq, Char.isAlpha, hd]
  · exact hds c hc

variable [Transliteration]

def Usable (raw : String) : Prop := ∃ c ∈ transliterate raw.toList, c.isAlphanum = true

theorem typeWords_eq_nil_iff_not_usable {raw : String} :
    typeWords (transliterate raw.toList) = [] ↔ ¬Usable raw := by
  simp [typeWords_eq_nil_iff, Usable]

theorem typeName_eq_error_iff {raw : String} {e : NameError} :
    typeName raw = .error e ↔ ¬Usable raw ∧ e = .empty raw := by
  rw [← typeWords_eq_nil_iff_not_usable, typeName]
  cases typeWords (transliterate raw.toList) with
  | nil =>
    constructor
    · intro h
      cases h
      exact ⟨rfl, rfl⟩
    · rintro ⟨-, rfl⟩
      rfl
  | cons c cs => simp

theorem exists_typeName_iff {raw : String} : (∃ name, typeName raw = .ok name) ↔ Usable raw := by
  rw [← not_iff_not, ← typeWords_eq_nil_iff_not_usable, typeName]
  cases typeWords (transliterate raw.toList) <;> simp

theorem typeName_of_usable {raw : String} (h : Usable raw) :
    typeName raw = .ok (String.ofList
      (digitMark (typeWords (transliterate raw.toList)) ++
        typeWords (transliterate raw.toList))) := by
  have hne : typeWords (transliterate raw.toList) ≠ [] :=
    fun hnil => typeWords_eq_nil_iff_not_usable.mp hnil h
  obtain ⟨c, cs, hwords⟩ := List.exists_cons_of_ne_nil hne
  rw [typeName, hwords]
  by_cases hc : c.isDigit = true <;> simp [digitMark, hc]

theorem isTypeName_of_typeName {raw name : String} (h : typeName raw = .ok name) :
    IsTypeName name := by
  have husable := exists_typeName_iff.mp ⟨name, h⟩
  rw [typeName_of_usable husable, Except.ok.injEq] at h
  subst h
  have hall : ∀ c ∈ typeWords (transliterate raw.toList), c.isAlphanum = true :=
    fun _ => isAlphanum_of_mem_typeWords
  cases hwords : typeWords (transliterate raw.toList) with
  | nil => exact absurd husable (typeWords_eq_nil_iff_not_usable.mp hwords)
  | cons c cs =>
    rw [hwords] at hall
    by_cases hdigit : c.isDigit = true
    · exact ⟨'T', c :: cs, by simp [digitMark, hdigit], by decide, hall⟩
    · have hupper := (isUpper_or_isDigit_of_typeWords hwords).resolve_right hdigit
      exact ⟨c, cs, by simp [digitMark, hdigit], hupper, fun d hd => hall d (by simp [hd])⟩

end Naming
end SchemaBinding
