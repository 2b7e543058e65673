import SchemaBinding.Naming.FieldName
import SchemaBinding.Proofs.Text.SnakeWords
import SchemaBinding.Text.Scripts

/-! Field names as identifiers of Rust. Main statement: the field name of a property is an underscore,
a plain identifier or a raw one that Rust accepts, unless the property has no sign and `crate` or
`super` for its only word. -/
namespace SchemaBinding
namespace Naming

open Text

def isSnakeChar (c : Char) : Bool := c.isLower || c.isDigit || c == '_'

/-- `[a-z_][a-z0-9_]*` -/
def isSnakeWord (cs : List Char) : Bool :=
  cs.head?.any (fun c => c.isLower || c == '_') && cs.all isSnakeChar

theorem isSnakeChar_iff {c : Char} :
    isSnakeChar c = true ↔ isIdentChar c = true ∧ c.isUpper = false := by
  cases hupper : c.isUpper with
  | true =>
    have hne : c ≠ '_' := by
      rintro rfl
      exact absurd hupper (by decide)
    have halpha : c.isAlpha = true := by simp [Char.isAlpha, hupper]
    simp [isSnakeChar, isLower_eq_false_of_isUpper hupper, isDigit_eq_false_of_isAlpha halpha, hne]
  | false => simp [isIdentChar, isSnakeChar, isAlphanum_eq, Char.isAlpha, hupper]

/-- The reserved words that stand for a place in a path. Rust takes none of them as a raw
identifier. -/
def pathKeywords : List String := ["crate", "self", "super", "Self"]

/-- The names that a field may have in Rust. -/
inductive IsFieldName : String → Prop
  | underscore : IsFieldName "_"
  | plain {name : String} (hword : isSnakeWord name.toList = true)
      (hkeyword : isKeyword name = false) : IsFieldName name
  | raw {keyword : String} (hkeyword : isKeyword keyword = true) (hpath : keyword ∉ pathKeywords) :
      IsFieldName ("r#" ++ keyword)

theorem isFieldName_raw_iff {keyword : String} :
    IsFieldName ("r#" ++ keyword) ↔ isKeyword keyword = true ∧ keyword ∉ pathKeywords := by
  constructor
  · intro h
    generalize hname : "r#" ++ keyword = name at h
    have hchars := congrArg String.toList hname
    rw [String.toList_append] at hchars
    cases h with
    | underscore => simp at hchars
    | plain hword =>
      have hhash : '#' ∈ name.toList := by simp [← hchars]
      simp only [isSnakeWord, Bool.and_eq_true, List.all_eq_true] at hword
      exact absurd (hword.2 '#' hhash) (by decide)
    | @raw k hkeyword hpath =>
      rw [String.toList_append, List.append_cancel_left_eq, String.toList_inj] at hchars
      rw [hchars]
      exact ⟨hkeyword, hpath⟩
  · rintro ⟨hkeyword, hpath⟩
    exact .raw hkeyword hpath

theorem isKeyword_of_underscore {s : String} (h : '_' ∈ s.toList) : isKeyword s = false := by
  have hnone : keywords.all (fun k => !k.toList.contains '_') = true := by decide +kernel
  rw [isKeyword, List.contains_eq_mem, decide_eq_false_iff_not]
  intro hmem
  have hs := List.all_eq_true.mp hnone s hmem
  simp [h] at hs

theorem isSnakeWord_of_head {cs : List Char} (hne : cs ≠ []) (hcs : ∀ c ∈ cs, isSnakeChar c = true)
    (hdigit : cs.head?.any Char.isDigit = false) : isSnakeWord cs = true := by
  obtain ⟨c, cs, rfl⟩ := List.exists_cons_of_ne_nil hne
  have hc := hcs c (by simp)
  have hhead : c.isLower = true ∨ c = '_' := by
    rw [List.head?_cons, Option.any_some] at hdigit
    simpa [isSnakeChar, hdigit] using hc
  have hall : (c :: cs).all isSnakeChar = true := List.all_eq_true.mpr hcs
  simp [isSnakeWord, hhead, hall]

theorem head?_of_isSnakeWord {cs : List Char} (h : isSnakeWord cs = true) :
    cs.head?.any Char.isDigit = false := by
  rw [isSnakeWord, Bool.and_eq_true, Option.any_eq_true] at h
  obtain ⟨⟨c, hc, hfirst⟩, -⟩ := h
  rw [hc, Option.any_some]
  rw [Bool.or_eq_true, beq_iff_eq] at hfirst
  rcases hfirst with hlower | rfl
  · exact isDigit_eq_false_of_isAlpha (by simp [Char.isAlpha, hlower])
  · decide

theorem isSnakeWord_underscore_cons {cs : List Char} (hcs : ∀ c ∈ cs, isSnakeChar c = true) :
    isSnakeWord ('_' :: cs) = true := by
  refine isSnakeWord_of_head (by simp) ?_ rfl
  exact List.forall_mem_cons.mpr ⟨by decide, hcs⟩

theorem ne_self_of_isSnakeChar {s : String} (hs : ∀ c ∈ s.toList, isSnakeChar c = true) :
    s ≠ "Self" := by
  rintro rfl
  exact absurd (hs 'S' (by decide)) (by decide)

/-- Of the words that stand for a place in a path, `self` gets an underscore; the other two become
raw identifiers like any reserved word, and Rust has none for them. -/
theorem isFieldName_escapeField_iff {s : String} (hne : s.toList ≠ [])
    (hs : ∀ c ∈ s.toList, isSnakeChar c = true) :
    IsFieldName (escapeField s.toList) ↔ s ≠ "crate" ∧ s ≠ "super" := by
  simp only [escapeField, String.ofList_toList, beq_iff_eq]
  by_cases hself : s = "self"
  · subst hself
    have hplain : IsFieldName "self_" := .plain (by decide) (by decide)
    simpa using hplain
  · rw [if_neg hself]
    by_cases hkeyword : isKeyword s = true
    · have hcapital := ne_self_of_isSnakeChar hs
      rw [if_pos hkeyword, isFieldName_raw_iff]
      simp [hkeyword, pathKeywords, hself, hcapital]
    · have hplain : s ≠ "crate" ∧ s ≠ "super" := by
        constructor <;> rintro rfl <;> exact hkeyword (by decide)
      rw [if_neg hkeyword, iff_true_right hplain]
      rw [Bool.not_eq_true] at hkeyword
      split
      · have hword : isSnakeWord ("_" ++ s).toList = true := by
          rw [String.toList_append]
          exact isSnakeWord_underscore_cons hs
        exact .plain hword (isKeyword_of_underscore (by simp [String.toList_append]))
      · rename_i hdigit
        rw [Bool.not_eq_true] at hdigit
        exact .plain (isSnakeWord_of_head hne hs hdigit) hkeyword

section

variable [Transliteration] [SnakeCasing]

/-- The words of a property in snake case, without its sign. -/
def fieldWords (name : String) : String :=
  String.ofList (snakeCase (sanitize (splitSign name.toList).2))

theorem isSnakeChar_of_mem_fieldWords {name : String} {c : Char}
    (hc : c ∈ (fieldWords name).toList) : isSnakeChar c = true := by
  rw [fieldWords, String.toList_ofList] at hc
  exact isSnakeChar_iff.mpr ⟨isIdentChar_of_mem_snakeCase hc, isUpper_of_mem_snakeCase hc⟩

/-- The words behind the word for the sign. -/
def signedWords (name : String) : String :=
  if (splitSign name.toList).1 then "negative_" ++ fieldWords name else fieldWords name

theorem fieldName_of_no_words {name : String} (h : fieldWords name = "") : fieldName name = "_" := by
  have hnil : snakeCase (sanitize (splitSign name.toList).2) = [] := String.ofList_eq_empty_iff.mp h
  simp [fieldName, hnil]

theorem fieldName_of_words {name : String} (h : fieldWords name ≠ "") :
    fieldName name = escapeField (signedWords name).toList := by
  have hne : snakeCase (sanitize (splitSign name.toList).2) ≠ [] :=
    fun hnil => h (String.ofList_eq_empty_iff.mpr hnil)
  obtain ⟨c, cs, hwords⟩ := List.exists_cons_of_ne_nil hne
  cases hsign : (splitSign name.toList).1 <;>
    simp [fieldName, signedWords, fieldWords, hwords, hsign, String.toList_append]

theorem signedWords_spec {name : String} (h : fieldWords name ≠ "") :
    (signedWords name).toList ≠ [] ∧ ∀ c ∈ (signedWords name).toList, isSnakeChar c = true := by
  have hne : (fieldWords name).toList ≠ [] := by
    rwa [Ne, String.toList_eq_nil_iff]
  have hchars : ∀ c ∈ (fieldWords name).toList, isSnakeChar c = true :=
    fun c => isSnakeChar_of_mem_fieldWords
  cases hsign : (splitSign name.toList).1 with
  | true =>
    have hnegative : "negative_".toList.all isSnakeChar = true := by decide +kernel
    rw [signedWords, hsign, if_pos rfl, String.toList_append]
    exact ⟨by simp, List.forall_mem_append.mpr ⟨List.all_eq_true.mp hnegative, hchars⟩⟩
  | false =>
    rw [signedWords, hsign]
    exact ⟨hne, hchars⟩

/-- A name with a sign is never one of the two: `negative_` stands in front of it. -/
theorem signedWords_ne_iff {name keyword : String} (h : keyword.toList.head? ≠ some 'n') :
    signedWords name ≠ keyword ↔ (splitSign name.toList).1 = true ∨ fieldWords name ≠ keyword := by
  cases hsign : (splitSign name.toList).1 with
  | true =>
    have hne : "negative_" ++ fieldWords name ≠ keyword := by
      rintro rfl
      simp [String.toList_append] at h
    simpa [signedWords, hsign] using hne
  | false => simp [signedWords, hsign]

/-- The exact condition under which Rust accepts the field name of a property. -/
theorem isFieldName_fieldName_iff (name : String) :
    IsFieldName (fieldName name) ↔
      (splitSign name.toList).1 = true ∨ fieldWords name ∉ ["crate", "super"] := by
  by_cases hwords : fieldWords name = ""
  · rw [fieldName_of_no_words hwords, iff_true_left .underscore, hwords]
    exact Or.inr (by decide)
  · obtain ⟨hne, hchars⟩ := signedWords_spec hwords
    rw [fieldName_of_words hwords, isFieldName_escapeField_iff hne hchars,
      signedWords_ne_iff (by decide), signedWords_ne_iff (by decide), ← or_and_left]
    simp

end

attribute [local instance] Transliteration.byScript SnakeCasing.byCapitals

theorem not_forall_isFieldName_fieldName : ¬∀ name, IsFieldName (fieldName name) := by
  intro h
  have hname : fieldName "crate" = "r#" ++ "crate" := by decide +kernel
  have hcrate := h "crate"
  rw [hname, isFieldName_raw_iff] at hcrate
  exact absurd hcrate.2 (by decide)

end Naming
end SchemaBinding
