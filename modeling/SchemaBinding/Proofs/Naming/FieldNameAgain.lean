import SchemaBinding.Proofs.Naming.FieldWords

/-! Field names of field names. Main statement: a field name is its own field name, unless it is a
raw identifier. That one gets an underscore in place of the `#`, and is its own field name then. -/
namespace SchemaBinding
namespace Naming

open Text

variable {words : List (List Char)}

theorem isIdentChar_of_mem_joined (hwords : ∀ word ∈ words, IsRun word) :
    ∀ c ∈ (joined words).toList, isIdentChar c = true := by
  rw [toList_joined]
  exact isIdentChar_of_mem_intercalate hwords

def isFieldChar (c : Char) : Bool := isIdentChar c || c == '#'

theorem isAscii_of_isFieldChar {c : Char} (h : isFieldChar c = true) : isAscii c = true := by
  rw [isFieldChar, Bool.or_eq_true, beq_iff_eq] at h
  rcases h with h | rfl
  · exact isAscii_of_isIdentChar h
  · decide

theorem isLowerRun_of_all {word : List Char} (hne : word ≠ [])
    (hall : word.all (fun c => c.isAlphanum && !c.isUpper) = true) : IsLowerRun word := by
  simp only [List.all_eq_true, Bool.and_eq_true, Bool.not_eq_eq_eq_not, Bool.not_true] at hall
  exact ⟨⟨hne, fun c hc => (hall c hc).1⟩, fun c hc => (hall c hc).2⟩

theorem nameOfWords_of_underscore (hne : words ≠ []) (hunderscore : '_' ∈ (joined words).toList)
    (hdigit : (joined words).toList.head?.any Char.isDigit = false) :
    nameOfWords false words = joined words := by
  have hself : joined words ≠ "self" := by
    intro hself
    rw [hself] at hunderscore
    exact absurd hunderscore (by decide)
  rw [nameOfWords, if_neg hne, if_neg Bool.false_ne_true, if_neg hself,
    isKeyword_of_underscore hunderscore, if_neg Bool.false_ne_true, hdigit,
    if_neg Bool.false_ne_true]

theorem eq_joined_of_raw {signed : Bool} {keyword : String} (hwords : ∀ word ∈ words, IsRun word)
    (h : nameOfWords signed words = "r#" ++ keyword) : words ≠ [] ∧ keyword = joined words := by
  have hhash : '#' ∈ (nameOfWords signed words).toList := by simp [h, String.toList_append]
  have hplain : '#' ∉ (joined words).toList := by
    intro hmem
    exact absurd (isIdentChar_of_mem_joined hwords '#' hmem) (by decide)
  have hbehind : ∀ front : String, '#' ∉ front.toList → '#' ∉ (front ++ joined words).toList := by
    intro front hfront
    rw [String.toList_append, List.mem_append]
    exact not_or.mpr ⟨hfront, hplain⟩
  unfold nameOfWords at *
  split_ifs at * with hnil hsigned hself hkeyword hdigit
  · exact absurd hhash (by decide)
  · exact absurd hhash (hbehind "negative_" (by decide +kernel))
  · exact absurd hhash (by decide)
  · have hchars := congrArg String.toList h
    rw [String.toList_append, String.toList_append, List.append_cancel_left_eq,
      String.toList_inj] at hchars
    exact ⟨hnil, hchars.symm⟩
  · exact absurd hhash (hbehind "_" (by decide))
  · exact absurd hhash hplain

theorem joined_r_cons (hne : words ≠ []) : joined (['r'] :: words) = "r_" ++ joined words := by
  rw [joined_cons hne]
  rfl

section

variable [Transliteration] [SnakeCasing]

/-- What counts in such a name is its runs, if they are in lowercase. -/
theorem fieldName_of_runs {ident : String} (hwords : ∀ word ∈ words, IsLowerRun word)
    (hchars : ∀ c ∈ ident.toList, isFieldChar c = true) (hruns : runs ident.toList = words) :
    fieldName ident = nameOfWords false words := by
  have hsigned : isSigned ident = false := by
    rw [isSigned, beq_eq_false_iff_ne]
    intro hhead
    exact absurd (hchars '-' (List.mem_of_mem_head? hhead)) (by decide)
  have hascii : transliterate ident.toList = ident.toList :=
    transliterate_eq_self fun c hc => isAscii_of_isFieldChar (hchars c hc)
  have hproperty : propertyWords ident = words := by
    rw [propertyWords, unsigned, hsigned, if_neg Bool.false_ne_true, hascii,
      snakeWords_of_runs hwords hruns]
  rw [fieldName_eq_nameOfWords, hsigned, hproperty]

theorem fieldName_append_joined (front : String) (lead : List (List Char))
    (hlead : ∀ word ∈ lead, IsLowerRun word) (hwords : ∀ word ∈ words, IsLowerRun word)
    (hchars : ∀ c ∈ front.toList, isFieldChar c = true)
    (hruns : ∀ cs, runs (front.toList ++ cs) = lead ++ runs cs) :
    fieldName (front ++ joined words) = nameOfWords false (lead ++ words) := by
  have hrun : ∀ word ∈ words, IsRun word := fun word hword => (hwords word hword).1
  refine fieldName_of_runs (List.forall_mem_append.mpr ⟨hlead, hwords⟩) ?_ ?_
  · rw [String.toList_append]
    refine List.forall_mem_append.mpr ⟨hchars, fun c hc => ?_⟩
    simp [isFieldChar, isIdentChar_of_mem_joined hrun c hc]
  · rw [String.toList_append, hruns, toList_joined, runs_intercalate hrun]

theorem fieldName_joined (hwords : ∀ word ∈ words, IsLowerRun word) :
    fieldName (joined words) = nameOfWords false words := by
  simpa using fieldName_append_joined "" [] (by simp) hwords (by simp) fun cs => rfl

/-- A word in front, with either mark behind it, becomes the first of the words. -/
theorem fieldName_lead_append (front : String) {lead : List Char} {mark : Char}
    (hlead : IsLowerRun lead) (hdigit : lead.head?.any Char.isDigit = false)
    (hmark : mark = '_' ∨ mark = '#') (hfront : front.toList = lead ++ [mark])
    (hwords : ∀ word ∈ words, IsLowerRun word) (hne : words ≠ []) :
    fieldName (front ++ joined words) = joined (lead :: words) := by
  have hsep : mark.isAlphanum = false := by rcases hmark with rfl | rfl <;> decide
  have hchars : ∀ c ∈ front.toList, isFieldChar c = true := by
    rw [hfront]
    refine List.forall_mem_append.mpr ⟨fun c hc => ?_, List.forall_mem_singleton.mpr ?_⟩
    · simp [isFieldChar, isIdentChar, hlead.1.2 c hc]
    · rcases hmark with rfl | rfl <;> decide
  have hruns : ∀ cs, runs (front.toList ++ cs) = [lead] ++ runs cs := by
    intro cs
    rw [hfront, List.append_assoc, List.singleton_append, runs_append_separator hsep,
      runs_of_isRun hlead.1]
  have hjoined : (joined (lead :: words)).toList = lead ++ '_' :: (joined words).toList := by
    rw [toList_joined, toList_joined, List.intercalate_cons_of_ne_nil hne, List.append_assoc,
      List.singleton_append]
  have hwordsLead := List.forall_mem_singleton.mpr hlead
  rw [fieldName_append_joined front [lead] hwordsLead hwords hchars hruns, List.singleton_append]
  refine nameOfWords_of_underscore (List.cons_ne_nil lead words) ?_ ?_
  · simp [hjoined]
  · obtain ⟨c, cs, rfl⟩ := List.exists_cons_of_ne_nil hlead.1.1
    rw [hjoined]
    exact hdigit

/-- Whatever is put around words is read back, unless it makes a raw identifier. -/
theorem fieldName_nameOfWords {signed : Bool} (hwords : ∀ word ∈ words, IsLowerRun word)
    (hraw : ¬IsRaw (nameOfWords signed words)) :
    fieldName (nameOfWords signed words) = nameOfWords signed words := by
  unfold nameOfWords at *
  -- No words, a sign, `self`, another keyword, a digit in front, and nothing of all that.
  split_ifs at * with hnil hsigned hself hkeyword hdigit
  · exact fieldName_of_runs (List.forall_mem_nil IsLowerRun) (by simp [isFieldChar, isIdentChar]) rfl
  · have hfront : "negative_".toList = "negative".toList ++ ['_'] := by decide +kernel
    have hword : IsLowerRun "negative".toList := isLowerRun_of_all (by simp) (by decide +kernel)
    have hnegative := fieldName_lead_append "negative_" hword (by decide) (Or.inl rfl) hfront hwords
      hnil
    rw [hnegative, negative_append_joined hnil]
  · have hself : IsLowerRun "self".toList := isLowerRun_of_all (by simp) (by decide +kernel)
    exact fieldName_of_runs (List.forall_mem_singleton.mpr hself)
      (List.all_eq_true.mp (by decide +kernel)) (by decide +kernel)
  · exact absurd ⟨_, rfl⟩ hraw
  · have hread := fieldName_append_joined "_" [] (by simp) hwords
      (by simp [isFieldChar, isIdentChar]) fun cs => runs_separator (by decide) cs
    rw [hread, List.nil_append, nameOfWords, if_neg hnil, if_neg Bool.false_ne_true, if_neg hself,
      if_neg hkeyword, if_pos hdigit]
  · rw [fieldName_joined hwords, nameOfWords, if_neg hnil, if_neg Bool.false_ne_true, if_neg hself,
      if_neg hkeyword, if_neg hdigit]

theorem fieldName_fieldName (name : String) :
    (¬IsRaw (fieldName name) → fieldName (fieldName name) = fieldName name) ∧
      ∀ keyword, fieldName name = "r#" ++ keyword →
        fieldName (fieldName name) = "r_" ++ keyword ∧
          fieldName ("r_" ++ keyword) = "r_" ++ keyword := by
  have hwords : ∀ word ∈ propertyWords name, IsLowerRun word := isLowerRun_of_mem_snakeWords
  rw [fieldName_eq_nameOfWords name]
  refine ⟨fieldName_nameOfWords hwords, fun keyword hkeyword => ?_⟩
  obtain ⟨hne, rfl⟩ := eq_joined_of_raw isRun_of_mem_propertyWords hkeyword
  rw [hkeyword, ← joined_r_cons hne]
  have hr : IsLowerRun ['r'] := isLowerRun_of_all (by simp) rfl
  have hhash := fieldName_lead_append "r#" hr rfl (Or.inr rfl) rfl hwords hne
  have hunderscore := fieldName_lead_append "r_" hr rfl (Or.inl rfl) rfl hwords hne
  rw [← joined_r_cons hne] at hunderscore
  exact ⟨hhash, hunderscore⟩

end

attribute [local instance] Transliteration.byScript SnakeCasing.byCapitals

/-- With a sign no word is a keyword; without one the word `type` is. -/
theorem fieldName_fieldName_type :
    fieldName "-Type" = "negative_type" ∧ fieldName "negative_type" = "negative_type" ∧
      fieldName "Type" = "r#type" ∧ fieldName "r#type" = "r_type" ∧
      fieldName "r_type" = "r_type" := by
  have hsigned : fieldName "-Type" = "negative_type" := by decide +kernel
  have hkeyword : fieldName "Type" = "r#" ++ "type" := by decide +kernel
  have hraw : ¬IsRaw "negative_type" := not_isRaw_of_not_mem (by decide +kernel)
  have htwice := (fieldName_fieldName "-Type").1
  rw [hsigned] at htwice
  obtain ⟨hagain, hfixed⟩ := (fieldName_fieldName "Type").2 "type" hkeyword
  rw [hkeyword] at hagain
  exact ⟨hsigned, htwice hraw, hkeyword, hagain, hfixed⟩

end Naming
end SchemaBinding
