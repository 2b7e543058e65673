import SchemaBinding.Proofs.Naming.FieldIdentifier
import SchemaBinding.Proofs.Text.SnakeWords

/-! Field names from words. Main statement: the field name of a property is made of the words of its
transliteration, by a few rules on the words alone. -/
namespace SchemaBinding
namespace Naming

open Text

def isSigned (name : String) : Bool := name.toList.head? == some '-'

/-- A property without its sign. -/
def unsigned (name : String) : List Char :=
  if isSigned name then name.toList.tail else name.toList

/-- The words of a property, in lowercase. -/
def propertyWords [Transliteration] (name : String) : List (List Char) :=
  snakeWords (transliterate (unsigned name))

theorem isRun_of_mem_propertyWords [Transliteration] {name : String} :
    ∀ word ∈ propertyWords name, IsRun word :=
  fun word hword => (isLowerRun_of_mem_snakeWords word hword).1

def joined (words : List (List Char)) : String := String.ofList (['_'].intercalate words)

/-- The field name that words make. Only a name without a sign can be a keyword or begin with a
digit. -/
def nameOfWords (signed : Bool) (words : List (List Char)) : String :=
  if words = [] then "_"
  else if signed then "negative_" ++ joined words
  else if joined words = "self" then "self_"
  else if isKeyword (joined words) then "r#" ++ joined words
  else if (joined words).toList.head?.any Char.isDigit then "_" ++ joined words
  else joined words

theorem splitSign_eq (name : String) : splitSign name.toList = (isSigned name, unsigned name) := by
  rw [unsigned, isSigned]
  unfold splitSign
  split
  · rename_i cs h
    simp [h]
  · rename_i h
    have hhead : name.toList.head? ≠ some '-' := by
      intro hhead
      obtain ⟨cs, hcs⟩ := List.head?_eq_some_iff.mp hhead
      exact h cs hcs
    simp [hhead]

@[simp] theorem toList_joined (words : List (List Char)) :
    (joined words).toList = ['_'].intercalate words := by
  rw [joined, String.toList_ofList]

theorem joined_eq_empty_iff {words : List (List Char)} (h : ∀ word ∈ words, IsRun word) :
    joined words = "" ↔ words = [] := by
  rw [← intercalate_eq_nil_iff h, ← toList_joined, String.toList_eq_nil_iff]

theorem escapeField_of_underscore {s : String} (h : '_' ∈ s.toList)
    (hdigit : s.toList.head?.any Char.isDigit = false) : escapeField s.toList = s := by
  have hself : s ≠ "self" := by
    rintro rfl
    exact absurd h (by decide)
  simp [escapeField, hself, isKeyword_of_underscore h, hdigit]

def IsRaw (ident : String) : Prop := ∃ keyword, ident = "r#" ++ keyword

theorem not_isRaw_of_not_mem {ident : String} (h : '#' ∉ ident.toList) : ¬IsRaw ident := by
  rintro ⟨keyword, rfl⟩
  exact h (by simp [String.toList_append])

/-- Single underscores, none of them at the end and one in front only of a digit. -/
structure IsTidy (ident : List Char) : Prop where
  single : ¬['_', '_'] <:+: ident
  last : ident.getLast? ≠ some '_'
  front : ∀ rest, ident = '_' :: rest → rest.head?.any Char.isDigit = true

section

variable {words : List (List Char)} (hwords : ∀ word ∈ words, IsRun word)

include hwords

theorem getLast?_joined_ne : (joined words).toList.getLast? ≠ some '_' := by
  rw [toList_joined]
  intro h
  exact absurd (isAlphanum_of_getLast?_intercalate hwords h) (by decide)

theorem isTidy_joined : IsTidy (joined words).toList := by
  have hinner := inner_intercalate_runs hwords
  refine ⟨?_, getLast?_joined_ne hwords, ?_⟩
  · rw [toList_joined]
    exact not_infix_of_inner hinner
  · intro rest hrest
    rw [toList_joined] at hrest
    exact absurd (by simp [hrest]) (inner_iff.mp hinner).1

theorem isTidy_underscore_joined (hdigit : (joined words).toList.head?.any Char.isDigit = true) :
    IsTidy ("_" ++ joined words).toList := by
  have hinner := inner_intercalate_runs hwords
  have hlast := getLast?_joined_ne hwords
  rw [toList_joined] at hdigit hlast
  have hne : ['_'].intercalate words ≠ [] := by
    rintro hnil
    simp [hnil] at hdigit
  rw [String.toList_append, toList_joined]
  refine ⟨?_, ?_, ?_⟩
  · intro hinfix
    have hchain := List.IsChain.infix (hinner.isChain_cons '_') hinfix
    exact absurd (List.isChain_pair.mp hchain rfl) (by decide)
  · rwa [List.getLast?_append_of_ne_nil _ hne]
  · rintro rest hrest
    have heq : ['_'].intercalate words = rest := by simpa using hrest
    rwa [heq] at hdigit

end

theorem joined_cons {word : List Char} {words : List (List Char)} (hne : words ≠ []) :
    joined (word :: words) = String.ofList word ++ "_" ++ joined words := by
  rw [← String.toList_inj, toList_joined, List.intercalate_cons_of_ne_nil hne]
  simp [String.toList_append]

theorem negative_append_joined {words : List (List Char)} (hne : words ≠ []) :
    "negative_" ++ joined words = joined ("negative".toList :: words) := by
  rw [joined_cons hne]
  rfl

/-- Only the underscore alone, `self_` and the raw identifiers are untidy. -/
theorem isTidy_nameOfWords {signed : Bool} {words : List (List Char)}
    (hwords : ∀ word ∈ words, IsRun word) (hunderscore : nameOfWords signed words ≠ "_")
    (hself : nameOfWords signed words ≠ "self_") (hraw : ¬IsRaw (nameOfWords signed words)) :
    IsTidy (nameOfWords signed words).toList := by
  unfold nameOfWords at *
  split_ifs at * with hnil hsigned hjoined hkeyword hdigit
  · exact absurd rfl hunderscore
  · rw [negative_append_joined hnil]
    exact isTidy_joined (List.forall_mem_cons.mpr ⟨⟨by simp, by simp⟩, hwords⟩)
  · exact absurd rfl hself
  · exact absurd ⟨_, rfl⟩ hraw
  · exact isTidy_underscore_joined hwords hdigit
  · exact isTidy_joined hwords

theorem filter_joined {words : List (List Char)} (hwords : ∀ word ∈ words, IsRun word) :
    (joined words).toList.filter Char.isAlphanum = words.flatten := by
  rw [toList_joined, ← flatten_runs, runs_intercalate hwords]

section

variable [Transliteration] [SnakeCasing]

theorem fieldWords_eq_joined (name : String) : fieldWords name = joined (propertyWords name) := by
  rw [fieldWords, splitSign_eq, snakeCase_sanitize, joined, propertyWords]

theorem fieldName_eq_nameOfWords (name : String) :
    fieldName name = nameOfWords (isSigned name) (propertyWords name) := by
  have hempty : joined (propertyWords name) = "" ↔ propertyWords name = [] :=
    joined_eq_empty_iff isRun_of_mem_propertyWords
  rw [← fieldWords_eq_joined] at hempty
  by_cases hwords : propertyWords name = []
  · rw [fieldName_of_no_words (hempty.mpr hwords), nameOfWords, if_pos hwords]
  · rw [fieldName_of_words (mt hempty.mp hwords), signedWords, splitSign_eq, fieldWords_eq_joined,
      nameOfWords, if_neg hwords]
    cases isSigned name with
    | true =>
      have hdigit : ("negative_" ++ joined (propertyWords name)).toList.head?.any Char.isDigit =
          false := by simp [String.toList_append]
      simpa using escapeField_of_underscore (by simp [String.toList_append]) hdigit
    | false => simp [escapeField, joined]

/-- The field name of a property by its words. -/
theorem fieldName_wordwise (name : String) :
    fieldName name = nameOfWords (isSigned name) (propertyWords name) ∧
      (fieldName name ≠ "_" → fieldName name ≠ "self_" → ¬IsRaw (fieldName name) →
        IsTidy (fieldName name).toList) ∧
      (joined (propertyWords name)).toList.filter Char.isAlphanum =
        ((transliterate (unsigned name)).filter Char.isAlphanum).map Char.toLower := by
  rw [fieldName_eq_nameOfWords]
  refine ⟨rfl, isTidy_nameOfWords isRun_of_mem_propertyWords, ?_⟩
  rw [filter_joined isRun_of_mem_propertyWords, propertyWords, flatten_snakeWords]

end

attribute [local instance] Transliteration.byScript SnakeCasing.byCapitals

/-- The first digit gets the underscore, and `ä` is the letter `a`. -/
theorem fieldName_wordwise_digit :
    fieldName "2nd--FooBär" = "_2nd_foo_bar" ∧
      propertyWords "2nd--FooBär" = ["2nd".toList, "foo".toList, "bar".toList] ∧
      IsTidy "_2nd_foo_bar".toList := by
  have hwords : propertyWords "2nd--FooBär" = ["2nd".toList, "foo".toList, "bar".toList] := by
    decide +kernel
  have hname : nameOfWords false ["2nd".toList, "foo".toList, "bar".toList] = "_2nd_foo_bar" := by
    decide +kernel
  have hraw : ¬IsRaw "_2nd_foo_bar" := not_isRaw_of_not_mem (by decide +kernel)
  obtain ⟨hrules, htidy, -⟩ := fieldName_wordwise "2nd--FooBär"
  have hresult : fieldName "2nd--FooBär" = "_2nd_foo_bar" := by
    rw [hrules, hwords]
    exact hname
  rw [hresult] at htidy
  exact ⟨hresult, hwords, htidy (by decide) (by decide) hraw⟩

end Naming
end SchemaBinding
