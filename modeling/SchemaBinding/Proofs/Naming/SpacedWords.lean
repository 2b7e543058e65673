import SchemaBinding.Proofs.Naming.TypeName
import SchemaBinding.Text.Scripts

/-! Words with separators between them. Main statement: the type name of such a name is put together
from its words, each of them capitalised by itself, so that neither the separators nor the words
around it make a difference to a word. -/
namespace SchemaBinding
namespace Naming

open Text

/-- Separators in any number. -/
def IsGap (gap : List Char) : Prop := ∀ c ∈ gap, isSeparator c = true

theorem isGap_of_all {gap : List Char} (h : gap.all isSeparator = true) : IsGap gap :=
  List.all_eq_true.mp h

/-- Words of letters and digits in a text, with separators between each two of them and any number
behind the last one. -/
inductive Spaced : List (List Char) → List Char → Prop
  | nil : Spaced [] []
  | cons {w gap cs : List Char} {ws : List (List Char)} (hne : w ≠ [])
      (hw : ∀ c ∈ w, c.isAlphanum = true) (hgap : IsGap gap) (hparted : ws ≠ [] → gap ≠ [])
      (hcs : Spaced ws cs) : Spaced (w :: ws) (w ++ gap ++ cs)

theorem IsGap.isAscii {gap : List Char} (hgap : IsGap gap) : ∀ c ∈ gap, isAscii c = true :=
  fun c hc => (isSeparator_spec (hgap c hc)).2

theorem Spaced.isAscii {ws : List (List Char)} {cs : List Char} (h : Spaced ws cs) :
    ∀ c ∈ cs, isAscii c = true := by
  induction h with
  | nil => simp
  | cons _ hw hgap _ _ ih =>
    have hword := fun c hc => isAscii_of_isAlphanum (hw c hc)
    rw [List.append_assoc]
    exact List.forall_mem_append.mpr ⟨hword, List.forall_mem_append.mpr ⟨hgap.isAscii, ih⟩⟩

theorem Spaced.ne_nil {w cs : List Char} {ws : List (List Char)} (h : Spaced (w :: ws) cs) :
    w ≠ [] := by
  cases h with
  | cons hne => exact hne

theorem IsGap.filter_isAlphanum {gap : List Char} (hgap : IsGap gap) :
    gap.filter Char.isAlphanum = [] := by
  rw [List.filter_eq_nil_iff]
  intro c hc
  simp [(isSeparator_spec (hgap c hc)).1]

theorem Spaced.filter_isAlphanum {ws : List (List Char)} {cs : List Char} (h : Spaced ws cs) :
    cs.filter Char.isAlphanum = ws.flatten := by
  induction h with
  | nil => rfl
  | cons _ hw hgap _ _ ih =>
    rw [List.filter_append, List.filter_append, hgap.filter_isAlphanum, ih,
      List.filter_eq_self.mpr hw, List.append_nil, List.flatten_cons]

/-- The letters and digits of a text, capitalised word by word. -/
def wordLetters (cs : List Char) : List Char := (capitalizeWords cs).filter Char.isAlphanum

theorem wordLetters_word {w : List Char} (hw : ∀ c ∈ w, c.isAlphanum = true) :
    wordLetters w = capitalizeWords w :=
  List.filter_eq_self.mpr fun _ => isAlphanum_of_mem_capitalizeWords hw

theorem wordLetters_append_separator {c : Char} (hc : isSeparator c = true) (ds cs : List Char) :
    wordLetters (ds ++ c :: cs) = wordLetters ds ++ wordLetters cs := by
  have halnum := (isSeparator_spec hc).1
  simp [wordLetters, capitalizeWords_append_separator halnum, halnum]

theorem wordLetters_gap_append {gap : List Char} (hgap : IsGap gap) (cs : List Char) :
    wordLetters (gap ++ cs) = wordLetters cs := by
  induction gap with
  | nil => rfl
  | cons c gap ih =>
    rw [IsGap, List.forall_mem_cons] at hgap
    exact (wordLetters_append_separator hgap.1 [] (gap ++ cs)).trans (ih hgap.2)

theorem wordLetters_append_gap {gap : List Char} (hgap : IsGap gap) (hne : gap ≠ [])
    (ds cs : List Char) : wordLetters (ds ++ gap ++ cs) = wordLetters ds ++ wordLetters cs := by
  obtain ⟨c, gap, rfl⟩ := List.exists_cons_of_ne_nil hne
  rw [IsGap, List.forall_mem_cons] at hgap
  rw [List.append_assoc, List.cons_append, wordLetters_append_separator hgap.1,
    wordLetters_gap_append hgap.2]

theorem Spaced.wordLetters_eq {ws : List (List Char)} {cs : List Char} (h : Spaced ws cs) :
    wordLetters cs = ws.flatMap capitalizeWords := by
  induction h with
  | nil => rfl
  | @cons w gap cs ws _ hw hgap hparted hcs ih =>
    rw [List.flatMap_cons, ← ih, ← wordLetters_word hw]
    by_cases hnone : gap = []
    · -- Only behind the last word there may be no separator.
      have hlast : ws = [] := by
        by_contra hws
        exact hparted hws hnone
      subst hlast
      cases hcs
      have hrest : wordLetters [] = [] := rfl
      rw [hnone, hrest, List.append_nil, List.append_nil, List.append_nil]
    · exact wordLetters_append_gap hgap hnone w cs

theorem typeWords_of_isSeparator {cs : List Char} (h : cs.any isSeparator = true) :
    typeWords cs = wordLetters cs := by
  simp [typeWords, isMixedCase, h, wordLetters]

theorem digitMark_append {w : List Char} (hw : w ≠ []) (cs : List Char) :
    digitMark (w ++ cs) = digitMark w := by
  obtain ⟨c, w, rfl⟩ := List.exists_cons_of_ne_nil hw
  rfl

/-- A name in words becomes its words, each capitalised by itself, with the mark of the first one. -/
theorem typeName_of_spaced [Transliteration] {w lead cs : List Char} {ws : List (List Char)}
    (hlead : IsGap lead) (h : Spaced (w :: ws) cs) (hany : (lead ++ cs).any isSeparator = true) :
    typeName (String.ofList (lead ++ cs)) =
      .ok (String.ofList (digitMark w ++ (w :: ws).flatMap capitalizeWords)) := by
  have hascii : transliterate (String.ofList (lead ++ cs)).toList = lead ++ cs := by
    rw [String.toList_ofList]
    exact transliterate_eq_self (List.forall_mem_append.mpr ⟨hlead.isAscii, h.isAscii⟩)
  have hletters : (lead ++ cs).filter Char.isAlphanum = w ++ ws.flatten := by
    rw [List.filter_append, hlead.filter_isAlphanum, h.filter_isAlphanum, List.nil_append,
      List.flatten_cons]
  have hmark : digitMark (typeWords (lead ++ cs)) = digitMark w := by
    rw [digitMark_typeWords, hletters, digitMark_append h.ne_nil]
  have hwords : typeWords (lead ++ cs) = (w :: ws).flatMap capitalizeWords := by
    rw [typeWords_of_isSeparator hany, wordLetters_gap_append hlead, h.wordLetters_eq]
  have husable : Usable (String.ofList (lead ++ cs)) := by
    obtain ⟨c, hc⟩ := List.exists_mem_of_ne_nil w h.ne_nil
    have hmem : c ∈ (lead ++ cs).filter Char.isAlphanum := by
      rw [hletters]
      exact List.mem_append_left _ hc
    rw [Usable, hascii]
    exact ⟨c, List.mem_filter.mp hmem⟩
  have hname := typeName_of_usable husable
  rwa [hascii, hmark, hwords] at hname

attribute [local instance] Transliteration.byScript

/-- Within a word a capital stays in front of a lowercase letter, whatever the other words are. -/
theorem typeName_of_spaced_mixed :
    IsGap "_".toList ∧
      Spaced ["2nd".toList, "XMLHttp".toList, "fooBar".toList] "2nd. XMLHttp--fooBar".toList ∧
      ("_".toList ++ "2nd. XMLHttp--fooBar".toList).any isSeparator = true ∧
      typeName "_2nd. XMLHttp--fooBar" = .ok "T2ndXmlHttpFooBar" := by
  have hlead : IsGap "_".toList := isGap_of_all (by decide +kernel)
  have htext : "2nd. XMLHttp--fooBar".toList =
      "2nd".toList ++ ". ".toList ++ ("XMLHttp".toList ++ "--".toList ++
        ("fooBar".toList ++ [] ++ [])) := by decide +kernel
  have hspaced : Spaced ["2nd".toList, "XMLHttp".toList, "fooBar".toList]
      "2nd. XMLHttp--fooBar".toList := by
    rw [htext]
    have hlast : Spaced ["fooBar".toList] ("fooBar".toList ++ [] ++ []) :=
      .cons (by simp) (List.all_eq_true.mp (by decide +kernel)) (isGap_of_all rfl) (by simp) .nil
    refine .cons (by simp) (List.all_eq_true.mp (by decide +kernel))
      (isGap_of_all (by decide +kernel)) (by simp) ?_
    exact .cons (by simp) (List.all_eq_true.mp (by decide +kernel))
      (isGap_of_all (by decide +kernel)) (by simp) hlast
  have hany : ("_".toList ++ "2nd. XMLHttp--fooBar".toList).any isSeparator = true := by
    decide +kernel
  have hraw : String.ofList ("_".toList ++ "2nd. XMLHttp--fooBar".toList) =
      "_2nd. XMLHttp--fooBar" := by decide +kernel
  have hwords : String.ofList (digitMark "2nd".toList ++
      ["2nd".toList, "XMLHttp".toList, "fooBar".toList].flatMap capitalizeWords) =
      "T2ndXmlHttpFooBar" := by decide +kernel
  have hname := typeName_of_spaced hlead hspaced hany
  rw [hraw, hwords] at hname
  exact ⟨hlead, hspaced, hany, hname⟩

end Naming
end SchemaBinding
