import SchemaBinding.Proofs.Naming.Groups

/-! Whole segments: `platform` and `models` as segments of their own, apart from segments that only
end in one of the two words. Main statement: a module path keeps the two apart if and only if no
segment of its package that is not the last ends in one of the words without being it. -/
namespace SchemaBinding
namespace Naming

open Text

def IsJoiningWord (s : List Char) : Prop := s = "platform".toList ∨ s = "models".toList

/-- What the replacements look for in front of a slash. -/
def EndsInJoiningWord (s : List Char) : Prop := "platform".toList <:+ s ∨ "models".toList <:+ s

/-- How a segment that is one of the two words is written in one group with the segment behind it.
Any other segment ends its group. -/
def wholeJoint (s : List Char) : Option (List Char) :=
  if s = "platform".toList then some "api_".toList
  else if s = "models".toList then some "models_".toList
  else none

variable {s : List Char}

theorem wholeJoint_of_isJoiningWord (h : IsJoiningWord s) : wholeJoint s = joint s := by
  rcases h with rfl | rfl <;> decide

theorem wholeJoint_of_not_isJoiningWord (h : ¬IsJoiningWord s) : wholeJoint s = none := by
  obtain ⟨hplatform, hmodels⟩ := not_or.mp h
  rw [wholeJoint, if_neg hplatform, if_neg hmodels]

theorem joint_of_not_endsInJoiningWord (h : ¬EndsInJoiningWord s) : joint s = none := by
  obtain ⟨hplatform, hmodels⟩ := not_or.mp h
  rw [joint, dropSuffix?_eq_none_iff.mpr hplatform]
  exact if_neg hmodels

/-- Every segment that is joined to the one behind it costs one underscore. -/
theorem count_joint (h : EndsInJoiningWord s) : ((joint s).getD s).count '_' = s.count '_' + 1 := by
  cases hplatform : s.dropSuffix? "platform".toList with
  | some stem =>
    have hs := eq_of_dropSuffix? hplatform
    have hword : "platform".toList.count '_' = 0 := by decide
    have hwritten : "api_".toList.count '_' = 1 := by decide
    rw [joint_of_platform hplatform, Option.getD_some, hs, List.count_append, List.count_append,
      hword, hwritten]
  | none =>
    have hmodels : "models".toList <:+ s := h.resolve_left (dropSuffix?_eq_none_iff.mp hplatform)
    rw [joint, hplatform]
    simp only [hmodels, if_true, Option.getD_some, List.count_append, List.count_singleton_self]

theorem count_wholeJoint_lt (h : EndsInJoiningWord s) (hs : ¬IsJoiningWord s) :
    ((wholeJoint s).getD s).count '_' < ((joint s).getD s).count '_' := by
  rw [wholeJoint_of_not_isJoiningWord hs, Option.getD_none, count_joint h]
  omega

theorem count_wholeJoint_le (s : List Char) :
    ((wholeJoint s).getD s).count '_' ≤ ((joint s).getD s).count '_' := by
  by_cases hs : IsJoiningWord s
  · rw [wholeJoint_of_isJoiningWord hs]
  · by_cases h : EndsInJoiningWord s
    · exact (count_wholeJoint_lt h hs).le
    · rw [wholeJoint_of_not_isJoiningWord hs, joint_of_not_endsInJoiningWord h]

section

variable [Transliteration] [SnakeCasing]

/-- The separators of a path hold no underscore, and neither do the groups that are left out. -/
theorem count_groupedPath (joint : List Char → Option (List Char)) (package : String) :
    (groupedPath joint package).toList.count '_' =
      (grouped joint (segments package.toList)).flatten.count '_' := by
  have hcolons : '_' ∉ [':', ':'] := by decide
  rw [groupedPath, String.toList_ofList, count_intercalate hcolons, List.flatten_filter_not_isEmpty]

theorem count_groupedPath_lt {package : String} (hmem : s ∈ (segments package.toList).dropLast)
    (h : EndsInJoiningWord s) (hs : ¬IsJoiningWord s) :
    (groupedPath wholeJoint package).toList.count '_' <
      (groupedPath joint package).toList.count '_' := by
  rw [count_groupedPath, count_groupedPath, flatten_grouped, flatten_grouped, List.count_append,
    List.count_append, List.count_flatMap, List.count_flatMap]
  have hlt := List.sum_lt_sum _ _ (fun s _ => count_wholeJoint_le s)
    ⟨s, hmem, count_wholeJoint_lt h hs⟩
  exact Nat.add_lt_add_right hlt _

/-- A segment that ends in one of the words without being it is joined all the same. -/
theorem modulePath_eq_whole_iff (package : String) :
    modulePath package = groupedPath wholeJoint package ↔
      ∀ s ∈ (segments package.toList).dropLast, EndsInJoiningWord s → IsJoiningWord s := by
  rw [modulePath_eq_groupedPath]
  constructor
  · intro heq s hmem h
    by_contra hs
    -- Joining it puts an underscore where whole segments have none, and no path makes up for it.
    have hlt := count_groupedPath_lt hmem h hs
    rw [heq] at hlt
    exact absurd hlt (lt_irrefl _)
  · intro h
    have hjoint : ∀ s ∈ (segments package.toList).dropLast, joint s = wholeJoint s := by
      intro s hmem
      by_cases hs : IsJoiningWord s
      · exact (wholeJoint_of_isJoiningWord hs).symm
      · have hend : ¬EndsInJoiningWord s := fun hend => hs (h s hmem hend)
        rw [wholeJoint_of_not_isJoiningWord hs, joint_of_not_endsInJoiningWord hend]
    rw [groupedPath, groupedPath, grouped_congr hjoint]

end

attribute [local instance] Transliteration.byScript SnakeCasing.byCapitals

/-- `crossplatform` is no word of its own, and yet it is joined to the segment behind it. -/
theorem not_forall_modulePath_eq_whole :
    ¬∀ package, modulePath package = groupedPath wholeJoint package := by
  intro h
  have hjoined : modulePath "crossplatform/x" = "crossapi_x" := by decide +kernel
  have hkept : groupedPath wholeJoint "crossplatform/x" = "crossplatform::x" := by decide +kernel
  have heq := h "crossplatform/x"
  rw [hjoined, hkept] at heq
  exact absurd heq (by decide)

end Naming
end SchemaBinding
