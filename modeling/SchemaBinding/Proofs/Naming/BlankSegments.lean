import SchemaBinding.Proofs.Naming.ModuleSegments
import SchemaBinding.Proofs.Naming.WholeSegments

/-! Blank segments: those without letters and digits. Main statement: the Java package of a package
never depends on them, and its module path does so only where one stands directly behind a segment
that ends in `platform` or `models`. -/
namespace SchemaBinding
namespace Naming

open Text

def filled (ps : List (List Char)) : List (List Char) := ps.filter fun s => !s.isEmpty

section

variable {s : List Char} {ps : List (List Char)}

@[simp] theorem filled_nil : filled [] = [] := rfl

@[simp] theorem filled_cons_nil (ps : List (List Char)) : filled ([] :: ps) = filled ps := rfl

theorem filled_cons_of_ne_nil (hs : s ≠ []) (ps : List (List Char)) :
    filled (s :: ps) = s :: filled ps := by
  simp [filled, hs]

theorem ne_nil_of_mem_filled (h : s ∈ filled ps) : s ≠ [] := by
  simpa using (List.mem_filter.mp h).2

@[simp] theorem filled_filled (ps : List (List Char)) : filled (filled ps) = filled ps := by
  simp [filled]

def withoutPieces (blank : List Char → Bool) (cs : List Char) : List Char :=
  ['/'].intercalate ((cs.splitOn '/').filter fun p => !blank p)

/-- If nothing is written for these pieces, the others are written as before. Where there are no
others, what is left is an empty text. -/
theorem map_splitOn_withoutPieces {f : List Char → List Char} {blank : List Char → Bool}
    (hnil : f [] = []) (hblank : ∀ p, (f p).isEmpty = blank p) (cs : List Char) :
    ((withoutPieces blank cs).splitOn '/').map f = filled ((cs.splitOn '/').map f) ∨
      ((withoutPieces blank cs).splitOn '/').map f = [[]] ∧
        filled ((cs.splitOn '/').map f) = [] := by
  have hfilled : filled ((cs.splitOn '/').map f) =
      ((cs.splitOn '/').filter fun p => !blank p).map f := by
    rw [filled, List.filter_map]
    congr 2
    funext p
    rw [Function.comp_apply, hblank]
  rw [hfilled, withoutPieces]
  by_cases hnone : (cs.splitOn '/').filter (fun p => !blank p) = []
  · rw [hnone]
    exact Or.inr ⟨by simp [hnil], rfl⟩
  · have hslash : ∀ p ∈ (cs.splitOn '/').filter fun p => !blank p, '/' ∉ p := by
      intro p hp hmem
      exact (mem_of_mem_splitOn (List.mem_filter.mp hp).1 hmem).2 rfl
    rw [List.splitOn_intercalate '/' hslash hnone]
    exact Or.inl rfl

end

section

variable {s t written : List Char}

theorem joint_nil : joint [] = none := by decide

theorem endsInJoiningWord_of_joint (h : joint s = some written) : EndsInJoiningWord s := by
  by_contra hs
  rw [joint_of_not_endsInJoiningWord hs] at h
  cases h

theorem count_of_joint (h : joint s = some written) : written.count '_' = s.count '_' + 1 := by
  have hcount := count_joint (endsInJoiningWord_of_joint h)
  rwa [h, Option.getD_some] at hcount

theorem joint_eq_none_iff : joint s = none ↔ ¬EndsInJoiningWord s := by
  refine ⟨fun h hs => ?_, joint_of_not_endsInJoiningWord⟩
  have hcount := count_joint hs
  rw [h, Option.getD_none] at hcount
  omega

theorem ne_nil_of_joint (h : joint s = some written) : written ≠ [] := by
  rintro rfl
  have hcount := count_of_joint h
  simp at hcount

theorem ne_of_joint (h : joint s = some written) : written ≠ s := by
  rintro rfl
  have hcount := count_of_joint h
  omega

theorem exists_grouped_cons (ht : t ≠ []) (ps : List (List Char)) :
    ∃ g gs, grouped joint (t :: ps) = g :: gs ∧ g ≠ [] := by
  cases hjoint : joint t with
  | none => exact ⟨t, grouped joint ps, grouped_of_none hjoint, ht⟩
  | some written =>
    by_cases hps : ps = []
    · exact ⟨t, [], by rw [hps]; rfl, ht⟩
    · obtain ⟨g, gs, hgs⟩ := exists_grouped_eq joint hps
      refine ⟨written ++ g, gs, ?_, by simp [ne_nil_of_joint hjoint]⟩
      rw [grouped_of_some hjoint hps, hgs, List.modifyHead_cons]

/-- The group of a joined segment ends at a blank segment. Without that one it goes on with the next
segment, or the segment is the last one and stays as it is. -/
theorem filled_grouped_ne (h : joint s = some written) (rest : List (List Char)) :
    filled (grouped joint (s :: [] :: rest)) ≠ grouped joint (s :: filled rest) := by
  have hleft : filled (grouped joint (s :: [] :: rest)) = written :: filled (grouped joint rest) := by
    rw [grouped_of_some h (by simp), grouped_of_none joint_nil, List.modifyHead_cons,
      List.append_nil, filled_cons_of_ne_nil (ne_nil_of_joint h)]
  rw [hleft]
  intro heq
  cases hrest : filled rest with
  | nil =>
    -- The last segment is never joined, so that it has no new underscore on the right.
    rw [hrest] at heq
    exact ne_of_joint h (List.cons.inj heq).1
  | cons u us =>
    -- On the right the first group has `u` in it too.
    have hmem : u ∈ filled rest := by simp [hrest]
    have hu := ne_nil_of_mem_filled hmem
    obtain ⟨g, gs, hgs, hg⟩ := exists_grouped_cons hu us
    rw [hrest, grouped_of_some h (by simp), hgs, List.modifyHead_cons] at heq
    exact hg (List.append_right_eq_self.mp (List.cons.inj heq).1.symm)

theorem filled_grouped_cons_iff (h : joint s = some written) (ht : t ≠ [])
    (rest : List (List Char)) :
    filled (grouped joint (s :: t :: rest)) = grouped joint (s :: t :: filled rest) ↔
      filled (grouped joint (t :: rest)) = grouped joint (t :: filled rest) := by
  obtain ⟨g, gs, hgs, hg⟩ := exists_grouped_cons ht rest
  obtain ⟨g', gs', hgs', -⟩ := exists_grouped_cons ht (filled rest)
  have hwritten : written ++ g ≠ [] := by simp [hg]
  rw [grouped_of_some h (by simp), grouped_of_some h (by simp), hgs, hgs', List.modifyHead_cons,
    List.modifyHead_cons, filled_cons_of_ne_nil hwritten, filled_cons_of_ne_nil hg]
  simp

/-- What may stand behind a segment if blank ones are to be left out: where the segment is joined to
the next one, that one is not blank. -/
def Clear (s t : List Char) : Prop := EndsInJoiningWord s → t ≠ []

theorem isChain_clear_cons_of_none (h : joint s = none) (ps : List (List Char)) :
    (s :: ps).IsChain Clear ↔ ps.IsChain Clear := by
  have hclear : ∀ t ∈ ps.head?, Clear s t := by
    intro t _ hend
    exact absurd hend (joint_eq_none_iff.mp h)
  rw [List.isChain_cons, and_iff_right hclear]

/-- Blank segments may be left out before the walk as well as after it if and only if none of them
stands where a group goes on. -/
theorem filled_grouped_eq_iff (ps : List (List Char)) :
    filled (grouped joint ps) = grouped joint (filled ps) ↔ ps.IsChain Clear := by
  induction ps with
  | nil => simp [grouped]
  | cons s ps ih =>
    by_cases hs : s = []
    · subst hs
      rw [grouped_of_none joint_nil, filled_cons_nil, filled_cons_nil, ih,
        isChain_clear_cons_of_none joint_nil]
    · rw [filled_cons_of_ne_nil hs]
      cases hjoint : joint s with
      | none =>
        rw [grouped_of_none hjoint, grouped_of_none hjoint, filled_cons_of_ne_nil hs,
          List.cons_inj_right, ih, isChain_clear_cons_of_none hjoint]
      | some written =>
        have hend := endsInJoiningWord_of_joint hjoint
        cases ps with
        | nil => simp [grouped, filled, hs]
        | cons t rest =>
          -- The group goes on, and what it comes to depends on the segment behind `s`.
          rw [List.isChain_cons_cons]
          by_cases ht : t = []
          · subst ht
            have hbreak : ¬Clear s [] := fun hclear => hclear hend rfl
            simpa [hbreak] using filled_grouped_ne hjoint rest
          · have hclear : Clear s t := fun _ => ht
            rw [filled_cons_of_ne_nil ht] at ih ⊢
            rw [filled_grouped_cons_iff hjoint ht, ih, and_iff_right hclear]

end

/-- The package without its segments that hold no letter and no digit. -/
def withoutBlankSegments [Transliteration] (package : String) : String :=
  String.ofList (withoutPieces (fun segment => (sanitize segment).isEmpty) package.toList)

theorem isChain_clear_filled (ps : List (List Char)) : (filled ps).IsChain Clear := by
  refine (List.pairwise_of_forall_mem_list fun _ _ t ht _ => ?_).isChain
  exact ne_nil_of_mem_filled ht

theorem dottedPackage_withoutBlankSegments [Transliteration] (package : String) :
    dottedPackage (withoutBlankSegments package) = dottedPackage package := by
  have hdotted : ∀ q : String, dottedPackage q = String.ofList (['.'].intercalate
      (filled ((q.toList.splitOn '/').map fun segment => (sanitize segment).map Char.toLower))) :=
    fun _ => rfl
  have hblank : ∀ p, ((sanitize p).map Char.toLower).isEmpty = (sanitize p).isEmpty :=
    fun _ => List.isEmpty_map
  rw [hdotted, hdotted, withoutBlankSegments, String.toList_ofList]
  rcases map_splitOn_withoutPieces rfl hblank package.toList with h | ⟨h, hnil⟩
  · rw [h, filled_filled]
  · rw [h, hnil]
    rfl

section

variable [Transliteration] [SnakeCasing]

theorem segments_withoutBlankSegments (package : String) :
    segments (withoutBlankSegments package).toList = filled (segments package.toList) ∨
      segments (withoutBlankSegments package).toList = [[]] ∧
        filled (segments package.toList) = [] := by
  rw [withoutBlankSegments, String.toList_ofList, segments, segments]
  have hnil : snakeCase (sanitize []) = [] := snakeCase_sanitize_eq_nil_iff.mpr rfl
  have hblank : ∀ p, (snakeCase (sanitize p)).isEmpty = (sanitize p).isEmpty := by
    intro p
    rw [Bool.eq_iff_iff, List.isEmpty_iff, List.isEmpty_iff, snakeCase_sanitize_eq_nil_iff]
  exact map_splitOn_withoutPieces (f := fun p => snakeCase (sanitize p)) hnil hblank package.toList

theorem moduleSegments_eq_filled (package : List Char) :
    moduleSegments package = filled (grouped joint (segments package)) :=
  moduleSegments_eq_grouped package

theorem moduleSegments_withoutBlankSegments (package : String) :
    moduleSegments (withoutBlankSegments package).toList =
      grouped joint (filled (segments package.toList)) := by
  rw [moduleSegments_eq_filled]
  rcases segments_withoutBlankSegments package with h | ⟨h, hnil⟩
  · have hgrouped := (filled_grouped_eq_iff _).mpr (isChain_clear_filled (segments package.toList))
    rw [filled_filled] at hgrouped
    rw [h, hgrouped]
  · rw [h, hnil]
    rfl

/-- Blank segments make no difference to the Java package. They make none to the module path if and
only if none of them stands directly behind a segment that ends in `platform` or `models`. -/
theorem modulePath_withoutBlankSegments_iff (package : String) :
    dottedPackage (withoutBlankSegments package) = dottedPackage package ∧
      (modulePath (withoutBlankSegments package) = modulePath package ↔
        (segments package.toList).IsChain Clear) := by
  refine ⟨dottedPackage_withoutBlankSegments package, ?_⟩
  rw [modulePath_eq_iff, moduleSegments_withoutBlankSegments, moduleSegments_eq_filled, eq_comm]
  exact filled_grouped_eq_iff (segments package.toList)

end

attribute [local instance] Transliteration.byScript SnakeCasing.byCapitals

/-- The empty segment between the two slashes ends the group of `models`. -/
theorem not_forall_modulePath_withoutBlankSegments :
    ¬∀ package, modulePath (withoutBlankSegments package) = modulePath package := by
  intro h
  have hjoined : modulePath (withoutBlankSegments "models//cart") = "models_cart" := by
    decide +kernel
  have hparted : modulePath "models//cart" = "models_::cart" := by decide +kernel
  have heq := h "models//cart"
  rw [hjoined, hparted] at heq
  exact absurd heq (by decide)

end Naming
end SchemaBinding
