import SchemaBinding.Proofs.Naming.PackageWords

/-! Spellings of a package. Main statement: its Java package is a normal form. It is read back as
itself, it is the same for two packages exactly if these have the same words, so that neither case nor
the marks between words count, and there is nothing superfluous in it. -/
namespace SchemaBinding
namespace Naming

open Text

/-- An ASCII character that is neither letter nor digit. -/
def isMark (c : Char) : Bool := isAscii c && !c.isAlphanum

def AreMarks (gap : List Char) : Prop := gap ≠ [] ∧ ∀ c ∈ gap, isMark c = true ∧ c ≠ '/'

/-- A change of one kind that leaves the words of a package alone. -/
inductive Respelled : List Char → List Char → Prop
  /-- Letters in another case. -/
  | cased {cs ds : List Char} (h : cs.map Char.toLower = ds.map Char.toLower) : Respelled cs ds
  /-- Another segment, of marks only or empty. -/
  | blank {cs ds gap : List Char} {ps qs : List (List Char)} (hgap : ∀ c ∈ gap, isMark c = true)
      (hcs : cs.splitOn '/' = ps ++ qs) (hds : ds.splitOn '/' = ps ++ gap :: qs) : Respelled cs ds
  /-- Other marks at the same place. -/
  | marked {gap gap' : List Char} (pre post : List Char) (hgap : AreMarks gap)
      (hgap' : AreMarks gap') : Respelled (pre ++ gap ++ post) (pre ++ gap' ++ post)

variable {cs ds gap : List Char} {ws : List (List Char)}

theorem isMark_spec {c : Char} (h : isMark c = true) : isAscii c = true ∧ c.isAlphanum = false := by
  simpa [isMark] using h

theorem map_toLower_of_marks (hgap : ∀ c ∈ gap, isMark c = true) : gap.map Char.toLower = gap :=
  map_toLower_eq_self_iff.mpr fun c hc => isUpper_eq_false_of_isAlphanum (isMark_spec (hgap c hc)).2

/-- A Java package as a package, with slashes for its dots. -/
def slashed (package : String) : String :=
  String.ofList (package.toList.map fun c => if c == '.' then '/' else c)

/-- A Java package without anything superfluous. -/
structure IsNormal (package : String) : Prop where
  ne_nil : ∀ s ∈ dottedSegments package, s ≠ []
  head_ne : ∀ s ∈ dottedSegments package, s.head? ≠ some '_'
  last_ne : ∀ s ∈ dottedSegments package, s.getLast? ≠ some '_'
  no_underscores : ¬['_', '_'] <:+: package.toList
  no_dots : ¬['.', '.'] <:+: package.toList

section

variable [Transliteration]

theorem transliterate_of_marks (hgap : ∀ c ∈ gap, isMark c = true) : transliterate gap = gap :=
  transliterate_eq_self fun c hc => (isMark_spec (hgap c hc)).1

theorem segmentWords_of_marks (hgap : ∀ c ∈ gap, isMark c = true) : segmentWords gap = [] := by
  have halnum : ∀ c ∈ gap, c.isAlphanum = false := fun c hc => (isMark_spec (hgap c hc)).2
  rw [segmentWords, transliterate_of_marks hgap, map_toLower_of_marks hgap,
    runs_of_separators halnum]

theorem segmentWords_append_marks_append (hgap : AreMarks gap) (cs ds : List Char) :
    segmentWords (cs ++ gap ++ ds) = segmentWords cs ++ segmentWords ds := by
  have hmarks : ∀ c ∈ gap, isMark c = true := fun c hc => (hgap.2 c hc).1
  have halnum : ∀ c ∈ gap, c.isAlphanum = false := fun c hc => (isMark_spec (hmarks c hc)).2
  simp only [segmentWords, transliterate_append, List.map_append, transliterate_of_marks hmarks,
    map_toLower_of_marks hmarks]
  exact runs_append_gap_append hgap.1 halnum _ _

theorem map_toLower_transliterate_map_toLower (cs : List Char) :
    (transliterate (cs.map Char.toLower)).map Char.toLower = (transliterate cs).map Char.toLower := by
  have hchar : ∀ c : Char, (Transliteration.spell c.toLower).map Char.toLower =
      (Transliteration.spell c).map Char.toLower := by
    intro c
    by_cases hc : c.isUpper = true
    · have halnum : c.isAlphanum = true := by simp [isAlphanum_eq, Char.isAlpha, hc]
      have hascii : isAscii c = true := isAscii_of_isAlphanum halnum
      have hascii' : isAscii c.toLower = true := isAscii_of_isAlphanum (by simpa using halnum)
      have hlower : c.toLower.toLower = c.toLower :=
        toLower_eq_self_iff.mpr (Char.isUpper_toLower_eq_false c)
      rw [Transliteration.spell_of_isAscii c hascii, Transliteration.spell_of_isAscii _ hascii']
      simp [hlower]
    · rw [Char.toLower_eq_of_not_isUpper hc]
  rw [transliterate, transliterate, List.flatMap_map, List.map_flatMap, List.map_flatMap]
  exact List.flatMap_congr fun c _ => hchar c

theorem packageWords_map_toLower (cs : List Char) :
    packageWords (cs.map Char.toLower) = packageWords cs := by
  have hslash : (· == '/') ∘ Char.toLower = (· == '/') := by
    funext c
    rw [Function.comp_apply, Bool.eq_iff_iff, beq_iff_eq, beq_iff_eq]
    exact toLower_eq_iff_of_not_isAlpha (by decide)
  have hsplit : (cs.map Char.toLower).splitOn '/' =
      (cs.splitOn '/').map fun p => p.map Char.toLower := by
    rw [List.splitOn, List.splitOn, splitOnP_map, hslash]
  have hwords : ∀ p : List Char, segmentWords (p.map Char.toLower) = segmentWords p := by
    intro p
    rw [segmentWords, segmentWords, map_toLower_transliterate_map_toLower]
  rw [packageWords, packageWords, hsplit, List.map_map]
  congr 2
  funext p
  exact hwords p

theorem Respelled.packageWords_eq (h : Respelled cs ds) : packageWords cs = packageWords ds := by
  cases h with
  | cased h => rw [← packageWords_map_toLower cs, h, packageWords_map_toLower]
  | blank hgap hcs hds =>
    rw [packageWords, packageWords, hcs, hds, List.map_append, List.map_append, List.map_cons,
      segmentWords_of_marks hgap, List.filter_append, List.filter_append, List.filter_cons_of_neg]
    simp
  | marked pre post hgap hgap' =>
    obtain ⟨ps, p, q, qs, -, -, hgaps⟩ := exists_splitOn_gap '/' pre post
    have hslash : ∀ {gap : List Char}, AreMarks gap → '/' ∉ gap :=
      fun hgap hmem => (hgap.2 '/' hmem).2 rfl
    have hwords := segmentWords_append_marks_append hgap p q
    have hwords' := segmentWords_append_marks_append hgap' p q
    simp only [packageWords, hgaps _ (hslash hgap), hgaps _ (hslash hgap'), List.map_append,
      List.map_cons, hwords, hwords']

theorem packageWords_eq_of_eqvGen (h : Relation.EqvGen Respelled cs ds) :
    packageWords cs = packageWords ds := by
  induction h with
  | rel _ _ h => exact h.packageWords_eq
  | refl _ => rfl
  | symm _ _ _ ih => exact ih.symm
  | trans _ _ _ _ _ ih₁ ih₂ => exact ih₁.trans ih₂

theorem AreWords.segmentWords_intercalate (h : AreWords ws) :
    segmentWords (['_'].intercalate ws) = ws := by
  have hascii : ∀ c ∈ ['_'].intercalate ws, isAscii c = true :=
    fun c hc => isAscii_of_isIdentChar (isIdentChar_of_mem_intercalate h.isRun c hc)
  have hlower : (['_'].intercalate ws).map Char.toLower = ['_'].intercalate ws :=
    map_toLower_eq_self_iff.mpr (isUpper_of_mem_intercalate h.2)
  rw [segmentWords, transliterate_eq_self hascii, hlower, runs_intercalate h.isRun]

theorem toList_slashed_dottedPackage (package : String) :
    (slashed (dottedPackage package)).toList =
      ['/'].intercalate ((packageWords package.toList).map fun ws => ['_'].intercalate ws) := by
  rw [slashed, String.toList_ofList, toList_dottedPackage, map_intercalate, List.map_map]
  congr 1
  refine List.map_congr_left fun ws hws => ?_
  have hdot := (areWords_of_mem_packageWords ws hws).not_mem (c := '.') (by decide)
  rw [Function.comp_apply]
  conv_rhs => rw [← List.map_id (['_'].intercalate ws)]
  refine List.map_congr_left fun c hc => ?_
  have hne : c ≠ '.' := by
    rintro rfl
    exact hdot hc
  simp [hne]

theorem packageWords_slashed_dottedPackage (package : String) :
    packageWords (slashed (dottedPackage package)).toList = packageWords package.toList := by
  have hwords : ∀ ws ∈ packageWords package.toList, AreWords ws := areWords_of_mem_packageWords
  rw [toList_slashed_dottedPackage]
  generalize packageWords package.toList = wss at hwords
  by_cases hnil : wss = []
  · subst hnil
    rfl
  · have hslash : ∀ s ∈ wss.map (fun ws => ['_'].intercalate ws), '/' ∉ s := by
      rw [List.forall_mem_map]
      exact fun ws hws => (hwords ws hws).not_mem (by decide)
    have hread : wss.map (segmentWords ∘ fun ws => ['_'].intercalate ws) = wss := by
      conv_rhs => rw [← List.map_id wss]
      exact List.map_congr_left fun ws hws => (hwords ws hws).segmentWords_intercalate
    rw [packageWords, List.splitOn_intercalate '/' hslash (by simpa using hnil), List.map_map, hread,
      List.filter_eq_self]
    intro ws hws
    simpa using (hwords ws hws).1

theorem dottedPackage_eq_iff {package other : String} :
    dottedPackage other = dottedPackage package ↔
      packageWords other.toList = packageWords package.toList := by
  constructor
  · intro h
    rw [← packageWords_slashed_dottedPackage, h, packageWords_slashed_dottedPackage]
  · intro h
    rw [← String.toList_inj, toList_dottedPackage, toList_dottedPackage, h]

theorem isNormal_dottedPackage (package : String) : IsNormal (dottedPackage package) := by
  have hwords : ∀ s ∈ dottedSegments (dottedPackage package),
      ∃ ws, AreWords ws ∧ s = ['_'].intercalate ws := by
    intro s hs
    rw [dottedSegments_dottedPackage] at hs
    obtain ⟨ws, hws, rfl⟩ := List.mem_map.mp hs
    exact ⟨ws, areWords_of_mem_packageWords ws hws, rfl⟩
  have hne : ∀ s ∈ dottedSegments (dottedPackage package), s ≠ [] := by
    intro s hs
    obtain ⟨ws, hws, rfl⟩ := hwords s hs
    exact hws.intercalate_ne_nil
  refine ⟨hne, ?_, ?_, ?_, ?_⟩
  · intro s hs
    obtain ⟨ws, hws, rfl⟩ := hwords s hs
    exact (inner_iff.mp (inner_intercalate_runs hws.isRun)).1
  · intro s hs hlast
    obtain ⟨ws, hws, rfl⟩ := hwords s hs
    exact absurd (isAlphanum_of_getLast?_intercalate hws.isRun hlast) (by decide)
  · -- Slashes for the dots neither part two underscores nor join any.
    have hinner : Inner (slashed (dottedPackage package)).toList := by
      rw [toList_slashed_dottedPackage]
      refine inner_intercalate (List.forall_mem_map.mpr fun ws hws => ?_)
      exact inner_intercalate_runs (areWords_of_mem_packageWords ws hws).isRun
    intro hinfix
    have hslashed := hinfix.map fun c => if c == '.' then '/' else c
    rw [← String.toList_ofList (l := List.map _ (dottedPackage package).toList)] at hslashed
    exact not_infix_of_inner hinner hslashed
  · intro hinfix
    by_cases hempty : dottedPackage package = ""
    · rw [hempty] at hinfix
      simp at hinfix
    · rw [dottedSegments, if_neg hempty] at hne
      exact not_infix_of_splitOn_ne_nil hne hinfix

/-- The Java package is a normal form of the spellings of a package: it is read back as itself, other
spellings make no difference and other words do, and it has nothing superfluous. -/
theorem dottedPackage_normal (package : String) :
    dottedPackage (slashed (dottedPackage package)) = dottedPackage package ∧
      (∀ other : String, Relation.EqvGen Respelled package.toList other.toList →
        dottedPackage other = dottedPackage package) ∧
      (∀ other : String, dottedPackage other = dottedPackage package ↔
        packageWords other.toList = packageWords package.toList) ∧
      IsNormal (dottedPackage package) := by
  refine ⟨?_, ?_, fun other => dottedPackage_eq_iff, isNormal_dottedPackage package⟩
  · exact dottedPackage_eq_iff.mpr (packageWords_slashed_dottedPackage package)
  · intro other h
    exact dottedPackage_eq_iff.mpr (packageWords_eq_of_eqvGen h).symm

end

attribute [local instance] Transliteration.byScript

/-- Other capitals, an empty segment, and hyphens for a space. -/
theorem dottedPackage_normal_cart :
    Relation.EqvGen Respelled "com/acme/Cart Discount".toList "COM//acme/cart--discount".toList ∧
      dottedPackage "com/acme/Cart Discount" = "com.acme.cart_discount" ∧
      dottedPackage "COM//acme/cart--discount" = "com.acme.cart_discount" ∧
      dottedPackage "com/acme/cart_discount" = "com.acme.cart_discount" := by
  have hcased : Respelled "com/acme/Cart Discount".toList "COM/acme/cart discount".toList :=
    .cased (by decide +kernel)
  have hblank : Respelled "COM/acme/cart discount".toList "COM//acme/cart discount".toList :=
    @Respelled.blank _ _ [] ["COM".toList] ["acme".toList, "cart discount".toList] (by simp)
      (by decide +kernel) (by decide +kernel)
  have hspace : AreMarks " ".toList := ⟨by decide, by simp [isMark, isAscii]⟩
  have hhyphens : AreMarks "--".toList := ⟨by decide, by simp [isMark, isAscii]⟩
  have hmarked : Respelled ("COM//acme/cart".toList ++ " ".toList ++ "discount".toList)
      ("COM//acme/cart".toList ++ "--".toList ++ "discount".toList) :=
    .marked _ _ hspace hhyphens
  have hrespelled : Relation.EqvGen Respelled "com/acme/Cart Discount".toList
      "COM//acme/cart--discount".toList :=
    .trans _ _ _ (.rel _ _ hcased) (.trans _ _ _ (.rel _ _ hblank) (.rel _ _ hmarked))
  have hdotted : dottedPackage "com/acme/Cart Discount" = "com.acme.cart_discount" := by
    decide +kernel
  obtain ⟨hread, hsame, -, -⟩ := dottedPackage_normal "com/acme/Cart Discount"
  rw [hdotted] at hread hsame
  exact ⟨hrespelled, hdotted, hsame _ hrespelled, hread⟩

end Naming
end SchemaBinding
