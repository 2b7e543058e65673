import SchemaBinding.Naming.ModulePath
import SchemaBinding.Proofs.Naming.FieldIdentifier
import SchemaBinding.Proofs.Text.Capitalized
import SchemaBinding.Proofs.Text.SnakeWords

/-! Java packages by their words. Main statements: a Java package has a segment for every segment of
its package with letters or digits, which holds the words of that one, and its segments are lowercase
identifiers unless the first letter or digit of one is a digit. -/
namespace SchemaBinding
namespace Naming

open Text

def AreWords (ws : List (List Char)) : Prop := ws ≠ [] ∧ ∀ word ∈ ws, IsLowerRun word

variable {segment package : List Char} {ws : List (List Char)}

theorem AreWords.isRun (h : AreWords ws) : ∀ word ∈ ws, IsRun word := fun word hword =>
  (h.2 word hword).1

theorem AreWords.intercalate_ne_nil (h : AreWords ws) : ['_'].intercalate ws ≠ [] :=
  mt (intercalate_eq_nil_iff h.isRun).mp h.1

theorem AreWords.isSnakeChar (h : AreWords ws) :
    ∀ c ∈ ['_'].intercalate ws, isSnakeChar c = true := by
  intro c hc
  have hident := isIdentChar_of_mem_intercalate h.isRun c hc
  exact isSnakeChar_iff.mpr ⟨hident, isUpper_of_mem_intercalate h.2 c hc⟩

theorem AreWords.not_mem (h : AreWords ws) {c : Char} (hc : Naming.isSnakeChar c = false) :
    c ∉ ['_'].intercalate ws := by
  intro hmem
  rw [h.isSnakeChar c hmem] at hc
  cases hc

theorem AreWords.isSnakeWord_iff (h : AreWords ws) :
    isSnakeWord (['_'].intercalate ws) = true ↔ ws.flatten.head?.any Char.isDigit = false := by
  rw [← head?_intercalate_runs h.isRun]
  exact ⟨head?_of_isSnakeWord, isSnakeWord_of_head h.intercalate_ne_nil h.isSnakeChar⟩

def dottedSegments (package : String) : List (List Char) :=
  if package = "" then [] else package.toList.splitOn '.'

section

variable [Transliteration]

/-- The runs of letters and digits of a segment, in lowercase. -/
def segmentWords (segment : List Char) : List (List Char) :=
  runs ((transliterate segment).map Char.toLower)

/-- The words of a package, segment by segment. Segments without words are left out. -/
def packageWords (package : List Char) : List (List (List Char)) :=
  ((package.splitOn '/').map segmentWords).filter fun ws => !ws.isEmpty

theorem isLowerRun_of_mem_segmentWords : ∀ word ∈ segmentWords segment, IsLowerRun word := by
  intro word hword
  refine ⟨isRun_of_mem_runs word hword, ?_⟩
  rw [segmentWords, runs_map_toLower] at hword
  obtain ⟨run, -, rfl⟩ := List.mem_map.mp hword
  exact List.forall_mem_map.mpr fun c _ => Char.isUpper_toLower_eq_false c

theorem areWords_of_mem_packageWords : ∀ ws ∈ packageWords package, AreWords ws := by
  intro ws hws
  obtain ⟨hmem, hne⟩ := List.mem_filter.mp hws
  obtain ⟨segment, -, rfl⟩ := List.mem_map.mp hmem
  exact ⟨by simpa using hne, isLowerRun_of_mem_segmentWords⟩

theorem map_toLower_sanitize (segment : List Char) :
    (sanitize segment).map Char.toLower = ['_'].intercalate (segmentWords segment) := by
  have hunderscore : ['_'].map Char.toLower = ['_'] := rfl
  rw [sanitize_eq_intercalate, map_intercalate, hunderscore, ← runs_map_toLower, segmentWords]

theorem toList_dottedPackage (package : String) :
    (dottedPackage package).toList =
      ['.'].intercalate ((packageWords package.toList).map fun ws => ['_'].intercalate ws) := by
  have hwords : (package.toList.splitOn '/').map (fun s => (sanitize s).map Char.toLower) =
      ((package.toList.splitOn '/').map segmentWords).map fun ws => ['_'].intercalate ws := by
    rw [List.map_map]
    exact List.map_congr_left fun s _ => map_toLower_sanitize s
  rw [dottedPackage, String.toList_ofList, hwords, packageWords, List.filter_map]
  congr 2
  refine List.filter_congr fun ws hws => ?_
  obtain ⟨segment, -, rfl⟩ := List.mem_map.mp hws
  have hruns : ∀ word ∈ segmentWords segment, IsRun word := fun word => isRun_of_mem_runs word
  rw [Function.comp_apply, Bool.not_inj_iff, Bool.eq_iff_iff, List.isEmpty_iff, List.isEmpty_iff]
  exact intercalate_eq_nil_iff hruns

theorem dottedPackage_eq_empty_iff {package : String} :
    dottedPackage package = "" ↔ packageWords package.toList = [] := by
  rw [← String.toList_inj, toList_dottedPackage, String.toList_empty]
  cases hwords : packageWords package.toList with
  | nil => exact iff_of_true rfl rfl
  | cons ws rest =>
    have hmem : ws ∈ packageWords package.toList := by simp [hwords]
    have hne : ['_'].intercalate ws ≠ [] := (areWords_of_mem_packageWords ws hmem).intercalate_ne_nil
    refine iff_of_false ?_ (by simp)
    by_cases hrest : rest = []
    · simpa [hrest] using hne
    · simp [List.intercalate_cons_of_ne_nil, hrest]

theorem dottedSegments_dottedPackage (package : String) :
    dottedSegments (dottedPackage package) =
      (packageWords package.toList).map fun ws => ['_'].intercalate ws := by
  have hdot : ∀ s ∈ (packageWords package.toList).map (fun ws => ['_'].intercalate ws), '.' ∉ s := by
    rw [List.forall_mem_map]
    exact fun ws hws => (areWords_of_mem_packageWords ws hws).not_mem (by decide)
  by_cases hwords : packageWords package.toList = []
  · rw [dottedPackage_eq_empty_iff.mpr hwords, hwords]
    rfl
  · rw [dottedSegments, if_neg (mt dottedPackage_eq_empty_iff.mp hwords), toList_dottedPackage,
      List.splitOn_intercalate '.' hdot (by simpa using hwords)]

theorem head?_flatten_segmentWords (segment : List Char) :
    (segmentWords segment).flatten.head? =
      ((transliterate segment).find? Char.isAlphanum).map Char.toLower := by
  rw [segmentWords, flatten_runs, filter_map_toLower, List.head?_map, List.head?_filter]

/-- A segment of a Java package holds lowercase letters, digits and underscores. All segments are
identifiers if and only if no segment of the package has a digit for its first letter or digit. -/
theorem isSnakeWord_dottedPackage_iff (package : String) :
    (∀ s ∈ dottedSegments (dottedPackage package), s ≠ [] ∧ s.all isSnakeChar = true) ∧
      ((∀ s ∈ dottedSegments (dottedPackage package), isSnakeWord s = true) ↔
        ∀ segment ∈ package.toList.splitOn '/',
          ((transliterate segment).find? Char.isAlphanum).any Char.isDigit = false) := by
  rw [dottedSegments_dottedPackage, List.forall_mem_map, List.forall_mem_map]
  constructor
  · intro ws hws
    have hwords := areWords_of_mem_packageWords ws hws
    exact ⟨hwords.intercalate_ne_nil, List.all_eq_true.mpr hwords.isSnakeChar⟩
  · have hdigit : ∀ segment, (segmentWords segment).flatten.head?.any Char.isDigit =
        ((transliterate segment).find? Char.isAlphanum).any Char.isDigit := by
      intro segment
      rw [head?_flatten_segmentWords]
      cases (transliterate segment).find? Char.isAlphanum <;> simp
    constructor
    · intro h segment hsegment
      rw [← hdigit]
      by_cases hnone : segmentWords segment = []
      · -- Such a segment is left out, and has no letter or digit to begin with.
        simp [hnone]
      · have hmem : segmentWords segment ∈ packageWords package.toList :=
          List.mem_filter.mpr ⟨List.mem_map_of_mem hsegment, by simp [hnone]⟩
        exact (areWords_of_mem_packageWords _ hmem).isSnakeWord_iff.mp (h _ hmem)
    · intro h ws hws
      rw [(areWords_of_mem_packageWords ws hws).isSnakeWord_iff]
      obtain ⟨segment, hsegment, rfl⟩ := List.mem_map.mp (List.mem_filter.mp hws).1
      rw [hdigit]
      exact h segment hsegment

end

attribute [local instance] Transliteration.byScript

/-- The underscore in front of the digits is cut off with all the others at the ends. -/
theorem not_forall_isSnakeWord_dottedPackage :
    ¬∀ package, ∀ s ∈ dottedSegments (dottedPackage package), isSnakeWord s = true := by
  intro h
  have hsegments : dottedSegments (dottedPackage "models/_2024") =
      ["models".toList, "2024".toList] := by decide +kernel
  have hdigit := h "models/_2024" "2024".toList (by simp [hsegments])
  exact absurd hdigit (by decide)

end Naming
end SchemaBinding
