import SchemaBinding.Naming.ModulePath
import SchemaBinding.Proofs.Text.Runs

/-! White space around a package. Main statement: it leaves no trace in a sanitised text, so that a
trimmed package has the module path and the Java package that it had before. -/
namespace SchemaBinding

namespace Text

variable {cs gap : List Char}

theorem not_mem_of_isBlank (hgap : ∀ c ∈ gap, isBlank c = true) : '/' ∉ gap := by
  intro hslash
  exact absurd (hgap '/' hslash) (by decide)

theorem splitOn_append_right (hgap : '/' ∉ gap) (cs : List Char) :
    ∃ ps p, cs.splitOn '/' = ps ++ [p] ∧ (cs ++ gap).splitOn '/' = ps ++ [p ++ gap] := by
  obtain ⟨ps, p, q, qs, hcs, hq, hgaps⟩ := exists_splitOn_gap '/' cs []
  have hnil : ([] : List Char).splitOn '/' = [[]] := rfl
  rw [hnil] at hq
  cases hq
  have happend := hgaps gap hgap
  rw [List.append_nil, List.append_nil] at happend
  exact ⟨ps, p, hcs, happend⟩

variable [Transliteration]

theorem sanitize_append_blanks (hgap : ∀ c ∈ gap, isBlank c = true) :
    sanitize (cs ++ gap) = sanitize cs := by
  rw [sanitize_eq_intercalate, sanitize_eq_intercalate, transliterate_append,
    runs_append_separators (not_isAlphanum_of_mem_transliterate hgap)]

theorem sanitize_blanks_append (hgap : ∀ c ∈ gap, isBlank c = true) :
    sanitize (gap ++ cs) = sanitize cs := by
  rw [sanitize_eq_intercalate, sanitize_eq_intercalate, transliterate_append,
    runs_separators_append (not_isAlphanum_of_mem_transliterate hgap)]

/-- White space around a text changes none of its pieces once they are sanitised. -/
theorem map_sanitize_splitOn_trimOf (cs : List Char) :
    ((trimOf isBlank cs).splitOn '/').map sanitize = (cs.splitOn '/').map sanitize := by
  obtain ⟨front, back, hcs, hfront, hback⟩ := exists_trimOf isBlank cs
  obtain ⟨q, qs, htrim⟩ :=
    List.exists_cons_of_ne_nil (List.splitOn_ne_nil '/' (trimOf isBlank cs))
  have hfirst := splitOn_append_of_not_mem (not_mem_of_isBlank hfront) htrim
  obtain ⟨ps, p, hlast, hall⟩ :=
    splitOn_append_right (not_mem_of_isBlank hback) (front ++ trimOf isBlank cs)
  calc ((trimOf isBlank cs).splitOn '/').map sanitize
      = ((front ++ q) :: qs).map sanitize := by
        rw [htrim, List.map_cons, List.map_cons, sanitize_blanks_append hfront]
    _ = (ps ++ [p]).map sanitize := by rw [← hfirst, hlast]
    _ = (ps ++ [p ++ back]).map sanitize := by
        rw [List.map_append, List.map_append, List.map_singleton, List.map_singleton,
          sanitize_append_blanks hback]
    _ = (cs.splitOn '/').map sanitize := by rw [← hall, ← hcs]

end Text

namespace Naming

open Text

variable [Transliteration]

theorem modulePath_trim [SnakeCasing] (package : String) :
    modulePath (trim package) = modulePath package := by
  have hsegments : ∀ cs, snakeSegments cs =
      ['/'].intercalate (((cs.splitOn '/').map sanitize).map snakeCase) := by
    intro cs
    rw [List.map_map]
    rfl
  rw [modulePath, modulePath, moduleSegments, moduleSegments, hsegments, hsegments, trim,
    String.toList_ofList, map_sanitize_splitOn_trimOf]

theorem dottedPackage_trim (package : String) :
    dottedPackage (trim package) = dottedPackage package := by
  have hsegments : ∀ cs : List Char, (cs.splitOn '/').map (fun s => (sanitize s).map Char.toLower) =
      ((cs.splitOn '/').map sanitize).map fun s => s.map Char.toLower := by
    intro cs
    rw [List.map_map]
    rfl
  rw [dottedPackage, dottedPackage, hsegments, hsegments, trim, String.toList_ofList,
    map_sanitize_splitOn_trimOf]

end Naming
end SchemaBinding
