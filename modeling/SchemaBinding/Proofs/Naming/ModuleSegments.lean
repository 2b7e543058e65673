import SchemaBinding.Proofs.Naming.Groups
import SchemaBinding.Proofs.TypeExpr.Path
import Mathlib.Computability.Language

/-! The segments of module paths. Main statement: a module path is what one walk over the segments
of its package writes, there is nothing to collapse in between, and every segment of it is in the
language `[a-z0-9]+(_[a-z0-9]+)*_?`. -/
namespace SchemaBinding
namespace Naming

open Text
open scoped Computability

namespace Grammar

def letter : Language Char := {cs | ∃ c : Char, (c.isLower = true ∨ c.isDigit = true) ∧ cs = [c]}

def underscore : Language Char := {['_']}

def word : Language Char := letter * letter∗

/-- Words with one underscore between each two of them, and at most one at the end. -/
def segment : Language Char := word * (underscore * word)∗ * (1 + underscore)

theorem letter_le_word : letter ≤ word :=
  calc letter = letter * 1 := (mul_one letter).symm
    _ ≤ letter * letter∗ := by gcongr; exact one_le_kstar

theorem letter_mul_word_le : letter * word ≤ word := by
  rw [word]
  gcongr
  exact mul_kstar_le_kstar

theorem word_mul_le_segment : word * (1 + underscore) ≤ segment :=
  calc word * (1 + underscore) = word * 1 * (1 + underscore) := by rw [mul_one]
    _ ≤ segment := by rw [segment]; gcongr; exact one_le_kstar

theorem letter_mul_segment_le : letter * segment ≤ segment := by
  rw [segment, ← mul_assoc, ← mul_assoc]
  gcongr
  exact letter_mul_word_le

theorem word_mul_segment_le : word * (underscore * segment) ≤ segment :=
  calc word * (underscore * segment)
      = word * (underscore * word * (underscore * word)∗) * (1 + underscore) := by
        simp only [segment, mul_assoc]
    _ ≤ segment := by rw [segment]; gcongr; exact mul_kstar_le_kstar

theorem cons_mem_segment {c : Char} {cs : List Char} (hc : [c] ∈ letter) (hcs : cs ∈ segment) :
    c :: cs ∈ segment :=
  letter_mul_segment_le (Language.append_mem_mul hc hcs)

theorem cons_underscore_mem_segment {c : Char} {cs : List Char} (hc : [c] ∈ letter)
    (hcs : cs ∈ segment) : c :: '_' :: cs ∈ segment := by
  have hunderscore : ['_'] ∈ underscore := rfl
  have hrest := Language.append_mem_mul hunderscore hcs
  exact word_mul_segment_le (Language.append_mem_mul (letter_le_word hc) hrest)

theorem append_mem_segment {c : Char} {tail : List Char} (hc : [c] ∈ letter)
    (htail : tail ∈ 1 + underscore) : c :: tail ∈ segment :=
  word_mul_le_segment (Language.append_mem_mul (letter_le_word hc) htail)

theorem mem_segment_of_inner {cs : List Char} (hne : cs ≠ []) (hinner : Inner cs)
    (hletter : ∀ c ∈ cs, c ≠ '_' → [c] ∈ letter) : cs ∈ segment := by
  -- Behind a letter the text ends, goes on with a letter, or with an underscore and a shorter text.
  induction cs using List.twoStepInduction with
  | nil => exact absurd rfl hne
  | singleton c =>
    have hc : c ≠ '_' := by simpa using (inner_iff.mp hinner).1
    exact append_mem_segment (hletter c (by simp) hc) (Or.inl rfl)
  | cons_cons c d cs ih ihcons =>
    have hc : c ≠ '_' := by simpa using (inner_iff.mp hinner).1
    have hfirst := hletter c (by simp) hc
    have hchain : (d :: cs).IsChain Behind := (inner_iff.mp hinner).2.tail
    by_cases hd : d = '_'
    · subst hd
      by_cases hcs : cs = []
      · subst hcs
        exact append_mem_segment hfirst (Or.inr rfl)
      · have htail := inner_of_isChain_underscore hchain
        have hrest := ih hcs htail fun b hb => hletter b (by simp [hb])
        exact cons_underscore_mem_segment hfirst hrest
    · have hnext : Inner (d :: cs) := inner_iff.mpr ⟨by simpa using hd, hchain⟩
      have hrest := ihcons d (by simp) hnext fun b hb => hletter b (List.mem_cons_of_mem c hb)
      exact cons_mem_segment hfirst hrest

end Grammar

section

variable [Transliteration] [SnakeCasing] {package : String}

theorem singleton_mem_letter {segment : List Char} (h : segment ∈ moduleSegments package.toList)
    {c : Char} (hc : c ∈ segment) (hne : c ≠ '_') : [c] ∈ Grammar.letter := by
  have hident := (moduleSegments_spec h).2.2 c hc
  have hupper : c.isUpper = false := by
    rcases mem_of_mem_moduleSegments h hc with hreplaced | ⟨s, -, hsnake⟩
    · have hall : "api_models_".toList.all (fun d => !d.isUpper) = true := by decide
      simpa using List.all_eq_true.mp hall c hreplaced
    · exact isUpper_of_mem_snakeCase hsnake
  refine ⟨c, ?_, rfl⟩
  simpa [isIdentChar, isAlphanum_eq, Char.isAlpha, hupper, hne] using hident

theorem mem_segment_of_mem_moduleSegments {segment : List Char}
    (h : segment ∈ moduleSegments package.toList) : segment ∈ Grammar.segment := by
  obtain ⟨hne, hinner, -⟩ := moduleSegments_spec h
  exact Grammar.mem_segment_of_inner hne hinner fun c => singleton_mem_letter h

theorem stem_part_modulePath (package : String) :
    Path.stem (Path.part (modulePath package)) = Path.stem (moduleSegments package.toList) := by
  have hne : ∀ p ∈ moduleSegments package.toList, p ≠ [] := fun p hp => (moduleSegments_spec hp).1
  rw [modulePath]
  rcases List.eq_nil_or_concat (moduleSegments package.toList) with h | ⟨ps, p, h⟩
  · rw [h]
    rfl
  · have hp : p ≠ [] := hne p (by simp [h])
    have hpath : String.ofList (Path.stem ps ++ p) ≠ "" := by
      rw [Ne, ← String.toList_inj]
      simp [hp]
    rw [h, List.concat_eq_append, Path.intercalate_concat, Path.part_of_ne hpath]
    simp

/-- The segments can be read off the path. -/
theorem modulePath_eq_iff {p q : String} :
    modulePath p = modulePath q ↔ moduleSegments p.toList = moduleSegments q.toList := by
  constructor
  · intro h
    have hstem : Path.stem (moduleSegments p.toList) = Path.stem (moduleSegments q.toList) := by
      rw [← stem_part_modulePath, ← stem_part_modulePath, h]
    have hparts : ∀ r : String,
        Path.parts (Path.stem (moduleSegments r.toList)) = moduleSegments r.toList ++ [[]] := by
      intro r
      have hcolon : ∀ s ∈ moduleSegments r.toList, ':' ∉ s :=
        fun s => colon_not_mem_of_mem_moduleSegments
      simpa using Path.parts_stem_append hcolon (List.not_mem_nil (a := ':'))
    have heq := congrArg Path.parts hstem
    rw [hparts, hparts] at heq
    exact List.append_cancel_right heq
  · intro h
    rw [modulePath, modulePath, h]

theorem parts_modulePath (h : modulePath package ≠ "") :
    Path.parts (modulePath package).toList = moduleSegments package.toList := by
  have hcolon : ∀ p ∈ moduleSegments package.toList, ':' ∉ p :=
    fun p => colon_not_mem_of_mem_moduleSegments
  rcases List.eq_nil_or_concat (moduleSegments package.toList) with hnil | ⟨ps, p, hps⟩
  · exact absurd (by simp [modulePath, hnil]) h
  · rw [List.concat_eq_append] at hps
    rw [hps, List.forall_mem_append, List.forall_mem_singleton] at hcolon
    rw [modulePath, String.toList_ofList, hps, Path.intercalate_concat,
      Path.parts_stem_append hcolon.1 hcolon.2]

/-- A module path is what one walk over the segments of its package writes. Nothing is left for the
pass over repeated underscores, and every segment of the path is in the language. -/
theorem modulePath_spec (package : String) :
    modulePath package = groupedPath joint package ∧
      ¬['_', '_'] <:+: shortenSegments (snakeSegments package.toList) ∧
      collapseUnderscores (shortenSegments (snakeSegments package.toList)) =
        shortenSegments (snakeSegments package.toList) ∧
      (modulePath package ≠ "" →
        ∀ p ∈ Path.parts (modulePath package).toList, p ∈ Grammar.segment) := by
  have hinner : Inner (shortenSegments (snakeSegments package.toList)) :=
    inner_shortenSegments (inner_snakeSegments package.toList)
  have hpath := modulePath_eq_groupedPath package
  refine ⟨hpath, not_infix_of_inner hinner, collapseUnderscores_of_inner hinner, ?_⟩
  intro hne p hp
  rw [parts_modulePath hne] at hp
  exact mem_segment_of_mem_moduleSegments hp

end

attribute [local instance] Transliteration.byScript SnakeCasing.byCapitals

/-- Three segments of this package are written into one. -/
theorem modulePath_spec_crossplatform :
    modulePath "com/crossplatform/Models/x2" = "com::crossapi_models_x2" ∧
      ∀ p ∈ ["com".toList, "crossapi_models_x2".toList], p ∈ Grammar.segment := by
  have hpath : modulePath "com/crossplatform/Models/x2" = "com::crossapi_models_x2" := by
    decide +kernel
  obtain ⟨-, -, -, hsegments⟩ := modulePath_spec "com/crossplatform/Models/x2"
  rw [hpath] at hsegments
  exact ⟨hpath, hsegments (by decide)⟩

end Naming
end SchemaBinding
