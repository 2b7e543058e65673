import SchemaBinding.Proofs.Text.Runs
import SchemaBinding.Text.Scripts

/-! Sanitised texts. Main statement: a sanitised text is the maximal runs of letters and digits of
its transliteration with one underscore between each two of them, so that sanitising it again
changes nothing and a separator parts what is sanitised on its sides. -/
namespace SchemaBinding
namespace Text

variable {c d : Char} {cs run : List Char} {rs : List (List Char)}

/-- The runs of letters and digits of a text in their order, with other characters in front of each
and behind the last one. None of them can be longer: it begins behind another character or at the
start, and ends in front of another one or at the end. -/
inductive HasRuns : List Char → List (List Char) → Prop
  | gap {gap : List Char} (hgap : ∀ c ∈ gap, c.isAlphanum = false) : HasRuns gap []
  | run {gap run cs : List Char} {rs : List (List Char)} (hgap : ∀ c ∈ gap, c.isAlphanum = false)
      (hrun : IsRun run) (hend : cs.head?.any Char.isAlphanum = false) (hcs : HasRuns cs rs) :
      HasRuns (gap ++ run ++ cs) (run :: rs)

theorem HasRuns.runs_eq (h : HasRuns cs rs) : runs cs = rs := by
  induction h with
  | gap hgap => exact runs_of_separators hgap
  | run hgap hrun hend _ ih =>
    rw [List.append_assoc, runs_separators_append hgap, runs_append_of_end hrun hend, ih]

theorem HasRuns.cons_separator (hc : c.isAlphanum = false) (h : HasRuns cs rs) :
    HasRuns (c :: cs) rs := by
  cases h with
  | gap hgap => exact .gap (List.forall_mem_cons.mpr ⟨hc, hgap⟩)
  | @run gap run cs rs hgap hrun hend hcs =>
    exact @HasRuns.run (c :: gap) run cs rs (List.forall_mem_cons.mpr ⟨hc, hgap⟩) hrun hend hcs

theorem HasRuns.cons_letter (hc : c.isAlphanum = true) (hd : d.isAlphanum = true)
    (h : HasRuns (d :: cs) (run :: rs)) : HasRuns (c :: d :: cs) ((c :: run) :: rs) := by
  generalize htext : d :: cs = ds at h
  cases h with
  | @run gap _ cs _ hgap hrun hend hcs =>
    cases gap with
    | nil =>
      have hletters : ∀ b ∈ c :: run, b.isAlphanum = true := List.forall_mem_cons.mpr ⟨hc, hrun.2⟩
      exact @HasRuns.run [] (c :: run) cs rs (by simp) ⟨List.cons_ne_nil c run, hletters⟩ hend hcs
    | cons b gap =>
      -- Nothing can stand in front of the run, since the text begins with a letter or a digit.
      cases htext
      have hb := hgap d (by simp)
      rw [hd] at hb
      cases hb

theorem hasRuns_runs (cs : List Char) : HasRuns cs (runs cs) := by
  induction cs using runs_induction with
  | nil => exact .gap (by simp)
  | separator c cs hc ih =>
    rw [runs_separator hc]
    exact ih.cons_separator hc
  | last c cs hc hend ih =>
    rw [runs_cons_of_end hc hend]
    exact @HasRuns.run [] [c] cs (runs cs) (by simp) ⟨by simp, by simpa using hc⟩ hend ih
  | inner c d cs hc hd ih =>
    obtain ⟨run, rest, hruns, hcons⟩ := exists_runs_cons_cons hc hd cs
    rw [hruns] at ih
    rw [hcons]
    exact ih.cons_letter hc hd

theorem hasRuns_iff : HasRuns cs rs ↔ rs = runs cs := by
  constructor
  · exact fun h => h.runs_eq.symm
  · rintro rfl
    exact hasRuns_runs cs

theorem IsSanitized.inner (h : IsSanitized cs) : Inner cs := by
  refine inner_iff.mpr ⟨h.head_ne, List.isChain_iff_forall_rel_of_append_cons_cons.mpr ?_⟩
  rintro a b pre post hcs rfl
  have hident := h.isIdentChar a (by simp [hcs])
  have hne : a ≠ '_' := by
    rintro rfl
    exact h.no_underscores ⟨pre, post, by simp [hcs]⟩
  simpa [Text.isIdentChar, hne] using hident

theorem intercalate_runs_append {qs : List (List Char)} (hrs : ∀ run ∈ rs, IsRun run)
    (hqs : ∀ run ∈ qs, IsRun run) :
    ['_'].intercalate (rs ++ qs) = ['_'].intercalate
      ([['_'].intercalate rs, ['_'].intercalate qs].filter fun s => !s.isEmpty) := by
  by_cases hr : rs = []
  · by_cases hq : qs = []
    · simp [hr, hq]
    · have hne := mt (intercalate_eq_nil_iff hqs).mp hq
      simp [hr, hne]
  · have hne := mt (intercalate_eq_nil_iff hrs).mp hr
    by_cases hq : qs = []
    · simp [hq, hne]
    · have hne' := mt (intercalate_eq_nil_iff hqs).mp hq
      rw [intercalate_append ['_'] hr hq]
      simp [hne, hne', List.intercalate_cons_of_ne_nil]

section

variable [Transliteration]

theorem isSanitized_sanitize (cs : List Char) : IsSanitized (sanitize cs) where
  isIdentChar _ := isIdentChar_of_mem_sanitize
  head_ne := (inner_iff.mp (inner_sanitize cs)).1
  last_ne := getLast?_sanitize_ne cs
  no_underscores := not_infix_of_inner (inner_sanitize cs)

theorem sanitize_eq_self_iff : sanitize cs = cs ↔ IsSanitized cs := by
  constructor
  · intro h
    rw [← h]
    exact isSanitized_sanitize cs
  · intro h
    have hascii : ∀ c ∈ cs, isAscii c = true :=
      fun c hc => isAscii_of_isIdentChar (h.isIdentChar c hc)
    rw [sanitize_eq_intercalate, transliterate_eq_self hascii]
    exact intercalate_runs h.isIdentChar h.inner h.last_ne

theorem sanitize_append_separator (hascii : isAscii c = true) (hc : c.isAlphanum = false)
    (ds cs : List Char) :
    sanitize (ds ++ c :: cs) =
      ['_'].intercalate ([sanitize ds, sanitize cs].filter fun s => !s.isEmpty) := by
  have hchar : transliterate (c :: cs) = c :: transliterate cs := by
    simp [transliterate, Transliteration.spell_of_isAscii c hascii]
  rw [sanitize_eq_intercalate, transliterate_append, hchar, runs_append_separator hc,
    intercalate_runs_append isRun_of_mem_runs isRun_of_mem_runs, ← sanitize_eq_intercalate,
    ← sanitize_eq_intercalate]

/-- Sanitising finds the maximal runs of letters and digits in the transliteration of a text and
joins them by single underscores. What it gives is therefore in normal form, it leaves exactly the
normal forms alone, and a separator parts a text into two that are sanitised each by itself. -/
theorem sanitize_joins_runs (cs : List Char) :
    (∀ rs, HasRuns (transliterate cs) rs ↔ rs = runs (transliterate cs)) ∧
      sanitize cs = ['_'].intercalate (runs (transliterate cs)) ∧
      sanitize (sanitize cs) = sanitize cs ∧
      IsSanitized (sanitize cs) ∧
      (sanitize cs = cs ↔ IsSanitized cs) ∧
      ∀ front c back, cs = front ++ c :: back → isAscii c = true → c.isAlphanum = false →
        sanitize cs =
          ['_'].intercalate ([sanitize front, sanitize back].filter fun s => !s.isEmpty) := by
  have hnormal : IsSanitized (sanitize cs) := isSanitized_sanitize cs
  refine ⟨fun rs => hasRuns_iff, sanitize_eq_intercalate cs, sanitize_eq_self_iff.mpr hnormal,
    hnormal, sanitize_eq_self_iff, ?_⟩
  rintro front c back rfl hascii hc
  exact sanitize_append_separator hascii hc front back

end

attribute [local instance] Transliteration.byScript

/-- Underscores at the ends and among other characters between the runs, two letters for one, and an
asterisk for a multiplication sign. -/
theorem sanitize_joins_runs_size :
    "__Größe-_2×4__".toList = "__Größe".toList ++ '-' :: "_2×4__".toList ∧
      isAscii '-' = true ∧ Char.isAlphanum '-' = false ∧
      HasRuns "__Grosse-_2*4__".toList ["Grosse".toList, "2".toList, "4".toList] ∧
      sanitize "__Größe-_2×4__".toList = "Grosse_2_4".toList ∧
      sanitize "__Größe-_2×4__".toList = ['_'].intercalate ["Grosse".toList, "2_4".toList] := by
  have htext : "__Größe-_2×4__".toList = "__Größe".toList ++ '-' :: "_2×4__".toList := by
    decide +kernel
  have hascii : isAscii '-' = true := by decide
  have hmark : Char.isAlphanum '-' = false := by decide
  have hspelled : transliterate "__Größe-_2×4__".toList = "__Grosse-_2*4__".toList := by
    decide +kernel
  have hruns : runs "__Grosse-_2*4__".toList = ["Grosse".toList, "2".toList, "4".toList] := by
    decide +kernel
  have hjoined : ['_'].intercalate ["Grosse".toList, "2".toList, "4".toList] =
      "Grosse_2_4".toList := by decide +kernel
  have hsides : [sanitize "__Größe".toList, sanitize "_2×4__".toList].filter (fun s => !s.isEmpty) =
      ["Grosse".toList, "2_4".toList] := by decide +kernel
  obtain ⟨hhas, hsanitize, -, -, -, hparted⟩ := sanitize_joins_runs "__Größe-_2×4__".toList
  have hparted := hparted _ _ _ htext hascii hmark
  rw [hspelled, hruns] at hhas hsanitize
  rw [hsides] at hparted
  exact ⟨htext, hascii, hmark, (hhas _).mpr rfl, hsanitize.trans hjoined, hparted⟩

end Text
end SchemaBinding
