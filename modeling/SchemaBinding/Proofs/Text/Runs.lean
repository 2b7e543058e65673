import SchemaBinding.Proofs.Text.Inner

/-! Maximal runs of letters and digits. Main statement: a sanitised text is the runs of its
transliteration with one underscore between each two of them. -/
namespace SchemaBinding
namespace Text

/-- The maximal runs of letters and digits of a text. -/
def runs (cs : List Char) : List (List Char) :=
  (cs.splitOnP fun c => !c.isAlphanum).filter fun run => !run.isEmpty

/-- Letters and digits, and at least one of them. -/
def IsRun (run : List Char) : Prop := run ≠ [] ∧ ∀ c ∈ run, c.isAlphanum = true

variable {p : Char → Bool} {c d : Char} {cs : List Char}

@[simp] theorem runs_nil : runs [] = [] := rfl

theorem runs_of_isRun (h : IsRun cs) : runs cs = [cs] := by
  have hsplit : cs.splitOnP (fun c => !c.isAlphanum) = [cs] :=
    List.splitOnP_eq_singleton fun c hc => by simp [h.2 c hc]
  simp [runs, hsplit, h.1]

theorem runs_append_separator (hc : c.isAlphanum = false) (ds cs : List Char) :
    runs (ds ++ c :: cs) = runs ds ++ runs cs := by
  rw [runs, List.splitOnP_append_cons ds cs (by simp [hc]), List.filter_append]
  rfl

theorem runs_separator (hc : c.isAlphanum = false) (cs : List Char) : runs (c :: cs) = runs cs :=
  runs_append_separator hc [] cs

theorem runs_append_separators {gap : List Char} (hgap : ∀ c ∈ gap, c.isAlphanum = false)
    (cs : List Char) : runs (cs ++ gap) = runs cs := by
  induction gap generalizing cs with
  | nil => rw [List.append_nil]
  | cons c gap ih =>
    rw [List.forall_mem_cons] at hgap
    rw [runs_append_separator hgap.1, ← List.nil_append gap, ih hgap.2, runs_nil, List.append_nil]

theorem runs_of_separators {gap : List Char} (hgap : ∀ c ∈ gap, c.isAlphanum = false) :
    runs gap = [] := by
  simpa using runs_append_separators hgap []

theorem runs_separators_append {gap : List Char} (hgap : ∀ c ∈ gap, c.isAlphanum = false)
    (cs : List Char) : runs (gap ++ cs) = runs cs := by
  induction gap with
  | nil => rfl
  | cons c gap ih =>
    rw [List.forall_mem_cons] at hgap
    rw [List.cons_append, runs_separator hgap.1, ih hgap.2]

theorem runs_append_gap_append {gap : List Char} (hne : gap ≠ [])
    (hgap : ∀ c ∈ gap, c.isAlphanum = false) (ds cs : List Char) :
    runs (ds ++ gap ++ cs) = runs ds ++ runs cs := by
  obtain ⟨c, gap, rfl⟩ := List.exists_cons_of_ne_nil hne
  rw [List.forall_mem_cons] at hgap
  rw [List.append_assoc, List.cons_append, runs_append_separator hgap.1,
    runs_separators_append hgap.2]

theorem runs_map_toLower (cs : List Char) :
    runs (cs.map Char.toLower) = (runs cs).map fun run => run.map Char.toLower := by
  have hsame : (fun c => !c.isAlphanum) ∘ Char.toLower = fun c => !c.isAlphanum := by
    funext c
    simp
  rw [runs, runs, splitOnP_map, hsame, List.filter_map]
  congr 2
  funext run
  simp

theorem exists_runs_cons_cons (hc : c.isAlphanum = true) (hd : d.isAlphanum = true)
    (cs : List Char) :
    ∃ run rest, runs (d :: cs) = run :: rest ∧ runs (c :: d :: cs) = (c :: run) :: rest := by
  obtain ⟨p, ps, hps⟩ := List.exists_cons_of_ne_nil
    (List.splitOnP_ne_nil (fun c => !c.isAlphanum) cs)
  refine ⟨d :: p, ps.filter fun run => !run.isEmpty, ?_, ?_⟩ <;>
    simp [runs, List.splitOnP_cons_eq_if_modifyHead, hc, hd, hps]

theorem runs_append_of_end {run : List Char} (hrun : IsRun run)
    (hcs : cs.head?.any Char.isAlphanum = false) : runs (run ++ cs) = run :: runs cs := by
  cases cs with
  | nil => rw [List.append_nil, runs_of_isRun hrun, runs_nil]
  | cons d cs =>
    have hd : d.isAlphanum = false := by simpa using hcs
    rw [runs_append_separator hd, runs_of_isRun hrun, runs_separator hd, List.singleton_append]

theorem runs_cons_of_end (hc : c.isAlphanum = true) (hcs : cs.head?.any Char.isAlphanum = false) :
    runs (c :: cs) = [c] :: runs cs :=
  runs_append_of_end ⟨List.cons_ne_nil c [], by simpa using hc⟩ hcs

/-- The ways in which a text can go on in its runs. -/
@[elab_as_elim]
theorem runs_induction {motive : List Char → Prop} (nil : motive [])
    (separator : ∀ c cs, c.isAlphanum = false → motive cs → motive (c :: cs))
    (last : ∀ c cs, c.isAlphanum = true → cs.head?.any Char.isAlphanum = false → motive cs →
      motive (c :: cs))
    (inner : ∀ c d cs, c.isAlphanum = true → d.isAlphanum = true → motive (d :: cs) →
      motive (c :: d :: cs))
    (cs : List Char) : motive cs := by
  induction cs with
  | nil => exact nil
  | cons c cs ih =>
    by_cases hc : c.isAlphanum = true
    · cases cs with
      | nil => exact last c [] hc rfl ih
      | cons d cs =>
        by_cases hd : d.isAlphanum = true
        · exact inner c d cs hc hd ih
        · exact last c (d :: cs) hc (by simpa using hd) ih
    · exact separator c cs (by simpa using hc) ih

theorem isRun_of_mem_runs : ∀ run ∈ runs cs, IsRun run := by
  induction cs using runs_induction with
  | nil => simp
  | separator c cs hc ih =>
    rw [runs_separator hc]
    exact ih
  | last c cs hc hend ih =>
    rw [runs_cons_of_end hc hend]
    exact List.forall_mem_cons.mpr ⟨⟨by simp, by simpa using hc⟩, ih⟩
  | inner c d cs hc hd ih =>
    obtain ⟨run, rest, hruns, hcons⟩ := exists_runs_cons_cons hc hd cs
    rw [hruns, List.forall_mem_cons] at ih
    rw [hcons]
    exact List.forall_mem_cons.mpr ⟨⟨by simp, List.forall_mem_cons.mpr ⟨hc, ih.1.2⟩⟩, ih.2⟩

theorem flatten_runs (cs : List Char) : (runs cs).flatten = cs.filter Char.isAlphanum := by
  induction cs using runs_induction with
  | nil => rfl
  | separator c cs hc ih => simp [runs_separator hc, hc, ih]
  | last c cs hc hend ih => simp [runs_cons_of_end hc hend, hc, ih]
  | inner c d cs hc hd ih =>
    obtain ⟨run, rest, hruns, hcons⟩ := exists_runs_cons_cons hc hd cs
    rw [hcons, List.filter_cons_of_pos hc, ← ih, hruns]
    rfl

theorem runs_intercalate {rs : List (List Char)} (h : ∀ run ∈ rs, IsRun run) :
    runs (['_'].intercalate rs) = rs := by
  induction rs with
  | nil => rfl
  | cons run rs ih =>
    rw [List.forall_mem_cons] at h
    by_cases hrs : rs = []
    · simp [hrs, runs_of_isRun h.1]
    · rw [List.intercalate_cons_of_ne_nil hrs, List.append_assoc, List.singleton_append,
        runs_append_separator (by decide), runs_of_isRun h.1, ih h.2, List.singleton_append]

theorem intercalate_eq_nil_iff {rs : List (List Char)} (h : ∀ run ∈ rs, IsRun run) :
    ['_'].intercalate rs = [] ↔ rs = [] := by
  constructor
  · intro hnil
    rw [← runs_intercalate h, hnil, runs_nil]
  · rintro rfl
    rfl

theorem isIdentChar_of_mem_intercalate {rs : List (List Char)} (h : ∀ run ∈ rs, IsRun run) :
    ∀ c ∈ ['_'].intercalate rs, isIdentChar c = true := by
  intro c hc
  rcases mem_intercalate hc with hc | ⟨run, hrun, hc⟩
  · rw [List.mem_singleton.mp hc]
    decide
  · simp [isIdentChar, (h run hrun).2 c hc]

theorem head?_intercalate_runs {rs : List (List Char)} (h : ∀ run ∈ rs, IsRun run) :
    (['_'].intercalate rs).head? = rs.flatten.head? := by
  cases rs with
  | nil => rfl
  | cons run rs =>
    obtain ⟨c, run, rfl⟩ := List.exists_cons_of_ne_nil (h run (by simp)).1
    by_cases hrs : rs = []
    · simp [hrs]
    · simp [List.intercalate_cons_of_ne_nil hrs]

/-- Between runs and behind them there is no other underscore. -/
theorem inner_intercalate_runs {rs : List (List Char)} (h : ∀ run ∈ rs, IsRun run) :
    Inner (['_'].intercalate rs) := by
  induction rs with
  | nil => exact inner_nil
  | cons run rs ih =>
    rw [List.forall_mem_cons] at h
    obtain ⟨⟨hne, hrun⟩, hrest⟩ := h
    by_cases hrs : rs = []
    · simpa [hrs] using inner_of_isAlphanum hrun
    · rw [List.intercalate_cons_of_ne_nil hrs, List.append_assoc, List.singleton_append]
      have htail := (ih hrest).isChain_cons '_'
      refine List.IsChain.append (inner_of_isAlphanum hrun) htail fun a ha b _ _ => ?_
      rw [List.getLast?_cons_of_ne_nil hne] at ha
      exact hrun a (List.mem_of_getLast? ha)

theorem isAlphanum_of_getLast?_intercalate {rs : List (List Char)} (h : ∀ run ∈ rs, IsRun run)
    (hc : (['_'].intercalate rs).getLast? = some c) : c.isAlphanum = true := by
  induction rs with
  | nil => simp at hc
  | cons run rs ih =>
    rw [List.forall_mem_cons] at h
    by_cases hrs : rs = []
    · exact h.1.2 c (List.mem_of_getLast? (by simpa [hrs] using hc))
    · have hne : ['_'].intercalate rs ≠ [] := mt (intercalate_eq_nil_iff h.2).mp hrs
      rw [List.intercalate_cons_of_ne_nil hrs, List.getLast?_append_of_ne_nil _ hne] at hc
      exact ih h.2 hc

/-- Squeezing leaves a separator where it takes some away. -/
theorem runs_append_squeeze (hp : ∀ c, p c = true → c.isAlphanum = false) (ds cs : List Char) :
    runs (ds ++ squeeze p cs) = runs (ds ++ cs) := by
  induction cs generalizing ds with
  | nil => rfl
  | cons c cs ih =>
    by_cases hc : p c = true
    · have hrest : runs (squeeze p cs) = runs cs := ih []
      rw [runs_append_separator (hp c hc), squeeze, if_pos hc]
      split
      · rename_i hnext
        obtain ⟨d, cs, rfl⟩ : ∃ d ds, cs = d :: ds := by cases cs <;> simp_all
        have hd : p d = true := by simpa using hnext
        rw [ih ds, runs_append_separator (hp d hd), runs_separator (hp d hd)]
      · rw [runs_append_separator (by decide), hrest]
    · rw [squeeze, if_neg hc]
      simpa using ih (ds ++ [c])

theorem runs_squeeze (hp : ∀ c, p c = true → c.isAlphanum = false) (cs : List Char) :
    runs (squeeze p cs) = runs cs :=
  runs_append_squeeze hp [] cs

theorem runs_trimOf (hp : ∀ c, p c = true → c.isAlphanum = false) (cs : List Char) :
    runs (trimOf p cs) = runs cs := by
  obtain ⟨front, back, hcs, hfront, hback⟩ := exists_trimOf p cs
  have hf : ∀ c ∈ front, c.isAlphanum = false := fun c hc => hp c (hfront c hc)
  have hb : ∀ c ∈ back, c.isAlphanum = false := fun c hc => hp c (hback c hc)
  conv_rhs => rw [hcs]
  rw [runs_append_separators hb, runs_separators_append hf]

theorem intercalate_runs (hident : ∀ c ∈ cs, isIdentChar c = true) (hinner : Inner cs)
    (hlast : cs.getLast? ≠ some '_') : ['_'].intercalate (runs cs) = cs := by
  have halnum : ∀ c ∈ cs, c ≠ '_' → c.isAlphanum = true := by
    intro c hc hne
    simpa [isIdentChar, hne] using hident c hc
  clear hident
  -- By two characters: what becomes of a letter depends on whether a run ends behind it.
  induction cs using List.twoStepInduction with
  | nil => rfl
  | singleton c =>
    have hc := halnum c (by simp) (by simpa using hlast)
    simp [runs_of_isRun ⟨List.cons_ne_nil c [], by simpa using hc⟩]
  | cons_cons c d cs ih ihcons =>
    have hc := halnum c (by simp) (by simpa using (inner_iff.mp hinner).1)
    have hchain : (d :: cs).IsChain Behind := (inner_iff.mp hinner).2.tail
    by_cases hd : d = '_'
    · subst hd
      have hcs : cs ≠ [] := by
        rintro rfl
        simp at hlast
      have hrest := ih (inner_of_isChain_underscore hchain)
        (by simpa [List.getLast?_cons_of_ne_nil, hcs] using hlast)
        fun b hb => halnum b (by simp [hb])
      have hne : runs cs ≠ [] := by
        intro hnil
        rw [hnil] at hrest
        exact hcs hrest.symm
      rw [runs_cons_of_end hc rfl, runs_separator (by decide), List.intercalate_cons_of_ne_nil hne,
        hrest]
      rfl
    · have hnext : Inner (d :: cs) := inner_iff.mpr ⟨by simpa using hd, hchain⟩
      have hrest := ihcons d hnext (by simpa using hlast)
        fun b hb => halnum b (List.mem_cons_of_mem c hb)
      obtain ⟨run, rest, hruns, hcons⟩ := exists_runs_cons_cons hc (halnum d (by simp) hd) cs
      rw [hruns] at hrest
      rw [hcons, ← hrest]
      cases rest <;> rfl

variable [Transliteration]

theorem runs_sanitize (cs : List Char) : runs (sanitize cs) = runs (transliterate cs) := by
  have hunderscore : ∀ c, (c == '_') = true → c.isAlphanum = false := by
    intro c hc
    rw [beq_iff_eq.mp hc]
    decide
  have hother : ∀ c, (!isIdentChar c) = true → c.isAlphanum = false := by
    intro c hc
    simp_all [isIdentChar]
  rw [sanitize, runs_trimOf hunderscore, collapseUnderscores, runs_squeeze hunderscore,
    runs_squeeze hother]

theorem getLast?_sanitize_ne (cs : List Char) : (sanitize cs).getLast? ≠ some '_' := by
  intro h
  exact absurd (eq_false_of_getLast?_trimOf h) (by decide)

/-- Sanitising writes the runs of the transliteration with underscores between them. -/
theorem sanitize_eq_intercalate (cs : List Char) :
    sanitize cs = ['_'].intercalate (runs (transliterate cs)) := by
  rw [← runs_sanitize]
  exact (intercalate_runs (fun c => isIdentChar_of_mem_sanitize) (inner_sanitize cs)
    (getLast?_sanitize_ne cs)).symm

end Text
end SchemaBinding
