import SchemaBinding.Proofs.Text.Sanitized
import SchemaBinding.Text.SnakeCase

/-! The words of snake case. Main statements: a sanitised text in snake case is the words of its
transliteration with one underscore between each two of them, the words hold its letters and digits,
and runs in lowercase are words. -/
namespace SchemaBinding
namespace Text

/-- Two neighbours of a run, unless a capital follows a lowercase letter. -/
def sameWord (a b : Char) : Bool := !(a.isLower && b.isUpper)

/-- The runs of a text, split at every lowercase letter directly followed by a capital, in
lowercase. -/
def snakeWords (cs : List Char) : List (List Char) :=
  ((runs cs).flatMap fun run => run.splitBy sameWord).map fun word => word.map Char.toLower

variable {cs : List Char}

theorem breakWords_cons_cons (c d : Char) (cs : List Char) :
    breakWords (c :: d :: cs) =
      if sameWord c d then c :: breakWords (d :: cs) else c :: '_' :: breakWords (d :: cs) := by
  rw [breakWords, List.head?_cons, Option.any_some, sameWord]
  cases c.isLower && d.isUpper <;> rfl

theorem breakWords_append (ds cs : List Char) :
    breakWords (ds ++ cs) = breakWords ds ++
      if ds.getLast?.any Char.isLower && cs.head?.any Char.isUpper then '_' :: breakWords cs
      else breakWords cs := by
  induction ds with
  | nil => simp
  | cons d ds ih =>
    cases ds with
    | nil => by_cases h : (d.isLower && cs.head?.any Char.isUpper) = true <;> simp [breakWords, h]
    | cons e ds =>
      simp only [List.cons_append, breakWords_cons_cons, List.getLast?_cons_cons] at ih ⊢
      rw [ih]
      split <;> rfl

theorem breakWords_append_underscore (ds cs : List Char) :
    breakWords (ds ++ '_' :: cs) = breakWords ds ++ '_' :: breakWords cs := by
  rw [breakWords_append]
  simp [breakWords]

theorem breakWords_of_isChain (h : cs.IsChain fun a b => sameWord a b = true) :
    breakWords cs = cs := by
  induction cs with
  | nil => rfl
  | cons c cs ih =>
    cases cs with
    | nil => simp [breakWords]
    | cons d cs =>
      rw [List.isChain_cons_cons] at h
      rw [breakWords_cons_cons, if_pos h.1, ih h.2]

theorem breakWords_flatten {ps : List (List Char)}
    (hwords : ∀ p ∈ ps, p.IsChain fun a b => sameWord a b = true)
    (hbreaks : ps.IsChain fun p q => ∃ hp hq, sameWord (p.getLast hp) (q.head hq) = false) :
    breakWords ps.flatten = ['_'].intercalate ps := by
  induction ps with
  | nil => rfl
  | cons p ps ih =>
    rw [List.forall_mem_cons] at hwords
    cases ps with
    | nil => simpa using breakWords_of_isChain hwords.1
    | cons q ps =>
      rw [List.isChain_cons_cons] at hbreaks
      obtain ⟨⟨hp, hq, hbreak⟩, hrest⟩ := hbreaks
      have ih := ih hwords.2 hrest
      -- Between two words there is a break: a lowercase letter ends one, a capital begins the next.
      have hcut :
          (p.getLast?.any Char.isLower && (q :: ps).flatten.head?.any Char.isUpper) = true := by
        obtain ⟨c, q, rfl⟩ := List.exists_cons_of_ne_nil hq
        rw [List.getLast?_eq_some_getLast hp]
        simpa [sameWord] using hbreak
      rw [List.flatten_cons, breakWords_append, if_pos hcut, breakWords_of_isChain hwords.1, ih,
        List.intercalate_cons_of_ne_nil (List.cons_ne_nil q ps), List.append_assoc,
        List.singleton_append]

/-- Snake case puts an underscore where a run is split. -/
theorem breakWords_eq_intercalate (run : List Char) :
    breakWords run = ['_'].intercalate (run.splitBy sameWord) := by
  have hwords := breakWords_flatten (fun p => List.isChain_of_mem_splitBy)
    (List.isChain_getLast_head_splitBy sameWord run)
  rwa [List.flatten_splitBy] at hwords

theorem breakWords_intercalate {rs : List (List Char)} (h : [] ∉ rs) :
    breakWords (['_'].intercalate rs) =
      ['_'].intercalate (rs.flatMap fun run => run.splitBy sameWord) := by
  induction rs with
  | nil => rfl
  | cons run rs ih =>
    rw [List.mem_cons, not_or] at h
    by_cases hrs : rs = []
    · simp [hrs, breakWords_eq_intercalate]
    · have hrun : run.splitBy sameWord ≠ [] := List.splitBy_ne_nil.mpr fun hnil => h.1 hnil.symm
      have hwords : rs.flatMap (fun run => run.splitBy sameWord) ≠ [] := by
        obtain ⟨next, hnext⟩ := List.exists_mem_of_ne_nil rs hrs
        intro hnil
        have hempty := List.splitBy_eq_nil.mp (List.flatMap_eq_nil_iff.mp hnil next hnext)
        exact h.2 (hempty ▸ hnext)
      rw [List.intercalate_cons_of_ne_nil hrs, List.append_assoc, List.singleton_append,
        breakWords_append_underscore, breakWords_eq_intercalate, ih h.2, List.flatMap_cons,
        intercalate_append ['_'] hrun hwords, List.append_assoc, List.singleton_append]

def IsLowerRun (word : List Char) : Prop := IsRun word ∧ ∀ c ∈ word, c.isUpper = false

theorem isUpper_of_mem_intercalate {words : List (List Char)}
    (hwords : ∀ word ∈ words, IsLowerRun word) :
    ∀ c ∈ ['_'].intercalate words, c.isUpper = false := by
  intro c hc
  rcases mem_intercalate hc with hc | ⟨word, hword, hc⟩
  · rw [List.mem_singleton.mp hc]
    decide
  · exact (hwords word hword).2 c hc

theorem isLowerRun_of_mem_snakeWords : ∀ word ∈ snakeWords cs, IsLowerRun word := by
  intro word hword
  obtain ⟨part, hpart, rfl⟩ := List.mem_map.mp hword
  obtain ⟨run, hrun, hsplit⟩ := List.mem_flatMap.mp hpart
  have hsub : ∀ c ∈ part, c ∈ run := by
    intro c hc
    rw [← List.flatten_splitBy sameWord run]
    exact List.mem_flatten.mpr ⟨part, hsplit, hc⟩
  refine ⟨⟨by simpa using List.ne_nil_of_mem_splitBy hsplit, ?_⟩, ?_⟩
  · rw [List.forall_mem_map]
    intro c hc
    rw [isAlphanum_toLower]
    exact (isRun_of_mem_runs run hrun).2 c (hsub c hc)
  · rw [List.forall_mem_map]
    exact fun c _ => Char.isUpper_toLower_eq_false c

theorem flatten_snakeWords (cs : List Char) :
    (snakeWords cs).flatten = (cs.filter Char.isAlphanum).map Char.toLower := by
  have hsplit :
      ((runs cs).flatMap fun run => run.splitBy sameWord).flatten = (runs cs).flatten := by
    induction runs cs with
    | nil => rfl
    | cons run rs ih =>
      rw [List.flatMap_cons, List.flatten_append, ih, List.flatten_splitBy, List.flatten_cons]
  rw [snakeWords, ← List.map_flatten, hsplit, flatten_runs]

theorem snakeWords_eq_nil_iff : snakeWords cs = [] ↔ runs cs = [] := by
  constructor
  · intro h
    by_contra hne
    obtain ⟨run, hrun⟩ := List.exists_mem_of_ne_nil (runs cs) hne
    have hsplit := List.flatMap_eq_nil_iff.mp (List.map_eq_nil_iff.mp h) run hrun
    exact (isRun_of_mem_runs run hrun).1 (List.splitBy_eq_nil.mp hsplit)
  · intro h
    rw [snakeWords, h]
    rfl

theorem snakeWords_of_runs {ws : List (List Char)} (hws : ∀ word ∈ ws, IsLowerRun word)
    (h : runs cs = ws) : snakeWords cs = ws := by
  have hsplit : ∀ word ∈ ws, word.splitBy sameWord = [word] := by
    intro word hword
    have hlower := (hws word hword).2
    apply List.splitBy_of_isChain (hws word hword).1.1
    refine (List.pairwise_of_forall_mem_list fun a _ b hb => ?_).isChain
    simp [sameWord, hlower b hb]
  have hlower : ∀ word ∈ ws, word.map Char.toLower = word :=
    fun word hword => map_toLower_eq_self_iff.mpr (hws word hword).2
  rw [snakeWords, h, List.flatMap_congr hsplit, List.flatMap_singleton', List.map_congr_left hlower,
    List.map_id']

variable [Transliteration] [SnakeCasing] {d : Char}

/-- Sanitising and snake case together write the words of a text with underscores between them. -/
theorem snakeCase_sanitize (cs : List Char) :
    snakeCase (sanitize cs) = ['_'].intercalate (snakeWords (transliterate cs)) := by
  have hnil : [] ∉ runs (transliterate cs) := fun h => (isRun_of_mem_runs [] h).1 rfl
  rw [SnakeCasing.snakeCase_of_isSanitized (sanitize cs) (isSanitized_sanitize cs),
    sanitize_eq_intercalate, breakWords_intercalate hnil, map_intercalate]
  rfl

theorem isIdentChar_of_mem_snakeCase (h : d ∈ snakeCase (sanitize cs)) : isIdentChar d = true := by
  rw [snakeCase_sanitize] at h
  exact isIdentChar_of_mem_intercalate
    (fun word hword => (isLowerRun_of_mem_snakeWords word hword).1) d h

theorem isUpper_of_mem_snakeCase (h : d ∈ snakeCase (sanitize cs)) : d.isUpper = false := by
  rw [snakeCase_sanitize] at h
  exact isUpper_of_mem_intercalate isLowerRun_of_mem_snakeWords d h

theorem inner_snakeCase (cs : List Char) : Inner (snakeCase (sanitize cs)) := by
  rw [snakeCase_sanitize]
  exact inner_intercalate_runs fun word hword => (isLowerRun_of_mem_snakeWords word hword).1

theorem snakeCase_sanitize_eq_nil_iff : snakeCase (sanitize cs) = [] ↔ sanitize cs = [] := by
  rw [snakeCase_sanitize, sanitize_eq_intercalate, intercalate_eq_nil_iff isRun_of_mem_runs,
    intercalate_eq_nil_iff fun word hword => (isLowerRun_of_mem_snakeWords word hword).1,
    snakeWords_eq_nil_iff]

end Text
end SchemaBinding
