import SchemaBinding.Naming.ModulePath
import SchemaBinding.Proofs.Text.Pieces
import SchemaBinding.Proofs.Text.SnakeWords

/-! Module paths. Main statements: shortening leaves no underscore without a letter or a digit before
it, so that nothing is left to collapse, and every segment of a module path is a nonempty text of
identifier characters with inner underscores. -/
namespace SchemaBinding
namespace Naming

open Text

section

variable {pattern replacement : List Char}

theorem substitute_skip (n : Nat) (cs : List Char) :
    substitute pattern replacement n cs = substitute pattern replacement 0 (cs.drop n) := by
  induction n generalizing cs with
  | zero => rfl
  | succ n ih =>
    cases cs with
    | nil => simp [substitute]
    | cons c cs => simpa [substitute] using ih cs

theorem substitute_append (hpattern : pattern ≠ []) (rest : List Char) :
    substitute pattern replacement 0 (pattern ++ rest) =
      replacement ++ substitute pattern replacement 0 rest := by
  obtain ⟨p, ps, rfl⟩ := List.exists_cons_of_ne_nil hpattern
  simp [substitute, substitute_skip ps.length]

theorem substitute_cons {c : Char} {cs : List Char} (h : ¬pattern <+: c :: cs) :
    substitute pattern replacement 0 (c :: cs) = c :: substitute pattern replacement 0 cs := by
  rw [← List.isPrefixOf_iff_prefix] at h
  simp [substitute, h]

/-- A text and what becomes of it when the occurrences of a pattern are replaced from left to
right. -/
inductive Replaced (pattern replacement : List Char) : List Char → List Char → Prop
  | nil : Replaced pattern replacement [] []
  | matched {cs ds : List Char} (h : Replaced pattern replacement cs ds) :
      Replaced pattern replacement (pattern ++ cs) (replacement ++ ds)
  | kept {c : Char} {cs ds : List Char} (hpattern : ¬pattern <+: c :: cs)
      (h : Replaced pattern replacement cs ds) : Replaced pattern replacement (c :: cs) (c :: ds)

theorem replaced_substitute (hpattern : pattern ≠ []) (cs : List Char) :
    Replaced pattern replacement cs (substitute pattern replacement 0 cs) := by
  induction hn : cs.length using Nat.strong_induction_on generalizing cs with
  | _ n ih =>
    subst hn
    by_cases h : pattern <+: cs
    · obtain ⟨rest, rfl⟩ := h
      have hlength : rest.length < (pattern ++ rest).length := by
        have := List.length_pos_iff.mpr hpattern
        simp
        omega
      rw [substitute_append hpattern]
      exact .matched (ih _ hlength rest rfl)
    · cases cs with
      | nil => exact .nil
      | cons c cs =>
        rw [substitute_cons h]
        exact .kept h (ih _ (by simp) cs rfl)

theorem Replaced.mem {cs ds : List Char} (h : Replaced pattern replacement cs ds) {d : Char}
    (hd : d ∈ ds) : d ∈ replacement ∨ d ∈ cs := by
  induction h with
  | nil => simp at hd
  | matched h ih =>
    rcases List.mem_append.mp hd with hd | hd
    · exact Or.inl hd
    · exact (ih hd).imp_right (List.mem_append_right pattern)
  | kept _ h ih =>
    rcases List.mem_cons.mp hd with rfl | hd
    · exact Or.inr (by simp)
    · exact (ih hd).imp_right (List.mem_cons_of_mem _)

/-- A pattern that ends a segment is followed by no underscore, and so is what replaces it. -/
theorem Replaced.isChain (hpattern : pattern.getLast? = some '/') (hreplacement : Inner replacement)
    {cs ds : List Char} (h : Replaced pattern replacement cs ds) {a : Char}
    (hcs : (a :: cs).IsChain Behind) : (a :: ds).IsChain Behind := by
  obtain ⟨word, rfl⟩ := List.getLast?_eq_some_iff.mp hpattern
  induction h generalizing a with
  | nil => exact hcs
  | @matched cs ds h ih =>
    have hrest : Inner cs := hcs.suffix ⟨a :: word, by simp⟩
    exact (hreplacement.append (ih hrest)).isChain_cons a
  | kept _ h ih =>
    rw [List.isChain_cons_cons] at hcs
    have hds := ih hcs.2
    exact List.isChain_cons_cons.mpr ⟨hcs.1, hds⟩

end

theorem shortenSegments_spec (package : List Char) :
    ∃ cs, Replaced "platform/".toList "api_".toList package cs ∧
      Replaced "models/".toList "models_".toList cs (shortenSegments package) :=
  ⟨_, replaced_substitute (by decide) package, replaced_substitute (by decide) _⟩

theorem inner_shortenSegments {package : List Char} (h : Inner package) :
    Inner (shortenSegments package) := by
  obtain ⟨cs, hplatform, hmodels⟩ := shortenSegments_spec package
  have hcs : Inner cs := hplatform.isChain (by decide) (by decide) h
  exact hmodels.isChain (by decide) (by decide) hcs

theorem mem_shortenSegments {package : List Char} {c : Char} (h : c ∈ shortenSegments package) :
    c ∈ "api_models_".toList ∨ c ∈ package := by
  have hapi : "api_".toList ⊆ "api_models_".toList := by decide
  have hmodels : "models_".toList ⊆ "api_models_".toList := by decide
  obtain ⟨cs, hplatform, hshort⟩ := shortenSegments_spec package
  rcases hshort.mem h with hc | hc
  · exact Or.inl (hmodels hc)
  · exact (hplatform.mem hc).imp_left fun hc => hapi hc

variable [Transliteration] [SnakeCasing]

theorem inner_snakeSegments (package : List Char) : Inner (snakeSegments package) := by
  apply inner_intercalate
  intro p hp
  obtain ⟨segment, -, rfl⟩ := List.mem_map.mp hp
  exact inner_snakeCase segment

theorem mem_snakeSegments {package : List Char} {c : Char} (h : c ∈ snakeSegments package) :
    c = '/' ∨ ∃ segment ∈ package.splitOn '/', c ∈ snakeCase (sanitize segment) := by
  rcases mem_intercalate h with h | ⟨p, hp, h⟩
  · exact Or.inl (by simpa using h)
  · obtain ⟨segment, hsegment, rfl⟩ := List.mem_map.mp hp
    exact Or.inr ⟨segment, hsegment, h⟩

theorem moduleSegments_eq (package : List Char) :
    moduleSegments package =
      ((shortenSegments (snakeSegments package)).splitOn '/').filter
        fun segment => !segment.isEmpty := by
  rw [moduleSegments, collapseUnderscores_of_inner]
  exact inner_shortenSegments (inner_snakeSegments package)

theorem mem_of_mem_moduleSegments {package segment : List Char}
    (h : segment ∈ moduleSegments package) {c : Char} (hc : c ∈ segment) :
    c ∈ "api_models_".toList ∨ ∃ s ∈ package.splitOn '/', c ∈ snakeCase (sanitize s) := by
  rw [moduleSegments_eq, List.mem_filter] at h
  obtain ⟨hmem, hslash⟩ := mem_of_mem_splitOn h.1 hc
  rcases mem_shortenSegments hmem with hreplaced | hsnake
  · exact Or.inl hreplaced
  · exact Or.inr ((mem_snakeSegments hsnake).resolve_left hslash)

theorem moduleSegments_spec {package segment : List Char} (h : segment ∈ moduleSegments package) :
    segment ≠ [] ∧ Inner segment ∧ ∀ c ∈ segment, isIdentChar c = true := by
  have hident : ∀ c ∈ segment, isIdentChar c = true := by
    intro c hc
    rcases mem_of_mem_moduleSegments h hc with hreplaced | ⟨s, -, hsnake⟩
    · exact List.all_eq_true.mp (by decide : "api_models_".toList.all isIdentChar = true) c hreplaced
    · exact isIdentChar_of_mem_snakeCase hsnake
  rw [moduleSegments_eq, List.mem_filter] at h
  obtain ⟨hsegment, hne⟩ := h
  refine ⟨by simpa using hne, ?_, hident⟩
  exact inner_of_mem_splitOn (inner_shortenSegments (inner_snakeSegments package)) hsegment

theorem colon_not_mem_of_mem_moduleSegments {package segment : List Char}
    (h : segment ∈ moduleSegments package) : ':' ∉ segment := by
  intro hcolon
  exact absurd ((moduleSegments_spec h).2.2 ':' hcolon) (by decide)

end Naming
end SchemaBinding
