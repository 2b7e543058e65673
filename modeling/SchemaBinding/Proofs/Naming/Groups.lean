import SchemaBinding.Proofs.Naming.ModulePath

/-! Module paths segment by segment. Main statement: both replacements together are one walk over the
segments of a package, in which a segment that ends in one of the two words is written into one group
with the segment behind it. -/
namespace SchemaBinding
namespace Naming

open Text

/-- Puts segments into groups from left to right. A joint says how a segment is written that goes on
in the group of the segment behind it; without one it ends its group. -/
def grouped (joint : List Char → Option (List Char)) : List (List Char) → List (List Char)
  | [] => []
  | [s] => [s]
  | s :: t :: rest =>
    match joint s with
    | some written => (grouped joint (t :: rest)).modifyHead (written ++ ·)
    | none => s :: grouped joint (t :: rest)

section

variable {joint : List Char → Option (List Char)} {s : List Char} {ps : List (List Char)}

theorem grouped_ne_nil (hps : ps ≠ []) : grouped joint ps ≠ [] := by
  induction ps with
  | nil => exact absurd rfl hps
  | cons s ps ih =>
    cases ps with
    | nil => simp [grouped]
    | cons t rest =>
      rw [grouped]
      split
      · simpa using ih (by simp)
      · simp

theorem grouped_of_some {written : List Char} (hs : joint s = some written) (hps : ps ≠ []) :
    grouped joint (s :: ps) = (grouped joint ps).modifyHead (written ++ ·) := by
  obtain ⟨t, rest, rfl⟩ := List.exists_cons_of_ne_nil hps
  simp [grouped, hs]

theorem grouped_of_none (hs : joint s = none) : grouped joint (s :: ps) = s :: grouped joint ps := by
  cases ps <;> simp [grouped, hs]

theorem exists_grouped_eq (joint : List Char → Option (List Char)) (hps : ps ≠ []) :
    ∃ g gs, grouped joint ps = g :: gs :=
  List.exists_cons_of_ne_nil (grouped_ne_nil hps)

theorem not_mem_grouped {c : Char}
    (hjoint : ∀ s written, c ∉ s → joint s = some written → c ∉ written)
    (hps : ∀ p ∈ ps, c ∉ p) : ∀ g ∈ grouped joint ps, c ∉ g := by
  induction ps with
  | nil => simp [grouped]
  | cons s ps ih =>
    obtain ⟨hs, hps⟩ := List.forall_mem_cons.mp hps
    have ih := ih hps
    by_cases hne : ps = []
    · subst hne
      simpa [grouped] using hs
    · cases hwritten : joint s with
      | none =>
        rw [grouped_of_none hwritten]
        exact List.forall_mem_cons.mpr ⟨hs, ih⟩
      | some written =>
        obtain ⟨g, gs, hgs⟩ := exists_grouped_eq joint hne
        rw [hgs] at ih
        obtain ⟨hg, hrest⟩ := List.forall_mem_cons.mp ih
        rw [grouped_of_some hwritten hne, hgs, List.modifyHead_cons]
        refine List.forall_mem_cons.mpr ⟨?_, hrest⟩
        simp [hjoint s written hs hwritten, hg]

theorem grouped_append_cons {w : List Char} (hjoint : joint (w ++ s) = (joint s).map (w ++ ·)) :
    grouped joint ((w ++ s) :: ps) = (grouped joint (s :: ps)).modifyHead (w ++ ·) := by
  by_cases hne : ps = []
  · subst hne
    rfl
  · cases hs : joint s with
    | none =>
      rw [hs] at hjoint
      rw [grouped_of_none hjoint, grouped_of_none hs, List.modifyHead_cons]
    | some written =>
      rw [hs] at hjoint
      rw [grouped_of_some hjoint hne, grouped_of_some hs hne, List.modifyHead_modifyHead]
      congr 1
      funext g
      simp

/-- Two walks after each other are one, if the second goes through what the first has written. -/
theorem grouped_grouped {first second both : List Char → Option (List Char)}
    (hsome : ∀ s written, first s = some written →
      both s = some written ∧ ∀ g, second (written ++ g) = (second g).map (written ++ ·))
    (hnone : ∀ s, first s = none → both s = second s) (ps : List (List Char)) :
    grouped second (grouped first ps) = grouped both ps := by
  induction ps with
  | nil => rfl
  | cons s ps ih =>
    by_cases hne : ps = []
    · subst hne
      rfl
    · obtain ⟨g, gs, hgs⟩ := exists_grouped_eq first hne
      -- Written by the first walk, which the second goes through, or left to the second.
      cases hs : first s with
      | some written =>
        obtain ⟨hboth, hthrough⟩ := hsome s written hs
        rw [grouped_of_some hs hne, grouped_of_some hboth hne, ← ih, hgs, List.modifyHead_cons,
          grouped_append_cons (hthrough g)]
      | none =>
        have hboth := hnone s hs
        rw [grouped_of_none hs]
        cases hsecond : second s with
        | some written =>
          rw [hsecond] at hboth
          rw [grouped_of_some hsecond (grouped_ne_nil hne), grouped_of_some hboth hne, ih]
        | none =>
          rw [hsecond] at hboth
          rw [grouped_of_none hsecond, grouped_of_none hboth, ih]

theorem flatten_grouped (joint : List Char → Option (List Char)) (ps : List (List Char)) :
    (grouped joint ps).flatten =
      ps.dropLast.flatMap (fun s => (joint s).getD s) ++ ps.getLast?.getD [] := by
  induction ps with
  | nil => rfl
  | cons s ps ih =>
    by_cases hne : ps = []
    · subst hne
      simp [grouped]
    · rw [List.dropLast_cons_of_ne_nil hne, List.getLast?_cons_of_ne_nil hne, List.flatMap_cons,
        List.append_assoc, ← ih]
      cases hs : joint s with
      | none => simp [grouped_of_none hs]
      | some written =>
        obtain ⟨g, gs, hgs⟩ := exists_grouped_eq joint hne
        simp [grouped_of_some hs hne, hgs]

theorem grouped_congr {joint' : List Char → Option (List Char)}
    (h : ∀ s ∈ ps.dropLast, joint s = joint' s) : grouped joint ps = grouped joint' ps := by
  induction ps with
  | nil => rfl
  | cons s ps ih =>
    by_cases hne : ps = []
    · subst hne
      rfl
    · rw [List.dropLast_cons_of_ne_nil hne, List.forall_mem_cons] at h
      obtain ⟨hs, hps⟩ := h
      have ih := ih hps
      cases hjoint : joint s with
      | none => rw [grouped_of_none hjoint, grouped_of_none (hs ▸ hjoint), ih]
      | some written =>
        rw [grouped_of_some hjoint hne, grouped_of_some (hs ▸ hjoint) hne, ih]

theorem intercalate_modifyHead {gs : List (List Char)} (hgs : gs ≠ []) (sep w : List Char) :
    sep.intercalate (gs.modifyHead (w ++ ·)) = w ++ sep.intercalate gs := by
  obtain ⟨g, gs, rfl⟩ := List.exists_cons_of_ne_nil hgs
  by_cases hrest : gs = []
  · simp [hrest]
  · simp [List.intercalate_cons_of_ne_nil hrest]

end

section

variable {word : List Char}

theorem dropSuffix?_append (stem word : List Char) : (stem ++ word).dropSuffix? word = some stem :=
  List.dropSuffix?_eq_some_iff.mpr ⟨word, rfl, by simp⟩

theorem eq_of_dropSuffix? {s stem : List Char} (h : s.dropSuffix? word = some stem) :
    s = stem ++ word := by
  obtain ⟨word', rfl, hword⟩ := List.dropSuffix?_eq_some_iff.mp h
  rw [beq_iff_eq.mp hword]

theorem dropSuffix?_eq_none_iff {s : List Char} : s.dropSuffix? word = none ↔ ¬word <:+ s := by
  constructor
  · rintro h ⟨stem, rfl⟩
    rw [dropSuffix?_append] at h
    cases h
  · intro h
    cases hs : s.dropSuffix? word with
    | none => rfl
    | some stem => exact absurd ⟨stem, (eq_of_dropSuffix? hs).symm⟩ h

def replacing (word replacement s : List Char) : Option (List Char) :=
  (s.dropSuffix? word).map (· ++ replacement)

theorem not_mem_of_replacing {replacement s written : List Char} {c : Char} (hc : c ∉ replacement)
    (hs : c ∉ s) (h : replacing word replacement s = some written) : c ∉ written := by
  obtain ⟨stem, hstem, rfl⟩ := Option.map_eq_some_iff.mp h
  rw [eq_of_dropSuffix? hstem, List.mem_append, not_or] at hs
  rw [List.mem_append, not_or]
  exact ⟨hs.1, hc⟩

theorem eq_of_append_slash_isPrefix {s t rest : List Char} (hs : '/' ∉ s) (ht : '/' ∉ t)
    (h : s ++ ['/'] <+: t ++ '/' :: rest) : s = t := by
  induction s generalizing t with
  | nil =>
    cases t with
    | nil => rfl
    | cons c t =>
      simp only [List.nil_append, List.cons_append, List.cons_prefix_cons] at h
      exact absurd (h.1 ▸ List.mem_cons_self) ht
  | cons c s ih =>
    cases t with
    | nil =>
      simp only [List.cons_append, List.nil_append, List.cons_prefix_cons] at h
      simp [h.1] at hs
    | cons d t =>
      simp only [List.cons_append, List.cons_prefix_cons, List.mem_cons, not_or] at h hs ht
      rw [h.1, ih hs.2 ht.2 h.2]

variable {replacement : List Char} (hword : '/' ∉ word)

include hword

theorem substitute_stem (stem rest : List Char) (hstem : '/' ∉ stem) :
    substitute (word ++ ['/']) replacement 0 (stem ++ word ++ '/' :: rest) =
      stem ++ replacement ++ substitute (word ++ ['/']) replacement 0 rest := by
  induction stem with
  | nil =>
    have hne : word ++ ['/'] ≠ [] := by simp
    simpa using substitute_append hne rest
  | cons c stem ih =>
    -- An occurrence that begins here reaches to the slash, and is longer than the word.
    have hne : ¬word ++ ['/'] <+: c :: (stem ++ word ++ '/' :: rest) := by
      intro h
      have heq := eq_of_append_slash_isPrefix (t := c :: stem ++ word) hword
        (by simpa [hword] using hstem) (by simpa using h)
      have hlength := congrArg List.length heq
      simp at hlength
      omega
    simp only [List.mem_cons, not_or] at hstem
    have ih := ih hstem.2
    simp only [List.cons_append] at hne ⊢
    rw [substitute_cons hne, ih]

theorem substitute_kept (s rest : List Char) (hs : '/' ∉ s) (hsuffix : ¬word <:+ s) :
    substitute (word ++ ['/']) replacement 0 (s ++ '/' :: rest) =
      s ++ '/' :: substitute (word ++ ['/']) replacement 0 rest := by
  -- An occurrence that begins anywhere in the segment is the end of it.
  have hne : ∀ t, '/' ∉ t → t <:+ s → ¬word ++ ['/'] <+: t ++ '/' :: rest := by
    intro t ht hts h
    exact hsuffix (eq_of_append_slash_isPrefix hword ht h ▸ hts)
  induction s with
  | nil =>
    exact substitute_cons (hne [] (by simp) List.nil_suffix)
  | cons c s ih =>
    have hcons := hne (c :: s) hs List.suffix_rfl
    simp only [List.mem_cons, not_or] at hs
    have hrest : ¬word <:+ s := fun h => hsuffix (List.suffix_cons_iff.mpr (Or.inr h))
    have ih := ih hs.2 hrest fun t ht hts => hne t ht (List.suffix_cons_iff.mpr (Or.inr hts))
    simp only [List.cons_append] at hcons ⊢
    rw [substitute_cons hcons, ih]

omit hword in
theorem substitute_last (s : List Char) (hs : '/' ∉ s) :
    substitute (word ++ ['/']) replacement 0 s = s := by
  induction s with
  | nil => rfl
  | cons c s ih =>
    have hne : ¬word ++ ['/'] <+: c :: s := fun h => hs (h.subset (by simp))
    simp only [List.mem_cons, not_or] at hs
    rw [substitute_cons hne, ih hs.2]

/-- Replacing a word with its slash goes on in the same group where the word stands. -/
theorem substitute_intercalate {ps : List (List Char)} (hps : ∀ p ∈ ps, '/' ∉ p) :
    substitute (word ++ ['/']) replacement 0 (['/'].intercalate ps) =
      ['/'].intercalate (grouped (replacing word replacement) ps) := by
  induction ps with
  | nil => rfl
  | cons s ps ih =>
    obtain ⟨hs, hps⟩ := List.forall_mem_cons.mp hps
    have ih := ih hps
    by_cases hne : ps = []
    · subst hne
      simpa [grouped] using substitute_last s hs
    · rw [List.intercalate_cons_of_ne_nil hne, List.append_assoc, List.singleton_append]
      cases hsuffix : s.dropSuffix? word with
      | some stem =>
        have hjoint : replacing word replacement s = some (stem ++ replacement) := by
          simp [replacing, hsuffix]
        have hs' := eq_of_dropSuffix? hsuffix
        subst hs'
        rw [grouped_of_some hjoint hne, intercalate_modifyHead (grouped_ne_nil hne), ← ih]
        exact substitute_stem hword stem _ fun h => hs (List.mem_append_left _ h)
      | none =>
        have hjoint : replacing word replacement s = none := by simp [replacing, hsuffix]
        rw [grouped_of_none hjoint, List.intercalate_cons_of_ne_nil (grouped_ne_nil hne), ← ih]
        have hend := dropSuffix?_eq_none_iff.mp hsuffix
        simpa using substitute_kept hword s (['/'].intercalate ps) hs hend

end

/-- How a segment is written in one group with the segment behind it: `api_` for a `platform` at its
end, or an underscore behind a `models` at its end. Any other segment ends its group. -/
def joint (s : List Char) : Option (List Char) :=
  match s.dropSuffix? "platform".toList with
  | some stem => some (stem ++ "api_".toList)
  | none => if "models".toList <:+ s then some (s ++ ['_']) else none

theorem replacing_append {word replacement w : List Char} {c : Char} (hc : c ∉ word)
    (hw : w.getLast? = some c) (g : List Char) :
    replacing word replacement (w ++ g) = (replacing word replacement g).map (w ++ ·) := by
  cases hg : g.dropSuffix? word with
  | some stem =>
    have happend : (w ++ g).dropSuffix? word = some (w ++ stem) := by
      rw [eq_of_dropSuffix? hg, ← List.append_assoc, dropSuffix?_append]
    simp [replacing, hg, happend]
  | none =>
    have happend : (w ++ g).dropSuffix? word = none := by
      rw [dropSuffix?_eq_none_iff] at hg ⊢
      intro h
      rcases List.suffix_or_suffix_of_suffix h (List.suffix_append w g) with hsuffix | ⟨q, hq⟩
      · exact hg hsuffix
      · rw [← hq, List.suffix_append_self_iff] at h
        obtain ⟨pre, rfl⟩ := h
        by_cases hnil : q = []
        · exact hg (by simp [← hq, hnil])
        · rw [List.getLast?_append_of_ne_nil _ hnil] at hw
          exact hc (hq ▸ List.mem_append_left g (List.mem_of_getLast? hw))
    simp [replacing, hg, happend]

theorem joint_of_platform {s stem : List Char} (h : s.dropSuffix? "platform".toList = some stem) :
    joint s = some (stem ++ "api_".toList) := by
  rw [joint, h]

theorem joint_of_not_platform {s : List Char} (h : s.dropSuffix? "platform".toList = none) :
    joint s = replacing "models".toList "models_".toList s := by
  rw [joint, h, replacing]
  cases hs : s.dropSuffix? "models".toList with
  | some stem =>
    have hs' := eq_of_dropSuffix? hs
    have hsuffix : "models".toList <:+ s := ⟨stem, hs'.symm⟩
    have hwritten : s ++ ['_'] = stem ++ "models_".toList := by
      rw [hs', List.append_assoc]
      rfl
    simp only [hsuffix, if_true, hwritten, Option.map_some]
  | none => exact if_neg (dropSuffix?_eq_none_iff.mp hs)

theorem grouped_models_platform (ps : List (List Char)) :
    grouped (replacing "models".toList "models_".toList)
        (grouped (replacing "platform".toList "api_".toList) ps) = grouped joint ps := by
  refine grouped_grouped (fun s written hs => ?_) (fun s hs => ?_) ps
  · obtain ⟨stem, hstem, rfl⟩ := Option.map_eq_some_iff.mp hs
    have hlast : (stem ++ "api_".toList).getLast? = some '_' := by simp
    exact ⟨joint_of_platform hstem, replacing_append (by decide) hlast⟩
  · exact joint_of_not_platform (Option.map_eq_none_iff.mp hs)

theorem shortenSegments_intercalate {ps : List (List Char)} (hps : ∀ p ∈ ps, '/' ∉ p) :
    shortenSegments (['/'].intercalate ps) = ['/'].intercalate (grouped joint ps) := by
  have hplatform : ∀ p ∈ grouped (replacing "platform".toList "api_".toList) ps, '/' ∉ p :=
    not_mem_grouped (fun s written => not_mem_of_replacing (by decide)) hps
  rw [← grouped_models_platform, ← substitute_intercalate (by decide) hplatform,
    ← substitute_intercalate (by decide) hps]
  rfl

theorem slash_not_mem_of_joint {s written : List Char} (hs : '/' ∉ s)
    (h : joint s = some written) : '/' ∉ written := by
  cases hplatform : s.dropSuffix? "platform".toList with
  | some stem =>
    rw [joint_of_platform hplatform, Option.some.injEq] at h
    have hreplacing : replacing "platform".toList "api_".toList s = some written := by
      rw [replacing, hplatform, ← h, Option.map_some]
    exact not_mem_of_replacing (by decide) hs hreplacing
  | none =>
    rw [joint_of_not_platform hplatform] at h
    exact not_mem_of_replacing (by decide) hs h

variable [Transliteration] [SnakeCasing]

/-- The segments of a package in snake case. -/
def segments (package : List Char) : List (List Char) :=
  (package.splitOn '/').map fun segment => snakeCase (sanitize segment)

theorem segments_ne_nil (package : List Char) : segments package ≠ [] := by
  simp [segments, List.splitOn_ne_nil]

theorem isIdentChar_of_mem_segments {package s : List Char} (hs : s ∈ segments package) {c : Char}
    (hc : c ∈ s) : isIdentChar c = true := by
  obtain ⟨segment, -, rfl⟩ := List.mem_map.mp hs
  exact isIdentChar_of_mem_snakeCase hc

theorem slash_not_mem_of_mem_segments {package s : List Char} (hs : s ∈ segments package) :
    '/' ∉ s := by
  intro hc
  exact absurd (isIdentChar_of_mem_segments hs hc) (by decide)

theorem moduleSegments_eq_grouped (package : List Char) :
    moduleSegments package =
      (grouped joint (segments package)).filter fun group => !group.isEmpty := by
  have hslash : ∀ s ∈ segments package, '/' ∉ s := fun s => slash_not_mem_of_mem_segments
  have hgroups : ∀ group ∈ grouped joint (segments package), '/' ∉ group :=
    not_mem_grouped (fun s written => slash_not_mem_of_joint) hslash
  have hshorten : shortenSegments (snakeSegments package) =
      ['/'].intercalate (grouped joint (segments package)) := shortenSegments_intercalate hslash
  rw [moduleSegments_eq, hshorten,
    List.splitOn_intercalate '/' hgroups (grouped_ne_nil (segments_ne_nil package))]

/-- The module path that the groups of a package make, without those that are empty. -/
def groupedPath (joint : List Char → Option (List Char)) (package : String) : String :=
  String.ofList ([':', ':'].intercalate
    ((grouped joint (segments package.toList)).filter fun group => !group.isEmpty))

theorem modulePath_eq_groupedPath (package : String) :
    modulePath package = groupedPath joint package := by
  rw [modulePath, groupedPath, moduleSegments_eq_grouped]

end Naming
end SchemaBinding
