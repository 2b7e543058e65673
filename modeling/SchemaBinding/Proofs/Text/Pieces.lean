import Mathlib.Data.List.Basic

/-! Texts in pieces. Main statements: what a joined text holds comes from its pieces or from the
separator, and the pieces that a separator leaves hold the rest of the text. -/
namespace SchemaBinding
namespace Text

variable {α β : Type}

theorem cons_intercalate (sep : α) {ps : List (List α)} (hps : ps ≠ []) :
    sep :: [sep].intercalate ps = (ps.map (sep :: ·)).flatten := by
  induction ps with
  | nil => exact absurd rfl hps
  | cons p ps ih =>
    by_cases hps : ps = []
    · simp [hps]
    · rw [List.intercalate_cons_of_ne_nil hps, List.map_cons, List.flatten_cons, ← ih hps]
      simp

theorem intercalate_append (sep : List α) {ps qs : List (List α)} (hps : ps ≠ []) (hqs : qs ≠ []) :
    sep.intercalate (ps ++ qs) = sep.intercalate ps ++ sep ++ sep.intercalate qs := by
  induction ps with
  | nil => exact absurd rfl hps
  | cons p ps ih =>
    by_cases hps : ps = []
    · simp [hps, List.intercalate_cons_of_ne_nil hqs]
    · rw [List.cons_append, List.intercalate_cons_of_ne_nil (by simp [hps]), ih hps,
        List.intercalate_cons_of_ne_nil hps]
      simp only [List.append_assoc]

theorem map_intercalate (f : α → β) (sep : List α) (ps : List (List α)) :
    (sep.intercalate ps).map f = (sep.map f).intercalate (ps.map fun p => p.map f) := by
  induction ps with
  | nil => rfl
  | cons p ps ih =>
    by_cases hps : ps = []
    · simp [hps]
    · rw [List.intercalate_cons_of_ne_nil hps, List.map_cons,
        List.intercalate_cons_of_ne_nil (by simpa using hps), List.map_append, List.map_append, ih]

theorem mem_intercalate {sep : List α} {ps : List (List α)} {a : α}
    (h : a ∈ sep.intercalate ps) : a ∈ sep ∨ ∃ p ∈ ps, a ∈ p := by
  induction ps with
  | nil => simp at h
  | cons p ps ih =>
    by_cases hps : ps = []
    · subst hps
      exact Or.inr ⟨p, by simp, by simpa using h⟩
    · rw [List.intercalate_cons_of_ne_nil hps, List.mem_append, List.mem_append] at h
      rcases h with (h | h) | h
      · exact Or.inr ⟨p, by simp, h⟩
      · exact Or.inl h
      · exact (ih h).imp_right fun ⟨q, hq, ha⟩ => ⟨q, by simp [hq], ha⟩

theorem count_intercalate [DecidableEq α] {sep : List α} {a : α} (ha : a ∉ sep)
    (ps : List (List α)) : (sep.intercalate ps).count a = ps.flatten.count a := by
  induction ps with
  | nil => rfl
  | cons p ps ih =>
    by_cases hps : ps = []
    · simp [hps]
    · have hsep : sep.count a = 0 := List.count_eq_zero_of_not_mem ha
      rw [List.intercalate_cons_of_ne_nil hps, List.flatten_cons]
      simp only [List.count_append, hsep, ih, Nat.add_zero]

theorem mem_of_mem_splitOn [DecidableEq α] {sep : α} {xs p : List α} (hp : p ∈ xs.splitOn sep)
    {a : α} (ha : a ∈ p) : a ∈ xs ∧ a ≠ sep := by
  induction xs generalizing p with
  | nil => simp_all
  | cons x xs ih =>
    rw [List.splitOn_cons_eq_if_modifyHead] at hp
    split at hp
    · rcases List.mem_cons.mp hp with rfl | hp
      · simp at ha
      · exact (ih hp ha).imp_left (List.mem_cons_of_mem x)
    · rename_i hx
      cases hq : xs.splitOn sep with
      | nil => exact absurd hq (List.splitOn_ne_nil sep xs)
      | cons q qs =>
        rw [hq, List.modifyHead_cons, List.mem_cons] at hp
        rcases hp with rfl | hp
        · rcases List.mem_cons.mp ha with rfl | ha
          · exact ⟨by simp, by simpa using hx⟩
          · exact (ih (by simp [hq]) ha).imp_left (List.mem_cons_of_mem x)
        · exact (ih (by simp [hq, hp]) ha).imp_left (List.mem_cons_of_mem x)

theorem splitOn_append_of_not_mem [DecidableEq α] {sep : α} {gap xs q : List α} {qs : List (List α)}
    (hgap : sep ∉ gap) (hxs : xs.splitOn sep = q :: qs) :
    (gap ++ xs).splitOn sep = (gap ++ q) :: qs := by
  induction gap with
  | nil => exact hxs
  | cons a gap ih =>
    simp only [List.mem_cons, not_or] at hgap
    rw [List.cons_append, List.splitOn_cons_eq_if_modifyHead,
      if_neg (by simpa using Ne.symm hgap.1), ih hgap.2]
    rfl

/-- Between two texts it joins the last piece of one and the first piece of the other. -/
theorem exists_splitOn_gap [DecidableEq α] (sep : α) (xs ys : List α) :
    ∃ ps p q qs, xs.splitOn sep = ps ++ [p] ∧ ys.splitOn sep = q :: qs ∧
      ∀ gap, sep ∉ gap → (xs ++ gap ++ ys).splitOn sep = ps ++ (p ++ gap ++ q) :: qs := by
  induction xs with
  | nil =>
    obtain ⟨q, qs, hys⟩ := List.exists_cons_of_ne_nil (List.splitOn_ne_nil sep ys)
    exact ⟨[], [], q, qs, rfl, hys, fun gap hgap => splitOn_append_of_not_mem hgap hys⟩
  | cons x xs ih =>
    obtain ⟨ps, p, q, qs, hxs, hys, hgaps⟩ := ih
    simp only [List.cons_append, List.splitOn_cons_eq_if_modifyHead, hxs]
    split
    · exact ⟨[] :: ps, p, q, qs, rfl, hys, fun gap hgap => by rw [hgaps gap hgap]; rfl⟩
    · cases ps with
      | nil => exact ⟨[], x :: p, q, qs, rfl, hys, fun gap hgap => by rw [hgaps gap hgap]; rfl⟩
      | cons r ps =>
        exact ⟨(x :: r) :: ps, p, q, qs, rfl, hys, fun gap hgap => by rw [hgaps gap hgap]; rfl⟩

theorem not_infix_of_splitOn_ne_nil [DecidableEq α] {sep : α} {xs : List α}
    (h : ∀ p ∈ xs.splitOn sep, p ≠ []) : ¬[sep, sep] <:+: xs := by
  rintro ⟨pre, post, rfl⟩
  have hsplit : (pre ++ sep :: sep :: post).splitOn sep =
      pre.splitOn sep ++ [] :: post.splitOn sep := by
    have hpost : (sep :: post).splitOn sep = [] :: post.splitOn sep := by
      rw [List.splitOn_cons_eq_if_modifyHead, if_pos (beq_self_eq_true sep)]
    rw [← hpost]
    exact List.splitOnP_append_cons pre (sep :: post) (beq_self_eq_true sep)
  refine h [] ?_ rfl
  rw [List.append_assoc, List.cons_append, List.cons_append, List.nil_append, hsplit]
  exact List.mem_append_right _ List.mem_cons_self

theorem splitOnP_map (f : α → β) (p : β → Bool) (xs : List α) :
    (xs.map f).splitOnP p = (xs.splitOnP (p ∘ f)).map (List.map f) := by
  induction xs with
  | nil => rfl
  | cons x xs ih =>
    rw [List.map_cons, List.splitOnP_cons_eq_if_modifyHead, List.splitOnP_cons_eq_if_modifyHead, ih,
      Function.comp_apply]
    split
    · rfl
    · cases xs.splitOnP (p ∘ f) <;> rfl

end Text
end SchemaBinding
