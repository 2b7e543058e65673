import SchemaBinding.Text.Blank
import Mathlib.Data.List.TakeWhile

/-! Trimmed texts. Main statements: trimming loses no character outside of its class, so that a text
is trimmed to nothing exactly if it is blank, and any other stays visible. -/
namespace SchemaBinding
namespace Text

variable {p : Char → Bool} {cs : List Char} {c : Char}

theorem mem_dropWhile_iff (hc : p c = false) : c ∈ cs.dropWhile p ↔ c ∈ cs := by
  have hsplit : cs.takeWhile p ++ cs.dropWhile p = cs := List.takeWhile_append_dropWhile
  constructor
  · intro h
    rw [← hsplit]
    exact List.mem_append_right _ h
  · intro h
    rw [← hsplit, List.mem_append] at h
    refine h.resolve_left fun htake => ?_
    have hp := List.mem_takeWhile_imp htake
    simp [hc] at hp

theorem mem_trimOf_iff (hc : p c = false) : c ∈ trimOf p cs ↔ c ∈ cs := by
  rw [trimOf, List.mem_reverse, mem_dropWhile_iff hc, List.mem_reverse, mem_dropWhile_iff hc]

theorem isPrefix_trimOf (p : Char → Bool) (cs : List Char) : trimOf p cs <+: cs.dropWhile p := by
  have hback := List.dropWhile_suffix p (l := (cs.dropWhile p).reverse)
  rwa [← List.reverse_prefix, List.reverse_reverse] at hback

theorem isInfix_trimOf (p : Char → Bool) (cs : List Char) : trimOf p cs <:+: cs :=
  (isPrefix_trimOf p cs).isInfix.trans (List.dropWhile_suffix p).isInfix

theorem exists_trimOf (p : Char → Bool) (cs : List Char) :
    ∃ front back, cs = front ++ trimOf p cs ++ back ∧ (∀ c ∈ front, p c = true) ∧
      ∀ c ∈ back, p c = true := by
  have hback : cs.dropWhile p =
      trimOf p cs ++ ((cs.dropWhile p).reverse.takeWhile p).reverse := by
    rw [trimOf, ← List.reverse_append, List.takeWhile_append_dropWhile, List.reverse_reverse]
  refine ⟨cs.takeWhile p, ((cs.dropWhile p).reverse.takeWhile p).reverse, ?_, ?_, ?_⟩
  · rw [List.append_assoc, ← hback, List.takeWhile_append_dropWhile]
  · exact fun c => List.mem_takeWhile_imp
  · intro c hc
    exact List.mem_takeWhile_imp (List.mem_reverse.mp hc)

theorem eq_false_of_head?_trimOf (h : (trimOf p cs).head? = some c) : p c = false := by
  obtain ⟨rest, hrest⟩ := isPrefix_trimOf p cs
  have hhead := List.head?_dropWhile_not p cs
  rw [← hrest, List.head?_append, h] at hhead
  exact hhead

theorem eq_false_of_getLast?_trimOf (h : (trimOf p cs).getLast? = some c) : p c = false := by
  rw [trimOf, List.getLast?_reverse] at h
  have hhead := List.head?_dropWhile_not p (cs.dropWhile p).reverse
  rwa [h] at hhead

theorem trimOf_eq_nil_iff : trimOf p cs = [] ↔ ∀ c ∈ cs, p c = true := by
  constructor
  · intro h c hc
    by_contra hp
    have hmem := (mem_trimOf_iff (by simpa using hp)).mpr hc
    simp [h] at hmem
  · intro h
    simp [trimOf, List.dropWhile_eq_nil_iff.mpr h]

theorem trimOf_eq_self_iff :
    trimOf p cs = cs ↔ cs.head?.any p = false ∧ cs.getLast?.any p = false := by
  constructor
  · intro h
    constructor
    · cases hhead : cs.head? with
      | none => rfl
      | some c =>
        rw [← h] at hhead
        exact eq_false_of_head?_trimOf hhead
    · cases hlast : cs.getLast? with
      | none => rfl
      | some c =>
        rw [← h] at hlast
        exact eq_false_of_getLast?_trimOf hlast
  · rintro ⟨hhead, hlast⟩
    obtain ⟨front, back, hcs, hfront, hback⟩ := exists_trimOf p cs
    have hnofront : front = [] := by
      cases hc : front.head? with
      | none => exact List.head?_eq_none_iff.mp hc
      | some c =>
        rw [hcs, List.append_assoc, List.head?_append, hc] at hhead
        simp [hfront c (List.mem_of_head? hc)] at hhead
    have hnoback : back = [] := by
      cases hc : back.getLast? with
      | none => exact List.getLast?_eq_none_iff.mp hc
      | some c =>
        rw [hcs, List.getLast?_append, hc] at hlast
        simp [hback c (List.mem_of_getLast? hc)] at hlast
    rw [hnofront, hnoback, List.nil_append, List.append_nil] at hcs
    exact hcs.symm

theorem blank_iff {s : String} : blank s = true ↔ ∀ c ∈ s.toList, isBlank c = true := by
  rw [blank, List.all_eq_true]

theorem trim_eq_empty_iff {s : String} : trim s = "" ↔ blank s = true := by
  rw [blank_iff, ← trimOf_eq_nil_iff, trim, ← String.toList_inj]
  simp

theorem blank_trim (s : String) : blank (trim s) = blank s := by
  rw [Bool.eq_iff_iff, blank_iff, blank_iff, trim, String.toList_ofList]
  constructor
  · intro h c hc
    by_contra hp
    have hmem := (mem_trimOf_iff (by simpa using hp)).mpr hc
    exact hp (h c hmem)
  · intro h c hc
    exact h c ((isInfix_trimOf isBlank s.toList).subset hc)

end Text
end SchemaBinding
