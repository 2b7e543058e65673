/-! Lists in strictly ascending order. Main statement: `ascending xs` has the members of `xs`, each
of them once, in order. -/
namespace SchemaBinding

variable {α : Type} [Ord α]

/-- Inserts a value where it belongs, unless it is there already. -/
def insertAscending (a : α) : List α → List α
  | [] => [a]
  | b :: bs =>
    match compare a b with
    | .lt => a :: b :: bs
    | .eq => b :: bs
    | .gt => b :: insertAscending a bs

def ascending (xs : List α) : List α := xs.foldr insertAscending []

@[simp] theorem ascending_nil : ascending ([] : List α) = [] := rfl

@[simp] theorem ascending_cons (a : α) (xs : List α) :
    ascending (a :: xs) = insertAscending a (ascending xs) := rfl

theorem mem_insertAscending [Std.LawfulEqOrd α] {a c : α} {xs : List α} :
    c ∈ insertAscending a xs ↔ c = a ∨ c ∈ xs := by
  induction xs with
  | nil => simp [insertAscending]
  | cons b bs ih =>
    unfold insertAscending
    split
    · simp
    · rename_i h
      have := Std.LawfulEqOrd.eq_of_compare h
      subst this
      simp
    · simp only [List.mem_cons, ih]
      constructor
      · rintro (h | h | h) <;> simp [h]
      · rintro (h | h | h) <;> simp [h]

@[simp] theorem mem_ascending [Std.LawfulEqOrd α] {c : α} {xs : List α} :
    c ∈ ascending xs ↔ c ∈ xs := by
  induction xs with
  | nil => simp
  | cons a xs ih => simp [mem_insertAscending, ih]

theorem pairwise_insertAscending [Std.TransOrd α] [Std.LawfulEqOrd α] {a : α} {xs : List α}
    (h : xs.Pairwise fun x y => compare x y = .lt) :
    (insertAscending a xs).Pairwise fun x y => compare x y = .lt := by
  induction xs with
  | nil => simp [insertAscending]
  | cons b bs ih =>
    obtain ⟨hb, hbs⟩ := List.pairwise_cons.mp h
    unfold insertAscending
    split
    · rename_i hab
      refine List.pairwise_cons.mpr ⟨fun c hc => ?_, h⟩
      rcases List.mem_cons.mp hc with rfl | hc
      · exact hab
      · exact Std.TransCmp.lt_trans hab (hb c hc)
    · exact h
    · rename_i hab
      refine List.pairwise_cons.mpr ⟨fun c hc => ?_, ih hbs⟩
      rcases mem_insertAscending.mp hc with rfl | hc
      · exact Std.OrientedCmp.lt_of_gt hab
      · exact hb c hc

theorem pairwise_ascending [Std.TransOrd α] [Std.LawfulEqOrd α] (xs : List α) :
    (ascending xs).Pairwise fun x y => compare x y = .lt := by
  induction xs with
  | nil => simp
  | cons a xs ih => exact pairwise_insertAscending ih

theorem nodup_ascending [Std.TransOrd α] [Std.LawfulEqOrd α] (xs : List α) :
    (ascending xs).Nodup := by
  refine (pairwise_ascending xs).imp ?_
  rintro a b hab rfl
  rw [Std.ReflOrd.compare_self] at hab
  cases hab

end SchemaBinding
