/-! Finite types whose values are labels in JSON. -/
namespace SchemaBinding

/-- The values in their order, and the label of each. -/
class Labelled (α : Type) where
  all : List α
  label : α → String

/-- Labels tell all values apart. -/
class LawfulLabelled (α : Type) [Labelled α] : Prop where
  mem_all (a : α) : a ∈ Labelled.all
  label_injective {a b : α} : Labelled.label a = Labelled.label b → a = b

namespace Labelled

def labels (α : Type) [Labelled α] : List String := (all : List α).map label

def ofLabel? (α : Type) [Labelled α] (s : String) : Option α :=
  (all : List α).find? fun a => label a == s

theorem ofLabel?_eq_some_iff {α : Type} [Labelled α] [LawfulLabelled α] {s : String} {a : α} :
    ofLabel? α s = some a ↔ s = label a := by
  constructor
  · intro h
    have := List.find?_some h
    simp only [beq_iff_eq] at this
    exact this.symm
  · rintro rfl
    unfold ofLabel?
    cases h : (all : List α).find? fun b => label b == label a with
    | none =>
      have := List.find?_eq_none.mp h a (LawfulLabelled.mem_all a)
      simp at this
    | some b =>
      have := List.find?_some h
      simp only [beq_iff_eq] at this
      rw [LawfulLabelled.label_injective this]

@[simp] theorem ofLabel?_label {α : Type} [Labelled α] [LawfulLabelled α] (a : α) :
    ofLabel? α (label a) = some a :=
  ofLabel?_eq_some_iff.mpr rfl

end Labelled
end SchemaBinding
