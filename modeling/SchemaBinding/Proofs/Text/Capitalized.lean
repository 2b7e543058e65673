import SchemaBinding.Proofs.Text.Letter
import SchemaBinding.Text.Capitalized

/-! Capitalised words. Main statements: capitalising changes letters in case only, the first letter
becomes a capital, and what stands on one side of a separator makes no difference to the other. -/
namespace SchemaBinding
namespace Text

variable {c : Char} {cs : List Char}

@[simp] theorem map_toLower_capitalizeFrom (first afterLower : Bool) (cs : List Char) :
    (capitalizeFrom first afterLower cs).map Char.toLower = cs.map Char.toLower := by
  induction cs generalizing first afterLower with
  | nil => rfl
  | cons c cs ih =>
    rw [capitalizeFrom]
    split
    · dsimp only
      split <;> simp [ih]
    · simp [ih]

@[simp] theorem map_toLower_capitalizeWords (cs : List Char) :
    (capitalizeWords cs).map Char.toLower = cs.map Char.toLower :=
  map_toLower_capitalizeFrom true false cs

theorem filter_map_toLower (cs : List Char) :
    (cs.map Char.toLower).filter Char.isAlphanum = (cs.filter Char.isAlphanum).map Char.toLower := by
  rw [List.filter_map]
  congr 2
  funext c
  exact isAlphanum_toLower c

theorem isAlphanum_of_mem_capitalizeWords (hcs : ∀ d ∈ cs, d.isAlphanum = true)
    (hc : c ∈ capitalizeWords cs) : c.isAlphanum = true := by
  have hlower : c.toLower ∈ cs.map Char.toLower := by
    rw [← map_toLower_capitalizeWords]
    exact List.mem_map_of_mem hc
  obtain ⟨d, hd, heq⟩ := List.mem_map.mp hlower
  rw [← isAlphanum_toLower, ← heq, isAlphanum_toLower]
  exact hcs d hd

/-- At a separator it makes no difference what came before, and behind it a word may begin. -/
theorem capitalizeFrom_separator (hc : c.isAlphanum = false) (first afterLower : Bool)
    (cs : List Char) :
    capitalizeFrom first afterLower (c :: cs) = c :: capitalizeWords cs := by
  simp only [capitalizeFrom, hc, Bool.false_eq_true, if_false, capitalizeWords]
  congr 1
  cases cs with
  | nil => rfl
  | cons d cs =>
    by_cases hd : d.isAlphanum = true <;> simp [capitalizeFrom, hd]

theorem head?_filter_capitalizeWords (cs : List Char) :
    ((capitalizeWords cs).filter Char.isAlphanum).head? =
      (cs.filter Char.isAlphanum).head?.map Char.toUpper := by
  induction cs with
  | nil => rfl
  | cons c cs ih =>
    rw [capitalizeWords]
    by_cases hc : c.isAlphanum = true
    · simp [capitalizeFrom, hc]
    · rw [Bool.not_eq_true] at hc
      rw [capitalizeFrom_separator hc]
      simpa [hc] using ih

theorem any_head?_append_cons {p : Char → Bool} (hc : p c = false) (ds cs : List Char) :
    (ds ++ c :: cs).head?.any p = ds.head?.any p := by
  cases ds <;> simp [hc]

theorem capitalizeFrom_append_separator (hc : c.isAlphanum = false) (first afterLower : Bool)
    (ds cs : List Char) :
    capitalizeFrom first afterLower (ds ++ c :: cs) =
      capitalizeFrom first afterLower ds ++ c :: capitalizeWords cs := by
  have hlower := isLower_eq_false_of_isAlphanum hc
  induction ds generalizing first afterLower with
  | nil => exact capitalizeFrom_separator hc first afterLower cs
  | cons d ds ih =>
    simp only [List.cons_append, capitalizeFrom, ih, any_head?_append_cons hlower,
      any_head?_append_cons hc]
    split <;> rfl

theorem capitalizeWords_append_separator (hc : c.isAlphanum = false) (ds cs : List Char) :
    capitalizeWords (ds ++ c :: cs) = capitalizeWords ds ++ c :: capitalizeWords cs :=
  capitalizeFrom_append_separator hc true false ds cs

end Text
end SchemaBinding
