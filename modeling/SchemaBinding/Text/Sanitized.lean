import SchemaBinding.Text.Transliteration

/-! Texts of ASCII letters, digits and single inner underscores: the raw material of every
generated identifier. -/
namespace SchemaBinding
namespace Text

/-- The characters that an identifier may hold. -/
def isIdentChar (c : Char) : Bool := c.isAlphanum || c == '_'

/-- Replaces every maximal run of characters of a class by one underscore, which takes the place
of the last character of the run. -/
def squeeze (p : Char → Bool) : List Char → List Char
  | [] => []
  | c :: cs =>
    if p c then (if cs.head?.any p then squeeze p cs else '_' :: squeeze p cs)
    else c :: squeeze p cs

@[simp] theorem squeeze_nil (p : Char → Bool) : squeeze p [] = [] := rfl

theorem mem_squeeze {p : Char → Bool} {cs : List Char} {d : Char} (h : d ∈ squeeze p cs) :
    d = '_' ∨ (d ∈ cs ∧ p d = false) := by
  induction cs with
  | nil => simp at h
  | cons c cs ih =>
    simp only [squeeze] at h
    split at h
    · split at h
      · exact (ih h).imp_right fun h => ⟨List.mem_cons_of_mem _ h.1, h.2⟩
      · rcases List.mem_cons.mp h with rfl | h
        · exact Or.inl rfl
        · exact (ih h).imp_right fun h => ⟨List.mem_cons_of_mem _ h.1, h.2⟩
    · rename_i hc
      rcases List.mem_cons.mp h with rfl | h
      · exact Or.inr ⟨List.mem_cons_self, by simpa using hc⟩
      · exact (ih h).imp_right fun h => ⟨List.mem_cons_of_mem _ h.1, h.2⟩

def collapseUnderscores : List Char → List Char := squeeze (· == '_')

/-- Transliterates, writes an underscore for every run of other characters, collapses the
underscores and cuts them off both ends. -/
def sanitize [Transliteration] (cs : List Char) : List Char :=
  trimOf (· == '_') (collapseUnderscores (squeeze (fun c => !isIdentChar c) (transliterate cs)))

@[simp] theorem sanitize_nil [Transliteration] : sanitize [] = [] := rfl

/-- Letters and digits, with single underscores between some of them. It may be empty. -/
structure IsSanitized (cs : List Char) : Prop where
  isIdentChar : ∀ c ∈ cs, isIdentChar c = true
  head_ne : cs.head? ≠ some '_'
  last_ne : cs.getLast? ≠ some '_'
  no_underscores : ¬['_', '_'] <:+: cs

end Text
end SchemaBinding
