import SchemaBinding.Text.Ascii

/-! Capitalised words from a text that is read one character at a time, with a look at the one
behind it. Where a character has several for its capital, as `ß` has `SS`, those behind the first
one wait in a queue. -/
namespace SchemaBinding
namespace Text

/-- The capital and the small form of each character. A form is a text; in ASCII it is one
character. -/
structure CaseMapping where
  upper : Char → List Char
  lower : Char → List Char
  upper_of_isAscii : ∀ c, isAscii c = true → upper c = [c.toUpper]
  lower_of_isAscii : ∀ c, isAscii c = true → lower c = [c.toLower]

/-- No character beyond ASCII has another form. -/
def CaseMapping.ascii : CaseMapping where
  upper c := [c.toUpper]
  lower c := [c.toLower]
  upper_of_isAscii _ _ := rfl
  lower_of_isAscii _ _ := rfl

/-- A reader of capitalised words: the text that it has still to read, whether the next letter
begins a word after a separator or the start, whether the last character was a lowercase letter,
and what is left of the form of that character, a capital one or a small one. -/
structure CapitalStream where
  rest : List Char
  first : Bool := true
  afterLower : Bool := false
  uppers : List Char := []
  lowers : List Char := []

namespace CapitalStream

def ofList (cs : List Char) : CapitalStream := { rest := cs }

/-- The next character, if there is one, and the reader behind it. What waits in a queue comes
before what is still to be read. -/
def next (mapping : CaseMapping) (s : CapitalStream) : Option Char × CapitalStream :=
  match s.uppers, s.lowers, s.rest with
  | c :: uppers, _, _ => (some c, { s with uppers := uppers })
  | [], c :: lowers, _ => (some c, { s with lowers := lowers })
  | [], [], [] => (none, s)
  | [], [], c :: cs =>
    if c.isAlphanum then
      let behind : CapitalStream := { rest := cs, first := false, afterLower := c.isLower }
      if s.first || (s.afterLower && c.isUpper) || (c.isUpper && cs.head?.any Char.isLower) then
        ((mapping.upper c).head?, { behind with uppers := (mapping.upper c).tail })
      else ((mapping.lower c).head?, { behind with lowers := (mapping.lower c).tail })
    else (some c, { rest := cs, first := cs.head?.any Char.isAlphanum })

/-- The reader after it was asked `n` times. -/
def drop (mapping : CaseMapping) : Nat → CapitalStream → CapitalStream
  | 0, s => s
  | n + 1, s => drop mapping n (s.next mapping).2

/-- How much is still to be read, and how much waits. -/
def size (s : CapitalStream) : Nat × Nat := (s.rest.length, s.uppers.length + s.lowers.length)

theorem size_lt_of_next {mapping : CaseMapping} {s t : CapitalStream} {c : Char}
    (h : s.next mapping = (some c, t)) : Prod.Lex (· < ·) (· < ·) t.size s.size := by
  obtain ⟨rest, first, afterLower, uppers, lowers⟩ := s
  have ht : t = (CapitalStream.next mapping ⟨rest, first, afterLower, uppers, lowers⟩).2 := by
    rw [h]
  subst ht
  cases uppers with
  | cons d uppers => exact Prod.Lex.right _ (by simp [next])
  | nil =>
    cases lowers with
    | cons d lowers => exact Prod.Lex.right _ (by simp [next])
    | nil =>
      cases rest with
      | nil => simp [next] at h
      | cons d rest =>
        apply Prod.Lex.left
        simp only [next]
        split
        · split <;> simp
        · simp

def toList (mapping : CaseMapping) (s : CapitalStream) : List Char :=
  match _h : s.next mapping with
  | (none, _) => []
  | (some c, t) => c :: toList mapping t
termination_by s.size
decreasing_by exact size_lt_of_next ‹_›

theorem toList_of_next_none {mapping : CaseMapping} {s t : CapitalStream}
    (h : s.next mapping = (none, t)) : s.toList mapping = [] := by
  rw [toList]
  split <;> simp_all

theorem toList_of_next_some {mapping : CaseMapping} {s t : CapitalStream} {c : Char}
    (h : s.next mapping = (some c, t)) : s.toList mapping = c :: t.toList mapping := by
  rw [toList]
  split <;> simp_all

end CapitalStream
end Text
end SchemaBinding
