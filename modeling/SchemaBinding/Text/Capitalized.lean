/-! Capitalised words in running text. Characters other than ASCII letters and digits separate
words and stay as they are, so that the text keeps its length. -/
namespace SchemaBinding
namespace Text

/-- Goes through a text with two facts about what came before: `first`, the next letter begins a
word after a separator or the start; `afterLower`, the last character was a lowercase letter. -/
def capitalizeFrom : Bool → Bool → List Char → List Char
  | _, _, [] => []
  | first, afterLower, c :: cs =>
    if c.isAlphanum then
      let begins := first || (afterLower && c.isUpper) ||
        (c.isUpper && cs.head?.any Char.isLower)
      (if begins then c.toUpper else c.toLower) :: capitalizeFrom false c.isLower cs
    else c :: capitalizeFrom (cs.head?.any Char.isAlphanum) false cs

/-- Capitalises every word and writes the rest of it in lowercase. A word begins after a
separator, at a capital after a lowercase letter, and at a capital before one. -/
def capitalizeWords (cs : List Char) : List Char := capitalizeFrom true false cs

@[simp] theorem length_capitalizeFrom (first afterLower : Bool) (cs : List Char) :
    (capitalizeFrom first afterLower cs).length = cs.length := by
  induction cs generalizing first afterLower with
  | nil => rfl
  | cons c cs ih => simp only [capitalizeFrom]; split <;> simp [ih]

@[simp] theorem length_capitalizeWords (cs : List Char) :
    (capitalizeWords cs).length = cs.length :=
  length_capitalizeFrom _ _ cs

end Text
end SchemaBinding
