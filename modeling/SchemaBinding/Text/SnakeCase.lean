import SchemaBinding.Text.Sanitized

/-! Snake case: words in lowercase, joined by underscores. -/
namespace SchemaBinding
namespace Text

/-- Writes an underscore between a lowercase letter and an uppercase letter that follows it at
once. A run of capitals is one word, and a digit ends none. -/
def breakWords : List Char → List Char
  | [] => []
  | c :: cs =>
    if c.isLower && cs.head?.any Char.isUpper then c :: '_' :: breakWords cs
    else c :: breakWords cs

@[simp] theorem breakWords_nil : breakWords [] = [] := rfl

/-- Snake case of a text. What it makes of other separators of words is left open: a sanitised text
has none but underscores. -/
class SnakeCasing where
  snakeCase : List Char → List Char
  snakeCase_of_isSanitized : ∀ cs, IsSanitized cs → snakeCase cs = (breakWords cs).map Char.toLower

export SnakeCasing (snakeCase)

namespace SnakeCasing

/-- Space, hyphen and underscore separate words, and all of them are written alike. -/
def underscored (c : Char) : Char := if c == ' ' || c == '-' then '_' else c

theorem map_underscored {cs : List Char} (h : ∀ c ∈ cs, isIdentChar c = true) :
    cs.map underscored = cs := by
  rw [List.map_congr_left (g := id), List.map_id]
  intro c hc
  have hident := h c hc
  have hspace : c ≠ ' ' := by rintro rfl; exact absurd hident (by decide)
  have hhyphen : c ≠ '-' := by rintro rfl; exact absurd hident (by decide)
  simp [underscored, hspace, hhyphen]

/-- Snake case with words that end at separators and before capitals. -/
@[reducible] def byCapitals : SnakeCasing where
  snakeCase cs := (breakWords (cs.map underscored)).map Char.toLower
  snakeCase_of_isSanitized cs h := by rw [map_underscored h.isIdentChar]

end SnakeCasing
end Text
end SchemaBinding
