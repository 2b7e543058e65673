import SchemaBinding.Proofs.Text.Capitalized

/-! Capitalised words by their neighbours. Main statement: what becomes of a character depends on it
and on the characters directly before and behind it, and on nothing else. -/
namespace SchemaBinding
namespace Text

/-- A character begins a word behind anything that is no letter or digit; a capital does so behind
or in front of a lowercase letter too. -/
def begins (before : Option Char) (c : Char) (behind : Option Char) : Bool :=
  !before.any Char.isAlphanum ||
    (c.isUpper && (before.any Char.isLower || behind.any Char.isLower))

/-- A character between its neighbours. -/
def cased (before : Option Char) (c : Char) (behind : Option Char) : Char :=
  if c.isAlphanum then if begins before c behind then c.toUpper else c.toLower else c

/-- A text behind a character, or at the start. -/
def windowed : Option Char → List Char → List Char
  | _, [] => []
  | before, c :: cs => cased before c cs.head? :: windowed (some c) cs

variable {before behind : Option Char} {c : Char} {cs : List Char}

theorem begins_eq (before : Option Char) (c : Char) (behind : Option Char) :
    (!before.any Char.isAlphanum || before.any Char.isLower && c.isUpper ||
      c.isUpper && behind.any Char.isLower) = begins before c behind := by
  rw [begins, Bool.and_or_distrib_left, Bool.or_assoc, Bool.and_comm (before.any Char.isLower)]

/-- The two facts about what came before are facts about the last character, wherever they count. -/
theorem capitalizeFrom_eq_windowed {first afterLower : Bool}
    (h : cs.head?.any Char.isAlphanum = true →
      first = !before.any Char.isAlphanum ∧ afterLower = before.any Char.isLower) :
    capitalizeFrom first afterLower cs = windowed before cs := by
  induction cs generalizing before first afterLower with
  | nil => rfl
  | cons c cs ih =>
    by_cases hc : c.isAlphanum = true
    · obtain ⟨rfl, rfl⟩ := h (by simpa using hc)
      have hrest : capitalizeFrom false c.isLower cs = windowed (some c) cs :=
        ih fun _ => by simp [hc]
      simp only [capitalizeFrom, windowed, cased, hc, if_true, hrest, begins_eq]
    · rw [Bool.not_eq_true] at hc
      have hlower := isLower_eq_false_of_isAlphanum hc
      have hrest : capitalizeFrom true false cs = windowed (some c) cs :=
        ih fun _ => by simp [hc, hlower]
      rw [capitalizeFrom_separator hc, capitalizeWords, hrest, windowed, cased, hc,
        if_neg Bool.false_ne_true]

theorem capitalizeWords_eq_windowed (cs : List Char) : capitalizeWords cs = windowed none cs :=
  capitalizeFrom_eq_windowed fun _ => ⟨rfl, rfl⟩

theorem getElem?_windowed (before : Option Char) (cs : List Char) (i : Nat) :
    (windowed before cs)[i]? =
      cs[i]?.map fun c => cased ((cs.take i).getLast?.or before) c cs[i + 1]? := by
  induction cs generalizing before i with
  | nil => rfl
  | cons c cs ih =>
    cases i with
    | zero => simp [windowed, List.head?_eq_getElem?]
    | succ i => simp [windowed, ih, List.getLast?_cons]

theorem getElem?_capitalizeWords (cs : List Char) (i : Nat) :
    (capitalizeWords cs)[i]? =
      cs[i]?.map fun c => cased (cs.take i).getLast? c cs[i + 1]? := by
  rw [capitalizeWords_eq_windowed, getElem?_windowed]
  simp

theorem isAlphanum_cased : (cased before c behind).isAlphanum = c.isAlphanum := by
  unfold cased
  split_ifs <;> simp

theorem cased_eq_self_iff :
    cased before c behind = c ↔
      (c.isAlpha = true → (c.isUpper = true ↔ begins before c behind = true)) := by
  by_cases halpha : c.isAlpha = true
  · have halnum : c.isAlphanum = true := by simp [isAlphanum_eq, halpha]
    rw [cased, if_pos halnum, imp_iff_right halpha]
    cases begins before c behind with
    | true => simpa using toUpper_eq_self_iff halpha
    | false => simpa using toLower_eq_self_iff
  · have hcase : c.isUpper = false ∧ c.isLower = false := by simpa [Char.isAlpha] using halpha
    have hupper : c.toUpper = c := Char.toUpper_eq_of_not_isLower (by simp [hcase.2])
    have hlower : c.toLower = c := Char.toLower_eq_of_not_isUpper (by simp [hcase.1])
    simp [cased, halpha, hupper, hlower]

theorem filter_windowed_eq_iff (before : Option Char) (cs : List Char) :
    (windowed before cs).filter Char.isAlphanum = cs.filter Char.isAlphanum ↔
      windowed before cs = cs := by
  induction cs generalizing before with
  | nil => simp [windowed]
  | cons c cs ih =>
    rw [windowed, List.cons.injEq, ← ih, List.filter_cons, List.filter_cons, isAlphanum_cased]
    by_cases hc : c.isAlphanum = true
    · simp [hc]
    · simp [hc, cased]

theorem windowed_eq_self_iff (before : Option Char) (cs : List Char) :
    windowed before cs = cs ↔
      ∀ pre c post, cs = pre ++ c :: post → cased (pre.getLast?.or before) c post.head? = c := by
  induction cs generalizing before with
  | nil => simp [windowed]
  | cons c cs ih =>
    rw [windowed, List.cons.injEq, ih]
    constructor
    · rintro ⟨hc, hcs⟩ pre d post heq
      cases pre with
      | nil =>
        cases heq
        exact hc
      | cons e pre =>
        cases heq
        simpa [List.getLast?_cons] using hcs pre d post rfl
    · intro h
      refine ⟨h [] c cs rfl, fun pre d post heq => ?_⟩
      have hd := h (c :: pre) d post (by rw [heq, List.cons_append])
      simpa [List.getLast?_cons] using hd

end Text
end SchemaBinding
