import SchemaBinding.Proofs.Text.Window
import SchemaBinding.Text.CapitalStream

/-! Capitalised words from a reader. Main statement: at every place the reader knows the character
in front and the text behind, and nothing else, so that it gives the capitalised words of the text,
one character for each. -/
namespace SchemaBinding
namespace Text
namespace CapitalStream

/-- A reader between a character and the text behind it. -/
def between (before : Option Char) (rest : List Char) : CapitalStream where
  rest := rest
  first := before.all fun c => !c.isAlphanum && rest.head?.any Char.isAlphanum
  afterLower := before.any Char.isLower
  uppers := []
  lowers := []

variable {before : Option Char} {c : Char} {cs : List Char}

theorem ofList_eq_between (cs : List Char) : ofList cs = between none cs := rfl

theorem first_between (h : cs.head?.any Char.isAlphanum = true) :
    (between before cs).first = !before.any Char.isAlphanum := by
  cases before <;> simp [between, h]

/-- A letter or a digit has one character for its form, so that nothing waits behind it. -/
theorem next_of_isAlphanum (mapping : CaseMapping) (hc : c.isAlphanum = true)
    (first afterLower : Bool) (cs : List Char) :
    next mapping { rest := c :: cs, first := first, afterLower := afterLower } =
      (some (if first || afterLower && c.isUpper || c.isUpper && cs.head?.any Char.isLower
        then c.toUpper else c.toLower),
        { rest := cs, first := false, afterLower := c.isLower }) := by
  have hascii := isAscii_of_isAlphanum hc
  simp only [next, hc, if_true, mapping.upper_of_isAscii c hascii,
    mapping.lower_of_isAscii c hascii]
  split <;> rfl

theorem next_of_not_isAlphanum (mapping : CaseMapping) (hc : c.isAlphanum = false)
    (first afterLower : Bool) (cs : List Char) :
    next mapping { rest := c :: cs, first := first, afterLower := afterLower } =
      (some c, { rest := cs, first := cs.head?.any Char.isAlphanum }) := by
  simp only [next, hc, Bool.false_eq_true, if_false]

theorem next_between_nil (mapping : CaseMapping) (before : Option Char) :
    (between before []).next mapping = (none, between before []) := rfl

theorem next_between_cons (mapping : CaseMapping) (before : Option Char) (c : Char)
    (cs : List Char) :
    (between before (c :: cs)).next mapping =
      (some (cased before c cs.head?), between (some c) cs) := by
  by_cases hc : c.isAlphanum = true
  · have hfirst : (between before (c :: cs)).first = !before.any Char.isAlphanum :=
      first_between (by simpa using hc)
    have hbehind : between (some c) cs =
        { rest := cs, first := false, afterLower := c.isLower } := by simp [between, hc]
    have hnext := next_of_isAlphanum mapping hc (between before (c :: cs)).first
      (before.any Char.isLower) cs
    rw [hfirst, begins_eq, ← hfirst] at hnext
    rw [cased, if_pos hc, hbehind]
    exact hnext
  · rw [Bool.not_eq_true] at hc
    have hbehind : between (some c) cs = { rest := cs, first := cs.head?.any Char.isAlphanum } := by
      simp [between, hc, isLower_eq_false_of_isAlphanum hc]
    rw [cased, if_neg (by simp [hc]), hbehind]
    exact next_of_not_isAlphanum mapping hc (between before (c :: cs)).first
      (before.any Char.isLower) cs

theorem drop_between_nil (mapping : CaseMapping) (before : Option Char) (i : Nat) :
    (between before []).drop mapping i = between before [] := by
  induction i with
  | zero => rfl
  | succ i ih => rw [drop, next_between_nil, ih]

theorem drop_between (mapping : CaseMapping) (before : Option Char) (cs : List Char) (i : Nat) :
    (between before cs).drop mapping i =
      between ((cs.take i).getLast?.or before) (cs.drop i) := by
  induction i generalizing before cs with
  | zero => rfl
  | succ i ih =>
    cases cs with
    | nil => exact drop_between_nil mapping before (i + 1)
    | cons c cs =>
      rw [drop, next_between_cons, ih]
      simp [List.getLast?_cons]

theorem toList_between (mapping : CaseMapping) (before : Option Char) (cs : List Char) :
    (between before cs).toList mapping = windowed before cs := by
  induction cs generalizing before with
  | nil => exact toList_of_next_none (next_between_nil mapping before)
  | cons c cs ih => rw [toList_of_next_some (next_between_cons mapping before c cs), ih, windowed]

theorem next_drop_between (mapping : CaseMapping) (before : Option Char) (cs : List Char)
    (i : Nat) :
    (((between before cs).drop mapping i).next mapping).1 = (windowed before cs)[i]? := by
  induction i generalizing before cs with
  | zero =>
    cases cs with
    | nil => rfl
    | cons c cs =>
      rw [drop, next_between_cons]
      rfl
  | succ i ih =>
    cases cs with
    | nil =>
      rw [drop_between_nil, next_between_nil]
      rfl
    | cons c cs =>
      rw [drop, next_between_cons, ih]
      rfl

theorem toList_ofList (mapping : CaseMapping) (cs : List Char) :
    (ofList cs).toList mapping = capitalizeWords cs := by
  rw [ofList_eq_between, toList_between, capitalizeWords_eq_windowed]

/-- Whatever forms characters beyond ASCII have, the reader gives the capitalised words of a text,
one character for each of its characters. What it gives at a place depends on the character there
and on those directly before and behind it. What it knows there is the character in front and the
text behind: nothing waits, and where a letter or a digit comes next, the two facts about what came
before are facts about the character in front. -/
theorem reads_capitalizeWords (mapping : CaseMapping) (cs : List Char) :
    (ofList cs).toList mapping = capitalizeWords cs ∧
      (capitalizeWords cs).length = cs.length ∧
      ∀ i,
        (capitalizeWords cs)[i]? = cs[i]?.map (fun c => cased (cs.take i).getLast? c cs[i + 1]?) ∧
        (((ofList cs).drop mapping i).next mapping).1 = (capitalizeWords cs)[i]? ∧
        (ofList cs).drop mapping i = between (cs.take i).getLast? (cs.drop i) ∧
        (cs[i]?.any Char.isAlphanum = true →
          ((ofList cs).drop mapping i).first = !(cs.take i).getLast?.any Char.isAlphanum) := by
  have hdrop : ∀ i, (ofList cs).drop mapping i = between (cs.take i).getLast? (cs.drop i) := by
    intro i
    rw [ofList_eq_between, drop_between, Option.or_none]
  refine ⟨toList_ofList mapping cs, length_capitalizeWords cs, fun i => ⟨?_, ?_, hdrop i, ?_⟩⟩
  · exact getElem?_capitalizeWords cs i
  · rw [ofList_eq_between, next_drop_between, capitalizeWords_eq_windowed]
  · intro hnext
    rw [hdrop]
    apply first_between
    rwa [List.head?_drop]

def sharpS : CaseMapping :=
  { CaseMapping.ascii with
    upper := fun c => if c = 'ß' then ['S', 'S'] else [c.toUpper]
    upper_of_isAscii := by
      intro c h
      have hc : c ≠ 'ß' := by
        rintro rfl
        exact absurd h (by decide)
      exact if_neg hc }

/-- A word begins behind `ß`, which has a capital of two characters and stays as it is. -/
theorem reads_capitalizeWords_sharpS :
    "straßeID".toList[5]?.any Char.isAlphanum = true ∧
      (ofList "straßeID".toList).toList sharpS = "StraßEId".toList ∧
      (ofList "straßeID".toList).drop sharpS 5 = between (some 'ß') "eID".toList ∧
      ((ofList "straßeID".toList).drop sharpS 5).first = true := by
  have hnext : "straßeID".toList[5]?.any Char.isAlphanum = true := by decide +kernel
  have hwords : capitalizeWords "straßeID".toList = "StraßEId".toList := by decide +kernel
  obtain ⟨hlist, -, hplaces⟩ := reads_capitalizeWords sharpS "straßeID".toList
  obtain ⟨-, -, hbetween, hfirst⟩ := hplaces 5
  exact ⟨hnext, hlist.trans hwords, hbetween, hfirst hnext⟩

end CapitalStream
end Text
end SchemaBinding
