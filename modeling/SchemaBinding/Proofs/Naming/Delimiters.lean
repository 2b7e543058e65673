import SchemaBinding.Proofs.Naming.SpacedWords
import SchemaBinding.Proofs.Text.Window
import SchemaBinding.Text.Scripts

/-! Delimiters in declared names. Main statement: names that differ in their delimiters have the same
type name, unless one of them has a separator, the other has none, and the letters are in both cases
and not capitalised word by word already. -/
namespace SchemaBinding
namespace Naming

open Text

/-- The separators and the rest of ASCII white space. -/
def isDelimiter (c : Char) : Bool := isSeparator c || c == '\t' || c == '\n' || c == '\r'

/-- Delimiters stand in for each other at the same places; all else is the same. -/
def Redelimited : List Char → List Char → Prop :=
  List.Forall₂ fun c d => c = d ∨ isDelimiter c = true ∧ isDelimiter d = true

instance : DecidableRel Redelimited := fun cs ds =>
  inferInstanceAs (Decidable (List.Forall₂ (fun c d =>
    c = d ∨ isDelimiter c = true ∧ isDelimiter d = true) cs ds))

variable {cs ds : List Char}

theorem isDelimiter_spec {c : Char} (h : isDelimiter c = true) :
    c.isAlphanum = false ∧ isAscii c = true := by
  simp only [isDelimiter, Bool.or_eq_true, beq_iff_eq] at h
  rcases h with ((h | rfl) | rfl) | rfl
  · exact isSeparator_spec h
  all_goals decide

theorem isUpper_of_isDelimiter {c : Char} (h : isDelimiter c = true) : c.isUpper = false :=
  isUpper_eq_false_of_isAlphanum (isDelimiter_spec h).1

theorem isLower_of_isDelimiter {c : Char} (h : isDelimiter c = true) : c.isLower = false :=
  isLower_eq_false_of_isAlphanum (isDelimiter_spec h).1

theorem redelimited_refl (cs : List Char) : Redelimited cs cs :=
  List.forall₂_same.mpr fun _ _ => Or.inl rfl

theorem Redelimited.any_eq (h : Redelimited cs ds) {p : Char → Bool}
    (hp : ∀ c, isDelimiter c = true → p c = false) : cs.any p = ds.any p := by
  induction h with
  | nil => rfl
  | cons hcd _ ih =>
    rcases hcd with rfl | ⟨hc, hd⟩
    · simp [ih]
    · simp [hp _ hc, hp _ hd, ih]

theorem Redelimited.filter_eq (h : Redelimited cs ds) :
    cs.filter Char.isAlphanum = ds.filter Char.isAlphanum := by
  induction h with
  | nil => rfl
  | cons hcd _ ih =>
    rcases hcd with rfl | ⟨hc, hd⟩
    · simp [List.filter_cons, ih]
    · simp [(isDelimiter_spec hc).1, (isDelimiter_spec hd).1, ih]

theorem Redelimited.any_head?_eq (h : Redelimited cs ds) {p : Char → Bool}
    (hp : ∀ c, isDelimiter c = true → p c = false) : cs.head?.any p = ds.head?.any p := by
  cases h with
  | nil => rfl
  | cons hcd _ =>
    rcases hcd with rfl | ⟨hc, hd⟩
    · rfl
    · simp [hp _ hc, hp _ hd]

theorem redelimited_capitalizeFrom (h : Redelimited cs ds) (first afterLower : Bool) :
    Redelimited (capitalizeFrom first afterLower cs) (capitalizeFrom first afterLower ds) := by
  induction h generalizing first afterLower with
  | nil => exact .nil
  | @cons c d cs ds hcd hrest ih =>
    by_cases hc : c.isAlphanum = true
    · have hsame : c = d := hcd.resolve_right fun hdelimiter => by
        simp [(isDelimiter_spec hdelimiter.1).1] at hc
      subst hsame
      have hlower : cs.head?.any Char.isLower = ds.head?.any Char.isLower :=
        Redelimited.any_head?_eq hrest fun _ => isLower_of_isDelimiter
      simp only [capitalizeFrom, hc, if_true, hlower]
      exact .cons (Or.inl rfl) (ih _ _)
    · rw [Bool.not_eq_true] at hc
      have hd : d.isAlphanum = false := by
        rcases hcd with rfl | ⟨-, hd⟩
        · exact hc
        · exact (isDelimiter_spec hd).1
      rw [capitalizeFrom_separator hc, capitalizeFrom_separator hd]
      exact .cons hcd (ih true false)

theorem Redelimited.wordLetters_eq (h : Redelimited cs ds) : wordLetters cs = wordLetters ds :=
  (redelimited_capitalizeFrom h true false).filter_eq

/-- Behind the first letter or digit the capitals are the letters that begin a word. -/
def Capitalised (cs : List Char) : Prop :=
  ∀ pre c post, cs = pre ++ c :: post → pre.any Char.isAlphanum = true → c.isAlpha = true →
    (c.isUpper = true ↔ begins pre.getLast? c post.head? = true)

theorem ne_nil_of_any {p : Char → Bool} (h : cs.any p = true) : cs ≠ [] := by
  rintro rfl
  simp at h

theorem capitalised_cons_of_not_alphanum {c : Char} (hc : c.isAlphanum = false) :
    Capitalised (c :: cs) ↔ Capitalised cs := by
  constructor
  · intro h pre d post heq hpre hd
    have hd' := h (c :: pre) d post (by rw [heq, List.cons_append]) (by simp [hpre]) hd
    rwa [List.getLast?_cons_of_ne_nil (ne_nil_of_any hpre)] at hd'
  · intro h pre d post heq hpre hd
    cases pre with
    | nil => simp at hpre
    | cons e pre =>
      cases heq
      rw [List.any_cons, hc, Bool.false_or] at hpre
      rw [List.getLast?_cons_of_ne_nil (ne_nil_of_any hpre)]
      exact h pre d post rfl hpre hd

theorem capitalised_cons_of_alphanum {c : Char} (hc : c.isAlphanum = true) :
    Capitalised (c :: cs) ↔ windowed (some c) cs = cs := by
  rw [windowed_eq_self_iff]
  constructor
  · intro h pre d post heq
    have hd := h (c :: pre) d post (by rw [heq, List.cons_append]) (by simp [hc])
    rw [cased_eq_self_iff]
    simpa [List.getLast?_cons] using hd
  · intro h pre d post heq hpre
    cases pre with
    | nil => simp at hpre
    | cons e pre =>
      cases heq
      have hd := cased_eq_self_iff.mp (h pre d post rfl)
      simpa [List.getLast?_cons] using hd

theorem capitalizeFirst_filter_eq_wordLetters_iff (cs : List Char) :
    capitalizeFirst (cs.filter Char.isAlphanum) = wordLetters cs ↔ Capitalised cs := by
  induction cs with
  | nil => simp [capitalizeFirst, wordLetters, capitalizeWords, capitalizeFrom, Capitalised]
  | cons c cs ih =>
    by_cases hc : c.isAlphanum = true
    · have hfirst : cased none c cs.head? = c.toUpper := by simp [cased, begins, hc]
      rw [capitalised_cons_of_alphanum hc, ← filter_windowed_eq_iff, wordLetters,
        capitalizeWords_eq_windowed, windowed, hfirst, List.filter_cons_of_pos hc,
        List.filter_cons_of_pos (by simp [hc]), capitalizeFirst, List.cons_inj_right, eq_comm]
    · rw [Bool.not_eq_true] at hc
      rw [capitalised_cons_of_not_alphanum hc, ← ih, wordLetters, capitalizeWords,
        capitalizeFrom_separator hc, List.filter_cons_of_neg (by simp [hc]),
        List.filter_cons_of_neg (by simp [hc]), wordLetters]

section

variable [Transliteration]

/-- Delimiters are ASCII, so that they are their own transliterations. -/
theorem redelimited_transliterate (h : Redelimited cs ds) :
    Redelimited (transliterate cs) (transliterate ds) := by
  induction h with
  | nil => exact .nil
  | @cons c d cs ds hcd _ ih =>
    have hfirst : Redelimited (Transliteration.spell c) (Transliteration.spell d) := by
      rcases hcd with rfl | ⟨hc, hd⟩
      · exact redelimited_refl _
      · rw [Transliteration.spell_of_isAscii c (isDelimiter_spec hc).2,
          Transliteration.spell_of_isAscii d (isDelimiter_spec hd).2]
        exact .cons (Or.inr ⟨hc, hd⟩) .nil
    exact List.rel_append hfirst ih

def Parted (raw : String) : Prop := ∃ c ∈ transliterate raw.toList, isSeparator c = true

def InBothCases (raw : String) : Prop :=
  (∃ c ∈ transliterate raw.toList, c.isUpper = true) ∧
    ∃ c ∈ transliterate raw.toList, c.isLower = true

instance : DecidablePred Parted := fun raw =>
  inferInstanceAs (Decidable (∃ c ∈ transliterate raw.toList, isSeparator c = true))

instance : DecidablePred InBothCases := fun raw =>
  inferInstanceAs (Decidable ((∃ c ∈ transliterate raw.toList, c.isUpper = true) ∧
    ∃ c ∈ transliterate raw.toList, c.isLower = true))

variable {raw raw' : String}

theorem isMixedCase_iff :
    isMixedCase (transliterate raw.toList) = true ↔ ¬Parted raw ∧ InBothCases raw := by
  simp [isMixedCase, Parted, InBothCases, and_assoc]

theorem typeWords_eq_ite (raw : String) :
    typeWords (transliterate raw.toList) =
      if ¬Parted raw ∧ InBothCases raw then
        capitalizeFirst ((transliterate raw.toList).filter Char.isAlphanum)
      else wordLetters (transliterate raw.toList) := by
  simp only [typeWords, isMixedCase_iff, wordLetters]

theorem Redelimited.inBothCases_iff (h : Redelimited raw.toList raw'.toList) :
    InBothCases raw ↔ InBothCases raw' := by
  have hupper := (redelimited_transliterate h).any_eq fun _ => isUpper_of_isDelimiter
  have hlower := (redelimited_transliterate h).any_eq fun _ => isLower_of_isDelimiter
  simp only [InBothCases, ← List.any_eq_true, hupper, hlower]

theorem Redelimited.usable_iff (h : Redelimited raw.toList raw'.toList) :
    Usable raw ↔ Usable raw' := by
  have halnum := (redelimited_transliterate h).any_eq fun _ hc => (isDelimiter_spec hc).1
  simp only [Usable, ← List.any_eq_true, halnum]

theorem Redelimited.typeWords_eq_iff (h : Redelimited raw.toList raw'.toList) :
    typeWords (transliterate raw.toList) = typeWords (transliterate raw'.toList) ↔
      (Parted raw ↔ Parted raw') ∨ ¬InBothCases raw ∨ Capitalised (transliterate raw.toList) := by
  have hletters := (redelimited_transliterate h).filter_eq
  have hwords := (redelimited_transliterate h).wordLetters_eq
  rw [← capitalizeFirst_filter_eq_wordLetters_iff, typeWords_eq_ite, typeWords_eq_ite, ← hletters,
    ← hwords]
  by_cases hcase : InBothCases raw
  · have hcase' := h.inBothCases_iff.mp hcase
    by_cases hraw : Parted raw <;> by_cases hraw' : Parted raw' <;>
      simp [hcase, hcase', hraw, hraw', eq_comm]
  · have hcase' := mt h.inBothCases_iff.mpr hcase
    simp [hcase, hcase']

/-- Names that differ in their delimiters have the same type name, unless one of them has a
separator, the other has none, and the letters are in both cases and not capitalised already. -/
theorem typeName_redelimited_iff {raw raw' : String} (h : Redelimited raw.toList raw'.toList) :
    (typeName raw).toOption = (typeName raw').toOption ↔
      (Parted raw ↔ Parted raw') ∨ ¬InBothCases raw ∨ Capitalised (transliterate raw.toList) := by
  rw [← h.typeWords_eq_iff]
  by_cases husable : Usable raw
  · have hletters := (redelimited_transliterate h).filter_eq
    have husable' := h.usable_iff.mp husable
    rw [typeName_of_usable husable, typeName_of_usable husable', digitMark_typeWords,
      digitMark_typeWords, hletters]
    simp [Except.toOption, String.ofList_inj]
  · have husable' := mt h.usable_iff.mpr husable
    have herror := typeName_eq_error_iff.mpr ⟨husable, rfl⟩
    have herror' := typeName_eq_error_iff.mpr ⟨husable', rfl⟩
    rw [herror, herror', typeWords_eq_nil_iff_not_usable.mpr husable,
      typeWords_eq_nil_iff_not_usable.mpr husable']
    exact iff_of_true rfl rfl

end

attribute [local instance] Transliteration.byScript

theorem typeName_redelimited_order_state :
    Redelimited "order\tSTATE_2".toList "order STATE-2".toList ∧
      typeName "order STATE-2" = .ok "OrderState2" ∧
      typeName "order\tSTATE_2" = .ok "OrderState2" := by
  have hsame : Redelimited "order\tSTATE_2".toList "order STATE-2".toList := by decide +kernel
  have hname : typeName "order STATE-2" = .ok "OrderState2" := by cbv
  have hascii : transliterate "order\tSTATE_2".toList = "order\tSTATE_2".toList := by cbv
  have hascii' : transliterate "order STATE-2".toList = "order STATE-2".toList := by cbv
  have hparted : Parted "order\tSTATE_2" ↔ Parted "order STATE-2" := by
    rw [Parted, Parted, hascii, hascii']
    exact iff_of_true ⟨'_', by simp, rfl⟩ ⟨' ', by simp, rfl⟩
  have heq := (typeName_redelimited_iff hsame).mpr (Or.inl hparted)
  rw [hname] at heq
  cases hraw : typeName "order\tSTATE_2" with
  | error e => simp [hraw, Except.toOption] at heq
  | ok name =>
    rw [hraw] at heq
    exact ⟨hsame, hname, congrArg Except.ok (Option.some_inj.mp heq)⟩

/-- Without a separator a tab does not part the name. -/
theorem not_forall_typeName_redelimited :
    ¬∀ raw raw' : String, Redelimited raw.toList raw'.toList →
      (typeName raw).toOption = (typeName raw').toOption := by
  intro h
  have hname : typeName "order\tSTATE" = .ok "OrderSTATE" := by cbv
  have hname' : typeName "order STATE" = .ok "OrderState" := by cbv
  have hsame := h "order\tSTATE" "order STATE" (by decide +kernel)
  rw [hname, hname'] at hsame
  simp [Except.toOption] at hsame

end Naming
end SchemaBinding
