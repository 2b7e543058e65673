import SchemaBinding.Proofs.Naming.TypeName
import SchemaBinding.Text.Scripts

/-! Type names of type names. Main statement: the type name of a type name is its own type name, and
it is the same one unless that is in capitals. -/
namespace SchemaBinding
namespace Naming

open Text

theorem capitalizeFrom_of_no_lower {cs : List Char} (halnum : ∀ c ∈ cs, c.isAlphanum = true)
    (hlower : ∀ c ∈ cs, c.isLower = false) :
    capitalizeFrom false false cs = cs.map Char.toLower := by
  induction cs with
  | nil => rfl
  | cons c cs ih =>
    rw [List.forall_mem_cons] at halnum hlower
    have hnext : cs.head?.any Char.isLower = false := by
      rw [Option.any_eq_false]
      intro d hd
      simpa using hlower.2 d (List.mem_of_mem_head? hd)
    have ih := ih halnum.2 hlower.2
    simp [capitalizeFrom, halnum.1, hlower.1, hnext, ih]

variable {name : String}

theorem filter_of_isTypeName (h : IsTypeName name) :
    name.toList.filter Char.isAlphanum = name.toList :=
  List.filter_eq_self.mpr fun _ => h.isAlphanum

/-- Without separators it is only the lowercase letters that tell a name in mixed case. -/
theorem isMixedCase_of_isTypeName (h : IsTypeName name) :
    isMixedCase name.toList = name.toList.any Char.isLower := by
  have hseparator : name.toList.any isSeparator = false := by
    rw [List.any_eq_false]
    intro d hd hd'
    have halnum := h.isAlphanum hd
    simp [(isSeparator_spec hd').1] at halnum
  obtain ⟨c, cs, hname, hc, -⟩ := h
  have hupper : name.toList.any Char.isUpper = true := by simp [hname, hc]
  rw [isMixedCase, hseparator, hupper]
  rfl

section

variable [Transliteration]

theorem typeName_of_isTypeName (h : IsTypeName name) :
    typeName name = .ok (String.ofList (typeWords name.toList)) := by
  have hascii : transliterate name.toList = name.toList :=
    transliterate_eq_self fun _ hc => isAscii_of_isAlphanum (h.isAlphanum hc)
  have hfilter := filter_of_isTypeName h
  obtain ⟨c, cs, hname, hc, -⟩ := h
  have husable : Usable name := by
    rw [Usable, hascii, hname]
    exact ⟨c, by simp, by simp [isAlphanum_eq, Char.isAlpha, hc]⟩
  have hmark : digitMark (typeWords name.toList) = [] := by
    have hdigit : c.isDigit = false := isDigit_eq_false_of_isAlpha (by simp [Char.isAlpha, hc])
    rw [digitMark_typeWords, hfilter, hname]
    simp [digitMark, hdigit]
  rw [typeName_of_usable husable, hascii, hmark, List.nil_append]

theorem typeName_of_lower (h : IsTypeName name) (hlower : name.toList.any Char.isLower = true) :
    typeName name = .ok name := by
  have hmixed : isMixedCase name.toList = true := by rw [isMixedCase_of_isTypeName h, hlower]
  rw [typeName_of_isTypeName h, typeWords, if_pos hmixed, filter_of_isTypeName h]
  obtain ⟨c, cs, hname, hc, -⟩ := h
  have hupper : c.toUpper = c :=
    Char.toUpper_eq_of_not_isLower (by simp [isLower_eq_false_of_isUpper hc])
  rw [hname, capitalizeFirst, hupper, ← hname, String.ofList_toList]

theorem typeName_of_capitals {c : Char} {cs : List Char} (h : IsTypeName name)
    (hname : name.toList = c :: cs) (hlower : name.toList.any Char.isLower = false) :
    typeName name = .ok (String.ofList (c :: cs.map Char.toLower)) := by
  have hmixed : isMixedCase name.toList = false := by rw [isMixedCase_of_isTypeName h, hlower]
  have halnum : ∀ d ∈ name.toList, d.isAlphanum = true := fun _ => h.isAlphanum
  rw [typeName_of_isTypeName h, typeWords, hmixed, if_neg Bool.false_ne_true]
  rw [hname, List.forall_mem_cons] at halnum
  rw [hname, List.any_eq_false, List.forall_mem_cons] at hlower
  have hrest := capitalizeFrom_of_no_lower halnum.2 fun d hd => by simpa using hlower.2 d hd
  have hfirst : c.isLower = false := by simpa using hlower.1
  have hupper : c.toUpper = c := Char.toUpper_eq_of_not_isLower hlower.1
  have hkept : (c :: cs.map Char.toLower).filter Char.isAlphanum = c :: cs.map Char.toLower := by
    rw [List.filter_eq_self, List.forall_mem_cons, List.forall_mem_map]
    exact ⟨halnum.1, fun d hd => by rw [isAlphanum_toLower, halnum.2 d hd]⟩
  rw [hname, capitalizeWords, capitalizeFrom, if_pos halnum.1, hfirst, hrest]
  simp only [Bool.true_or, if_true, hupper, hkept]

theorem typeName_of_lowered {c d : Char} {cs : List Char} (hc : c.isUpper = true)
    (halnum : ∀ e ∈ cs, e.isAlphanum = true) (hd : d ∈ cs) (hupper : d.isUpper = true) :
    typeName (String.ofList (c :: cs.map Char.toLower)) =
      .ok (String.ofList (c :: cs.map Char.toLower)) := by
  have hmem : d.toLower ∈ cs.map Char.toLower := List.mem_map_of_mem hd
  have htype : IsTypeName (String.ofList (c :: cs.map Char.toLower)) := by
    refine ⟨c, cs.map Char.toLower, String.toList_ofList, hc, List.forall_mem_map.mpr ?_⟩
    exact fun e he => by rw [isAlphanum_toLower, halnum e he]
  apply typeName_of_lower htype
  rw [String.toList_ofList, List.any_eq_true]
  exact ⟨d.toLower, List.mem_cons_of_mem c hmem, by simp [Char.isAlpha, hupper]⟩

/-- Two applications are enough. One is, where the type name has a lowercase letter or no capital
behind its first character. -/
theorem typeName_typeName {raw name : String} (h : typeName raw = .ok name) :
    ∃ again, typeName name = .ok again ∧ typeName again = .ok again ∧
      (again = name ↔
        (∃ c ∈ name.toList, c.isLower = true) ∨ ∀ c ∈ name.toList.tail, c.isUpper = false) := by
  have htype := isTypeName_of_typeName h
  cases hlower : name.toList.any Char.isLower with
  | true =>
    have hname := typeName_of_lower htype hlower
    exact ⟨name, hname, hname, iff_of_true rfl (Or.inl (List.any_eq_true.mp hlower))⟩
  | false =>
    -- A name in capitals is one word: all of it but the first letter comes out in lowercase.
    obtain ⟨c, cs, hname, hc, halnum⟩ := id htype
    have hagain := typeName_of_capitals htype hname hlower
    have hnone : ¬∃ c ∈ name.toList, c.isLower = true := by
      simpa [List.any_eq_false] using hlower
    have hsame : String.ofList (c :: cs.map Char.toLower) = name ↔
        ∀ d ∈ name.toList.tail, d.isUpper = false := by
      rw [← String.toList_inj, String.toList_ofList, hname, List.cons_inj_right, List.tail_cons,
        map_toLower_eq_self_iff]
    refine ⟨_, hagain, ?_, by rw [or_iff_right hnone, hsame]⟩
    by_cases hcapital : ∀ d ∈ name.toList.tail, d.isUpper = false
    · rw [hsame.mpr hcapital] at hagain ⊢
      exact hagain
    · rw [hname, List.tail_cons] at hcapital
      push Not at hcapital
      obtain ⟨d, hd, hupper⟩ := hcapital
      rw [ne_eq, Bool.not_eq_false] at hupper
      exact typeName_of_lowered hc halnum hd hupper

end

attribute [local instance] Transliteration.byScript

theorem typeName_typeName_abc :
    typeName "a-b-c" = .ok "ABC" ∧ typeName "ABC" = .ok "Abc" ∧ typeName "Abc" = .ok "Abc" := by
  have hname : typeName "a-b-c" = .ok "ABC" := by cbv
  have hnext : typeName "ABC" = .ok "Abc" := by cbv
  obtain ⟨again, hagain, hfixed, -⟩ := typeName_typeName hname
  rw [hnext] at hagain
  cases hagain
  exact ⟨hname, hnext, hfixed⟩

end Naming
end SchemaBinding
