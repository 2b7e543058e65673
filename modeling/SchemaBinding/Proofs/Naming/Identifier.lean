import SchemaBinding.Naming.Keyword
import SchemaBinding.Proofs.Naming.ModulePath
import SchemaBinding.Proofs.Naming.TypeName

/-! Identifiers of Rust. Main statements: a segment of a module path is one unless it begins with a
digit or is reserved, and a type name is one unless it is `Self`. -/
namespace SchemaBinding
namespace Naming

open Text

/-- A letter or an underscore with letters, digits and underscores behind it. An underscore alone is
no identifier, and neither is a reserved word. -/
def isIdentifier (cs : List Char) : Bool :=
  cs.head?.any (fun c => c.isAlpha || c == '_') && cs.all isIdentChar && cs != ['_'] &&
    !isKeyword (String.ofList cs)

theorem isIdentifier_iff_of_inner {cs : List Char} (hne : cs ≠ []) (hinner : Inner cs)
    (hident : ∀ c ∈ cs, isIdentChar c = true) :
    isIdentifier cs = true ↔
      cs.head?.any Char.isDigit = false ∧ isKeyword (String.ofList cs) = false := by
  obtain ⟨c, cs, rfl⟩ := List.exists_cons_of_ne_nil hne
  have hc : c ≠ '_' := by
    rintro rfl
    exact (inner_iff.mp hinner).1 rfl
  have halpha : c.isAlpha = true ↔ c.isDigit = false := by
    have halnum := hident c (by simp)
    simp only [isIdentChar, isAlphanum_eq, Bool.or_eq_true, beq_iff_eq, hc, or_false] at halnum
    constructor
    · exact isDigit_eq_false_of_isAlpha
    · intro h
      simpa [h] using halnum
  have hall : (c :: cs).all isIdentChar = true := List.all_eq_true.mpr hident
  simp [isIdentifier, hc, halpha, hall]

theorem isIdentifier_iff_of_mem_moduleSegments [Transliteration] [SnakeCasing]
    {package segment : List Char} (h : segment ∈ moduleSegments package) :
    isIdentifier segment = true ↔
      segment.head?.any Char.isDigit = false ∧ isKeyword (String.ofList segment) = false := by
  obtain ⟨hne, hinner, hident⟩ := moduleSegments_spec h
  exact isIdentifier_iff_of_inner hne hinner hident

theorem isKeyword_iff_of_isTypeName {name : String} (h : IsTypeName name) :
    isKeyword name = true ↔ name = "Self" := by
  obtain ⟨c, cs, hname, hc, -⟩ := h
  have hcapital : keywords.filter (fun k => k.toList.head?.any Char.isUpper) = ["Self"] := by
    decide +kernel
  have hmem : name ∈ keywords ↔ name ∈ ["Self"] := by
    rw [← hcapital, List.mem_filter]
    simp [hname, hc]
  rw [isKeyword, List.contains_iff_mem, hmem, List.mem_singleton]

theorem isIdentifier_iff_of_isTypeName {name : String} (h : IsTypeName name) :
    isIdentifier name.toList = true ↔ name ≠ "Self" := by
  have hident : ∀ c ∈ name.toList, isIdentChar c = true := by
    intro c hc
    simp [isIdentChar, h.isAlphanum hc]
  have hkeyword := isKeyword_iff_of_isTypeName h
  have hinner : Inner name.toList := inner_of_isAlphanum fun c => h.isAlphanum
  obtain ⟨c, cs, hname, hc, -⟩ := h
  have hdigit : c.isDigit = false := isDigit_eq_false_of_isAlpha (by simp [Char.isAlpha, hc])
  rw [isIdentifier_iff_of_inner (by simp [hname]) hinner hident, String.ofList_toList, Ne,
    ← hkeyword]
  simp [hname, hdigit]

theorem exportedName_of_isTypeName {name : String} (h : IsTypeName name) :
    exportedName name = name := by
  have hdot : name.toList.map (fun c => if c == '.' then '_' else c) = name.toList.map id := by
    apply List.map_congr_left
    intro c hc
    have hne : c ≠ '.' := by
      rintro rfl
      exact absurd (h.isAlphanum hc) (by decide)
    simp [hne]
  rw [exportedName, hdot, List.map_id, String.ofList_toList]

end Naming
end SchemaBinding
