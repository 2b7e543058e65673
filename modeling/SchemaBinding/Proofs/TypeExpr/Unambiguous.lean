import SchemaBinding.Proofs.Naming.Identifier
import SchemaBinding.Proofs.TypeExpr.Path
import SchemaBinding.Text.Scripts

/-! What a path tells of its reference. Main statement: under the standard root, two references have
the same path exactly if they have as many sequences around the same builtin type, or around
generated types of one module and one name. -/
namespace SchemaBinding

open SchemaBinding.Path Text

namespace Target

variable {target : Target}

def sequences (target : Target) : Nat → String → String
  | 0, item => item
  | n + 1, item => target.sequence (target.sequences n item)

def Opens (target : Target) (s : String) : Prop := target.sequenceOpen.toList <+: s.toList

theorem opens_sequence (target : Target) (item : String) : target.Opens (target.sequence item) := by
  simp [Opens, sequence]

theorem sequence_inj {x y : String} : target.sequence x = target.sequence y ↔ x = y := by
  simp [sequence, ← String.toList_inj]

/-- Sequences are counted from the outside, as long as what they hold does not look like one. -/
theorem sequences_inj {m n : Nat} {x y : String} (hx : ¬target.Opens x) (hy : ¬target.Opens y) :
    target.sequences m x = target.sequences n y ↔ m = n ∧ x = y := by
  induction m generalizing n with
  | zero =>
    cases n with
    | zero => simp [sequences]
    | succ n =>
      have hne : x ≠ target.sequence (target.sequences n y) := by
        rintro rfl
        exact hx (opens_sequence _ _)
      simp [sequences, hne]
  | succ m ih =>
    cases n with
    | zero =>
      have hne : target.sequence (target.sequences m x) ≠ y := by
        rintro rfl
        exact hy (opens_sequence _ _)
      simp [sequences, hne]
    | succ n => simp [sequences, sequence_inj, ih]

end Target

namespace TypeExpr

theorem builtin_or_named_innermost (t : TypeExpr) :
    (∃ b, t.innermost = .builtin b) ∨ ∃ d, t.innermost = .named d := by
  induction t with
  | builtin b => exact Or.inl ⟨b, rfl⟩
  | sequence item ih => exact ih
  | named d => exact Or.inr ⟨d, rfl⟩

theorem qualifiedName_eq_sequences (target : Target) (root : Option String) (t : TypeExpr) :
    t.qualifiedName target root =
      target.sequences t.depth (t.innermost.qualifiedName target root) := by
  induction t with
  | sequence item ih => rw [qualifiedName, ih]; rfl
  | _ => rfl

/-- What is generated for the reference, if anything is, got its name from a declared name. -/
def ProperlyNamed [Transliteration] (t : TypeExpr) : Prop :=
  ∀ d, t.innermost = .named d → ∃ raw, Naming.typeName raw = .ok d.name

theorem ProperlyNamed.isTypeName [Transliteration] {t : TypeExpr} {d : Declared}
    (h : t.ProperlyNamed) (hd : t.innermost = .named d) : Naming.IsTypeName d.name := by
  obtain ⟨raw, hraw⟩ := h d hd
  exact Naming.isTypeName_of_typeName hraw

end TypeExpr

section

variable [Transliteration] [SnakeCasing]

theorem Target.rust_builtin_inj {b c : Builtin} :
    Target.rust.builtin b = Target.rust.builtin c ↔ b = c := by
  cases b <;> cases c <;> simp [Target.builtin, Target.rust]

namespace Resolver

variable {r : Resolver}

theorem rustPath_eq_sequences (r : Resolver) (t : TypeExpr) :
    r.rustPath t = Target.rust.sequences t.depth (r.rustPath t.innermost) :=
  t.qualifiedName_eq_sequences _ _

theorem rustPath_builtin (r : Resolver) (b : Builtin) :
    r.rustPath (.builtin b) = Target.rust.builtin b :=
  rfl

section

variable (hroot : r.rootModule = Config.defaultRootModule)

include hroot

theorem isPrefix_rustPath_named (d : Declared) :
    "crate::".toList <+: (r.rustPath (.named d)).toList := by
  have hpart : part r.rootModule = ["crate".toList] := by
    rw [hroot]
    rfl
  rw [toList_rustPath_named, hpart]
  refine ⟨stem (part (Naming.modulePath d.package)) ++ (Naming.exportedName d.name).toList, ?_⟩
  simp

theorem rustPath_named_ne_builtin (d : Declared) (b : Builtin) :
    r.rustPath (.named d) ≠ Target.rust.builtin b := by
  intro h
  have hcrate := isPrefix_rustPath_named hroot d
  rw [h] at hcrate
  cases b <;> simp only [Target.builtin, Target.rust] at hcrate <;> exact absurd hcrate (by decide)

theorem not_opens_rustPath_innermost (t : TypeExpr) :
    ¬Target.rust.Opens (r.rustPath t.innermost) := by
  intro h
  rcases t.builtin_or_named_innermost with ⟨b, hb⟩ | ⟨d, hd⟩
  · rw [hb, rustPath_builtin, Target.Opens] at h
    cases b <;> simp only [Target.builtin, Target.rust] at h <;> exact absurd h (by decide)
  · rw [hd] at h
    have hcrate := isPrefix_rustPath_named hroot d
    have hopen : "Vec<".toList <+: "crate::".toList :=
      List.prefix_of_prefix_length_le h hcrate (by decide)
    exact absurd hopen (by decide)

end

/-- Generated types are told apart by module and name, under any root. -/
theorem rustPath_named_inj (r : Resolver) {d e : Declared} (hd : Naming.IsTypeName d.name)
    (he : Naming.IsTypeName e.name) :
    r.rustPath (.named d) = r.rustPath (.named e) ↔
      Naming.modulePath d.package = Naming.modulePath e.package ∧ d.name = e.name := by
  have hcolon : ∀ {name : String}, Naming.IsTypeName name → ':' ∉ name.toList := by
    intro name hname hmem
    exact absurd (hname.isAlphanum hmem) (by decide)
  rw [← String.toList_inj, toList_rustPath_named, toList_rustPath_named,
    Naming.exportedName_of_isTypeName hd, Naming.exportedName_of_isTypeName he,
    stem_append_inj (hcolon hd) (hcolon he), String.toList_inj, stem_append, stem_append,
    List.append_cancel_left_eq]
  apply and_congr_left
  intro _
  constructor
  · exact stem_part_injective
  · intro h
    rw [h]

/-- Paths are unambiguous. -/
theorem rustPath_eq_iff (r : Resolver) (hroot : r.rootModule = Config.defaultRootModule)
    {s t : TypeExpr} (hs : s.ProperlyNamed) (ht : t.ProperlyNamed) :
    r.rustPath s = r.rustPath t ↔
      s.depth = t.depth ∧
        ((∃ b, s.innermost = .builtin b ∧ t.innermost = .builtin b) ∨
          ∃ d e, s.innermost = .named d ∧ t.innermost = .named e ∧
            Naming.modulePath d.package = Naming.modulePath e.package ∧ d.name = e.name) := by
  rw [r.rustPath_eq_sequences s, r.rustPath_eq_sequences t,
    Target.sequences_inj (not_opens_rustPath_innermost hroot s)
      (not_opens_rustPath_innermost hroot t)]
  apply and_congr_right
  intro _
  -- What is left is free of sequences: builtin or generated, on either side.
  rcases s.builtin_or_named_innermost with ⟨b, hb⟩ | ⟨d, hd⟩ <;>
    rcases t.builtin_or_named_innermost with ⟨c, hc⟩ | ⟨e, he⟩
  · simp [hb, hc, rustPath_builtin, Target.rust_builtin_inj, eq_comm]
  · simp [hb, he, rustPath_builtin, (rustPath_named_ne_builtin hroot e b).symm]
  · simp [hd, hc, rustPath_builtin, rustPath_named_ne_builtin hroot d c]
  · simp [hd, he, r.rustPath_named_inj (hs.isTypeName hd) (ht.isTypeName he)]

end Resolver

end

attribute [local instance] Transliteration.byScript SnakeCasing.byCapitals

/-- Two spellings of one package: the paths agree, and one sequence more makes a difference. -/
theorem Resolver.rustPath_eq_iff_cart :
    let r := Resolver.ofConfig .standard
    let s : TypeExpr := .sequence (.named ⟨"models/cart-draft", "Cart", .object⟩)
    let t : TypeExpr := .sequence (.named ⟨"/Models/CartDraft", "Cart", .enumeration⟩)
    r.rootModule = Config.defaultRootModule ∧ s.ProperlyNamed ∧ t.ProperlyNamed ∧
      r.rustPath s = r.rustPath t ∧ r.rustPath s ≠ r.rustPath (.sequence t) := by
  intro r s t
  have hcart : Naming.typeName "cart" = .ok "Cart" := by cbv
  have hs : s.ProperlyNamed := by
    rintro d ⟨⟩
    exact ⟨"cart", hcart⟩
  have ht : t.ProperlyNamed := by
    rintro d ⟨⟩
    exact ⟨"cart", hcart⟩
  have hmodule : Naming.modulePath "models/cart-draft" =
      Naming.modulePath "/Models/CartDraft" := by decide +kernel
  refine ⟨rfl, hs, ht, ?_, ?_⟩
  · rw [r.rustPath_eq_iff rfl hs ht]
    exact ⟨rfl, Or.inr ⟨_, _, rfl, rfl, hmodule, rfl⟩⟩
  · rw [Ne, r.rustPath_eq_iff rfl hs (t := .sequence t) ht]
    rintro ⟨hdepth, -⟩
    exact absurd hdepth (by decide)

end SchemaBinding
