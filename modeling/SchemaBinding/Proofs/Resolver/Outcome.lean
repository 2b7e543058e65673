import SchemaBinding.Proofs.Naming.TypeName
import SchemaBinding.Proofs.Resolver.Nesting
import SchemaBinding.Proofs.Text.Trim

/-! Outcomes of resolutions under the standard rules. Main statement: a resolution fails exactly if
what is inside of all arrays is a declaration without a usable name, or one with such a name but
without a package that is not blank. -/
namespace SchemaBinding

namespace Schema

def Unhinted (s : Schema) : Prop := ∀ hint, s.packageHint = some hint → Text.blank hint = true

/-- Declared under a name that no type name can be made of. -/
def LacksName [Text.Transliteration] (s : Schema) (raw : String) : Prop :=
  (∃ kind, s.Declares raw kind) ∧ ¬Naming.Usable raw

/-- Declared under a usable name, but neither the hint nor the default names a package. -/
def LacksPackage [Text.Transliteration] (defaultPackage : String) (s : Schema) (raw : String) :
    Prop :=
  (∃ kind, s.Declares raw kind) ∧ Naming.Usable raw ∧ s.Unhinted ∧
    Text.blank defaultPackage = true

end Schema

namespace Placement

variable {s : Schema} (defaultPackage : String)

theorem byHint_of_visible {hint : String} (h : s.packageHint = some hint)
    (hvisible : Text.trim hint ≠ "") : byHint defaultPackage s = Text.trim hint := by
  simp [byHint, h, Option.filter, hvisible]

theorem byHint_of_unhinted (h : s.Unhinted) : byHint defaultPackage s = defaultPackage := by
  cases hhint : s.packageHint with
  | none => simp [byHint, hhint]
  | some hint => simp [byHint, hhint, Option.filter, Text.trim_eq_empty_iff.mpr (h hint hhint)]

theorem blank_byHint_iff :
    Text.blank (byHint defaultPackage s) = true ↔
      s.Unhinted ∧ Text.blank defaultPackage = true := by
  by_cases h : s.Unhinted
  · simp [byHint_of_unhinted defaultPackage h, h]
  · have hhint := h
    simp only [Schema.Unhinted, not_forall, Bool.not_eq_true] at hhint
    obtain ⟨hint, hhint, hvisible⟩ := hhint
    have htrim : Text.trim hint ≠ "" := by simp [Text.trim_eq_empty_iff, hvisible]
    simp [byHint_of_visible defaultPackage hhint htrim, Text.blank_trim, hvisible, h]

end Placement

namespace Resolver

open Resolution

variable [Text.Transliteration] (config : Config)

theorem result_ofConfig_of_declares {s : Schema} {raw : String} {kind : DeclKind}
    (h : s.Declares raw kind) {e : ResolveError} :
    ((ofConfig config).resolve s).result = .error e ↔
      (¬Naming.Usable raw ∧ e = .unusableName s.kind (.empty raw)) ∨
        ∃ name, Naming.typeName raw = .ok name ∧ s.Unhinted ∧
          Text.blank config.defaultPackage = true ∧ e = .emptyPackage name := by
  rw [result_resolve_of_declares _ h, result_declare_eq_error_iff]
  simp [ofConfig, ofPlacement, Naming.typeName_eq_error_iff, Placement.blank_byHint_iff, and_assoc]

theorem result_ofConfig_eq_error_iff {s : Schema} {e : ResolveError} :
    ((ofConfig config).resolve s).result = .error e ↔
      (∃ raw, s.innermost.LacksName raw ∧ e = .unusableName s.innermost.kind (.empty raw)) ∨
        ∃ raw name, s.innermost.LacksPackage config.defaultPackage raw ∧
          Naming.typeName raw = .ok name ∧ e = .emptyPackage name := by
  rw [result_resolve_eq_error_iff]
  constructor
  · intro h
    by_cases hd : ∃ raw kind, s.innermost.Declares raw kind
    · obtain ⟨raw, kind, hd⟩ := hd
      rcases (result_ofConfig_of_declares config hd).mp h with
        ⟨hraw, rfl⟩ | ⟨name, hname, hhint, hdefault, rfl⟩
      · exact Or.inl ⟨raw, ⟨⟨kind, hd⟩, hraw⟩, rfl⟩
      · have hraw := Naming.exists_typeName_iff.mp ⟨name, hname⟩
        exact Or.inr ⟨raw, name, ⟨⟨kind, hd⟩, hraw, hhint, hdefault⟩, hname, rfl⟩
    · obtain ⟨b, -, hb⟩ :=
        (ofConfig config).result_resolve_of_not_declares s.kind_innermost_ne_array hd
      rw [hb] at h
      cases h
  · rintro (⟨raw, ⟨⟨kind, hd⟩, hraw⟩, rfl⟩ | ⟨raw, name, ⟨⟨kind, hd⟩, -, hplace⟩, hname, rfl⟩)
    · exact (result_ofConfig_of_declares config hd).mpr (Or.inl ⟨hraw, rfl⟩)
    · exact (result_ofConfig_of_declares config hd).mpr (Or.inr ⟨name, hname, hplace.1, hplace.2, rfl⟩)

theorem result_ofConfig_eq_ok {s : Schema} {raw : String} {kind : DeclKind} {t : TypeExpr}
    (hd : s.innermost.Declares raw kind) (h : ((ofConfig config).resolve s).result = .ok t) :
    ∃ name, t.innermost =
        .named ⟨Placement.byHint config.defaultPackage s.innermost, name, kind⟩ ∧
      Naming.typeName raw = .ok name ∧
      Text.blank (Placement.byHint config.defaultPackage s.innermost) = false := by
  have ht := ((ofConfig config).result_resolve_eq_ok_iff.mp h).1
  rw [result_resolve_of_declares _ hd, result_declare_eq_ok_iff] at ht
  obtain ⟨name, hname, hplace, ht⟩ := ht
  exact ⟨name, ht, hname, hplace⟩

/-- The exact outcome: an unusable name comes before a missing package, nothing else fails, and a
declaration goes where its hint says or where the default does. -/
theorem resolve_ofConfig (s : Schema) :
    (∀ kind source, ((ofConfig config).resolve s).result = .error (.unusableName kind source) ↔
        ∃ raw, s.innermost.LacksName raw ∧ kind = s.innermost.kind ∧ source = .empty raw) ∧
      (∀ name, ((ofConfig config).resolve s).result = .error (.emptyPackage name) ↔
        ∃ raw, s.innermost.LacksPackage config.defaultPackage raw ∧
          Naming.typeName raw = .ok name) ∧
      ((∃ t, ((ofConfig config).resolve s).result = .ok t) ↔
        (¬∃ raw, s.innermost.LacksName raw) ∧
          ¬∃ raw, s.innermost.LacksPackage config.defaultPackage raw) ∧
      ∀ t raw kind, ((ofConfig config).resolve s).result = .ok t →
        s.innermost.Declares raw kind → ∃ d, t.innermost = .named d ∧
          (∀ hint, s.innermost.packageHint = some hint → Text.trim hint ≠ "" →
            d.package = Text.trim hint) ∧
          (s.innermost.Unhinted → d.package = config.defaultPackage) ∧
          Text.blank d.package = false ∧ Naming.typeName raw = .ok d.name ∧
          (d.kind = .object ↔ s.innermost.kind = .object) := by
  refine ⟨?_, ?_, ?_, ?_⟩
  · intro kind source
    rw [result_ofConfig_eq_error_iff]
    simp
  · intro name
    rw [result_ofConfig_eq_error_iff]
    simp
  · have herror : (∃ t, ((ofConfig config).resolve s).result = .ok t) ↔
        ∀ e, ((ofConfig config).resolve s).result ≠ .error e := by
      cases ((ofConfig config).resolve s).result <;> simp
    rw [herror]
    constructor
    · intro h
      constructor
      · rintro ⟨raw, hraw⟩
        exact h _ ((result_ofConfig_eq_error_iff config).mpr (Or.inl ⟨raw, hraw, rfl⟩))
      · rintro ⟨raw, hraw⟩
        obtain ⟨name, hname⟩ := Naming.exists_typeName_iff.mpr hraw.2.1
        exact h _ ((result_ofConfig_eq_error_iff config).mpr (Or.inr ⟨raw, name, hraw, hname, rfl⟩))
    · rintro ⟨hname, hpackage⟩ e he
      rcases (result_ofConfig_eq_error_iff config).mp he with
        ⟨raw, hraw, -⟩ | ⟨raw, name, hraw, -⟩
      · exact hname ⟨raw, hraw⟩
      · exact hpackage ⟨raw, hraw⟩
  · intro t raw kind ht hd
    obtain ⟨name, hname, htype, hplace⟩ := result_ofConfig_eq_ok config hd ht
    refine ⟨_, hname, ?_, ?_, hplace, htype, hd.kind_eq_object_iff⟩
    · intro hint hhint hvisible
      exact Placement.byHint_of_visible config.defaultPackage hhint hvisible
    · intro hhint
      exact Placement.byHint_of_unhinted config.defaultPackage hhint

end Resolver
end SchemaBinding
