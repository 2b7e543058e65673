import SchemaBinding.Proofs.Naming.Identifier
import SchemaBinding.Proofs.Naming.ModuleSegments
import SchemaBinding.Proofs.Resolver.Outcome

/-! Legal paths. Main statement: the path of a resolved declaration has an identifier in every part
unless a segment of its module begins with a digit or is reserved, or its type is called `Self`. -/
namespace SchemaBinding

open Naming SchemaBinding.Path

namespace Resolver

theorem isTypeName_of_resolve [Text.Transliteration] (config : Config) {s : Schema}
    {t : TypeExpr} {d : Declared} (h : ((ofConfig config).resolve s).result = .ok t)
    (hd : t.innermost = .named d) : IsTypeName d.name := by
  have ht := ((ofConfig config).result_resolve_eq_ok_iff.mp h).1
  rcases named_or_builtin_of_resolve _ s.kind_innermost_ne_array ht with
    ⟨-, -, raw, kind, hdeclares⟩ | ⟨b, hb, -⟩
  · obtain ⟨name, hnamed, htype, -⟩ := result_ofConfig_eq_ok config hdeclares h
    rw [hd] at hnamed
    cases hnamed
    exact isTypeName_of_typeName htype
  · rw [hd] at hb
    cases hb

section

variable [Text.Transliteration] [Text.SnakeCasing]

theorem parts_rustPath_named (r : Resolver) (d : Declared) (hroot : ':' ∉ r.rootModule.toList)
    (hname : ':' ∉ (exportedName d.name).toList) :
    parts (r.rustPath (.named d)).toList =
      part r.rootModule ++ moduleSegments d.package.toList ++ [(exportedName d.name).toList] := by
  rw [toList_rustPath_named, stem_append, stem_part_modulePath, ← stem_append]
  refine parts_stem_append ?_ hname
  intro p hp
  rcases List.mem_append.mp hp with hp | hp
  · by_cases h : r.rootModule = ""
    · simp [h, part_empty] at hp
    · rw [part_of_ne h, List.mem_singleton] at hp
      rwa [hp]
  · exact colon_not_mem_of_mem_moduleSegments hp

/-- The exact condition under which the path of a resolved declaration is legal. -/
theorem isIdentifier_rustPath_iff (config : Config) (hroot : config.rootModule = "crate")
    {s : Schema} {t : TypeExpr} {d : Declared}
    (h : ((ofConfig config).resolve s).result = .ok t) (hd : t.innermost = .named d) :
    parts ((ofConfig config).rustPath t.innermost).toList =
        "crate".toList :: (moduleSegments d.package.toList ++ [d.name.toList]) ∧
      ((∀ p ∈ moduleSegments d.package.toList ++ [d.name.toList], isIdentifier p = true) ↔
        (∀ p ∈ moduleSegments d.package.toList,
          p.head?.any Char.isDigit = false ∧ isKeyword (String.ofList p) = false) ∧
        d.name ≠ "Self") := by
  have hname := isTypeName_of_resolve config h hd
  have hcolon : ':' ∉ d.name.toList := by
    intro hmem
    exact absurd (hname.isAlphanum hmem) (by decide)
  have hcrate : (ofConfig config).rootModule = "crate" := hroot
  constructor
  · rw [hd, parts_rustPath_named, hcrate, exportedName_of_isTypeName hname]
    · rfl
    · rw [hcrate]
      decide
    · rwa [exportedName_of_isTypeName hname]
  · rw [List.forall_mem_append, List.forall_mem_singleton, isIdentifier_iff_of_isTypeName hname]
    apply and_congr_left
    intro _
    apply forall₂_congr
    intro p hp
    exact isIdentifier_iff_of_mem_moduleSegments hp

end

attribute [local instance] Text.Transliteration.byScript Text.SnakeCasing.byCapitals

theorem isIdentifier_rustPath_cart :
    Config.standard.rootModule = "crate" ∧
      ((ofConfig .standard).resolve (.object "cart" (some " com/acme/models/cart"))).result =
        .ok (.named ⟨"com/acme/models/cart", "Cart", .object⟩) ∧
      parts ((ofConfig .standard).rustPath
          (.named ⟨"com/acme/models/cart", "Cart", .object⟩)).toList =
        ["crate".toList, "com".toList, "acme".toList, "models_cart".toList, "Cart".toList] ∧
      ∀ p ∈ ["com".toList, "acme".toList, "models_cart".toList, "Cart".toList],
        isIdentifier p = true := by
  have hresult : ((ofConfig .standard).resolve
      (.object "cart" (some " com/acme/models/cart"))).result =
        .ok (.named ⟨"com/acme/models/cart", "Cart", .object⟩) := by
    rw [result_resolve_of_declares _ (.object _ _), result_declare_eq_ok_iff]
    exact ⟨"Cart", rfl, by decide +kernel, by decide +kernel⟩
  have hsegments : moduleSegments "com/acme/models/cart".toList =
      ["com".toList, "acme".toList, "models_cart".toList] := by decide +kernel
  obtain ⟨hparts, hlegal⟩ := isIdentifier_rustPath_iff .standard rfl hresult rfl
  rw [hsegments] at hparts hlegal
  exact ⟨rfl, hresult, hparts, hlegal.mpr (by decide +kernel)⟩

/-- A package of digits makes a segment that is no identifier. -/
theorem not_forall_isIdentifier_rustPath :
    ¬∀ (config : Config) (s : Schema) (t : TypeExpr) (d : Declared), config.rootModule = "crate" →
      ((ofConfig config).resolve s).result = .ok t → t.innermost = .named d →
        ∀ p ∈ (parts ((ofConfig config).rustPath t.innermost).toList).tail,
          isIdentifier p = true := by
  intro h
  have hresult : ((ofConfig .standard).resolve (.object "cart" (some "2024"))).result =
      .ok (.named ⟨"2024", "Cart", .object⟩) := by cbv
  have hpart := h .standard _ _ _ rfl hresult rfl "2024".toList (by decide +kernel)
  exact absurd hpart (by decide)

end Resolver
end SchemaBinding
