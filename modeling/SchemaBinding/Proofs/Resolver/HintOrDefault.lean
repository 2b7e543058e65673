import SchemaBinding.Proofs.Naming.TrimmedPackage
import SchemaBinding.Proofs.Resolver.Outcome
import SchemaBinding.Proofs.TypeExpr.CanonicalImports

/-! One package, as a hint or as the default. Main statement: a declaration without a hint, placed
by default, is written in every path and every import as it is with the default package for its
hint. Only the packages differ, and these by the white space around them. -/
namespace SchemaBinding

namespace Text

theorem trim_ne_self_iff {s : String} :
    trim s ≠ s ↔ s.toList.head?.any isBlank = true ∨ s.toList.getLast?.any isBlank = true := by
  have htrim : trim s = s ↔ trimOf isBlank s.toList = s.toList := by
    rw [← String.toList_inj, trim, String.toList_ofList]
  rw [Ne, htrim, trimOf_eq_self_iff, not_and_or, Bool.not_eq_false, Bool.not_eq_false]

end Text

namespace TypeExpr

/-- The reference without the white space around its package. -/
def trimmed : TypeExpr → TypeExpr
  | builtin b => builtin b
  | sequence item => sequence item.trimmed
  | named d => named { d with package := Text.trim d.package }

theorem trimmed_nest (t : TypeExpr) (n : ℕ) : (t.nest n).trimmed = t.trimmed.nest n := by
  induction n with
  | zero => rfl
  | succ n ih => rw [nest, trimmed, ih, nest]

theorem innermost_trimmed (t : TypeExpr) : t.trimmed.innermost = t.innermost.trimmed := by
  induction t with
  | sequence item ih => exact ih
  | _ => rfl

section

variable (target : Target)
  (h : ∀ package, target.moduleOf (Text.trim package) = target.moduleOf package)

include h

theorem qualifiedName_trimmed (root : Option String) (t : TypeExpr) :
    t.trimmed.qualifiedName target root = t.qualifiedName target root := by
  induction t with
  | builtin b => rfl
  | sequence item ih => rw [trimmed, qualifiedName, ih, qualifiedName]
  | named d => simp only [trimmed, qualifiedName, h]

theorem moduleName_trimmed (t : TypeExpr) : t.trimmed.moduleName target = t.moduleName target := by
  rw [moduleName, moduleName, innermost_trimmed]
  cases t.innermost with
  | named d => exact h d.package
  | _ => rfl

end

end TypeExpr

namespace Imports

variable [Text.Transliteration] [Text.SnakeCasing] {current : String} {refs : List TypeExpr}
  {e : Entry}

theorem needed_iff_exists : Needed current refs e ↔ ∃ t ∈ refs, Needed current [t] e := by
  simp [Needed]

theorem needed_trimmed (t : TypeExpr) :
    Needed current [t.trimmed] e ↔ Needed current [t] e := by
  simp only [Needed, List.mem_singleton, exists_eq_left, TypeExpr.innermost_trimmed]
  cases t.innermost with
  | named d => simp [TypeExpr.trimmed, Naming.modulePath_trim]
  | _ => simp [TypeExpr.trimmed]

theorem importLines_trimmed (before after : List TypeExpr) (t : TypeExpr) (current root : String) :
    importLines (before ++ t.trimmed :: after) current root =
      importLines (before ++ t :: after) current root := by
  refine importLines_congr root fun e => ?_
  rw [needed_iff_exists, needed_iff_exists]
  simp only [List.mem_append, List.mem_cons, or_and_right, exists_or, exists_eq_left,
    needed_trimmed]

end Imports

namespace Schema

variable {s : Schema} {raw : String} {kind : DeclKind}

theorem Declares.withPackageHint (h : s.Declares raw kind) (package : String) :
    (s.withPackageHint package).Declares raw kind := by
  cases h with
  | object hint => exact .object raw (some package)
  | enumeration hint hname hvalues => exact .enumeration (some package) hname hvalues

theorem Declares.packageHint_withPackageHint (h : s.Declares raw kind) (package : String) :
    (s.withPackageHint package).packageHint = some package := by
  cases h <;> rfl

end Schema

namespace Resolver

open Resolution

theorem result_ofConfig_nest [Text.Transliteration] {s : Schema} {raw name package : String}
    {kind : DeclKind} (hs : s.Declares raw kind) (hname : Naming.typeName raw = .ok name)
    (config : Config) (hplacement : Placement.byHint config.defaultPackage s = package)
    (hpackage : Text.blank package = false) (n : ℕ) :
    ((ofConfig config).resolve (s.nest n)).result =
      .ok ((TypeExpr.named ⟨package, name, kind⟩).nest n) := by
  have hnode : ((ofConfig config).resolve s).result = .ok (.named ⟨package, name, kind⟩) := by
    rw [result_resolve_of_declares _ hs, result_declare_eq_ok_iff, ← hplacement]
    rw [← hplacement] at hpackage
    exact ⟨name, hname, hpackage, rfl⟩
  rw [result_resolve_nest, hnode]
  rfl

section

variable [Text.Transliteration] [Text.SnakeCasing]

/-- The references of two resolvers come out alike in paths, modules and imports. -/
structure WritesAlike (r r' : Resolver) (t t' : TypeExpr) : Prop where
  rustPath : r.rustPath t = r'.rustPath t'
  java (root : Option String) : t.qualifiedName .java root = t'.qualifiedName .java root
  rustModule : t.moduleName .rust = t'.moduleName .rust
  javaModule : t.moduleName .java = t'.moduleName .java
  imports (before after : List TypeExpr) (current : String) :
    r.imports (before ++ t :: after) current = r'.imports (before ++ t' :: after) current

theorem writesAlike_trimmed {r r' : Resolver} (h : r.rootModule = r'.rootModule) (t : TypeExpr) :
    r.WritesAlike r' t t.trimmed where
  rustPath := by
    rw [rustPath, rustPath, h, TypeExpr.qualifiedName_trimmed .rust Naming.modulePath_trim]
  java root := (TypeExpr.qualifiedName_trimmed .java Naming.dottedPackage_trim root t).symm
  rustModule := (TypeExpr.moduleName_trimmed .rust Naming.modulePath_trim t).symm
  javaModule := (TypeExpr.moduleName_trimmed .java Naming.dottedPackage_trim t).symm
  imports before after current := by
    rw [imports, imports, h, Imports.importLines_trimmed]

/-- A declaration without a hint in a default package, and the same declaration with that package
for its hint, whatever the default then is: both are resolved, and nothing that is written of the
references tells them apart. -/
theorem resolve_hint_eq_default {package : String} (hpackage : Text.blank package = false)
    {s : Schema} {raw : String} {kind : DeclKind} (hs : s.Declares raw kind)
    (hraw : Naming.Usable raw) (hhint : s.packageHint = none) (config config' : Config)
    (hdefault : config.defaultPackage = package) (hroot : config.rootModule = config'.rootModule)
    (n : ℕ) :
    (∃ name t t', Naming.typeName raw = .ok name ∧
      ((ofConfig config).resolve (s.nest n)).result = .ok t ∧
      ((ofConfig config').resolve ((s.withPackageHint package).nest n)).result = .ok t' ∧
      t = (TypeExpr.named ⟨package, name, kind⟩).nest n ∧
      t' = (TypeExpr.named ⟨Text.trim package, name, kind⟩).nest n ∧
      (ofConfig config).WritesAlike (ofConfig config') t t') ∧
      (Text.trim package ≠ package ↔ package.toList.head?.any Text.isBlank = true ∨
        package.toList.getLast?.any Text.isBlank = true) ∧
      ∀ q, Naming.modulePath (Text.trim q) = Naming.modulePath q ∧
        Naming.dottedPackage (Text.trim q) = Naming.dottedPackage q := by
  refine ⟨?_, Text.trim_ne_self_iff, fun q =>
    ⟨Naming.modulePath_trim q, Naming.dottedPackage_trim q⟩⟩
  obtain ⟨name, hname⟩ := Naming.exists_typeName_iff.mpr hraw
  have hunhinted : s.Unhinted := by simp [Schema.Unhinted, hhint]
  have hvisible : Text.trim package ≠ "" := by simp [Text.trim_eq_empty_iff, hpackage]
  have htrim : Text.blank (Text.trim package) = false := by rw [Text.blank_trim, hpackage]
  have hbydefault : Placement.byHint config.defaultPackage s = package := by
    rw [Placement.byHint_of_unhinted _ hunhinted, hdefault]
  have hbyhint : Placement.byHint config'.defaultPackage (s.withPackageHint package) =
      Text.trim package :=
    Placement.byHint_of_visible _ (hs.packageHint_withPackageHint package) hvisible
  refine ⟨name, _, _, hname, result_ofConfig_nest hs hname config hbydefault hpackage n,
    result_ofConfig_nest (hs.withPackageHint package) hname config' hbyhint htrim n, rfl, rfl, ?_⟩
  have halike : (ofConfig config).WritesAlike (ofConfig config') _ _ :=
    writesAlike_trimmed hroot ((TypeExpr.named ⟨package, name, kind⟩).nest n)
  rwa [TypeExpr.trimmed_nest] at halike

end

attribute [local instance] Text.Transliteration.byScript Text.SnakeCasing.byCapitals

/-- An enumeration in two arrays, with an em space in front of its package and a line end behind
it. -/
theorem resolve_hint_eq_default_enumeration :
    let package := "\u2003platform/cart\n"
    let s : Schema := .string "cart-state" (some [some "open"]) none
    let config : Config := ⟨.integer, package, "crate"⟩
    let config' : Config := ⟨.float, "models", "crate"⟩
    let t : TypeExpr := .named ⟨package, "CartState", .enumeration⟩
    let t' : TypeExpr := .named ⟨"platform/cart", "CartState", .enumeration⟩
    Text.blank package = false ∧ s.Declares "cart-state" .enumeration ∧
      Naming.Usable "cart-state" ∧ s.packageHint = none ∧ config.rootModule = config'.rootModule ∧
      ((ofConfig config).resolve (s.nest 2)).result = .ok (t.nest 2) ∧
      ((ofConfig config').resolve ((s.withPackageHint package).nest 2)).result = .ok (t'.nest 2) ∧
      (ofConfig config).WritesAlike (ofConfig config') (t.nest 2) (t'.nest 2) := by
  intro package s config config' t t'
  have hpackage : Text.blank package = false := by decide
  have hs : s.Declares "cart-state" .enumeration := .enumeration none (by decide) (by decide)
  have hname : Naming.typeName "cart-state" = .ok "CartState" := by cbv
  have hraw : Naming.Usable "cart-state" := Naming.exists_typeName_iff.mp ⟨_, hname⟩
  have htrim : Text.trim package = "platform/cart" := by decide
  obtain ⟨⟨name, u, u', hu, hdefault, hhint, rfl, rfl, halike⟩, -, -⟩ :=
    resolve_hint_eq_default hpackage hs hraw rfl config config' rfl rfl 2
  rw [hname] at hu
  cases hu
  rw [htrim] at hhint halike
  exact ⟨hpackage, hs, hraw, rfl, rfl, hdefault, hhint, halike⟩

end Resolver
end SchemaBinding
