import SchemaBinding.Proofs.Resolver.Nesting

/-! What a resolution depends on. Main statements: a strategy for packages has no say in names, kinds
and sequences, and none in whether a name is usable; the number mapping counts for numbers only; and
hints and enum values count as far as the strategy looks at them. -/
namespace SchemaBinding

namespace Schema

/-- One declaration with two hints, or with two lists of values that are both not empty. -/
inductive SameDeclaration : Schema → Schema → Prop
  | object (name : String) (hint hint' : Option String) :
      SameDeclaration (.object name hint) (.object name hint')
  | hint (name : String) (values : Option (List (Option String))) (hint hint' : Option String) :
      SameDeclaration (.string name values hint) (.string name values hint')
  | values (name : String) {values values' : List (Option String)} (hint : Option String)
      (hvalues : values ≠ []) (hvalues' : values' ≠ []) :
      SameDeclaration (.string name (some values) hint) (.string name (some values') hint)

variable {s s' : Schema}

theorem SameDeclaration.symm (h : s.SameDeclaration s') : s'.SameDeclaration s := by
  cases h with
  | object name hint hint' => exact .object name hint' hint
  | hint name values hint hint' => exact .hint name values hint' hint
  | values name hint hvalues hvalues' => exact .values name hint hvalues' hvalues

theorem SameDeclaration.kind_eq (h : s.SameDeclaration s') : s.kind = s'.kind := by
  cases h <;> rfl

theorem SameDeclaration.kind_ne_array (h : s.SameDeclaration s') : s.kind ≠ .array := by
  cases h <;> simp [kind]

theorem SameDeclaration.declares (h : s.SameDeclaration s') {raw : String} {kind : DeclKind}
    (hs : s.Declares raw kind) : s'.Declares raw kind := by
  cases h with
  | object name hint hint' =>
    cases hs
    exact .object _ hint'
  | hint name values hint hint' =>
    cases hs with
    | enumeration _ hname hvalues => exact .enumeration hint' hname hvalues
  | values name hint _ hvalues' =>
    cases hs with
    | enumeration _ hname _ => exact .enumeration hint hname hvalues'

theorem Kind.builtin?_of_ne_number {kind : Kind} (h : kind ≠ .number) (m m' : NumberMapping) :
    kind.builtin? m = kind.builtin? m' := by
  cases kind <;> first | rfl | exact absurd rfl h

theorem kind_eq_number_iff : s.kind = .number ↔ s = .number := by
  cases s <;> simp [kind]

end Schema

/-- A strategy that looks at no hint and at no enum values. -/
def Placement.IgnoresFacets (placement : Placement) : Prop :=
  ∀ s s', s.SameDeclaration s' → placement s = placement s'

/-- The reference without the package of what is generated for it. -/
def TypeExpr.unplaced : TypeExpr → TypeExpr
  | .builtin b => .builtin b
  | .sequence item => .sequence item.unplaced
  | .named d => .named { d with package := "" }

theorem TypeExpr.unplaced_nest (t : TypeExpr) (n : Nat) :
    (t.nest n).unplaced = t.unplaced.nest n := by
  induction n with
  | zero => rfl
  | succ n ih => simp [nest, unplaced, ih]

/-- What a name rule and a number mapping make of what is inside of all arrays. -/
inductive Outline
  | unusable (kind : Schema.Kind) (source : Naming.NameError)
  | builtin (type : Builtin)
  | declared (name : String) (kind : DeclKind)

def Outline.placed (package : String) (depth : Nat) : Outline → Except ResolveError TypeExpr
  | unusable kind source => .error (.unusableName kind source)
  | builtin b => .ok ((TypeExpr.builtin b).nest depth)
  | declared name kind =>
    if Text.blank package then .error (.emptyPackage name)
    else .ok ((TypeExpr.named { package, name, kind }).nest depth)

namespace Resolver

open Resolution

/-- The strategy for packages has its say after all others. -/
theorem exists_outline (naming : NamingRule) (numbers : NumberMapping) (s : Schema) :
    ∃ outline : Outline, ∀ r : Resolver, r.naming = naming → r.numbers = numbers →
      (r.resolve s).result = outline.placed (r.placement s.innermost) s.arrayDepth := by
  by_cases h : ∃ raw kind, s.innermost.Declares raw kind
  · obtain ⟨raw, kind, h⟩ := h
    have hresult : ∀ r : Resolver, (r.resolve s).result =
        (r.declare s.innermost raw kind).result.map (·.nest s.arrayDepth) := by
      intro r
      rw [result_resolve_eq_map, result_resolve_of_declares _ h]
    cases hname : naming raw with
    | error source =>
      refine ⟨.unusable s.innermost.kind source, fun r hnaming _ => ?_⟩
      rw [hresult, result_declare, hnaming, hname]
      rfl
    | ok name =>
      refine ⟨.declared name kind, fun r hnaming _ => ?_⟩
      rw [hresult, result_declare, hnaming, hname]
      simp only [Outline.placed]
      split <;> rfl
  · have hbuiltin : ∀ r : Resolver, ∃ b, s.innermost.kind.builtin? r.numbers = some b ∧
        (r.resolve s).result = .ok ((TypeExpr.builtin b).nest s.arrayDepth) := by
      intro r
      obtain ⟨b, hb, hr⟩ := r.result_resolve_of_not_declares s.kind_innermost_ne_array h
      refine ⟨b, hb, ?_⟩
      rw [result_resolve_eq_map, hr]
      rfl
    -- The builtin type is that of any resolver with these numbers.
    obtain ⟨b, hb, -⟩ := hbuiltin ⟨fun _ => "", naming, numbers, ""⟩
    refine ⟨.builtin b, fun r _ hnumbers => ?_⟩
    obtain ⟨b', hb', hr⟩ := hbuiltin r
    rw [hnumbers, hb] at hb'
    cases hb'
    exact hr

/-- All that the result for one node depends on: the name rule, its placement, and the builtin type
of its kind. -/
theorem result_resolve_congr {r r' : Resolver} {s s' : Schema} (hs : s.kind ≠ .array)
    (hkind : s.kind = s'.kind) (hdeclares : ∀ raw kind, s.Declares raw kind ↔ s'.Declares raw kind)
    (hnaming : r.naming = r'.naming) (hplacement : r.placement s = r'.placement s')
    (hbuiltin : s.kind.builtin? r.numbers = s'.kind.builtin? r'.numbers) :
    (r.resolve s).result = (r'.resolve s').result := by
  by_cases h : ∃ raw kind, s.Declares raw kind
  · obtain ⟨raw, kind, h⟩ := h
    have h' := (hdeclares raw kind).mp h
    rw [result_resolve_of_declares _ h, result_resolve_of_declares _ h', result_declare,
      result_declare, hnaming, hplacement, hkind]
  · have h' : ¬∃ raw kind, s'.Declares raw kind := by simpa only [hdeclares] using h
    obtain ⟨b, hb, hresult⟩ := r.result_resolve_of_not_declares hs h
    obtain ⟨b', hb', hresult'⟩ := r'.result_resolve_of_not_declares (hkind ▸ hs) h'
    rw [hbuiltin, hb'] at hb
    cases hb
    rw [hresult, hresult']

section

variable {r r' : Resolver} (hnaming : r.naming = r'.naming) (hnumbers : r.numbers = r'.numbers)
  {s : Schema}

include hnaming hnumbers

theorem unplaced_eq_of_resolve {t t' : TypeExpr} (h : (r.resolve s).result = .ok t)
    (h' : (r'.resolve s).result = .ok t') : t.unplaced = t'.unplaced := by
  obtain ⟨outline, houtline⟩ := exists_outline r'.naming r'.numbers s
  rw [houtline r hnaming hnumbers] at h
  rw [houtline r' rfl rfl] at h'
  cases outline with
  | unusable kind source => cases h
  | builtin b =>
    cases h
    cases h'
    rfl
  | declared name kind =>
    simp only [Outline.placed] at h h'
    split at h
    · cases h
    · split at h'
      · cases h'
      · cases h
        cases h'
        simp [TypeExpr.unplaced_nest, TypeExpr.unplaced]

theorem unusableName_of_resolve {kind : Schema.Kind} {source : Naming.NameError}
    (h : (r.resolve s).result = .error (.unusableName kind source)) :
    (r'.resolve s).result = .error (.unusableName kind source) := by
  obtain ⟨outline, houtline⟩ := exists_outline r'.naming r'.numbers s
  rw [houtline r hnaming hnumbers] at h
  rw [houtline r' rfl rfl]
  cases outline with
  | unusable kind source => exact h
  | builtin b => cases h
  | declared name kind =>
    simp only [Outline.placed] at h
    split at h <;> cases h

theorem name_of_emptyPackage {name : String} {t' : TypeExpr}
    (h : (r.resolve s).result = .error (.emptyPackage name)) (h' : (r'.resolve s).result = .ok t') :
    ∃ d, t'.innermost = .named d ∧ d.name = name := by
  obtain ⟨outline, houtline⟩ := exists_outline r'.naming r'.numbers s
  rw [houtline r hnaming hnumbers] at h
  rw [houtline r' rfl rfl] at h'
  cases outline with
  | unusable kind source => cases h
  | builtin b => cases h
  | declared name kind =>
    simp only [Outline.placed] at h h'
    split at h
    · split at h'
      · cases h'
      · cases h
        cases h'
        exact ⟨_, TypeExpr.innermost_nest _ _, rfl⟩
    · cases h

end

theorem result_resolve_numbers (r : Resolver) {s : Schema} (hs : s.innermost ≠ .number)
    (numbers : NumberMapping) :
    ({ r with numbers := numbers }.resolve s).result = (r.resolve s).result := by
  have hkind : s.innermost.kind ≠ .number := by rwa [Ne, Schema.kind_eq_number_iff]
  have hinnermost : ({ r with numbers := numbers }.resolve s.innermost).result =
      (r.resolve s.innermost).result :=
    result_resolve_congr s.kind_innermost_ne_array rfl (fun _ _ => Iff.rfl) rfl rfl
      (Schema.Kind.builtin?_of_ne_number hkind _ _)
  rw [result_resolve_eq_map, r.result_resolve_eq_map, hinnermost]

theorem result_resolve_number (r : Resolver) {s : Schema} (hs : s.innermost = .number) :
    (r.resolve s).result = .ok ((TypeExpr.builtin r.numberType).nest s.arrayDepth) := by
  rw [result_resolve_eq_map, hs]
  rfl

theorem result_resolve_sameDeclaration {r : Resolver} (hr : r.placement.IgnoresFacets)
    {s s' : Schema} (h : s.SameDeclaration s') (n : Nat) :
    (r.resolve (s.nest n)).result = (r.resolve (s'.nest n)).result := by
  have hdeclares : ∀ raw kind, s.Declares raw kind ↔ s'.Declares raw kind :=
    fun raw kind => ⟨h.declares, h.symm.declares⟩
  rw [result_resolve_nest, result_resolve_nest,
    result_resolve_congr h.kind_ne_array h.kind_eq hdeclares rfl (hr s s' h) (by rw [h.kind_eq])]

/-- Names, kinds and nesting do not depend on packages, references without numbers not on the number
mapping, and nothing depends on facets that the strategy for packages ignores. -/
theorem resolve_dependence {r r' : Resolver} (hnaming : r.naming = r'.naming)
    (hnumbers : r.numbers = r'.numbers) (s : Schema) :
    (∀ t t', (r.resolve s).result = .ok t → (r'.resolve s).result = .ok t' →
        t.unplaced = t'.unplaced) ∧
      (∀ kind source, (r.resolve s).result = .error (.unusableName kind source) ↔
        (r'.resolve s).result = .error (.unusableName kind source)) ∧
      (∀ name t', (r.resolve s).result = .error (.emptyPackage name) →
        (r'.resolve s).result = .ok t' → ∃ d, t'.innermost = .named d ∧ d.name = name) ∧
      (s.innermost ≠ .number → ∀ numbers,
        ({ r with numbers := numbers }.resolve s).result = (r.resolve s).result) ∧
      (s.innermost = .number →
        ({ r with numbers := .integer }.resolve s).result =
            .ok ((TypeExpr.builtin .integer).nest s.arrayDepth) ∧
          ({ r with numbers := .float }.resolve s).result =
            .ok ((TypeExpr.builtin .float).nest s.arrayDepth)) ∧
      (r.placement.IgnoresFacets → ∀ node node' : Schema, node.SameDeclaration node' →
        ∀ n, (r.resolve (node.nest n)).result = (r.resolve (node'.nest n)).result) := by
  refine ⟨?_, ?_, ?_, ?_, ?_, ?_⟩
  · intro t t' h h'
    exact unplaced_eq_of_resolve hnaming hnumbers h h'
  · intro kind source
    constructor
    · exact unusableName_of_resolve hnaming hnumbers
    · exact unusableName_of_resolve hnaming.symm hnumbers.symm
  · intro name t' h h'
    exact name_of_emptyPackage hnaming hnumbers h h'
  · exact r.result_resolve_numbers
  · intro hs
    exact ⟨result_resolve_number _ hs, result_resolve_number _ hs⟩
  · intro hr node node' h n
    exact result_resolve_sameDeclaration hr h n

theorem resolve_dependence_enumeration :
    let r : Resolver := ⟨fun _ => " ", .ok, .float, "crate"⟩
    let r' : Resolver := ⟨fun s => s.declaredName.getD "types", .ok, .float, ""⟩
    let s : Schema := .string "state" (some [some "open", none]) none
    let s' : Schema := .string "state" (some [some "shut"]) none
    r.naming = r'.naming ∧ r.numbers = r'.numbers ∧
      (r.resolve (s.nest 2)).result = .error (.emptyPackage "state") ∧
      (∃ t' d, (r'.resolve (s.nest 2)).result = .ok t' ∧ t'.innermost = .named d ∧
        d.name = "state") ∧
      r'.placement.IgnoresFacets ∧ s.SameDeclaration s' ∧
      (r'.resolve (s.nest 2)).result = (r'.resolve (s'.nest 2)).result := by
  intro r r' s s'
  have hdependence := @resolve_dependence r r' rfl rfl (s.nest 2)
  have hdependence' := @resolve_dependence r' r' rfl rfl s
  have hsame : s.SameDeclaration s' := .values "state" none (by decide) (by decide)
  have hignores : r'.placement.IgnoresFacets := by
    intro node node' h
    cases h <;> rfl
  have hdeclares : s.Declares "state" .enumeration := .enumeration none (by decide) (by decide)
  have hempty : (r.resolve (s.nest 2)).result = .error (.emptyPackage "state") := by
    have hnode : (r.resolve s).result = .error (.emptyPackage "state") := by
      rw [result_resolve_of_declares r hdeclares, result_declare_eq_error_iff]
      exact Or.inr ⟨"state", rfl, by decide, rfl⟩
    rw [result_resolve_nest, hnode]
    rfl
  have hplaced : (r'.resolve (s.nest 2)).result =
      .ok ((TypeExpr.named ⟨"state", "state", .enumeration⟩).nest 2) := by
    have hnode : (r'.resolve s).result = .ok (.named ⟨"state", "state", .enumeration⟩) := by
      rw [result_resolve_of_declares r' hdeclares, result_declare_eq_ok_iff]
      exact ⟨"state", rfl, by decide, rfl⟩
    rw [result_resolve_nest, hnode]
    rfl
  obtain ⟨d, hd, hname⟩ := hdependence.2.2.1 "state" _ hempty hplaced
  refine ⟨rfl, rfl, hempty, ⟨_, d, hplaced, hd, hname⟩, hignores, hsame, ?_⟩
  exact hdependence'.2.2.2.2.2 hignores s s' hsame 2

end Resolver
end SchemaBinding
