import SchemaBinding.Proofs.Resolver.Result

/-! Resolution and array nesting. Main statement: arrays around a schema type become as many
sequences around its reference, and change neither failure nor what is inside. -/
namespace SchemaBinding

namespace Resolver

open Resolution

variable (r : Resolver)

theorem named_or_builtin_of_resolve {s : Schema} (hs : s.kind ≠ .array) {t : TypeExpr}
    (h : (r.resolve s).result = .ok t) :
    (∃ d, t = .named d ∧ ∃ raw kind, s.Declares raw kind) ∨
      ∃ b, t = .builtin b ∧ ¬∃ raw kind, s.Declares raw kind := by
  by_cases hd : ∃ raw kind, s.Declares raw kind
  · obtain ⟨raw, kind, hd⟩ := hd
    rw [r.result_resolve_of_declares hd, result_declare_eq_ok_iff] at h
    obtain ⟨name, -, -, rfl⟩ := h
    exact Or.inl ⟨_, rfl, raw, kind, hd⟩
  · obtain ⟨b, -, hb⟩ := r.result_resolve_of_not_declares hs hd
    rw [hb] at h
    cases h
    exact Or.inr ⟨b, rfl, hd⟩

theorem result_resolve_nest (s : Schema) (n : Nat) :
    (r.resolve (s.nest n)).result = (r.resolve s).result.map (·.nest n) := by
  induction n with
  | zero => cases h : (r.resolve s).result <;> simp [Schema.nest, TypeExpr.nest, Except.map, h]
  | succ n ih =>
    rw [Schema.nest, result_resolve_array, ih]
    cases (r.resolve s).result <;> rfl

theorem result_resolve_eq_map (s : Schema) :
    (r.resolve s).result = (r.resolve s.innermost).result.map (·.nest s.arrayDepth) := by
  rw [← result_resolve_nest, s.nest_innermost]

theorem result_resolve_eq_error_iff {s : Schema} {e : ResolveError} :
    (r.resolve s).result = .error e ↔ (r.resolve s.innermost).result = .error e := by
  rw [r.result_resolve_eq_map s]
  cases (r.resolve s.innermost).result <;> simp [Except.map]

theorem result_resolve_eq_ok_iff {s : Schema} {t : TypeExpr} :
    (r.resolve s).result = .ok t ↔
      (r.resolve s.innermost).result = .ok t.innermost ∧ t.depth = s.arrayDepth := by
  rw [r.result_resolve_eq_map s]
  cases h : (r.resolve s.innermost).result with
  | error e => simp [Except.map]
  | ok u =>
    have hu : u.depth = 0 ∧ u.innermost = u := by
      rcases r.named_or_builtin_of_resolve s.kind_innermost_ne_array h with
        ⟨d, rfl, -⟩ | ⟨b, rfl, -⟩ <;> exact ⟨rfl, rfl⟩
    constructor
    · intro h
      cases h
      simp [hu]
    · rintro ⟨h, hdepth⟩
      cases h
      rw [← hdepth, Except.map, t.nest_innermost]

/-- Resolution commutes with nesting, for every placement, naming rule and number mapping. -/
theorem resolve_nest (s : Schema) (hs : s.kind ≠ .array) (n : Nat) :
    ((∃ u, (r.resolve (s.nest n)).result = .ok u) ↔ ∃ t, (r.resolve s).result = .ok t) ∧
      (∀ u, (r.resolve (s.nest n)).result = .ok u →
        u.depth = n ∧ (r.resolve s).result = .ok u.innermost ∧ u = u.innermost.nest n) ∧
      (∀ e, (r.resolve (s.nest n)).result = .error e ↔ (r.resolve s).result = .error e) ∧
      (∀ t, (r.resolve s).result = .ok t →
        (∀ item, t ≠ .sequence item) ∧ ((∃ d, t = .named d) ↔ ∃ raw kind, s.Declares raw kind)) ∧
      ((¬∃ raw kind, s.Declares raw kind) →
        ∃ b, s.kind.builtin? r.numbers = some b ∧ (r.resolve s).result = .ok (.builtin b)) := by
  have hinnermost : (s.nest n).innermost = s := by
    cases s <;> simp [Schema.innermost, Schema.kind] at hs ⊢
  have hdepth : (s.nest n).arrayDepth = n := by
    cases s <;> simp [Schema.arrayDepth, Schema.kind] at hs ⊢
  have hok : ∀ u, (r.resolve (s.nest n)).result = .ok u ↔
      (r.resolve s).result = .ok u.innermost ∧ u.depth = n := by
    intro u
    rw [result_resolve_eq_ok_iff, hinnermost, hdepth]
  refine ⟨?_, ?_, ?_, ?_, r.result_resolve_of_not_declares hs⟩
  · constructor
    · rintro ⟨u, hu⟩
      exact ⟨_, ((hok u).mp hu).1⟩
    · rintro ⟨t, ht⟩
      refine ⟨t.nest n, ?_⟩
      rw [r.result_resolve_nest, ht]
      rfl
  · intro u hu
    obtain ⟨ht, hn⟩ := (hok u).mp hu
    refine ⟨hn, ht, ?_⟩
    rw [← hn, u.nest_innermost]
  · intro e
    rw [result_resolve_eq_error_iff, hinnermost]
  · intro t h
    rcases r.named_or_builtin_of_resolve hs h with ⟨d, rfl, hd⟩ | ⟨b, rfl, hd⟩
    · exact ⟨by simp, by simpa using hd⟩
    · exact ⟨by simp, by simpa using hd⟩

/-- Three arrays around a declaration, under a placement and a naming rule of their own. -/
theorem resolve_nest_enumeration :
    let r : Resolver := ⟨fun s => s.declaredName.getD "types", .ok, .float, "crate"⟩
    let s : Schema := .string "state" (some [some "open", none]) none
    let t : TypeExpr := .named ⟨"state", "state", .enumeration⟩
    s.kind ≠ .array ∧ (r.resolve (s.nest 3)).result = .ok (t.nest 3) ∧
      (r.resolve s).result = .ok t ∧ ∃ d, t = .named d := by
  intro r s t
  have hs : s.kind ≠ .array := by decide
  have hdeclares : s.Declares "state" .enumeration := .enumeration none (by decide) (by decide)
  have ht : (r.resolve s).result = .ok t := by
    rw [r.result_resolve_of_declares hdeclares, result_declare_eq_ok_iff]
    exact ⟨"state", rfl, by decide, rfl⟩
  obtain ⟨hsuccess, hok, -, hnode, -⟩ := r.resolve_nest s hs 3
  obtain ⟨u, hu⟩ := hsuccess.mpr ⟨t, ht⟩
  obtain ⟨-, hinnermost, hnest⟩ := hok u hu
  have hut : u.innermost = t := Except.ok.inj (hinnermost.symm.trans ht)
  rw [hnest, hut] at hu
  exact ⟨hs, hu, ht, (hnode t ht).2.mpr ⟨_, _, hdeclares⟩⟩

end Resolver
end SchemaBinding
