import SchemaBinding.Proofs.Resolver.Trace
import SchemaBinding.Text.Scripts
import Mathlib

/-! Resolving several schema types. Main statement: a batch succeeds exactly if each of its members
does, with their results in order, and else fails as the first member that does; it asks for the
placements that its members ask for, up to and including the first that fails. -/
namespace SchemaBinding
namespace Resolver

open Resolution

variable (r : Resolver)

def ResolvesTo (schemas : List Schema) (ts : List TypeExpr) : Prop :=
  List.Forall₂ (fun s t => (r.resolve s).result = .ok t) schemas ts

def AllResolve (schemas : List Schema) : Prop := ∀ s ∈ schemas, ∃ t, (r.resolve s).result = .ok t

theorem exists_resolvesTo_iff {schemas : List Schema} :
    (∃ ts, r.ResolvesTo schemas ts) ↔ r.AllResolve schemas := by
  constructor
  · rintro ⟨ts, h⟩
    induction h with
    | nil => simp [AllResolve]
    | cons hs _ ih => exact List.forall_mem_cons.mpr ⟨⟨_, hs⟩, ih⟩
  · intro h
    induction schemas with
    | nil => exact ⟨[], .nil⟩
    | cons s schemas ih =>
      obtain ⟨⟨t, ht⟩, hrest⟩ := List.forall_mem_cons.mp h
      obtain ⟨ts, hts⟩ := ih hrest
      exact ⟨t :: ts, .cons ht hts⟩

/-- The traces of schema types that are resolved one after the other. -/
def traces (schemas : List Schema) : Log := Log.concat (schemas.map fun s => (r.resolve s).trace)

theorem placements_traces (schemas : List Schema) :
    (r.traces schemas).placements = schemas.filterMap r.placement? := by
  rw [traces, Log.placements_concat, List.flatMap_map, List.filterMap_eq_flatMap_toList]
  exact List.flatMap_congr fun s _ => r.placements_resolve s

theorem resolveAll_cons (s : Schema) (schemas : List Schema) :
    r.resolveAll (s :: schemas) =
      r.resolve s >>= fun t => r.resolveAll schemas >>= fun ts => pure (t :: ts) := by
  simp [resolveAll]

theorem appends_resolveAll (schemas : List Schema) : (r.resolveAll schemas).Appends := by
  induction schemas with
  | nil => exact appends_pure []
  | cons s schemas ih =>
    rw [resolveAll_cons]
    exact (r.appends_resolve s).bind fun t => ih.bind fun ts => appends_pure _

theorem outcome_resolveAll_nil : (r.resolveAll []).outcome = (.ok [], {}) := rfl

variable {r} {s : Schema}

theorem outcome_resolveAll_cons_of_error {e : ResolveError} (h : (r.resolve s).result = .error e)
    (after : List Schema) :
    (r.resolveAll (s :: after)).outcome = (.error e, (r.resolve s).trace) := by
  have hlast := fun t => (r.appends_resolveAll after).bind fun ts => appends_pure (t :: ts)
  rw [outcome_eq, resolveAll_cons, result_bind (r.appends_resolve s) hlast,
    trace_bind (r.appends_resolve s) hlast, h]

theorem outcome_resolveAll_cons_of_ok {t : TypeExpr} (h : (r.resolve s).result = .ok t)
    (rest : List Schema) :
    (r.resolveAll (s :: rest)).outcome =
      ((r.resolveAll rest).result.map (t :: ·),
        (r.resolve s).trace ++ (r.resolveAll rest).trace) := by
  have hrest := r.appends_resolveAll rest
  have hpure := fun ts => appends_pure (t :: ts)
  have hlast := fun t => hrest.bind fun ts => appends_pure (t :: ts)
  have hresult : (r.resolveAll rest >>= fun ts => pure (t :: ts)).result =
      (r.resolveAll rest).result.map (t :: ·) :=
    result_bind_of_ok _ fun ts log => rfl
  have htrace : (r.resolveAll rest >>= fun ts => pure (t :: ts)).trace =
      (r.resolveAll rest).trace := by
    rw [trace_bind hrest hpure]
    cases (r.resolveAll rest).result with
    | error e => rfl
    | ok ts => exact Log.append_empty _
  rw [outcome_eq, resolveAll_cons, result_bind (r.appends_resolve s) hlast,
    trace_bind (r.appends_resolve s) hlast, h]
  simp only [hresult, htrace]

/-- Members that succeed hand on to the rest of the batch. -/
theorem outcome_resolveAll_append {before : List Schema} {ts : List TypeExpr}
    (h : r.ResolvesTo before ts) (rest : List Schema) :
    (r.resolveAll (before ++ rest)).outcome =
      ((r.resolveAll rest).result.map (ts ++ ·), r.traces before ++ (r.resolveAll rest).trace) := by
  -- On the members that succeed; a failure in the rest passes through `Except.map`.
  induction h with
  | nil =>
    rw [List.nil_append, outcome_eq]
    cases (r.resolveAll rest).result <;> simp [traces, Except.map]
  | @cons s t before ts hs _ ih =>
    rw [outcome_eq, Prod.mk.injEq] at ih
    rw [List.cons_append, outcome_resolveAll_cons_of_ok hs, ih.1, ih.2]
    cases (r.resolveAll rest).result <;> simp [traces, Except.map, Log.append_assoc]

theorem outcome_resolveAll_of_resolvesTo {schemas : List Schema} {ts : List TypeExpr}
    (h : r.ResolvesTo schemas ts) : (r.resolveAll schemas).outcome = (.ok ts, r.traces schemas) := by
  have houtcome := outcome_resolveAll_append h []
  rw [List.append_nil] at houtcome
  rw [houtcome, result, trace, outcome_resolveAll_nil]
  simp [Except.map]

/-- What comes after the first failure leaves no trace. -/
theorem outcome_resolveAll_of_error {before : List Schema} {e : ResolveError}
    (hbefore : r.AllResolve before) (hs : (r.resolve s).result = .error e) (after : List Schema) :
    (r.resolveAll (before ++ s :: after)).outcome = (.error e, r.traces (before ++ [s])) := by
  obtain ⟨ts, hts⟩ := r.exists_resolvesTo_iff.mpr hbefore
  rw [outcome_resolveAll_append hts, result, trace, outcome_resolveAll_cons_of_error hs]
  simp [Except.map, traces, Log.concat_append]

theorem allResolve_or_exists_error (r : Resolver) (schemas : List Schema) :
    r.AllResolve schemas ∨ ∃ before s after e, schemas = before ++ s :: after ∧
      r.AllResolve before ∧ (r.resolve s).result = .error e := by
  induction schemas with
  | nil => exact Or.inl (by simp [AllResolve])
  | cons s schemas ih =>
    cases hs : (r.resolve s).result with
    | error e => exact Or.inr ⟨[], s, schemas, e, rfl, by simp [AllResolve], hs⟩
    | ok t =>
      rcases ih with hall | ⟨before, u, after, e, rfl, hbefore, hu⟩
      · exact Or.inl (List.forall_mem_cons.mpr ⟨⟨t, hs⟩, hall⟩)
      · exact Or.inr ⟨s :: before, u, after, e, rfl,
          List.forall_mem_cons.mpr ⟨⟨t, hs⟩, hbefore⟩, hu⟩

theorem result_resolveAll_eq_ok_iff {schemas : List Schema} {ts : List TypeExpr} :
    (r.resolveAll schemas).result = .ok ts ↔ r.ResolvesTo schemas ts := by
  constructor
  · intro h
    rcases r.allResolve_or_exists_error schemas with hall | ⟨before, s, after, e, rfl, hbefore, hs⟩
    · obtain ⟨us, hus⟩ := r.exists_resolvesTo_iff.mpr hall
      rw [result, outcome_resolveAll_of_resolvesTo hus] at h
      cases h
      exact hus
    · rw [result, outcome_resolveAll_of_error hbefore hs] at h
      cases h
  · intro h
    rw [result, outcome_resolveAll_of_resolvesTo h]

theorem result_resolveAll_eq_error_iff {schemas : List Schema} {e : ResolveError} :
    (r.resolveAll schemas).result = .error e ↔
      ∃ before s after, schemas = before ++ s :: after ∧ r.AllResolve before ∧
        (r.resolve s).result = .error e := by
  constructor
  · intro h
    rcases r.allResolve_or_exists_error schemas with hall | ⟨before, s, after, e', rfl, hbefore, hs⟩
    · obtain ⟨ts, hts⟩ := r.exists_resolvesTo_iff.mpr hall
      rw [result, outcome_resolveAll_of_resolvesTo hts] at h
      cases h
    · rw [result, outcome_resolveAll_of_error hbefore hs] at h
      cases h
      exact ⟨before, s, after, rfl, hbefore, hs⟩
  · rintro ⟨before, s, after, rfl, hbefore, hs⟩
    rw [result, outcome_resolveAll_of_error hbefore hs]

/-- A batch stops at its first failure. It is a success exactly if its members are, and it asks for
the placement of each node that is declared under a usable name and was come to. -/
theorem resolveAll_spec (r : Resolver) (schemas : List Schema) :
    ((∃ ts, (r.resolveAll schemas).result = .ok ts) ↔ r.AllResolve schemas) ∧
      (∀ ts, (r.resolveAll schemas).result = .ok ts ↔ r.ResolvesTo schemas ts) ∧
      (∀ e, (r.resolveAll schemas).result = .error e ↔
        ∃ before s after, schemas = before ++ s :: after ∧ r.AllResolve before ∧
          (r.resolve s).result = .error e) ∧
      (r.AllResolve schemas →
        (r.resolveAll schemas).trace.placements = schemas.filterMap r.placement?) ∧
      (∀ before s after e, schemas = before ++ s :: after → r.AllResolve before →
        (r.resolve s).result = .error e →
          (r.resolveAll schemas).trace.placements = (before ++ [s]).filterMap r.placement? ∧
          (r.resolveAll schemas).outcome = (r.resolveAll (before ++ [s])).outcome) ∧
      ∀ s node package, r.placement? s = some (node, package) ↔
        node = s.innermost ∧ package = r.placement node ∧
          ∃ raw kind, node.Declares raw kind ∧ ∃ name, r.naming raw = .ok name := by
  refine ⟨?_, fun ts => result_resolveAll_eq_ok_iff, fun e => result_resolveAll_eq_error_iff,
    ?_, ?_, ?_⟩
  · simp only [result_resolveAll_eq_ok_iff, exists_resolvesTo_iff]
  · intro h
    obtain ⟨ts, hts⟩ := r.exists_resolvesTo_iff.mpr h
    rw [trace, outcome_resolveAll_of_resolvesTo hts, placements_traces]
  · rintro before s after e rfl hbefore hs
    have houtcome := outcome_resolveAll_of_error hbefore hs
    rw [trace, houtcome after, houtcome [], placements_traces]
    exact ⟨rfl, rfl⟩
  · intro s node package
    rw [placement?, Option.map_eq_some_iff]
    simp only [placed?_eq_some_iff, Prod.mk.injEq]
    constructor
    · rintro ⟨node, ⟨hnode, hdeclares⟩, rfl, rfl⟩
      exact ⟨hnode, rfl, hdeclares⟩
    · rintro ⟨hnode, rfl, hdeclares⟩
      exact ⟨node, ⟨hnode, hdeclares⟩, rfl, rfl⟩

attribute [local instance] Text.Transliteration.byScript

/-- The third of four schema types has no usable name. The strategy is asked for the item of the
first alone: plain text is not declared, and what follows the failure is not come to. -/
theorem resolveAll_spec_stops :
    let r : Resolver := ofPlacement (fun node => node.declaredName.getD "types") .standard
    let cart : Schema := .object "cart" none
    let unnamed : Schema := .object "-" none
    let before : List Schema := [.array (.array cart), .string "note" none none]
    let schemas := before ++ unnamed :: [.object "order" none]
    r.AllResolve before ∧
      (r.resolve unnamed).result = .error (.unusableName .object (.empty "-")) ∧
      (r.resolveAll schemas).result = .error (.unusableName .object (.empty "-")) ∧
      (r.resolveAll schemas).trace.placements = [(cart, "cart")] := by
  intro r cart unnamed before schemas
  have hcart : (r.resolve (.array (.array cart))).result =
      .ok (.sequence (.sequence (.named ⟨"cart", "Cart", .object⟩))) := by cbv
  have hnote : (r.resolve (.string "note" none none)).result = .ok (.builtin .string) := rfl
  have hunnamed : (r.resolve unnamed).result = .error (.unusableName .object (.empty "-")) := by cbv
  have hbefore : r.AllResolve before := by
    refine List.forall_mem_cons.mpr ⟨⟨_, hcart⟩, List.forall_mem_singleton.mpr ⟨_, hnote⟩⟩
  have hplaced : (before ++ [unnamed]).filterMap r.placement? = [(cart, "cart")] := by cbv
  obtain ⟨-, -, herror, -, hstops, -⟩ := r.resolveAll_spec schemas
  refine ⟨hbefore, hunnamed, ?_, ?_⟩
  · exact (herror _).mpr ⟨before, unnamed, _, rfl, hbefore, hunnamed⟩
  · rw [(hstops before unnamed _ _ rfl hbefore hunnamed).1, hplaced]

end Resolver
end SchemaBinding
