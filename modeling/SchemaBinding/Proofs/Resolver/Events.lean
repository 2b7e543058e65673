import SchemaBinding.Proofs.Resolver.Batch
import SchemaBinding.Resolver.Session

/-! Events of resolutions. Main statement: a failure reports nothing, and a success reports its
declaration, if there is one, and then every node from the inside out. A batch reports what its
members before the first failure report, and a warning comes from nothing but setting a resolver
up. -/
namespace SchemaBinding

theorem Log.events_concat (logs : List Log) : (concat logs).events = logs.flatMap Log.events := by
  induction logs with
  | nil => rfl
  | cons a logs ih => simp [ih]

namespace Event

def shown [Text.Transliteration] [Text.SnakeCasing] (e : Event) :
    Level × String × List (String × String) :=
  (e.level, e.message, e.fields)

def isWarning (e : Event) : Bool := e.level == .warn

end Event

namespace Resolver

open Resolution

variable (r : Resolver)

theorem events_declare (node : Schema) (raw : String) (kind : DeclKind) :
    (r.declare node raw kind).trace.events =
      match (r.declare node raw kind).result with
      | .ok (.named d) => [.declared raw d]
      | _ => [] := by
  rw [declare]
  cases r.naming raw with
  | error source => rfl
  | ok name =>
    simp only [result, trace, outcome, run_bind, run_place]
    split <;> rfl

theorem events_bind_finish {resolution : Resolution TypeExpr} (h : resolution.Appends)
    (node : Schema) (f : TypeExpr → TypeExpr) :
    (resolution >>= fun t => finish node (f t)).trace.events =
      match resolution.result with
      | .ok t => resolution.trace.events ++ [.resolved node.kind (f t)]
      | .error _ => resolution.trace.events := by
  rw [trace_bind h fun t => appends_finish node (f t)]
  cases resolution.result <;> rfl

theorem events_bind_finish_self {resolution : Resolution TypeExpr} (h : resolution.Appends)
    (node : Schema) :
    (resolution >>= finish node).trace.events =
      match resolution.result with
      | .ok t => resolution.trace.events ++ [.resolved node.kind t]
      | .error _ => resolution.trace.events :=
  events_bind_finish h node id

variable {r} {s : Schema} {t : TypeExpr}

theorem events_resolve_of_error {e : ResolveError} (h : (r.resolve s).result = .error e) :
    (r.resolve s).trace.events = [] := by
  induction s with
  | array items ih =>
    have hitems : (r.resolve items).result = .error e := by
      rw [result_resolve_array] at h
      cases hresult : (r.resolve items).result <;> rw [hresult] at h <;> cases h
      rfl
    rw [resolve, events_bind_finish (r.appends_resolve items), hitems]
    exact ih hitems
  | object name hint =>
    rw [resolve, result_finish] at h
    rw [resolve, events_bind_finish_self (r.appends_declare _ _ _), h]
    simp only [events_declare, h]
  | string name values hint =>
    rw [resolve] at h ⊢
    split at h
    · cases h
    · rename_i hplain
      rw [result_finish] at h
      rw [if_neg hplain, events_bind_finish_self (r.appends_declare _ _ _), h]
      simp only [events_declare, h]
  | _ => cases h

theorem events_resolve_of_declares {raw : String} {kind : DeclKind} (hs : s.Declares raw kind)
    (h : (r.resolve s).result = .ok t) :
    ∃ d, t = .named d ∧ d.kind = kind ∧ r.naming raw = .ok d.name ∧ d.package = r.placement s ∧
      (r.resolve s).trace.events = [.declared raw d, .resolved s.kind t] := by
  have hdeclare : (r.declare s raw kind).result = .ok t := by
    rw [← r.result_resolve_of_declares hs, h]
  obtain ⟨name, hname, -, rfl⟩ := r.result_declare_eq_ok_iff.mp hdeclare
  refine ⟨_, rfl, rfl, hname, rfl, ?_⟩
  have hevents : (r.declare s raw kind >>= finish s).trace.events =
      [.declared raw ⟨r.placement s, name, kind⟩,
        .resolved s.kind (.named ⟨r.placement s, name, kind⟩)] := by
    rw [events_bind_finish_self (r.appends_declare _ _ _), hdeclare, events_declare, hdeclare]
    rfl
  cases hs with
  | object hint =>
    rw [resolve]
    exact hevents
  | enumeration hint hname hvalues =>
    have hplain := isPlainString_eq_false_iff.mpr ⟨hname, _, rfl, hvalues⟩
    simp only [resolve, hplain, Bool.false_eq_true, if_false]
    exact hevents

theorem events_resolve_of_not_declares (harray : s.kind ≠ .array)
    (hs : ¬∃ raw kind, s.Declares raw kind) (h : (r.resolve s).result = .ok t) :
    (r.resolve s).trace.events = [.resolved s.kind t] := by
  cases s with
  | array items => exact absurd rfl harray
  | object name hint => exact absurd ⟨name, _, .object name hint⟩ hs
  | string name values hint =>
    have hplain : isPlainString name values = true := by
      have hnone : (Schema.string name values hint).declaration? = none := by
        rw [Option.eq_none_iff_forall_ne_some]
        rintro ⟨raw, kind⟩ hdeclaration
        exact hs ⟨raw, kind, Schema.declaration?_eq_some_iff.mp hdeclaration⟩
      simpa [Schema.declaration?] using hnone
    simp only [resolve, hplain, if_true] at h ⊢
    cases h
    rfl
  | _ =>
    cases h
    rfl

/-- Each array is reported behind its items. -/
theorem events_resolve_nest (h : (r.resolve s).result = .ok t) (n : ℕ) :
    (r.resolve (s.nest n)).trace.events =
      (r.resolve s).trace.events ++
        (List.range n).map fun j => .resolved (s.nest (j + 1)).kind (t.nest (j + 1)) := by
  induction n with
  | zero => simp [Schema.nest]
  | succ n ih =>
    have hitems : (r.resolve (s.nest n)).result = .ok (t.nest n) := by
      rw [result_resolve_nest, h]
      rfl
    rw [Schema.nest, resolve, events_bind_finish (r.appends_resolve _), hitems, ih,
      List.range_succ, List.map_append, ← List.append_assoc]
    rfl

/-- The whole trace of a success: what is inside of all arrays reports itself first. -/
theorem events_resolve_of_ok (h : (r.resolve s).result = .ok t) :
    ∃ announced, (r.resolve s).trace.events = announced ++ (List.range (s.arrayDepth + 1)).map
        (fun j => .resolved (s.innermost.nest j).kind (t.innermost.nest j)) ∧
      ((¬∃ raw kind, s.innermost.Declares raw kind) → announced = []) ∧
      ∀ raw kind, s.innermost.Declares raw kind → ∃ d, t.innermost = .named d ∧ d.kind = kind ∧
        r.naming raw = .ok d.name ∧ d.package = r.placement s.innermost ∧
        announced = [.declared raw d] := by
  have hinnermost := (r.result_resolve_eq_ok_iff.mp h).1
  have hnest := events_resolve_nest hinnermost s.arrayDepth
  rw [s.nest_innermost] at hnest
  -- The event of the innermost node itself, taken to the front of those of the arrays.
  have hrange : (List.range (s.arrayDepth + 1)).map
      (fun j => Event.resolved (s.innermost.nest j).kind (t.innermost.nest j)) =
        .resolved s.innermost.kind t.innermost :: (List.range s.arrayDepth).map fun j =>
          .resolved (s.innermost.nest (j + 1)).kind (t.innermost.nest (j + 1)) := by
    rw [List.range_succ_eq_map, List.map_cons, List.map_map]
    rfl
  by_cases hd : ∃ raw kind, s.innermost.Declares raw kind
  · obtain ⟨raw, kind, hd⟩ := hd
    obtain ⟨d, ht, hkind, hname, hpackage, hevents⟩ := events_resolve_of_declares hd hinnermost
    refine ⟨[.declared raw d], ?_, fun hnot => absurd ⟨raw, kind, hd⟩ hnot, ?_⟩
    · rw [hnest, hevents, hrange]
      rfl
    · intro raw' kind' hd'
      have hsame := (Schema.declaration?_eq_some_iff.mpr hd).symm.trans
        (Schema.declaration?_eq_some_iff.mpr hd')
      cases hsame
      exact ⟨d, ht, hkind, hname, hpackage, rfl⟩
  · refine ⟨[], ?_, fun _ => rfl, fun raw kind hd' => absurd ⟨raw, kind, hd'⟩ hd⟩
    rw [hnest, events_resolve_of_not_declares s.kind_innermost_ne_array hd hinnermost, hrange]
    rfl

theorem isWarning_of_mem_events_resolve {e : Event} (he : e ∈ (r.resolve s).trace.events) :
    e.isWarning = false := by
  cases h : (r.resolve s).result with
  | error fault =>
    rw [events_resolve_of_error h] at he
    cases he
  | ok t =>
    obtain ⟨announced, hevents, hnone, hsome⟩ := events_resolve_of_ok h
    rw [hevents, List.mem_append] at he
    rcases he with he | he
    · by_cases hd : ∃ raw kind, s.innermost.Declares raw kind
      · obtain ⟨raw, kind, hd⟩ := hd
        obtain ⟨d, -, -, -, -, rfl⟩ := hsome raw kind hd
        rw [List.mem_singleton.mp he]
        rfl
      · rw [hnone hd] at he
        cases he
    · obtain ⟨j, -, rfl⟩ := List.mem_map.mp he
      rfl

/-- The members of a batch before the first one that fails. -/
def beforeFailure (r : Resolver) (schemas : List Schema) : List Schema :=
  schemas.takeWhile fun s => (r.resolve s).result.isOk

theorem beforeFailure_of_allResolve {schemas : List Schema} (h : r.AllResolve schemas) :
    r.beforeFailure schemas = schemas := by
  refine List.takeWhile_eq_self_iff.mpr fun s hs => ?_
  obtain ⟨t, ht⟩ := h s hs
  rw [ht]
  rfl

theorem events_resolveAll (r : Resolver) (schemas : List Schema) :
    (r.resolveAll schemas).trace.events =
      (r.beforeFailure schemas).flatMap fun s => (r.resolve s).trace.events := by
  have htraces : ∀ schemas, (r.traces schemas).events =
      schemas.flatMap fun s => (r.resolve s).trace.events := by
    intro schemas
    rw [traces, Log.events_concat, List.flatMap_map]
  rcases r.allResolve_or_exists_error schemas with hall | ⟨before, s, after, e, rfl, hbefore, hs⟩
  · obtain ⟨ts, hts⟩ := r.exists_resolvesTo_iff.mpr hall
    rw [trace, outcome_resolveAll_of_resolvesTo hts, htraces, beforeFailure_of_allResolve hall]
  · have hprefix : r.beforeFailure (before ++ s :: after) = before := by
      have hstop : r.beforeFailure (s :: after) = [] :=
        List.takeWhile_cons_of_neg (by simp [hs, Except.isOk, Except.toBool])
      rw [beforeFailure, List.takeWhile_append, ← beforeFailure, ← beforeFailure,
        beforeFailure_of_allResolve hbefore, if_pos rfl, hstop, List.append_nil]
    rw [trace, outcome_resolveAll_of_error hbefore hs, htraces, hprefix, List.flatMap_append,
      List.flatMap_singleton, events_resolve_of_error hs, List.append_nil]

theorem isWarning_of_mem_events_resolveAll {schemas : List Schema} {e : Event}
    (he : e ∈ (r.resolveAll schemas).trace.events) : e.isWarning = false := by
  rw [events_resolveAll, List.mem_flatMap] at he
  obtain ⟨s, -, he⟩ := he
  exact isWarning_of_mem_events_resolve he

end Resolver

namespace Session

open Resolver Resolution

/-- What a step reports, whatever has been logged before. -/
def Step.events (r : Resolver) : Step → List Event
  | setUp _ config => setupEvents config
  | resolve s => (r.resolve s).trace.events
  | resolveAll schemas => (r.resolveAll schemas).trace.events
  | _ => []

/-- The warnings of a step, which do not depend on the resolver that is at work. -/
def Step.warnings : Step → List Event
  | setUp _ config => setupEvents config
  | _ => []

theorem Step.filter_isWarning_events (r : Resolver) (step : Step) :
    (step.events r).filter Event.isWarning = step.warnings := by
  cases step with
  | setUp placement config =>
    rw [events, warnings, setupEvents]
    cases config.numberMapping <;> rfl
  | resolve s =>
    refine List.filter_eq_nil_iff.mpr fun e he => ?_
    rw [isWarning_of_mem_events_resolve he]
    exact Bool.false_ne_true
  | resolveAll schemas =>
    refine List.filter_eq_nil_iff.mpr fun e he => ?_
    rw [isWarning_of_mem_events_resolveAll he]
    exact Bool.false_ne_true
  | _ => rfl

theorem Step.exists_warning_iff (r : Resolver) (step : Step) :
    (∃ e ∈ step.events r, e.isWarning) ↔
      ∃ placement config, step = .setUp placement config ∧ config.numberMapping = .float := by
  have hfilter : (∃ e ∈ step.events r, e.isWarning) ↔ step.warnings ≠ [] := by
    rw [← step.filter_isWarning_events r, Ne, List.filter_eq_nil_iff]
    push Not
    rfl
  rw [hfilter]
  cases step with
  | setUp placement config =>
    simp only [warnings, setupEvents]
    cases hmapping : config.numberMapping <;> simp [hmapping]
  | _ => simp [warnings]

variable [Text.Transliteration]

theorem events_step (session : Session) (step : Step) :
    (session.step step).log.events = session.log.events ++ step.events session.resolver := by
  cases step with
  | setUp placement config => rfl
  | resolve s =>
    rw [Session.step, session.resolver.appends_resolve s, Log.events_append, Step.events]
  | resolveAll schemas =>
    rw [Session.step, session.resolver.appends_resolveAll schemas, Log.events_append, Step.events]
  | _ => exact (List.append_nil _).symm

theorem warnings_run (session : Session) (steps : List Step) :
    (session.run steps).log.events.filter Event.isWarning =
      session.log.events.filter Event.isWarning ++ steps.flatMap Step.warnings := by
  induction steps generalizing session with
  | nil => simp [run]
  | cons step steps ih =>
    rw [run, List.foldl_cons, ← run, ih, events_step, List.filter_append,
      step.filter_isWarning_events, List.append_assoc, List.flatMap_cons]

end Session

section

variable [Text.Transliteration] [Text.SnakeCasing]

/-- What a listener gets. A failure is silent; a success tells of its declaration first, if what is
inside of all arrays is one, and then of all nodes, those inside before those around them. -/
theorem Resolver.events_spec (r : Resolver) :
    (∀ s e, (r.resolve s).result = .error e → (r.resolve s).trace.events = []) ∧
      (∀ s t, (r.resolve s).result = .ok t →
        ∃ announced, (r.resolve s).trace.events.map Event.shown =
            announced ++ (List.range (s.arrayDepth + 1)).map (fun j =>
              (.trace, "Resolved schema type.", [("kind", (s.innermost.nest j).kind.literal),
                ("resolved", (t.innermost.nest j).display)])) ∧
          ((¬∃ raw kind, s.innermost.Declares raw kind) → announced = []) ∧
          ∀ raw kind, s.innermost.Declares raw kind → ∃ d, t.innermost = .named d ∧
            d.kind = kind ∧ r.naming raw = .ok d.name ∧ d.package = r.placement s.innermost ∧
            announced = [(.debug, "Resolved named type reference.",
              [("raw_name", raw), ("name", d.name), ("package", d.package),
                ("kind", d.kind.literal)])]) ∧
      (∀ schemas, (r.resolveAll schemas).trace.events =
        (schemas.takeWhile fun s => (r.resolve s).result.isOk).flatMap fun s =>
          (r.resolve s).trace.events) ∧
      (∀ (session : Session) (step : Session.Step),
        (session.step step).log.events = session.log.events ++ step.events session.resolver ∧
          ((∃ e ∈ step.events session.resolver, e.isWarning) ↔ ∃ placement config,
            step = .setUp placement config ∧ config.numberMapping = .float)) ∧
      ∀ (session : Session) (steps : List Session.Step),
        (session.run steps).log.events.filter Event.isWarning =
          session.log.events.filter Event.isWarning ++ steps.flatMap Session.Step.warnings := by
  refine ⟨fun s e => events_resolve_of_error, ?_, r.events_resolveAll, ?_, Session.warnings_run⟩
  · intro s t h
    obtain ⟨announced, hevents, hnone, hsome⟩ := events_resolve_of_ok h
    refine ⟨announced.map Event.shown, ?_, ?_, ?_⟩
    · rw [hevents, List.map_append, List.map_map]
      rfl
    · intro hd
      rw [hnone hd, List.map_nil]
    · intro raw kind hd
      obtain ⟨d, ht, hkind, hname, hpackage, rfl⟩ := hsome raw kind hd
      exact ⟨d, ht, hkind, hname, hpackage, rfl⟩
  · intro session step
    exact ⟨session.events_step step, step.exists_warning_iff session.resolver⟩

end

attribute [local instance] Text.Transliteration.byScript Text.SnakeCasing.byCapitals

/-- Two arrays around a declaration give one event for it and three for the nodes. What follows a
failure is silent, as is the failure, and setting up the resolver is what warned. -/
theorem Resolver.events_spec_nested :
    let config : Config := { Config.standard with numberMapping := .float }
    let placement : Placement := fun node => node.declaredName.getD "types"
    let r := ofPlacement placement config
    let carts : Schema := .array (.array (.object "shop cart" none))
    let unnamed : Schema := .array (.object "-" none)
    let events := (r.resolve carts).trace.events
    events.map Event.shown =
        [(.debug, "Resolved named type reference.", [("raw_name", "shop cart"),
            ("name", "ShopCart"), ("package", "shop cart"), ("kind", "object")]),
          (.trace, "Resolved schema type.", [("kind", "object"), ("resolved", "ShopCart")]),
          (.trace, "Resolved schema type.", [("kind", "array"), ("resolved", "Vec<ShopCart>")]),
          (.trace, "Resolved schema type.",
            [("kind", "array"), ("resolved", "Vec<Vec<ShopCart>>")])] ∧
      (r.resolveAll [carts, unnamed, carts]).trace.events = events ∧
      ((⟨r, {}⟩ : Session).run [.resolve carts, .setUp placement config, .resolve unnamed]
        ).log.events.filter Event.isWarning = [.floatNumbers] := by
  intro config placement r carts unnamed events
  have hcarts : (r.resolve carts).result =
      .ok (.sequence (.sequence (.named ⟨"shop cart", "ShopCart", .object⟩))) := by cbv
  have hunnamed : (r.resolve unnamed).result = .error (.unusableName .object (.empty "-")) := by cbv
  obtain ⟨-, hok, hall, -, hrun⟩ := r.events_spec
  refine ⟨?_, ?_, ?_⟩
  · obtain ⟨announced, hevents, -, hsome⟩ := hok _ _ hcarts
    obtain ⟨d, hd, -, -, -, rfl⟩ := hsome "shop cart" .object (.object _ none)
    cases hd
    rw [hevents]
    cbv
  · rw [hall]
    simp [hcarts, hunnamed, Except.isOk, Except.toBool, events]
  · rw [hrun]
    rfl

end SchemaBinding
