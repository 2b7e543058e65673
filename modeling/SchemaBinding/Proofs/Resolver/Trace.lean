import SchemaBinding.Proofs.Resolver.Nesting

/-! Traces of resolutions. Main statements: a resolution adds its trace to whatever log it starts
from, so that traces of steps are put together by appending, and it asks for one placement at most:
that of what is inside of all arrays, if this is declared under a name that can be used. -/
namespace SchemaBinding

namespace Log

instance : Append Log := ⟨fun a b => ⟨a.placements ++ b.placements, a.events ++ b.events⟩⟩

@[simp] theorem placements_append (a b : Log) :
    (a ++ b).placements = a.placements ++ b.placements :=
  rfl

@[simp] theorem events_append (a b : Log) : (a ++ b).events = a.events ++ b.events := rfl

@[ext] theorem ext {a b : Log} (hplacements : a.placements = b.placements)
    (hevents : a.events = b.events) : a = b := by
  cases a
  cases b
  simp_all

@[simp] theorem empty_append (a : Log) : ({} : Log) ++ a = a := by
  ext1 <;> simp

@[simp] theorem append_empty (a : Log) : a ++ {} = a := by
  ext1 <;> simp

theorem append_assoc (a b c : Log) : a ++ b ++ c = a ++ (b ++ c) := by
  ext1 <;> simp

def concat (logs : List Log) : Log := logs.foldr (· ++ ·) {}

@[simp] theorem concat_nil : concat [] = {} := rfl

@[simp] theorem concat_cons (a : Log) (logs : List Log) : concat (a :: logs) = a ++ concat logs :=
  rfl

theorem concat_append (logs others : List Log) :
    concat (logs ++ others) = concat logs ++ concat others := by
  induction logs with
  | nil => simp
  | cons a logs ih => simp [ih, append_assoc]

theorem placements_concat (logs : List Log) :
    (concat logs).placements = logs.flatMap Log.placements := by
  induction logs with
  | nil => rfl
  | cons a logs ih => simp [ih]

end Log

namespace Resolution

variable {α β : Type}

/-- The log of a resolution on its own. -/
def trace (resolution : Resolution α) : Log := resolution.outcome.2

theorem outcome_eq (resolution : Resolution α) :
    resolution.outcome = (resolution.result, resolution.trace) :=
  rfl

/-- What comes before makes no difference. -/
def Appends (resolution : Resolution α) : Prop :=
  ∀ log, resolution.run.run log = (resolution.result, log ++ resolution.trace)

theorem appends_of_run {resolution : Resolution α} {a : Except ResolveError α} {added : Log}
    (h : ∀ log, resolution.run.run log = (a, log ++ added)) :
    resolution.result = a ∧ resolution.trace = added ∧ resolution.Appends := by
  have hresult : resolution.result = a := by rw [result, outcome, h]
  have htrace : resolution.trace = added := by rw [trace, outcome, h, Log.empty_append]
  refine ⟨hresult, htrace, fun log => ?_⟩
  rw [h, hresult, htrace]

theorem run_pure (a : α) (log : Log) :
    (pure a : Resolution α).run.run log = (.ok a, log ++ {}) := by
  rw [Log.append_empty]
  rfl

theorem run_throw (e : ResolveError) (log : Log) :
    (throw e : Resolution α).run.run log = (.error e, log ++ {}) := by
  rw [Log.append_empty]
  rfl

theorem run_report (event : Event) (log : Log) :
    (report event).run.run log = (.ok (), log ++ ⟨[], [event]⟩) := by
  show (_, _) = _
  congr 1
  ext1 <;> simp

theorem run_place_append (placement : Placement) (node : Schema) (log : Log) :
    (place placement node).run.run log =
      (.ok (placement node), log ++ ⟨[(node, placement node)], []⟩) := by
  rw [run_place]
  congr 1
  ext1 <;> simp

/-- Steps one after the other: a failure keeps what was logged before it. -/
theorem run_bind_append {resolution : Resolution α} {next : α → Resolution β}
    (h : resolution.Appends) (hnext : ∀ a, (next a).Appends) (log : Log) :
    (resolution >>= next).run.run log =
      match resolution.result with
      | .ok a => ((next a).result, log ++ (resolution.trace ++ (next a).trace))
      | .error e => (.error e, log ++ resolution.trace) := by
  rw [run_bind, h]
  cases resolution.result with
  | error e => rfl
  | ok a =>
    simp only
    rw [hnext, Log.append_assoc]

theorem Appends.bind {resolution : Resolution α} {next : α → Resolution β}
    (h : resolution.Appends) (hnext : ∀ a, (next a).Appends) : (resolution >>= next).Appends := by
  have hrun := run_bind_append h hnext
  cases hresult : resolution.result with
  | error e =>
    simp only [hresult] at hrun
    exact (appends_of_run hrun).2.2
  | ok a =>
    simp only [hresult] at hrun
    exact (appends_of_run hrun).2.2

theorem result_bind {resolution : Resolution α} {next : α → Resolution β}
    (h : resolution.Appends) (hnext : ∀ a, (next a).Appends) :
    (resolution >>= next).result =
      match resolution.result with
      | .ok a => (next a).result
      | .error e => .error e := by
  rw [result, outcome, run_bind_append h hnext]
  cases resolution.result <;> rfl

theorem trace_bind {resolution : Resolution α} {next : α → Resolution β}
    (h : resolution.Appends) (hnext : ∀ a, (next a).Appends) :
    (resolution >>= next).trace =
      match resolution.result with
      | .ok a => resolution.trace ++ (next a).trace
      | .error _ => resolution.trace := by
  rw [trace, outcome, run_bind_append h hnext]
  cases resolution.result <;> simp

theorem placements_bind {resolution : Resolution α} {next : α → Resolution β}
    (h : resolution.Appends) (hnext : ∀ a, (next a).Appends)
    (hnone : ∀ a, (next a).trace.placements = []) :
    (resolution >>= next).trace.placements = resolution.trace.placements := by
  rw [trace_bind h hnext]
  cases resolution.result <;> simp [hnone]

theorem appends_pure (a : α) : (pure a : Resolution α).Appends := (appends_of_run (run_pure a)).2.2

theorem appends_throw (e : ResolveError) : (throw e : Resolution α).Appends :=
  (appends_of_run (run_throw e)).2.2

theorem appends_report (event : Event) : (report event).Appends :=
  (appends_of_run (run_report event)).2.2

theorem appends_place (placement : Placement) (node : Schema) : (place placement node).Appends :=
  (appends_of_run (run_place_append placement node)).2.2

end Resolution

namespace Schema

/-- The name and the kind of what is generated for a schema type itself. -/
def declaration? : Schema → Option (String × DeclKind)
  | object name _ => some (name, .object)
  | string name values _ => if isPlainString name values then none else some (name, .enumeration)
  | _ => none

theorem declaration?_eq_some_iff {s : Schema} {raw : String} {kind : DeclKind} :
    s.declaration? = some (raw, kind) ↔ s.Declares raw kind := by
  constructor
  · intro h
    cases s with
    | object name hint =>
      cases h
      exact .object raw hint
    | string name values hint =>
      simp only [declaration?] at h
      split at h
      · cases h
      · rename_i hplain
        cases h
        rw [Bool.not_eq_true] at hplain
        obtain ⟨hname, vs, rfl, hvs⟩ := isPlainString_eq_false_iff.mp hplain
        exact .enumeration hint hname hvs
    | _ => cases h
  · intro h
    cases h with
    | object hint => rfl
    | enumeration hint hname hvalues =>
      have hplain := isPlainString_eq_false_iff.mpr ⟨hname, _, rfl, hvalues⟩
      simp [declaration?, hplain]

end Schema

namespace Resolver

open Resolution

variable (r : Resolver)

theorem appends_finish (node : Schema) (type : TypeExpr) : (finish node type).Appends :=
  (appends_report _).bind fun _ => appends_pure type

theorem appends_declare (node : Schema) (raw : String) (kind : DeclKind) :
    (r.declare node raw kind).Appends := by
  rw [declare]
  cases r.naming raw with
  | error source => exact appends_throw _
  | ok name =>
    refine (appends_place r.placement node).bind fun package => ?_
    split
    · exact appends_throw _
    · exact (appends_report _).bind fun _ => appends_pure _

theorem appends_resolve (s : Schema) : (r.resolve s).Appends := by
  induction s with
  | array items ih => exact ih.bind fun item => appends_finish _ _
  | object name hint => exact (r.appends_declare _ _ _).bind fun type => appends_finish _ type
  | string name values hint =>
    rw [resolve]
    split
    · exact (appends_pure _).bind fun type => appends_finish _ type
    · exact (r.appends_declare _ _ _).bind fun type => appends_finish _ type
  | _ => exact appends_finish _ _

theorem placements_declare (node : Schema) (raw : String) (kind : DeclKind) :
    (r.declare node raw kind).trace.placements =
      match r.naming raw with
      | .error _ => []
      | .ok _ => [(node, r.placement node)] := by
  rw [declare]
  cases r.naming raw with
  | error source => rfl
  | ok name =>
    simp only [trace, outcome, run_bind, run_place]
    split <;> rfl

theorem placements_bind_finish {resolution : Resolution TypeExpr} (h : resolution.Appends)
    (node : Schema) :
    (resolution >>= finish node).trace.placements = resolution.trace.placements :=
  placements_bind h (appends_finish node) fun _ => rfl

def placed? (s : Schema) : Option Schema :=
  match s.innermost.declaration? with
  | none => none
  | some (raw, _) =>
    match r.naming raw with
    | .error _ => none
    | .ok _ => some s.innermost

theorem placed?_eq_some_iff {s node : Schema} :
    r.placed? s = some node ↔
      node = s.innermost ∧ ∃ raw kind, node.Declares raw kind ∧ ∃ name, r.naming raw = .ok name := by
  constructor
  · intro h
    unfold placed? at h
    split at h
    · cases h
    · rename_i raw kind hdeclaration
      split at h
      · cases h
      · rename_i name hname
        cases h
        exact ⟨rfl, raw, kind, Schema.declaration?_eq_some_iff.mp hdeclaration, name, hname⟩
  · rintro ⟨rfl, raw, kind, hdeclares, name, hname⟩
    simp [placed?, Schema.declaration?_eq_some_iff.mpr hdeclares, hname]

def placement? (s : Schema) : Option (Schema × String) :=
  (r.placed? s).map fun node => (node, r.placement node)

theorem placements_resolve (s : Schema) :
    (r.resolve s).trace.placements = (r.placement? s).toList := by
  induction s with
  | array items ih =>
    rw [resolve, placements_bind (r.appends_resolve items) (fun item => appends_finish _ _)
      (fun item => rfl), ih]
    rfl
  | object name hint =>
    rw [resolve, placements_bind_finish (r.appends_declare _ _ _), placements_declare]
    simp only [placement?, placed?, Schema.innermost, Schema.declaration?]
    cases r.naming name <;> rfl
  | string name values hint =>
    simp only [resolve, placement?, placed?, Schema.innermost, Schema.declaration?]
    cases isPlainString name values with
    | true => rfl
    | false =>
      simp only [Bool.false_eq_true, if_false]
      rw [placements_bind_finish (r.appends_declare _ _ _), placements_declare]
      cases r.naming name <;> rfl
  | _ => rfl

end Resolver
end SchemaBinding
