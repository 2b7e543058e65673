import SchemaBinding.Proofs.Json.Fields
import SchemaBinding.Proofs.Json.Written
import Mathlib

/-! Objects as text. Main statement: what reads the members of an object from a text succeeds with
what folding over the members of the value of the text gives, provided that it reads each member as
it is decoded. Only results are compared, since the first fault of a text may be another one than
that of its value. -/
namespace SchemaBinding
namespace Json
namespace Reader

variable {α β σ : Type}

theorem run_bind_eq_ok_iff {reader : Reader α} {next : α → Reader β} {cs rest : List Char} {b : β} :
    (reader >>= next).run cs = .ok (b, rest) ↔
      ∃ a cs', reader.run cs = .ok (a, cs') ∧ (next a).run cs' = .ok (b, rest) := by
  rw [StateT.run_bind, bind_eq_ok_iff, Prod.exists]

theorem run_pure_eq_ok_iff {a b : α} {cs rest : List Char} :
    (pure a : Reader α).run cs = .ok (b, rest) ↔ b = a ∧ rest = cs := by
  simp [pure, StateT.pure, Except.pure, StateT.run, eq_comm]

theorem run_map_eq_ok_iff {reader : Reader α} {f : α → β} {cs rest : List Char} {b : β} :
    (f <$> reader).run cs = .ok (b, rest) ↔ ∃ a, reader.run cs = .ok (a, rest) ∧ b = f a := by
  rw [map_eq_pure_bind, run_bind_eq_ok_iff]
  simp only [run_pure_eq_ok_iff]
  constructor
  · rintro ⟨a, _, ha, rfl, rfl⟩
    exact ⟨a, ha, rfl⟩
  · rintro ⟨a, ha, rfl⟩
    exact ⟨a, rest, ha, rfl, rfl⟩

theorem run_throw_ne_ok {fault : Fault} {cs rest : List Char} {a : α} :
    (throw fault : Reader α).run cs ≠ .ok (a, rest) := by
  intro h
  cases h

theorem run_peek_bind (next : Option Char → Reader β) (cs : List Char) :
    (peek >>= next).run cs = (next (cs.dropWhile isGap).head?).run (cs.dropWhile isGap) :=
  rfl

theorem run_peek_bind_eq_ok_iff {c : Char} {next : Option Char → Reader α} {cs rest : List Char}
    {a : α} (h : ∀ o ds, o ≠ some c → (next o).run ds ≠ .ok (a, rest)) :
    (peek >>= next).run cs = .ok (a, rest) ↔
      ∃ ds, cs.dropWhile isGap = c :: ds ∧ (next (some c)).run (c :: ds) = .ok (a, rest) := by
  rw [run_peek_bind]
  generalize cs.dropWhile isGap = ds
  cases ds with
  | nil => simpa using h none [] (by simp)
  | cons d ds =>
    by_cases hd : d = c
    · subst hd
      simp
    · simpa [hd] using h (some d) (d :: ds) (by simpa using hd)

theorem run_drop_eq_ok_iff {c : Char} {cs rest : List Char} {u : Unit} :
    drop.run (c :: cs) = .ok (u, rest) ↔ rest = cs := by
  have hdrop : drop.run (c :: cs) = .ok ((), cs) := rfl
  simp [hdrop, eq_comm]

theorem run_wrongType_ne_ok {wanted : Wanted} {cs rest : List Char} {a : α} :
    (wrongType wanted : Reader α).run cs ≠ .ok (a, rest) := by
  intro h
  obtain ⟨found, cs', -, h⟩ := run_bind_eq_ok_iff.mp h
  cases h

theorem ofText_eq_ok_iff {reader : Reader α} {text : String} {a : α} :
    reader.ofText text = .ok a ↔
      ∃ rest, reader.run text.toList = .ok (a, rest) ∧ rest.all isGap := by
  rw [ofText, bind_eq_ok_iff, Prod.exists]
  constructor
  · rintro ⟨b, rest, hrun, h⟩
    by_cases hgap : rest.all isGap
    · simp only [hgap, if_true] at h
      cases h
      exact ⟨rest, hrun, hgap⟩
    · simp only [hgap] at h
      cases h
  · rintro ⟨rest, hrun, hgap⟩
    refine ⟨a, rest, hrun, ?_⟩
    simp only [hgap, if_true]
    rfl

theorem run_more_false_iff {first : Bool} {cs cs' : List Char} :
    (more '}' first).run cs = .ok (false, cs') ↔
      ∃ ds, cs.dropWhile isGap = '}' :: ds ∧ cs' = '}' :: ds := by
  rw [more, run_peek_bind]
  generalize cs.dropWhile isGap = ds
  cases ds with
  | nil => simpa using run_throw_ne_ok
  | cons c ds =>
    by_cases hc : c = '}'
    · simp only [List.head?_cons, hc, if_true, run_pure_eq_ok_iff, List.cons.injEq, true_and]
      simp
    · refine iff_of_false ?_ (by simp [hc])
      simp only [List.head?_cons, hc, if_false]
      intro h
      split at h
      · cases (run_pure_eq_ok_iff.mp h).1
      split at h
      · -- A comma promises another member.
        obtain ⟨_, _, -, h⟩ := run_bind_eq_ok_iff.mp h
        obtain ⟨next, _, -, h⟩ := run_bind_eq_ok_iff.mp h
        cases next with
        | none => exact run_throw_ne_ok h
        | some d =>
          by_cases hd : d = '}'
          · simp only [hd, if_true] at h
            exact run_throw_ne_ok h
          · simp only [hd, if_false] at h
            cases (run_pure_eq_ok_iff.mp h).1
      · exact run_throw_ne_ok h

/-- The members in a text, behind the opening brace or behind another member, up to the closing
brace. -/
inductive HasMembers (room : Nat) : Bool → List Char → List (String × Json) → List Char → Prop
  | done {first : Bool} {cs rest : List Char} (hclose : cs.dropWhile isGap = '}' :: rest) :
      HasMembers room first cs [] rest
  | member {first : Bool} {cs cs₁ cs₂ cs₃ rest : List Char} {k : String} {v : Json}
      {ms : List (String × Json)} (hmore : (more '}' first).run cs = .ok (true, cs₁))
      (hname : (name .full).run cs₁ = .ok (k, cs₂))
      (hvalue : (colon *> value .full room).run cs₂ = .ok (v, cs₃))
      (hrest : HasMembers room false cs₃ ms rest) :
      HasMembers room first cs ((k, v) :: ms) rest

/-- A reader gives what is decoded from the values that `values` takes from a text. -/
def Follows (values : Reader Json) (reader : Reader α) (decode : Json → Except Fault α) : Prop :=
  ∀ cs a rest, reader.run cs = .ok (a, rest) ↔
    ∃ v, values.run cs = .ok (v, rest) ∧ decode v = .ok a

/-- A step takes from the value of a member what `f` takes from the member. -/
def FollowsMembers (room : Nat) (step : σ → String → Reader σ)
    (f : σ → String × Json → Except Fault σ) : Prop :=
  ∀ s k, Follows (colon *> value .full room) (step s k) fun v => f s (k, v)

section

variable {room : Nat} {step : σ → String → Reader σ} {f : σ → String × Json → Except Fault σ}
  {s s' : σ} {cs rest : List Char}

theorem run_foldMembers_eq_ok_iff (h : FollowsMembers room step f) {n : Nat} {first : Bool} :
    (foldMembers .full step n first s).run cs = .ok (s', rest) ↔
      ∃ ms, ms.length < n ∧ HasMembers room first cs ms rest ∧ ms.foldlM f s = .ok s' := by
  -- On the bound, with which the members run out; state and text are those behind each member.
  induction n generalizing first s cs with
  | zero =>
    refine ⟨fun hrun => absurd hrun run_throw_ne_ok, ?_⟩
    rintro ⟨ms, hms, -⟩
    cases hms
  | succ n ih =>
    rw [foldMembers, run_bind_eq_ok_iff]
    constructor
    · rintro ⟨b, cs₁, hmore, hrun⟩
      cases b with
      | false =>
        obtain ⟨ds, hcs, rfl⟩ := run_more_false_iff.mp hmore
        cases hrun
        exact ⟨[], n.succ_pos, .done hcs, rfl⟩
      | true =>
        simp only [if_true, run_bind_eq_ok_iff] at hrun
        obtain ⟨k, cs₂, hname, s₁, cs₃, hstep, hrun⟩ := hrun
        obtain ⟨v, hvalue, hf : f s (k, v) = .ok s₁⟩ := (h _ _ _ _ _).mp hstep
        obtain ⟨ms, hlength, hms, hfold⟩ := ih.mp hrun
        refine ⟨(k, v) :: ms, Nat.succ_lt_succ hlength, .member hmore hname hvalue hms, ?_⟩
        rw [List.foldlM_cons, hf]
        exact hfold
    · rintro ⟨ms, hlength, hms, hfold⟩
      cases hms with
      | done hclose =>
        cases hfold
        exact ⟨false, _, run_more_false_iff.mpr ⟨rest, hclose, rfl⟩, rfl⟩
      | member hmore hname hvalue hms =>
        rw [List.foldlM_cons, bind_eq_ok_iff] at hfold
        obtain ⟨s₁, hf, hfold⟩ := hfold
        refine ⟨true, _, hmore, ?_⟩
        simp only [if_true, run_bind_eq_ok_iff]
        exact ⟨_, _, hname, s₁, _, (h _ _ _ _ _).mpr ⟨_, hvalue, hf⟩,
          ih.mpr ⟨_, Nat.lt_of_succ_lt_succ hlength, hms, hfold⟩⟩

theorem run_members_eq_ok_iff (h : FollowsMembers room step f) :
    (members .full step s).run cs = .ok (s', rest) ↔
      ∃ ms, ms.length < cs.length + 1 ∧ HasMembers room true cs ms rest ∧
        ms.foldlM f s = .ok s' :=
  run_foldMembers_eq_ok_iff h

theorem follows_colon_value (room : Nat) (keep : Json → α) :
    Follows (colon *> value .full room)
      (do
        colon
        return keep (← value .full room))
      fun v => .ok (keep v) := by
  intro cs a rest
  have hkeep : (do
      colon
      return keep (← value .full room)) = keep <$> (colon *> value .full room) := by
    simp [seqRight_eq_bind]
  simp only [hkeep, run_map_eq_ok_iff, Except.ok.injEq, @eq_comm _ a]

theorem followsMembers_value (room : Nat) :
    FollowsMembers room
      (fun ms k => do
        colon
        return (k, ← value .full room) :: ms)
      (fun ms m => .ok (m :: ms)) :=
  fun ms k => follows_colon_value room fun v => (k, v) :: ms

theorem foldlM_reverse {α : Type} (as bs : List α) :
    as.foldlM (fun bs a => (.ok (a :: bs) : Except Fault (List α))) bs =
      .ok (as.reverse ++ bs) := by
  induction as generalizing bs with
  | nil => rfl
  | cons a as ih =>
    rw [List.foldlM_cons, List.reverse_cons, List.append_assoc]
    exact ih (a :: bs)

end

section

variable {room : Nat} {cs rest : List Char}

/-- What null, strings and objects begin with. -/
def opening? : Json → Option Char
  | .null => some 'n'
  | .string _ => some '"'
  | .object _ => some '{'
  | _ => none

theorem dropWhile_of_run_value {v : Json} {c : Char} (hv : opening? v = some c)
    (h : (value .full (room + 1)).run cs = .ok (v, rest)) :
    ∃ ds, cs.dropWhile isGap = c :: ds := by
  change (valueOver .full (room + 1) (value .full room)).run cs = _ at h
  rw [valueOver, run_peek_bind] at h
  generalize cs.dropWhile isGap = ds at h
  cases ds with
  | nil => exact absurd h run_throw_ne_ok
  | cons d ds =>
    simp only [List.head?_cons] at h
    refine ⟨ds, ?_⟩
    -- Each branch makes a value of one kind, and begins with one character.
    simp only [descend, Nat.succ_ne_zero, if_false, seqRight_eq_bind] at h
    split at h
    case h_1 hd => cases hd
    case h_2 hd | h_3 hd | h_4 hd | h_5 hd =>
      obtain ⟨_, _, -, h⟩ := run_bind_eq_ok_iff.mp h
      obtain ⟨rfl, -⟩ := run_pure_eq_ok_iff.mp h
      cases hv <;> cases hd <;> rfl
    case h_6 hd | h_7 hd =>
      obtain ⟨_, _, -, h⟩ := run_bind_eq_ok_iff.mp h
      obtain ⟨_, _, -, h⟩ := run_bind_eq_ok_iff.mp h
      obtain ⟨rfl, -⟩ := run_pure_eq_ok_iff.mp h
      cases hv <;> cases hd <;> rfl
    case h_8 =>
      split at h
      · obtain ⟨_, _, -, h⟩ := run_bind_eq_ok_iff.mp h
        obtain ⟨rfl, -⟩ := run_pure_eq_ok_iff.mp h
        cases hv
      · exact absurd h run_throw_ne_ok

theorem run_value_iff {v : Json} {c : Char} (hv : opening? v = some c) {p : List Char → Prop}
    (h : ∀ cs', cs.dropWhile isGap = c :: cs' →
      ((value .full (room + 1)).run cs = .ok (v, rest) ↔ p cs')) :
    (value .full (room + 1)).run cs = .ok (v, rest) ↔
      ∃ cs', cs.dropWhile isGap = c :: cs' ∧ p cs' := by
  constructor
  · intro hrun
    obtain ⟨cs', hcs⟩ := dropWhile_of_run_value hv hrun
    exact ⟨cs', hcs, (h cs' hcs).mp hrun⟩
  · rintro ⟨cs', hcs, hp⟩
    exact (h cs' hcs).mpr hp

/-- A text holds an object exactly if it has an opening brace and the members behind that. -/
theorem run_value_object_iff {ms : List (String × Json)} :
    (value .full (room + 1)).run cs = .ok (.object ms, rest) ↔
      ∃ cs', cs.dropWhile isGap = '{' :: cs' ∧ ms.length < cs'.length + 1 ∧
        HasMembers room true cs' ms rest := by
  refine run_value_iff rfl fun cs' hcs => ?_
  have hrun : (value .full (room + 1)).run cs =
      ((fun ms => Json.object ms.reverse) <$> members .full (fun ms k => do
        colon
        return (k, ← value .full room) :: ms) []).run cs' := by
    show (valueOver .full (room + 1) (value .full room)).run cs = _
    rw [valueOver, run_peek_bind, hcs]
    rfl
  rw [hrun, run_map_eq_ok_iff]
  simp only [run_members_eq_ok_iff (followsMembers_value room), foldlM_reverse, List.append_nil]
  constructor
  · rintro ⟨_, ⟨ms', hlength, hms, hfold⟩, hreverse⟩
    cases hfold
    rw [List.reverse_reverse] at hreverse
    cases hreverse
    exact ⟨hlength, hms⟩
  · rintro ⟨hlength, hms⟩
    exact ⟨_, ⟨ms, hlength, hms, rfl⟩, by rw [List.reverse_reverse]⟩

theorem run_value_string_iff {s : String} :
    (value .full (room + 1)).run cs = .ok (.string s, rest) ↔
      ∃ cs', cs.dropWhile isGap = '"' :: cs' ∧ (string .full).run ('"' :: cs') = .ok (s, rest) := by
  refine run_value_iff rfl fun cs' hcs => ?_
  have hrun : (value .full (room + 1)).run cs =
      (Json.string <$> string .full).run ('"' :: cs') := by
    show (valueOver .full (room + 1) (value .full room)).run cs = _
    rw [valueOver, run_peek_bind, hcs]
    rfl
  rw [hrun, run_map_eq_ok_iff]
  simp

theorem run_value_null_iff :
    (value .full (room + 1)).run cs = .ok (.null, rest) ↔
      ∃ cs', cs.dropWhile isGap = 'n' :: cs' ∧
        (word "null".toList).run ('n' :: cs') = .ok ((), rest) := by
  refine run_value_iff rfl fun cs' hcs => ?_
  have hrun : (value .full (room + 1)).run cs =
      ((fun _ => Json.null) <$> word "null".toList).run ('n' :: cs') := by
    show (valueOver .full (room + 1) (value .full room)).run cs = _
    rw [valueOver, run_peek_bind, hcs]
    rfl
  rw [hrun, run_map_eq_ok_iff]
  constructor
  · rintro ⟨_, h, -⟩
    exact h
  · exact fun h => ⟨(), h, rfl⟩

theorem Follows.colon {values : Reader Json} {reader : Reader α} {decode : Json → Except Fault α}
    (h : Follows values reader decode) : Follows (colon *> values) (colon *> reader) decode := by
  intro cs a rest
  simp only [seqRight_eq_bind, run_bind_eq_ok_iff, h _ a rest]
  constructor
  · rintro ⟨u, cs', hcolon, v, hv, hdecode⟩
    exact ⟨v, ⟨u, cs', hcolon, hv⟩, hdecode⟩
  · rintro ⟨v, ⟨u, cs', hcolon, hv⟩, hdecode⟩
    exact ⟨u, cs', hcolon, v, hv, hdecode⟩

theorem Follows.bind {values : Reader Json} {reader : Reader α} {decode : Json → Except Fault α}
    {next : α → Reader β} {f : α → Except Fault β} (h : Follows values reader decode)
    (hnext : ∀ a, (next a).Takes [] (f a)) :
    Follows values (reader >>= next) fun v => decode v >>= f := by
  intro cs b rest
  simp only [run_bind_eq_ok_iff, bind_eq_ok_iff, (hnext _).run_eq_ok_iff]
  constructor
  · rintro ⟨a, cs', ha, hb, rfl⟩
    obtain ⟨v, hv, hdecode⟩ := (h _ _ _).mp ha
    exact ⟨v, hv, a, hdecode, hb⟩
  · rintro ⟨v, hv, a, hdecode, hb⟩
    exact ⟨a, rest, (h _ _ _).mpr ⟨v, hv, hdecode⟩, hb, rfl⟩

theorem follows_asString (room : Nat) (wanted : Wanted) :
    Follows (value .full (room + 1)) (asString wanted) (Json.asString wanted) := by
  intro cs s rest
  simp only [asString_eq_ok_iff, exists_eq_right, run_value_string_iff]
  refine run_peek_bind_eq_ok_iff fun o ds ho => ?_
  split
  · exact absurd rfl ho
  · exact run_wrongType_ne_ok

theorem follows_asUnit (room : Nat) : Follows (value .full (room + 1)) asUnit Json.asUnit := by
  intro cs u rest
  simp only [asUnit_eq_ok_iff, exists_eq_right, run_value_null_iff]
  refine run_peek_bind_eq_ok_iff fun o ds ho => ?_
  split
  · exact absurd rfl ho
  · exact run_wrongType_ne_ok

theorem follows_throw (values : Reader Json) (fault fault' : Fault) :
    Follows values (throw fault : Reader α) fun _ => .error fault' := by
  intro cs a rest
  refine ⟨fun hrun => absurd hrun run_throw_ne_ok, ?_⟩
  rintro ⟨v, -, hthrow⟩
  cases hthrow

/-- The slot of a field takes a value from a text as it takes the value itself. -/
theorem Follows.once {values : Reader Json} {reader : Reader α} {decode : Json → Except Fault α}
    (h : Follows values reader decode) (name : String) (slot : Option α) :
    Follows values (Json.once name slot reader) fun v => Json.once name slot (decode v) := by
  cases slot with
  | none =>
    intro cs b rest
    simp only [Json.once, run_map_eq_ok_iff, map_eq_ok_iff]
    constructor
    · rintro ⟨a, ha, rfl⟩
      obtain ⟨v, hv, hdecode⟩ := (h _ _ _).mp ha
      exact ⟨v, hv, a, hdecode, rfl⟩
    · rintro ⟨v, hv, a, hdecode, rfl⟩
      exact ⟨a, (h _ _ _).mpr ⟨v, hv, hdecode⟩, rfl⟩
  | some a => exact follows_throw values _ _

/-! A variant may be an object of one member. -/

theorem run_name_iff {k : String} :
    (name .full).run cs = .ok (k, rest) ↔
      ∃ ds, cs.dropWhile isGap = '"' :: ds ∧ (string .full).run ('"' :: ds) = .ok (k, rest) := by
  refine run_peek_bind_eq_ok_iff fun o ds ho => ?_
  split
  · exact run_throw_ne_ok
  · exact absurd rfl ho
  · exact run_throw_ne_ok

theorem length_pos_of_run_name {k : String} (h : (name .full).run cs = .ok (k, rest)) :
    0 < cs.length := by
  obtain ⟨ds, hcs, -⟩ := run_name_iff.mp h
  cases cs with
  | nil => cases hcs
  | cons c cs => exact Nat.succ_pos _

theorem run_close_iff {u : Unit} :
    (close '}').run cs = .ok (u, rest) ↔ cs.dropWhile isGap = '}' :: rest := by
  have hpeek : (close '}').run cs = .ok (u, rest) ↔
      ∃ ds, cs.dropWhile isGap = '}' :: ds ∧ drop.run ('}' :: ds) = .ok (u, rest) := by
    refine run_peek_bind_eq_ok_iff fun o ds ho => ?_
    split
    · exact run_throw_ne_ok
    · rename_i c
      rw [if_neg fun h => ho (by rw [h])]
      exact run_throw_ne_ok
  rw [hpeek]
  simp [run_drop_eq_ok_iff]

theorem eq_dropWhile_of_run_more_true {b : Bool} {cs' : List Char}
    (h : (more '}' true).run cs = .ok (b, cs')) : cs' = cs.dropWhile isGap := by
  rw [more, run_peek_bind] at h
  split at h
  · exact absurd h run_throw_ne_ok
  · split at h
    · exact (run_pure_eq_ok_iff.mp h).2
    · exact (run_pure_eq_ok_iff.mp h).2

theorem hasMembers_singleton_iff {k : String} {v : Json} :
    HasMembers room true cs [(k, v)] rest ↔ ∃ cs₁ cs₂, (name .full).run cs = .ok (k, cs₁) ∧
      (colon *> value .full room).run cs₁ = .ok (v, cs₂) ∧
        (close '}').run cs₂ = .ok ((), rest) := by
  constructor
  · intro h
    cases h with
    | member hmore hname hvalue hrest =>
      cases hrest with
      | done hclose =>
        refine ⟨_, _, ?_, hvalue, run_close_iff.mpr hclose⟩
        rwa [eq_dropWhile_of_run_more_true hmore, run_name_iff, List.dropWhile_idempotent,
          ← run_name_iff] at hname
  · rintro ⟨cs₁, cs₂, hname, hvalue, hclose⟩
    obtain ⟨ds, hcs, hstring⟩ := run_name_iff.mp hname
    have hmore : (more '}' true).run cs = .ok (true, '"' :: ds) := by
      rw [more, run_peek_bind, hcs]
      rfl
    refine .member hmore (run_name_iff.mpr ⟨ds, rfl, hstring⟩) hvalue ?_
    exact .done (run_close_iff.mp hclose)

theorem run_asUnit_iff (room : Nat) {u : Unit} :
    asUnit.run cs = .ok (u, rest) ↔ (value .full (room + 1)).run cs = .ok (.null, rest) := by
  rw [follows_asUnit room cs u rest]
  simp [asUnit_eq_ok_iff]

theorem follows_asLabel [Labelled α] [LawfulLabelled α] (room : Nat) :
    Follows (value .full (room + 2)) (asLabel (α := α) (room + 2)) Json.asLabel := by
  intro cs a rest
  simp only [asLabel_eq_ok_iff, and_or_left, exists_or, exists_eq_right, run_value_string_iff,
    run_value_object_iff, hasMembers_singleton_iff]
  rw [asLabel, asVariant, run_peek_bind]
  generalize cs.dropWhile isGap = ds
  cases ds with
  | nil => simpa using run_throw_ne_ok
  | cons c ds =>
    -- The first character tells which of the two ways to write a label it is.
    have hvariant : ∀ {name : String} {cs rest : List Char} {b : α},
        (variantNamed name : Reader α).run cs = .ok (b, rest) ↔
          name = Labelled.label b ∧ rest = cs := by
      intro name cs rest b
      rw [(takes_variantNamed name).run_eq_ok_iff, variantNamed_eq_ok_iff]
    simp only [List.head?_cons]
    split
    case h_1 hc => cases hc
    case h_2 hc =>
      cases hc
      simp only [run_bind_eq_ok_iff, hvariant, run_pure_eq_ok_iff]
      simp
    case h_3 hc =>
      cases hc
      simp only [descend, Nat.succ_ne_zero, if_false, seqRight_eq_bind, run_bind_eq_ok_iff,
        run_drop_eq_ok_iff, run_asUnit_iff room, hvariant, run_pure_eq_ok_iff]
      constructor
      · rintro ⟨_, _, rfl, _, _, hname, _, _, ⟨rfl, rfl⟩, u, cs₂, hcolon, _, _,
          ⟨_, _, hnull, rfl, rfl⟩, _, _, hclose, rfl, rfl⟩
        exact Or.inr ⟨_, rfl, Nat.succ_lt_succ (length_pos_of_run_name hname), _, _, hname,
          ⟨u, cs₂, hcolon, hnull⟩, hclose⟩
      · rintro (⟨_, hds, -⟩ | ⟨_, hds, -, cs₁, cs₃, hname, ⟨u, cs₂, hcolon, hnull⟩, hclose⟩)
        · cases hds
        · cases hds
          exact ⟨(), _, rfl, _, cs₁, hname, a, _, ⟨rfl, rfl⟩, u, cs₂, hcolon, a, cs₃,
            ⟨(), _, hnull, rfl, rfl⟩, (), _, hclose, rfl, rfl⟩
    case h_4 c' hquote hbrace hc =>
      cases hc
      have hquote : c ≠ '"' := hquote
      have hbrace : c ≠ '{' := hbrace
      simpa [hquote, hbrace] using run_throw_ne_ok

end

theorem Follows.ofText_eq_ok_iff {room : Nat} {reader : Reader α} {decode : Json → Except Fault α}
    (h : Follows (value .full room) reader decode) {text : String} {v : Json}
    (htext : (value .full room).ofText text = .ok v) {a : α} :
    reader.ofText text = .ok a ↔ decode v = .ok a := by
  obtain ⟨rest, hrun, hgap⟩ := Reader.ofText_eq_ok_iff.mp htext
  rw [Reader.ofText_eq_ok_iff]
  constructor
  · rintro ⟨rest', ha, -⟩
    obtain ⟨w, hw, hdecode⟩ := (h _ _ _).mp ha
    rw [hrun] at hw
    cases hw
    exact hdecode
  · intro hdecode
    exact ⟨rest, (h _ _ _).mpr ⟨v, hrun, hdecode⟩, hgap⟩

/-- A text that holds an object is read by its members, one by one. -/
theorem ofText_object_eq_ok_iff {room : Nat} {step : σ → String → Reader σ}
    {f : σ → String × Json → Except Fault σ} (hstep : FollowsMembers room step f) {s : σ}
    {finish : σ → Reader α} {decode : σ → Except Fault α}
    (hfinish : ∀ s, (finish s).Takes [] (decode s))
    {reader : Reader α} (hreader : ∀ cs cs', cs.dropWhile isGap = '{' :: cs' →
      reader.run cs = (members .full step s >>= finish).run cs')
    {text : String} {ms : List (String × Json)}
    (htext : (value .full (room + 1)).ofText text = .ok (.object ms)) {a : α} :
    reader.ofText text = .ok a ↔ ms.foldlM f s >>= decode = .ok a := by
  obtain ⟨rest, hrun, hgap⟩ := ofText_eq_ok_iff.mp htext
  obtain ⟨cs, hcs, hlength, hms⟩ := run_value_object_iff.mp hrun
  rw [ofText_eq_ok_iff, bind_eq_ok_iff]
  simp only [hreader _ _ hcs, run_bind_eq_ok_iff, run_members_eq_ok_iff hstep,
    (hfinish _).run_eq_ok_iff]
  constructor
  · rintro ⟨rest', ⟨s', _, ⟨ms', hlength', hms', hfold⟩, hdecode, rfl⟩, -⟩
    -- The same text has no other members.
    have hsame := run_value_object_iff.mpr ⟨cs, hcs, hlength', hms'⟩
    rw [hrun] at hsame
    cases hsame
    exact ⟨s', hfold, hdecode⟩
  · rintro ⟨s', hfold, hdecode⟩
    exact ⟨rest, ⟨s', rest, ⟨ms, hlength, hms, hfold⟩, hdecode, rfl⟩, hgap⟩

end Reader
end Json
end SchemaBinding
