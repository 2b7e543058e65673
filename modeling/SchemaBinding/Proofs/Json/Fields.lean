import SchemaBinding.Json.Decode

/-! Fields among members. Main statement: filling the slot of a field succeeds exactly if at most
one member has the name of the field and its value is decoded, so that neither the order of the
members counts nor what stands under other names. -/
namespace SchemaBinding
namespace Json

@[simp] theorem throw_ne_ok {α : Type} {fault : Fault} {a : α} :
    (throw fault : Except Fault α) ≠ .ok a := by
  simp [throw, throwThe, MonadExceptOf.throw]

@[simp] theorem pure_eq_ok_iff {α : Type} {a b : α} :
    (pure a : Except Fault α) = .ok b ↔ b = a := by
  simp [pure, Except.pure, eq_comm]

theorem bind_eq_ok_iff {α β : Type} {x : Except Fault α} {f : α → Except Fault β} {b : β} :
    x >>= f = .ok b ↔ ∃ a, x = .ok a ∧ f a = .ok b := by
  cases x <;> simp [bind, Except.bind]

theorem map_eq_ok_iff {α β : Type} {x : Except Fault α} {f : α → β} {b : β} :
    f <$> x = .ok b ↔ ∃ a, x = .ok a ∧ b = f a := by
  cases x <;> simp [Functor.map, Except.map, eq_comm]

section

variable {α : Type} {v : Json}

theorem asString_eq_ok_iff {wanted : Wanted} {s : String} :
    v.asString wanted = .ok s ↔ v = .string s := by
  cases v <;> simp [asString, refuse]

theorem asUnit_eq_ok_iff {u : Unit} : v.asUnit = .ok u ↔ v = .null := by
  cases v <;> simp [asUnit, refuse]

theorem variantNamed_eq_ok_iff [Labelled α] [LawfulLabelled α] {name : String} {a : α} :
    (variantNamed name : Except Fault α) = .ok a ↔ name = Labelled.label a := by
  rw [← Labelled.ofLabel?_eq_some_iff]
  unfold variantNamed
  cases Labelled.ofLabel? α name with
  | none => simp
  | some b => rw [pure_eq_ok_iff, Option.some.injEq, eq_comm]

theorem asLabel_eq_ok_iff [Labelled α] [LawfulLabelled α] {a : α} :
    v.asLabel = .ok a ↔
      v = .string (Labelled.label a) ∨ v = .object [(Labelled.label a, .null)] := by
  unfold asLabel asVariant
  split
  case h_1 name => simp [variantNamed_eq_ok_iff]
  case h_2 name w =>
    simp only [bind_eq_ok_iff, variantNamed_eq_ok_iff, asUnit_eq_ok_iff, reduceCtorEq, false_or,
      Json.object.injEq, List.cons.injEq, Prod.mk.injEq, and_true]
    constructor
    · rintro ⟨b, rfl, _, rfl, hb⟩
      cases hb
      exact ⟨rfl, rfl⟩
    · rintro ⟨rfl, rfl⟩
      exact ⟨a, rfl, (), rfl, rfl⟩
  case h_3 ms hms =>
    have hne : ms ≠ [(Labelled.label a, .null)] := fun h => hms _ _ h
    simp [hne]
  case h_4 hstring _ hobject =>
    have hne : v ≠ .object [(Labelled.label a, .null)] := fun h => hobject _ h
    have hne' : v ≠ .string (Labelled.label a) := fun h => hstring _ h
    simp [hne, hne', refuse]

theorem required_eq_ok_iff {name : String} {slot : Option α} {a : α} :
    (required name slot : Except Fault α) = .ok a ↔ slot = some a := by
  cases slot with
  | none => simp [required]
  | some b => rw [required, pure_eq_ok_iff, Option.some.injEq, eq_comm]

end

/-- The values of all members of a name, in their order. -/
def valuesOf (name : String) (ms : List (String × Json)) : List Json :=
  (ms.filter fun m => m.1 == name).map Prod.snd

section

variable {name : String} {v : Json} {m : String × Json} {ms ms' : List (String × Json)}

@[simp] theorem valuesOf_nil : valuesOf name [] = [] := rfl

theorem valuesOf_cons (name : String) (m : String × Json) (ms : List (String × Json)) :
    valuesOf name (m :: ms) = if m.1 = name then m.2 :: valuesOf name ms else valuesOf name ms := by
  rw [valuesOf, List.filter_cons]
  by_cases h : m.1 = name <;> simp [h, valuesOf]

theorem valuesOf_cons_of_ne (h : m.1 ≠ name) : valuesOf name (m :: ms) = valuesOf name ms := by
  rw [valuesOf_cons, if_neg h]

theorem valuesOf_append (name : String) (ms ms' : List (String × Json)) :
    valuesOf name (ms ++ ms') = valuesOf name ms ++ valuesOf name ms' := by
  simp [valuesOf]

theorem valuesOf_perm (h : ms.Perm ms') (name : String) :
    (valuesOf name ms).Perm (valuesOf name ms') :=
  (h.filter _).map _

theorem mem_valuesOf_iff : v ∈ valuesOf name ms ↔ (name, v) ∈ ms := by
  simp [valuesOf]

theorem valuesOf_eq_nil_iff : valuesOf name ms = [] ↔ name ∉ ms.map Prod.fst := by
  simp only [List.eq_nil_iff_forall_not_mem, mem_valuesOf_iff, List.mem_map]
  constructor
  · rintro h ⟨m, hm, rfl⟩
    exact h m.2 hm
  · exact fun h v hv => h ⟨_, hv, rfl⟩

theorem valuesOf_of_nodup (h : (ms.map Prod.fst).Nodup) (name : String) :
    valuesOf name ms = (ms.lookup name).toList := by
  induction ms with
  | nil => rfl
  | cons m ms ih =>
    obtain ⟨hm, hms⟩ := List.nodup_cons.mp h
    obtain ⟨key, v⟩ := m
    rw [valuesOf_cons, List.lookup_cons]
    by_cases hkey : key = name
    · subst hkey
      simp [valuesOf_eq_nil_iff.mpr hm]
    · simp [hkey, ih hms, beq_eq_false_iff_ne.mpr (Ne.symm hkey)]

theorem lookup_eq_some_iff_of_nodup (h : (ms.map Prod.fst).Nodup) :
    ms.lookup name = some v ↔ (name, v) ∈ ms := by
  rw [← mem_valuesOf_iff, valuesOf_of_nodup h, Option.mem_toList]

end

section

variable {α : Type} {decode : Json → Except Fault α} {name : String} {vs vs' : List Json}
  {slot slot' : Option α} {a : α} {ms : List (String × Json)}

/-- What the slot of a field holds after these values: nothing without one, and with several there
is no such slot. -/
inductive Fills (decode : Json → Except Fault α) : List Json → Option α → Prop
  | absent : Fills decode [] none
  | present {v : Json} {a : α} (h : decode v = .ok a) : Fills decode [v] (some a)

@[simp] theorem fills_nil_iff : Fills decode [] slot ↔ slot = none := by
  constructor
  · rintro ⟨⟩
    rfl
  · rintro rfl
    exact .absent

@[simp] theorem fills_singleton_iff {v : Json} :
    Fills decode [v] slot ↔ ∃ a, decode v = .ok a ∧ slot = some a := by
  constructor
  · rintro ⟨⟩
    exact ⟨_, ‹_›, rfl⟩
  · rintro ⟨a, h, rfl⟩
    exact .present h

theorem Fills.unique (h : Fills decode vs slot) (h' : Fills decode vs slot') : slot = slot' := by
  cases h with
  | absent =>
    cases h'
    rfl
  | present ha =>
    cases h' with
    | present ha' =>
      rw [ha] at ha'
      cases ha'
      rfl

theorem Fills.perm (h : Fills decode vs slot) (hvs : vs.Perm vs') : Fills decode vs' slot := by
  cases h with
  | absent =>
    rw [List.nil_perm.mp hvs]
    exact .absent
  | present h =>
    rw [← List.singleton_perm.mp hvs]
    exact .present h

theorem fills_congr_perm (hvs : vs.Perm vs') : Fills decode vs slot ↔ Fills decode vs' slot :=
  ⟨fun h => h.perm hvs, fun h => h.perm hvs.symm⟩

theorem fills_valuesOf_iff (h : (ms.map Prod.fst).Nodup) :
    Fills decode (valuesOf name ms) slot ↔ (∀ v, (name, v) ∈ ms → ∃ a, decode v = .ok a) ∧
      ∀ a, slot = some a ↔ ∃ v, (name, v) ∈ ms ∧ decode v = .ok a := by
  simp only [valuesOf_of_nodup h, ← lookup_eq_some_iff_of_nodup h]
  cases ms.lookup name with
  | none => simp [Option.eq_none_iff_forall_ne_some]
  | some v =>
    simp only [Option.toList_some, fills_singleton_iff, Option.some.injEq, forall_eq',
      exists_eq_left']
    constructor
    · rintro ⟨a, ha, rfl⟩
      exact ⟨⟨a, ha⟩, fun b => by simp [ha]⟩
    · rintro ⟨⟨a, ha⟩, hslot⟩
      exact ⟨a, ha, (hslot a).mpr ha⟩

theorem exists_fills_valuesOf (h : (ms.map Prod.fst).Nodup)
    (hdecode : ∀ v, (name, v) ∈ ms → ∃ a, decode v = .ok a) :
    ∃ slot, Fills decode (valuesOf name ms) slot := by
  simp only [← lookup_eq_some_iff_of_nodup h] at hdecode
  rw [valuesOf_of_nodup h]
  cases hlookup : ms.lookup name with
  | none => exact ⟨none, .absent⟩
  | some v =>
    obtain ⟨a, ha⟩ := hdecode v hlookup
    exact ⟨some a, .present ha⟩

theorem Fills.replace {before after : List Json} {v w : Json}
    (hvw : ∀ a, decode v = .ok a → decode w = .ok a)
    (h : Fills decode (before ++ v :: after) slot) : Fills decode (before ++ w :: after) slot := by
  generalize hvs : before ++ v :: after = vs at h
  cases h with
  | absent => simp at hvs
  | present hdecode =>
    obtain ⟨rfl, hv, rfl⟩ : before = [] ∧ v = _ ∧ after = [] := by
      simpa [List.append_eq_singleton_iff] using hvs
    subst hv
    exact .present (hvw _ hdecode)

/-- A step for the slot of a field. Members of other names are passed over. -/
def fill (decode : Json → Except Fault α) (name : String) (slot : Option α) (m : String × Json) :
    Except Fault (Option α) :=
  if m.1 == name then once name slot (decode m.2) else pure slot

theorem fill_of_ne {m : String × Json} (h : m.1 ≠ name) : fill decode name slot m = .ok slot := by
  rw [fill, if_neg (by simpa using h)]
  rfl

theorem fill_self_eq_ok_iff {v : Json} :
    fill decode name slot (name, v) = .ok slot' ↔
      slot = none ∧ ∃ a, decode v = .ok a ∧ slot' = some a := by
  rw [fill, if_pos (beq_self_eq_true name)]
  cases slot with
  | none => simp only [once, map_eq_ok_iff, true_and]
  | some a => simp [once]

theorem foldlM_fill_some_eq_ok_iff :
    ms.foldlM (fill decode name) (some a) = .ok slot ↔ valuesOf name ms = [] ∧ slot = some a := by
  induction ms with
  | nil => simp
  | cons m ms ih =>
    obtain ⟨key, v⟩ := m
    rw [List.foldlM_cons, bind_eq_ok_iff, valuesOf_cons]
    by_cases hkey : key = name
    · subst hkey
      simp [fill_self_eq_ok_iff]
    · simp [fill_of_ne (m := (key, v)) hkey, hkey, ih]

theorem foldlM_fill_eq_ok_iff :
    ms.foldlM (fill decode name) none = .ok slot ↔ Fills decode (valuesOf name ms) slot := by
  induction ms with
  | nil => simp
  | cons m ms ih =>
    obtain ⟨key, v⟩ := m
    rw [List.foldlM_cons, bind_eq_ok_iff, valuesOf_cons]
    by_cases hkey : key = name
    · subst hkey
      simp only [fill_self_eq_ok_iff, true_and, if_true]
      constructor
      · rintro ⟨_, ⟨a, ha, rfl⟩, hrest⟩
        obtain ⟨hnone, rfl⟩ := foldlM_fill_some_eq_ok_iff.mp hrest
        rw [hnone]
        exact .present ha
      · generalize hvs : v :: valuesOf key ms = vs
        intro h
        cases h with
        | absent => cases hvs
        | present ha =>
          obtain ⟨rfl, hnone⟩ := List.cons.inj hvs
          exact ⟨_, ⟨_, ha, rfl⟩, foldlM_fill_some_eq_ok_iff.mpr ⟨hnone, rfl⟩⟩
    · simp [fill_of_ne (m := (key, v)) hkey, hkey, ih]

end

/-- A record of three parts that are folded side by side, of what passes a test. -/
theorem foldlM_record_eq_ok_iff {α β γ σ ι : Type} {record : α → β → γ → σ}
    {step : σ → ι → Except Fault σ} {f : α → ι → Except Fault α} {g : β → ι → Except Fault β}
    {k : γ → ι → Except Fault γ} {p : ι → Prop}
    (hstep : ∀ a b c i s, step (record a b c) i = .ok s ↔ p i ∧ ∃ a' b' c',
      f a i = .ok a' ∧ g b i = .ok b' ∧ k c i = .ok c' ∧ s = record a' b' c')
    (is : List ι) (a : α) (b : β) (c : γ) (s : σ) :
    is.foldlM step (record a b c) = .ok s ↔ (∀ i ∈ is, p i) ∧ ∃ a' b' c',
      is.foldlM f a = .ok a' ∧ is.foldlM g b = .ok b' ∧ is.foldlM k c = .ok c' ∧
        s = record a' b' c' := by
  induction is generalizing a b c with
  | nil => simp
  | cons i is ih =>
    simp only [List.foldlM_cons, bind_eq_ok_iff, hstep, List.forall_mem_cons]
    constructor
    · rintro ⟨_, ⟨hp, a₁, b₁, c₁, ha, hb, hc, rfl⟩, hrest⟩
      obtain ⟨hps, a', b', c', ha', hb', hc', rfl⟩ := (ih a₁ b₁ c₁).mp hrest
      exact ⟨⟨hp, hps⟩, a', b', c', ⟨a₁, ha, ha'⟩, ⟨b₁, hb, hb'⟩, ⟨c₁, hc, hc'⟩, rfl⟩
    · rintro ⟨⟨hp, hps⟩, a', b', c', ⟨a₁, ha, ha'⟩, ⟨b₁, hb, hb'⟩, ⟨c₁, hc, hc'⟩, rfl⟩
      exact ⟨_, ⟨hp, a₁, b₁, c₁, ha, hb, hc, rfl⟩,
        (ih a₁ b₁ c₁).mpr ⟨hps, a', b', c', ha', hb', hc', rfl⟩⟩

end Json
end SchemaBinding
