import SchemaBinding.Schema.Json
import SchemaBinding.Proofs.Json.Objects

/-! Schema types from objects with noise. Main statement: neither the order of members makes a
difference to what is decoded, nor members that do not count for the kind of the object, nor nulls
in place of fields that may be left out, in the object itself and in the items of arrays. -/
namespace SchemaBinding
namespace Schema

open Json Json.Reader

/-- The members that count for a kind, besides the one that names it. -/
def Kind.fields : Kind → List String
  | .array => ["items"]
  | .object => ["name", "package_hint"]
  | .string => ["name", "enum_values", "package_hint"]
  | _ => []

def Kind.options : Kind → List String
  | .object => ["package_hint"]
  | .string => ["enum_values", "package_hint"]
  | _ => []

theorem kindAmong_eq_ok_iff {kindOf : Json → Except Fault Kind} {ms : List (String × Json)}
    {kind : Kind} :
    kindAmong kindOf ms = .ok kind ↔ Fills kindOf (valuesOf "type" ms) (some kind) := by
  have hfold : ∀ slot, ms.foldlM (fun slot (m : String × Json) =>
      if m.1 == "type" then once "type" slot (kindOf m.2) else pure slot) none = .ok slot ↔
        Fills kindOf (valuesOf "type" ms) slot :=
    fun slot => foldlM_fill_eq_ok_iff
  simp only [kindAmong, bind_eq_ok_iff, hfold, required_eq_ok_iff, exists_eq_right]

theorem itemsAmong_eq_foldlM (found : Option Schema) (ms : List (String × Json)) :
    itemsAmong found ms = ms.foldlM (fill (decode kindNumbered) "items") found := by
  induction ms generalizing found with
  | nil => rw [itemsAmong, List.foldlM_nil]
  | cons m ms ih =>
    obtain ⟨name, v⟩ := m
    rw [itemsAmong, List.foldlM_cons, fill]
    split
    · simp only [ih]
    · simp [ih]

theorem itemsAmong_eq_ok_iff {ms : List (String × Json)} {slot : Option Schema} :
    itemsAmong none ms = .ok slot ↔ Fills (decode kindNumbered) (valuesOf "items" ms) slot := by
  rw [itemsAmong_eq_foldlM, foldlM_fill_eq_ok_iff]

/-- The slot for enum values, which is filled for strings only. -/
def fillValues (valued : Bool) (slot : Option (Option (List (Option String)))) (m : String × Json) :
    Except Fault (Option (Option (List (Option String)))) :=
  if valued then fill asEnumValues "enum_values" slot m else pure slot

theorem Draft.member_eq_ok_iff (valued : Bool) (name : Option String)
    (values : Option (Option (List (Option String)))) (hint : Option (Option String))
    (m : String × Json) (d : Draft) :
    Draft.member valued ⟨name, values, hint⟩ m = .ok d ↔ True ∧ ∃ name' values' hint',
      fill asText "name" name m = .ok name' ∧ fillValues valued values m = .ok values' ∧
        fill asHint "package_hint" hint m = .ok hint' ∧ d = ⟨name', values', hint'⟩ := by
  obtain ⟨k, v⟩ := m
  unfold Draft.member
  split
  case h_1 hk =>
    cases show k = "name" from hk
    rw [bind_eq_ok_iff]
    simp [fill, fillValues]
  case h_2 hk =>
    cases show k = "package_hint" from hk
    rw [bind_eq_ok_iff]
    simp [fill, fillValues]
  case h_3 hk =>
    cases show k = "enum_values" from hk
    cases valued with
    | false => simp [fill, fillValues]
    | true =>
      rw [if_pos rfl, bind_eq_ok_iff]
      simp [fill, fillValues]
  case h_4 hname hhint hvalues =>
    have hname : k ≠ "name" := hname
    have hhint : k ≠ "package_hint" := hhint
    have hvalues : k ≠ "enum_values" := hvalues
    simp [fill, fillValues, hname, hhint, hvalues]

theorem foldlM_fillValues_eq_ok_iff {valued : Bool} {ms : List (String × Json)}
    {values : Option (Option (List (Option String)))} :
    ms.foldlM (fillValues valued) none = .ok values ↔
      if valued then Fills asEnumValues (valuesOf "enum_values" ms) values else values = none := by
  cases valued with
  | true => exact foldlM_fill_eq_ok_iff
  | false =>
    have hkeep : ms.foldlM (fillValues false) none = .ok none := by
      induction ms with
      | nil => rfl
      | cons m ms ih => exact ih
    simp [hkeep, @eq_comm _ values]

theorem foldlM_draft_eq_ok_iff {valued : Bool} {ms : List (String × Json)} {d : Draft} :
    ms.foldlM (Draft.member valued) {} = .ok d ↔
      Fills asText (valuesOf "name" ms) d.name ∧
      (if valued then Fills asEnumValues (valuesOf "enum_values" ms) d.enumValues
        else d.enumValues = none) ∧
      Fills asHint (valuesOf "package_hint" ms) d.packageHint := by
  have hfold : ms.foldlM (Draft.member valued) {} = .ok d ↔ (∀ m ∈ ms, True) ∧ ∃ name values hint,
      ms.foldlM (fill asText "name") none = .ok name ∧
      ms.foldlM (fillValues valued) none = .ok values ∧
      ms.foldlM (fill asHint "package_hint") none = .ok hint ∧ d = ⟨name, values, hint⟩ :=
    foldlM_record_eq_ok_iff (Draft.member_eq_ok_iff valued) ms none none none d
  simp only [foldlM_fill_eq_ok_iff, foldlM_fillValues_eq_ok_iff] at hfold
  rw [hfold]
  constructor
  · rintro ⟨-, name, values, hint, hname, hvalues, hhint, rfl⟩
    exact ⟨hname, hvalues, hhint⟩
  · rintro ⟨hname, hvalues, hhint⟩
    exact ⟨fun _ _ => trivial, _, _, _, hname, hvalues, hhint, rfl⟩

/-- The members of an object make a schema type of a kind. Options may be left out or be null. -/
def Kind.Says (kind : Kind) (ms : List (String × Json)) (s : Schema) : Prop :=
  match kind with
  | .array => ∃ items, Fills (decode kindNumbered) (valuesOf "items" ms) (some items) ∧
      s = .array items
  | .object => ∃ name hint, Fills asText (valuesOf "name" ms) (some name) ∧
      Fills asHint (valuesOf "package_hint" ms) hint ∧ s = .object name hint.join
  | .string => ∃ name values hint, Fills asText (valuesOf "name" ms) (some name) ∧
      Fills asEnumValues (valuesOf "enum_values" ms) values ∧
      Fills asHint (valuesOf "package_hint" ms) hint ∧ s = .string name values.join hint.join
  | kind => ofMembers kind [] = .ok s

theorem ofMembers_eq_ok_iff {kind : Kind} (hkind : kind ≠ .array) {ms : List (String × Json)}
    {s : Schema} : ofMembers kind ms = .ok s ↔ kind.Says ms s := by
  cases kind with
  | array => exact absurd rfl hkind
  | object =>
    simp only [ofMembers, bind_eq_ok_iff, foldlM_draft_eq_ok_iff, required_eq_ok_iff, Kind.Says]
    constructor
    · rintro ⟨d, ⟨hname, -, hhint⟩, name, hd, hs⟩
      cases hs
      exact ⟨name, _, hd ▸ hname, hhint, rfl⟩
    · rintro ⟨name, hint, hname, hhint, rfl⟩
      exact ⟨⟨some name, none, hint⟩, ⟨hname, rfl, hhint⟩, name, rfl, rfl⟩
  | string =>
    simp only [ofMembers, bind_eq_ok_iff, foldlM_draft_eq_ok_iff, required_eq_ok_iff, Kind.Says]
    constructor
    · rintro ⟨d, ⟨hname, hvalues, hhint⟩, name, hd, hs⟩
      cases hs
      exact ⟨name, _, _, hd ▸ hname, hvalues, hhint, rfl⟩
    · rintro ⟨name, values, hint, hname, hvalues, hhint, rfl⟩
      exact ⟨⟨some name, values, hint⟩, ⟨hname, hvalues, hhint⟩, name, rfl, rfl⟩
  | _ => rfl

theorem decode_object_eq_ok_iff {kindOf : Json → Except Fault Kind} {ms : List (String × Json)}
    {s : Schema} :
    decode kindOf (.object ms) = .ok s ↔
      ∃ kind, Fills kindOf (valuesOf "type" ms) (some kind) ∧ kind.Says ms s := by
  simp only [decode, bind_eq_ok_iff, kindAmong_eq_ok_iff]
  refine exists_congr fun kind => and_congr_right fun _ => ?_
  by_cases hkind : kind = .array
  · subst hkind
    simp only [if_true, bind_eq_ok_iff, itemsAmong_eq_ok_iff, required_eq_ok_iff, Kind.Says]
    constructor
    · rintro ⟨_, hslot, items, rfl, hs⟩
      cases hs
      exact ⟨items, hslot, rfl⟩
    · rintro ⟨items, hslot, rfl⟩
      exact ⟨some items, hslot, items, rfl, rfl⟩
  · rw [if_neg hkind, ofMembers_eq_ok_iff hkind]

theorem decode_object_iff {kindOf : Json → Except Fault Kind} {ms : List (String × Json)}
    {kind : Kind} (hkind : kindAmong kindOf ms = .ok kind) {s : Schema} :
    decode kindOf (.object ms) = .ok s ↔ kind.Says ms s := by
  have hfills := kindAmong_eq_ok_iff.mp hkind
  rw [decode_object_eq_ok_iff]
  constructor
  · rintro ⟨kind', hfills', hs⟩
    cases hfills.unique hfills'
    exact hs
  · exact fun hs => ⟨kind, hfills, hs⟩

/-- Ways to write an object, or the items of an array, without saying anything else. -/
inductive Noise : (Json → Except Fault Kind) → Json → Json → Prop
  | reordered {kindOf : Json → Except Fault Kind} {ms ms' : List (String × Json)}
      (h : ms.Perm ms') : Noise kindOf (.object ms) (.object ms')
  /-- A member that does not count for the kind that the object names. -/
  | ignored {kindOf : Json → Except Fault Kind} {ms : List (String × Json)} {k : String} (w : Json)
      (htype : k ≠ "type") (hfields : ∀ kind, kindAmong kindOf ms = .ok kind → k ∉ kind.fields) :
      Noise kindOf (.object ms) (.object ((k, w) :: ms))
  /-- Null in place of an option that is not there. -/
  | null {kindOf : Json → Except Fault Kind} {ms : List (String × Json)} {k : String} {kind : Kind}
      (hkind : kindAmong kindOf ms = .ok kind) (hoption : k ∈ kind.options)
      (habsent : k ∉ ms.map Prod.fst) : Noise kindOf (.object ms) (.object ((k, .null) :: ms))
  /-- Inside of arrays, where a kind may also be given by its position. -/
  | items {kindOf : Json → Except Fault Kind} {before after : List (String × Json)} {w w' : Json}
      (hkind : kindAmong kindOf (before ++ ("items", w) :: after) = .ok .array)
      (h : Noise kindNumbered w w') :
      Noise kindOf (.object (before ++ ("items", w) :: after))
        (.object (before ++ ("items", w') :: after))
  /-- An array may also be a list with the kind in front. -/
  | listed {kindOf : Json → Except Fault Kind} {tag w w' : Json} {rest : List Json}
      (htag : kindOf tag = .ok .array) (h : Noise kindNumbered w w') :
      Noise kindOf (.array (tag :: w :: rest)) (.array (tag :: w' :: rest))

section

variable {kindOf : Json → Except Fault Kind} {kind : Kind} {ms ms' : List (String × Json)}
  {s : Schema}

theorem says_congr (h : ∀ k ∈ kind.fields, (valuesOf k ms).Perm (valuesOf k ms')) :
    kind.Says ms s ↔ kind.Says ms' s := by
  have hfills : ∀ {α : Type} (decode : Json → Except Fault α), ∀ k ∈ kind.fields, ∀ slot,
      Fills decode (valuesOf k ms) slot ↔ Fills decode (valuesOf k ms') slot :=
    fun _ k hk _ => fills_congr_perm (h k hk)
  cases kind with
  | array => simp only [Kind.Says, hfills _ "items" (by simp [Kind.fields])]
  | object =>
    simp only [Kind.Says, hfills _ "name" (by simp [Kind.fields]),
      hfills _ "package_hint" (by simp [Kind.fields])]
  | string =>
    simp only [Kind.Says, hfills _ "name" (by simp [Kind.fields]),
      hfills _ "enum_values" (by simp [Kind.fields]),
      hfills _ "package_hint" (by simp [Kind.fields])]
  | _ => rfl

@[simp] theorem asHint_null : asHint .null = .ok none := rfl

@[simp] theorem asEnumValues_null : asEnumValues .null = .ok none := rfl

theorem says_null_iff {k : String} (hoption : k ∈ kind.options) (habsent : k ∉ ms.map Prod.fst) :
    kind.Says ((k, .null) :: ms) s ↔ kind.Says ms s := by
  have hnone := valuesOf_eq_nil_iff.mpr habsent
  cases kind with
  | object =>
    obtain rfl : k = "package_hint" := by simpa [Kind.options] using hoption
    simp [Kind.Says, valuesOf_cons, hnone]
  | string =>
    obtain rfl | rfl : k = "enum_values" ∨ k = "package_hint" := by
      simpa [Kind.options] using hoption
    · simp [Kind.Says, valuesOf_cons, hnone]
    · simp [Kind.Says, valuesOf_cons, hnone]
  | _ => cases hoption

theorem ne_type_of_mem_options {k : String} (h : k ∈ kind.options) : k ≠ "type" := by
  rintro rfl
  cases kind <;> simp [Kind.options] at h

theorem says_items {before after : List (String × Json)} {w w' : Json}
    (h : ∀ s, decode kindNumbered w = .ok s → decode kindNumbered w' = .ok s)
    (hs : Kind.array.Says (before ++ ("items", w) :: after) s) :
    Kind.array.Says (before ++ ("items", w') :: after) s := by
  obtain ⟨items, hitems, rfl⟩ := hs
  rw [valuesOf_append, valuesOf_cons, if_pos rfl] at hitems
  refine ⟨items, ?_, rfl⟩
  rw [valuesOf_append, valuesOf_cons, if_pos rfl]
  exact hitems.replace h

theorem kindAmong_congr (h : valuesOf "type" ms = valuesOf "type" ms') :
    kindAmong kindOf ms = .ok kind ↔ kindAmong kindOf ms' = .ok kind := by
  rw [kindAmong_eq_ok_iff, kindAmong_eq_ok_iff, h]

/-- One piece of noise, by induction on how deep it is inside of arrays. -/
theorem decode_of_noise {v v' : Json} (h : Noise kindOf v v') (s : Schema) :
    decode kindOf v = .ok s ↔ decode kindOf v' = .ok s := by
  induction h generalizing s with
  | reordered h =>
    simp only [decode_object_eq_ok_iff, fills_congr_perm (valuesOf_perm h _),
      says_congr fun k _ => valuesOf_perm h k]
  | @ignored kindOf ms k w htype hfields =>
    simp only [decode_object_eq_ok_iff, valuesOf_cons_of_ne (m := (k, w)) htype]
    refine exists_congr fun kind => and_congr_right fun hkind => says_congr fun name hname => ?_
    have hk : k ≠ name := fun h => hfields kind (kindAmong_eq_ok_iff.mpr hkind) (h ▸ hname)
    rw [valuesOf_cons_of_ne (m := (k, w)) hk]
  | @null kindOf ms k kind hkind hoption habsent =>
    have hkind' : kindAmong kindOf ((k, .null) :: ms) = .ok kind :=
      (kindAmong_congr (valuesOf_cons_of_ne (ne_type_of_mem_options hoption))).mpr hkind
    rw [decode_object_iff hkind, decode_object_iff hkind', says_null_iff hoption habsent]
  | @items kindOf before after w w' hkind h ih =>
    have hkind' : kindAmong kindOf (before ++ ("items", w') :: after) = .ok .array := by
      refine (kindAmong_congr ?_).mp hkind
      simp [valuesOf_append, valuesOf_cons]
    rw [decode_object_iff hkind, decode_object_iff hkind']
    exact ⟨says_items fun s => (ih s).mp, says_items fun s => (ih s).mpr⟩
  | listed htag h ih =>
    simp only [decode, htag, decodeBehind, bind_eq_ok_iff, Except.ok.injEq, exists_eq_left',
      if_true, ih]

end

/-- The kind is checked where it comes by, and everything else is kept. -/
def keepMember (ms : List (String × Json)) (m : String × Json) :
    Except Fault (List (String × Json)) :=
  if m.1 == "type" then do
    let kind ← once m.1 (ms.lookup m.1) (kindNamed m.2 >>= fun kind => pure (.string kind.literal))
    pure (ms ++ kind.toList.map (m.1, ·))
  else .ok (ms ++ [(m.1, m.2)])

theorem kindNamed_eq_ok_iff {v : Json} {kind : Kind} :
    kindNamed v = .ok kind ↔ v = .string kind.literal := by
  simp only [kindNamed, bind_eq_ok_iff, asString_eq_ok_iff, variantNamed_eq_ok_iff]
  constructor
  · rintro ⟨_, rfl, rfl⟩
    rfl
  · rintro rfl
    exact ⟨_, rfl, rfl⟩

section

variable {ms kept kept' : List (String × Json)} {v : Json}

theorem keepMember_of_ne {m : String × Json} (h : m.1 ≠ "type") :
    keepMember kept m = .ok (kept ++ [m]) := by
  rw [keepMember, if_neg (by simpa using h)]

theorem keepMember_type_eq_ok_iff :
    keepMember kept ("type", v) = .ok kept' ↔
      kept.lookup "type" = none ∧ (∃ kind, kindNamed v = .ok kind) ∧
        kept' = kept ++ [("type", v)] := by
  rw [keepMember, if_pos (beq_self_eq_true _), bind_eq_ok_iff]
  cases kept.lookup "type" with
  | none =>
    simp only [once, map_eq_ok_iff, bind_eq_ok_iff, kindNamed_eq_ok_iff, true_and]
    constructor
    · rintro ⟨_, ⟨_, ⟨kind, rfl, hkind⟩, rfl⟩, hkept⟩
      cases hkind
      cases hkept
      exact ⟨⟨kind, rfl⟩, rfl⟩
    · rintro ⟨⟨kind, rfl⟩, rfl⟩
      exact ⟨_, ⟨_, ⟨kind, rfl, rfl⟩, rfl⟩, rfl⟩
  | some w => simp [once]

theorem foldlM_keepMember_eq_ok_iff {slot : Option Kind}
    (hslot : kept.lookup "type" = none ↔ slot = none) :
    ms.foldlM keepMember kept = .ok kept' ↔
      kept' = kept ++ ms ∧ ∃ slot', ms.foldlM (fill kindNamed "type") slot = .ok slot' := by
  -- What is kept has a kind as soon as the slot has one, and both refuse a second.
  induction ms generalizing kept slot with
  | nil => simp
  | cons m ms ih =>
    obtain ⟨k, v⟩ := m
    rw [List.append_cons]
    simp only [List.foldlM_cons, bind_eq_ok_iff]
    by_cases hk : k = "type"
    · subst hk
      have hkept : ∀ kind : Kind,
          (kept ++ [("type", v)]).lookup "type" = none ↔ some kind = none := by
        simp [List.lookup_append]
      simp only [keepMember_type_eq_ok_iff, fill_self_eq_ok_iff, hslot]
      constructor
      · rintro ⟨_, ⟨hnone, ⟨kind, hkind⟩, rfl⟩, hrest⟩
        obtain ⟨rfl, slot', hslot'⟩ := (ih (hkept kind)).mp hrest
        exact ⟨rfl, slot', _, ⟨hnone, kind, hkind, rfl⟩, hslot'⟩
      · rintro ⟨rfl, slot', _, ⟨hnone, kind, hkind, rfl⟩, hslot'⟩
        exact ⟨_, ⟨hnone, ⟨kind, hkind⟩, rfl⟩, (ih (hkept kind)).mpr ⟨rfl, slot', hslot'⟩⟩
    · have hkept : (kept ++ [(k, v)]).lookup "type" = none ↔ slot = none := by
        rw [← hslot, List.lookup_append]
        simp [Ne.symm hk]
      rw [keepMember_of_ne (m := (k, v)) hk, fill_of_ne (m := (k, v)) hk]
      simp only [Except.ok.injEq, exists_eq_left', ih hkept]

end

theorem followsMembers_keepMember (room : Nat) :
    FollowsMembers (room + 1)
      (fun ms name => do
        if name == "type" then
          let kind ← once name (ms.lookup name) (colon *> do
            let name ← Reader.asString .variantName
            let kind : Kind ← variantNamed name
            pure (Json.string kind.literal))
          pure (ms ++ kind.toList.map (name, ·))
        else
          colon
          return ms ++ [(name, ← value .full (room + 1))])
      keepMember := by
  intro ms name
  have hnamed : Follows (value .full (room + 1))
      (Reader.asString .variantName >>= fun name => (variantNamed name : Reader Kind)) kindNamed :=
    (follows_asString room .variantName).bind fun name => takes_variantNamed name
  have hkind := hnamed.bind fun kind => takes_pure (Json.string kind.literal)
  rw [bind_assoc] at hkind
  unfold keepMember
  by_cases hname : name = "type"
  · simp only [hname, beq_self_eq_true, if_true]
    exact (hkind.colon.once "type" _).bind fun kind => takes_pure _
  · simp only [beq_eq_false_iff_ne.mpr hname, Bool.false_eq_true, if_false]
    exact follows_colon_value (room + 1) fun v => ms ++ [(name, v)]

theorem ofText_eq_ok_iff_of_object {text : String} {ms : List (String × Json)} {s : Schema}
    (h : Json.ofText text = .ok (.object ms)) :
    ofText text = .ok s ↔ ofJson (.object ms) = .ok s := by
  have htext : ofText text = .ok s ↔
      (ms.foldlM keepMember [] >>= fun ms => ofJson (.object ms)) = .ok s := by
    refine ofText_object_eq_ok_iff (followsMembers_keepMember 125)
      (fun ms => takes_liftM (ofJson (.object ms))) ?_ h
    intro cs cs' hcs
    rw [reader, run_peek_bind, hcs]
    rfl
  have hnone : ([] : List (String × Json)).lookup "type" = none ↔ (none : Option Kind) = none := by
    simp
  simp only [htext, bind_eq_ok_iff, foldlM_keepMember_eq_ok_iff hnone, foldlM_fill_eq_ok_iff,
    List.nil_append]
  constructor
  · rintro ⟨_, ⟨rfl, -⟩, hs⟩
    exact hs
  · intro hs
    obtain ⟨kind, hkind, -⟩ := decode_object_eq_ok_iff.mp hs
    exact ⟨ms, ⟨rfl, some kind, hkind⟩, hs⟩

/-- Noise at any level, taken away or added as often as one likes, leaves what is decoded as it is,
from a value and from the text of an object. -/
theorem decode_noise {v v' : Json} (h : Relation.EqvGen (Noise kindNamed) v v') :
    (∀ s, ofJson v = .ok s ↔ ofJson v' = .ok s) ∧
      ∀ ms ms' text text', v = .object ms → v' = .object ms' →
        Json.ofText text = .ok v → Json.ofText text' = .ok v' →
          ∀ s, ofText text = .ok s ↔ ofText text' = .ok s := by
  have hvalue : ∀ s, ofJson v = .ok s ↔ ofJson v' = .ok s := by
    intro s
    induction h with
    | rel v v' h => exact decode_of_noise h s
    | refl v => exact Iff.rfl
    | symm v v' _ ih => exact ih.symm
    | trans v v' v'' _ _ ih ih' => exact ih.trans ih'
  refine ⟨hvalue, ?_⟩
  rintro ms ms' text text' rfl rfl htext htext' s
  rw [ofText_eq_ok_iff_of_object htext, ofText_eq_ok_iff_of_object htext', hvalue]

/-- An array whose kind comes last, with a field of other kinds, around a string that has a null for
its hint and a member that counts for arrays only. -/
theorem decode_noise_array :
    let color := [("name", Json.string "color"), ("enum_values", .array [.string "red"])]
    let plain : Json := .object (("type", .string "string") :: color)
    let noisy : Json := .object
      (("package_hint", .null) :: ("items", .bool true) :: (color ++ [("type", .string "string")]))
    let array : Json := .object [("type", .string "array"), ("items", plain)]
    let array' : Json := .object [("name", .null), ("items", noisy), ("type", .string "array")]
    Relation.EqvGen (Noise kindNamed) array array' ∧
      ofJson array' = .ok (.array (.string "color" (some [some "red"]) none)) := by
  intro color plain noisy array array'
  have hitems : ∀ w w', Noise kindNumbered w w' → Noise kindNamed
      (.object [("type", .string "array"), ("items", w)])
      (.object [("type", .string "array"), ("items", w')]) :=
    fun w w' h => @Noise.items kindNamed [("type", .string "array")] [] w w' rfl h
  have hlast : Noise kindNumbered plain (.object (color ++ [("type", .string "string")])) :=
    .reordered (List.perm_append_singleton _ color).symm
  have hcount : Noise kindNumbered (.object (color ++ [("type", .string "string")]))
      (.object (("items", .bool true) :: (color ++ [("type", .string "string")]))) := by
    refine .ignored _ (by decide) fun kind hkind => ?_
    cases hkind
    decide
  have hnull : Noise kindNumbered
      (.object (("items", .bool true) :: (color ++ [("type", .string "string")]))) noisy :=
    @Noise.null kindNumbered _ "package_hint" .string rfl (by decide) (by decide)
  have hfirst : Noise kindNamed (.object [("type", .string "array"), ("items", noisy)])
      (.object [("items", noisy), ("type", .string "array")]) :=
    .reordered (.swap _ _ _)
  have hname : Noise kindNamed (.object [("items", noisy), ("type", .string "array")]) array' := by
    refine .ignored _ (by decide) fun kind hkind => ?_
    cases hkind
    decide
  have h : Relation.EqvGen (Noise kindNamed) array array' :=
    (.trans _ _ _ (.rel _ _ (hitems _ _ hlast)) (.trans _ _ _ (.rel _ _ (hitems _ _ hcount))
      (.trans _ _ _ (.rel _ _ (hitems _ _ hnull))
        (.trans _ _ _ (.rel _ _ hfirst) (.rel _ _ hname)))))
  exact ⟨h, ((decode_noise h).1 _).mp rfl⟩

end Schema
end SchemaBinding
