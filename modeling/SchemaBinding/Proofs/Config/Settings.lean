import SchemaBinding.Config.File
import SchemaBinding.Proofs.Json.Objects

/-! Settings from objects. Main statement: an object is decoded exactly if its members are fields
with values of their types, in whatever order they come, and what is decoded from it is what a
builder makes on which just these fields are set. It is the same from the text of the object. -/
namespace SchemaBinding
namespace Config

open Json Json.Reader

/-- The members that settings are made of. A mapping may also be an object of its label and null. -/
inductive IsSetting : String × Json → Prop
  | mapping (m : NumberMapping) : IsSetting ("number_mapping", .string m.literal)
  | mappingObject (m : NumberMapping) : IsSetting ("number_mapping", .object [(m.literal, .null)])
  | package (s : String) : IsSetting ("default_package", .string s)
  | root (s : String) : IsSetting ("root_module", .string s)

/-- Just the fields of an object are set on a builder. -/
structure Builder.SetBy (b : Builder) (ms : List (String × Json)) : Prop where
  numberMapping (m : NumberMapping) : b.numberMapping = some m ↔
    ("number_mapping", .string m.literal) ∈ ms ∨
      ("number_mapping", .object [(m.literal, .null)]) ∈ ms
  defaultPackage (s : String) : b.defaultPackage = some s ↔ ("default_package", .string s) ∈ ms
  rootModule (s : String) : b.rootModule = some s ↔ ("root_module", .string s) ∈ ms

theorem mem_fieldNames_iff {name : String} : name ∈ fieldNames ↔
    name = "number_mapping" ∨ name = "default_package" ∨ name = "root_module" := by
  simp [fieldNames]

theorem member_of_not_mem_fieldNames {m : Type → Type} [Monad m] [MonadExceptOf Fault m]
    (mapping : m NumberMapping) (text : m String) (b : Builder) {name : String}
    (h : name ∉ fieldNames) :
    b.member mapping text name = throw (.mismatch (.unknownField name fieldNames)) := by
  simp only [mem_fieldNames_iff, not_or] at h
  obtain ⟨hmapping, hpackage, hroot⟩ := h
  unfold Builder.member
  split <;> first | contradiction | rfl

theorem member_eq_ok_iff (mapping : Option NumberMapping) (package root : Option String)
    (m : String × Json) (b : Builder) :
    Builder.member m.2.asLabel (m.2.asString .string) ⟨mapping, package, root⟩ m.1 = .ok b ↔
      m.1 ∈ fieldNames ∧ ∃ mapping' package' root',
        fill Json.asLabel "number_mapping" mapping m = .ok mapping' ∧
        fill (Json.asString .string) "default_package" package m = .ok package' ∧
        fill (Json.asString .string) "root_module" root m = .ok root' ∧
        b = ⟨mapping', package', root'⟩ := by
  obtain ⟨name, v⟩ := m
  by_cases hname : name ∈ fieldNames
  · rcases mem_fieldNames_iff.mp hname with rfl | rfl | rfl
    all_goals
      rw [Builder.member, bind_eq_ok_iff]
      simp [fieldNames, fill]
  · rw [member_of_not_mem_fieldNames _ _ _ hname]
    simp [hname]

section

variable {ms ms' : List (String × Json)} {c : Config}

/-- An object is decoded as soon as all its names are known and each slot can be filled. -/
theorem ofJson_object_eq_ok_iff :
    ofJson (.object ms) = .ok c ↔ (∀ m ∈ ms, m.1 ∈ fieldNames) ∧ ∃ b : Builder,
      Fills Json.asLabel (valuesOf "number_mapping" ms) b.numberMapping ∧
      Fills (Json.asString .string) (valuesOf "default_package" ms) b.defaultPackage ∧
      Fills (Json.asString .string) (valuesOf "root_module" ms) b.rootModule ∧ c = b.build := by
  have hfold : ∀ b, ms.foldlM (fun b m =>
      Builder.member m.2.asLabel (m.2.asString .string) b m.1) {} = .ok b ↔
        (∀ m ∈ ms, m.1 ∈ fieldNames) ∧ ∃ mapping package root,
          ms.foldlM (fill Json.asLabel "number_mapping") none = .ok mapping ∧
          ms.foldlM (fill (Json.asString .string) "default_package") none = .ok package ∧
          ms.foldlM (fill (Json.asString .string) "root_module") none = .ok root ∧
          b = ⟨mapping, package, root⟩ :=
    foldlM_record_eq_ok_iff member_eq_ok_iff ms none none none
  simp only [foldlM_fill_eq_ok_iff] at hfold
  rw [ofJson, bind_eq_ok_iff]
  constructor
  · rintro ⟨b, hb, hc⟩
    obtain ⟨hnames, mapping, package, root, hmapping, hpackage, hroot, rfl⟩ := (hfold b).mp hb
    cases hc
    exact ⟨hnames, _, hmapping, hpackage, hroot, override_standard _⟩
  · rintro ⟨hnames, b, hmapping, hpackage, hroot, rfl⟩
    refine ⟨b, (hfold b).mpr ⟨hnames, _, _, _, hmapping, hpackage, hroot, rfl⟩, ?_⟩
    rw [override_standard]
    rfl

theorem ofJson_object_perm (h : ms.Perm ms') :
    ofJson (.object ms) = .ok c ↔ ofJson (.object ms') = .ok c := by
  simp only [ofJson_object_eq_ok_iff, fills_congr_perm (valuesOf_perm h _), h.mem_iff]

theorem asLabel_mapping_eq_ok_iff {v : Json} {m : NumberMapping} :
    v.asLabel = .ok m ↔ v = .string m.literal ∨ v = .object [(m.literal, .null)] := by
  rw [asLabel_eq_ok_iff, ← m.jsonName_eq_literal]
  rfl

theorem isSetting_iff {name : String} {v : Json} :
    IsSetting (name, v) ↔ name ∈ fieldNames ∧
      (name = "number_mapping" → ∃ m : NumberMapping, v.asLabel = .ok m) ∧
      (name = "default_package" → ∃ s, v.asString .string = .ok s) ∧
      (name = "root_module" → ∃ s, v.asString .string = .ok s) := by
  simp only [asLabel_mapping_eq_ok_iff, asString_eq_ok_iff]
  constructor
  · intro h
    cases h with
    | mapping m => simp [fieldNames]
    | mappingObject m => simp [fieldNames]
    | package s => simp [fieldNames]
    | root s => simp [fieldNames]
  · rintro ⟨hname, hmapping, hpackage, hroot⟩
    rcases mem_fieldNames_iff.mp hname with rfl | rfl | rfl
    · obtain ⟨m, rfl | rfl⟩ := hmapping rfl
      · exact .mapping m
      · exact .mappingObject m
    · obtain ⟨s, rfl⟩ := hpackage rfl
      exact .package s
    · obtain ⟨s, rfl⟩ := hroot rfl
      exact .root s

theorem forall_isSetting_iff : (∀ m ∈ ms, IsSetting m) ↔ (∀ m ∈ ms, m.1 ∈ fieldNames) ∧
    (∀ v, ("number_mapping", v) ∈ ms → ∃ m : NumberMapping, v.asLabel = .ok m) ∧
    (∀ v, ("default_package", v) ∈ ms → ∃ s, v.asString .string = .ok s) ∧
    (∀ v, ("root_module", v) ∈ ms → ∃ s, v.asString .string = .ok s) := by
  simp only [Prod.forall, isSetting_iff]
  constructor
  · intro hms
    refine ⟨fun name v hm => (hms name v hm).1, ?_, ?_, ?_⟩
    · exact fun v hm => (hms _ v hm).2.1 rfl
    · exact fun v hm => (hms _ v hm).2.2.1 rfl
    · exact fun v hm => (hms _ v hm).2.2.2 rfl
  · rintro ⟨hnames, hmapping, hpackage, hroot⟩ name v hm
    refine ⟨hnames name v hm, ?_, ?_, ?_⟩
    · rintro rfl
      exact hmapping v hm
    · rintro rfl
      exact hpackage v hm
    · rintro rfl
      exact hroot v hm

theorem setBy_iff {b : Builder} : b.SetBy ms ↔
    (∀ m, b.numberMapping = some m ↔ ∃ v, ("number_mapping", v) ∈ ms ∧ v.asLabel = .ok m) ∧
    (∀ s, b.defaultPackage = some s ↔
      ∃ v, ("default_package", v) ∈ ms ∧ v.asString .string = .ok s) ∧
    (∀ s, b.rootModule = some s ↔ ∃ v, ("root_module", v) ∈ ms ∧ v.asString .string = .ok s) := by
  simp only [asLabel_mapping_eq_ok_iff, asString_eq_ok_iff, and_or_left, exists_or, exists_eq_right]
  constructor
  · rintro ⟨hmapping, hpackage, hroot⟩
    exact ⟨hmapping, hpackage, hroot⟩
  · rintro ⟨hmapping, hpackage, hroot⟩
    exact ⟨hmapping, hpackage, hroot⟩

section

variable (h : (ms.map Prod.fst).Nodup)

include h

theorem ofJson_eq_build_iff :
    ofJson (.object ms) = .ok c ↔
      (∀ m ∈ ms, IsSetting m) ∧ ∃ b : Builder, b.SetBy ms ∧ c = b.build := by
  rw [ofJson_object_eq_ok_iff, forall_isSetting_iff]
  simp only [fills_valuesOf_iff h, setBy_iff]
  constructor
  · rintro ⟨hnames, b, ⟨htypes, hmapping⟩, ⟨htypes', hpackage⟩, ⟨htypes'', hroot⟩, rfl⟩
    exact ⟨⟨hnames, htypes, htypes', htypes''⟩, b, ⟨hmapping, hpackage, hroot⟩, rfl⟩
  · rintro ⟨⟨hnames, htypes, htypes', htypes''⟩, b, ⟨hmapping, hpackage, hroot⟩, rfl⟩
    exact ⟨hnames, b, ⟨htypes, hmapping⟩, ⟨htypes', hpackage⟩, ⟨htypes'', hroot⟩, rfl⟩

theorem exists_ofJson_iff : (∃ c, ofJson (.object ms) = .ok c) ↔ ∀ m ∈ ms, IsSetting m := by
  constructor
  · rintro ⟨c, hc⟩
    exact ((ofJson_eq_build_iff h).mp hc).1
  · intro hms
    obtain ⟨hnames, htypes, htypes', htypes''⟩ := forall_isSetting_iff.mp hms
    obtain ⟨mapping, hmapping⟩ := exists_fills_valuesOf h htypes
    obtain ⟨package, hpackage⟩ := exists_fills_valuesOf h htypes'
    obtain ⟨root, hroot⟩ := exists_fills_valuesOf h htypes''
    exact ⟨_, ofJson_object_eq_ok_iff.mpr
      ⟨hnames, ⟨mapping, package, root⟩, hmapping, hpackage, hroot, rfl⟩⟩

end

end

theorem followsMembers_member (room : Nat) :
    FollowsMembers (room + 2)
      (Builder.member (colon *> Reader.asLabel (room + 2)) (colon *> Reader.asString .string))
      (fun b m => Builder.member m.2.asLabel (m.2.asString .string) b m.1) := by
  intro b name
  have hset : ∀ {α : Type} {read : Reader α} {decode : Json → Except Fault α} (slot : Option α)
      (set : Option α → Builder), Follows (value .full (room + 2)) read decode →
        Follows (colon *> value .full (room + 2))
          (once name slot (colon *> read) >>= fun a => pure (set a))
          fun v => once name slot (decode v) >>= fun a => pure (set a) :=
    fun slot set h => (h.colon.once name slot).bind fun a => takes_pure (set a)
  by_cases hname : name ∈ fieldNames
  · rcases mem_fieldNames_iff.mp hname with rfl | rfl | rfl
    · exact hset _ _ (follows_asLabel room)
    · exact hset _ _ (follows_asString _ _)
    · exact hset _ _ (follows_asString _ _)
  · simp only [member_of_not_mem_fieldNames _ _ _ hname]
    exact follows_throw _ _ _

theorem ofText_eq_ok_iff_of_object {text : String} {ms : List (String × Json)} {c : Config}
    (h : Json.ofText text = .ok (.object ms)) :
    ofText text = .ok c ↔ ofJson (.object ms) = .ok c := by
  have hlast := fun b : Builder => takes_pure (standard.override b)
  refine ofText_object_eq_ok_iff (followsMembers_member 124) hlast ?_ h
  intro cs cs' hcs
  rw [reader, asRecord, bind_assoc, run_peek_bind, hcs]
  rfl

theorem load_eq_ok_iff {text : String} {c : Config} : load text = .ok c ↔ ofText text = .ok c := by
  rw [load]
  cases ofText text <;> simp [Except.mapError]

/-- An object with names that are all different is decoded exactly if its members are settings, to
what a builder makes with just these fields set. Fields that are not there take their defaults, the
order of members makes no difference, and the text of the object tells the same. -/
theorem ofJson_eq_build {ms : List (String × Json)} (hms : (ms.map Prod.fst).Nodup) :
    ((∃ c, ofJson (.object ms) = .ok c) ↔ ∀ m ∈ ms, IsSetting m) ∧
      (∀ c, ofJson (.object ms) = .ok c ↔
        (∀ m ∈ ms, IsSetting m) ∧ ∃ b : Builder, b.SetBy ms ∧ c = b.build) ∧
      (∀ c, ofJson (.object ms) = .ok c →
        ((∀ v, ("number_mapping", v) ∉ ms) → c.numberMapping = standard.numberMapping) ∧
        ((∀ v, ("default_package", v) ∉ ms) → c.defaultPackage = standard.defaultPackage) ∧
        ((∀ v, ("root_module", v) ∉ ms) → c.rootModule = standard.rootModule)) ∧
      ofJson (.object []) = .ok standard ∧
      (∀ ms', ms.Perm ms' → ∀ c, ofJson (.object ms) = .ok c ↔ ofJson (.object ms') = .ok c) ∧
      ∀ text, Json.ofText text = .ok (.object ms) →
        ∀ c, load text = .ok c ↔ ofJson (.object ms) = .ok c := by
  refine ⟨exists_ofJson_iff hms, fun c => ofJson_eq_build_iff hms, ?_, rfl,
    fun ms' h c => ofJson_object_perm h, ?_⟩
  · intro c hc
    obtain ⟨-, b, hb, rfl⟩ := (ofJson_eq_build_iff hms).mp hc
    refine ⟨fun h => ?_, fun h => ?_, fun h => ?_⟩
    · have hnone : b.numberMapping = none := by
        simp [Option.eq_none_iff_forall_ne_some, hb.numberMapping, h]
      simp [Builder.build, hnone, standard]
    · have hnone : b.defaultPackage = none := by
        simp [Option.eq_none_iff_forall_ne_some, hb.defaultPackage, h]
      simp [Builder.build, hnone, standard]
    · have hnone : b.rootModule = none := by
        simp [Option.eq_none_iff_forall_ne_some, hb.rootModule, h]
      simp [Builder.build, hnone, standard]
  · intro text htext c
    rw [load_eq_ok_iff, ofText_eq_ok_iff_of_object htext]

theorem ofJson_eq_build_partial :
    let ms := [("root_module", Json.string "sdk"), ("number_mapping", .string "float")]
    let c : Config := { standard with numberMapping := .float, rootModule := "sdk" }
    (ms.map Prod.fst).Nodup ∧ ofJson (.object ms) = .ok c ∧ ofJson (.object ms.reverse) = .ok c ∧
      load "\x7b \"root_module\": \"sdk\", \"number_mapping\": \"float\" \x7d" = .ok c := by
  intro ms c
  have hms : (ms.map Prod.fst).Nodup := by decide
  obtain ⟨-, hbuild, -, -, hperm, htext⟩ := ofJson_eq_build hms
  have hsettings : ∀ m ∈ ms, IsSetting m :=
    List.forall_mem_cons.mpr ⟨.root "sdk", List.forall_mem_singleton.mpr (.mapping .float)⟩
  have hset : Builder.SetBy { numberMapping := some .float, rootModule := some "sdk" } ms := by
    refine ⟨fun m => ?_, fun s => ?_, fun s => ?_⟩
    · cases m <;> simp [ms, NumberMapping.literal]
    · simp [ms]
    · simp [ms, eq_comm]
  have hc : ofJson (.object ms) = .ok c := (hbuild c).mpr ⟨hsettings, _, hset, rfl⟩
  exact ⟨hms, hc, (hperm _ ms.reverse_perm.symm c).mp hc, (htext _ (by cbv) c).mpr hc⟩

end Config
end SchemaBinding
