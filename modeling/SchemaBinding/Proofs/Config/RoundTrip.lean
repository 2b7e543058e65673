import SchemaBinding.Config.File
import SchemaBinding.Proofs.Json.Written

/-! Settings as text. Main statement: settings are read back from the text that they are written as.
An object of strings is decoded from its text as it is decoded itself, and settings are one. -/
namespace SchemaBinding
namespace Config

open Json Json.Reader

theorem takes_member {mapping : Reader NumberMapping} {string : Reader String} {text : List Char}
    {decodedMapping : Except Fault NumberMapping} {decodedString : Except Fault String}
    (hmapping : mapping.Takes text decodedMapping) (hstring : string.Takes text decodedString)
    (b : Builder) (name : String) :
    (Builder.member mapping string b name).Takes text
      (Builder.member decodedMapping decodedString b name) := by
  have hset : ∀ {α : Type} {read : Reader α} {decoded : Except Fault α} (slot : Option α)
      (set : Option α → Builder), read.Takes text decoded →
        (once name slot read >>= fun a => pure (set a)).Takes text
          (once name slot decoded >>= fun a => pure (set a)) := by
    intro α read decoded slot set h
    have hbind := (takes_once h name slot).bind fun a => takes_pure (set a)
    rwa [List.append_nil] at hbind
  unfold Builder.member
  split
  · exact hset _ _ hmapping
  · exact hset _ _ hstring
  · exact hset _ _ hstring
  · exact takes_throw text _

theorem stepsAs_member (room : Nat) {m : String × Json} (h : ∃ s, m.2 = .string s) :
    StepsAs (Builder.member (colon *> asLabel room) (colon *> Reader.asString .string))
      (fun b m => Builder.member m.2.asLabel (m.2.asString .string) b m.1) m := by
  obtain ⟨name, v⟩ := m
  obtain ⟨s, rfl⟩ := h
  intro b
  exact takes_member (takes_colon.seqRight (takes_asLabel room s))
    (takes_colon.seqRight (takes_asString .string s)) b name

theorem takes_reader {ms : List (String × Json)} (h : ∀ m ∈ ms, ∃ s, m.2 = .string s) {room : Nat}
    (hroom : room ≠ 0) : (reader room).Takes (write (.object ms)) (ofJson (.object ms)) := by
  have hmembers := takes_members (g := .full) (fun m hm => stepsAs_member (room - 1) (h m hm)) {}
  show (reader room).Takes ('{' :: (writeMembers ms ++ ['}'])) _
  rw [← List.append_nil ('{' :: _)]
  exact (takes_asRecord hroom "ResolverConfig" _ hmembers).bind fun b =>
    takes_pure (standard.override b)

theorem ofText_text {ms : List (String × Json)} (h : ∀ m ∈ ms, ∃ s, m.2 = .string s) :
    ofText (Json.text (.object ms)) = ofJson (.object ms) := by
  refine ofText_of_takes ?_
  rw [Json.text, String.toList_ofList]
  exact takes_reader h (by decide)

theorem ofJson_toJson (c : Config) : ofJson c.toJson = .ok c := by
  have hlabel : (Json.string c.numberMapping.jsonName).asLabel = .ok c.numberMapping :=
    asLabel_label c.numberMapping
  simp only [toJson, ofJson, List.foldlM_cons, List.foldlM_nil, Builder.member, hlabel]
  rfl

/-- Settings survive being written and read, whatever characters their texts hold. -/
theorem load_text_toJson (c : Config) : load c.toJson.text = .ok c := by
  have hstrings : ∀ m ∈ [("number_mapping", Json.string c.numberMapping.jsonName),
      ("default_package", .string c.defaultPackage), ("root_module", .string c.rootModule)],
      ∃ s, m.2 = .string s := by
    simp
  rw [load, toJson, ofText_text hstrings]
  have hdecoded := c.ofJson_toJson
  rw [toJson] at hdecoded
  rw [hdecoded]
  rfl

end Config
end SchemaBinding
