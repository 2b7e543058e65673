import SchemaBinding.Http.Method
import SchemaBinding.Proofs.Json.Objects

/-! Verbs as text. Main statement: a verb has one text only, its literal, whether it is read as a
word, decoded from JSON or taken from a request method, and a method with any other text is refused
with that text. -/
namespace SchemaBinding

open Json

namespace Method

variable {m m' : Method} {v : Verb}

theorem text_injective (h : m.text = m'.text) : m = m' := by
  cases m
  cases m'
  cases h
  rfl

theorem ofText?_eq_some_iff {text : String} : ofText? text = some m ↔ m.text = text := by
  unfold ofText?
  split
  · rename_i htoken
    rw [Option.some.injEq]
    constructor
    · rintro rfl
      rfl
    · exact fun h => text_injective h.symm
  · rename_i htoken
    refine iff_of_false (by simp) ?_
    rintro rfl
    exact htoken ⟨m.nonempty, m.token⟩

theorem toVerb_eq_ok_iff : m.toVerb = .ok v ↔ m.text = v.literal := by
  rw [← Verb.ofWord?_eq_some_iff, toVerb]
  cases Verb.ofWord? m.text <;> simp

theorem toVerb_eq_error_iff {e : UnsupportedMethod} :
    m.toVerb = .error e ↔ e.method.text = m.text ∧ ∀ w : Verb, m.text ≠ w.literal := by
  cases hverb : m.toVerb with
  | ok v =>
    have hv := toVerb_eq_ok_iff.mp hverb
    exact iff_of_false (by simp) fun h => h.2 v hv
  | error refused =>
    have hrefused : refused = ⟨m⟩ := by
      rw [toVerb] at hverb
      split at hverb <;> cases hverb
      rfl
    have hne : ∀ w : Verb, m.text ≠ w.literal := by
      intro w hw
      rw [toVerb_eq_ok_iff.mpr hw] at hverb
      cases hverb
    rw [hrefused, Except.error.injEq, and_iff_left hne]
    constructor
    · rintro rfl
      rfl
    · intro h
      rw [← text_injective h]

end Method

namespace Verb

theorem text_toMethod (v : Verb) : v.toMethod.text = v.literal := by cases v <;> rfl

theorem toMethod_of_toVerb {m : Method} {v : Verb} (h : m.toVerb = .ok v) : v.toMethod = m :=
  Method.text_injective (v.text_toMethod.trans (Method.toVerb_eq_ok_iff.mp h).symm)

theorem asLabel_string_eq_ok_iff {s : String} {v : Verb} :
    (Json.string s).asLabel = .ok v ↔ s = v.literal := by
  rw [asLabel_eq_ok_iff, ← jsonName_eq_literal]
  simp [Labelled.label]

theorem ofText_asLabel_eq_ok_iff {text s : String} (htext : Json.ofText text = .ok (.string s))
    {v : Verb} : (Reader.asLabel Reader.maxDepth).ofText text = .ok v ↔ s = v.literal := by
  have hfollows : Reader.Follows (Reader.value .full Reader.maxDepth)
      (Reader.asLabel (α := Verb) Reader.maxDepth) Json.asLabel := Reader.follows_asLabel 125
  rw [hfollows.ofText_eq_ok_iff htext, asLabel_string_eq_ok_iff]

/-- The literal of a verb is the one text that stands for it. A method with this text is the one that
the verb becomes, and a method without a verb is refused with its text. -/
theorem forms_agree (v : Verb) (s : String) (m : Method) :
    (ofWord? s = some v ↔ s = v.literal) ∧
      ((Json.string s).asLabel = .ok v ↔ s = v.literal) ∧
      (∀ text, Json.ofText text = .ok (.string s) →
        ((Reader.asLabel Reader.maxDepth).ofText text = .ok v ↔ s = v.literal)) ∧
      (Method.ofText? s = some m ↔ m.text = s) ∧
      (m.toVerb = .ok v ↔ m.text = v.literal) ∧
      (m.toVerb = .ok v → v.toMethod.text = m.text) ∧
      ∀ e, m.toVerb = .error e ↔ e.method.text = m.text ∧ ∀ w : Verb, m.text ≠ w.literal := by
  refine ⟨ofWord?_eq_some_iff, asLabel_string_eq_ok_iff, ?_, Method.ofText?_eq_some_iff,
    Method.toVerb_eq_ok_iff, ?_, fun e => Method.toVerb_eq_error_iff⟩
  · exact fun text htext => ofText_asLabel_eq_ok_iff htext
  · intro h
    rw [toMethod_of_toVerb h]

/-- A literal with an escape in it, and a method that only begins like a verb. -/
theorem forms_agree_get :
    Json.ofText "\"\\u0047ET\"" = .ok (.string "GET") ∧
      (Reader.asLabel Reader.maxDepth).ofText "\"\\u0047ET\"" = .ok Verb.get ∧
      Method.get.toVerb = .ok Verb.get ∧ Verb.get.toMethod.text = "GET" ∧
      (⟨"GETS", by decide, by decide⟩ : Method).toVerb = .error ⟨⟨"GETS", by decide, by decide⟩⟩ := by
  have htext : Json.ofText "\"\\u0047ET\"" = .ok (.string "GET") := by cbv
  obtain ⟨-, -, hread, -, hverb, hback, -⟩ := forms_agree .get "GET" Method.get
  obtain ⟨-, -, -, -, -, -, hrefused⟩ := forms_agree .get "GET" ⟨"GETS", by decide, by decide⟩
  have hget : Method.get.toVerb = .ok Verb.get := hverb.mpr rfl
  refine ⟨htext, (hread _ htext).mpr rfl, hget, hback hget, (hrefused _).mpr ⟨rfl, ?_⟩⟩
  intro w
  cases w <;> decide

end Verb
end SchemaBinding
