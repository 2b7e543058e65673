import Mathlib.Data.List.Sort
import Mathlib.Data.String.Basic

/-! The order of texts by their bytes. Main statement: it is the order by characters, because the
bytes of a character come before those of every later character. -/
namespace SchemaBinding
namespace Text

def bytes (s : String) : List UInt8 := s.toByteArray.data.toList

theorem bytes_eq_flatMap (s : String) : bytes s = s.toList.flatMap String.utf8EncodeChar := by
  rw [← String.ofList_toList (s := s), bytes]
  simp only [String.toByteArray_ofList, List.utf8Encode, List.data_toByteArray, String.toList_ofList]

/-- No matter what follows, the bytes of an earlier character come first. The first byte tells how
many there are, and grows with their number. -/
theorem utf8EncodeChar_append_lt {c d : Char} (h : c < d) (s t : List UInt8) :
    String.utf8EncodeChar c ++ s < String.utf8EncodeChar d ++ t := by
  have hval : c.val.toNat < d.val.toNat := h
  have hvalid : d.val.toNat < 0xd800 ∨ (0xdfff < d.val.toNat ∧ d.val.toNat < 0x110000) := d.valid
  have hmax : d.val.toNat < 0x110000 := by omega
  clear hvalid
  -- Ten of the sixteen pairs of lengths are in order; the others contradict `hval`.
  unfold String.utf8EncodeChar
  dsimp only
  split_ifs <;>
    simp only [List.cons_append, List.nil_append, List.cons_lt_cons_iff, UInt8.lt_iff_toNat_lt,
      ← UInt8.toNat_inj, UInt8.toNat_ofNat'] <;>
    simp (disch := omega) only [Nat.mod_eq_of_lt] <;>
    omega

theorem append_lt_append_left (s : List UInt8) {t u : List UInt8} (h : t < u) : s ++ t < s ++ u := by
  induction s with
  | nil => exact h
  | cons b s ih => exact List.cons_lt_cons_iff.mpr (Or.inr ⟨rfl, ih⟩)

theorem flatMap_utf8EncodeChar_lt {cs ds : List Char} (h : cs < ds) :
    cs.flatMap String.utf8EncodeChar < ds.flatMap String.utf8EncodeChar := by
  induction h with
  | @nil d ds =>
    have hne : String.utf8EncodeChar d ≠ [] := String.utf8EncodeChar_ne_nil
    obtain ⟨b, bs, hd⟩ := List.exists_cons_of_ne_nil hne
    simp [hd]
  | rel h => exact utf8EncodeChar_append_lt h _ _
  | cons _ ih => exact append_lt_append_left _ ih

theorem bytes_lt_iff {s t : String} : bytes s < bytes t ↔ s < t := by
  have hmono : ∀ {s t : String}, s < t → bytes s < bytes t := by
    intro s t h
    rw [bytes_eq_flatMap, bytes_eq_flatMap]
    exact flatMap_utf8EncodeChar_lt (String.lt_iff_toList_lt.mp h)
  constructor
  · intro h
    rcases lt_trichotomy s t with hst | rfl | hts
    · exact hst
    · exact absurd h (List.lt_irrefl _)
    · exact absurd h (List.lt_asymm (hmono hts))
  · exact hmono

end Text
end SchemaBinding
