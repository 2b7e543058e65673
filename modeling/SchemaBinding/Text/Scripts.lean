import SchemaBinding.Text.Script.African
import SchemaBinding.Text.Script.Brahmic
import SchemaBinding.Text.Script.Caucasian
import SchemaBinding.Text.Script.Compatible
import SchemaBinding.Text.Script.Cyrillic
import SchemaBinding.Text.Script.Emoji
import SchemaBinding.Text.Script.Greek
import SchemaBinding.Text.Script.Han
import SchemaBinding.Text.Script.Hangul
import SchemaBinding.Text.Script.Kana
import SchemaBinding.Text.Script.Latin
import SchemaBinding.Text.Script.Runic
import SchemaBinding.Text.Script.Semitic
import SchemaBinding.Text.Script.Shaped
import SchemaBinding.Text.Script.Symbol
import SchemaBinding.Text.Transliteration

/-! The transliteration by scripts. Main statement: whatever the script, it gives ASCII. -/
namespace SchemaBinding
namespace Text

def scripts : List Script :=
  [.latin, .symbol, .greek, .cyrillic, .armenian, .georgian, .hebrew, .arabic, .thaana, .devanagari,
   .indic, .sinhala, .thai, .lao, .khmer, .burmese, .tibetan, .ethiopic, .coptic, .tifinagh, .nko,
   .runic, .ogham, .gothic, .kana, .hangul, .shaped, .mathematical, .decimal, .emoji, .braille,
   .compatible, .arabicForms, .han]

def spelling? (c : Char) : Option (List Char) :=
  (scripts.findSome? fun s => s.counterpart? c).or (Hangul.counterpart? c)

/-- The control characters beyond ASCII, if `c` is not ASCII. No script has any of them. -/
def isControl (c : Char) : Bool := c.toNat < 0xA0

def counterpart (c : Char) : List Char :=
  if isControl c then [] else ((spelling? c).or (spelling? (Script.aligned c))).getD []

theorem scripts_ascii : scripts.all Script.ascii = true := by decide +kernel

theorem isAscii_of_spelling? {c d : Char} {ds : List Char} (h : spelling? c = some ds)
    (hd : d ∈ ds) : isAscii d = true := by
  rcases Option.or_eq_some_iff.mp h with h | ⟨-, h⟩
  · obtain ⟨s, hs, hc⟩ := List.exists_of_findSome?_eq_some h
    exact Script.isAscii_of_counterpart? (List.all_eq_true.mp scripts_ascii s hs) hc hd
  · exact Hangul.isAscii_of_counterpart? h hd

theorem isAscii_of_mem_counterpart {c d : Char} (h : d ∈ counterpart c) : isAscii d = true := by
  unfold counterpart at h
  split at h
  · simp at h
  · cases hc : (spelling? c).or (spelling? (Script.aligned c)) with
    | none => simp [hc] at h
    | some ds =>
      rw [hc, Option.getD_some] at h
      rcases Option.or_eq_some_iff.mp hc with hc | ⟨-, hc⟩ <;> exact isAscii_of_spelling? hc h

/-- The code points with the property `White_Space`, one by one. -/
def blankCodes : List Nat :=
  [0x09, 0x0A, 0x0B, 0x0C, 0x0D, 0x20, 0x85, 0xA0, 0x1680, 0x2000, 0x2001, 0x2002, 0x2003, 0x2004,
    0x2005, 0x2006, 0x2007, 0x2008, 0x2009, 0x200A, 0x2028, 0x2029, 0x202F, 0x205F, 0x3000]

theorem mem_blankCodes {c : Char} (h : isBlank c = true) : c ∈ blankCodes.map Char.ofNat := by
  refine List.mem_map.mpr ⟨c.toNat, ?_, Char.ofNat_toNat c⟩
  simp only [isBlank, Bool.or_eq_true, Bool.and_eq_true, decide_eq_true_eq, beq_iff_eq] at h
  simp only [blankCodes, List.mem_cons, List.not_mem_nil, or_false]
  omega

theorem blankCodes_spelled :
    (blankCodes.map Char.ofNat).all fun c => (c :: counterpart c).all fun d => !d.isAlphanum := by
  decide +kernel

namespace Transliteration

/-- A character beyond ASCII is spelled as in the script that has it. -/
@[reducible] def byScript : Transliteration where
  spell c := if isAscii c then [c] else counterpart c
  spell_of_isAscii c h := if_pos h
  not_isAlphanum_of_isBlank c h d hd := by
    have hspelled := List.all_eq_true.mp blankCodes_spelled c (mem_blankCodes h)
    have hmem : d ∈ c :: counterpart c := by
      split at hd
      · exact List.mem_cons.mpr (Or.inl (List.mem_singleton.mp hd))
      · exact List.mem_cons_of_mem c hd
    simpa using List.all_eq_true.mp hspelled d hmem

theorem isAscii_of_mem_spell_byScript {c d : Char} (h : d ∈ byScript.spell c) :
    isAscii d = true := by
  change d ∈ (if isAscii c then [c] else counterpart c) at h
  split at h
  · simp_all
  · exact isAscii_of_mem_counterpart h

end Transliteration
end Text
end SchemaBinding
