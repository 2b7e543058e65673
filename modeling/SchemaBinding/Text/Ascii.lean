/-! ASCII characters, and texts of them. Main statement: a text whose bytes are all below 128 has
ASCII characters only. -/
namespace SchemaBinding
namespace Text

def isAscii (c : Char) : Bool := c.toNat < 128

def allAscii (s : String) : Bool := s.toByteArray.data.toList.all fun b => b < 128

/-- Beyond ASCII the first byte of a character is at least 192. -/
theorem isAscii_of_utf8EncodeChar {c : Char} (h : ∀ b ∈ String.utf8EncodeChar c, b < 128) :
    isAscii c = true := by
  simp only [isAscii, decide_eq_true_eq, Char.toNat]
  dsimp only [String.utf8EncodeChar] at h
  repeat' split at h
  · omega
  all_goals
    have := h _ List.mem_cons_self
    simp only [UInt8.lt_iff_toNat_lt, UInt8.toNat_ofNat', UInt8.toNat_ofNat] at this
    omega

theorem isAscii_of_mem_toList {s : String} {c : Char} (hs : allAscii s = true)
    (hc : c ∈ s.toList) : isAscii c = true := by
  rw [← String.ofList_toList (s := s)] at hs
  simp only [allAscii, String.toByteArray_ofList, List.utf8Encode, List.data_toByteArray,
    List.all_flatMap, List.all_eq_true, decide_eq_true_eq] at hs
  exact isAscii_of_utf8EncodeChar (hs c hc)

end Text
end SchemaBinding
