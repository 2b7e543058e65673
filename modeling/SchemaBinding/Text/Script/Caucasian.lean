import SchemaBinding.Text.Script.Basic

/-! Armenian and Georgian letters. -/
namespace SchemaBinding
namespace Text
namespace Script

def armenian : Script where
  lettered :=
    [(0x531, "ABGDEZEY"), (0x53B, "IL"), (0x53F, "KH"), (0x544, "MYN"), (0x54A, "PJRSVTR"),
     (0x555, "OF"), (0x55A, "'!!,?."), (0x561, "abgdezey"), (0x56B, "il"), (0x56F, "kh"),
     (0x574, "myn"), (0x57A, "pjrsvtr"), (0x585, "of"), (0x589, ".-")]
  spelled :=
    [("T'", "Թ"), ("Zh", "Ժ"), ("Kh", "Խ"), ("Ts", "Ծ"), ("Dz", "Ձ"), ("Gh", "Ղ"), ("Ch", "Ճ"),
     ("Sh", "Շ"), ("O", "Ո"), ("Ch'", "Չ"), ("Ts'", "Ց"), ("W", "Ւ"), ("P'", "Փ"), ("K'", "Ք"),
     ("t'", "թ"), ("zh", "ժ"), ("kh", "խ"), ("ts", "ծ"), ("dz", "ձ"), ("gh", "ղ"), ("ch", "ճ"),
     ("sh", "շ"), ("o", "ո"), ("ch'", "չ"), ("ts'", "ց"), ("w", "ւ"), ("p'", "փ"), ("k'", "ք"),
     ("ev", "և"), ("AMD", "֏"), ("mn", "ﬓ"), ("me", "ﬔ"), ("mi", "ﬕ"), ("vn", "ﬖ"), ("mkh", "ﬗ")]

def georgian : Script where
  lettered :=
    [(0x10A0, "ABGDEVZTI"), (0x10AA, "LMNO"), (0x10B0, "RS"), (0x10B3, "UPK"), (0x10BF, "JHEYW"),
     (0x10D0, "abgdevzti"), (0x10DA, "lmno"), (0x10E0, "rs"), (0x10E3, "upk"), (0x10EF, "jheyw"),
     (0x10F5, "of"), (0x1C90, "ABGDEVZTI"), (0x1C9A, "LMNO"), (0x1CA0, "RS"), (0x1CA3, "UPK"),
     (0x1CAF, "JH"), (0x2D00, "abgdevzti"), (0x2D0A, "lmno"), (0x2D10, "rs"), (0x2D13, "upk"),
     (0x2D1F, "jheyw")]
  spelled :=
    [("K'", "ႩᲙ"), ("P'", "ႮᲞ"), ("Zh", "ႯᲟ"), ("T'", "ႲᲢ"), ("Gh", "ႶᲦ"), ("Q'", "ႷᲧ"),
     ("Sh", "ႸᲨ"), ("Ch", "ႹᲩ"), ("Ts", "ႺᲪ"), ("Dz", "ႻᲫ"), ("Ts'", "ႼᲬ"), ("Ch'", "ႽᲭ"),
     ("Kh", "ႾჄᲮ"), ("O", "Ⴥ"), ("k'", "კⴉ"), ("p'", "პⴎ"), ("zh", "ჟⴏ"), ("t'", "ტⴒ"),
     ("gh", "ღⴖ"), ("q'", "ყⴗ"), ("sh", "შⴘ"), ("ch", "ჩⴙ"), ("ts", "ცⴚ"), ("dz", "ძⴛ"),
     ("ts'", "წⴜ"), ("ch'", "ჭⴝ"), ("kh", "ხჴⴞⴤ"), ("o", "ⴥ")]

end Script
end Text
end SchemaBinding
