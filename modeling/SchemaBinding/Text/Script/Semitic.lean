import SchemaBinding.Text.Script.Basic

/-! Hebrew, Arabic and Thaana letters. Vowels are mostly not written. -/
namespace SchemaBinding
namespace Text
namespace Script

def hebrew : Script where
  lettered :=
    [(0x5B1, "eaoieeaaoou"), (0x5C0, "|h"), (0x5D0, "'vgdhvzhty"), (0x5DC, "lmmnns'ff"),
     (0x5E7, "krst"), (0x5F2, "y'\""), (0xFB20, "''dh"), (0xFB25, "lmrt+"), (0xFB30, "'bgdhuz"),
     (0xFB38, "tykkl"), (0xFB40, "ns"), (0xFB43, "pp"), (0xFB47, "krstov")]
  spelled :=
    [("-", "\u05be"), (".", "\u05c3"), ("o", "\u05c7"), ("kh", "\u05da\u05db\ufb24\ufb4d"),
     ("ts", "\u05e5\u05e6\ufb46"), ("v", "\u05f0"), ("vy", "\u05f1"), ("yi", "\ufb1d"),
     ("ya", "\ufb1f"), ("sh", "\ufb2a\ufb2c"), ("s", "\ufb2b\ufb2d"), ("'a", "\ufb2e\ufb2f"),
     ("m", "\ufb3e"), ("f", "\ufb4e"), ("'l", "\ufb4f")]

def arabic : Script where
  lettered :=
    [(0x621, "'a'"), (0x628, "bht"), (0x62C, "jh"), (0x631, "rzs"), (0x635, "sdt"),
     (0x641, "fqklmnhway"), (0x64E, "aui"), (0x66A, "%.,*"), (0x679, "ttbttp"), (0x688, "dddd"),
     (0x68E, "dddrrrrrgr"), (0x699, "rxsssst"), (0x6A1, "fffvf"), (0x6A7, "qqkkgk"), (0x6AE, "kgg"),
     (0x6B4, "gllllnnnnnh"), (0x6C0, "hhhhwoouuuwvy"), (0x6D0, "eyee.e")]
  spelled :=
    [(",", "\u060c"), (";", "\u061b"), ("?", "\u061f"), ("u'", "\u0624"), ("'", "\u0625\u0639"),
     ("i'", "\u0626"), ("th", "\u062b\u067f"), ("kh", "\u062e"), ("d", "\u062f"),
     ("dh", "\u0630\u0638\u068c"), ("sh", "\u0634"), ("gh", "\u063a\u06a0"), ("an", "\u064b"),
     ("un", "\u064c"), ("in", "\u064d"), ("bh", "\u0680"), ("dz", "\u0681"), ("h", "\u0682"),
     ("ny", "\u0683"), ("dy", "\u0684"), ("ts", "\u0685"), ("ch", "\u0686\u0687\u06bf"),
     ("dd", "\u068d"), ("zh", "\u0698"), ("ph", "\u06a6"), ("ng", "\u06ad\u06b1"), ("g", "\u06b2"),
     ("gg", "\u06b3"), ("ai", "\u06cd"), ("e", "\u06ce")]

def thaana : Script where
  lettered :=
    [(0x782, "nrb"), (0x786, "k'vmf"), (0x78C, "tlg"), (0x790, "sdztypj"), (0x798, "th"),
     (0x79E, "sdtz'"), (0x7A4, "qwa")]
  spelled :=
    [("h", "\u0780"), ("sh", "\u0781\u079d"), ("lh", "\u0785"), ("dh", "\u078b\u079b"),
     ("ny", "\u078f"), ("ch", "\u0797"), ("kh", "\u079a"), ("z", "\u079c"), ("gh", "\u07a3"),
     ("aa", "\u07a7"), ("i", "\u07a8"), ("ee", "\u07a9"), ("u", "\u07aa"), ("oo", "\u07ab"),
     ("e", "\u07ac"), ("ey", "\u07ad"), ("o", "\u07ae"), ("oa", "\u07af")]

end Script
end Text
end SchemaBinding
