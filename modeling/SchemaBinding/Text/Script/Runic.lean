import SchemaBinding.Text.Script.Basic

/-! Runes, Ogham and Gothic letters. -/
namespace SchemaBinding
namespace Text
namespace Script

def runic : Script where
  lettered :=
    [(0x16A0, "fvuyyw"), (0x16A8, "ao"), (0x16AB, "ooo"), (0x16B0, "rkckg"),
     (0x16B6, "ggwhhhhnnniejg"), (0x16C7, "pzsssczttdbbppemmmll"), (0x16DD, "do"), (0x16E2, "qk"),
     (0x16E5, "akg")]
  spelled :=
    [("th", "ᚦᚧ"), ("ae", "ᚪᛄ"), ("oe", "ᚮ"), ("on", "ᚯ"), ("ng", "ᚵᛛᛜ"), ("a", "ᛅ"), ("eo", "ᛆ"),
     ("ea", "ᛟ"), ("io", "ᛠ"), ("qu", "ᛡ"), ("st", "ᛤ")]

def ogham : Script where
  lettered :=
    [(0x1681, "blfsnhdtcqmg"), (0x168E, "zraouei")]
  spelled :=
    [("ng", "ᚍ"), ("ea", "ᚕ"), ("oi", "ᚖ"), ("ui", "ᚗ"), ("ia", "ᚘ"), ("ae", "ᚙ"), ("p", "ᚚ")]

def gothic : Script where
  lettered :=
    [(0x10330, "abgdeqzh"), (0x10339, "iklmnjup"), (0x10342, "rstwfx")]
  spelled :=
    [("th", "𐌸"), ("90", "𐍁"), ("hw", "𐍈"), ("o", "𐍉"), ("900", "𐍊")]

end Script
end Text
end SchemaBinding
