import SchemaBinding.Text.Script.Basic

/-! Scripts of India and its neighbours. The vowel that a consonant brings along has no sign and no
counterpart. -/
namespace SchemaBinding
namespace Text
namespace Script

def devanagari : Script where
  lettered :=
    [(0x900, "mmmh"), (0x905, "aaiiuurleee"), (0x911, "ooo"), (0x919, "nc"), (0x91E, "nt"),
     (0x923, "nt"), (0x928, "nnp"), (0x92E, "myrrlllvsssh"), (0x93D, "'aiiuurreee"), (0x949, "ooo"),
     (0x95A, "gzr"), (0x95E, "fyrlll.."), (0x97B, "gj'db")]
  spelled :=
    [("ai", "\u0910\u0948"), ("au", "\u0914\u094c"), ("k", "\u0915"), ("kh", "\u0916\u0959"),
     ("g", "\u0917"), ("gh", "\u0918"), ("ch", "\u091b"), ("j", "\u091c"), ("jh", "\u091d"),
     ("th", "\u0920\u0925"), ("d", "\u0921\u0926"), ("dh", "\u0922\u0927"), ("ph", "\u092b"),
     ("b", "\u092c"), ("bh", "\u092d"), ("om", "\u0950"), ("q", "\u0958"), ("rh", "\u095d"),
     ("a", "\u0972")]

/-- What the other scripts of India have and Devanagari has not. -/
def indic : Script where
  lettered :=
    [(0x9F0, "rv"), (0xD7A, "nnrllk")]
  spelled :=
    [("t", "\u09ce"), ("Rs", "\u09f2\u0af1\u0bf9"), ("Tk", "\u09f3"), ("'", "\u0a3c"),
     ("m", "\u0a70"), ("u", "\u0a73"), ("w", "\u0b71"), ("om", "\u0bd0"), ("l", "\u0cde"),
     ("r", "\u0d4e")]

/-- The character in the same place of the block of Devanagari: the blocks of nine scripts of India
are laid out alike. -/
def aligned (c : Char) : Char :=
  if 0x980 ≤ c.toNat ∧ c.toNat < 0xD80 then Char.ofNat (0x900 + c.toNat % 0x80) else c

def sinhala : Script where
  lettered :=
    [(0xD82, "mh"), (0xD85, "aa"), (0xD89, "iiuurrllee"), (0xD94, "oo"), (0xDBA, "yr"),
     (0xDC0, "vssshlf"), (0xDD2, "iiu"), (0xDD8, "ree"), (0xDDC, "oo"), (0xDF2, "rl")]
  spelled :=
    [("ae", "\u0d87\u0d88\u0dd0\u0dd1"), ("ai", "\u0d93\u0ddb"), ("au", "\u0d96\u0dde"),
     ("k", "\u0d9a"), ("kh", "\u0d9b"), ("g", "\u0d9c"), ("gh", "\u0d9d"),
     ("n", "\u0d9e\u0da4\u0dab\u0db1"), ("ng", "\u0d9f"), ("c", "\u0da0"), ("ch", "\u0da1"),
     ("j", "\u0da2"), ("jh", "\u0da3"), ("jn", "\u0da5"), ("nj", "\u0da6"), ("t", "\u0da7\u0dad"),
     ("th", "\u0da8\u0dae"), ("d", "\u0da9\u0daf"), ("dh", "\u0daa\u0db0"), ("nd", "\u0dac\u0db3"),
     ("p", "\u0db4"), ("ph", "\u0db5"), ("b", "\u0db6"), ("bh", "\u0db7"), ("m", "\u0db8"),
     ("mb", "\u0db9"), ("l", "\u0dbd\u0ddf"), ("a", "\u0dcf"), ("u", "\u0dd6")]

def thai : Script where
  lettered :=
    [(0xE0D, "ydt"), (0xE13, "ndt"), (0xE19, "nbp"), (0xE21, "myr"), (0xE27, "wssshloh"),
     (0xE30, "aaa"), (0xE34, "ii"), (0xE38, "uu"), (0xE3F, "Be")]
  spelled :=
    [("k", "\u0e01"), ("kh", "\u0e02\u0e03\u0e04\u0e05\u0e06"), ("ng", "\u0e07"),
     ("ch", "\u0e08\u0e09\u0e0a\u0e0c"), ("s", "\u0e0b"),
     ("th", "\u0e10\u0e11\u0e12\u0e16\u0e17\u0e18"), ("ph", "\u0e1c\u0e1e\u0e20"),
     ("f", "\u0e1d\u0e1f"), ("rue", "\u0e24"), ("l", "\u0e25"), ("lue", "\u0e26"), ("am", "\u0e33"),
     ("ue", "\u0e36\u0e37"), ("ae", "\u0e41"), ("o", "\u0e42"), ("ai", "\u0e43\u0e44")]

def lao : Script where
  lettered :=
    [(0xE94, "dt"), (0xE99, "nbp"), (0xEA1, "myr"), (0xEAA, "sh"), (0xEAD, "oh"), (0xEB0, "aaa"),
     (0xEB4, "iiuuuu"), (0xEBB, "ol"), (0xEDC, "nm")]
  spelled :=
    [("k", "\u0e81"), ("kh", "\u0e82\u0e84"), ("ng", "\u0e87"), ("ch", "\u0e88"), ("x", "\u0e8a"),
     ("ny", "\u0e8d"), ("th", "\u0e96\u0e97"), ("ph", "\u0e9c\u0e9e"), ("f", "\u0e9d\u0e9f"),
     ("l", "\u0ea5"), ("v", "\u0ea7"), ("am", "\u0eb3"), ("ia", "\u0ebd"), ("e", "\u0ec0"),
     ("ae", "\u0ec1"), ("o", "\u0ec2"), ("ai", "\u0ec3\u0ec4")]

def khmer : Script where
  lettered :=
    [(0x178E, "nt"), (0x1793, "nb"), (0x1798, "myrlvssshl"), (0x17B6, "aei"), (0x17BB, "ou"),
     (0x17C6, "mh")]
  spelled :=
    [("k", "\u1780\u1782"), ("kh", "\u1781\u1783"), ("ng", "\u1784"), ("ch", "\u1785\u1787"),
     ("chh", "\u1786\u1788"), ("nh", "\u1789"), ("d", "\u178a\u178c"),
     ("th", "\u178b\u178d\u1790\u1792"), ("t", "\u1791"), ("ph", "\u1795\u1797"), ("p", "\u1796"),
     ("e", "\u17a5\u17c1"), ("ei", "\u17a6"), ("o", "\u17a7"), ("ou", "\u17a9"), ("rue", "\u17ab"),
     ("rueu", "\u17ac"), ("lue", "\u17ad"), ("lueu", "\u17ae"), ("ae", "\u17af\u17c2"),
     ("ai", "\u17b0\u17c3"), ("ao", "\u17b1\u17c4"), ("au", "\u17b3\u17c5"), ("oe", "\u17b9"),
     ("eu", "\u17ba"), ("uo", "\u17bd"), ("aeu", "\u17be"), ("oea", "\u17bf"), ("ie", "\u17c0"),
     (".", "\u17d4"), ("KHR", "\u17db")]

def burmese : Script where
  lettered :=
    [(0x1002, "gg"), (0x1007, "zz"), (0x100D, "ddnt"), (0x1012, "ddnp"), (0x1017, "bbmyrlw"),
     (0x101F, "hl"), (0x1023, "iiuue"), (0x1029, "ooaaiiuuee"), (0x103B, "yrwhs"), (0x104A, ",.")]
  spelled :=
    [("k", "\u1000"), ("hk", "\u1001"), ("ng", "\u1004"), ("s", "\u1005"), ("hs", "\u1006"),
     ("ny", "\u1009\u100a"), ("t", "\u100b"), ("ht", "\u100c\u1011"), ("hp", "\u1016"),
     ("th", "\u101e"), ("n", "\u1036")]

def tibetan : Script where
  lettered :=
    [(0xF0B, "  .."), (0xF4E, "nt"), (0xF53, "np"), (0xF5F, "z'yrl"), (0xF66, "sh"), (0xF6A, "rkr"),
     (0xF71, "aiiuu"), (0xF7E, "mhi"), (0xF9E, "nt"), (0xFA3, "np"), (0xFAF, "z'yrl"),
     (0xFB6, "sh"), (0xFBA, "wyr")]
  spelled :=
    [("om", "\u0f00"), ("k", "\u0f40\u0f90"), ("kh", "\u0f41\u0f91"), ("g", "\u0f42\u0f92"),
     ("gh", "\u0f43\u0f93"), ("ng", "\u0f44\u0f94"), ("c", "\u0f45\u0f95"), ("ch", "\u0f46\u0f96"),
     ("j", "\u0f47\u0f97"), ("ny", "\u0f49\u0f99"), ("t", "\u0f4a\u0f9a"),
     ("th", "\u0f4b\u0f50\u0f9b\u0fa0"), ("d", "\u0f4c\u0f51\u0f9c\u0fa1"),
     ("dh", "\u0f4d\u0f52\u0f9d\u0fa2"), ("ph", "\u0f55\u0fa5"), ("b", "\u0f56\u0fa6"),
     ("bh", "\u0f57\u0fa7"), ("m", "\u0f58\u0fa8"), ("ts", "\u0f59\u0fa9"), ("tsh", "\u0f5a\u0faa"),
     ("dz", "\u0f5b\u0fab"), ("dzh", "\u0f5c\u0fac"), ("w", "\u0f5d\u0fad"), ("zh", "\u0f5e\u0fae"),
     ("sh", "\u0f64\u0f65\u0fb4\u0fb5"), ("ks", "\u0f69\u0fb9"), ("e", "\u0f7a"), ("ai", "\u0f7b"),
     ("o", "\u0f7c"), ("au", "\u0f7d")]

end Script
end Text
end SchemaBinding
