import SchemaBinding.Text.Script.Basic

/-! Latin letters beyond ASCII: those with marks lose them. -/
namespace SchemaBinding
namespace Text
namespace Script

def latin : Script where
  lettered :=
    [(0xC0, "AAAAAA"), (0xC7, "CEEEEIIIIDNOOOOO*OUUUUY"), (0xE0, "aaaaaa"),
     (0xE7, "ceeeeiiiidnooooo/ouuuuy"), (0x100, "AaAaAaCcCcCcCcDdDdEeEeEe"),
     (0x118, "EeEeGgGgGgGgHhHhIiIiIiIi"), (0x130, "Ii"), (0x134, "JjKkqLlLlLlLlLlNnNnNn"),
     (0x14C, "OoOoOo"), (0x154, "RrRrRrSsSsSsSsTtTtTtUuUu"), (0x16C, "UuUuUuUuWwYyYZzZzZzsbBBb"),
     (0x184, "66OCcDDDddEEEFfGG"), (0x196, "IIKkll"), (0x19D, "NnOOo"), (0x1A4, "Pp"),
     (0x1A7, "22"), (0x1AB, "tTtTUuUVYyZz"), (0x1BB, "255'w|"), (0x1C2, "|!"),
     (0x1CD, "AaIiOoUuUuUuUuUueAaAa"), (0x1E4, "GgGgKkOoOo"), (0x1F4, "Gg"), (0x1F7, "WNnAa"),
     (0x1FE, "Oo"), (0x200, "AaAaEeEeIiIiOoOoRrRrUuUu"), (0x218, "SsTtYyHh"),
     (0x224, "ZzAaEeOoOoOoOoYylntj"), (0x23A, "ACcLTsz"), (0x243, "BU"), (0x246, "EeJjQqRrYyaa"),
     (0x253, "bocddeeeeeeejggGgohhhiiI"), (0x26B, "llllummnnNo"), (0x278, "frlr"), (0x27D, "rr"),
     (0x280, "Rrs"), (0x284, "jl"), (0x287, "ttuuvvwyYzz"), (0x294, "'''c'BeGHjkLq"),
     (0x363, "aeioucdhmrtvx"), (0x1D03, "BCDDEeiJKLMNOOooo"), (0x1D16, "ooPRRTUuumVWZ"),
     (0x1D30, "DEEGHIJKLMN"), (0x1D3E, "PRTUWaaa"), (0x1D47, "bdeeeeg"), (0x1D4F, "km"),
     (0x1D52, "ooooptuuuv"), (0x1D5D, "vgdf"), (0x1D62, "iruvvgrf"), (0x1D6C, "bdfmnprrstz"),
     (0x1D7D, "puubdfgklmnprs"), (0x1D8C, "vxz"), (0x1D9C, "ccdefjghiiI"), (0x1DA8, "jl"),
     (0x1DAB, "LmmnnNofs"), (0x1DB5, "tuuUvvzzz"), (0x1E00, "AaBbBbBbCcDdDdDdDdDdEeEe"),
     (0x1E18, "EeEeEeFfGgHhHhHhHhHhIiIi"), (0x1E30, "KkKkKkLlLlLlLlMmMmMmNnNn"),
     (0x1E48, "NnNnOoOoOoOoPpPpRrRrRrRr"), (0x1E60, "SsSsSsSsSsTtTtTtTtUuUuUu"),
     (0x1E78, "UuUuVvVvWwWwWwWwWwXxXxYy"), (0x1E90, "ZzZzZzhtwyasss"),
     (0x1E9F, "dAaAaAaAaAaAaAaAaAaAaAaA"), (0x1EB7, "aEeEeEeEeEeEeEeEeIiIiOoO"),
     (0x1ECF, "oOoOoOoOoOoOoOoOoOoOoUuU"), (0x1EE7, "uUuUuUuUuUuYyYyYyYy"), (0x1EFC, "VvYy"),
     (0x2C60, "LlLPRatHhKkZzAMAO"), (0x2C72, "WwvHh"), (0x2C7C, "jV"), (0xA730, "FS"),
     (0xA740, "KkKkKkLlLlOoOo"), (0xA750, "PpPpPpQqQqRr"), (0xA75E, "Vv"), (0xA762, "Zz"),
     (0xA78B, "''H"), (0xA7A0, "GgKkNnRrSsHEGLI"), (0xA7B0, "KTJ")]
  spelled :=
    [("Ae", "ÆǢǼᴁᴭ"), ("Th", "ÞꝤꝦ"), ("ss", "ß"), ("ae", "æǣǽᴂᵆ"), ("th", "þᶿꝥꝧ"), ("y", "ÿ"),
     ("IJ", "Ĳ"), ("ij", "ĳ"), ("'n", "ŉ"), ("Ng", "Ŋ"), ("ng", "ŋᵑ"), ("Oe", "Œɶ"), ("oe", "œᴔ"),
     ("hv", "ƕ"), ("Gh", "Ƣ"), ("gh", "ƣ"), ("Sh", "Ʃ"), ("sh", "ƪʃʆᶋᶴ"), ("Zh", "ƷƸǮᴣ"),
     ("zh", "ƹƺǯʒʓᶾ"), ("||", "ǁ"), ("DZ", "ǄǱ"), ("Dz", "ǅǲ"), ("dz", "ǆǳʣʥ"), ("LJ", "Ǉ"),
     ("Lj", "ǈ"), ("lj", "ǉ"), ("NJ", "Ǌ"), ("Nj", "ǋ"), ("nj", "ǌ"), ("j", "ǰ"), ("Hv", "Ƕ"),
     ("d", "ȡ"), ("Ou", "Ȣᴕᴽ"), ("ou", "ȣ"), ("dzh", "ʤ"), ("ts", "ʦ"), ("tsh", "ʧ"), ("tc", "ʨ"),
     ("ls", "ʪ"), ("lz", "ʫ"), ("A", "ᴀᴬ"), ("B", "ᴮ"), ("O", "ᴼ"), ("ch", "ᵡᵪ"), ("ue", "ᵫ"),
     ("g", "ᵹ"), ("I", "ᵻ"), ("Ss", "ẞ"), ("LL", "Ỻ"), ("ll", "ỻ"), ("Aa", "Ꜳ"), ("aa", "ꜳ"),
     ("Ao", "Ꜵ"), ("ao", "ꜵ"), ("Au", "Ꜷ"), ("au", "ꜷ"), ("Av", "ꜸꜺ"), ("av", "ꜹꜻ"), ("Ay", "Ꜽ"),
     ("ay", "ꜽ"), ("Oo", "Ꝏ"), ("oo", "ꝏ"), ("Vy", "Ꝡ"), ("vy", "ꝡ"), ("ff", "ﬀ"), ("fi", "ﬁ"),
     ("fl", "ﬂ"), ("ffi", "ﬃ"), ("ffl", "ﬄ"), ("st", "ﬅﬆ")]

end Script
end Text
end SchemaBinding
