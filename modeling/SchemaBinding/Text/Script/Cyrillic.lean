import SchemaBinding.Text.Script.Basic

/-! Cyrillic letters. -/
namespace SchemaBinding
namespace Text
namespace Script

def cyrillic : Script where
  lettered :=
    [(0x400, "EE"), (0x406, "IIJ"), (0x40B, "CKIU"), (0x410, "ABVGDE"), (0x417, "ZIYKLMNOPRSTUF"),
     (0x42A, "'Y'E"), (0x430, "abvgde"), (0x437, "ziyklmnoprstuf"), (0x44A, "'y'e"), (0x450, "ee"),
     (0x456, "iij"), (0x45B, "ckiu"), (0x460, "OoEe"), (0x466, "Ee"), (0x46A, "Oo"),
     (0x472, "FfYyYyUuOoOo"), (0x480, "Qq"), (0x48A, "Yy''RrGg"), (0x496, "Jj"),
     (0x49A, "QqGgQqQq"), (0x4A6, "PpOo"), (0x4AC, "TtUuUuHh"), (0x4B6, "JjJjHh"), (0x4C3, "QqLl"),
     (0x4C9, "NnJjMmhAaAa"), (0x4D6, "EeAaAa"), (0x4DE, "Jj"), (0x4E2, "IiIiOoOoOoEeUuUuUu"),
     (0x4F8, "Yy"), (0x500, "Dd"), (0x504, "Zz"), (0x50C, "SsTtEeLl"), (0x51A, "QqWwKkLlNnPpHh"),
     (0xA64A, "Uu")]
  spelled :=
    [("Dj", "ЂԂ"), ("G", "Ѓ"), ("Ie", "Є"), ("Dz", "ЅӠԆ"), ("Lj", "ЉԈ"), ("Nj", "ЊԊ"),
     ("Dzh", "ЏӜ"), ("Zh", "ЖӁ"), ("Kh", "ХӼӾ"), ("Ts", "ЦҴ"), ("Ch", "ЧҼҾӴ"), ("Sh", "Ш"),
     ("Shch", "Щ"), ("Yu", "Ю"), ("Ya", "ЯԘꙖ"), ("zh", "жӂ"), ("kh", "хӽӿ"), ("ts", "цҵ"),
     ("ch", "чҽҿӵ"), ("sh", "ш"), ("shch", "щ"), ("yu", "ю"), ("ya", "яԙꙗ"), ("dj", "ђԃ"),
     ("g", "ѓ"), ("ie", "є"), ("dz", "ѕӡԇ"), ("lj", "љԉ"), ("nj", "њԋ"), ("dzh", "џӝ"),
     ("Ye", "ѤѨ"), ("ye", "ѥѩ"), ("Yo", "Ѭ"), ("yo", "ѭ"), ("Ks", "Ѯ"), ("ks", "ѯ"), ("Ps", "Ѱ"),
     ("ps", "ѱ"), ("Ot", "Ѿ"), ("ot", "ѿ"), ("Gh", "ҒҔӶӺ"), ("gh", "ғҕӷӻ"), ("Dh", "Ҙ"),
     ("dh", "ҙ"), ("Ng", "ҢҤӇ"), ("ng", "ңҥӈ"), ("Th", "Ҫ"), ("th", "ҫ"), ("H", "Ӏ"), ("Ae", "Ӕ"),
     ("ae", "ӕ"), ("Rh", "Ԗ"), ("rh", "ԗ")]

end Script
end Text
end SchemaBinding
