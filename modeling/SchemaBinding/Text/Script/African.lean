import SchemaBinding.Text.Script.Basic

/-! Scripts of Africa: Ethiopic, Coptic, Tifinagh and N'Ko. -/
namespace SchemaBinding
namespace Text
namespace Script

def ethiopic : Script where
  lettered :=
    [(0x1361, " .,;:"), (0x1367, "?.123456789")]
  spelled :=
    [("he", "ሀሄሐሔኀኄ"), ("hu", "ሁሑኁ"), ("hi", "ሂሒኂ"), ("ha", "ሃሓኃ"), ("h", "ህሕኅ"), ("ho", "ሆሖኆ"),
     ("hwa", "ሇሗኇኈኋ"), ("le", "ለሌ"), ("lu", "ሉ"), ("li", "ሊ"), ("la", "ላ"), ("l", "ል"), ("lo", "ሎ"),
     ("lwa", "ሏ"), ("me", "መሜ"), ("mu", "ሙ"), ("mi", "ሚ"), ("ma", "ማ"), ("m", "ም"), ("mo", "ሞ"),
     ("mwa", "ሟ"), ("se", "ሠሤሰሴ"), ("su", "ሡሱ"), ("si", "ሢሲ"), ("sa", "ሣሳ"), ("s", "ሥስ"),
     ("so", "ሦሶ"), ("swa", "ሧሷ"), ("re", "ረሬ"), ("ru", "ሩ"), ("ri", "ሪ"), ("ra", "ራ"), ("r", "ር"),
     ("ro", "ሮ"), ("rwa", "ሯ"), ("she", "ሸሼ"), ("shu", "ሹ"), ("shi", "ሺ"), ("sha", "ሻ"),
     ("sh", "ሽ"), ("sho", "ሾ"), ("shwa", "ሿ"), ("k'e", "ቀቄቐቔ"), ("k'u", "ቁቑ"), ("k'i", "ቂቒ"),
     ("k'a", "ቃቓ"), ("k'", "ቅቕ"), ("k'o", "ቆቖ"), ("k'wa", "ቇቈቋቘቛ"), ("k'wi", "ቊቚ"),
     ("k'we", "ቌቍቜቝ"), ("be", "በቤ"), ("bu", "ቡ"), ("bi", "ቢ"), ("ba", "ባ"), ("b", "ብ"), ("bo", "ቦ"),
     ("bwa", "ቧ"), ("ve", "ቨቬ"), ("vu", "ቩ"), ("vi", "ቪ"), ("va", "ቫ"), ("v", "ቭ"), ("vo", "ቮ"),
     ("vwa", "ቯ"), ("te", "ተቴ"), ("tu", "ቱ"), ("ti", "ቲ"), ("ta", "ታ"), ("t", "ት"), ("to", "ቶ"),
     ("twa", "ቷ"), ("che", "ቸቼ"), ("chu", "ቹ"), ("chi", "ቺ"), ("cha", "ቻ"), ("ch", "ች"),
     ("cho", "ቾ"), ("chwa", "ቿ"), ("hwi", "ኊ"), ("hwe", "ኌኍ"), ("ne", "ነኔ"), ("nu", "ኑ"),
     ("ni", "ኒ"), ("na", "ና"), ("n", "ን"), ("no", "ኖ"), ("nwa", "ኗ"), ("nye", "ኘኜ"), ("nyu", "ኙ"),
     ("nyi", "ኚ"), ("nya", "ኛ"), ("ny", "ኝ"), ("nyo", "ኞ"), ("nywa", "ኟ"), ("'a", "አኣዐዓ"),
     ("'u", "ኡዑ"), ("'i", "ኢዒ"), ("'e", "ኤዔ"), ("'", "እዕ"), ("'o", "ኦዖ"), ("'wa", "ኧ"),
     ("ke", "ከኬ"), ("ku", "ኩ"), ("ki", "ኪ"), ("ka", "ካ"), ("k", "ክ"), ("ko", "ኮ"), ("kwa", "ኯኰኳ"),
     ("kwi", "ኲ"), ("kwe", "ኴኵ"), ("khe", "ኸኼ"), ("khu", "ኹ"), ("khi", "ኺ"), ("kha", "ኻ"),
     ("kh", "ኽ"), ("kho", "ኾ"), ("khwa", "ዀዃ"), ("khwi", "ዂ"), ("khwe", "ዄዅ"), ("we", "ወዌ"),
     ("wu", "ዉ"), ("wi", "ዊ"), ("wa", "ዋ"), ("w", "ው"), ("wo", "ዎ"), ("wwa", "ዏ"), ("ze", "ዘዜ"),
     ("zu", "ዙ"), ("zi", "ዚ"), ("za", "ዛ"), ("z", "ዝ"), ("zo", "ዞ"), ("zwa", "ዟ"), ("zhe", "ዠዤ"),
     ("zhu", "ዡ"), ("zhi", "ዢ"), ("zha", "ዣ"), ("zh", "ዥ"), ("zho", "ዦ"), ("zhwa", "ዧ"),
     ("ye", "የዬ"), ("yu", "ዩ"), ("yi", "ዪ"), ("ya", "ያ"), ("y", "ይ"), ("yo", "ዮ"), ("ywa", "ዯ"),
     ("de", "ደዴዸዼ"), ("du", "ዱዹ"), ("di", "ዲዺ"), ("da", "ዳዻ"), ("d", "ድዽ"), ("do", "ዶዾ"),
     ("dwa", "ዷዿ"), ("je", "ጀጄ"), ("ju", "ጁ"), ("ji", "ጂ"), ("ja", "ጃ"), ("j", "ጅ"), ("jo", "ጆ"),
     ("jwa", "ጇ"), ("ge", "ገጌ"), ("gu", "ጉ"), ("gi", "ጊ"), ("ga", "ጋ"), ("g", "ግ"), ("go", "ጎ"),
     ("gwa", "ጏጐጓ"), ("gwi", "ጒ"), ("gwe", "ጔጕ"), ("nge", "ጘጜ"), ("ngu", "ጙ"), ("ngi", "ጚ"),
     ("nga", "ጛ"), ("ng", "ጝ"), ("ngo", "ጞ"), ("ngwa", "ጟ"), ("t'e", "ጠጤ"), ("t'u", "ጡ"),
     ("t'i", "ጢ"), ("t'a", "ጣ"), ("t'", "ጥ"), ("t'o", "ጦ"), ("t'wa", "ጧ"), ("ch'e", "ጨጬ"),
     ("ch'u", "ጩ"), ("ch'i", "ጪ"), ("ch'a", "ጫ"), ("ch'", "ጭ"), ("ch'o", "ጮ"), ("ch'wa", "ጯ"),
     ("p'e", "ጰጴ"), ("p'u", "ጱ"), ("p'i", "ጲ"), ("p'a", "ጳ"), ("p'", "ጵ"), ("p'o", "ጶ"),
     ("p'wa", "ጷ"), ("ts'e", "ጸጼፀፄ"), ("ts'u", "ጹፁ"), ("ts'i", "ጺፂ"), ("ts'a", "ጻፃ"), ("ts'", "ጽፅ"),
     ("ts'o", "ጾፆ"), ("ts'wa", "ጿፇ"), ("fe", "ፈፌ"), ("fu", "ፉ"), ("fi", "ፊ"), ("fa", "ፋ"),
     ("f", "ፍ"), ("fo", "ፎ"), ("fwa", "ፏ"), ("pe", "ፐፔ"), ("pu", "ፑ"), ("pi", "ፒ"), ("pa", "ፓ"),
     ("p", "ፕ"), ("po", "ፖ"), ("pwa", "ፗ"), ("rya", "ፘ"), ("mya", "ፙ"), ("fya", "ፚ"), (":-", "፦"),
     ("10", "፲"), ("20", "፳"), ("30", "፴"), ("40", "፵"), ("50", "፶"), ("60", "፷"), ("70", "፸"),
     ("80", "፹"), ("90", "፺"), ("100", "፻"), ("10000", "፼")]

def coptic : Script where
  lettered :=
    [(0x2C80, "AaBbGgDdEe66ZzEe"), (0x2C92, "IiKkLlMmNnXxOoPpRrSsTtUu"), (0x2CB0, "Oo")]
  spelled :=
    [("Th", "Ⲑ"), ("th", "ⲑ"), ("Ph", "Ⲫ"), ("ph", "ⲫ"), ("Kh", "Ⲭ"), ("kh", "ⲭ"), ("Ps", "Ⲯ"),
     ("ps", "ⲯ")]

def tifinagh : Script where
  lettered :=
    [(0x2D30, "ab"), (0x2D3B, "efkk"), (0x2D40, "hhhh'"), (0x2D47, "qqi"), (0x2D4D, "lmnn"),
     (0x2D52, "purr"), (0x2D59, "ss"), (0x2D5F, "tvwyzzzeo")]
  spelled :=
    [("bh", "ⴲ"), ("g", "ⴳ"), ("gh", "ⴴⵖⵗⵘ"), ("dj", "ⴵⴶ"), ("d", "ⴷⴹ"), ("dh", "ⴸⴺ"),
     ("kh", "ⴿⵅⵆ"), ("zh", "ⵊⵋⵌ"), ("ng", "ⵑ"), ("sh", "ⵛ"), ("t", "ⵜ"), ("th", "ⵝ"), ("ch", "ⵞ")]

def nko : Script where
  lettered :=
    [(0x7CA, "aeieuoo'nbptjcdrrs"), (0x7DD, "fklnm"), (0x7E3, "nhwy")]
  spelled :=
    [("gb", "\u07dc"), ("ny", "\u07e2\u07e7")]

end Script
end Text
end SchemaBinding
