import SchemaBinding.Text.Script.Basic

/-! Punctuation, numbers, units, signs and arrows. -/
namespace SchemaBinding
namespace Text
namespace Script

def symbol : Script where
  lettered :=
    [(0xA0, " !c"), (0xA4, "$Y|S\""), (0xB2, "23'uP-,1o"), (0x2B2, "jr"), (0x2B7, "wy"),
     (0x2BA, "\"'''"), (0x2E1, "lsx"), (0x2000, "           "), (0x2010, "------"),
     (0x2017, "_''''\"\"\"\"+"), (0x2022, "*>."), (0x2027, "-  "), (0x2039, "<>*"), (0x203F, "_-"),
     (0x2043, "-/[]"), (0x204A, "&P<>*;"), (0x2052, "%~_*"), (0x205E, ": "), (0x2070, "0i"),
     (0x2074, "456789+-=()n0123456789+-"), (0x208C, "=()"), (0x2090, "aeoxehklmnpst"),
     (0x20A4, "LmN"), (0x20AD, "KT"), (0x20B1, "PGA"), (0x20B5, "CL"), (0x20BB, "Mm"),
     (0x210A, "gHHHhhIILl"), (0x2118, "PPQRRR"), (0x212C, "BCeeEF"), (0x2133, "Mo"),
     (0x2145, "Ddeij"), (0x216C, "LCDMi"), (0x217C, "lcdm"), (0x2190, "<^>v"), (0x219A, "<>"),
     (0x2460, "123456789"), (0x24F5, "123456789"), (0x2500, "--||--||--||++++++++++++"),
     (0x2518, "++++++++++++++++++++++++"), (0x2530, "++++++++++++++++++++++++"),
     (0x2548, "++++--||=|++++++++++++++"), (0x2560, "+++++++++++++++++/\\X-|-|"),
     (0x2578, "-|-|-|-|################"), (0x2590, "##################"), (0x2605, "**"),
     (0x266D, "b=#+"), (0x2680, "123456"), (0x2717, "xx"), (0x2776, "123456789"), (0x27F5, "<>"),
     (0x27F8, "<>"), (0x3000, " ,.\""), (0x3008, "<>"), (0x300C, "[]"), (0x3010, "[]")]
  spelled :=
    [("GBP", "£"), ("(C)", "©"), ("a", "ª"), ("<<", "«≪《"), ("!", "¬"), ("(R)", "®"), ("-", "¯−∙"),
     ("deg", "°"), ("+-", "±"), (">>", "»≫》"), ("1/4", "¼"), ("1/2", "½"), ("3/4", "¾"), ("?", "¿"),
     ("h", "ʰ"), ("^", "ˆ⇑"), ("'", "ˈ′‵"), (":", "ː∶"), (".", "˙"), ("~", "˜∼≈〜"),
     (" ", "\u1680\u202f"), ("||", "‖∥"), ("++", "‡"), ("..", "‥"), ("...", "…"), ("%%", "‰"),
     ("%%%", "‱"), ("''", "″‶"), ("'''", "‴‷"), ("!!", "‼"), ("?!", "‽⁈"), ("***", "⁂"),
     ("??", "⁇"), ("!?", "⁉"), ("**", "⁑"), ("''''", "⁗"), ("CE", "₠"), ("C", "₡ℂ"), ("Cr", "₢"),
     ("Fr", "₣"), ("Pts", "₧"), ("Rs", "₨₹"), ("W", "₩"), ("NIS", "₪"), ("D", "₫"), ("EUR", "€"),
     ("Dr", "₯"), ("Pf", "₰"), ("UAH", "₴"), ("Sm", "₷"), ("T", "₸"), ("TL", "₺"), ("Rb", "₽"),
     ("L", "₾"), ("BTC", "₿"), ("degC", "℃"), ("c/o", "℅"), ("degF", "℉"), ("N", "ℕ"), ("No", "№"),
     ("(P)", "℗"), ("Rx", "℞"), ("SM", "℠"), ("TEL", "℡"), ("TM", "™"), ("Z", "ℤℨ"), ("i", "ℹ"),
     ("FAX", "℻"), ("&", "⅋"), ("A/S", "⅍"), ("1/7", "⅐"), ("1/9", "⅑"), ("1/10", "⅒"),
     ("1/3", "⅓"), ("2/3", "⅔"), ("1/5", "⅕"), ("2/5", "⅖"), ("3/5", "⅗"), ("4/5", "⅘"),
     ("1/6", "⅙"), ("5/6", "⅚"), ("1/8", "⅛"), ("3/8", "⅜"), ("5/8", "⅝"), ("7/8", "⅞"),
     ("1/", "⅟"), ("I", "Ⅰ"), ("II", "Ⅱ"), ("III", "Ⅲ"), ("IV", "Ⅳ"), ("V", "Ⅴ"), ("VI", "Ⅵ"),
     ("VII", "Ⅶ"), ("VIII", "Ⅷ"), ("IX", "Ⅸ"), ("X", "Ⅹ⛌"), ("XI", "Ⅺ"), ("XII", "Ⅻ"), ("ii", "ⅱ"),
     ("iii", "ⅲ"), ("iv", "ⅳ"), ("v", "ⅴ⇓✓"), ("vi", "ⅵ"), ("vii", "ⅶ"), ("viii", "ⅷ"), ("ix", "ⅸ"),
     ("x", "ⅹ✕"), ("xi", "ⅺ"), ("xii", "ⅻ"), ("0/3", "↉"), ("<>", "↔⟷"), ("<", "↞↤↼"), (">", "↠↦⇀"),
     ("<=", "⇐≤"), ("=>", "⇒"), ("<=>", "⇔⟺"), ("-+", "∓"), ("/", "∕"), ("*", "∗●"), ("inf", "∞"),
     ("|", "∣"), ("!=", "≠"), ("=", "≡"), (">=", "≥"), ("10", "⑩⓾❿"), ("11", "⑪"), ("12", "⑫"),
     ("13", "⑬"), ("14", "⑭"), ("15", "⑮"), ("16", "⑯"), ("17", "⑰"), ("18", "⑱"), ("19", "⑲"),
     ("20", "⑳"), ("0", "⓪⓿"), ("O", "○"), ("o", "◦"), ("[[", "『"), ("]]", "』"), ("mg", "㎎"),
     ("kg", "㎏"), ("mm", "㎜"), ("cm", "㎝"), ("km", "㎞"), ("m2", "㎡"), ("m3", "㎥")]

/-- Braille, by the cells of computer Braille. -/
def braille : Script where
  lettered :=
    [(0x2800, " a1b'k2l@cif/msp\"e3h9o6r"), (0x2818, "^djg>ntq+*5<-u8v.%[$+x!&"),
     (0x2830, ";:4\\0z7(_?w]#y)=")]

end Script
end Text
end SchemaBinding
