import SchemaBinding.Text.Script.Basic

/-! Hiragana and Katakana, syllable by syllable. -/
namespace SchemaBinding
namespace Text
namespace Script

def kana : Script where
  lettered :=
    [(0x3041, "aaiiuueeoo"), (0x3092, "on"), (0x309B, "\"'"), (0x30A1, "aaiiuueeoo"),
     (0x30F2, "on"), (0xFF61, ".[], oaiueo"), (0xFF71, "aiueo"), (0xFF9D, "n\"'")]
  spelled :=
    [("ka", "かゕカヵｶ"), ("ga", "がガ"), ("ki", "きキｷ"), ("gi", "ぎギ"), ("ku", "くクㇰｸ"), ("gu", "ぐグ"),
     ("ke", "けゖケヶｹ"), ("ge", "げゲ"), ("ko", "こコｺ"), ("go", "ごゴ"), ("sa", "さサｻ"), ("za", "ざザ"),
     ("shi", "しシㇱｼ"), ("ji", "じぢジヂ"), ("su", "すスㇲｽ"), ("zu", "ずづズヅ"), ("se", "せセｾ"), ("ze", "ぜゼ"),
     ("so", "そソｿ"), ("zo", "ぞゾ"), ("ta", "たタﾀ"), ("da", "だダ"), ("chi", "ちチﾁ"), ("t", "っッｯ"),
     ("tsu", "つツﾂ"), ("te", "てテﾃ"), ("de", "でデ"), ("to", "とトㇳﾄ"), ("do", "どド"), ("na", "なナﾅ"),
     ("ni", "にニﾆ"), ("nu", "ぬヌㇴﾇ"), ("ne", "ねネﾈ"), ("no", "のノﾉ"), ("ha", "はハㇵﾊ"), ("ba", "ばバ"),
     ("pa", "ぱパ"), ("hi", "ひヒㇶﾋ"), ("bi", "びビ"), ("pi", "ぴピ"), ("fu", "ふフㇷﾌ"), ("bu", "ぶブ"),
     ("pu", "ぷプ"), ("he", "へヘㇸﾍ"), ("be", "べベ"), ("pe", "ぺペ"), ("ho", "ほホㇹﾎ"), ("bo", "ぼボ"),
     ("po", "ぽポ"), ("ma", "まマﾏ"), ("mi", "みミﾐ"), ("mu", "むムㇺﾑ"), ("me", "めメﾒ"), ("mo", "もモﾓ"),
     ("ya", "ゃやャヤｬﾔ"), ("yu", "ゅゆュユｭﾕ"), ("yo", "ょよョヨｮﾖ"), ("ra", "らラㇻﾗ"), ("ri", "りリㇼﾘ"),
     ("ru", "るルㇽﾙ"), ("re", "れレㇾﾚ"), ("ro", "ろロㇿﾛ"), ("wa", "ゎわヮワﾜ"), ("wi", "ゐヰ"), ("we", "ゑヱ"),
     ("vu", "ゔヴ"), ("yori", "ゟ"), ("va", "ヷ"), ("vi", "ヸ"), ("ve", "ヹ"), ("vo", "ヺ"), (" ", "・"),
     ("koto", "ヿ"), ("((", "｟"), ("))", "｠")]

end Script
end Text
end SchemaBinding
