import SchemaBinding.Text.Script.Basic

/-! Greek letters, as they are pronounced today. A rough breathing is an `h`. -/
namespace SchemaBinding
namespace Text
namespace Script

def greek : Script where
  lettered :=
    [(0x370, "Hh"), (0x375, ",Ww"), (0x384, "''A;EII"), (0x38E, "YOiAVGDEZI"), (0x399, "IKLMNXOPR"),
     (0x3A3, "STYF"), (0x3A9, "OIYaeiiyavgdezi"), (0x3B9, "iklmnxoprsstyf"), (0x3C9, "oiyoyo&b"),
     (0x3D2, "YYY"), (0x3D6, "p&Qq"), (0x3DC, "WwQq"), (0x3E4, "Ff"), (0x3E8, "HhJjGg"),
     (0x3F0, "krsj"), (0x3F9, "SSsr"), (0x1F70, "aaeeiiiiooyyoo"), (0x1FB0, "aaaaa"),
     (0x1FB6, "aaAAAAA'i'"), (0x1FC2, "iii"), (0x1FC6, "iiEEIII"), (0x1FD0, "iiii"),
     (0x1FD6, "iiIIII"), (0x1FE0, "yyyyr"), (0x1FE6, "yyYYYY"), (0x1FF2, "ooo"),
     (0x1FF6, "ooOOOOO")]
  spelled :=
    [("'", "ʹ"), ("Ss", "ͲϠ"), ("ss", "ͳϡ"), ("J", "Ϳ"), ("O", "ΌὈὊὌὨὪὬὮᾨᾪᾬᾮ"), ("Th", "Θϴ"),
     ("Ch", "Χ"), ("Ps", "Ψ"), ("th", "θϑ"), ("ch", "χ"), ("ps", "ψ"), ("ph", "ϕ"), ("St", "Ϛ"),
     ("st", "ϛ"), ("Sh", "ϢϷ"), ("sh", "ϣϸ"), ("Kh", "Ϧ"), ("kh", "ϧ"), ("Ti", "Ϯ"), ("ti", "ϯ"),
     ("e", "ϵἐἒἔ"), ("a", "ἀἂἄἆᾀᾂᾄᾆ"), ("ha", "ἁἃἅἇᾁᾃᾅᾇ"), ("A", "ἈἊἌἎᾈᾊᾌᾎ"), ("Ha", "ἉἋἍἏᾉᾋᾍᾏ"),
     ("he", "ἑἓἕ"), ("E", "ἘἚἜ"), ("He", "ἙἛἝ"), ("i", "ἠἢἤἦἰἲἴἶᾐᾒᾔᾖ"), ("hi", "ἡἣἥἧἱἳἵἷᾑᾓᾕᾗ"),
     ("I", "ἨἪἬἮἸἺἼἾᾘᾚᾜᾞ"), ("Hi", "ἩἫἭἯἹἻἽἿᾙᾛᾝᾟ"), ("o", "ὀὂὄὠὢὤὦᾠᾢᾤᾦ"), ("ho", "ὁὃὅὡὣὥὧᾡᾣᾥᾧ"),
     ("Ho", "ὉὋὍὩὫὭὯᾩᾫᾭᾯ"), ("y", "ὐὒὔὖ"), ("hy", "ὑὓὕὗ"), ("Hy", "ὙὛὝὟ"), ("rh", "ῥ"), ("Rh", "Ῥ"),
     ("h", "῾")]

end Script
end Text
end SchemaBinding
