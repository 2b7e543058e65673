import SchemaBinding.Text.Script.Basic

/-! Characters that stand for others in a frame, in small print, or several in one: they are spelled
like what they stand for. -/
namespace SchemaBinding
namespace Text
namespace Script

def compatible : Script where
  lettered :=
    [(0x212A, "KA"), (0x2135, "'vgd"), (0x213C, "pgGP"), (0x226E, "<>"), (0x2329, "<>"),
     (0x32D0, "aiueo"), (0xFE10, ",,.:;!?"), (0xFE31, "--__()\x7b\x7d"), (0xFE3B, "[]"),
     (0xFE3F, "<>[]"), (0xFE47, "[]    ___,,."), (0xFE54, ";:?!-()\x7b\x7d"), (0xFE5F, "#&*+-<>="),
     (0xFE68, "\\$%@"), (0xFFE2, "! |YW"), (0xFFE8, "|<^>v#O"), (0x1F12B, "CR")]
  spelled :=
    [(" ", "‾"), ("(1)", "⑴"), ("(10)", "⑽"), ("(11)", "⑾"), ("(12)", "⑿"), ("(13)", "⒀"),
     ("(14)", "⒁"), ("(15)", "⒂"), ("(16)", "⒃"), ("(17)", "⒄"), ("(18)", "⒅"), ("(19)", "⒆"),
     ("(2)", "⑵"), ("(20)", "⒇"), ("(3)", "⑶"), ("(4)", "⑷"), ("(5)", "⑸"), ("(6)", "⑹"),
     ("(7)", "⑺"), ("(8)", "⑻"), ("(9)", "⑼"), ("(A)", "🄐"), ("(B)", "🄑"), ("(Ba)", "㈧"),
     ("(C)", "🄒"), ("(Cai)", "㈶"), ("(D)", "🄓"), ("(Dai)", "㈹"), ("(E)", "🄔"), ("(Er)", "㈡"),
     ("(F)", "🄕"), ("(G)", "🄖"), ("(H)", "🄗"), ("(Hu)", "㈺"), ("(Huo)", "㈫"), ("(I)", "🄘"),
     ("(J)", "🄙"), ("(Ji)", "㉀"), ("(Jian)", "㈼"), ("(Jin)", "㈮"), ("(Jiu)", "㈨"), ("(K)", "🄚"),
     ("(L)", "🄛"), ("(Lao)", "㈸"), ("(Liu)", "㈥"), ("(M)", "🄜"), ("(Ming)", "㈴"), ("(Mu)", "㈭"),
     ("(N)", "🄝"), ("(O)", "🄞"), ("(P)", "🄟"), ("(Q)", "🄠"), ("(Qi)", "㈦㈽"), ("(R)", "🄡"),
     ("(Ri)", "㈰"), ("(S)", "🄢"), ("(San)", "㈢"), ("(She)", "㈳"), ("(Shi)", "㈩"), ("(Shui)", "㈬"),
     ("(Si)", "㈣"), ("(T)", "🄣"), ("(Te)", "㈵"), ("(Tu)", "㈯"), ("(U)", "🄤"), ("(V)", "🄥"),
     ("(W)", "🄦"), ("(Wu)", "㈤"), ("(X)", "🄧"), ("(Xie)", "㈿"), ("(Xiu)", "㉁"), ("(Xue)", "㈻"),
     ("(Y)", "🄨"), ("(Yi)", "㈠"), ("(You)", "㈲"), ("(Yue)", "㈪"), ("(Z)", "🄩"), ("(Zhi)", "㉃"),
     ("(Zhu)", "㈱㈷"), ("(Zi)", "㈾㉂"), ("(a)", "⒜"), ("(b)", "⒝"), ("(c)", "⒞"), ("(d)", "⒟"),
     ("(e)", "⒠"), ("(f)", "⒡"), ("(g)", "⒢"), ("(h)", "⒣"), ("(i)", "⒤"), ("(j)", "⒥"),
     ("(k)", "⒦"), ("(l)", "⒧"), ("(m)", "⒨"), ("(n)", "⒩"), ("(o)", "⒪"), ("(p)", "⒫"),
     ("(q)", "⒬"), ("(r)", "⒭"), ("(s)", "⒮"), ("(t)", "⒯"), ("(u)", "⒰"), ("(v)", "⒱"),
     ("(w)", "⒲"), ("(x)", "⒳"), ("(y)", "⒴"), ("(z)", "⒵"), ("..", "︰"), ("...", "︙"), ("0,", "🄁"),
     ("0.", "🄀"), ("0Dian", "㍘"), ("1,", "🄂"), ("1.", "⒈"), ("10.", "⒑"), ("10Dian", "㍢"),
     ("10Ri", "㏩"), ("10Yue", "㋉"), ("11.", "⒒"), ("11Dian", "㍣"), ("11Ri", "㏪"), ("11Yue", "㋊"),
     ("12.", "⒓"), ("12Dian", "㍤"), ("12Ri", "㏫"), ("12Yue", "㋋"), ("13.", "⒔"), ("13Dian", "㍥"),
     ("13Ri", "㏬"), ("14.", "⒕"), ("14Dian", "㍦"), ("14Ri", "㏭"), ("15.", "⒖"), ("15Dian", "㍧"),
     ("15Ri", "㏮"), ("16.", "⒗"), ("16Dian", "㍨"), ("16Ri", "㏯"), ("17.", "⒘"), ("17Dian", "㍩"),
     ("17Ri", "㏰"), ("18.", "⒙"), ("18Dian", "㍪"), ("18Ri", "㏱"), ("19.", "⒚"), ("19Dian", "㍫"),
     ("19Ri", "㏲"), ("1Dian", "㍙"), ("1Ri", "㏠"), ("1Yue", "㋀"), ("2,", "🄃"), ("2.", "⒉"),
     ("20.", "⒛"), ("20Dian", "㍬"), ("20Ri", "㏳"), ("21", "㉑"), ("21Dian", "㍭"), ("21Ri", "㏴"),
     ("22", "㉒"), ("22Dian", "㍮"), ("22Ri", "㏵"), ("23", "㉓"), ("23Dian", "㍯"), ("23Ri", "㏶"),
     ("24", "㉔"), ("24Dian", "㍰"), ("24Ri", "㏷"), ("25", "㉕"), ("25Ri", "㏸"), ("26", "㉖"),
     ("26Ri", "㏹"), ("27", "㉗"), ("27Ri", "㏺"), ("28", "㉘"), ("28Ri", "㏻"), ("29", "㉙"),
     ("29Ri", "㏼"), ("2Dian", "㍚"), ("2Ri", "㏡"), ("2Yue", "㋁"), ("3,", "🄄"), ("3.", "⒊"),
     ("30", "㉚"), ("30Ri", "㏽"), ("31", "㉛"), ("31Ri", "㏾"), ("32", "㉜"), ("33", "㉝"), ("34", "㉞"),
     ("35", "㉟"), ("36", "㊱"), ("37", "㊲"), ("38", "㊳"), ("39", "㊴"), ("3Dian", "㍛"), ("3Ri", "㏢"),
     ("3Yue", "㋂"), ("4,", "🄅"), ("4.", "⒋"), ("40", "㊵"), ("41", "㊶"), ("42", "㊷"), ("43", "㊸"),
     ("44", "㊹"), ("45", "㊺"), ("46", "㊻"), ("47", "㊼"), ("48", "㊽"), ("49", "㊾"), ("4Dian", "㍜"),
     ("4Ri", "㏣"), ("4Yue", "㋃"), ("5,", "🄆"), ("5.", "⒌"), ("50", "㊿"), ("5Dian", "㍝"),
     ("5Ri", "㏤"), ("5Yue", "㋄"), ("6,", "🄇"), ("6.", "⒍"), ("6Dian", "㍞"), ("6Ri", "㏥"),
     ("6Yue", "㋅"), ("7,", "🄈"), ("7.", "⒎"), ("7Dian", "㍟"), ("7Ri", "㏦"), ("7Yue", "㋆"),
     ("8,", "🄉"), ("8.", "⒏"), ("8Dian", "㍠"), ("8Ri", "㏧"), ("8Yue", "㋇"), ("9,", "🄊"),
     ("9.", "⒐"), ("9Dian", "㍡"), ("9Ri", "㏨"), ("9Yue", "㋈"), ("::=", "⩴"), ("<<", "︽"),
     ("<=", "⇍≰"), ("<=>", "⇎"), ("<>", "↮"), ("=", "≢"), ("==", "⩵"), ("===", "⩶"), ("=>", "⇏"),
     (">=", "≱"), (">>", "︾"), ("A/m", "㏟"), ("AU", "㍳"), ("Ba", "㊇"), ("Bing", "㆛"), ("Bq", "㏃"),
     ("Bu", "🈨"), ("C/kg", "㏆"), ("CD", "🄭"), ("Cai", "㊖"), ("Chu", "🈠"), ("Chui", "🈥"),
     ("Co.", "㏇"), ("DJ", "🆐"), ("Da", "🈱"), ("DaZheng", "㍽"), ("De", "㆞"), ("Ding", "㆜"),
     ("Duo", "🈕"), ("E", "ℇ"), ("Er", "㆓㊁🈔"), ("Fan", "🈣"), ("GB", "㎇"), ("GBP", "￡"), ("GHz", "㎓"),
     ("GPa", "㎬"), ("Gy", "㏉"), ("HP", "㏋"), ("HV", "🅊"), ("Hg", "㋌"), ("Hou", "🈝"), ("Huo", "㊋"),
     ("Hz", "㎐"), ("IU", "㍺"), ("Jia", "㆙"), ("Jian", "㊬"), ("Jiao", "🈘"), ("Jie", "🈖"),
     ("Jin", "㊎"), ("Jiu", "㊈"), ("KB", "㎅"), ("KK", "㏍"), ("KM", "㏎"), ("LTD", "㋏"), ("Lao", "㊘"),
     ("Liao", "🈛"), ("LingHe", "㋿"), ("Liu", "㊅"), ("MB", "㎆"), ("MC", "🅪"), ("MD", "🅫"),
     ("MHz", "㎒"), ("MO", "㏁"), ("MPa", "㎫"), ("MR", "🅬"), ("MV", "㎹🅋"), ("MW", "㎿"), ("Mi", "㊙"),
     ("Ming", "㊔"), ("MingZhi", "㍾"), ("Mu", "㊍"), ("Nan", "㊚"), ("Nian", "〹"), ("Nu", "㊛"),
     ("O", "Ω"), ("PH", "㏗"), ("PPM", "㏙"), ("PPV", "🅎"), ("PR", "㏚"), ("PTE", "㉐"), ("Pa", "㎩"),
     ("Pei", "🈻"), ("PingCheng", "㍻"), ("Qi", "㊆㊭"), ("Qian", "🈜"), ("Ren", "㆟"), ("Ri", "㊐"),
     ("SD", "🅌"), ("SS", "🅍"), ("Sa", "〺"), ("San", "㆔㊂🈪"), ("Shang", "㆖㊤"), ("She", "㊓"),
     ("Sheng", "🈢🈤"), ("Shi", "〸㊉㊜"), ("Shou", "🈐"), ("Shuang", "🈒"), ("Shui", "㊌"), ("Si", "㆕㊃"),
     ("Sv", "㏜"), ("THz", "㎔"), ("Te", "㊕"), ("Tian", "㆝🈗"), ("Tou", "🈧"), ("Tu", "㊏"),
     ("V/m", "㏞"), ("WC", "🅏"), ("WZ", "🄮"), ("Wb", "㏝"), ("Wen", "㉄㉆"), ("Wu", "㊄"), ("Xia", "㆘㊦"),
     ("Xiang", "㊠"), ("Xie", "㊢㊯"), ("Xin", "🈟"), ("Xiu", "㊡"), ("Xue", "㊫"), ("Yan", "🈦"),
     ("Ye", "㊰"), ("Yi", "㆒㆚㊀㊩🈩"), ("Yin", "㊞"), ("Ying", "🈙"), ("You", "㉅㊒㊝㊨🈫🈮"), ("Yue", "㊊"),
     ("Zai", "🈞"), ("ZhaoHe", "㍼"), ("Zheng", "㉇㊣"), ("Zhong", "㆗㊥🈡🈭"), ("Zhu", "㊑㊗㊟"),
     ("ZhuShiHuiShe", "㍿"), ("Zi", "㊮🈑"), ("Zong", "㊪"), ("Zou", "🈰"), ("Zuo", "㊧🈬"), ("[[", "﹃"),
     ("]]", "﹄"), ("a.m.", "㏂"), ("a/c", "℀"), ("a/s", "℁"), ("anhea", "㌂"), ("arufua", "㌁"),
     ("bar", "㍴"), ("c", "￠"), ("c/u", "℆"), ("cal", "㎈"), ("cc", "㏄"), ("cd", "㏅"), ("chi", "㋠"),
     ("cm2", "㎠"), ("cm3", "㎤"), ("dB", "㏈"), ("da", "㍲"), ("dl", "㎗"), ("dm", "㍷"), ("dm2", "㍸"),
     ("dm3", "㍹"), ("eV", "㋎"), ("erg", "㋍"), ("fm", "㎙"), ("fu", "㋫"), ("fuaratto", "㌲"),
     ("furan", "㌵"), ("futshieru", "㌴"), ("gal", "㏿"), ("hPa", "㍱"), ("ha", "㋩㏊"), ("haitsu", "㌪"),
     ("he", "㋬"), ("henihi", "㌸"), ("hensu", "㌺"), ("herutsu", "㌹"), ("heso", "㌷"), ("hi", "㋪"),
     ("hiasutoru", "㌮"), ("hiko", "㌰"), ("hikuru", "㌯"), ("hiru", "㌱"), ("ho", "㋭"),
     ("hointo", "㌽"), ("hoka", "🈀"), ("hon", "㌿"), ("honto", "㍀"), ("horuto", "㌾"), ("in", "㏌"),
     ("inchi", "㌅"), ("ininku", "㌄"), ("kA", "㎄"), ("kHz", "㎑"), ("kO", "㏀"), ("kPa", "㎪"),
     ("kV", "㎸"), ("kW", "㎾"), ("ka", "㋕"), ("kairi", "㌋"), ("kanma", "㌏"), ("karatto", "㌌"),
     ("karon", "㌎"), ("kcal", "㎉"), ("ke", "㋘"), ("ki", "㋖"), ("kika", "㌐"), ("kiro", "㌔"),
     ("kirokuramu", "㌕"), ("kirowatto", "㌗"), ("kl", "㎘"), ("km2", "㎢"), ("km3", "㎦"), ("ko", "㋙"),
     ("koruna", "㌝"), ("kt", "㏏"), ("ku", "㋗"), ("kuramu", "㌘"), ("kuramuton", "㌙"),
     ("kuruseiro", "㌚"), ("lm", "㏐"), ("ln", "㏑"), ("log", "㏒"), ("lx", "㏓"), ("m/s", "㎧"),
     ("m/s2", "㎨"), ("mA", "㎂㎃"), ("mF", "㎌"), ("mV", "㎶㎷"), ("mW", "㎼㎽"), ("ma", "㋮"),
     ("maikuro", "㍃"), ("mairu", "㍄"), ("manshiyon", "㍇"), ("maruku", "㍆"), ("matha", "㍅"),
     ("mb", "㏔"), ("me", "㋱"), ("meka", "㍋"), ("mekaton", "㍌"), ("mg", "㎍"), ("mi", "㋯"),
     ("mikuron", "㍈"), ("mil", "㏕"), ("miri", "㍉"), ("ml", "㎕㎖"), ("mm", "㎛"), ("mm2", "㎟"),
     ("mm3", "㎣"), ("mo", "㋲"), ("mol", "㏖"), ("ms", "㎲㎳"), ("mu", "㋰"), ("nA", "㎁"), ("nF", "㎋"),
     ("nV", "㎵"), ("nW", "㎻"), ("na", "㋤"), ("nano", "㌨"), ("ne", "㋧"), ("ni", "㋥"), ("nm", "㎚"),
     ("no", "㋨"), ("notto", "㌩"), ("ns", "㎱"), ("nu", "㋦"), ("o", "㋾"), ("oV", "㍵"), ("onsu", "㌉"),
     ("p.m.", "㏘"), ("pA", "㎀"), ("pF", "㎊"), ("pV", "㎴"), ("pW", "㎺"), ("pc", "㍶"), ("ps", "㎰"),
     ("ra", "㋶"), ("rad", "㎭"), ("rad/s", "㎮"), ("rad/s2", "㎯"), ("re", "㋹"), ("remu", "㍕"),
     ("rentoken", "㍖"), ("ri", "㋷"), ("rira", "㍒"), ("rittoru", "㍑"), ("ro", "㋺"), ("ru", "㋸"),
     ("sa", "㋚"), ("saikuru", "㌟"), ("se", "㋝"), ("senchi", "㌢"), ("sento", "㌣"), ("shi", "㋛"),
     ("shirinku", "㌡"), ("so", "㋞"), ("sr", "㏛"), ("su", "㋜"), ("ta", "㋟"), ("te", "㋢🈓"),
     ("teshi", "㌥"), ("to", "㋣"), ("ton", "㌧"), ("toru", "㌦"), ("tsu", "㋡"), ("uon", "㌆"),
     ("wa", "㋻"), ("watto", "㍗"), ("we", "㋽"), ("wi", "㋼"), ("ya", "㋳"), ("yo", "㋵"), ("yu", "㋴"),
     ("yuan", "㍐"), ("|", "∤"), ("||", "∦"), ("~", "≁≉")]

/-- Arabic letters in the shapes that they take in words, and ligatures. -/
def arabicForms : Script where
  lettered :=
    [(0xFB52, "bbbbpppp"), (0xFB5E, "tttt"), (0xFB66, "ttttvvvv"), (0xFB86, "dddd"),
     (0xFB8C, "rrkkkkgggg"), (0xFB9E, "nnnnnneehhhhhhhheeee"), (0xFBD7, "uuoouuuvvoouueeeeaayy"),
     (0xFBFC, "yyyy"), (0xFC5C, "ra"), (0xFCF2, "aui"), (0xFE7B, "i "), (0xFE85, "ww"),
     (0xFE89, "yyyy"), (0xFE8F, "bbbbhhtttt"), (0xFE9D, "jjjjhhhh"), (0xFEA9, "dd"),
     (0xFEAD, "rrzzssss"), (0xFEB9, "ssssddddtttt"), (0xFEC9, "''''"),
     (0xFED1, "ffffqqqqkkkkllllmmmmnnnn"), (0xFEE9, "hhhhwwaayyyyllllllll")]
  spelled :=
    [(" ", "\ufc63\ufe7e"), (" a", "\ufc60\ufe76"), (" an", "\ufe70"), (" i", "\ufc62\ufe7a"),
     (" in", "\ufc5f\ufe74"), (" u", "\ufc61\ufe78"), (" un", "\ufc5e\ufe72"), ("'", "\ufe80"),
     ("'a", "\ufcf7\ufd13"), ("'j", "\ufc29\ufcba"), ("'jm", "\ufd75\ufdc4"), ("'lyh", "\ufdf7"),
     ("'m", "\ufc2a\ufcbb"), ("'ma", "\ufd78"), ("'mm", "\ufd76\ufd77"), ("'my", "\ufdb6"),
     ("'y", "\ufcf8\ufd14"), ("a", "\ufc90\ufe77"), ("an", "\ufd3c\ufd3d\ufe71"),
     ("ba", "\ufc09\ufc6e"), ("bh", "\ufb5a\ufb5b\ufb5c\ufb5d\ufc06\ufc9d\ufca0\ufce2"),
     ("bhy", "\ufdc2"), ("bj", "\ufc05\ufc9c"), ("bkh", "\ufc07\ufc9e"), ("bkhy", "\ufd9e"),
     ("bm", "\ufc08\ufc6c\ufc9f\ufce1"), ("bn", "\ufc6d"), ("br", "\ufc6a"), ("by", "\ufc0a\ufc6f"),
     ("bz", "\ufc6b"), ("ch", "\ufb7a\ufb7b\ufb7c\ufb7d\ufb7e\ufb7f\ufb80\ufb81"),
     ("da", "\ufd07\ufd23"), ("dd", "\ufb82\ufb83"),
     ("dh", "\ufb84\ufb85\ufc23\ufc5b\ufcb5\ufeab\ufeac\ufec5\ufec6\ufec7"), ("dh", "\ufec8"),
     ("dha", "\ufd6e"), ("dhm", "\ufc28\ufcb9\ufd3b"), ("dhy", "\ufdab"), ("dj", "\ufc22\ufcb4"),
     ("dkh", "\ufc24\ufcb6"), ("dkhm", "\ufd6f\ufd70"), ("dm", "\ufc25\ufcb7"),
     ("dr", "\ufd10\ufd2c"), ("dy", "\ufb72\ufb73\ufb74\ufb75\ufd08\ufd24"), ("fa", "\ufc31\ufc7c"),
     ("fh", "\ufc2e\ufcbf"), ("fj", "\ufc2d\ufcbe"), ("fkh", "\ufc2f\ufcc0"),
     ("fkhm", "\ufd7c\ufd7d"), ("fm", "\ufc30\ufcc1"), ("fmy", "\ufdc1"), ("fy", "\ufc32\ufc7d"),
     ("gg", "\ufb96\ufb97\ufb98\ufb99"), ("gh", "\ufecd\ufece\ufecf\ufed0"),
     ("gha", "\ufcf9\ufd15"), ("ghj", "\ufc2b\ufcbc"), ("ghm", "\ufc2c\ufcbd"), ("ghma", "\ufd7b"),
     ("ghmm", "\ufd79"), ("ghmy", "\ufd7a"), ("ghy", "\ufcfa\ufd16"), ("h", "\ufcd9"),
     ("ha", "\ufc53\ufcff\ufd1b"), ("hj", "\ufc17\ufc51\ufca9\ufcd7"), ("hjy", "\ufdbf"),
     ("hm", "\ufc18\ufc52\ufcaa\ufcd8"), ("hma", "\ufd5b"), ("hmj", "\ufd93"), ("hmm", "\ufd94"),
     ("hmy", "\ufd5a"), ("hy", "\ufc54\ufd00\ufd1c"), ("ja", "\ufd01\ufd1d"),
     ("jh", "\ufc15\ufca7"), ("jha", "\ufda6"), ("jhy", "\ufdbe"), ("jl jllh", "\ufdfb"),
     ("jm", "\ufc16\ufca8"), ("jma", "\ufda7"), ("jmh", "\ufd58\ufd59"), ("jmy", "\ufda5"),
     ("jy", "\ufd02\ufd1e"), ("k", "\ufc37\ufc80"), ("ka", "\ufc3d\ufc83"), ("kbr", "\ufdf3"),
     ("kh", "\ufc39\ufcc5\ufea5\ufea6\ufea7\ufea8"), ("kha", "\ufd03\ufd1f"), ("khh", "\ufc1a"),
     ("khj", "\ufc19\ufcab"), ("khm", "\ufc1b\ufcac"), ("khy", "\ufd04\ufd20"),
     ("kj", "\ufc38\ufcc4"), ("kkh", "\ufc3a\ufcc6"), ("kl", "\ufc3b\ufc81\ufcc7\ufceb"),
     ("km", "\ufc3c\ufc82\ufcc8\ufcec"), ("kmm", "\ufdbb\ufdc3"), ("kmy", "\ufdb7"),
     ("ky", "\ufc3e\ufc84"), ("la", "\ufc43\ufc86"), ("lh", "\ufc40\ufcca\ufccd"),
     ("lha", "\ufd82"), ("lhm", "\ufd80\ufdb5"), ("lhy", "\ufd81"), ("lj", "\ufc3f\ufcc9"),
     ("ljj", "\ufd83\ufd84"), ("ljm", "\ufdba\ufdbc"), ("ljy", "\ufdac"), ("lkh", "\ufc41\ufccb"),
     ("lkhm", "\ufd85\ufd86"), ("llh", "\ufdf2"), ("lm", "\ufc42\ufc85\ufccc\ufced"),
     ("lmh", "\ufd87\ufd88"), ("lmy", "\ufdad"), ("ly", "\ufc44\ufc87"), ("m", "\ufc88"),
     ("ma", "\ufc49"), ("mh", "\ufc46\ufccf"), ("mhj", "\ufd89"), ("mhm", "\ufd8a"),
     ("mhmd", "\ufdf4"), ("mhy", "\ufd8b"), ("mj", "\ufc45\ufcce"), ("mjh", "\ufd8c"),
     ("mjkh", "\ufd92"), ("mjm", "\ufd8d"), ("mjy", "\ufdc0"), ("mkh", "\ufc47\ufcd0"),
     ("mkhj", "\ufd8e"), ("mkhm", "\ufd8f"), ("mkhy", "\ufdb9"), ("mm", "\ufc48\ufc89\ufcd1"),
     ("mmy", "\ufdb1"), ("my", "\ufc4a"), ("na", "\ufc4f\ufc8e"),
     ("ng", "\ufb9a\ufb9b\ufb9c\ufb9d\ufbd3\ufbd4\ufbd5\ufbd6"), ("nh", "\ufc4c\ufcd3\ufcd6\ufcef"),
     ("nha", "\ufd96"), ("nhm", "\ufd95"), ("nhy", "\ufdb3"), ("nj", "\ufc4b\ufcd2"),
     ("nja", "\ufd99"), ("njh", "\ufdb8\ufdbd"), ("njm", "\ufd97\ufd98"), ("njy", "\ufdc7"),
     ("nkh", "\ufc4d\ufcd4"), ("nm", "\ufc4e\ufc8c\ufcd5\ufcee"), ("nma", "\ufd9b"),
     ("nmy", "\ufd9a"), ("nn", "\ufc8d"), ("nr", "\ufc8a"),
     ("ny", "\ufb76\ufb77\ufb78\ufb79\ufc50\ufc8f"), ("nz", "\ufc8b"),
     ("ph", "\ufb6e\ufb6f\ufb70\ufb71"), ("qa", "\ufc35\ufc7e"), ("qh", "\ufc33\ufcc2"),
     ("qle", "\ufdf1"), ("qm", "\ufc34\ufcc3"), ("qmh", "\ufd7e\ufdb4"), ("qmm", "\ufd7f"),
     ("qmy", "\ufdb2"), ("qy", "\ufc36\ufc7f"), ("rswl", "\ufdf6"), ("ryl", "\ufdfc"),
     ("sa", "\ufcfb\ufd05\ufd17\ufd21"),
     ("sh", "\ufc1d\ufc20\ufcae\ufcb1\ufce8\ufd31\ufd35\ufeb5\ufeb6\ufeb7"), ("sh", "\ufeb8"),
     ("sha", "\ufcfd\ufd19"), ("shh", "\ufcea\ufd0a\ufd26\ufd2e\ufd32\ufd38\ufd64\ufd65"),
     ("shhm", "\ufd67\ufd68"), ("shhy", "\ufdaa"), ("shj", "\ufd09\ufd25\ufd2d\ufd37\ufd5c"),
     ("shjy", "\ufd69"), ("shkh", "\ufd0b\ufd27\ufd2f\ufd39"), ("shm", "\ufce9\ufd0c\ufd28\ufd30"),
     ("shmkh", "\ufd6a\ufd6b"), ("shmm", "\ufd6c\ufd6d"), ("shr", "\ufd0d\ufd29"),
     ("shy", "\ufcfe\ufd1a\ufda9"), ("sj", "\ufc1c\ufcad\ufd34"), ("sja", "\ufd5e"),
     ("sjh", "\ufd5d"), ("skh", "\ufc1e\ufcaf\ufcb2\ufd36"), ("skha", "\ufda8"), ("skhy", "\ufdc6"),
     ("sl'm", "\ufdf5"), ("sla", "\ufdf9"), ("sla llh 'lyh wslm", "\ufdfa"), ("sle", "\ufdf0"),
     ("sm", "\ufc1f\ufc21\ufcb0\ufcb3\ufce7"), ("smh", "\ufd5f\ufd60"), ("smj", "\ufd61"),
     ("smm", "\ufd62\ufd63\ufd66\ufdc5"), ("sr", "\ufd0e\ufd0f\ufd2a\ufd2b"),
     ("sy", "\ufcfc\ufd06\ufd18\ufd22"), ("ta", "\ufc0f\ufc74\ufcf5\ufd11"),
     ("th", "\ufb62\ufb63\ufb64\ufb65\ufc0c\ufc26\ufca2\ufca5\ufcb8\ufce4"),
     ("th", "\ufe99\ufe9a\ufe9b\ufe9c"), ("tha", "\ufc13\ufc7a"), ("thh", "\ufce6"),
     ("thj", "\ufc11\ufd51\ufd52"), ("thm", "\ufc12\ufc78\ufca6\ufce5\ufd53"), ("thn", "\ufc79"),
     ("thr", "\ufc76"), ("thy", "\ufc14\ufc7b"), ("thz", "\ufc77"), ("tj", "\ufc0b\ufca1"),
     ("tja", "\ufda0"), ("tjm", "\ufd50"), ("tjy", "\ufd9f"), ("tkh", "\ufc0d\ufca3"),
     ("tkha", "\ufda2"), ("tkhm", "\ufd54"), ("tkhy", "\ufda1"),
     ("tm", "\ufc0e\ufc27\ufc72\ufca4\ufce3\ufd33\ufd3a"), ("tma", "\ufda4"),
     ("tmh", "\ufd56\ufd71\ufd72"), ("tmj", "\ufd55"), ("tmkh", "\ufd57"), ("tmm", "\ufd73"),
     ("tmy", "\ufd74\ufda3"), ("tn", "\ufc73"), ("tr", "\ufc70"),
     ("ty", "\ufc10\ufc75\ufcf6\ufd12"), ("tz", "\ufc71"), ("u", "\ufe79"), ("wslm", "\ufdf8"),
     ("ya", "\ufbf9\ufbfa\ufbfb\ufc03\ufc59\ufc68\ufc95"), ("ye", "\ufbec\ufbed\ufbf6\ufbf7\ufbf8"),
     ("yh", "\ufc01\ufc56\ufc98\ufc9b\ufcdb\ufcde\ufce0\ufcf1"), ("yhy", "\ufdae"),
     ("yj", "\ufc00\ufc55\ufc97\ufcda"), ("yjy", "\ufdaf"), ("ykh", "\ufc57\ufc99\ufcdc"),
     ("ym", "\ufc02\ufc58\ufc66\ufc93\ufc9a\ufcdd\ufcdf\ufcf0"), ("ymm", "\ufd9c\ufd9d"),
     ("ymy", "\ufdb0"), ("yn", "\ufc67\ufc94"), ("yo", "\ufbf2\ufbf3"), ("yr", "\ufc64\ufc91"),
     ("yu", "\ufbf0\ufbf1\ufbf4\ufbf5"), ("yw", "\ufbee\ufbef"), ("yy", "\ufc04\ufc5a\ufc69\ufc96"),
     ("yz", "\ufc65\ufc92"), ("zh", "\ufb8a\ufb8b")]

end Script
end Text
end SchemaBinding
