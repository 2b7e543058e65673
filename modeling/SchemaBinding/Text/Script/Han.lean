import SchemaBinding.Text.Script.Basic

/-! Chinese characters, by their Mandarin readings without tones. -/
namespace SchemaBinding
namespace Text
namespace Script

def han : Script where
  spelled :=
    [("0", "〇"), ("A", "吖啊錒锕阿𠼞𥥩𨉚𱚱"), ("Ai", "㕌㗒㘷㝶㢊㤅㦈㱯㶼㾢㿄䀳䅬䑂䔽䝽䠹䨠䶣伌僾凒叆哀哎唉啀嗌嗳嘊噯埃塧壒娭娾嫒嬡愛懓"),
     ("Ai", "懝挨捱敱敳昹暧曖欸毐溰溾濭爱瑷璦癌皑皚皧瞹矮砹硋碍礙艾蔼薆藹譪譺躷銰鎄鑀锿閡隘霭"),
     ("Ai", "靄靉餲馤騃鱫鴱𠊎𠳳𡁍𡉓𡟓𡰽𡶃𢟪𢟰𢣏𢣕𢰇𣉼𣋞𣜬𣝅𣤃𣩱𤢵𤸖𤸳𤻢𥡽𥤦𥴨𦗍𦗐𦥂𦥈𦩴𧏹𧓁𧡋"), ("Ai", "𧪚𧰿𧵨𨶂𩈋𩪂𩫇𩮖𪇈𪕭𫂖𫉁𫘤𫣊𬤩𬺃𭏦𭞄𮩝𮲔𰛥𰾭𱉪"),
     ("An", "㛺㜝㞄㟁㫨㱘㸩㽢䀂䅁䅖䜙䢿䬓䮗䯥侒俺儑唵啽垵埯堓婩媕安岸峖庵按揞晻暗案桉氨洝犴玵"),
     ("An", "痷盦盫罯胺腤荌菴萻葊蓭誝諳谙豻貋銨錌铵闇隌雸鞌鞍韽馣鮟鵪鶕鹌黯鿷𠉬𠰑𠽪𡎑𡪁𡪙𡯏𡹼"),
     ("An", "𡽜𢰍𣆛𣚖𣣚𣵱𣽥𤃷𤜁𤞿𤟉𥏮𥦍𥳬𦺽𧖮𧩸𧫥𧫧𧮍𨲊𩅝𩈴𩓤𩭢𩹎𩽾𪁟𪘒𫗊𬮴𬴁𬸝𱊣𱏋"), ("Ang", "㭿㼜䀚䇦䒢䩕䭹䭺卬岇昂昻枊盎肮醠骯𠵫𠹃𡕉𡵙𢓋𣉗𣖮𤭒𦫫𩉰𩑝𩔘𩜟"),
     ("Ao", "㑃㕭㘬㘭㜜㜩㟼㠂㠗㤇㥿㩠㿰䐿䜒䥝䦋䫜䫨䮯䯠䴈䵅傲凹厫嗷嗸坳垇墺奡奥奧媪媼嫯岙岰嶅"),
     ("Ao", "嶴廒慠懊扷抝拗摮擙敖柪梎滶澳熬爊獒獓璈磝翱翶翺聱芺蔜薁螯袄襖謷謸軪遨鏊鏖镺隞隩驁"),
     ("Ao", "骜鰲鳌鷔鼇鿫廒慠敖𡊛𡏼𢁱𢕟𢧴𢳆𣊁𣷫𤏶𤺾𥂢𥑑𥜌𦪈𦽀𧅃𧨲𩈏𩑍𩑤𩕀𩘮𩟇𩣻𩥊𩮯𩱏𩼈𪁾𪃨𪉑"), ("Ao", "𫍵𬣦𬤡𬱮𬸩梎翺𰿁𱍛𱖎"),
     ("Ba", "⼋㔜㞎㭭㶚㸭㺴㿬䃻䆉䇑䎬䎱䟦䩗䩻䮂䰾䳊䶕丷仈八叐叭吧哵坝坺垻墢壩夿妭岜峇巴巼弝扒"),
     ("Ba", "把抜拔捌朳柭欛灞炦爸犮玐疤癹矲笆粑紦罢罷羓耙胈芭茇菝蚆覇詙豝跁跋軷釛釟鈀钯霸靶颰"),
     ("Ba", "魃魞鮊鲃鲅鼥鿱𠛋𠵺𡚭𢃳𢇷𢠭𢺞𢻷𣬶𣬷𤜕𤜱𤣸𤤒𥎱𥝧𦓧𦫙𦳺𧎱𧲧𧺡𧺺𧿏𨊹𩃴𩊤𩖽𩙥𩚥𩠀𩡩𩨜"), ("Ba", "𩹏𩽷𫁂𫐈𫓥𫔆𫜨𬶻拔跋𰦜𰹻𰽖𱅄"),
     ("Bai", "⽩㓦㔥㗑㠔㿟䒔䙓䢙䪹䳆佰庍拜拝挀捭掰摆擺敗柏栢猈瓸白百稗竡粨粺絔薭襬贁败韛韛𠫛𡏯"), ("Bai", "𡭢𢈕𢛞𣧙𣺽𤁣𤙅𤽹𥬝𦣺𦩋𦳞𨃅𩋂𩎻𩏞𪡈𫖔"),
     ("Ban", "㚘㪵䃑䈲䉽䬳伴办半坂坢姅岅怑扮扳拌搬攽斑斒昄板柈湴版班瓣瓪瘢癍秚粄絆绊舨般蝂螁螌"),
     ("Ban", "褩辦辬鈑鉡钣闆阪靽頒颁魬鳻𠔯𠚼𠦒𠧫𠯘𠺚𡯘𢲔𢴬𣪂𤡰𤦦𤫫𤳖𥷁𥹓𦎊𦙹𦝤𧇥𧌿𧿨𨐦𨐱𨐾𨭉𩔮"), ("Ban", "𩢔𩿉𪄕𪉒𪒋𬮳䬳𰽰𱃷𱇖𱉑"),
     ("Bang", "㙃㨍㭋㮄㿶䂜䎧䖫䧛䩷䰷傍垹塝帮幇幚幫捠搒梆棒榜浜牓玤磅稖綁縍绑膀艕蒡蚌蜯謗谤邦邫"),
     ("Bang", "鎊镑鞤髈𠨵𠬣𠲑𠳐𡽲𢁏𢄎𢜗𢮏𢶶𢸌𣘙𣮡𣮧𤚰𤱵𦰥𦾭𨢐𩍗𩦠𩮗𫄰𫠌𬶆𱮿𲀃"),
     ("Bao", "⼓㙅㙸㫧㲒㵡㻄㿺䈏䎂䤖䥤䨌䨔䪨䭋䳈䳰䴐佨保儤勹勽包堡堢報媬嫑孢宝宲寚寳寶忁怉报抱"),
     ("Bao", "暴曓枹煲爆珤窇笣緥胞苞菢葆蕔薄藵虣蚫袌褒褓襃豹賲趵鉋鑤铇闁雹靌靤飹飽饱駂骲髱鮑鲍"),
     ("Bao", "鳵鴇鸨齙龅暴𠅬𠣒𠣺𠤏𠹕𡂟𡉩𡧖𡶄𢼌𣭀𤔣𤝧𤞥𤿈𥄹𥭓𦡕𦢊𧝘𧭤𧵢𨇅𨚔𨠖𨰦𨰻𩊅𩍂𩛞𩬽𩭼𩾡𩿓"), ("Bao", "𪏶𬲺包報寳抱駂𱅀𲍹"),
     ("Bei", "⻉⾙㔨㗗㛝㣁㤳㫲㰆㶔㷶㸢㸬㸽㻗㽡㾱䋳䔒䟺䡶䥯䩀䰽俻倍偝偹備僃北卑呗唄备孛悖悲惫愂"),
     ("Bei", "憊揹昁杯桮梖棓椑焙牬犕狈狽珼琲盃碑碚禙糒背苝蓓藣蛽被褙誖貝贝軰輩辈邶郥鄁鉳鋇鐾钡"),
     ("Bei", "鞁鞴骳鵯鹎北卑碑𠋭𠐡𠢥𡋭𢂏𢃍𢴾𢻵𣎵𣖾𣬍𣬪𤜲𤰈𤳦𤵛𤷁𤹲𤿒𤿾𥏓𥶓𦈧𦈶𦩖𦮷𦾙𧉥𧋲𧶙𧼠𩇩"), ("Bei", "𩔹𩖠𩚾𪱷𫝦𫞥𬇙𬦥備北卑犕糒𰱯𱇑𱽎"),
     ("Ben", "㡷㤓㨧㮥㮺䬱倴坋坌奔奙捹撪本栟桳楍泍渀犇獖畚笨翉苯贲輽逩錛锛奔𣄏𣳰𣴞𥢊𦯀𨋒𩣺𩧼𪊜"), ("Ben", "𪎝𪑖𬓱栟泍𣴞𰡞𱸛"),
     ("Beng", "㑟㔙㷯䋽䑫䙀䨜䨻䩬䭰䳞伻傰嘣埄埲塴奟崩嵭揼泵琣琫甏甭痭祊絣綳繃绷菶蹦迸逬鏰镚閍鞛"),
     ("Beng", "𧻓𠜳𠡮𡎾𡡈𡶤𡾛𢆸𢉁𢐒𣂤𣨥𤙾𤡭𤫬𥀂𥖗𥛱𥞩𥦜𦂌𦅈𦝷𦺑𧑑𧚭𧩱𧻓𨆊𨓁𨕧𨸂𨹹𨻱𩂦𩊌𩑚𩗴𪔑𫄵"), ("Beng", "𫗉絣䑫𰬔𰬭𱤺"),
     ("Bi", "⼔⽐⿐㓖㘠㘩㙄㠲㡀㡙㢰㢶㢸㧙㪏㪤㮿㯇㱸㳼㻫㻶㿫䀣䁹䃾䄶䉾䊧䋔䎵䏢䏶䕗䖩䘡䚜䟆䟤䠋"),
     ("Bi", "䣥䧗䨆䩛䪐䫁䫾䬛䮠䮡䯗䵄佊佖俾偪匕吡咇哔啚嗶坒堛壁夶奰妣妼婢嬖嬶屄币幣幤庇庳廦弊"),
     ("Bi", "弻弼彃彼必怭怶愊愎敝斃朼枈柀柲梐楅榌比毕毖毙毴沘湢滗滭潷濞煏熚狴獘獙珌璧畀畁畢疕"),
     ("Bi", "疪痹痺皕睤碧禆秕笓笔筆筚箄箅箆篦篳粃粊綼縪繴罼聛腷臂舭芘苾荜荸萆萞蓖蓽蔽薜蜌螕袐"),
     ("Bi", "裨襅襞襣觱詖诐豍貏貱賁贔赑跸蹕躃躄逼避邲鄙鄨鄪鉍鎞鏎鐴铋閇閉閟闭陛鞸韠飶饆馝駜驆"),
     ("Bi", "髀髲魓鮅鰏鲾鵖鷝鷩鼊鼻婢𠈺𠋯𠐌𠓷𠛡𠡂𠦈𠧅𠨘𠩿𠬈𠮃𠽩𡚁𡛗𡠚𡳄𡻞𡽶𢁽𢅩𢐦𢖬𢘍𢟵𢡅𢩒𢲾"),
     ("Bi", "𢳋𢴩𣁉𣁢𣋹𣔓𣘥𣚡𣝍𣢠𣥣𣦇𣦢𣩩𣭤𣮐𣯴𣴨𤂀𤅹𤐙𤗚𤙞𤜻𤝸𤠺𤡝𤢣𤵘𤹝𤹦𤻖𤽊𥆯𥈗𥏠𥛘𥟗𥢦𥳆"),
     ("Bi", "𥴬𥷑𦂖𦑞𦔆𦠞𦤫𦯛𦰙𦱔𦸣𧏻𧒀𧓄𧤃𧥑𧫤𧲜𧳠𨅗𨋥𨋩𨐨𨚍𨚓𨟵𨠔𨲋𨵰𨸼𨻼𩉫𩊰𩑻𩧿𩪖𩪧𩭧𩲢𩾳"),
     ("Bi", "𪋜𪌄𪍪𪏺𪐄𪼋𫄞𫎳𫔇𫖒𫗣𫚑𫜁𫠈𫵘𫼫𫽳𬙝𬠃𬥶𬭽𬳃𮤲𮩛𮲰庳賁韠鼻𰃻𰋾𰛡𰞲𰬎𰬤𰻳𱁴𱂅𱅈𱉝"), ("Bi", "𱌉"),
     ("Bian", "⾤㝸㣐㦚㭓㲢㳎㳒㴜㵷㺹䁵䉸䒪䛒䟍䡢䪻便匾卞变変峅弁徧忭惼扁抃揙昪汳汴炞煸牑猵獱玣"),
     ("Bian", "甂砭碥稨窆笾箯籩糄編緶缏编艑苄萹藊蝙褊覍變貶贬辡辧辨辩辫辮辯边辺遍邉邊釆鍽閞鞭鯾"),
     ("Bian", "鯿鳊鴘便變𠐈𠑟𠓫𠪂𠭹𠯴𠷖𡈯𡬯𡬲𡬸𢩟𢭥𢴂𢻶𣈠𣝜𣩀𣪭𣸇𤀫𤀲𤄺𤺇𤻶𥍚𥣝𥣰𦇭𦉙𦟣𦽟𧩰𨖠𨖾"), ("Bian", "𨚕𨧕𨩫𨳲𩩯𩰍𪉱𪏗𪓍𪖯𫔰𫚣𬸸變𱉡𱖅"),
     ("Biang", "𰻝𰻞𱿗𲁓"), ("Biao", "⺣⾽㟽㠒㧼㯹㶾䁃䁭䅺䔸䙳䞄䮽俵儦墂婊幖彪摽杓标標檦淲滮瀌灬熛爂猋瘭磦穮脿膘臕藨表"),
     ("Biao", "裱褾諘謤贆錶鏢鑣镖镳颩颮颷飆飇飈飊飑飙飚驃驫骉骠髟鰾鳔𠔂𠚠𠬪𢅚𢒯𢿏𣄠𤂆𤆀𤐫𥘤𥲦𦔗"), ("Biao", "𦔩𦠎𦾑𧝪𧥍𧳀𧴎𧴕𨭚𩙪𩪊𩴩𩽁𬭺𬴍𮸼杓𰷫𰾍𱃔𱃠"),
     ("Bie", "㔡㢼㿜䇷䋢䌘䏟䘷䠥䭱䳤別别彆徶憋瘪癟癿莂虌蛂蟞襒蹩鱉鳖鼈龞𠍯𡐞𡘴𡙀𡙪𡷘𢆣𢐳𢛎𢠳𣇢"), ("Bie", "𣊶𤉤𤷗𤺓𤾵𥞲𥡁𧆊𧌽𧝬𧧸𧿥𨂅𨒜𩓝𩠻𩡟𩦉𩵛𩸁𪂟𪐆𫛮𰵬𱌇𱍈"),
     ("Bin", "㟗㯽㻞䐔䚔䧬䨈傧儐宾彬摈擯斌梹椕槟檳殡殯氞汃滨濒濱濵瀕玢瑸璸砏繽缤膑臏虨豩豳賓賔"), ("Bin", "邠鑌镔霦顮髌髕髩鬂鬓鬢賓𠴇𡦆𡦻𡧼𢲰𣉮𣢏𣰨𥃰𧷟𧸈𨐰𨽗𩆱𩴱𪇕𬇄𱂸"),
     ("Bing", "⼎㓈㨀䔊䗒䴵丙並仌仒併倂偋傡兵冫冰垪寎并幷庰怲抦掤摒昞昺柄栤棅氷炳病眪禀秉稟窉竝"),
     ("Bing", "苪蛃誁邴鈵鉼鋲陃靐鞆鞞餅餠饼鮩並摒𠊧𠒝𠛥𠱛𡇤𡖛𡚛𡲍𡹾𢆩𢊜𢎴𢔧𣦪𣰜𥖬𥲂𦡻𦼹𦿅𨆱𨋲𨹗"), ("Bing", "𩊖𩋒𩏂𩬝𩮟𩶁𪑰𫖓𫚎𬣲𬦴倂仌庰鉼𰽥𰽼𱋔"),
     ("Bo", "⺊⼘⽨㗘㝿㞈㟑㩧㩭㪍㬍㬧㴾㶿㹀㼎㼟㼣䂍䃗䊿䌟䍸䑈䗚䙏䝛䞳䟛䢌䢪䥬䪇䪬䬪䭦䭯䮀䯋䰊"),
     ("Bo", "䳁䵗䶈亳仢伯侼僠僰剝剥勃博卜哱啵嚗孹嶓帗帛愽懪拨挬搏撥播擘檗欂波浡淿渤溊煿牔犦犻"),
     ("Bo", "狛猼玻瓝瓟癶癷盋砵碆礡礴秡箔箥簙簸糪紴缽肑胉脖膊舶艊苩菠萡葧蔔蕃蘗袚袯袰袹襏襮譒"),
     ("Bo", "豰跛踣蹳郣鈸鉑鉢鋍鎛鑮钵钹铂镈餑餺饽馎馛馞駁駮驋驳髆髉鮁鱍鲌鵓鹁𠧛𠮭𠱀𠴸𠷺𠸳𠺣𡀖"),
     ("Bo", "𡅂𡋯𡯳𡯷𢂍𢐾𢠺𢣞𢩞𢫯𢺽𣋵𣛓𣧧𣭷𣽡𤃵𤒔𤗳𤗺𤚽𤜧𤶋𤾝𤿑𥜖𥭖𥮯𥴮𥸥𥹸𦃙𦈞𦋉𦤚𦤣𦯉𦰬𦲱𦼭"),
     ("Bo", "𦽮𧇚𧙄𧟱𧲯𨈩𨍭𨏫𨨏𨭂𩃶𩄿𩈔𩌏𩍿𩏯𩓐𩗀𩗒𩗓𩙦𩜥𩟕𩣡𩧯𩬸𩯌𩱚𩷚𩽛𪌰𪍡𪓜𪙍𪚷𫏆𫗈𬭛𬮁𬹇"), ("Bo", "𬺏𮷊博鈸𰾀𱃳𱅐𱅓𱇣"), ("Bong", "𱿅"),
     ("Bu", "㘵㙛㚴㨐㳍㻉㾟䀯䊇䋠䍌䏽䑰䒀䝵䪁䪔䬏䴺不佈勏卟吥咘哺喸埔埗埠峬布庯廍怖悑抪捕捗晡"),
     ("Bu", "柨步歨歩瓿篰簿荹蔀补補誧踄轐逋部郶醭鈈鈽钚钸餔餢鳪鵏鸔鿻不𠘁𠚉𠜙𡡐𢁻𢇴𣱶𤚵𤣰𤸵𥃨"), ("Bu", "𥑢𥣌𥪀𥳖𥹴𥻞𧉩𧻷𨋞𨛒𨴪𩅇𩊬𩊶𩏮𩏵𩢕𩣝𩯏𩶉𩷖𩺼𩻗𪇰𫐗𫗦𫚨𬷕𰵩𱃾𱊲𱋝"),
     ("Ca", "䃰䌨䵽嚓囃擦攃礤礸遪𤄖𥗭𥩝𨆾𨺭𪊗"), ("Cai", "㒲㥒䌽䐆䞗䟀䠕䣋䰂䴭倸偲啋埰婇寀彩才採材棌毝猜睬綵縩纔菜蔡裁財财跴踩采彩𡣮𢎂𤁱𤚀"),
     ("Cai", "𤝭𤟖𤷕𦬁𧀊𧵤𨙴𨯓𩁞𩧇𪇭𬹅𮉯菜"), ("Can", "㛑㜗㣓㥇㦧㨻㱚㻮㽩㿊䅟䉔䏼䗝䗞䘉䙁䛹䝳䟃䣟䱗䳻傪儏参參叄叅喰嬠惨惭慘慙慚憯摻朁残"),
     ("Can", "殘湌澯灿燦爘璨穇篸粲薒蚕蝅蠶蠺謲飡餐驂骖黪黲參𠠋𠡡𠫭𡆮𡛝𡞋𢦸𢧮𢾃𣦼𣶡𣻬𤅒𥂥𥠩𥢽𥮾"), ("Can", "𥹛𦪜𦪫𦺐𧅀𧓩𨅔𨞷𨲱𩀧𩈻𩈼𩝖𩟒𩯞𪆶𪮃𫎺𫢺𬢳𬤄𮬞憯𰑧"),
     ("Cang", "㵴㶓䅮䢢仓仺伧倉傖嵢欌沧滄濸獊舱艙苍蒼藏螥賶鑶鶬鸧𠥐𡽴𡾻𡿄𤚬𦾝𨤃𩀞𩕹𩝞𪺷𰃷𱮷"),
     ("Cao", "⺾⺿⻀⾋㜖㯥䄚䎭䏆䐬䒃䒑嘈嶆愺懆撡操曹曺槽漕糙肏艚艸艹草蓸螬褿襙鄵鏪騲艹艹𠀊𠹊𡮦"), ("Cao", "𣈅𣉿𤒕𤡐𤵥𥕢𥲍𦋿𨎝𩞄𩠎𩫥𮪤"),
     ("Ce", "㥽㨲㩍䇲䈟䊂䔴侧側冊册厕厠墄廁恻惻憡拺敇测測畟笧策筞筴箣簎粣荝萗萴蓛𡍫𢿸𣌧𥠉𥬰𥰡"), ("Ce", "𥳯𦔎𦣧𦵪𧵡𨶨𩒄𫭮𱲆"), ("Cei", "𤭢"),
     ("Cen", "㞥㟥䅾䤁䨙䲋岑嵾涔笒𣡎𦊃𨁊𨥣𨱼𩅨𩅮𩻛𬱣𱈔"), ("Ceng", "㣒㬝䁬䉕噌层層嶒曽曾竲蹭驓層𠟂𡃆𡪠𡾓𢅋𤛢𦠇𧲅𫘯"),
     ("Cha", "㛼㢉㢒㣾㤞㪯㫅㮑䁟䅊䒲䓭䕓䟕䡨䤩䶪侘偛叉嗏垞奼姹察岔嵖差扠挿插揷搽杈查槎檫汊猹疀"),
     ("Cha", "碴秅紁肞臿艖茬茶衩詧詫诧蹅銟鍤鑔锸镲靫餷馇茶𠝞𠞊𠽹𡋨𡌚𡝐𡝙𡨀𡵌𢔣𢘹𢣼𢭅𣆗𣍏𣘤𣘻𣱱"),
     ("Cha", "𤜫𤜯𤞠𤳅𤳵𤵾𤶠𥃀𥌀𥑥𥥸𥫢𥻗𦉆𦑈𦑣𦛝𦝥𦦘𦦜𦦱𦳘𧠈𧫗𧶵𨀸𨃓𨆇𨙳𨩨𨪺𨼑𩝟𩟔𩴳𪑂𪑨𪒼𪘾𫟿"), ("Cha", "𬤌𬭈𬭠𬺕𮵿㛼"),
     ("Chai", "㑪㳗㼮㾹䐤䓱䘍䜺侪儕喍囆拆柴犲瘥祡芆茝虿蠆袃訍豺釵钗齜𡟭𡺵𢹓𤞗𤠌𥐟𦐰𦑏𧀱𧒨𧔴𧕧𧪘"), ("Chai", "𧸿𨌅𩑐茝𲊹"),
     ("Chan", "㙴㙻㚲㢆㢟㤐㦃㬄㯆㰫㶣㸥㹌㹽㺗㺥䀡䂁䊲䐮䑎䜛䠨䡲䣑䤘䤫䥀䧯䩶䪜䫮䱿䴼䵐丳产僝儃儳"),
     ("Chan", "冁刬剗剷劖啴嘽嚵囅壥婵嬋孱嵼巉幝幨廛忏懴懺掺搀摌摲攙斺旵梴棎欃毚浐湹滻潹潺澶瀍瀺"),
     ("Chan", "灛煘燀獑產産硟磛禅禪簅緾繟纏纒缠羼艬蒇蕆蝉蟬蟾裧襜覘觇誗諂譂讇讒谄谗躔辴辿鄽酁鉆"),
     ("Chan", "鋋鋓鏟鑱铲镡镵閳闡阐韂顫颤饞馋骣𠁷𠋷𠐩𠑆𠑑𠑡𠣄𠹖𡍌𡎻𡖞𡖤𡝫𡮿𡶴𢁧𢌚𢥋𢱟𢷹𢺟𢽝𣃘𣔵"),
     ("Chan", "𣤱𤗻𤚍𤪮𤮭𤯥𤴿𤸦𤼋𥊓𥭔𦆀𦈎𦝟𦢙𦸰𧈪𧐲𧓋𧕃𧠛𧥓𧨗𧬦𧴃𧾡𨄉𨇝𨇦𨊝𨔢𨩪𨪑𨬖𨮻𨲵𨳂𨵍𨷭𨼒"),
     ("Chan", "𨽊𩖌𩝚𩟶𩥮𩮏𩽝𪏁𪏂𪏋𪏦𪓄𪖎𪗂𪙞𪚃𫔏𫞣𫟠𫥎𬊤𬡻𬤛𬰷𬳲𬺅𮣴𮸊剷嵼䩶𰓼𰗡𰡔𰵭𰸎𱋴𱐙𱟫"),
     ("Chang", "⺁⻑⻒⼚⾿㙊㦂㫤䅛䗅䗉䠆䩨䮖䯴䱽䲝仧仩伥倀倡偿僘償兏厂厰唱嘗嚐场場塲娼嫦尝常廠徜"),
     ("Chang", "怅悵惝敞昌昶晿暢椙氅淐焻猖琩瑒瑺瓺甞畅畼肠腸膓苌菖萇蟐裮誯鋹鋿錩鏛锠镸閶阊韔鬯鯧"),
     ("Chang", "鱨鲳鲿鼚𠙁𠚊𡭿𢁝𢗺𢢌𤢄𤽣𤿼𥇔𥋤𥗊𥟚𥠴𥫅𦰱𦼳𧀄𨣛𨱮𨷇𩲹𪁺𪂇𪄹𪉨𫊪𫏃𬑇𬬮𬸶𮧴𮸟㫤𰈇𱈘"), ("Chang", "𱌊𱴐"),
     ("Chao", "㶤㷅䎐䏚䜈䫸䫿䰫仦仯勦吵嘲巐巢巣弨怊抄晁朝樔欩漅潮炒焣焯煼牊眧窲罺耖觘訬謿超轈鄛"),
     ("Chao", "鈔钞麨鼂鼌𠰉𡏮𡡊𡯴𡻝𡼼𢁾𣰩𤙴𤰬𥕘𥲀𥿷𦙧𦨖𦸛𦾱𧧠𨄓𨌬𨗡𨢪𨨚𨴡𩈎𩖥𩱈𩱦𪍈𪍑𪎊𬊂𬨓巢潮"), ("Chao", "𥲀罺𦾱鄛𰵏𱆍𱆙𱋕𱋜𱋢"),
     ("Che", "⻋⼬⾞㒤㔭㤴㥉㨋㬚㳧㵔㾝㿭䁤䋲䒆䚢䛸䜠䞣䧪䰩伡俥偖勶唓坼屮彻徹扯掣撤撦澈烢爡瞮砗"),
     ("Che", "硨硩聅莗蛼車车迠頙車屮𡷖𢇛𢊏𣨊𤊿𤕛𤖷𤗙𤥭𤹞𥯥𥿊𦈈𦓍𦛖𧙝𧼳𨀠𨹡𩂻𩎚𩒷𩗙𩴟𪎺𪠳屮𰡰𰲬"), ("Che", "𱰗"),
     ("Chen", "⾂⾠㕴㥲㧱㫳㴴㽸䀼䆣䐜䑣䒞䜟䞋䟢䠳䢅䢈䢻䣅䤟䫈䫖儭嗔嚫塵墋夦宸尘忱愖抻捵揨敐晨曟"),
     ("Chen", "梣榇樄櫬沉煁琛疢瘎瞋硶碜磣綝縝臣茞莀莐蔯薼螴衬襯訦諃諶謓讖谌谶賝贂趁趂趻踸軙辰迧"),
     ("Chen", "郴醦鈂鍖陈陳霃鷐麎齓齔龀辰𠋆𢆺𢎕𣀍𣞟𤘣𤝚𤟸𤡳𤹛𥉜𥔪𥗒𥞁𥫹𦁄𦁟𧆂𧡬𧨡𧭼𧿒𨑌𨣔𨻖𨼌𨼐"), ("Chen", "𨼤𩅌𩇖𪁏𫈟𫎩𫎪𫜀𫮅𬘭𬬵𮠳𮭦瞋𰈍𰬙𰳄𰵒𰵱𰺭𰾘"),
     ("Cheng", "㐼㓌㛵㞼㲂㼩䁎䄇䆑䆵䇸䕝䗀䚘䞓䟓䟫䧕䫆䮪丞乗乘侱偁僜呈城埕堘塍塖娍宬峸庱徎悜惩憆"),
     ("Cheng", "憕懲成承挰掁摚撐撑晟朾枨柽棖棦椉橕橙檉檙泟洆浾湞溗澂澄瀓爯牚珵珹琤畻睈瞠碀秤称程"),
     ("Cheng", "稱穪窚竀筬絾緽罉脀脭荿蛏蟶裎誠诚赪赬逞郕酲鋮鏳鏿鐣铖阷靗頳饓騁騬骋鯎懲懲𠏧𠕠𠳽𡝚"),
     ("Cheng", "𡤿𡽊𢐞𢔤𢜻𢜼𢟊𢻓𢾊𢿦𢿧𣀏𣥺𣥻𤆁𤕀𤗓𤿣𥢲𥥱𦓬𦦢𧡈𧯒𧶔𧶸𧷒𧹓𨁎𨅝𨌤𨞐𨭃𨹚𩁷𩙆𩛦𩞦𩠏𩤙"), ("Cheng", "𩨆𩫹𩯎𪁋𫎭𬭷𬲜呈城懲成䕝誠𰓄𰩓𰬖𱅢𱖷𱴇"),
     ("Chi", "⻭⻮⼻⾚⿒㒆㓼㔑㘜㙜㞴㞿㡿㢁㢋㢮㥡㮛㰞㱀㶴㷰㺈㽚䀸䇪䊼䑛䙙䜄䜉䜵䜻䞾䟷䠠䤲䧝䪧䮈"),
     ("Chi", "䮻䰡䳵䶔䶵侈侙傺勅勑卶叱叺吃呎哧啻喫嗤噄垑墀妛媸尺岻弛彨彲彳恜恥慗憏懘抶持摛攡敕"),
     ("Chi", "斥杘欼歭歯池湁漦灻炽烾熾瓻痓痴痸瘈瘛癡眵瞝硳竾笞筂箎篪粚絺翄翅翤翨耻肔胣胵腟茌荎"),
     ("Chi", "蚇蚩蚳螭袲袳裭褫訵誺謘豉貾赤赿趍趩跮踟迟遅遟遫遲鉓鉹銐雴飭饎饬馳驰魑鴟鵄鶒鷘鸱麶"),
     ("Chi", "黐齒齝齿遲𠛔𠝨𠞩𠡠𠧚𠧵𠭋𠮟𠻟𡂙𡉪𡌞𡎍𡖳𡚨𡣀𡳭𡼁𢂝𢇕𢓎𢔊𢜳𢨒𣉄𣐃𣙰𣚩𣣷𣤩𣲋𣹡𤆍𤈔𤟆"),
     ("Chi", "𤡏𤡢𤰠𤵬𤸪𥄇𥚚𥛚𥭘𥱻𦂋𦆤𦎚𦏿𦐁𦐉𦑡𦔫𦘪𦙆𦞲𦤸𦥊𦱰𦳚𦵟𧀤𧉀𧋗𧎨𧛧𧛺𧤍𧩚𧩴𧩼𧪡𧭟𧰲𧴁"),
     ("Chi", "𧺏𧺠𧺧𧺿𧼪𨂰𨑠𨒬𨔤𨖎𨘾𨧳𨨬𨨲𨾛𩒐𩚉𩤖𩥲𩳲𩶅𩷧𩾕𩿪𪀦𪅍𪅙𪆵𪉄𪉅𪉗𪌫𪌹𪏐𫄨𫍧𫛶𬤓𬤘𬳾"), ("Chi", "𬴇𬸈叱喫𡚨𥚚蚩𰒒𰶈𰷢𰸛𰽹𱌯𲎅"),
     ("Chong", "⾍㓽㤝㧤㮔㳘㹐䂌䆔䆹䌬䖝䘪䝑䡴䳯充冲嘃宠寵崇崈徸忡憃憧揰摏沖浺漴爞珫緟罿翀舂艟茺"),
     ("Chong", "虫蝩蟲衝褈蹖銃铳隀充𠑙𠖥𠝤𠟍𡿂𢖄𢛒𢝈𢡹𢥞𣐯𣑁𥁵𥅻𥫯𥬱𥭥𦑝𦟛𧐍𧘂𧝎𧩃𧼙𧼩𨈮𨖼𨛱𨤩𨳁"), ("Chong", "𨿿𩌨𩒘𩜖𩞉𩞋𩥫𩩳𩬤𩰀𪄻𪅈𪅖𪎽𪒒𫟆𫢹𬳐𬸥𮰄𰺝𱖧"),
     ("Chou", "㐜㤽㦞㨨㮲㵞㿧䀺䌧䌷䓓䔏䪮䲖丑丒仇侴俦偢儔吜嚋嬦帱幬怞惆愁懤抽搊杻杽栦椆殠燽犨犫"),
     ("Chou", "畴疇瘳皗瞅矁稠筹篘籌紬絒綢绸臭臰菗薵裯讎讐踌躊遚酧酬醜醻雔雠魗杻臭𠌪𠜋𠝽𠷎𠹝𠼡𠾉"),
     ("Chou", "𡕐𡕪𢣊𢭆𣀓𣕾𣪐𣫐𤘶𤳝𤳠𤽯𤾊𤾦𥃧𥄨𥏈𥡀𥦅𥬠𥰞𥲅𥵬𥺣𥻤𦡴𦭸𧃝𧮻𨀔𨖬𨡑𨡲𨤷𩋄𩌄𩗡𩽀𩾂𪇘"), ("Chou", "𪫷𫝩𫼝𬊍𬑍𬑡𬖖𬣱𬸍𰗙𱆛"),
     ("Chu", "㔘㕏㕑㗙㙇㛀㡡㤕㾥䅳䇍䊰䎌䎝䐍䖏䙘䜴䝙䟞䟣䠂䠧䢺䦌亍俶傗储儊儲処出刍初厨嘼埱处媰"),
     ("Chu", "岀幮廚怵憷拀搐摴敊斶杵椘楚楮榋樗橱橻檚櫉櫥欪歜滀滁濋犓珿琡璴畜矗础礎竌竐篨絀绌耡"),
     ("Chu", "臅芻蒢蒭蓫蕏藸處蜍蟵褚触觸諔豖豠貙趎踀蹰躇躕鄐鉏鋤锄閦除雏雛鶵黜齣齭齼𠁉𠇘𠧖𠰕𠿝"),
     ("Chu", "𡐌𡝈𡳑𢅥𢊍𢒔𢕓𢣵𢣿𢨫𣢶𣥹𣦠𣦡𤏱𤙟𤝞𤻇𥁯𥒭𥹵𦷝𦺵𦿀𧃏𧎷𧢶𧯩𧰫𧺶𧽧𨁿𨃕𨕢𨴰𨼪𩂫𩈤𩙙𩨸"), ("Chu", "𩹱𩿿𪁲𪆷𪇆𪓐𫀬𫇴𫛾𫜭𫩩𬌝𬬺𬮥𬸅𬺓𮤬𰵴𱊬𱌮𱳋𲈼"),
     ("Chua", "㔍䊬䫄䵵歘𠹐𠻦𣛕𣹶𤁫"), ("Chuai", "㪓㪜䦟䦤䦷䴝啜揣搋膗膪踹𠽶𢲽𣤌𣲂𨣅𱊼"),
     ("Chuan", "⼮⾇㯌㱛㼷䁣串传傳僢剶喘巛川暷椽歂氚汌猭玔瑏穿篅舛舡舩船荈賗踳輲遄釧钏鶨串𠛖𠯀𠾮"), ("Chuan", "𣀔𣛹𣧒𤜼𤮍𤰌𤶱𥃹𥬫𥲏𦎇𦎜𦺛𧍒𧑝𨂦𨘼𨩴𩂍𬥸𰺒𱊘"),
     ("Chuang", "㡖㼽䃥䄝䆫䎫䚒䭚傸凔刅创刱剏剙創噇幢床怆愴摐摤牀牎牕疮瘡磢窓窗窻闖闯𠏨𠞮𠳹𡆪𡻯𥈄"), ("Chuang", "𥎒𥡟𥲡𦔛𧜧𧢆𧬧𨜾𨧖𩃕𩞆𩪘𪁱𪭢𬥳𬸐"),
     ("Chui", "㝽㷃䍋䞼倕吹圌垂埀捶搥棰槌炊箠腄菙錘鎚锤陲顀龡𠄒𡍮𢏒𣇦𣟈𤙵𥙋𥞃𦉈𩌝𩗰𩭦𬭨𰝾𱂭"),
     ("Chun", "㖺㝄㝇㵮㸪㿤䏛䐏䓐䔚䞐䞺䡅䣨䣩䥎䦮䫃䮞䲠偆唇堾媋惷旾春暙杶椿槆橁櫄浱淳湻滣漘犉瑃"),
     ("Chun", "睶箺純纯脣莼萅萶蒓蓴蝽蠢賰輴醇醕錞陙鯙鰆鶉鶞鹑𡉐𡗥𢾎𣌚𣌠𣘣𣚆𣮢𤘛𦎧𦚧𧇶𨉩𩨁𪂹𬭚𮝸"), ("Chun", "𰹳𱊑"),
     ("Chuo", "⻌⻍⻎⾡㚟㪬㲋䋘䓎嚽娕娖婥惙戳擉歠涰磭綽繛绰腏趠踔輟辍辵辶逴酫鑡齪龊辶𡁇𢽸𢿭𤿫𥓑"), ("Chuo", "𦁶𨆬𨒢𨮸𨰆𩟫𩩟𪘛𪢕𬭔"),
     ("Ci", "㓨㘂㘹㞖㢀㤵㩞䂣䈘䓧䗹䛐䧳䨏䭣䯸䰍䲿䳄䳐伺佌佽偨刺刾呲垐嬨庛慈朿柌栨次此泚濨玼珁"),
     ("Ci", "瓷甆疵皉磁礠祠糍絘縒茈茦茨莿薋蛓螆蠀詞词賜赐趀跐辝辞辤辭雌飺餈骴髊鮆鴜鶿鷀鹚齹刺"),
     ("Ci", "嬨甆𠤫𠦐𠩆𠯂𡃸𡥎𡰾𢅜𢓗𢫴𢶴𣐑𣜁𣢕𥴺𥿆𥿴𦍧𦐨𦐾𦑺𦒁𦖝𦼡𧊒𧌐𧏗𧑖𧙈𧠎𧠥𧧒𧺼𨋰𨒤𨒮𨠐𨲁"), ("Ci", "𨾅𩆂𩉋𩝐𩢑𩨨𩾔𪉈𪉪𪑟𫚖𬢉𬲶𬺎慈次辞螆䗹𰬒𰱱𲊽"),
     ("Cong", "㗰㜡㞱㥖㼻䈡䉘䐋䐫䓗䕺䗓䡯䢨䳷丛从匆叢囪囱婃孮従徖從忩怱悤悰慒憁暰枞棇樅樬樷欉淙"),
     ("Cong", "漎漗潀潨灇焧熜爜琮瑽璁瞛篵緫繱聡聦聪聰苁茐葱蓯蔥藂蟌誴謥賨賩鍯鏦騘驄骢𠂥𠕁𠙂𠢛𠤰"),
     ("Cong", "𡅇𡟟𡦷𡵷𡹸𢃏𢊕𢐔𢔩𣃗𣊷𤄓𤧚𥍷𥎋𥡬𥮨𥵫𦇎𦇱𦗜𦝰𧐱𧓏𧝮𧩪𨂴𨍉𨑪𨑹𨒀𨡮𨦱𨱸𨲧𩬼𩯍𪻐𫓩𫓽"), ("Cong", "𫟡𫩛𬎧𬟺𬤋𮴨匆熜聰䐋𰛏𰥒𰭁𰶂𰷥𰾊"),
     ("Cou", "凑湊腠輳辏𢈾𣉅𣙘𣞜𤆑𦦅𦳿𦺀𧡣𧱪𨨯𩹀𪉮𬭟𬸷"), ("Cu", "㗤䃚䙯䛤䟟䠞䢐䣯䥄䥘促噈媨徂憱殂猝瘄瘯簇粗縬脨蔟觕誎趗踧蹙蹴蹵醋顣麁麄麤鼀𠑯𠛙𡄱"),
     ("Cu", "𡘛𡝉𡞜𢄧𢈠𢪃𤗁𤛏𤠽𤿚𥅗𥪱𥷼𥻒𥾛𦈚𦟠𦠁𦯣𧆓𧺲𧼜𪓡𪓰𪕝𪚯𫖹𫜟𫠀𬣹𱋾"), ("Cuan", "㠝㸑巑撺攛櫕欑殩汆熶爨穳窜竄篡簒蹿躥鋑鑹镩𢖑𢸥𤐲𥍬𥎢𥎣𥎤𨣵𨼉𪴙𮸏爨𰏁"),
     ("Cui", "㜠㝮㯔㯜㱖㳃㵏㷪䃀䄟䆊䊫䙑䧽乼伜倅催凗啐啛墔崔嶉忰悴慛摧榱槯毳淬漼濢焠獕璀疩瘁皠"),
     ("Cui", "磪竁粋粹紣綷縗缞翆翠脃脆脺膬膵臎萃襊趡鏙顇𠗚𠞿𠟓𠩪𢂕𢄸𢕘𢡈𢶓𣃍𣯧𣰚𣿒𣿓𤎋𤗯𤛍𥨒𥳈"), ("Cui", "𥻮𥼂𥼛𥼺𦦣𧎃𧑎𧚥𧜱𧳚𧹺𧼬𧽠𨄍𨅎𨊉𨻵𨿐𩤏𮉬脃𰾰𱂯"),
     ("Cun", "⼨䍎䞭侟刌吋存寸忖拵村澊皴竴籿膥踆邨𤿄𧚉𨀛𨙯𨚲"), ("Cuo", "㟇㭫㽨㿷䂳䑘䠡䣜䰈䱜䴾剉剒厝夎嵯嵳挫措搓撮斮棤瑳痤睉矬磋脞莝莡蒫蓌蔖虘蹉躦逪遳醝"),
     ("Cuo", "銼錯锉错鹺鹾𠦏𢒐𢚂𢤎𢯽𣖵𣨎𣩈𤠝𥕉𥭭𥰭𧚏𨇃𨛏𩄝𩯉𪒙𪘓𬘷𬺇蔖𱇷"), ("Da", "⼤㙮㜓㟷㩉㾑㿯㿴䃮䌋䐛䪚䵣亣剳匒呾咑哒嗒噠垯墶大妲怛打搭撘汏沓溚炟燵畗畣瘩眔笚笪"),
     ("Da", "答繨羍耷荅荙薘蟽褡詚跶躂达迏迖迚逹達鎉鎝鐽靼鞑韃龖龘𠉤𠞈𠶫𠹥𡈐𡉑𡍲𡐿𡚻𢘇𢛁𢝉𢽇𣣴"),
     ("Da", "𣥾𣸉𤝰𤤊𤨑𥉌𥕇𦂀𦈘𦑻𦖿𦗧𦞂𦪭𦬹𨗾𨨹𨱏𩏒𩝣𩟐𩠅𩣯𩭣𫄤𫟼𬊉𬜔𬭞𬳉𰲻𰾬𱍂"),
     ("Dai", "⺞⽍㐲㞭㯂㶡㻖䈆䒫䚞䚟䲦代侢傣叇呆呔垈埭岱帒带帯帶廗待怠懛戴曃柋歹殆瀻獃玳瑇甙簤"),
     ("Dai", "紿緿绐艜蚮袋襶貸贷蹛軑軚軩轪迨逮霴靆骀鮘鴏黛黱戴歹𠯈𠯪𠰺𠷂𡧹𢄔𢎌𣇨𣐮𣦶𣫹𤮼𤸊𥿝𦄂"), ("Dai", "𦙯𦪍𧊇𧑔𨊺𨓞𨟲𨥶𨽿𩃠𩃷𪐝𬶌𮷗瑇𰏼𰘀𰰏𰴤𰸚𱳪"),
     ("Dan", "㐤㕪㗖㠆㡺㲷㴷䃫䄡䉞䐷䒟䨢䨵䩥䭛䳉丹亶伔但僤儋刐勯匰单単啖啗啿單嘾噉嚪妉媅帎弹弾"),
     ("Dan", "彈惮憚憺抌担掸撢撣擔旦柦殚殫氮沊泹淡澸澹狚玬瓭甔疍疸瘅癉癚眈砃禫窞箪簞紞繵耼耽聃"),
     ("Dan", "聸胆腅膽萏蓞蛋蜑衴褝襌觛誕诞贉赕躭郸鄲霮頕饏馾駳髧鴠黕黮鿕丹𠆛𠆶𠇋𠈰𠹆𡖓𡦨𡵕𢅒𢉑"),
     ("Dan", "𢋃𢎪𢑝𢻼𣅟𣇇𣋊𣛱𣱍𣲥𤁡𤢏𤲭𤺺𥄦𥐹𥨎𥱷𥲄𥲇𥳸𥳹𦅼𦋪𦻁𦽜𦽫𦾩𧀻𧂄𧡪𧭃𧴸𨡙𨢿𩄕𩅾𩈉𩈊𩏥"), ("Dan", "𩕤𩩧𪆻𪒾𫎫𫡶𫢸𫫦𬂅𬘘𬙉𬢏𬱗𮱯𰅦𱆥𱉗"),
     ("Dang", "㼕㽆䑗䣊䣣䦒儅党凼噹圵垱壋婸宕嵣当愓挡擋攩档檔欓氹潒澢灙珰璗璫瓽當盪瞊砀碭礑筜簜"),
     ("Dang", "簹艡荡菪蕩蘯蟷裆襠譡讜谠趤逿鐺铛闣雼黨𡇈𡇵𡗍𡢈𡰨𡾕𢠽𢡂𣂳𣃉𣗋𣺼𣻍𤔶𤗾𤢎𤣞𥢷𥤗𥯕𥸈"), ("Dang", "𦗴𦼲𦿆𧅗𧑘𨎴𨝦𨷾𩟈𩼉𩽳𪇁𪠽𫀮𫽮𬍡𬛹𬠅𬣭𭰎当𰁸𰋸𰩹𰺲"),
     ("Dao", "⺈⺉⼑㠀㨶㿒䆃䊭䌦䧂倒刀刂到叨噵壔导導岛島嶋嶌嶹忉悼捣捯搗擣朷椡槝檤氘燾瓙盗盜祷"),
     ("Dao", "禂禱稲稻箌纛翢翿舠艔菿衜衟蹈軇道釖陦隝隯魛鱽𠐵𠴼𡄒𢭏𣁍𣫜𣱼𤓾𤘀𤷘𤹷𥓬𥗚𥺅𦒺𦦺𦦾𦩍"), ("Dao", "𧼤𨗓𨱦𩈞𩕯𩬱𩭟𪺣𫝵𭎜𮜶𰭣𱽕"),
     ("De", "㝵㤫㥁㯖䙷䙸嘚地得徳德恴悳惪棏淂的脦鍀锝𠮊𠵨𡋩𡭂𣌏𣮊𣮰𤷙𨁽"), ("Den", "㩐扥扽"),
     ("Deng", "㔁㲪䒭䔲䙞䠬䮴䳾凳噔墱嬁嶝戥朩櫈灯燈璒登瞪磴竳等簦艠覴豋蹬邓鄧鐙镫隥𡦔𢯭𢿤𣩟𤮘𤺌"), ("Deng", "𤼶𤾢𦩫𧄼𧾊𨄇𨎤𨮴𨶿𩍐𩞬𩯇𪌷𪑬𪒘𪔏𬢔𬮹𬳒"),
     ("Di", "㓳㢩㣙㪆㫝㭽㰅㹍㼵䀿䂡䃅䊮䍕䏄䏑䐎䑭䑯䗖䢑䣌䧑䨀䨤䩘䩚䯼䴞䵠䶍仾低俤偙僀厎呧唙啇"),
     ("Di", "啲嘀嚁坔坘坻埊埞堤墑墬奃娣媂嫡嶳帝底廸弟弤彽怟慸抵拞掋摕敌敵旳杕枤柢梊梑棣樀氐涤"),
     ("Di", "渧滌滴焍牴狄玓珶甋眱睇砥碲磾祶禘笛第篴籴糴締缔羝翟聜腣苖茋荻菂菧蒂蔋蔐蔕藡蝃螮袛"),
     ("Di", "覿觌觝詆諦诋谛豴趆踶蹢軧迪递逓遞遰邸釱鉪鍉鏑镝阺隄靮鞮頔馰骶髢鬄鯳鸐𠍪𠐑𠒿𠕳𠚭𠥖"),
     ("Di", "𠨿𠫜𠽰𡄷𡒱𡚙𡚷𡛜𡰖𡽢𢅊𢉆𢓧𢕚𣂉𣅥𣚌𣬴𣯵𣲢𤁰𤈥𤝬𤞈𤧛𤬵𤾠𥕐𥖾𥳠𥸚𥾬𥿄𦉹𦨢𦵦𧀶𧂨𧉛𧋍"), ("Di", "𧍝𧤲𧺽𨂇𨌮𨑩𨑼𨗼𨘬𨪾𨮹𩉱𩑾𩭲𩴺𩷎𪄱𫔂𬱖𬲮𭫙墬菧𰂗𰑵𰔇𰺀𰻆𰽘𱊱"),
     ("Dia", "嗲"), ("Dian", "㓠㝪㞟㶘㸃㼭䍄䓦佃傎典厧嚸坫垫墊壂奌奠婝婰嵮巅巓巔店惦扂掂攧敁敟椣槇槙橂橝殿淀滇"),
     ("Dian", "澱点猠玷琔电甸瘨癜癫癲碘簟蒧蕇蜔跕踮蹎钿阽電靛顚顛颠驔點齻𠑘𠢣𠩷𠫉𠶧𡱇𡼓𢅝𢕯𢖩𢻅"),
     ("Dian", "𣇖𣒂𣢥𣣈𣣣𣧛𣪀𣪪𤠶𤩱𤿶𥅑𥇞𥑼𥢏𥦟𥮏𥳢𥵏𦅆𦒻𦕒𦽄𧄺𧍿𧽍𨈀𩂵𩄠𩅀𩆔𩥄𩨋𩬑𪑩𪓼𪖚𬧚𭣇嵮"), ("Dian", "滇𰈊𱅪𱌺"),
     ("Diao", "㒛㓮㚋㢯㪕㹦䂏䂽䄪䉆䔙䘟䳂伄凋刁刟叼吊奝屌弔弴彫扚掉殦汈琱瘹瞗碉窎窵竨簓蓧藋虭蛁"),
     ("Diao", "訋調调貂釣鈟銱鋽鑃钓铞铫雕雿魡鮉鯛鲷鳭鵰鼦調𠄏𠚥𠚻𠤼𠥑𠶰𢁕𢄦𢆴𣩰𤕷𤭈𤱩𥁮𥮐𥲟𥾯𦄋"), ("Diao", "𦨣𦰏𦶌𦸔𧅈𧘨𧘩𧜣𨰑𨸓𩀜𩈮𩋙𩾗𫄝𫛲𫼛𬘞𬡍𬭕𬶄𮵮彫𱉈"),
     ("Die", "㑙㥈㦅㦶㩸㩹㫼㬪㲲㲳㷸䞇䠟䪓䫕䳀䴑叠哋喋垤堞峌嵽幉恎惵戜挕揲昳曡楪殜氎爹牃牒瓞畳"),
     ("Die", "疂疉疊眣眰碟絰绖耊耋胅臷艓苵蜨蝶褋褺詄諜谍趃跌蹀迭镻鰈鲽𠅗𠆙𠗛𠗨𠠯𠲷𡅥𡇓𡖐𡱷𡹭𡺑"),
     ("Die", "𡼄𢎆𢲼𢶣𣈍𣛻𣡟𣧈𣨂𤖒𤗨𤚊𤴍𥈖𥉺𥑇𥶺𥷕𦁜𦄔𦈅𧍱𨄌𨈈𨐁𨓊𨭓𨳺𨴗𨸅𨻗𨾤𩋞𩻵𪀒𪑧𫬟𫶇𬇇𬡓"), ("Die", "𬰳蜨𰵙𰸈𱉚"), ("Din", "𨈖"),
     ("Ding", "⿍㝎㣔㫀㴿䦺丁仃叮啶奵定嵿帄忊椗濎玎疔盯矴碇碠磸耵聢腚萣薡虰蝊訂订酊釘鋌錠鐤钉锭"),
     ("Ding", "靪頂顁顶飣饤鼎鼑𢑅𣆍𣢳𤐣𤛙𥇓𥯢𥳰𥸧𦨍𦩘𧇷𧌾𧳉𩜦𩠆𩠑𩡯𩸎𩾚𪔂𬱫𰛽𰾸"), ("Diu", "丟丢銩铥𠲍𢒝"),
     ("Dong", "㑈㓊㖦㚵㢥㨂㼯䂢䍶䞒䰤䵔东侗倲働冬冻凍动動咚垌埬墥姛娻嬞岽峒崠崬徚恫懂戙挏昸東栋"),
     ("Dong", "棟氡氭洞涷湩硐笗箽絧胨胴腖苳菄董蕫蝀諌迵霘駧鮗鯟鶇鶫鸫鼕鿴洞𠄉𢔅𢛔𢳾𣱝𣿅𤤮𤦪𤲚𤷆"),
     ("Dong", "𥫎𥳘𦡂𧄓𧓕𧡍𧯾𧲴𧳣𧼓𧽿𨩧𨿢𩂓𩐤𩐵𩜍𩣳𩧲𩭩𪐈𪔦𪣆𫄡𫢙𫹼𬟽𬢈𮷅冬徚𢛔𰇎𰎏𰛒"),
     ("Dou", "⽃⾖⾾㛒㞳㢄㨮㪷䄈䇺䕆䛠䬦乧兜兠吺唗唞抖斗斣枓梪橷毭浢痘窦竇篼脰荳蔸蚪豆逗郖都酘"),
     ("Dou", "鈄钭閗闘阧陡餖饾鬥鬦鬪鬬鬭都𠁁𠍄𠱑𠾇𡂛𡂝𡆏𡙬𡟳𢦍𣁵𣂮𣘛𣭗𤀨𤅋𤝈𤞟𤾒𥆖𥉝𥥷𥺉𦄓𦆘𧏆"), ("Dou", "𧘞𧡸𧮡𧯞𧯠𧯤𧱓𨁋𨥪𨪐𨴜𨶜𨹜𩊪𩑯𩔡𩮷𩳈𪌉𪐺𫔯㨮𰴛𰵫"),
     ("Du", "㓃㞘㱩㸿㾄䀾䈞䓯䙱䟻䢱䦠䩲䪅䫳䮷䲧凟剢匵厾嘟堵妒妬嬻帾度杜椟櫝殬殰毒涜渎渡瀆牍牘"),
     ("Du", "犊犢独獨琽瓄皾督睹秺笃篤肚芏荰蝳螙蠧蠹裻覩読讀讟读豄賭贕赌醏錖鍍鑟镀闍阇靯韇韣韥"),
     ("Du", "騳髑黩黷讀度𠉩𠠔𠠠𠣰𡍨𡎉𡝜𡰪𢉜𢝂𢷺𢾀𢾅𣧃𣨲𣫔𣰬𤚚𤚡𤫻𤬂𤬪𤴱𤵊𤶮𥀁𥀲𥃾𥑯𥓇𥓍𥖿𥝟𥝾"),
     ("Du", "𥯖𥲗𥳉𥳲𦌷𦏕𦘴𦙋𦛯𦡄𦳔𦺇𦺥𧁿𧉓𧋌𧐰𧑠𧔬𧛔𧞹𧰵𧷿𧾥𨂭𨋈𨍛𨧀𨽍𩞾𩧈𩩮𩵚𪍹𪐞𪥿𪻨𫧿𬢎𬭊"), ("Du", "𬶂𮏺𮙋𰃿𰅥𰤫𰤬𰶔𰷸𱁷𱂋𱄿"),
     ("Duan", "㟨㫁㱭䠪偳剬塅媏断斷椴段毈煅瑖短碫端簖籪緞缎耑腶葮褍躖鍛鍴锻𠡱𢭃𢯫𢷖𣠭𥠄𥵣𦾸𧤗𧶲"), ("Duan", "𨱚𨺣𩏇𩤚𩤣煅𰾜𱛽"),
     ("Dui", "㙂㟋㠚㨃㬣㳔䂙䇏䜃䨴䨺䬈䭔䯟兊兌兑垖堆塠对対對嵟怼憝憞懟濧瀩痽碓磓祋綐薱襨譈譵鐓"),
     ("Dui", "鐜队陮隊頧鴭𠂤𠏮𠜑𠡒𠦗𠫨𡁨𡏩𡑈𡜥𡷋𡼻𢈹𢟋𣝉𤄛𤤷𤮩𤷎𤹵𥑵𥹲𦞱𦡷𦶏𧧆𨹅𩄮𩅆𩅥𩅲𩈁𩈜𩊭"), ("Dui", "𩐌𩨽𪌤𪒛𪒡𫗰𫢘𬀮𬤣𰰱𰳸𰺃𱁒𱂍"),
     ("Dun", "䃦䔻䤜䪃伅吨噸囤墩墪庉惇撉撴敦楯橔沌潡炖燉犜獤盹盾砘碷礅蜳趸踲蹲蹾躉逇遁遯鈍钝镦"), ("Dun", "頓顿驐𠎻𡆰𡼖𢬼𣎴𣗁𣚪𣞇𤟢𤭞𥂦𥫬𥫱𥭒𦪔𦰭𦼿𧝗𧿗𨔡𩔂𩞤𮪥惇"),
     ("Duo", "㖼㙍㙐㛆㛊㣞㥩㻔㻧䅜䐾䑨䒳䙃䙤䠤䤪䤻䩔䫂䯬䲊亸凙刴剁剟剫咄哆哚喥嚉嚲垛垜埵堕墮墯"),
     ("Duo", "多夛夺奪奲尮崜嶞惰憜挅挆掇敓敚敠敪朵朶柮桗椯毲畓痥綞缍舵裰趓跢跥跺踱躱躲軃鈬鐸铎"),
     ("Duo", "陊陏飿饳鮵鵽𠛫𡌭𡓉𡓷𡶲𡺇𢜬𢳽𢼠𢿎𣑧𣧷𣵺𣵻𤋨𤌃𤛛𤢕𤤸𤬾𥞛𥳔𥿰𦍦𦕰𦖋𧊱𧙤𧢵𧧇𧩧𧱫𨀟𨆅"), ("Duo", "𨉡𨍏𨦃𨬍𨲉𨹃𩃒𩊜𩍜𩎫𩑒𩢎𩬻𪃒𪘉𪞝𫖰𫛻𫰂𬤏𬦫𬭆多𰹀𰺕𰾖𱁳𱂠𱊍"),
     ("E", "㓵㔩㖾㗁㟧㠋㣂㦍㧖㩵㮙㷈㼂䄉䆓䋪䑥䑪䕏䖸䛖䝈䞩䣞䩹䫷䱮䳗䳘䳬俄偔僫匎卾厄吪呃呝咢"),
     ("E", "咹噁噩囮垩堊堨堮妸妿姶娥娿婀屙屵岋峉峨峩崿廅恶悪惡愕戹扼搤搹擜枙櫮歞歺涐湂珴琧痾"),
     ("E", "皒睋砈砐砨硆磀礘腭苊莪萼蕚蚅蛾蝁覨訛詻誐諤譌讍讹谔豟軛軶轭迗遌遏遻鄂鈋鈪鋨鍔鑩锇"),
     ("E", "锷閼阨阸頋頞頟額顎颚额餓餩饿騀魤魥鰐鰪鱷鳄鵈鵝鵞鶚鹅鹗齃齶惡頋齃𠥍𠥕𠥜𠰜𠱥𠱫𠷸𡀾"),
     ("E", "𡅅𡅡𡪑𡪗𡴯𡹣𡾙𢃲𢨡𢼚𣄰𣘨𣢛𣤲𣦵𤂷𤎣𤡾𤪄𤭼𤸱𤹺𥋙𥑺𥑾𥓈𥔲𥯳𦊪𦛅𧊜𧌄𧍬𧒎𧔼𧙃𧚄𧠞𧢽𧨟"),
     ("E", "𧭪𧼎𧽶𧿕𨂁𨃃𨌧𨤕𨱂𨵌𨶯𨸷𨺨𩇠𩉴𩊢𩋊𩋽𩐰𩑁𩒰𩕟𩕬𩖀𩚬𩣣𩤩𩨮𩪤𩸇𩸋𩸖𩽹𪀝𪅴𪘊𪘐𪙯𪴯𫫇"), ("E", "𬮰𮤸𮶝咢頋頋餩𰲸𰵑𰵤𰵮𰽞𱂥𱂨𱃽𱅗𱈚𱩽"), ("Ei", "誒诶"),
     ("En", "䅰䬶䭓䭡奀峎恩摁煾蒽𡟯𡵖𡷐𤇯𤫹𬲷𱃹𱄉𱴨"), ("Eng", "鞥"),
     ("Er", "⼆⼉⽽⽿㒃㖇㚷㛅㢽㧫䋙䋩䌺䎟䎠䎶䏪䣵䮘二侕儿児兒刵厼咡唲尒尓尔峏弍弐栭栮樲毦洏洱"),
     ("Er", "爾珥粫而耳聏胹荋薾衈袻誀貮貳贰趰輀轜迩邇鉺铒陑隭餌饵駬髵鮞鲕鴯鸸𠚧𡦕𢀪𢄽𣧹𣩚𤽓𥅡"), ("Er", "𦓓𦓔𦖢𦗼𧌣𨎪𩚪𩰴𩱊𩱓𪐰𪕔𪕨𪭧𬃘𮝵𰺚𱅋"),
     ("Fa", "㕹㘺㛲䂲䇅䣹乏伐佱傠发垡姂彂栰橃沷法浌灋珐琺疺発發瞂砝笩筏罚罰罸茷蕟藅醱鍅閥阀髪"), ("Fa", "髮𠞵𠲎𤇰𤣹𤿓𥎰𥩱𦪑𧬋𨀳𨋺𫭨𬜧𭩰"),
     ("Fan", "㕨㛯㠶㤆㴀㶗㸋㺕㼝㽹䀀䀟䉊䉒䊩䋣䋦䌓䐪䒦䕰䛀䡊䣲䪛䪤䫶䭵䮳仮凡凢凣勫匥反噃墦奿婏"),
     ("Fan", "嬎嬏帆幡忛憣払旙旛杋柉梵棥樊橎氾汎泛渢滼瀪瀿烦煩燔犯璠畈番盕矾礬笲笵範籓籵緐繁繙"),
     ("Fan", "羳翻膰舤舧范薠藩蘩蠜襎訉販贩蹯軓軬轓返釩鐇鐢钒颿飜飯飰饭鱕鷭飯繁犯𠆩𠒾𡁈𡗹𡜀𡤎𡶉"),
     ("Fan", "𢇪𢐲𢗰𢶃𣔶𣳜𤄑𤄫𤬨𤭍𥃵𥅒𥢌𥸨𥹇𥻫𥼞𥿋𦊻𦜒𦨲𦪖𧀭𧁉𧉤𧊾𧍙𧢜𧦟𧶶𨆌𨙮𨟄𨠒𩡫𩧅𩨏𩨩𪖇𫄩"), ("Fan", "𫐊𫔍𫖺𬙆𬳳𬸪𮐚汎𰵐𰹴𰹺𰺜𱃴𱈕"),
     ("Fang", "⼕⽅㑂㕫㤃㧍㯐䄱䢍䲱仿倣匚坊埅堏妨房放方旊昉昘枋汸淓牥瓬眆紡纺肪舫芳蚄訪访趽邡鈁"), ("Fang", "錺钫防髣魴鰟鲂鴋鶭𣄅𥫳𨾔𩇴𩗧𩲌𩷸𪕃𫛯𮸐芳𲍮"),
     ("Fei", "⻜⾮⾶㔗㥱㩌㫵㵒㹃䆏䈈䉬䑔䒈䕁䕠䚨䛍䠊䤵䨽䨾䩁䰁俷剕匪厞吠啡奜妃婓婔屝废廃廢悱扉"),
     ("Fei", "斐昲暃曊朏杮棐榧櫠沸淝渄濷狒猆疿痱癈篚緋绯翡肥肺胇胐腓芾菲萉蕜蜚蜰蟦裶誹诽費费鐨"),
     ("Fei", "镄陫霏靅非靟飛飝飞餥馡騑騛鯡鲱鼣𠏿𠮆𡌦𢑮𢒍𢳁𢾺𣍧𣙿𤷂𤺕𤼺𥄱𥇖𥝊𥝋𥟍𥠶𥭬𦃄𦈗𦱷𧌘𧍃"),
     ("Fei", "𧑈𧓖𧕒𧕿𧚆𧝇𨵈𨻃𩄼𩆦𩇫𩇮𩇯𩇽𩙲𩦎𩯃𩰾𩱎𩵥𩹉𪁹𪂏𪰶𪲮𫂈𫽧𬃮𬈕𬏦𬣧𬴂𮸽𮹂𰳊𰷦𰾐𱆄"),
     ("Fen", "㤋㥹㬟㱵㷊㸮㿎䩿䴅份偾僨兝兺分吩哛坟墳奋奮妢岎帉幩弅忿愤憤昐朆朌枌梤棻棼橨氛汾濆"),
     ("Fen", "瀵炃焚燌燓瞓秎竕粉粪糞紛纷羒羵翂肦膹芬蒶蕡蚠蚡衯訜豮豶躮轒酚鈖鐼隫雰餴饙馚馩魵鱝"),
     ("Fen", "鲼黂黺鼖鼢墳𠛸𠵮𠻫𡊄𡊅𡨖𢁤𢅯𢊱𢚅𢧝𢴢𢹔𣬩𣯻𣱦𣸣𤔟𤖘𤗸𤘝𤰪𥂙𥳡𥹻𥽒𦍏𦍪𦐈𦦑𦰛𦶚𧮱𧷐"),
     ("Fen", "𧿚𨎾𨤘𨤚𨳣𨷒𩉵𩡷𩢈𩰟𩸂𩿈𪩸𪱥𫅗𫍛𫔁𫚍𫟴𬉂𬏷𬳟𮝷幩憤濆鼖𰗺𰞻𰥛𰱍𰱟𱀡𱃼𱄀𱋱𱘮"),
     ("Feng", "⻛⾵㐽㒥㛔㜂㠦㡝㦀㵯䀱䏎䒠䙜䟪䩼丰仹俸偑僼冯凤凨凬凮唪堸夆奉妦寷封峯峰崶捀摓枫桻"),
     ("Feng", "楓檒沣沨浲湗溄漨灃烽焨煈犎猦琒甮疯瘋盽砜碸篈綘縫缝艂葑蘴蜂蠭覂諷讽豐賵赗逢鄷酆鋒"),
     ("Feng", "鎽鏠锋闏霻靊風飌风馮鳯鳳鴌麷𡨛𡵞𢇫𢓱𣿝𤖀𥊒𥍮𥛝𥷜𥽈𦜁𦧁𧆉𧍯𧥹𧾳𨝭𨩥𨲫𨺢𩉧𩊩𩋮𩐯𩘵"), ("Feng", "𩙐𩙣𩪌𪐃𫜑𫲸𮨴𮳠𮶂夆"), ("Fiao", "覅"),
     ("Fo", "仏坲梻𧥚𧼴"), ("Fou", "⽸否妚殕紑缶缹缻裦雬鴀𡜊𤊻𤽦𧉈𧊦𨛔𩂆𫛜𰫽"),
     ("Fu", "⻏⻖⽗⾩㓡㕊㕮㙏㚆㚕㜑㟊㠅㤔㤱㩤㪄㫙㬼㭪㲗㳇㷆㽬㾈䂤䃿䄮䋨䋹䌗䌿䍖䎔䑧䒄䒇䓏䓵䔰"),
     ("Fu", "䕎䗄䘀䘠䝾䞜䞞䞯䞸䟔䟮䠵䡍䦣䨗䨱䩉䫍䫝䭮䭸䭻䮛䱐䳕䴸䵾乀乶付伏伕佛俌俘俛俯偩傅冨"),
     ("Fu", "冹凫刜副匐呋呒咈咐哹嘸坿垘垺复夫妇妋姇娐婦媍嬔孚孵富尃岪峊巿幅幞府弗弣彿復怤怫懯"),
     ("Fu", "扶抚拂拊捬撨撫敷斧旉服枎柎柫栿桴棴椨椱榑氟泭洑浮涪滏澓炥烰焤父玞玸琈甫甶畉畐痡癁"),
     ("Fu", "盙砆砩祓祔福禣秿稃稪竎符笰筟箙簠粰糐紨紱紼絥綍綒緮縛绂绋缚罘罦翇肤胕腐腑腹膚艀艴"),
     ("Fu", "芙芣苻茀茯荂荴莩菔萯葍蕧虙蚥蚨蚹蛗蜅蜉蝜蝠蝮衭袝袱複褔襆襥覄覆訃詂諨讣豧負賦賻负"),
     ("Fu", "赋赙赴趺跗踾輔輹輻辅辐邞郙郛鄜酜釜釡鈇鉘鉜鍑鍢阜阝附陚韍韨頫颫馥駙驸髴鬴鮄鮒鮲鰒"),
     ("Fu", "鲋鳆鳧鳬鳺鴔鵩鶝麩麬麱麸黻黼復輻福覆𠋩𠌽𠓗𠟌𠣾𠪻𠬝𠲽𡏪𡐝𡞪𡠞𡦄𡫺𡬇𡵛𢀼𢁀𢂀𢂆𢌹𢏍"),
     ("Fu", "𢒒𢗫𢗲𢞦𢠲𢯋𢰆𢻀𣀣𣀾𣄎𣆵𣑿𣘧𣞒𣥋𣭘𣹋𣻜𣿆𤆮𤉨𤙤𤙭𤝔𤝟𤠪𤭟𤱽𤶖𤸑𤸗𤿭𤿲𥄑𥄓𥒫𥒰𥘬𥦘"),
     ("Fu", "𥧷𥨍𥪋𥪚𥰛𥱀𥲛𥳇𥷱𥼼𥾧𦂊𦇁𦊦𦊾𦎎𦎭𦐡𦑹𦔍𦖀𦨈𦨋𦨡𦩡𦮹𦰺𦱖𦲫𦳓𦸱𦺉𦽏𦿁𧀮𧀴𧄏𧉊𧌈𧌓"),
     ("Fu", "𧒂𧒙𧕡𧖚𧥱𧳂𧴌𧻳𧼗𧼱𧿳𨁒𨌥𨑑𨦛𨵟𨺅𩂎𩂔𩂕𩅿𩉽𩋟𩋨𩍏𩎛𩐚𩑬𩒙𩒺𩓖𩖬𩖼𩜲𩠷𩢰𩢿𩣜𩣸𩬙"),
     ("Fu", "𩭺𩳎𩳐𩵩𩵹𩽺𩽻𩾿𩿧𪀺𪂀𪂋𪂾𪃓𪆠𪊐𪍏𫄢𫄭𫓧𫖯𫚒𫛡𫛳𮔅𮸕𮸦婦福𰁾𰬅𰬘𰰷𰱦𰺓𰽮𰽱𰾟𱂩𱅎"), ("Fu", "𱇲𱉎𱉜𱉺𱊏𱋖𱋗𱯧"),
     ("Ga", "嘎嘠噶尕尜尬旮玍釓錷钆魀𠁥𡉅𡯰𡯽𡼛𲈖"), ("Gai", "㕢㧉㮣㱾䀭䏗䐩䪱䬵丐乢侅匃匄垓姟峐忋戤摡改晐杚概槩槪溉漑瓂畡盖祴絠絯荄葢蓋該该豥"),
     ("Gai", "賅賌赅郂鈣钙阣陔隑𠌰𡒖𡧣𢅤𢍓𢻉𦫻𧊏𧯺𨝕𨞨𨮂𨱕𨱣𨸛𩕭𬘠𬮿槪𰇀𰬓"), ("Gan", "⼲⽢㓧㤌㶥㽏㿻䃭䇞䊻䤗䯎䲺䵟乹亁仠倝凎凲坩尲尴尶尷干幹忓感擀攼敢旰杆柑桿榦橄檊汵"),
     ("Gan", "泔淦漧澉灨玕甘疳皯盰矸秆稈竿笴筸簳粓紺绀肝芉苷衦詌贑贛赣赶趕迀酐骭魐鰔鱤鳡鳱𠇵𠖫"),
     ("Gan", "𡯋𡶑𢧀𣁖𣆙𣔼𣗲𣘠𣦖𣵼𣹟𤌹𤮽𤯌𥕵𥘏𥸡𥾍𦪧𦼮𦾮𧆐𧹳𧾲𨝌𨣝𨳼𩉐𩖦𩚵𩠁𩢨𩴁𩴌𩴵𩹸𪉿𪊄𪊇𪔆"), ("Gan", "𪚬𫎬𫤽𬣠𬸹贛䯎𱉊𱖇𱶡𱸜"),
     ("Gang", "⺱㟠㟵㧏㭎㼚㽘䚗䴚冈冮刚剛堈堽岗岡崗戅戆掆杠棡槓港焵焹牨犅疘矼筻綱纲缸罁罓罡肛釭"), ("Gang", "鋼鎠钢鿍𠵹𡇬𢭈𢰌𣗵𣦐𤭛𦋳𦱌𨟼𫇪𫩚𫼱𮣲𮭰港𰉙𰠫𱮴"),
     ("Gao", "⾼㚏㚖㤒㵆㾸䆁䓘勂吿告夰峼搞暠杲槀槁槔槹橰檺櫜滜皋皐睾祮祰禞稁稾稿筶篙糕縞缟羔羙"),
     ("Gao", "膏臯菒藁藳誥诰郜鋯锆镐韟餻高髙鷎鷱鼛𡋟𡜲𡷥𡼗𢍎𢞟𣓌𣝏𣽎𤱟𥓖𥢐𥢑𦍱𦏦𦤎𦺆𧚡𧜉𧠼𧢌𨝲"), ("Gao", "𩋺𩏤𩓢𩔇𩕍𩫓𪔘𬸢𱂳𱗤"),
     ("Ge", "⼽⾰⿀㖵㗆㠷㤎㦴㭘㵧㷴䈓䐙䔅䗘䘁䛿䧄䨣䪂䪺䫦个仡佮個割匌各呄咯哥哿嗝嗰圪塥彁愅戈"),
     ("Ge", "戓戨挌搁搿擱敋格槅櫊歌滆滒牫牱犵獦疙硌箇肐胳膈臵舸茖葛虼蛒袼裓觡諽謌輵轕鉻鎶铬镉"),
     ("Ge", "閣閤阁隔革鞈鞷韐韚騔骼鬲鮯鴐鴚鴿鸽鿔𠛊𠯫𠲱𠸲𠹓𠺝𡟍𢆜𢎄𢓜𢡍𢧧𢩓𢯹𢼛𣭝𤇞𤕒𤜊𤠇𤩲𤭻"),
     ("Ge", "𥉅𥢸𥰮𥴩𥺊𦑜𦓱𦨜𧈌𧈑𧈖𧊧𧎺𧗶𧿩𨍮𨏚𨏴𨐥𨝆𨞛𨟶𨼣𨾓𩎎𩢅𩢛𩨀𩹺𩹿𩼙𩾷𪀁𪀉𪃿𪄎𪌣𫚗𫠅𬤐"), ("Ge", "𬤑𬤒𬨍𬮤𬸂𬸠𮝺割𱂆𱉕𱋓𱎼𱗋𱤗"), ("Gei", "給给"),
     ("Gen", "⾉㫔㮓䫀亘亙哏揯搄根艮茛跟𠄣𠛵𥃩𨒼𩒝𩓓𫖱𬱝"), ("Geng", "㪅㹴㹹㾘䋁䌄䎴䢚䱍䱎䱭䱴刯哽埂堩峺庚挭暅更梗椩浭焿畊絚綆緪縆绠羮羹耕耿莄菮賡赓郠"),
     ("Geng", "骾鯁鲠鶊鹒更𠡣𡍷𡩃𢙾𢞚𣆳𣈶𣎄𥅨𥉔𥔂𥾚𦚸𦛟𦜷𦞌𦣍𦵸𧀙𧋑𧙸𧰨𩂼𩜣𩱁𩱋𩱧𬒔𬘵𬶊𮀲𰬌𱇥𱈇"), ("Geng", "𱈈"),
     ("Gong", "⼯⼶⼸㓋㓚㔶㕬㤨㧬㫒㭟㯯㺬㼦䂬䂵䇨䍔䐵䔈䡗䢼䰸䱋䲲䳍供公共功匑匔厷塨宫宮工巩幊廾"),
     ("Gong", "弓恭愩慐拱拲攻杛栱汞熕珙碽糼羾肱莻蚣觥觵貢贡躬躳輁鞏髸龏龔龚𠇒𠌕𠞖𡔕𡚑𡟫𢀜𢁠𢖷𢸁"),
     ("Gong", "𤅐𤨶𤬳𤱨𥧂𥧡𥨐𥫋𥸲𦄜𦈩𦊫𦓳𦔸𦞗𦞨𦩼𦬘𧆷𧎡𧘏𨉫𨊧𨋑𨋝𨋷𨒱𨣂𨴛𩃙𩌌𩐣𩛘𪄌𪏠𪏢𫋐𫝪𫺌𬊎"), ("Gong", "𬠈𬨆𮭥廾㺬𰑟𰱀𰺄𱍁𱖭"),
     ("Gou", "㗕㝅㝤㡚㨌㺃㽛䃓䑦䝭䬲佝冓勾坸垢够夠姤媾岣彀搆撀构枸構沟溝煹狗玽笱篝簼緱缑耇耈耉"),
     ("Gou", "芶苟茩蚼袧褠覯觏訽詬诟豿購购遘鈎鉤钩雊鞲韝𠛎𡖑𡗁𢄇𣕉𣕌𣙱𣫌𤖮𤚼𤠼𤫱𥉇𥧒𥬉𥴴𥿺𦎯𦎼"), ("Gou", "𦩷𦱣𦵷𦽋𧃛𧲿𧵈𨩦𩄢𪃺𪚭𫎧𫖕𬲯𰵛𰽭𱍅"),
     ("Gu", "⻣⾕⾻⿎㒴㚉㧽㯏㼋㽽㾶䀇䀜䀦䀰䉉䍛䐨䐻䓢䜼䮩䵻䶜估傦僱凅古呱咕唂唃啒嘏固堌夃姑嫴"),
     ("Gu", "孤尳崓崮愲扢故柧梏棝榖榾橭毂汩沽泒淈濲瀔牯牿痼皷皼盬瞽祻稒穀笟箍箛篐糓縎罛罟羖股"),
     ("Gu", "脵臌苽菇菰蓇薣蛄蛊蛌蠱觚詁诂谷軱軲轂轱辜逧酤鈲鈷錮钴锢雇顧顾餶馉骨鮕鯝鲴鴣鶻鸪鹄"),
     ("Gu", "鹘鼓鼔穀𠑹𠷞𠻧𠽿𡗷𡷓𡽂𢝳𢡇𣀐𣖫𣦩𣦭𣨍𣨺𣪸𣫀𣱫𤅱𤚱𥂰𥐬𥠳𥮝𥵠𥿍𦈔𦊬𦋆𦍩𦎰𦙶𦺠𦾫𧆻𧇡"), ("Gu", "𧟣𧣡𧬕𧳸𧵎𨠋𨪷𨬕𨱃𨵐𨸯𩙏𩲱𩴡𪇗𪕷𮝴𮸹穀𱐏"),
     ("Gua", "⽠㒷㧓㶽䈑䏦䒷䫚䯄䯏冎刮剐剮劀卦叧啩坬寡挂掛栝歄煱瓜絓緺罣罫胍褂詿诖趏踻銽颪颳騧"),
     ("Gua", "鴰鸹𠆣𠈥𠊰𠙼𠛒𠜵𠟗𠮠𠯑𠵯𡜁𣅻𤆜𥄼𥈓𥝒𦊱𧤐𧿼𨵃𩢍𩻎𪇜𬅥𬱠𬳷𮉤𮉨𱴾"), ("Guai", "㧔㾩䂯䂷䊽乖叏夬怪恠拐掴摑枴柺箉𠛕𠦬𡇸𡌪𡖪𡧩𢶒𣲾𥑋𥑰𦫳𦮃𧊅𧱾𧴚𩶦𪭯柺"),
     ("Guan", "㮡㴦䎚䏓䗆䗰䘾䙛䙮䚪䝺䤽䦎䩪䪀䲘丱倌关冠官悹悺惯慣掼摜棺樌毌泴涫潅灌爟琯瓘痯瘝癏"),
     ("Guan", "盥矔礶祼窤筦管罆罐舘莞蒄覌観觀观貫贯躀輨遦錧鏆鑵関闗關雚館馆鰥鱞鱹鳏鳤鸛鹳館舘瘝"),
     ("Guan", "𠬆𠴨𡅭𡠒𡭷𢇇𢉂𢺄𣥥𣩔𣬂𤼐𥈒𥉀𥊫𥍅𥎅𥜄𥷬𥿑𦛤𦺊𨝑𨱌𨵄𨷀𩖒𪈸𫐑𬦻𬶵𬶺𮶁貫𰭄𰾒𰿨𱑖𱾆"),
     ("Guang", "⼴㤮㫛侊俇僙光咣垙姯广広廣撗桄欟洸灮炗炚炛烡犷獷珖胱臦臩茪輄逛銧黆𠏤𢓯𤖖𤳭𤴀𥀱𦢎"), ("Guang", "𧻺𨎩𨐈𨤡𨶰𩑈𩒚𩧉𪇵𪕓𬨒𬪺𰽵𰿹𱄾"),
     ("Gui", "⻤⻱⻲⻳⿁⿔㔳㧪㨳㪈㰪㲹㸵䁛䃽䅅䈐䌆䍯䐴䝿䞈䞨䠩䣀䤥䲅䳏亀佹刽刿劊劌匦匭匱厬圭垝"),
     ("Gui", "妫姽媯嫢嬀宄嶡巂帰庋庪归恑摫撌攰攱昋晷朹柜桂桧椝椢槶槻槼檜櫃櫷歸湀猤珪瑰璝瓌癐癸"),
     ("Gui", "皈瞡瞶硅祪禬窐筀簂簋胿膭茥蓕蛫螝蟡袿襘規规觤詭诡貴贵跪軌轨邽郌閨闺陒鞼騩鬶鬹鬼鮭"),
     ("Gui", "鱖鱥鲑鳜龜龟龜龜龜𠐽𠪑𠱓𡃩𡌲𡗤𡧭𡬂𡷺𡹙𢃯𢄊𢠿𢻂𣄜𣢪𣦦𣧎𣪕𣷾𤘧𤡱𤱺𤱾𤲉𤶊𤻿𤼮𤿡𥇳𥈸"),
     ("Gui", "𥍁𥍨𥎛𥜏𥥠𥦣𦓯𦤇𦳛𧊄𧡫𧷱𧹑𧻜𨇙𨋡𨲿𨾚𨾴𩉝𩊛𩍨𩏐𩏡𩓠𩔆𩪁𩱻𩲡𩳝𩳧𪀗𪄯𪆳𪈥𪊧𪏤𪻺𫂆𫋻"), ("Gui", "𫚜𫢔𫰹𬃀𬭢𮬝蟡𰓻𰔋𰥪𰧻𰲲𰸊𰽺𱁹𱅡𱉤𱉭𱤑𱦈"),
     ("Gun", "⼁㙥㨰㯻䃂䎾䜇䵪丨惃棍滚滾璭睔睴磙緄绲蓘蔉衮袞謴輥辊鮌鯀鲧𠃌𠞬𡈧𡘝𡻨𢃩𣮎𥕦𦓼𦠺𦫎"), ("Gun", "𧬪𧸫𩨬𩩌𫬙𬑆𬤆𬤖𱇢"),
     ("Guo", "㕵㗻㳀㳡㶁㿆䂸䆐䙨䬎䴹呙咼啯嘓囯囶囻国圀國埚堝墎崞帼幗彉彍惈慖果椁槨淉漍濄猓瘑粿"),
     ("Guo", "綶聒聝腘膕菓蔮虢蜾蝈蟈裹褁輠过過郭鈛錁鍋鐹锅餜馃馘𠋜𠜴𠩥𠿤𡇄𡓣𢃦𢅗𢐚𢝸𢧰𢸗𢹖𣁯𣂄"),
     ("Guo", "𣒌𣽅𣽰𤂁𤮋𥁁𥂣𥄍𥆘𥕖𥜭𦄰𦗒𦘌𦛢𦬗𦸈𧒖𧖻𧤯𧥵𧭕𧭣𧰒𧾛𨉹𨭗𨽏𩉕𩋗𩟂𩪐𩫏𩰬𩰭𩻧𪂠𪆹𪈃𪋊"), ("Guo", "𫓨𫪀𬇹𬏮𬜿𬧩𬭇𬱿𬲸𬶯𭚦𮲇𰲺𰺍𰽾𱋙"),
     ("Ha", "哈奤蛤铪𡄟𨉣𬢇"), ("Hai", "㜾㤥㧡㨟㰧㰩㱼㺔㾂䇋䠽䯐䱺亥咍咳嗐嗨嚡塰妎孩害氦海烸胲还還酼醢頦餀饚駭駴骇骸海𠀅"),
     ("Hai", "𠔑𠹛𡕗𡾨𢞐𢩸𢻜𣖻𣢇𣳠𤵽𥁐𥂧𥩤𥩲𦐤𦤦𦤬𦷷𧻲𧽊𧽖𨀖𨒨𨡬𨸜𩞞𩠚𩡔𩪃𩰶𩹄𫩯𫼥𬐚𮩜𮪢海𱘆"),
     ("Han", "㑵㒈㖤㘎㘕㘚㟏㟔㢨㤷㨔㪋㮀㲦㵄㶰㸁㺖㺝㼨䈄䍐䍑䎏䎯䏷䓍䓿䕿䗙䗣䘶䛞䣻䤴䥁䧲䨡䫲䮧"),
     ("Han", "䶃丆佄傼兯函凾厈含咁哻唅喊圅垾娢嫨寒屽岾崡嵅悍憨憾扞捍撖撼旱晗晘暵梒歛汉汗浛浫涆"),
     ("Han", "涵漢澏瀚焊焓熯爳猂琀甝皔睅筨罕翰肣莟菡蔊蘫虷蚶蛿蜬蜭螒譀谽豃邗邯酣釬銲鋎鋡閈闬雗"),
     ("Han", "韓韩頇頷顄顸颔馠馯駻鬫魽鶾鼾鿰漢漢𠗴𠢇𠤮𠤾𠥴𠦊𠲒𠵸𠹄𠽦𠿑𡁀𡇜𡣔𡬖𡷛𡻡𢀵𢃗𢄜𢇞𢎘𢔈"),
     ("Han", "𢔔𢧦𣐺𣒷𣘞𣛴𣝽𣢅𣢟𣢺𣵷𤀉𤌐𤞶𤬯𤭙𤳉𤸕𤿧𥀐𥆡𥇌𥉰𦋣𦒅𦒝𦜆𦞞𦥖𦺦𧂃𧃙𧑚𧭻𧮰𧮳𧯘𧰪𧵊𧹣"),
     ("Han", "𧾔𨁄𨛎𨢈𨸗𩄙𩈣𩎒𩕠𩖺𩗤𩞿𩦊𩭥𩹑𩹼𩾝𫒶𫘛𫘣𫠐𬉧𬣸𬥴𬬧𬭍𰙎𰶆𰾅𱂰𱅠𱉋𱉶𱼞"),
     ("Hang", "㤚㰠䀪䂫䘕䟘䣈䦭䲳垳夯斻杭沆笐筕絎绗航苀蚢貥迒頏颃魧𠡊𡕧𤰟𤵻𤼍𥮕𦐄𦨵𧘃𧦑𨁈𨾒𩔋𩠾"), ("Hang", "𩲋𪐦𪕇𪗜𬹽𱇘𲀟"),
     ("Hao", "㘪㙱㚪㝀㞻㠙㩝㬔㬶䒵䚽䝞䝥䧚䧫䪽䯫傐儫号哠嗥嘷噑嚆嚎壕好恏悎昊昦晧暤暭曍椃毜毫浩"),
     ("Hao", "淏滈澔濠灏灝獆獋獔皓皜皞皡皥秏竓籇耗聕茠蒿薃薅薧號蚝蠔諕譹豪貉郝鄗鎬顥颢鰝𠚃𠢕𡐒"),
     ("Hao", "𡚌𡚽𡠖𡥆𡽝𢻇𣆧𣘫𣚧𣭖𣭹𤀃𤝐𤡇𤢨𤢭𤩩𤩭𤫧𥍣𦳁𧇼𧬁𧯌𨂜𨒑𨚙𨚮𨠬𨼍𩐮𩖸𩫕𩮘𩲊𬣜𬤫噑浩𰶅"), ("Hao", "𱈋𱛧𱸡𱺮"),
     ("He", "⽲㕡㗿㥺㪃㪉㬞㭱㮝㮫㰤㵑㷎㹇㿣㿥䃒䅂䏜䒩䕣䚂䞦䢔䫘䮤䳽䶅䶎何佫劾合呵咊和哬啝喝嗃"),
     ("He", "嗬垎壑姀寉峆惒抲敆曷柇核楁欱毼河涸渮澕焃煂熆熇燺爀狢癋皬盇盉盍盒碋礉禾秴穒篕籺粭"),
     ("He", "紇纥翮翯荷菏萂蚵螛蠚袔褐覈訶訸詥謞诃貈賀贺赫郃鉌鑉闔阂阖隺靍靎靏鞨頜颌饸魺鲄鶡鶮"),
     ("He", "鶴鸖鹖鹤麧齕龁龢鶴喝褐喝㮝𠀀𠗂𠘢𠚔𠡀𠧕𠰓𠳇𠳊𠵩𠶹𠶾𠻙𡇞𡇶𡫥𢄍𢅰𢥳𢬲𣆈𣏷𣣹𣲲𣿌𤈧𤌾"),
     ("He", "𤖱𥋿𥘫𥝖𥝸𥞄𥞍𥟃𥻉𥽶𦃔𦇸𦒏𦘿𦛘𦛜𦳬𦺞𦼵𦽅𧀔𧇎𧇮𧊬𧝂𧝳𧨂𧪞𧬂𧬱𧭳𧮵𧯉𨋟𨍇𨜱𨜴𨨛𨴢𩄸"), ("He", "𩅢𩌡𩐥𩑸𩩒𩩲𩵢𪈊𪖲𪘹𪡛𫓼𫠁𬌗𬸰𮳆𮹙㮝𰇡𰜢𰵝𰵣𰵿𰽬𱋇𱣻"),
     ("Hei", "⿊㱄嘿潶黑黒𢖛𢡀𥕙𨭆𩻤𬭶"), ("Hen", "㯊䓳佷很恨拫狠痕詪鞎𦚣𬣳𱖙𱳩"),
     ("Heng", "㔰㶇䬖䬝䯒亨哼啈堼姮恆恒悙桁横橫涥烆珩胻脝蘅衡鑅鴴鵆鸻𠔲𠧿𡧦𣕲𣨉𤮏𥞧𦨾𦶙𧝒𩙯𪏓"), ("Hm", "噷"),
     ("Hong", "㖓㗢㢬㬴㶹䀧䃔䆖䆪䉺䎕䞑䡌䡏䧆䨎䩑䪦䫹䫺䲨仜叿吰吽呍哄唝嗊嚝垬妅娂宏宖弘彋揈撔晎"),
     ("Hong", "汯泓洪浤渱渹潂澋澒灴烘焢玒玜硔硡竑竤粠紅紘紭綋红纮翃翝耾苰荭葒葓蕻薨虹訇訌讧谹谼"),
     ("Hong", "谾軣輷轟轰鈜鉷銾鋐鍧閎閧闀闂闳霐霟鞃鬨魟鴻鸿黉黌𠐿𠪷𠲓𠳃𠹅𡇳𡵓𡺭𢂔𢗵𢘌𢝁𢦅𢬀𢼦𣽝"),
     ("Hong", "𤂲𤃫𤄏𤟼𥈿𥏕𥓰𥔀𥕗𥥈𥥡𥰲𦁷𦏺𦐌𦐳𦑟𦑠𦒃𦕠𦕷𦶓𧈽𧊯𧋔𧐬𧮴𧾧𨋮𨌁𨌆𨎗𨢣𨥺𨹁𨾊𩐠𩒓𩒴𩒼"),
     ("Hong", "𩓅𩕆𩕉𩖉𩗄𩗢𩘇𩘎𩙛𩰓𪈘𫐒𫚉𫟄𫟹𫩕𬭂𬭎𬮢𬱥𬷾𭱊𮣳𮷛𰇖𰬋𰺆𰾁𰾡𱖀𱛒𱛨"),
     ("Hou", "㖃㗋㤧㫗㬋㮢㸸㺅䂉䗔䙈䞀䞧䪷䫛䳧侯候厚后吼喉垕堠帿後洉犼猴瘊睺矦篌糇翭翵葔豞逅郈"),
     ("Hou", "鄇鍭餱骺鮜鯸鱟鲎鲘齁𠯜𠴣𠷋𡞥𡟑𡹵𢜴𣔹𣣠𣣡𤘽𤙽𥀃𥅠𥈑𥚦𦍵𦑚𦚥𦞈𦞕𧇹𧙺𧩨𧮶𧻿𧼵𩃺𩄬𩘋"), ("Hou", "𩙡𪃶𪄗𪅺𪇂𪑻𪖙𫗯𫛺𬥽𬭤𱈄𱴞"),
     ("Hu", "⻁⼾⾌㕆㗅㦆㦌㧮㧾㨭㪶㫚㯛㳷㷤㸦㺀㺉㽇㾰䁫䇘䈸䉿䊀䊺䍓䎁䓤䕶䗂䚛䞱䠒䧼䨚䨼䩐䩴䪝"),
     ("Hu", "䬍䭅䭌䭍䰧䴣䴯乎乕乥乯互俿冱冴匢匫呼唬唿喖嗀嘑嘝嚛囫垀壶壷壺婟媩嫭嫮寣岵帍幠弖弧"),
     ("Hu", "忽怘怙恗惚戯戶户戸戽扈抇护搰摢斛昈昒曶枑楛楜槲槴歑汻沍沪泘浒淴湖滬滸滹瀫烀焀煳熩"),
     ("Hu", "狐猢琥瑚瓠瓳祜笏箶簄粐糊絗綔縠胡膴芐苸萀葫蔛蔰虍虎虖虝蝴螜衚觳謼護軤轷鄠醐錿鍙鍸"),
     ("Hu", "雐雽韄頀頶餬鬍魱鯱鰗鱯鳠鳸鵠鶘鶦鸌鹕鹱嗀𠥰𠦪𠯳𠰛𠴱𡍐𡜂𡞠𡧥𡰅𡱽𡴱𡵘𡹹𡻮𡼘𢆰𢉢𢎵𢏯"),
     ("Hu", "𢑢𢑹𢚪𢝻𢨥𢨦𢪏𢽨𣄟𣎚𣑂𣓗𣙶𣛫𣝗𣡾𣫈𣲑𣹬𤇠𤌍𤎲𤐀𤘔𤘵𤜷𤝘𤞲𤨖𤭱𤶘𤹣𤾅𥂤𥇰𥐿𥰪𥲉𥶜𥷆"),
     ("Hu", "𥾨𦁕𦊂𦊘𦊧𦏗𦖼𦗣𦧘𦩕𦬚𦭈𦴉𦷳𦺟𧂔𧅰𧆢𧆮𧆯𧇛𧇰𧌧𧍵𧗌𧘢𧛞𧞒𧠩𧢰𧣼𧥮𧥯𧦚𧦝𧩓𧰴𧲇𧲥𧹲"),
     ("Hu", "𧹾𧻰𧿓𧿠𨍲𨕚𨖃𨛵𨝘𨝞𨢋𨢤𨣗𨥛𨱀𨴬𩂂𩑶𩖨𩢪𩨔𩰯𩱍𩳨𩵬𩶈𩾇𩾻𪂒𪄮𪍂𪏳𪏻𪕉𪕮𪕱𪙈𪠸𫄚𫍞"), ("Hu", "𫗫𫛷𬤙𬲀𬲾𬶞𭘓壷𰬦𰮇𱂌𱇓𱉓𱝴"),
     ("Hua", "㓰㕦㕲㕷㚌㟆㠏㦊㭉㳸䀨䇈䋀䔢䛡䱻䴳䶤划劃化华哗嘩埖夻姡婲婳嫿嬅崋搳摦撶杹枠桦椛槬"),
     ("Hua", "樺滑澅猾画畫畵砉硴磆糀繣舙花芲華蒊蕐蘤螖觟話誮諙諣譁譮话釪釫鋘錵鏵铧驊骅鷨黊滑画"),
     ("Hua", "華𠝐𠤎𠳂𠿜𡁑𢄶𢦚𢼤𣶩𤁪𤙕𥉄𥒶𥢮𥧰𦁊𦖍𦧠𦧵𦧹𦪠𦶎𦽊𧑍𧨋𧽌𨣄𨶬𨶱𩂤𩗐𩝨𩤉𩲏𩵏𩸄𪉊𫍩𫚝"), ("Hua", "𫜸𫰡𫺆𫼧𬈾𬬨𬭌𮬡㭉花鋘𰬠𰵻𰽗𱋎𱞌𱾃"),
     ("Huai", "㜳㠢䃶咶坏壊壞徊怀懐懷槐櫰淮瀤耲蘹蘾褢褱踝𣟉𣩹𣸎𤜄𦏨𦧬𧱳𩌃𩟮𪊉𬜸𱊽"),
     ("Huan", "㕕㡲㣪㪱㬇㬊㵹㶎㹕㹖㼫㿪䀓䆠䈠䍺䒛䝠䠉䥧䦡䭴䯘䴉䴋䴟唤喚喛嚾圜奂奐嬛宦寏寰峘嵈幻"),
     ("Huan", "患愌懽换換擐攌桓梙槵欢歓歡洹浣涣渙漶澣澴烉焕煥犿狟獾环瑍環瓛痪瘓睆糫絙綄緩繯缓缳"),
     ("Huan", "羦肒荁萈萑藧讙豢豲貆貛轘逭郇酄鉮鍰鐶锾镮闤阛雈驩鬟鯇鯶鰀鲩鴅鵍鹮𠂄𠟼𠺐𠻍𡄤𡅱𡅻𡍦"),
     ("Huan", "𡘍𡚊𡚜𡩂𡱌𡷗𢟿𣌓𤀣𤛚𤡟𤢁𤩽𤴯𤼢𤽅𤽕𥈉𥏇𥐓𥠅𥶍𥹚𦌦𦑛𦝝𦣴𦻃𦼉𧚁𧡩𧴊𨕹𨜌𨽧𩍡𩑖𩙽𩡧𩦘"), ("Huan", "𩵄𩿊𪈩𪊥𪍺𪣒𫄠𫛝𫜅𬘫𬤰𬴐𭈮𮝹𱉒𱢡𲍗"),
     ("Huang", "⻩⿈㞷㠵㡃㤺㨪㬻㾮㿠䀮䁜䄓䅣䅿䊗䊣䌙䍿䐠䑟䞹䪄䮲䳨偟兤凰喤堭塃墴奛媓宺崲巟幌徨怳"),
     ("Huang", "恍惶愰慌晃晄曂朚楻榥櫎湟滉潢炾煌熀熿獚瑝璜癀皇皝皩磺穔篁篊簧縨肓艎荒葟蝗蟥衁詤諻"),
     ("Huang", "謊谎趪遑鍠鎤鐄锽隍韹餭騜鰉鱑鳇鷬黃黄荒𠂸𡉚𡜋𡡄𡧽𡿰𢁹𢇟𣄙𣆖𣉪𣺬𤆴𤚝𤛥𤠛𤭉𤯷𤾑𥫼𥿪"),
     ("Huang", "𦟮𦡽𦪗𦵽𧕸𧖬𧠬𨉁𨉤𨍧𨚳𨜔𨝴𨱑𩞩𩢯𪀞𪏍𪏒𪏙𫗮𫘩𬤍𬶫𬸛兤㤺慌慌𰗓𱅦𱗢"),
     ("Hui", "㑰㑹㜇㞀㞧㤬㥣㧑㨤㨹㩓㩨㫎㬩㱱㷄㷇㷐㹆㻅㾯䂕䃣䅏䌇䏨䕇䖶䛛䛼䜋䜐䝅䤧䧥䩈䫭会佪僡"),
     ("Hui", "儶匯卉咴哕喙嘒噅噕噦嚖囘回囬圚婎媈嬒孈寭屶屷幑廻廽彗彙彚徻徽恚恛恢恵悔惠慧憓懳拻"),
     ("Hui", "挥揮撝晖晦暉暳會楎槥橞檅檓櫘殨毀毁毇汇泋洃洄浍湏滙潓澮濊瀈灰灳烠烣烩煇燬燴獩璤璯"),
     ("Hui", "痐瘣睳瞺硊禈秽穢篲絵繢繪绘缋翙翚翬翽芔茴荟蔧蕙薈薉藱蘳虺蚘蛔蛕蜖蟪袆褘詯詼誨諱譓"),
     ("Hui", "譭譿讳诙诲豗賄贿輝辉迴逥鏸鐬闠阓隓隳靧頮顪颒餯鮰鰴麾悔恵喙𠍗𠓊𠧩𠯠𠲛𠽡𠿔𡋙𡏁𡒾𡜦"),
     ("Hui", "𡢕𡥋𡭛𡯥𡰋𡹎𡹯𢀡𢄣𢅫𢊄𢊇𢕺𢟾𢻔𣄓𣋘𣌭𣨶𣸀𤃽𤆳𤈦𤌋𤕚𤜋𤜡𤞃𤟤𤸁𤾈𥀠𥃌𥊔𥌍𥔯𥱵𥴯𥶵𥸃"),
     ("Hui", "𦂆𦒎𦞙𦡖𦭹𦽐𧉇𧏧𧖢𧗏𧗼𧧾𧬨𧭾𧳐𨊢𨍹𨗥𨘇𨘲𨛤𨦗𨵘𩃾𩆁𩇻𩒏𩒳𩔁𩗝𩢱𩶥𩻟𪀟𪀬𪈑𪊂𪏇𪏏𪑀"),
     ("Hui", "𪑅𪔊𪖕𪛂𪸩𫖃𫚔𫝨𫰢𬜨𬣪𬣬𬣰𬤉𬤝𬤭𬨐𬭬卉灰喙悔撝䃣𰗆𰗢𰛦𰝍𰡋𰦨𰽷𰾶𱂤𱄄𱈑𱣄𱳢"),
     ("Hun", "㑮㖧㥵㨡㮯䅙䅱䊐䎜䚠䛰䡣䧰䫟䮝䰟䴷俒倱圂堚婚忶惛慁掍昏昬梡棔殙浑涽混渾溷焝珲琿睧"),
     ("Hun", "睯碈繉荤葷觨諢诨轋閽阍餛馄魂鼲𠉣𡇯𡨩𣇲𣝂𣣏𣣞𣨿𦃕𦞢𦟲𦡵𦵣𧠚𧣢𨂱𨋨𨏂𨡫𩅴𩇇𩏖𩧰𩽼𪌽"), ("Hun", "𪑕𫖲𫝈𬑕𬹉𬹋𱌏𱗃"),
     ("Huo", "⽕㓉㖪㗲㘞㦎㦜㦯㨯㩇㯉㸌㺢䁨䂄䄀䄆䄑䉟䐸䣶䦝䨥䬉䰥䱛伙佸俰剨劐吙咟嚄嚯嚿夥奯惑或"),
     ("Huo", "捇掝攉旤曤楇檴沎活湱漷濩瀖火獲癨眓矆矐祸禍秮秳穫耠耯臛艧获蒦藿蠖謋豁貨货邩鈥鍃鑊"),
     ("Huo", "钬锪镬閄霍靃騞禍𠙞𠯐𠵾𡄴𡓘𡪞𡯢𡿿𢃎𢋒𢛯𢝇𢞕𣄸𣉒𣤨𤁹𤆄𤊴𤏘𤐰𤬁𤻙𥇙𥊮𥒠𥙨𥝂𥽥𦑌𦒧𦞦"), ("Huo", "𦨯𧆑𧤴𧯆𧯱𧵻𨐶𨘌𨙀𨷮𩆀𩞺𩟨𩟸𩪭𩭳𪒩𫩥𫯥𫽇𬀥𬩎𬮘𬮨𬴃𮬟𰵼𰺨"),
     ("Ji", "⺔⺕⼏⼰⼹㑧㒫㔕㗊㗱㘍㙨㙫㚡㚻㛷㞃㞆㞛㞦㠍㠎㠱㡭㡮㤂㥍㥛㦘㦸㧀㨈㫷㭲㮨㮷㰟㲅㲺㳵"),
     ("Ji", "㴉㴔㴕㸄㹄㻑㻷㽺㾊㾵䀈䁒䁶䂑䇫䋟䍤䐀䐕䐚䓽䕤䗁䗗䚐䛋䛴䜞䝸䞘䟇䟌䠏䢋䢳䣢䤒䦇䨖䩯"),
     ("Ji", "䮺䰏䲯䳭䶓䶩丌丮乩亟亼亽伋伎佶偈偮僟兾冀几击刉刏剂剞剤劑勣卙即卽及叝叽吉咭哜唧喞"),
     ("Ji", "嗘嘰嚌圾坖垍基堲塈塉墼妀妓姞姫姬嫉季寂寄屐岌峜嵆嵇嵴嶯己幾庴廭彐彑彶徛忌忣急悸惎"),
     ("Ji", "愱懻戟戢技挤掎揤撃撠擊擠敧旡既旣暨暩曁朞机极枅梞棘楫極槉槣樭機橶檕檝檵櫅殛毄汲泲"),
     ("Ji", "洎济済湒漃漈潗激濈濟瀱焏犄犱狤玑璣畸畿疾痵瘠癠癪皀皍矶磯祭禝禨积稘稩稷稽穄穊積穖"),
     ("Ji", "穧笄笈筓箕箿簊籍紀紒級継緝績繋繼级纪继绩缉罽羁羇羈耤耭肌脊膌臮艥芨芰茍茤荠葪蒺蓟"),
     ("Ji", "蔇蕀蕺薊薺藉蘎蘮蘻虀虮螏蟣裚襀襋覉覊覬觊觙觭計記誋諅譏譤计讥记谻賫賷赍趌跡跻跽踖"),
     ("Ji", "蹐蹟躋躤躸輯轚辑迹郆鄿銈銡錤鍓鏶鐖鑇鑙际際隮集雞雦雧霁霵霽鞿韲飢饑饥驥骥髻鬾魕魢"),
     ("Ji", "鯚鰶鰿鱀鱭鱾鲚鲫鳮鵋鶏鶺鷄鷑鸄鸡鹡麂齌齎齏齑既冀𠀷𠋻𠍃𠑃𠓞𠔋𠗏𠚽𠟣𠦫𠨕𠨠𠫷𠮯𠯉𠱨"),
     ("Ji", "𠲹𠴩𠴫𠶻𠷌𠹋𠼻𠿉𠿠𡁪𡁰𡃃𡅺𡇟𡋚𡜱𡥞𡦊𡦪𡪱𡫀𡬄𡳮𡹪𡽉𡿙𢁂𢃺𢆻𢉗𢍇𢏞𢓄𢗂𢗹𢚁𢜭𢡴𢨐𢩦"),
     ("Ji", "𢭄𢰒𢱣𢺼𢼋𢼷𣄯𣄱𣇳𣏡𣔽𣖷𣘐𣛔𣜇𣣝𣪠𣬠𣯅𣰈𣱗𣳃𣹜𣽍𤊵𤋭𤌿𤎗𤓑𤛄𤜝𤜾𤠎𤤋𤫝𤳎𤵀𤷉𤺷𤿠"),
     ("Ji", "𥈂𥊬𥋥𥒡𥕂𥖙𥘌𥝌𥠋𥡒𥡴𥣩𥨿𥪫𥪼𥫶𥭋𥭌𥭜𥰦𥳏𥷙𥺵𥾊𦁳𦂑𦆡𦇧𦋋𦌗𦌰𦎢𦜸𦝖𦠄𦠾𦩧𦪱𦮯𦮼"),
     ("Ji", "𦳌𦵾𦶍𦺩𦺬𦺴𦺶𦼷𦾲𦿓𧃞𧇯𧉆𧉍𧎿𧐐𧓓𧗒𧟜𧡉𧡯𧢾𧤏𧥄𧧃𧧟𧧩𧩦𧪇𧪠𧫜𧫠𧮭𧽑𧾽𧾾𨀶𨂢𨄐𨅤"),
     ("Ji", "𨊻𨋉𨍺𨐆𨒴𨛉𨛑𨜒𨠨𨢵𨣧𨤹𨦮𨪏𨮺𨲪𨳋𨳻𨸚𨹶𨻕𩀖𩉜𩉢𩐆𩓮𩚮𩜆𩞊𩠨𩥉𩦤𩧱𩨒𩩛𩯋𩴃𩼄𩼚𪂍"),
     ("Ji", "𪂺𪄵𪄸𪅹𪊆𪌍𪔋𪘥𪟝𪲎𪲛𫅅𫌀𫍪𫓯𫓹𫞦𫟕𬆦𬏟𬓠𬘧𬤅𬭉𬭿𬯀𬶨𬶭𮷈㔕即卽及堲姬揤旣枅䀈穊"), ("Ji", "紀䗗飢鱀䳭𰇘𰣬𰣼𰨦𰬀𰳁𰺟𰽕𰽲𱇵𱇺𱉼𱉽𱊢𱊯𱌗𱌸𱏅"),
     ("Jia", "㕅㚙㪴㮖㹢㿓䀫䂟䑝䕒䕛䛟䩡䴥乫价伽佳假傢價加唊嘉圿埉夹夾婽嫁家岬幏徦忦恝戛戞扴抸"),
     ("Jia", "拁斚斝架枷梜椵榎榢槚檟毠泇浃浹犌猳玾珈甲痂瘕稼笳糘耞胛腵茄荚莢葭蛱蛺袈裌豭貑賈贾"),
     ("Jia", "跏跲迦郏郟鉀鉫鉿鋏鎵钾铗镓頬頰颊餄駕驾鴶鵊麚鿼賈𠷉𠺢𡊠𡩚𡭘𡶥𢉤𢜿𢫢𢱈𢱌𣦉𣪇𣮫𤖰𤗜"),
     ("Jia", "𤟚𤠙𥇗𥋣𥑐𥑔𥝿𥞦𥞵𥡮𥹌𦎮𦎱𦙺𦣯𦧮𦨦𦸘𦺧𦽤𧉪𧦤𧿵𨒇𨔗𨔣𩉡𩊏𩌍𩚲𩛩𩠃𩨹𩲣𩶛𪆲𪇷𪈟𪐓𪔟"), ("Jia", "𫛤𫛥𬂩𬡒戛𰇕𰉥𰵢𱉥"),
     ("Jian", "⻅⾒㓺㔋㔓㡨㣤㦰㨴㨵㭴㯺㰄㳨㵎㶕䄯䅐䇟䉍䌑䌠䓸䔐䘋䚊䛓䟅䟰䤔䥜䧖䬻䭈䭠䮿䯡䵡䵤䶠"),
     ("Jian", "䶢䶬件俭俴倹健僭儉兼冿减剑剣剪剱劍劎劒劔劗囏囝坚堅堿墹奸姦姧寋尖幵建弿彅徤惤戋戔"),
     ("Jian", "戩戬拣挸捡揀揃搛撿擶旔暕枧柬栫梘检検椷椾楗榗樫橺檢櫼歼殱殲毽洊涧渐減湔湕溅漸澗濺"),
     ("Jian", "瀐瀳瀸瀽煎熞熸牋牮犍猏玪珔瑊瑐监監睑睷瞷瞼硷碊碱磵礀礆礛笕笺筧简箋箭篯簡籛糋絸緘"),
     ("Jian", "縑繝繭缄缣翦肩腱臶舰艦艰艱茧荐菅菺葌葥蒹蔪蕑蕳薦藆虃螹蠒袸裥襇襉襺見覵覸见詃諓諫"),
     ("Jian", "謇謭譼譾谏谫豜豣賎賤贱趝趼践踐踺蹇轞釼鉴鋻鍳鍵鏩鐗鐧鐱鑑鑒鑬鑯鑳锏键間间鞬鞯韀韉"),
     ("Jian", "餞餰饯馢鬋鰎鰹鲣鳒鳽鵳鶼鹣鹸鹻鹼麉見𠊒𠍚𠏇𠐻𠫘𠹟𠼤𠽱𠿏𡄑𡄓𡅶𡑯𡬵𡭭𡾰𢃬𢆞𢆦𢍫𢐆𢦺"),
     ("Jian", "𢨿𢩀𢳚𢵈𣘖𣘷𣚙𣜭𣝕𣠷𣥞𣮏𣳲𣴓𣽖𣽦𤀩𤄒𤍖𤧣𤪋𤷃𥀹𥊇𥌈𥍀𥍹𥡝𥢇𥯦𥳒𥳟𥳷𥴱𥽐𦁲𦂇𦋰𦏔𦢣"),
     ("Jian", "𦣨𦩵𦺍𦺘𦽇𦾶𧀇𧀵𧂂𧂆𧂢𧅆𧗸𧙧𧢖𧤨𧥈𧬫𧮈𧲨𨎫𨏊𨔥𨢑𨣇𨤄𨪅𨰓𨳡𨳿𨴾𨵭𨷓𩅼𩆷𩇏𩉍𩉔𩋋𩌯"),
     ("Jian", "𩍎𩛧𩟗𩱃𩻘𩽜𪃛𪆿𪉦𪋁𪏊𪐻𪒫𪒹𪙨𪟎𪽭𫀨𫈉𫊱𫍿𫗚𫛚𫪄𫽐𬃦𬇃𬊗𬕊𬘖𬞋𬣡𬤯𬰣𬰱𬲕𬳆𬴏𬺍𮲶"), ("Jian", "𮶙𮶬䄯𧙧𧲨趼鳽𰀢𰉱𰜨𰝗𰞤𰠛𰧃𰧔𰯲𰱇𰱑𰳂𰴘𰺗𰾌𰾫𰿈𱄃𱊋𱖲𲍯"),
     ("Jiang", "㢡㯍㹔䁰䉃䋌䒂䗵䜫䞪䥒傋僵勥匞匠壃夅奖奨奬姜将將嵹弜弶彊摪摾桨槳橿櫤殭江洚浆滰漿"),
     ("Jiang", "犟獎畕畺疅疆礓糡糨絳繮绛缰翞耩膙茳葁蒋蔣薑螀螿袶講謽讲豇酱醤醬降韁顜鱂鳉降𠘌𠼢𡏞"),
     ("Jiang", "𡑶𡲣𡷍𢘸𢪇𣚦𣨣𣩴𣫳𤕭𤕯𤖛𤛜𥆅𥔣𥗪𥞜𥬮𥷃𦦗𧘍𨃇𨜰𨯞𩌾𩝽𩴒𩷄𩷭𪀘𫮬𫽣将摾糨𱂴𱴘𱽿"),
     ("Jiao", "⾓㠐㤭㩰㬭㭂㰾㲬㳅㶀㽱㽲䀊䂃䌭䍊䘨䚩䢒䥞䴔䶰䶷交佼侥僥僬儌剿劋叫呌嘂嘄嘦噍噭姣娇"),
     ("Jiao", "嬌嬓孂峤峧嶕嶠嶣徺徼恔憍憿挍挢捁搅摷撟撹攪敎教敫敽敿斠晈暞曒椒櫵浇湫湬滘漖潐澆灚"),
     ("Jiao", "烄焦煍燋燞狡獥珓璬皎皦皭矫矯礁穚窌窖笅簥絞繳纐绞缴胶脚腳膠膲臫艽芁茭茮蕉藠虠蛟蟜"),
     ("Jiao", "蟭角訆譑譥賋趭跤踋較轇轎轿较郊酵醮釂鉸鐎铰隦餃饺驕骄鮫鱎鲛鵁鵤鷦鷮鹪𠕧𠘣𠜅𠝑𠞰𠩏"),
     ("Jiao", "𡏭𡓖𡙎𡟠𡥈𡬋𢀌𢄺𢅎𢒾𢕪𢥚𢧱𢯴𢻟𢼫𣁹𣏑𣝞𣧦𣩓𣺳𤃭𤉧𤕝𤫷𤶀𤶳𥂨𥃤𥃪𥄉𥅟𥇟𥉒𥉼𥏹𥘊𥡤𥦢"),
     ("Jiao", "𥳴𥹜𦅃𦌆𦗵𦫶𦮁𧂈𧎙𧎸𧣦𧺜𧾐𨇕𨎦𨎬𨓩𨖵𨝰𨡃𨨴𨱓𨲭𨶟𨶪𨶲𨸋𨺹𩊔𩎔𩯘𩱞𩴧𩵰𩿑𪁉𪖄𪚰𫊸𫌯"), ("Jiao", "𫍤𫐖𫪧𫽊𬭻𬮄叫摷𰕈𰩸𰵊𱇩𱉬𱍆"),
     ("Jie", "⺋⼙㑘㓗㔚㘶㛃㝏㞯㠹㦢㨗㨩㫸㮞㮮㸅㼪㾏㿍䀷䀹䂝䂶䃈䅥䇒䌖䕙䕸䗻䛺䣠䥛䦈䯰䰺䱄䲙䲸"),
     ("Jie", "丯介借倢偼傑刦刧刼劫劼卩卪吤喈喼嗟堦堺姐婕媎媘媫嫅孑尐屆届岊岕崨嵥嶻巀幯庎徣悈戒"),
     ("Jie", "截拮捷接掲掶揭擑擮昅杢杰桀桔桝椄楐楬楶榤檞櫭毑洁湝滐潔煯犗玠琾界畍疌疖疥痎癤皆睫"),
     ("Jie", "砎碣礍秸稭竭節結絜结羯脻节芥莭菨蓵蚧蛶蜐蝍蝔蠘蠞蠽街衱衸袺褯解觧訐詰誡誱謯讦诘诫"),
     ("Jie", "踕迼鉣鍻鎅阶階鞂鞊颉飷骱魝魪鮚鲒鶛節節䀹𠂈𠄍𠅂𠎿𠐉𠓢𠙤𠬮𠯙𠷟𡉷𡔣𡗦𡗲𡙣𡣯𡨲𡩣𡵒𡵚"),
     ("Jie", "𡸎𡽱𢈻𢎔𢎡𢢂𢨜𢪍𢫐𢬱𢱄𢷿𢻮𣙴𣚃𣬫𣮌𣮍𣰞𣳟𣶏𤁢𤘦𤙩𤭧𤮌𥁂𥅴𥇒𥓐𥝔𥝥𥠹𥢻𥵞𥷫𥾌𦀖𦁉𦈜"),
     ("Jie", "𦈰𦎒𦝨𦵴𦺢𦿐𧍠𧍩𧏥𧜅𧞔𧞝𧞩𧞬𧣋𧫑𧼨𧽄𧽟𧾢𧾯𨃲𨐑𨓰𨕽𨥂𨵠𩔄𩘅𩟦𩡺𩢴𩧦𩧵𩩰𩯰𩾶𪀾𪁍𪃈"), ("Jie", "𪅸𪇲𪉋𪉚𪌧𪑹𪖋𪙏𫄦𫍹𫜯𬝋𬭴𬲭𬶀𬶇𬶎𮔂𮭡䀹莭𰞍𰾛𱊐"),
     ("Jin", "⻐⼱⽄⾦㝻㦗㧆㨷㬐㬜㯲㯸㱈㴆㶦㶳㹏㻱䀆䃡䆮䈥䈽䋮䌍䌝䑤䒺䗯䘳䝲䤐䤺䥆䫴䭙䶖仅今伒"),
     ("Jin", "侭僅僸儘兓凚劤劲勁卺厪唫噤嚍埐堇堻墐壗妗嫤嬧寖尽嶜巹巾廑惍搢斤晉晋枃槿歏殣津浕浸"),
     ("Jin", "溍漌濅濜烬煡燼珒琎琻瑨瑾璡璶盡矜矝砛祲禁筋紟紧緊縉缙荕荩菫蓳藎衿襟覲觐觔謹谨賮贐"),
     ("Jin", "赆近进進金釒釿錦钅锦靳饉馑鹶黅齽金縉謹謹𠂟𠞱𠞾𠢱𠢵𠬶𠰇𠾤𠾬𡋤𡢳𡥧𡺽𢉅𢎭𢙿𢦊𢬬𢬶𢱷"),
     ("Jin", "𢽖𣓏𣝌𤄼𤘡𤣶𤧫𤵞𥂵𥖜𥧲𥯑𦈟𦎷𦘔𦞬𦧈𦩏𦽔𧔷𧗁𨆃𨚡𨭺𩀿𩖗𩤿𪉢𪏴𪑙𪖼𫄛𫩺𫪽𬬱𬺔搢晉浸蓳"), ("Jin", "𰗦𰷧"),
     ("Jing", "㘫㢣㣏㬌䔔䜘䝼䪫䴖䵞丼井京亰俓倞傹儆兢净凈刭剄坓坕坙境妌婙婛婧宑巠幜弪弳径徑惊憬"),
     ("Jing", "憼敬旌旍景晶暻曔桱梷橸汫汬泾浄涇淨瀞燝猄獍璄璟璥痉痙睛秔稉穽竞竟竧竫競竸粳精経經"),
     ("Jing", "经聙肼胫脛腈茎荆荊莖菁葏蟼誩警踁迳逕鏡镜阱靓靖静靚靜頚頸颈驚鯨鲸鵛鶁鶄麖麠鼱靖精"),
     ("Jing", "瀞靖𠇹𠑱𠗊𠗌𠦋𠭉𠭗𠲮𠳬𠷐𡁔𢀖𢈴𢹘𣋢𣐕𣬙𣻒𤜰𤰳𤷦𥅸𥠛𥯙𥶹𦀇𦂠𦜳𦥍𦳲𦽁𦾿𧑊𧓔𧤵𨙷𨥙𨵼"), ("Jing", "𩃋𩇕𩓞𩓨𩰰𩰹𩳯𩹢𩻱𪂴𪇒𬶱敬瀞𱉠"),
     ("Jiong", "⺆⼌㓏㢠㤯㯋㷗㷡䌹䢛侰僒冂冋冏囧坰埛扃泂浻澃炅炯烱煚煛熲燛窘絅綗蘏蘔褧迥逈颎駉駫"), ("Jiong", "𠕕𠖷𢂶𢄗𣔲𣕄𤌇𦀝𧍮𨴀𩓺𩚱𪔃𪕍𫘡𬳶"),
     ("Jiu", "⾅⾲㝌㠇㡱㩆㲃㸨㺩㺵䅢䆒䆶䊆䊘䛮䡂䬨䰗䳎丩久乆九乣倃僦勼匓匛匶厩咎啾奺就廄廏廐慦"),
     ("Jiu", "捄揂揪揫摎救旧朻杦柩柾桕樛欍殧氿汣灸牞玖疚究糺糾紤纠臼舅舊舏萛赳酒镹阄韭韮鬏鬮鯦"),
     ("Jiu", "鳩鷲鸠鹫麔齨𠃖𠃺𠕴𠖬𠙔𠚨𠛩𠜃𠜉𠠳𠣿𠴄𠿈𡆥𡚮𢀙𢑇𢜥𢽭𣁭𣐤𣟼𣲄𤉥𤴥𤴦𤴪𤷑𥆷𥘦𥠃𥤳𦠢𦭺"), ("Jiu", "𦭻𦱠𦱱𦱲𦽬𧡑𧫾𧾻𨖏𨘂𨘮𨳊𨾉𨾞𩏶𩏷𩒦𩢹𩭓𩱼𩶧𫃗𫄙𥘦䳎𱇼"),
     ("Ju", "⺽㖩㘌㘲㜘㞐㞫㠪㡹㥌㨿㩀㩴㪺㬬㮂㹼㽤䀠䃊䄔䅓䅕䈮䋰䎤䏱䕮䗇䛯䜯䝻䡞䢸䢹䣰䤎䪕䪶䰬"),
     ("Ju", "䱟䱡䳔䴗䵕䶙举乬侷俱倨倶僪具冣凥剧劇勮匊句咀啹埧埾壉姖娵婅婮寠局居屦屨岠崌巈巨巪"),
     ("Ju", "弆怇怐怚惧愳懅懼抅拒拘拠挙挶据掬據擧昛梮椇椈椐榉榘橘檋櫸欅歫毩毱沮泃泦洰涺淗湨澽"),
     ("Ju", "炬烥焗爠犋犑狊狙琚疽痀眗矩砠秬窭窶筥簴粔粷罝耟聚聥腒舉艍苣苴莒菊蒟蘜虡蚷蜛袓裾襷"),
     ("Ju", "詎諊讵豦貗趄趜跔跙距跼踘踞踽蹫躆躹輂遽邭郹醵鉅鋦鋸鐻钜锔锯閰陱雎鞠鞫颶飓駏駒駶驧"),
     ("Ju", "驹鮈鮔鴡鵙鵴鶋鶪鼰鼳齟龃句𠉧𠋬𠙆𠚵𠜹𠟰𠤄𠨭𠮑𠰾𡉎𡒍𡕖𡢒𡥶𡨅𡨢𡫬𡱾𡳘𡶋𡸘𡸨𡿾𢚆𢤫𢩁"),
     ("Ju", "𢯺𣌬𣍇𣎛𣖣𣶝𣻐𤔋𤖵𤜔𤢓𤷢𤼳𥂃𥄷𥇛𥈋𥉁𥘮𥢧𥪏𥬙𥮗𥯔𥲜𥴧𥴪𥷚𦀣𦅽𦇙𦊐𦗻𦙮𦛓𦜛𦞇𦟳𦥑𦱅"),
     ("Ju", "𦺖𦼈𧂜𧄛𧝲𧣒𧣻𧤑𧲋𧵞𧷾𧸧𧹕𧺹𧻗𧽻𧾣𧿻𨁺𨋧𨍯𨛮𨝮𨧙𨨠𨸰𩉸𩋜𩍔𩍸𩛺𩜃𩧒𩧺𩫴𩬜𩭊𩰤𩳵𩴘"), ("Ju", "𩷐𩿝𪀏𪀣𪁥𪂓𪗖𪧘𫎌𬶋𮣷具菊𰘈𰺅𱅃𱇽𱈀𱉐𱉘𱊇𱊌𱖑𲌉"),
     ("Juan", "㢧㢾㪻㯞㷷䄅䅌䌸䖭䚈䡓䣺䳪倦劵勌勬卷呟埍奆姢娟巻帣慻捐捲桊涓淃焆狷獧瓹眷睊睠絭絹"),
     ("Juan", "縳绢罥羂脧臇菤蔨蠲裐鄄錈鎸鐫锩镌隽雋飬餋鵑鹃睊𠔉𠡶𠢚𡘰𡡀𡫂𡱑𢋄𢍏𢎥𢝓𣙢𣚓𣜨𣬋𣬏𤎱"),
     ("Juan", "𤲨𤺻𥁠𥅬𥆞𥱽𦊌𦦽𦬾𦮻𦳽𦼱𧎖𧕲𧭦𧯦𨆈𨌫𨤑𨹵𩎳𩏗𩏹𩔱𩜇𩠉𬣤捐睊𰭔𰶍𰾹"),
     ("Jue", "⼅㔃㔢㟲㤜㩱㭈㭾㰐㲄㵐㷾㸕㹟㻕䀗䁷䇶䏐䏣䐘䖼䘿䙠䝌䞵䞷䠇䡈䣤䦆䦼亅倔傕决刔劂勪匷"),
     ("Jue", "厥噘嚼孒孓屩屫崛嶥弡彏憠憰戄抉挗捔掘撅撧攫斍桷橛橜欔欮殌氒決泬灍焳熦爑爝爴爵獗玃"),
     ("Jue", "玦玨珏瑴疦瘚矍矡砄絕絶绝臄芵蕝蕨虳蚗蟨蟩覐覚覺觉觖觼訣譎诀谲貜赽趉趹蹶蹷蹻躩逫鈌"),
     ("Jue", "鐍鐝钁镢駃鴂鴃鶌鷢龣爵𠀔𠄌𠄑𠊬𠎮𠜾𠢤𠨊𠫃𠶸𡈅𡚠𡲗𡳾𡾜𢁪𢎹𢏷𢔱𢖦𢨏𢩯𢱺𢴭𣅡𣖬𣨢𣬎𤛦"),
     ("Jue", "𤞴𤟎𤹋𤼗𥆌𥈾𥏘𥕲𥛯𥤘𥾮𦁐𦏅𦓐𦛲𦠒𦪘𧍕𧗫𧝃𧣸𧤼𧥎𧮫𧱝𧺐𧽸𧾵𧿺𨊿𨏹𨬐𨰜𨼎𨼱𩊺𩍷𩏺𩓻𩧏"), ("Jue", "𩧡𩪗𩰨𪁠𪈴𪖜𪚅𪨗𪮖𫈵𫏋𫔎𫘝𫛞𫞝𫦌𫦳𬺖㤜爵𱉔𱊧𱱱"),
     ("Jun", "㑺㒞㕙㖥㚬㝦㴫㻒㽙䇹䐃䕑䜭䝍俊儁军君呁均埈姰寯峻懏捃攈攟晙桾棞汮浚濬焌燇珺畯皲皸"),
     ("Jun", "皹碅竣箘箟莙菌葰蚐蜠袀覠軍郡鈞銁銞鍕钧陖餕馂駿骏鮶鲪鵔鵕鵘麇麏麕𠀹𠣕𠨢𢉦𢹲𢻸𤮪𥇘"), ("Jun", "𥚂𥜮𥡣𦇘𦌺𦴌𦵼𧥺𧯖𧽔𨌘𨛐𨲄𨶊𪍁𪕞𫓲𬣝𮱠𮸈㒞菌𰴙𱉾𱉿"),
     ("Ka", "䘔佧卡咔咖喀垰擖胩衉裃鉲𰽩"), ("Kai", "㚊㪡䁗䒓䡷䤤凯凱剀剴勓嘅垲塏奒嵦开忾恺愒愷愾慨揩暟楷欬炌炏烗蒈輆鍇鎎鎧鐦铠锎锴開"),
     ("Kai", "闓闿颽慨𠢲𡙓𡳂𢋝𢔡𢢚𢾆𤉫𤐩𤡲𤻜𥃣𥎆𥏪𥻄𦂄𦈲𨴆𩫀𫔭𫟺𬀱𬨇𬱼𮸛開"), ("Kan", "㘛㙳䀍䖔䘓䳚侃偘冚刊勘坎埳堪塪墈崁嵁惂戡栞槛檻欿歁看瞰矙砍磡竷莰衎輡轗闞阚顑龕龛"),
     ("Kan", "𠝲𡶪𡸞𡺗𢙮𢦟𣊟𣣒𣽌𥍓𥑫𥤱𥦔𦞖𧇦𧡵𧯰𧱄𨍜𨒞𩐬𩑟𩒃𩓟𩜱𪉯𫐘𰥊𰺐𱂱"),
     ("Kang", "㝩㢜㱂㼹䆲䗧䡉亢伉匟囥嫝嵻康忼慷扛抗摃槺漮炕犺砊穅粇糠躿邟鈧鏮钪閌闶鱇𠻞𠾨𡐓𡵻𡻚"), ("Kang", "𢴦𣔛𤮊𥉽𥒳𥕎𥹺𨀫𨂟𨄗𨎍𨝎𨻷𩾌𪎵𫽙𱠏"),
     ("Kao", "㸆䎋䐧䯌䯪丂尻拷攷栲洘烤犒考銬铐靠髛鮳鯌鲓𡭳𣐊𣧏𣨻𣩅𥬯𥹬𧋓𨘴𩝝𩩾𬶔"),
     ("Ke", "㕉㕎㝓㞹㤩㪙㪼㵣㸯䆟䈖䌀䐦䙐䶗克刻勀勊匼可嗑坷堁壳娔客尅岢嵑嵙嶱恪愙揢搕敤柯棵榼"),
     ("Ke", "樖殼氪渇渴溘炣牁犐珂疴瞌砢碦磕礊礚科稞窠緙缂翗胢艐苛萪薖蝌課课趷軻轲醘鈳钶锞顆颏"),
     ("Ke", "颗騍骒髁𠏀𠛳𠡜𠡤𠢹𠩧𠪒𠪟𠲙𠳭𠶲𠷄𡞢𡱼𡸡𡻘𢈈𢩏𢩐𢩘𢼐𢾩𣧤𣩄𣲊𣹇𤖇𤛗𤰙𤸎𥃕𥊉𥔽𥕤𥝹𥠁"), ("Ke", "𥦨𥧇𥯚𧈗𧎗𧛾𧜡𧠋𧨵𧵛𧿫𨍰𨏿𨢸𩏭𩜭𩭽𩰻𩱘𪃭𪍎𪓮𪽇𫐔𭗡𮡈𮯙刻𰰾𱿣"),
     ("Kei", "剋"), ("Ken", "㸧啃垦墾恳懇掯肎肯肻裉褃豤錹齦𠳁𣍟𣥤𤀊𥖞𨼯𩎤𣍟"),
     ("Keng", "㧶㰢䃘䡩䡰劥吭坑妔挳摼牼硁硜硻誙銵鍞鏗铿阬𠠷𡞚𡷨𣢴𣫒𥉸𥑅𥒁𥒱𥥳𧀘𨋔𨌳𨌶𨍑𫟥𫵸𫶲𬒎"), ("Keng", "𰓱𰠲𰥣𰵡𰺘"),
     ("Kong", "㚚㤟㲁㸜䅝倥埪孔崆恐悾控涳硿空箜躻錓鞚鵼𠀝𢃐𢪬𢷙𢽦𣏺𤗇𤤲𥔇𥥅𦁈𦱇𦶐𧌆𧚬𩲧𪔣𱊊"),
     ("Kou", "⼝㓂㰯䁱䍍䳹冦剾劶口叩宼寇彄扣抠摳敂滱眍瞉瞘窛筘簆芤蔲蔻釦鷇𠛅𡠆𢂁𢄠𢚫𢟭𢼃𣻎𣿟𤘘"), ("Kou", "𥊧𥲃𦬅𦴎𦶲𧥣𨙫𨥴𩀠𪄺𪇄𫃜𫸩𬆮𬑒𬣚𬬪𬸬"),
     ("Ku", "㗄㠸㩿㪂㱠㵠䂗䇢䉐䔯䧊䯇䵈俈刳哭喾嚳圐堀崫库庫廤扝枯桍焅狜瘔矻秙窟絝绔苦袴裤褲趶"),
     ("Ku", "跍郀酷骷鮬𠠶𠺟𡀙𡑚𡑣𡗵𡞯𡶏𡼿𢏆𢼁𣗺𥈷𥌄𥞴𥟾𥧋𥯶𦛏𦜇𦡆𧊘𧠂𧷎𧿉𧿋𨐡𨡱𩇵𩑔𩑡𩨳𩱙𪌓𪍠"), ("Ku", "𪠀𫖪𫜕𬕛扝苦𱂡𱇦𱗞"),
     ("Kua", "㐄㛻㡁䓙䠸䦚䯞侉咵垮夸姱挎胯舿誇跨銙骻𠇗𡇚𡕒𡗢𢄳𢓢𥏤𥑹𨃖𨕺𨵧𩊓𰽴𱎶"),
     ("Kuai", "㔞㙕㟴㧟㱮䈛䓒䭝䯤侩儈凷哙噲圦块塊墤巜廥快擓旝狯獪筷糩脍膾蒯郐鄶鱠鲙𠜐𠣲𡚅𡼾𢾒𣫉"), ("Kuai", "𥢶𦔦𦳋𨛖𩦱𩩈𫐆𫞷𰎛𰏶𰕭𲄗"),
     ("Kuan", "㯘䕀䥗䲌宽寛寬欵款歀窽窾臗鑧髋髖𢕫𢴪𣎑𣢻𣽟𥟓𥦀𫔋"), ("Kuang", "㑌㾠䊯䒰䖱䯑䵃儣况劻匡匩卝哐圹壙夼岲忹恇懬懭抂旷昿曠框況洭爌狂狅眖眶矌矿砿硄礦穬"),
     ("Kuang", "筐筺絋絖纊纩誆誑诓诳貺贶軖軠軦軭邝邼鄺鉱鋛鑛鵟黋况𡶢𡾇𢼑𢼳𣍦𣒸𣴥𤝿𥈏𦚞𦥰𧥌𧻔𧿈𨀕"), ("Kuang", "𨇁𨏆𨖢𨥑𨨭𨴑𩢼𩬹𩷗𪍿𪏪𫛭𬘢𬮣𬳻况忹𰐾𰨜𰹶𰽚𱋈𱋫𱖟𲉨"),
     ("Kui", "㒑㕟㙓㙺㚍㨒䕚䕫䖯䙆䙌䙡䟸䠑䤆䧶䫥䯓䯣䰎䳫亏傀刲匮喟喹嘳夔奎媿嬇尯岿巋巙悝愦愧憒"),
     ("Kui", "戣揆晆暌楏楑樻櫆欳溃潰煃犪盔睽瞆窥窺篑簣籄聧聩聭聵腃葵蒉蕢藈蘬蘷虁虧蝰謉跬蹞躨逵"),
     ("Kui", "鄈鍨鍷鐀鑎闚頄頍頯顝餽饋馈馗騤骙魁𠊾𠣠𠿥𡌤𡐠𡓰𡤞𢌳𢜽𢼀𣄲𣥮𣧼𤆂𤏜𤵮𥁇𥏙𥜶𥪊𦝢𧂠𧄑"),
     ("Kui", "𧍜𧑋𧝷𧡦𧢦𧷛𨡺𨣈𨾎𨾗𩏣𩓗𩕜𩠮𩲅𩲷𩵉𩹍𪆴𪖢𪡞𫍷𫛼𫝬𫠆𬮭𬸮𭫀䕫虧𰊛𰰮𰷨𰾥𱂬𱂵𱆃𱆚"),
     ("Kun", "㡓㩲㫻㱎䐊䖵䠅䪲困坤堃堒壸壼婫尡崐崑悃捆昆晜梱涃潉焜熴猑琨瑻睏硱祵稇稛綑菎蜫裈裍"),
     ("Kun", "裩褌貇醌錕锟閫閸阃騉髠髡髨鯤鲲鵾鶤鹍𠚯𡖉𢈛𣏔𣰘𣱂𥊽𥚛𦄐𦌸𧋕𧥊𨁉𨱙𩓽𩤋𩨫𩻋𩽞𪋆𪻲𫘥"), ("Kun", "𫷅㱎䪲𱉱"),
     ("Kuo", "㗥㾧䟯䦢䯺廓懖扩拡括挄擴桰濶筈萿葀蛞闊阔霩鞟鞹韕頢髺鬠廓𠚳𠠎𡎒𡻙𢠛𤫵𥕏𦧍𦧔𨓈𨨱𨶐"), ("Kuo", "𩋻𪗽𫘽𬺄𱨸"),
     ("La", "㕇㡴㻋㻝䂰䃳䏀䓥䗶䱨䱫䶛剌啦喇嚹垃拉揦揧搚攋旯柆楋溂爉瓎瘌砬磖翋腊臈臘菈藞蜡蝋蝲"),
     ("La", "蠟辢辣邋鑞镴鞡鬎鯻喇拉臘蠟𠾩𡅘𡉆𢃴𢉨𣤊𤀦𤊶𤛊𤰚𤷟𥀥𥀰𥈙𥖍𥗿𥘁𦅶𦆻𦇛𦎏𦒆𦒦𧗩𧙀𧞪𧩲"), ("La", "𨭛𩃜𩋷𩑮𩘊𩤲𩨉𩯽𪇹𪮶𬶟𭊸𰬼𰾿𱗌𱴂"),
     ("Lai", "㚓㥎㸊䂾䄤䅘䋱䓶䚅䠭䧒䲚來俫倈唻婡崃崍庲徕徠来梾棶櫴涞淶濑瀨瀬猍琜癞癩睐睞筙箂籁"),
     ("Lai", "籟莱萊藾襰賚賴赉赖逨郲錸铼頼顂騋鯠鵣鶆麳癩來𠎙𠘝𡂖𡃄𡓒𢅭𢑬𣖤𤢗𤦃𤲓𥟂𦆋𦓹𧝝𧯲𧳕𧳟"), ("Lai", "𧵭𨂐𨇆𨦂𩳆𪈈𪎌𪑚𪡺𫏌𫝫𫪁𫷬𬋍𬩾𬹗𭻔𮵱𰘳𰡎𰱾𱅕𱇭𱈖𱉵"),
     ("Lan", "㑣㘓㛦㜮㞩㦨㧛㨫㩜㰖㱫㳕䃹䆾䌫䍀䑌䦨䪍䰐儖兰厱嚂囒囕壈婪嬾孄孏岚嵐幱惏懒懢懶拦揽"),
     ("Lan", "擥攔攬斓斕栏榄欄欖欗浨滥漤澜濫瀾灆灠灡烂燗燣燷爁爛爤爦璼瓓礷篮籃籣糷繿纜缆罱葻蓝"),
     ("Lan", "藍蘭褴襕襤襴襽覧覽览譋讕谰躝醂鑭钄镧闌阑韊顲懶欄爛蘭嵐濫藍襤𠓖𠓭𠼖𡒄𡓔𡮻𡽳𢅡𢉧𢊓"),
     ("Lan", "𢒞𢛓𢹙𣋣𤂺𤃨𤑸𤣟𥌻𥗺𥗽𥜓𥦝𦧼𧮤𧸦𧼖𨅏𨅬𨊔𨎹𨣨𨣸𨬒𨷻𩈵𩉀𩔵𩟺𪇖𪢌𪢠𫔱𫝮𫞨𫣉𫱕𫶊𫷌𬉠"), ("Lan", "𬊶𬎑𬒇𬒗𬜥𬞕𬞫𬥾𬸡𮆏𮰽𮳎嬾嬾懶𰆚𰈆𰈓𰌙𰏟𰜐𰫖𰼏𰾳𱁽𱁾𱆅𲪙"),
     ("Lang", "㓪㙟㝗㟍㢃㫰㮾㱢㾿䆡䍚䕞䡙䯖䱶勆唥啷埌塱嫏崀廊斏朖朗朤桹榔樃欴浪烺狼琅瑯硠稂筤艆"),
     ("Lang", "莨蒗蓈蓢蜋螂誏躴郎郒郞鋃鎯锒閬阆駺鿶鿾廊朗浪狼郎郞朗𠺘𠻴𢳑𢽂𣊧𣻡𥇑𥍫𥧫𦵧𦺫𧚅𧻴𨞿"), ("Lang", "𨱍𨶗𩛡𩲒𩳤𩷕𪁜𫗨𬣼𬸏廊朗"),
     ("Lao", "⺹⽼㗦㞠㟉㟹㧯㨓㺐䃕䇭䕩䜎䝁䝤䲏䳓䵏佬僗劳労勞咾哰唠嗠嘮姥嫪崂嶗恅憥憦捞撈朥栳橯"),
     ("Lao", "浶涝澇烙牢狫珯痨癆硓磱窂簩粩老耂耢耮荖蛯蟧躼軂轑酪醪銠鐒铑铹顟髝鮱鿲烙酪勞老牢𠈭"),
     ("Lao", "𡂕𡑍𡬘𢚄𢭂𣓿𣘪𣟽𣠼𤉍𤎤𤙯𤛮𤩂𤶁𥢒𦒴𦛨𦺜𧢋𧯍𧰎𨡤𨣃𨦭𨲮𪀧𪁔𫞧𫢬𫭼𫺘𬝃𬣿𬧤𬶗𮀤𡬘劳𰦷"), ("Lao", "𰺛𰼋𱉦𱏱𱸇𲄚"),
     ("Le", "㔹㖀㦡乐了仂叻忇扐楽樂氻泐玏砳竻簕艻阞韷餎饹鰳鳓樂樂了樂𡃖𣂒𤟓𤨙𥖪𩐾𮲃𱛔"),
     ("Lei", "⽾㑍㒍㒦㔣㙼㲕㴃㵢㵽㶟㹎㼍㿔䉂䉪䍣䐯䒹䛶䢮䣂䣦䨓䮑䴎傫儡儽勒厽嘞垒塁壘壨嫘擂攂樏"),
     ("Lei", "檑櫐櫑欙泪洡涙淚灅瓃畾癗矋磊磥礌礧礨禷类累絫縲纇纍纝缧罍羸耒肋腂蔂蕌蕾藟蘱蘲蘽虆"),
     ("Lei", "蠝誄讄诔轠酹銇錑鐳鑘鑸镭雷靁頛頪類颣鱩鸓鼺磊雷壘淚累勒肋類类𠱤𡈶𡔇𡚗𡰠𡻭𡻱𡼊𡾋𡾖"),
     ("Lei", "𡿉𡿛𢴱𢹮𣀀𣀜𣚎𣠠𣡧𣡺𣨅𤃻𤜖𤡂𤢹𤮎𤮚𤮸𤳳𤳴𤼘𥅦𥍔𥑶𥗬𥗶𥣬𥤐𦇄𦓥𦢏𦣄𧒜𧒽𧞭𨀤𨄱𨊚𨞽𨶺"), ("Lei", "𨻌𩔗𩛝𩴻𩵓𪑯𫐙𬭜𬱜𰲒𰿄𰿉𱂧𱊳𱕰𱰥"),
     ("Leng", "㘄䉄䬋䮚倰冷堎塄崚愣棱楞睖碐稜薐踜輘冷稜𥈮𦼊𧼔𨈓𩩡"), ("Li", "⼒⽴⾥⾪㑦㒧㒿㓯㔏㕸㗚㘑㛤㟳㠟㠣㡂㤡㤦㦒㧰㬏㮚㯤㰀㰚㱹㴝㸚㹈㺡㻎㻺㼖㽁㽝㾐㾖㿛㿨"),
     ("Li", "䃯䄜䅄䅻䇐䉫䊍䊪䋥䍠䍥䍦䍽䓞䔁䔆䔉䔣䔧䕻䖥䖽䖿䗍䘈䙰䚕䟏䟐䡃䣓䣫䤙䤚䥶䧉䬅䬆䮋䮥"),
     ("Li", "䰛䰜䱘䲞䴡䴻䵓䵩䶘丽例俐俚俪傈儮儷兣凓刕利剓剺劙力励勵历厉厘厤厯厲吏呖哩唎唳喱嚟"),
     ("Li", "嚦囄囇坜塛壢娌娳婯嫠孋孷屴岦峢峲巁廲悡悧悷慄戾搮攊攦攭斄暦曆曞朸李杝枥栃栎栗栛梨"),
     ("Li", "梩梸棃棙樆檪櫔櫟櫪欐欚歴歷沥沴浬涖溧漓澧濿瀝灕爄爏犁犂犡狸猁珕理琍瑮璃瓅瓈瓑瓥疠"),
     ("Li", "疬痢癘癧皪盠盭睝砅砺砾磿礪礫礰礼禮禲离秝穲立竰笠筣篥篱籬粒粝粴糎糲綟縭纚缡罹脷艃"),
     ("Li", "苈苙茘荔荲莅莉菞蒚蒞蓠蔾藜藶蘺蚸蛎蛠蜊蜧蝷蟍蟸蠇蠡蠣蠫裏裡褵觻詈謧讈豊貍赲跞躒轢"),
     ("Li", "轣轹逦邌邐郦酈醨醴里鉝鋫鋰錅鎘鏫鑗锂隶隷隸離雳靂靋驪骊鬁鯉鯏鯬鱧鱱鱳鱺鲡鲤鳢鳨鴗"),
     ("Li", "鵹鷅鸝鹂麗麜黎黧勵礪驪麗黎力曆歷轢例禮醴隸慄栗利吏李梨理痢罹裏裡里離立笠粒礼隷𠌯"),
     ("Li", "𠘞𠘟𠚄𠛘𠛦𠝄𠞉𠞙𠞤𠠏𠠝𠠵𠢠𠩵𠪄𠪺𠫌𠭰𠻗𠼝𠾆𡃷𡆯𡤌𡥽𡫯𡮰𡯄𡳸𡸉𡾒𡿋𡿎𢄡𢌈𢍼𢏃𢛮𢟢𢟤"),
     ("Li", "𢡑𢤂𢤆𢤩𢨨𢩑𢮃𢸀𢻠𣀂𣀥𣀷𣁟𣌅𣌜𣐬𣘬𣞴𣟌𣦯𣧿𣫥𣫧𣮉𣯤𣲒𣿞𤁼𤃀𤄽𤇃𤔨𤖢𤗫𤘃𤚓𤜜𤟑𤠫𤡿"),
     ("Li", "𤩮𤭜𤳓𤹇𤹈𤻤𤼚𥁟𥉆𥊈𥌛𥌤𥌮𥌿𥎓𥎔𥓃𥝢𥠲𥣥𥨻𥬭𥲧𥲪𥴡𥶗𥷅𥷗𥻿𥼅𥽗𦃇𦃊𦅺𦇔𦍠𦎐𦔓𦕸𦘊"),
     ("Li", "𦜏𦠓𦢱𦪶𦪾𦫈𦺙𧄚𧄻𧅮𧅯𧉲𧋎𧋠𧑇𧒈𧓽𧔝𧕮𧕯𧘫𧙉𧚩𧢝𧥖𧧋𧫬𧮛𧯏𧰡𧲡𧴠𧽲𨃙𨄛𨇎𨇗𨊛𨍫𨏬"),
     ("Li", "𨓦𨘸𨛋𨛫𨜼𨝏𨝖𨝟𨞺𨟑𨢌𨤫𨪹𨬑𨯽𨴻𨷦𨽻𩁟𩄞𩅩𩆝𩆲𩗅𩗭𩘟𩘡𩙖𩞨𩣫𩥬𩥴𩧃𩧋𩧸𩪸𩭇𩯺𩰲𩱇"),
     ("Li", "𩳓𩴣𩶘𩷋𩻌𩽏𩽵𪁐𪅆𪅼𪌱𪏼𪐅𪒔𪓀𪕴𪖂𪖍𪗁𪙺𪙽𪫡𪲔𪵱𫁡𫄥𫄫𫎱𫚞𫛽𫟫𫟷𫥳𫥵𫪃𫵷𫾲𬍛𬦣𬸎"), ("Li", "𭀖𭤎𮯸𮷨丽𰓬𰖩𰤕𰦦𰴗𰴢𰷴𰽝𱃚𱊃"), ("Lia", "俩倆"),
     ("Lian", "㜃㜕㜻㝺㟀㡘㢘㥕㦁㪘㪝㯬㰈㰸㱨㶌㶑㺦㼑㼓䁠䃛䆂䌞䏈䙺䥥䨬䭑亷僆劆匲匳嗹噒堜奁奩媡"),
     ("Lian", "嫾嬚帘廉怜恋慩憐戀摙敛斂梿楝槤櫣殓殮浰涟湅溓漣潋澰濂濓瀲炼煉熑燫琏瑓璉磏簾籢籨練"),
     ("Lian", "縺纞练羷翴联聨聫聮聯脸臁臉莲萰蓮蔹薕蘝蘞螊蠊裢裣褳襝覝謰蹥连連鄻錬鍊鎌鏈鐮链镰鬑"),
     ("Lian", "鰊鰱鲢憐戀漣煉璉練聯蓮連鍊廉殮簾怜練練𠋖𠒵𠔨𠗳𡆕𡟤𢅏𢅖𣀃𣝈𣞰𣟺𣾍𣿊𤑿𤒦𤗛𤣆𤬓𤹨𤼏"),
     ("Lian", "𤾲𥖝𥲥𥽸𦆆𦈐𦔖𦖾𦣸𧍴𧐖𧡙𧡴𧸘𧽫𨎷𨏩𨏶𨬁𨽷𩄡𩞙𩟅𪍦𪍴𪐋𪐍𪖳𪚁𪛒𫅼𫌫𫎨𫔀𫗱𫢪𫽁𬋃𬘪𬣽"), ("Lian", "𬶠𮱇𮸀𰛲𰬾𰸔𰾮𱋬𱘉𱧚𱬏"),
     ("Liang", "㒳㔝㹁㾗䀶䁁䓣䝶䠃䣼䩫䭪両两亮俍兩凉哴唡啢喨墚悢掚晾梁椋樑涼湸煷粮粱糧綡緉脼良蜽"),
     ("Liang", "裲諒谅踉輌輛輬辆辌量鍄魉魎鿄鿌亮兩凉梁糧良諒量𠓜𠯱𡑆𡮎𣄴𣓈𤙝𥈘𥛫𨄈𨎛𨱉𨵶𩗾𩘁𩞯𪭵"), ("Liang", "𫟅𫦩𬜯𬰥𬴀𮉧𮔊𮖁𱜬"),
     ("Liao", "㙩㝋㡻㵳㶫䄦䉼䎆䑠䒿䜍䜮䢧䨅䩍僚叾嘹嫽寥寮尞尥尦屪嵺嶚嶛廖廫憀憭撂撩敹料暸曢橑漻"),
     ("Liao", "潦炓燎爎爒獠璙疗療瞭窷竂簝繚缭聊膋膫蓼藔蟟豂賿蹘蹽辽遼鄝釕鐐钌镣镽飉髎鷯鹩僚寮料"),
     ("Liao", "燎療蓼遼𠐋𠖂𠨥𡻪𢄷𢊻𢨺𢸘𢻢𢼙𢿞𣁰𣎸𣟆𣩢𤊽𤑗𤵠𥗀𥛰𥲊𦌒𦕵𦗖𦪕𦺹𧂏𧘈𧝜𧡜𧽽𨖚𨣀𩕐𩖝𩯊"), ("Liao", "𩴤𪌀𪌵𪖷𪤗𬤟𬲅"),
     ("Lie", "㤠㧜㬯㭞㭩㯿㲱㸹㼲㽟䁽䅀䉭䋑䜲䝓䟩䟹䪉䴕儠冽列劣劽咧哷埒埓姴峛巤挒挘捩擸栵毟洌浖"),
     ("Lie", "烈烮煭犣猎猟獵睙聗脟茢蛚裂趔躐迾颲鬛鬣鮤鱲鴷列劣烈裂獵𠛱𠠗𡁓𡂏𡂩𡊻𡏵𡒏𡓍𡭣𡿩𢣓𣁷"),
     ("Lie", "𣁻𣋲𣖊𣝚𣰌𤁯𤐱𤓿𤖺𤜓𤞊𤡕𤢪𤱃𤱛𥩺𥪂𥲁𥶢𥷨𥸸𦓤𦖩𦾳𧀨𧓐𧞕𧭌𧭞𧰠𨆍𨕜𨤤𩆣𩙑𩢾𩧆𩧮𩨐𩭌"), ("Lie", "𩼭𫚓𫚭𰬃𱃘"),
     ("Lin", "㐭㔂㖁㝝㨆㷠䉮䕲䗲䚏䚬䢯䫐䫰䮼临亃僯冧凛凜厸吝啉壣崊嶙廩廪恡悋懍懔拎撛斴晽暽林橉"),
     ("Lin", "檁檩淋潾澟瀶焛燐獜琳璘甐疄痳癛癝瞵碄磷箖粦粼繗翷膦臨菻蔺藺賃赁蹸躏躙躪轔轥辚遴邻"),
     ("Lin", "鄰鏻閵隣霖驎鱗鳞麐麟凜吝燐璘藺隣鱗麟林淋臨𠐼𠓮𡃦𡬜𡰚𡳞𡶱𡹇𡻫𡿠𣇰𤂶𤌎𤎭𤗷𥓆𥳞𥶒𥷖"), ("Lin", "𥻋𥼭𦺸𧃮𧖔𧲂𧵧𧶆𧹩𨏨𨸻𩞻𩣖𩱬𩴠𩻜𪤚𫔴𬃲𬙈𬭸𬮟𬴊𰺣"),
     ("Ling", "㖫㡵㥄㦭㪮㬡㯪㱥㲆㸳㻏㾉䄥䈊䉁䉖䉹䌢䍅䔖䕘䖅䙥䚖䠲䡼䡿䧙䨩䯍䰱䴇䴒䴫令伶凌刢另呤"),
     ("Ling", "囹坽夌姈婈孁岭岺嶺彾掕昤朎柃棂櫺欞泠淩澪瀮灵炩燯爧狑玲琌瓴皊砱祾秢竛笭紷綾绫羚翎"),
     ("Ling", "聆舲苓菱蓤蔆蕶蘦蛉衑袊裬詅跉軨酃醽鈴錂铃閝阾陵零霊霗霛霝靈領领駖魿鯪鲮鴒鸰鹷麢齡"),
     ("Ling", "齢龄龗凌綾菱陵令囹嶺玲羚聆鈴零靈領𠄖𠟨𠠢𠡭𠱠𠻠𠻱𠾥𡈍𡕮𡿡𢌔𢔁𢩗𢹝𢺰𣌟𣣋𣬹𤃩𤖦𤜙𤣘"),
     ("Ling", "𤧘𤨻𤫩𤫲𤷖𤿅𥌼𥤜𥤞𥥋𥩔𥵝𥺙𥾂𦉢𦊓𦫃𦫊𧆺𧕅𧖜𧟙𧨈𧰻𧱢𧲙𧾇𧾮𨞎𨠎𨱋𨽲𩂙𩃞𩄊𩆒𩆚𩆮𩆻𩆼"),
     ("Ling", "𩇄𩇎𩊂𩑊𩖊𩖵𩚹𩜁𩟃𩪥𩬔𩲩𩵀𪅋𪋳𪋾𪌏𪕌𪛈𫐉𫞠𫟑𫠂𬕬𭝋𮇤𰵚𰺊𱊪𱗟𱰮"),
     ("Liu", "㐬㙀㧕㶯㽌㽞䄂䉧䗜䚧䝀䬟䰘䱖䱞䶉六刘劉嚠塯媹嬼嵧廇懰旈旒柳栁桞桺榴橊橮沠流浏溜澑"),
     ("Liu", "瀏熘熮珋琉瑠瑬璢畂畄留畱疁瘤癅硫磂磟綹绺罶羀翏蒥蓅藰蟉裗蹓遛鋶鎏鎦鏐鐂锍镏镠雡霤"),
     ("Liu", "飀飂飅飗餾馏駠駵騮驑骝鬸鰡鶹鷚鹠鹨麍劉柳流溜琉留硫六流𠗽𠛓𠪐𠺕𢏭𢔲𢞭𢣠𢤐𢷶𣞗𣟑𣠚"),
     ("Liu", "𣱳𤥗𤮷𥀓𥆦𥌐𥛅𥠷𥥹𥧕𥨌𥰣𥶅𥹷𦀠𦃓𦉉𦊑𦊗𦊿𦌁𦑾𧏓𧮗𨋖𨍸𨢇𨦰𨪕𨪿𨻧𩆎𩖴𩗩𩙄𩢞𪃂𪆱𪇯𪎣"), ("Liu", "𫓮𭇯𮨵𮷻流𥛅裗𰑙𰰹𱃙𱈊"), ("Lo", "囖"),
     ("Long", "⻯⻰⿓㑝㙙㚅㛞㝫㟖㡣㢅㦕㰍㳥㴳䃧䆍䏊䙪䡁䥢䪊䮾儱咙哢嚨垄垅壟壠屸嶐巃巄徿拢攏昽曨"),
     ("Long", "朧栊梇槞櫳泷湰滝漋瀧爖珑瓏癃眬矓砻礱礲窿竉竜笼篢篭籠聋聾胧茏蕯蘢蠪蠬襱豅贚躘鏧鑨"),
     ("Long", "陇隆隴霳靇驡鸗龍龒龓龙壟籠聾龍隆𠮽𠱚𠾐𡃡𡬍𡬕𡱯𢘙𢙱𢤱𢤲𢸭𣫣𤇭𤵸𤼃𤾭𥦌𥪢𥪻𥬆𥳌𥸉𦨩"),
     ("Long", "𦪽𧍰𧙥𧚂𨀁𨇘𨏠𨐇𨛓𨺚𩂽𩄺𩙘𩙠𩟭𩧪𪐖𪔳𪔷𪚑𪚓𪚘𪚝𪚠𪫌𫎦𫖅𫛟𫜲𫢒𬕂𬧢𬺜㴳𰎎𰦭𰩅𰭹𰲴𰳲"), ("Long", "𰶑𰽦𱅅𱛓"),
     ("Lou", "㔷㟺㡞㥪㪹㲎㺏䁖䄛䅹䝏䣚䫫䮫䱾偻僂剅喽嘍塿娄婁屚嵝嶁廔慺搂摟楼樓溇漊漏熡甊瘘瘺瘻"),
     ("Lou", "瞜篓簍耧耬艛蒌蔞蝼螻謱軁遱鏤镂陋鞻髅髏樓漏陋𠖛𠗩𠞭𠳴𡇭𡗆𡪅𡰌𢈢𣤋𣫻𤋏𤠋𤬏𥕍𦎹𦸢𧁾"),
     ("Lou", "𧢃𧫞𧯨𧰃𧷡𨄋𨝢𨦖𨫒𨱐𨻻𩏝𩨇𪍣𪣻𪩇𫍴𫐷𫠥𫦉𫷹𬖠慺𰋖𰏜𰙕𰢦𰭚𰰑𰴚𰶬𱁺𱈆𱋡"),
     ("Lu", "⻧⿄⿅㓐㔧㔪㖨㛎㛬㜙㟤㠠㠥㢚㢳㦇㪐㪖㪭㫽㭔㭚㯝㯟㯭㱺㲶㻲㼾㾔㿖䃙䌒䍡䎑䎼䐂䔞䕡䘵"),
     ("Lu", "䚄䟿䡎䡜䥨䩮䮉䰕䱚䲐䴪侓侣侶僇儢剹勎勠勴卢卤吕呂噜嚕嚧圥坴垆垏塶塷壚娽寽屡屢履峍"),
     ("Lu", "嵂庐廘廬彔录律慮戮挔捋捛掳摝撸擄擼攎旅曥枦栌梠椂榈樐樚橹櫓櫖櫚櫨氀氇氌氯泸淕淥渌"),
     ("Lu", "滤滷漉潞澛濾瀂瀘炉焒熝爈爐獹率玈琭璐璷瓐甪盝盧睩矑硉硵碌磠祣祿禄稆稑穋穞穭箓箻簏"),
     ("Lu", "簬簵簶籙籚粶絽綠緑縷繂纑绿缕罏胪膂膐膔膟膢臚舮舻艣艪艫芦菉葎蓾蔍蕗藘蘆虂虏虑虜螰"),
     ("Lu", "蠦褛褸觮謢賂赂趢路踛蹗輅轆轤轳辂辘逯郘醁鈩鋁錄録錴鏀鏕鏴鐪鑢鑥鑪铝镥閭闾陆陸露顱"),
     ("Lu", "颅馿騄騼驢驴髗魯魲鯥鱸鲁鲈鵦鵱鷜鷺鸕鸬鹭鹵鹿麓黸擄櫓爐盧蘆虜路露魯鷺碌祿綠菉錄鹿"),
     ("Lu", "賂屢縷率呂廬旅濾閭戮陸律率履𠀽𠜈𠣊𠰷𠷈𠿛𡀔𡀿𡉴𡡎𡳴𡴆𡷏𡾅𢅞𢈚𢊩𢋡𢙲𢟧𢟳𢣻𢫘𢫫𢯅𢯰"),
     ("Lu", "𢲸𢵮𢾬𣀞𣆐𣞓𣥐𣩏𣭇𣱀𣼟𤁵𤗬𤝮𤝽𤟘𤢊𤣃𤨍𤬛𤮧𤺼𤻱𤽺𤾺𤿴𥀔𥀵𥈛𥉶𥒨𥖼𥚊𥛞𥛪𥡢𥣤𥫰𥭐𥰠"),
     ("Lu", "𥲎𥶆𥶇𥶌𦆾𦊼𦋔𦌕𦌟𦗓𦛗𦝼𦪇𦭯𦳭𦸐𦼋𦽂𦽎𦾞𦾷𦿊𦿖𧀦𧃒𧆣𧇄𧈔𧌉𧌍𧍶𧐳𧓻𧜊𧨹𧫓𧭜𧽥𨁸𨇖"),
     ("Lu", "𨌠𨏔𨽐𩄅𩄽𩅄𩌫𩍼𩓪𩛼𩣱𩥆𩯜𩲦𩳡𩴐𪈜𪉖𪉣𪍄𪑄𪒏𪖌𪽮𪾦𫄴𫊮𫓺𫘧𫠋𫫵𫼵𬘤𬙎𬬻𬸞𮉡𮣶𮬠碌"), ("Lu", "䕡𧃒虜䘵䩮𰂦𰅔𰎐𰚦𰛮𰡄𰡵𰩲𰪏𰱩𰱮𰺌𰾲𱇶𱊀𱊺𱊻𱋶𱏤𱸧"),
     ("Luan", "㝈㡩㱍䖂䜌乱亂卵圝圞奱娈孌孪孿峦巒挛攣曫栾欒滦灓灤癴癵羉脔臠虊釠銮鑾鵉鸞鸾龻亂卵"), ("Luan", "鸞𠦨𡄹𡡗𡭸𢌕𢺈𢿢𣨀𤔔𤲶𤼙𦣋𦣏𧖘𨄄𨇼𨈌𨈎𨊟𩪾𪢮𰁜𰛪𰣽𱤦"),
     ("Lue", "㑼㔀㗉㨼䂮䌎䛚䤣圙掠擽略畧稤鋝鋢锊掠略𠢌𠼟𦊹𧎾𧐋𧐯𧑀𧕌𪅅"), ("Lun", "㖮㷍䈁䑳仑伦侖倫囵圇埨婨崘崙惀抡掄棆沦淪溣碖磮稐綸纶耣腀菕蜦論论踚輪轮錀陯鯩論倫"),
     ("Lun", "崙淪輪𠔕𠼩𡃝𤆢𤲕𤷔𦓾𧣵𧱜𪠵𪨧𫭢𬦧𬬭𰑄𰗖𰰨𰲰𱇗𱛍𲉉"), ("Luo", "㑩㒩㓢㞅㦬㩡㪾㰁㱻㴖㼈㽋㿚䀩䇔䈷䉓䊨䌱䌴䎊䯁倮儸剆啰囉峈摞攞曪椤欏泺洛洜漯濼犖猡"),
     ("Luo", "玀珞瘰癳硦笿箩籮絡纙络罖罗羅脶腡臝荦萝落蓏蘿螺蠃裸覙覶覼躶逻邏鏍鑼锣镙雒頱饠駱騾"),
     ("Luo", "驘骆骡鮥鴼鵅鸁羅蘿螺裸邏洛珞落駱𠉗𠏢𠜖𠶱𠻐𠻡𡁆𡆆𡤢𡿏𢅾𢺆𢺑𣂞𣎆𣛗𣜄𣜢𣧳𣨪𣵟𤄷𤔖𤔝"),
     ("Luo", "𤗀𤨗𤽥𤽼𥡜𥯛𦆁𦣇𦣖𦣛𦿌𧄿𧈦𧟌𧭥𧷳𧹐𨇽𨏒𨟥𨬅𨰠𩂣𩉙𩊚𩌭𩍪𩎊𩮹𩵇𩼊𩽰𪇱𪈰𪌳𪎆𪑋𪶒𫌨𫏑"), ("Luo", "𫗩𫽋𬂂𬡠𬰡𭹜𮱊𮷇剆䌴𰑫𰴝𰺢𰿊𱇪𱉮𱊮"), ("M", "呣"),
     ("Ma", "⻢⾺⿇㐷㑻㜫㦄㨸㾺䗫䣕䣖䧞䯦䳸亇傌吗嗎嘛嘜妈媽嫲嬤孖杩榪溤犘犸獁玛瑪痲睰码碼礣祃"),
     ("Ma", "禡罵蔴蚂螞蟆蟇遤鎷閁馬駡马骂鬕鰢鷌麻𡻤𢉿𢋚𢳀𣨜𤳂𥀏𥉊𥉵𥧓𧪨𨰾𩀪𩊃𩔶𩔷𩨲𩶞𪐎𪒜𪓹𬏜"), ("Ma", "𬮡𬮺䳸麻𰏲𰛊𱌈"),
     ("Mai", "⻨⿆㜥㦟䁲䘑䚑䜕䥑䨪䨫䮮买佅劢勱卖唛嘪埋売脈脉荬蕒薶衇買賣迈邁霡霢霾鷶麥麦鿏鿺𠿆"), ("Mai", "𢙑𢠼𥇯𥌚𦏢𦙻𧱘𧹒𨤢𩈗𩊍𩍃𪄳𪒪𪡃𫰨𬑙売𱉳𱧴𲋶"),
     ("Man", "㒼㗈㙢㛧㡢㬅㵘䅼䊡䐽䒥䕕䛲䜱䝡䝢䟂䡬䯶䰋僈墁姏嫚屘幔悗慢慲摱曼槾樠満满滿漫澷熳獌"),
     ("Man", "睌瞒瞞矕縵缦蔄蔓蘰蛮螨蟎蠻襔謾谩鄤鏋鏝镘鞔顢颟饅馒鬗鬘鰻鳗𡢚𡻩𢦈𢿜𣁜𣗊𤅎𤜘𥊑𥧭𥬈"), ("Man", "𥲈𥲑𦎌𦔔𧆏𧖵𧜞𧱼𨲛𨲾𩅍𩆓𩈦𩛎𩮉𪈿𪍩𪑪𬜬𬲴㡢𰊟𰒆𰥠𰯎𱆆"),
     ("Mang", "㝑㟌㟐㟿㡛㤶㬒㻊䁳䅒䈍䒎䓼䖟䵨厖吂哤壾娏尨庬忙恾杗杧氓汒浝漭牤牻狵痝盲硥硭笀芒茫"),
     ("Mang", "茻莽莾蛖蟒蠎邙釯鋩铓駹𠈵𠮵𡅖𡘪𡩩𡩽𡵀𣙷𣯬𤛘𤰡𥁃𥆙𥐞𥝕𥤩𥭚𥮎𦎨𦜭𨛌𩅁𩒿𩙸𩛲𩪎𩭒𩷶𪁪"), ("Mang", "𪚢𬲹𮪡莽𱇮"),
     ("Mao", "⽑⽭㒵㒻㚹㝟㡌㧇㧌㪞㫯㮘㲠㴘㺺㿞䀤䅦䋃䓮䡚䫉䭷乮兞冃冇冐冒卯堥夘媢峁帽愗懋戼旄昴"),
     ("Mao", "暓枆柕楙毛毷氂泖渵牦犛猫瑁皃眊瞀矛笷罞耄芼茂茅茆萺蓩蝐蝥蟊袤覒貌貓貿贸軞鄚鄮酕鉚"),
     ("Mao", "錨铆锚髦髳鶜𠔼𠤝𡜢𡹰𢂹𢅉𢘅𢝌𢨯𢯾𢽢𣊃𣔺𣨇𣬵𣭮𣯀𣴟𣴼𣹪𤚜𤛖𤝄𤥰𤲰𥄸𥈆𥎟𥟪𦀸𦼪𧍟𧐟𧒚"), ("Mao", "𧓿𧔨𧠊𨈥𨥨𨦜𨩩𨺸𩛨𩫁𩬞𩭾𩿂𪃑𫄜𫓴𫤸𬆾𬥈𬨁𬪍帽冒㒻𱚦𲌰"),
     ("Me", "么嚒嚜濹癦麼"), ("Mei", "㙁㭑㺳䀛䆀䉋䊈䍙䓺䜸䤂䰨䰪䵢凂呅坆堳塺妹娒媄媒媚媺嬍寐嵄嵋徾抺挴攗旀昧枚栂梅楣楳"),
     ("Mei", "槑毎每沒没沬浼渼湄湈煝煤燘猸玫珻瑂痗眉眛睂睸矀祙禖穈篃美脄脢腜苺莓葿蘪蝞袂跊躾郿"),
     ("Mei", "酶鋂鎂鎇镁镅霉韎鬽魅鶥鹛黣黴梅𠊉𠍨𠪃𡲭𢮇𣟸𤚤𤽃𥞊𥧴𦼻𧭵𧳬𨉭𨜘𩈐𩋿𩎟𩫍𩲈𩴈𪂜𪃏𪉏𪎦"), ("Mei", "𪎭𬊖梅䍙𰾄𱂄"),
     ("Men", "⻔⾨㥃㦖㱪㵍䊟䫒们們呇悶懑懣扪捫暪椚焖燜玧璊菛虋鍆钔門閅门闷𣯣𣯩𤅣𧄸𧴺𨳔𨴺𩑥𩔉𫞩"), ("Men", "𫺓𬇰𭩛𮤫𰫋"),
     ("Meng", "㙹㜴㝱㠓㩚䀄䁅䇇䉚䏵䑃䑅䒐䓝䗈䙦䙩䟥䠢䤓䥂䥰䰒䲛䴌䴿䵆儚冡勐夢夣孟幪懜懞懵掹擝曚"),
     ("Meng", "朦梦橗檬氋溕濛猛獴瓾甍甿盟瞢矇矒礞艋艨莔萌蒙蕄蘉虻蜢蝱蠓鄳鄸錳锰霥霿靀顭饛鯍鯭鸏"),
     ("Meng", "鹲鼆𠐁𠐧𠖆𠵼𡒯𡚔𡬆𡬌𢄐𢕙𢟼𢤘𢿂𣊔𣓝𣞑𣰥𣽭𤯻𤱴𤼁𤾬𥂂𥄁𥉕𥋝𥌯𥌱𥣛𥭮𦆟𦊽𦢧𦫰𦱋𦳶𦴔𦷹"),
     ("Meng", "𦿏𧀆𧀧𧁊𧂛𧂡𧓨𧞑𧭊𧲍𨞫𨢊𨢠𨣘𨨸𨮒𨼿𩄖𩆽𩕱𩟞𩦺𩴲𩶡𪅇𪇓𪈆𫑡𬴌夢懞𰥭𰰡𰱉𱄈𱈛𱋮𱌆𲎈"),
     ("Mi", "⼍⽶⽷㜆㜷㝥㟜㠧㣆㥝㨠㫘㳴㳽㴵㵋㵥㸏㸓䁇䈿䉲䊳䋛䌏䌐䌕䍘䕳䕷䖑䛑䛧䣾䤉䤍䥸䭧䮭䱊"),
     ("Mi", "䴢侎冖冞冪咪嘧塓孊宓宻密峚幂幎幦弥弭彌戂擟攠敉榓樒櫁汨沕沵泌洣淧渳滵漞濔濗瀰灖熐"),
     ("Mi", "爢猕獼瓕眫眯瞇祕祢禰秘簚米粎糜糸縻羃羋脒芈葞蒾蔝蔤藌蘼蜜袮覓覔覛觅詸謎謐谜谧迷醚"),
     ("Mi", "醾醿釄銤镾靡鸍麊麋麛鼏鿹泌𠞧𡄣𡇒𡊭𡓭𡝠𡬐𡲼𡾱𢆯𢇲𢘺𢞞𢱮𣓔𣧲𤛬𤦀𥁑𥇆𥇎𥈕𥉴𥉿𥎖𥧧𥭫"),
     ("Mi", "𥮜𥵨𥹄𥹫𥽰𥿫𦖬𦗕𦞟𦟂𦣥𦰴𦸡𧐎𧕵𧠟𧱻𧵬𧶡𧷦𧼊𧽨𨇻𨒲𨢎𨢥𨣯𨣾𨧮𨷬𩔢𩞇𩸹𪀿𪅮𪋗𪋢𪎔𪎗𪑸"), ("Mi", "𪒄𪓬𪕈𫌪𬘮𬵨鼏𰶨𰼑𱌅𲄀𲍐𲍰"),
     ("Mian", "⼧⾯⿌㒙㝃㝰㤁㨺㮌㰃㴐㻰䀎䃇䏃䛉䤄䩄䫵䰓丏偭免冕勉勔喕娩婂媔嬵宀愐杣棉檰櫋汅沔渑"),
     ("Mian", "湎澠眄眠矈矊矏糆絻綿緜緬绵缅腼臱芇葂蝒面靣鮸麪麫麵麺黽免勉𡒳𡕢𡧍𡧒𡯫𢃮𢣔𣅍𣡠𣧾𥄝"), ("Mian", "𥊿𥌂𥤵𥻩𦬛𦽃𧭇𧸨𨉥𨟺𨡞𩈹𩋠𩾃𪁼𬑧免勉冕𰘣𰬜𱺨"),
     ("Miao", "㑤㦝䁧䖢喵妙媌嫹庙庿廟描杪淼渺玅眇瞄秒竗篎緢緲缈苗藐邈鱙鶓鹋𠋝𡡺𢚋𢤧𢷕𤾛𥭝𦳥𩳸𪃐"), ("Miao", "𪃦𬸙𰒖𰬬"),
     ("Mie", "㒝㩢䁾䈼䌩䘊䩏乜吀咩哶孭幭懱搣櫗滅灭烕篾蔑薎蠛衊覕鑖鱴鴓𠺗𡖺𡞙𡟬𢦼𢧞𢨖𤊾𤏿𥄲𥉓𥋚"), ("Mie", "𥣫𥵒𥸴𥾝𦇪𧀅𧂝𨣱𩔠𩱷𪇴𪌺𪒍𬘔𮭤哶𰴕𰿃𱈙"),
     ("Min", "⺠⻪⽫㞶㟩㟭㥸㨉㬆䁕䂥䃉䋋䝧䟨䡑䡻䪸䲄僶冺刡勄垊姄岷崏忞怋悯惽愍慜憫抿捪敃敏敯旻"),
     ("Min", "旼暋民泯湣潣珉琘琝瑉痻皿盿砇笢笽簢緍緡缗罠苠蠠鈱錉鍲閔閩闵闽鰵鳘鴖黾敏𠊟𢼖𢽹𣱈𣱉"), ("Min", "𣷠𣹒𤇜𤛎𤸅𤺖𤿕𥜐𦈏𦌡𦫮𦳜𧁋𧌙𧲃𨏵𩭷𪂆𪄴𪉎𫀓𫂃𫞗敏黾𰺤"),
     ("Ming", "㝠㟰㫥䄙䆩䊅䒌䫤䳟佲冥凕名命姳嫇慏掵明暝朙椧榠洺溟猽眀眳瞑茗蓂螟覭詺鄍酩銘铭鳴鸣"), ("Ming", "𠋶𡥸𥌏𥥊𥹆𥿨𦡉𦫭𧟠𧱴𩣶𪂤𪗸𬢒𬣮𱊂"),
     ("Miu", "謬谬𨱯"), ("Mo", "㱳㶬㷬㷵㹮䁼䁿䃺䏞䒬䘃䩋䬴䭩䮬䯢䱅䳮䴲劘劰唜嗼嚤嚩嚰圽塻墨妺嫫嫼嬷寞尛帓帞庅怽懡"),
     ("Mo", "抹摩摸摹擵昩暯末枺模橅歾歿殁沫湐漠瀎爅獏瘼皌眜眽眿瞐瞙砞磨礳秣粖糢絈纆耱膜茉莈莫"),
     ("Mo", "蓦藦蘑蛨蟔謨謩谟貃貊貘銆鏌镆陌靺饃饝馍驀髍魔魩魹麽麿默黙墨𠆮𠇱𠡞𠢓𠬛𠻚𡈗𡊉𡠜𡡉𡢜"),
     ("Mo", "𡻟𡾉𢄏𢊗𢐖𢗿𢣗𣋟𣧣𣶊𣻕𤋂𤣻𤹴𤿖𥂓𥄕𥕓𥙎𥞪𥬎𥱹𥽘𦅔𦔭𦟟𦥦𦫕𦮅𧕤𧕥𧠓𧥟𧰱𧻙𧼟𧿴𨆽𨟖𨰞"),
     ("Mo", "𨱱𩃁𩄻𩌧𩐻𩑦𩑷𩞁𩟠𩢖𩢷𩥔𩪮𩿣𪍇𪍤𪎠𪏟𪒂𪒇𬂠𬙊𬱕𬳔𬹍𭴊𮹅摩𰈶𱇚𱊓𱋊𱚯𲎉"),
     ("Mou", "㭌䋷䍒䏬䗋䥐䱕侔劺哞恈某洠牟眸瞴繆缪蛑謀谋踎鉾鍪鴾麰𠀱𠥨𢃱𣫬𥆆𥿵𦊋𦊎𦋡𦭷𦳑𦺒𧎄𨴍"), ("Mou", "𩢫𩶢𮮇𱉲"),
     ("Mu", "⺟⺫⽊⽬㜈㟂㣎㧅㾇䀲䊾䑵䥈䱯亩仫凩募坶墓墲姆峔幕幙慔慕拇暮木朰楘母毣毪氁沐炑牡牧"),
     ("Mu", "牳狇畆畒畝畞畮目睦砪穆縸胟艒苜莯蚞踇鉧鉬钼雮霂鞪𠺖𡵬𢘃𢜯𢟨𣈊𤚅𤝂𤝕𤵝𥄈𥣸𥰻𦃤𦱒𧚀"), ("Mu", "𧩒𧬏𧰷𧿹𨈶𨍎𨎸𨡭𨢢𩡨𩬍𩵦𩶖𩶩𪎫𫄲𫠏𬭁𬰃𭈈"),
     ("N", "㕶𠮾𧗈"), ("Na", "㨥㵊䇱䈫䎎䏧䖓䖧䛔䟜䪏䫱乸吶呐哪嗱妠娜拏拿挐捺笝納纳肭蒳衲袦豽貀軜那鈉鎿钠镎雫靹"),
     ("Na", "魶拏𠕄𠱲𠴾𡤙𡰀𡷝𢇵𢜲𢡏𣅚𣡰𣸏𣹵𤓷𤔀𤝒𤬷𤭠𤱅𤱆𤷈𤸏𤸻𥍲𥑒𥹉𥿃𦙜𦛐𦣀𦬻𦰡𧋡𧘽𧤣𧦮𧰹𨙻"), ("Na", "𨚗𩏼𩚛𩟿𩮅𩹾𪌅𪐀𪗝𫐇𫽀𬹻肭𰱌𱇔𱇴𱥷"),
     ("Nai", "㜨㮈㮏㲡㴎㾍䍲䘅䯮乃佴倷奈奶妳嬭孻廼摨柰氖渿熋疓耏耐腉艿萘螚褦迺釢錼鼐奈𠧤𡞫𡨵𡮙"), ("Nai", "𢉓𣉘𣮦𥉃𦓎𦔹𦠸𦳐𦶅𨎡𩹟𪌞"),
     ("Nan", "㓓㫱㬮㽖䈒䊖䔜䛁䶲侽南喃囡娚婻戁抩揇暔枏柟楠湳煵男畘腩莮萳蝻諵赧遖难難難難𡆤𡆱𡆲"), ("Nan", "𢪈𢬷𤌔𤱣𤽲𤿏𦍀𦛚𦝧𦶈𧇙𧕴𧹞𨠹𨦳𨴌𨴘𨵴𩅠𩈑𩈶𩹞𫺷𰖠"),
     ("Nang", "㚂㶞䁸乪儾嚢囊囔擃攮曩欜灢蠰譨饢馕鬞齉𠶬𡿝𢖧𦈃𦗳𦣘𧅺𧖒𧟘𨳆𩜒𫼮𱘭𱜀"),
     ("Nao", "㑎㛴㞪㺁䃩䛝䜀䜧䴃匘呶垴堖夒嫐孬峱嶩巎怓恼悩惱憹挠撓淖猱獶獿瑙硇碙碯脑脳腦臑蛲蟯"),
     ("Nao", "詉譊鐃铙閙闹鬧𠊦𠡷𡍍𡽧𡾂𡿺𢅈𢉵𢙐𢜸𢪼𣧽𣭺𤊲𤋫𤞍𤡤𤫕𤷻𥀮𥆲𥐻𥑪𥒢𦗮𧩣𧳦𧴓𧴙𨥸𨱵𩋈𩖯"), ("Nao", "𩛋𩤘𩩀𩫔𩫺𩬷𩯆𫍢𬆛𬴨𮵑𰎞𰡻𰵠"),
     ("Ne", "⽧㕯䅞䎪䭆呢抐疒眲訥讷𢗉𣧍𧤜"), ("Nei", "㐻㨅㼏䲎內内娞氝脮腇錗餒馁鮾鯘𠑚𠑛𡣢𢁩𢅼𢛉𣓃𥡭𨡌𩗔𩬀𬭗內"), ("Nen", "㜛㯎㶧嫩嫰恁𡞾𧮠𨈗"),
     ("Neng", "㲌㴰䏻能𠹌𢆂𨃳𨶙"), ("Ng", "嗯"), ("Ni", "㞾㠜㥾㦐㩘㪒㲻㵫㹸䁥䕥䘌䘦䘽䛏䝚䦵䵑䵒伱伲你倪儗儞匿坭埿堄妮婗嫟嬺孴尼屔屰怩惄愵"),
     ("Ni", "抳拟擬旎昵晲暱柅棿檷氼泥淣溺狔猊眤睨秜籾縌聣聻胒腝腻膩臡苨薿蚭蜺觬誽貎跜輗迡逆郳"),
     ("Ni", "鈮铌隬霓馜鯢鲵麑齯鿭泥匿溺𠆵𠱘𠸺𠽬𡎳𡎿𡞭𡣁𡥦𡥨𡫸𡬗𢅟𢘝𢚮𢛜𢣚𢦱𣘗𣡋𣢞𣭙𣲷𤙌𤦤𥄽𥇄"),
     ("Ni", "𥜦𥜬𥷄𥺜𦆦𦤽𦦃𦮾𦰫𧃩𧈞𧏾𧖷𧵼𧺰𨀀𨋗𨺙𨽦𩈢𩉹𩋪𩍦𩚯𩩢𩯨𩰞𩱄𩸦𩸧𩺝𩺱𩾆𪏵𪏸𪐌𪙛𫆏𫐐𫠜"), ("Ni", "𬘸𬶪𮯴你𰬳𰯋𰵵"),
     ("Nian", "㜤㞋㮟㲽䄭䄹䚓䧔䬯卄哖唸埝姩年廿念拈捻撚撵攆涊淰焾碾秊秥簐艌蔫跈蹍蹨躎輦辇鮎鯰鲇"),
     ("Nian", "鲶鵇黏年撚秊輦念捻𠕟𠗋𠣇𠫺𡝟𡰫𣎔𣐏𤁥𤽿𥮘𥺴𦁇𦭁𦷙𨇍𨋚𨚶𨢯𨴞𩉄𩊫𩽴𪐇𪑮𬧑𬨅𬲫"), ("Niang", "䖆娘嬢孃酿醸釀𥽬𪓃"),
     ("Niao", "⻦⿃㒟㜵㞙㠡㭤㳮䃵䙚䦊䮍嫋嬝嬲尿樢脲茑蔦袅裊褭鳥鸟尿𠒰𡘏𡝋𡝒𡠿𢶑𢸣𣟊𥤂𥾇𨳀𨽖𩖔𩭑"), ("Niao", "𪅝𪈼𫽲𬡇𱊜𱗅𱛆"),
     ("Nie", "㖏㖕㖖㘝㘨㘿㙞㚔㜸㡪㩶㮆㴪㸎䂼䄒䇣䌜䌰䡾䯀䯅䯵䳖啮喦嗫噛嚙囁囓圼孼孽嵲嶭巕帇惗捏"),
     ("Nie", "揑摰敜枿槷櫱涅湼痆篞籋糱糵聂聶臬臲苶菍蘖蠥讘踂踗踙蹑躡錜鎳鑈鑷钀镊镍闑陧隉顳颞齧"),
     ("Nie", "𠈊𠶿𡆣𡍤𡰆𡴎𡶫𡸣𡾦𡾲𡿖𡿗𢈸𢫻𣀳𣌍𣙗𣯭𣰼𤭂𤴘𤶚𤺐𥔄𥬞𥬬𥮤𦄌𦈙𦘒𦛠𦞆𦯖𦵐𧁈𧋖𧞍𧻼𨊞𨙓"), ("Nie", "𨱺𨲀𨶠𨻄𩋏𩐭𩒕𩖁𩣘𪌊𪌿𪎃𪎅𪩛𫓻𫔶𫜩𬛸𬹌𬺂涅𰵹𰺠𰾾"),
     ("Nin", "㤛䋻䚾囜您拰脌𠽝䚾"), ("Ning", "㝕㣷㲰㿦䆨䔭䗿䭢佞侫倿儜凝咛嚀嬣宁寍寕寗寜寧拧擰柠橣檸泞澝濘狞獰甯矃聍聹苧薴鑏鬡"),
     ("Ning", "鸋寧寧𡫃𣍆𤕦𤹧𤻝𥣗𥧤𥳥𦡲𦡼𧃱𧑗𧕝𧭈𩕳𪥰𫍾𫛢𬬾𬲲𮫂寧𰚔𰣩"), ("Niu", "⺧⽜㖻㺲䂇䋴䏔䒜妞忸扭汼炄牛牜狃紐纽莥鈕钮靵紐𣧊𣲶𥀝𥍳𥝦𧘥𨋀𨙺𨳞𨷁𩈇𩙷𩚖𩲍𩵠𪏲"),
     ("Nong", "㶶㺜䢉䵜侬儂农哝噥弄挊挵檂欁浓濃燶癑禯秾穠繷脓膿蕽襛農辳醲齈弄𠘊𥂒𨑊𨲳𩅽𩇔𩟊𪆯𪒬"), ("Nong", "𪺻𫄣𫇽𫍦𫔖𫯒𬂰𬪩𬴩𬹖𰧾𰳺𱌖"),
     ("Nou", "㜌㝹㳶䅶䘫䨲䰭啂槈檽獳羺耨譳鎒鐞𠲴𡝦𡨻𡭾𢉕𢉚𣻖𤟦𥀫𧂦𧃨𧅘𩆟𩒔𪋺𬭦𰶌"),
     ("Nu", "⼥㚢㵖䖡䘐䚼䶊伮傉努女奴孥弩怒恧搙朒沑砮笯籹胬衂衄釹钕駑驽怒女𠴂𢪦𢫓𢫭𥄋𥅄𥍞𥛑𥤨"), ("Nu", "𥱂𦓕𦓖𧉭𧪅𧿔𪺹"), ("Nuan", "㬉奻暖渜煖煗餪𪋐𫗬"),
     ("Nue", "䖈䖋䨋疟瘧硸虐𨵫虐"), ("Nun", "黁"), ("Nuo", "㐡㑚㔮㖠㛂㡅㰙䚥傩儺喏愞懦懧挪掿搦搻梛榒橠稬穤糑糥糯諾诺蹃逽郍锘諾諾𠸱𠹈𡖔𡖫𡬥𡿊"),
     ("Nuo", "𢜪𢰜𢾲𣃽𣆚𤘟𥑽𥻾𦀨𦂍𦓢𦡃𦩜𧣚𧣺𨁌𨎭𩈺𩴓𩷁"), ("O", "哦喔噢"),
     ("Ou", "㒖㼴䉱䌂䌔䙔䥲偶吘呕嘔塸怄慪櫙欧歐殴毆沤漚熰瓯甌筽耦腢膒蕅藕藲謳讴鏂鴎鷗鸥齵𠙶𠢔"),
     ("Ou", "𠥝𠴰𡂿𡈆𡩾𣂻𣉾𣓕𣢨𣽕𤁮𤛐𤵎𥈬𥐂𥧆𥱸𥻑𦂕𧖼𧪓𩀫𩔸𩥋𪊪𪙃𫋲𫪘𫭟𬁵𬉼𬔯𬕦𬸁𮯵𰽜𱌹𱸂"), ("Pa", "䔤䯲啪妑帊帕怕掱杷潖爬琶皅筢舥葩袙趴𣚒𣧜𣱺𤆵𤽉𥐙𥩙𦐆𧑡𧣃𧣣𨋐𩈆𪗔𱍕"),
     ("Pai", "㭛㵺䖰䱝俳哌廹徘拍排棑派渒湃牌犤猅簰簲蒎輫鎃𠂢𠸁𣏟𣖐𣝁𣲖𣴪𥯟𥱼𥴖𥿯𦔠𦩯𦫖𧵠𩛇𬘦派"), ("Pai", "𰠹𰺎𱖼"),
     ("Pan", "⽙㐴㢖㽃䃲䆺䰉䰔冸判叛媻幋拚搫攀槃沜泮洀溿潘瀊炍爿牉畔畨盘盤盼眅磐磻縏聁萠蒰蟠袢"),
     ("Pan", "襻詊跘蹒蹣鋬鎜鑻鞶頖鵥磻𠽲𡞟𢰿𣁦𣔚𤄜𤄧𤖭𤠍𤺏𤻷𥈼𥉟𥌊𥕿𦙀𦪹𧺾𨂝𨃞𨃟𨒃𪄀𪒀𫟟𬱙"),
     ("Pang", "㕩㥬㫄䅭䏺䒍䠙䨦乓厐嗙嫎庞彷徬旁沗滂炐耪肨胖胮膖舽螃覫逄雱霶鳑龎龐龎𠗵𠦲𡅃𢐊𣂆𤧭"), ("Pang", "𥪴𦜍𦣂𧔧𧿆𨜷𩃎𩅅𩈈𩐨𪐿𪔔𩅅"),
     ("Pao", "㘐㚿㯡㯱㲏䩝䫽䶌刨匏咆垉奅庖抛拋泡炮炰爮狍疱皰砲礟礮脬萢袍褜跑軳鞄麃麅麭𠣳𡂘𡧙𡯈"), ("Pao", "𡾌𢾳𣕅𣚇𣟏𣮃𣶐𤔉𥶔𦐸𦠖𧙌𨋛𨣙𩂞𩆘𩎘𩎾𩐜𩗥𪊳𪿫𰺂𲋏"),
     ("Pei", "㚰㟝㤄㧩㯁㳈㾦䊃䣙䫊伂佩俖呸培姵嶏帔怌斾旆柸毰沛浿珮肧胚蓜衃裴裵賠赔轡辔配醅锫阫"), ("Pei", "陪霈馷駍𢁖𢘀𢥐𣍺𣬆𣯱𤗏𤬃𥄔𥹂𦙂𦸪𧳏𧴥𨓿𨙶𨛬𩎜𩑢𩖭𩵣"),
     ("Pen", "㖹呠喯喷噴歕湓瓫盆翸葐𠺔𠽾𡺜𪂽𬅫噴"), ("Peng", "㛁㠮㥊㧸㱶㼞䄘䍬䡫䥋䦕䰃䴶倗剻匉嘭堋塳弸彭怦恲憉抨挷捧掽朋梈棚椖椪槰樥淎淜漰澎烹"),
     ("Peng", "熢皏砰硑硼碰磞稝竼篣篷纄膨芃莑蓬蘕蟚蟛踫軯輣錋鑝閛韸韼騯髼鬅鬔鵬鹏𡂫𡗗𡼜𢏳𢪋𢼩𢽩"),
     ("Peng", "𣟀𣨞𤖳𤘾𥕱𥕽𦚝𦪪𦯰𧌇𧚋𧴂𨂃𨅘𨍩𨎧𨎳𨑎𨠟𨲰𨺀𩄦𩐛𩖛𩡕𩱀𩸀𪔍𬭖𬳴𬴅䦕𰹽𰺏𰿬𱤭"),
     ("Pi", "⽦⽪㓟㨢㨽㮰㯅㱟㳪㵨㼰㿙䏘䑀䑄䚰䚹䠘䡟䤏䤨䫌䫠䯱䰦䲹䴙䴽丕仳伓伾僻劈匹啤噼噽嚊嚭"),
     ("Pi", "圮坯埤壀媲嫓屁岯崥庀悂憵批披抷揊擗旇朇枇毗毘毞淠潎澼炋焷狉狓琵甓疈疋疲痞癖皮睥砒"),
     ("Pi", "磇礔礕秛秠稫篺紕纰罴羆翍耚肶脴脾腗膍苉蚍蚽蚾蜱螷蠯諀譬豼豾貔辟邳郫釽鈚鈹鉟銔銢錃"),
     ("Pi", "錍铍闢阰陂陴霹駓髬魮魾鮍鲏鴄鵧鷿鸊鼙𠜱𠡄𠨸𠪮𠯔𠯭𠵬𠹦𡊝𡛘𡛡𡦟𡲮𡶌𡺮𢇳𢓖𢞗𢰘𢱧𢻹𢾇"),
     ("Pi", "𢾱𣓋𣔬𣖰𣢋𣪉𣬉𣬮𣬼𣹚𣹮𤂃𤖿𤘢𤘤𤘹𤚪𤬭𤱍𤴣𤷒𤼜𤿇𤿎𤿐𥀘𥔁𥤻𥯡𦀘𦃋𦊁𦘩𦘲𦤢𦨭𦰽𦳈𦹽𧑜"),
     ("Pi", "𧓎𧧺𧪫𧲺𧳼𧴉𧾑𨈚𨐴𨑜𨤽𨧦𨲐𨵡𨵩𨸆𨺤𨻀𩔙𩗫𩜰𩣚𩫫𪄆𪇊𪉔𪊕𪌈𪖞𪛎𫛨𫜔𬨌𬨔𬬫𬭃𬱰𬳵𬸯㓟"), ("Pi", "脾鵧𰽧𰽸𰾎𰿾𱂮𱇒𱇝𱉖"),
     ("Pian", "⽚㓲㛹㸤㼐㾫䏒䮁偏囨媥楄楩片犏篇翩胼腁覑諚諞谝貵賆跰蹁鍂駢騈騗騙骈骗骿魸鶣𠯯𠷊𡎚"), ("Pian", "𢉞𢐃𢕨𦳄𧍲𧡤𧱩𨂯𨲜𨵸𨸇𪘀𪚏𬸜跰𪘀𱅝"),
     ("Piao", "㬓㵱㹾㼼䏇䕯䴩僄剽勡嘌嫖彯徱慓旚殍漂犥瓢皫瞟票篻縹缥翲蔈薸螵醥闝顠飃飄飘魒𠷻𡢱𡣋"), ("Piao", "𣋳𣝐𣳭𦭼𧌠𧽤𨝓𨮬𩄷𩗏𩙒𩡦𩮳𪅃𪋖𪏫𬸤𱂺"),
     ("Pie", "⼃䥕丿嫳撆撇暼氕瞥苤鐅𠟈𠢪𢳂𤮕𦒐𦗥𩓼𩠿𫼣𬭯"), ("Pin", "㡦㰋㺍䎙品嚬姘娦嫔嬪拼榀汖牝玭琕矉礗穦聘薲蠙貧贫頻顰频颦馪驞頻頻𠐺𠮰𡛞𢣐𢬵𢶳𣎳𥑓"),
     ("Pin", "𥖶𦇖𧏖𧔪𧭹𧮝𨏞𩕵𩰗𪬚𪾸𫅭𫍐𫫾𬝯𬞟𮹀姘拼𱅤𲆳"), ("Ping", "㵗㺸㻂䀻䈂䍈䓑䛣䶄乒俜凭凴呯坪塀娉屏屛岼帡帲幈平慿憑枰檘泙洴涄焩玶瓶甁甹砯竮箳簈"),
     ("Ping", "缾聠胓艵苹荓萍蓱蘋蚲蛢評评軿輧郱頩鮃鲆塀缾𠗥𠗦𡊞𢆟𢖊𣳆𤭔𤳊𥪁𥭢𥵪𦀔𦚓𦥚𦥤𦶊𧂋𧏑𨂲"), ("Ping", "𩂾𩈚𩩍𪋋𪔾𪕒𫐌𮰉洴㺸㺸𢆟竮䈂聠荓蓱蛢郱𩈚頩𱂦"),
     ("Po", "㗶㛘㧊㨇㩯䄸䍨䎅䞟䣪䣮䥽䨰䪖䪙䯙叵嘙坡婆尀岥岶敀昢桲櫇泊泼洦溌潑烞珀皤破砶笸粕蒪"),
     ("Po", "蔢謈迫鄱酦醗釙鉕鏺钋钷頗颇駊魄𠰐𠰼𠵳𠷑𠾌𡊟𡶆𡼃𡽠𢂤𢱨𢶉𣍸𣬚𣲳𤀪𤖼𤝯𤽌𥗟𥬒𥵜𥹖𦃡𦍁"), ("Po", "𦐦𦑀𦑵𦒟𦥭𦥲𦫔𦾕𦿍𧂉𧘟𧙅𧴤𧿽𨂩𨅅𨆵𨑝𨠓𨡩𨫁𨸭𩊀𩑼𩔈𩕏𩢘𩸿𫘟𬈱𬱭𭇜"),
     ("Pou", "㕻㧵㰴䬌䯽䳝剖咅哣娝婄抔抙捊掊犃箁裒錇𢒷𦵿𦺎𧠾𩔻𩚭"), ("Pu", "⺙⽁㒒㬥㯷㲫㹒㺪䇚䈬䈻䑑䔕䗱䧤䮒䲕䴆仆僕匍噗圃圑圤墣巬巭扑撲擈攴攵普暜曝朴樸檏氆"),
     ("Pu", "浦溥潽濮瀑炇烳獛璞瞨穙纀脯舖舗莆菐菩葡蒱蒲諩譜谱贌蹼酺鋪鏷鐠铺镤镨陠鯆𡜵𡰿𢈲𢼹𣋏"), ("Pu", "𤆝𤗵𤰑𤾣𥐁𥐚𥛟𥣈𥼜𦬙𦮑𧙛𧦞𧭎𧱹𨁏𨛥𨽂𩂗𩑀𩪛𩯱𪋡𪒢𪔿𪖈𫚙𬶴𭠙暜𰬿𱾾"),
     ("Qi", "⻫⻬⽓⿑㒅㖢㞓㞚㟓㟚㟢㠌㣬㥓㩻㩽㫓㬤㯃㯦㰗㱦䀙䁈䁉䄎䄢䄫䅤䅲䉻䋯䌌䎢䏅䏌䏠䏿䐡䑴"),
     ("Qi", "䒗䒻䓅䓫䔇䔾䗩䙄䚉䚍䞚䟄䟚䡋䡔䢀䣛䥓䧵䩓䫏䫔䭫䭬䭶䭼䰇䰴䱈䲬䳢䶒䶞七乞亓亝企俟倛"),
     ("Qi", "僛其凄剘启呮咠唘唭啓啔啟嘁噐器圻埼夡奇契妻娸婍屺岂岐岓崎嵜帺弃忔忯悽愭慼慽憇憩懠"),
     ("Qi", "戚捿掑摖攲斉斊旂旗晵暣期杞柒栔栖桤桼棄棊棋棨棲榿槭檱櫀欫欹欺歧气気氣汔汽沏泣洓淇"),
     ("Qi", "淒湆湇漆濝炁猉玂玘琦琪璂甈畦疧盀盵矵砌碁碕碛碶磜磧磩祁祇祈祺禥竒簯簱籏粸紪綥綦綨"),
     ("Qi", "綺緀緕纃绮缼罊耆肵脐臍艩芑芞芪萁萋萕葺蕲藄蘄蚑蚔蚚蛣蛴蜝蜞螧蟿蠐褀褄訖諆諬諿讫豈"),
     ("Qi", "起跂踑蹊軝迄迉邔郪釮錡鏚锜闙霋頎颀騎騏騹骐骑鬐鬿魌鯕鰭鲯鳍鵸鶀鶈麒麡鼜齊齐豈契器"),
     ("Qi", "祈𠀁𠁭𠅚𠊔𠎰𠐾𠓪𠔶𠧒𠫸𠴹𡍪𡖾𡢖𡦍𡪵𡫁𡷞𡹉𡹓𡹘𡹩𡺓𡺸𡻧𡻰𡽼𢁒𢍁𢍆𢍑𢔆𢔠𢜱𢞒𢢖𢢞𢩡𢴰"),
     ("Qi", "𢺵𢺷𢻋𢻚𢻪𢾦𢾪𣉓𣏶𣔘𣛺𣫱𣯆𣶠𣾤𤘌𤪌𤳃𤳤𤷍𤹸𤺗𤼅𥀻𥄜𥇚𥉐𥉙𥉷𥉻𥌁𥓾𥔩𥖫𥤥𥫟𥷇𥼘𥽳𦄊"),
     ("Qi", "𦈦𦔌𦖊𦘸𦙊𦚊𦛰𦡹𦧉𦧯𦩣𦪊𦫡𦭲𦸆𦸓𦸗𧇜𧋉𧌞𧎪𧒕𧓑𧕉𧘗𧘧𧙞𧙾𧚨𧠪𧡘𧡺𧯯𧰙𧻕𧼕𧼘𧽓𨁐𨉸"),
     ("Qi", "𨊰𨑤𨒅𨙬𨙸𨞢𨥦𨪌𨱜𨵆𨸒𨸔𩉬𩒛𩒨𩠦𩥂𩦋𩧌𩨘𩨝𩲪𩳣𩴪𩷾𩹵𩺲𪀩𪂛𪄖𪄭𪅾𪒆𪒑𪔪𪗅𪗆𪗍𪗏𪙧"), ("Qi", "𫛰𫺊𬢐𬨂𬬳𬭭𬮩𬱦𬴆𬸒𬸨𬸾𮸞啓杞芑起邔𰡩𰬢𰰴𰵲𱊁𱍐𱣕𱹁"),
     ("Qia", "㓞㓣㓤㡊㤉䁍䂒䨐䯊䶝冾圶峠帢恰愘拤掐殎洽硈葜袷跒酠鞐髂𠕣𠜤𠜼𠝘𠝛𠳌𡘧𡤫𢮌𢼣𣁴𣘟𣣟"), ("Qia", "𣨄𤫶𤵹𥎸𥦞𥴭𦝣𦸉𧩶𩥌𩩱𩮁𩷻𪘺𫈰𫱿"),
     ("Qian", "⼐⽋㐸㗔㜞㟻㦮㦿㧄㨜㩃㩮㩷㪠㯠㸫㹂䀒䁮䇂䇜䈤䈴䉦䊴䑶䕭䖍䙴䞿䥅䪈䭤䵖䵛乾仟仱伣佥"),
     ("Qian", "俔倩偂傔僉儙兛凵刋前千嗛圱圲堑塹墘壍奷婜媊嬱孯岍岒嵌嵰忴悓悭愆慊慳扦扲拑拪掔掮揵"),
     ("Qian", "搴撁攐攑攓杄棈椠榩槏槧橬檶櫏欠欦歉歬汘汧浅淺潛潜濳灊牵牽瓩皘竏签箝箞篏篟簽籖籤粁"),
     ("Qian", "綪縴繾缱羬肷脥膁臤芊芡茜茾蒨蔳蕁虔蚈蜸褰諐謙譴谦谴谸軡輤迁遣遷釺鈆鈐鉗鉛銭錢鎆鏲"),
     ("Qian", "鑓钎钤钱钳铅阡雃靬韆顅騚騝騫骞鬜鬝鰜鰬鵮鹐黔黚𥳐𠀼𠊭𠋵𠑲𠔺𠠃𠢍𠬾𠳋𠷁𡒌𢁮𢂺𢃘𢃥𢋔"),
     ("Qian", "𢌍𢍱𢜩𢧥𢮄𣍰𣓅𣖳𣘝𣟋𣢖𣢬𣢲𣹥𤠿𤿷𥏥𥔮𥜴𥦃𥧬𥮒𥱺𥲢𥳐𥴤𥷪𦂒𦅋𦖎𦴑𦼓𧃑𧘜𧚫𧛓𧟑𧢞𧣑𧥛"),
     ("Qian", "𧪯𧮮𧮽𧲀𧽐𨐋𨐩𨓲𨗦𨜻𨝍𨥞𨦄𨨘𨰂𨱫𨺩𨺫𨽨𩋆𩑳𩒣𩨃𩨊𩨓𩪢𩬚𪇇𪈇𪉻𪘦𫓪𫖶𫣛𫽥𬘬𬙃𮲁凵岍"), ("Qian", "汧灊蚈雃䵖𰀡𰊢𰌆𰔲𰗬𰬮𰲮𰺉𰾑𱁶𱆀𱆁𱈉𲄨𲌞"),
     ("Qiang", "⺦㛨㩖㳾㾤䤌䵁丬呛唴嗆嗴墏墙墻嫱嬙嶈廧強强戕戗戧抢搶斨枪椌槍樯檣溬漒炝熗牄牆猐獇"),
     ("Qiang", "玱瑲篬繈繦羌羗羟羥羫羻腔艢蔃蔷薔蘠蜣襁謒跄蹌蹡錆鎗鏘鏹锖锵镪襁𡠥𡬎𡸤𡺃𡺛𢈵𢏄𢐩𢧅"),
     ("Qiang", "𣫝𤕽𥇉𥓌𥴻𥶑𦯤𦳟𦷦𧇞𧖑𧭚𧱡𧽩𨄚𨶆𩣼𩩝𩼒𩿄𪁸𪎞𪙎𪪞𫄶𫗳𬧀𬬰𮠞鏹𰊈𲌡"),
     ("Qiao", "㚁㚽㝯㡑㢗㤍㴥䀉䂪䂭䃝䆻䇌䎗䩌䫞䯨䱁䲾䵲乔侨俏僑僺劁喬嘺墝墽嫶峭嵪巧帩幧悄愀憔撬"),
     ("Qiao", "撽敲桥槗樵橇橋殻毃燆犞癄瞧硗硚磽礄窍竅繑缲翘翹荍荞菬蕎藮誚譙诮谯趫趬跷踍蹺躈郻鄡"),
     ("Qiao", "鄥釥鍫鍬鐈鐰锹陗鞒鞘鞩鞽韒頝顦骹髚髜瞧𠏖𠿕𡌔𡩇𡰐𡰑𡺘𢄹𢐟𢘟𢩨𢮉𢶡𢻤𢿣𣂇𣒆𣖄𣜽𣦜𣯹"),
     ("Qiao", "𣹝𣺰𥁢𥉾𥟅𥹶𦢺𧄍𧣌𨃤𨅣𨜍𨜑𨝱𨞶𨸑𩖇𩨟𪑊𪜎𪡀𪪑𪺭𫓱𫚏𫭪𮱵𮳧殻𰬐𰷵𰷶𰻮𰽛𱂉𱂻"),
     ("Qie", "㓶㗫㚗㛍㛗㤲㥦㹤㼤㾀㾜䟙䤿䦧且切匧厒妾怯悏惬愜挈朅洯淁穕窃竊笡箧篋籡緁聺苆藒蛪踥"),
     ("Qie", "郄鍥鐑锲鯜切𠀃𠁠𠋧𠩂𠲵𡂠𡐤𡛠𡝍𡶐𢲶𢺅𣠺𤴼𤷾𥕑𥪵𥿚𦆍𦼰𦿋𧑨𧚪𧫕𧻘𧻧𨄊𨉪𨖰𨚧𩣴𪑗𪙌𫺁"), ("Qie", "𫺂𮰾切𰬡𰬶𱞝"),
     ("Qin", "㓎㕋㘦㝲㞬㢙㤈㩒㪁㮗㾛㾣䃢䈜䔷䜷䦦䰼亲侵勤吢吣唚嗪噙坅埁媇嫀寑寝寢寴嵚嶔庈慬懃懄"),
     ("Qin", "抋捦揿搇撳擒斳昑梫檎欽沁溱澿瀙珡琴琹瘽禽秦笉綅耹芩芹菣菦菳藽蚙螓螼蠄衾親誛赾鈙鈫"),
     ("Qin", "鋟钦锓雂靲顉駸骎鬵鮼鳹鵭勤𠓿𠔎𠖶𠘅𠜘𠦎𠻨𡫧𡵑𡹢𢫲𢱶𣆲𣖯𣜣𣢐𣨠𣪄𤙋𤚩𤥓𤴽𤵂𤿳𥍯𥎊𥎡"), ("Qin", "𥘋𥱧𥵧𦧋𦯈𧯃𧼒𧾏𨙽𨛣𨾰𩂈𩎖𩐙𩓒𩔝𩔟𪒭𪒯𪙟𫖑勤𰜜𰧎𰬞𰽳𱰤"),
     ("Qing", "⻘⾭㩩㯳㵾㷫䋜䔛䞍䡖䨝䯧䲔倾傾儬凊剠勍卿圊埥夝寈庆庼廎情慶掅擎擏晴暒棾樈檠檾櫦殑"),
     ("Qing", "殸氢氫氰淸清漀濪甠硘碃磬箐綮罄苘葝蜻請謦请輕轻郬鑋靑青靘頃顷鲭黥晴晴請𠑴𠗝𠨍𡄇𡄔"),
     ("Qing", "𡲀𢹃𣩜𣫨𤭩𥃟𥱨𧕙𧖪𨆪𨓷𨻺𩇝𩇟𩑭𩒵𩔥𩗼𩷏𩽡𪄈𪏅𪷍𫈎𫏕𮲲𮴕𩇟卿卿卿𰘓𰼻𲰍"),
     ("Qiong", "㑋㒌㧭㮪㷀㼇䅃䆳䊄䓖䛪䠻儝卭宆惸憌桏橩焪焭煢熍琼璚瓊瓗睘瞏穷穹窮竆笻筇舼茕藑藭蛩"),
     ("Qiong", "蛬赹跫邛銎𠌖𠤊𡊼𡞦𡦃𡸕𡺺𢞏𢮍𢶇𣇬𣋶𣑦𣜧𣶆𤢶𤤑𤤶𥑎𥑱𥨪𥳎𦦧𦨰𦭭𦴇𦾵𨀯𨍶𩑓𩢽𩨯𩬛𩬰𪀛"), ("Qiong", "𬸉瓊𩬰"),
     ("Qiu", "㐀㕤㚱㛏㞗㟈㤹㥢㧨㭝㳋㷕㺫䆋䊵䎿䐐䜪䟬䟵䠓䠗䣇䤛䨂䲡丘丠俅叴唒囚坵媝崷巯巰恘扏搝"),
     ("Qiu", "梂楸殏毬求汓泅浗渞湭煪犰玌球璆皳盚秋秌穐篍糗紌絿緧肍莍萩蓲蘒虬虯蚯蛷蝤蝵蟗蠤裘觓"),
     ("Qiu", "觩訄訅賕赇趥逎逑遒邱酋醔釚釻銶鞦鞧鮂鯄鰌鰍鰽鳅鶖鹙鼽龝蘒𠀉𠗈𠰋𡊣𡲚𢈝𢘄𢛃𢦎𣧝𣭳𤕾"),
     ("Qiu", "𤞰𥔻𥥽𥫷𥭑𦦄𦬖𦰪𧇸𧏋𧔭𧣕𧤕𧲰𧺤𧻁𧻱𨍊𨒊𨕦𨟽𨱇𨲒𨺧𩈸𩒮𩔕𩗕𩝠𩵍𩾁𪍗𪖛𪚺𫚧𫟲𬓫𬘕𬘶𬱓"), ("Qiu", "𬳌𮉠𰬗𰰤𱇠𱗕"),
     ("Qu", "㖆㘗㜹㠊㣄㧁㫢㭕㯫㰦㲘㸖㻃䁦䂂䆽䈌䋧䒧䒼䓚䓛䖦䝣䞤䟊䠐䢗䧢䵶䶚伹佉佢刞劬匤区區厺"),
     ("Qu", "去取呿唟坥娶屈岖岨岴嶇忂憈戵抾敺斪曲朐欋氍浀淭渠灈璖璩癯瞿磲祛竘竬筁籧粬紶絇翑耝"),
     ("Qu", "胊胠臞菃葋蕖蘧蛆蛐蝺螶蟝蠷蠼衐衢袪覰覷覻觑詓詘誳诎趋趣趨躣躯軀軥迲鑺镼閴闃阒阹駆"),
     ("Qu", "駈驅驱髷魼鰸鱋鴝鸜鸲麮麯麴麹黢鼁鼩齲龋𠇯𠍲𠏛𠣪𡟥𡡥𡱅𡱺𡲰𡳆𢌄𢌷𢎖𢦌𢴮𢼰𣖪𣮈𣯸𣰋𣰠"),
     ("Qu", "𣰡𣰻𤖬𤙏𤨎𥃔𥗫𥧻𥬔𥶶𥺷𥽧𦄽𦐛𦔬𦕙𦗛𦛕𦛱𦣒𦸶𦼫𧄒𧉧𧊛𧌑𧐅𧕎𧝔𧠢𧲵𧾱𧾶𨄅𨎶𨐣𨓭𨞙𨧱𨱊"),
     ("Qu", "𨸟𨼫𨼽𩇐𩉿𩖷𩢳𩣹𩧘𩪍𩴹𩵅𩽩𩿟𩿥𩿩𪀊𪁖𪄊𪆂𪉌𪋄𪌆𪌬𪍸𪛃𪨰𫍜𫍮𫛵𬘛𬶬𬸱𰕅𰬆𰴜𰴞𰺁𱇜𱋋"), ("Qu", "𱋐𱋿𱌁"),
     ("Quan", "⺨⽝㒰㒽㟫䀬䄐䅚䊎䌯䑏䟒䠰佺全券劝勧勸啳圈圏埢奍姾婘孉峑巏弮恮悛惓拳搼权棬椦楾権"),
     ("Quan", "權汱泉洤湶烇牶牷犈犬犭瑔畎痊硂筌絟綣縓绻荃葲虇蜷蠸觠詮诠跧踡輇辁醛銓鐉铨闎韏顴颧"),
     ("Quan", "駩騡鬈鰁鳈齤全𠛮𠤹𠥙𡇮𡈉𡙅𡙐𡰝𡴔𡺟𡿨𢍕𢎠𢑆𢔑𣍴𣸋𤜍𤥷𤬠𤰝𤷄𥁸𥤊𥹳𦋓𦍅𦏮𦓰𦨚𧈾𧍭𧸾"), ("Quan", "𨛈𨜩𨟠𨨗𨩸𩓫𩘘𩜬𩧴𪈻𪐂𬘥𰬲𰾼𱂇𱌲"),
     ("Que", "㕁㩁㰌㱋㱿㲉㴶㹱㾡䇎䍳䦬䧿䲵却卻埆塙墧崅悫愨慤搉榷炔燩琷瘸皵硞确碏確碻礐礭缺蒛趞"),
     ("Que", "闋闕阕阙雀鵲鹊𠞗𠳞𡇱𡉉𢠬𣒗𣛵𣤇𣪹𤣅𤷽𤿋𤿩𤿵𥀎𥆸𥕹𥗙𥗮𥜵𥩢𧎯𧢩𧢭𨞩𨢜𨴊𨴒𨵗𩤈𩨭𩨷𩫠"), ("Que", "𪏈𪏨𪖀𪫸𬒈𬮯𮸧𰉩𳈆"),
     ("Qun", "㟒㪊㿏䭽囷夋宭峮帬羣群裙裠逡𡈀𢛕𣀄𤛭𤸷𦃢𦽖𨞗𩎗𩤁"), ("Ran", "㒄㚩㜣㲯㸐㾆㿵䎃䒣䔳䕼䖄䣸䤡䫇䳿冄冉呥嘫姌媣染橪然燃珃繎肰苒蒅蚦蚺衻袇袡髥髯𠊌𠤀"),
     ("Ran", "𠯍𠱞𡖝𡜉𡜫𢓒𣰦𤙼𤡮𤱋𤲗𥀭𥣺𥬕𥳚𦫉𨹌𩃵𩢡𩧬𩶎𪓘𪓚𪚮𫜳𬊾𬙇𬝴𰚪𱍄"), ("Rang", "䉴䑋儴勷嚷壌壤懹攘瀼爙獽瓤禳穣穰纕蘘譲讓让躟鬤𣩽𣰶𤅑𤬥𤰂𥗝𧟄𨏛𨟚𩆶"),
     ("Rao", "㑱㹛娆嬈扰擾桡橈繞绕荛蕘襓遶隢饒饶𠒸𡈦𦪛𧳨𨇄𫋹嬈𰺷"), ("Re", "惹热熱𢞇𤍠𤑄𧧏𩭿"),
     ("Ren", "⺅⺶⺷⼈㠴㣼㶵㸾䀔䇮䋕䌾䏕䛘䭃人亻仁仞仭任刃刄壬妊姙屻岃忈忍忎扨朲杒栠栣梕棯牣祍"),
     ("Ren", "秂秹稔紉紝絍綛纫纴肕腍芢荏荵葚衽袵訒認认讱躵軔轫鈓銋靭靱韌韧飪餁饪魜鵀𠯄𠲏𡰥𢆉𢇦"), ("Ren", "𣅉𦍌𦏀𦬄𧥷𧴬𨉃𩑉𩠈𩵕𪔺𫟃𬣯𬬯𬶁𬸊刃忍䏕軔𰽻"),
     ("Reng", "㭁㺱䄧䚮仍扔礽芿辸陾𠧟𠮨𠯷𠯹𣗐𥾋𧹈𨸐𪥠"), ("Ri", "⺛⺜⽇䒤囸日釰鈤馹驲𡆸𡉭𤝍𦨙𰽡𱓰𲇰"),
     ("Rong", "㘇㝐㣑㭜㲓㲝㲨㺎㼸䇀䇯䈶䘬䠜䡆䡥䢇䤊䩸傇冗坈媶嫆嬫宂容峵嵘嵤嶸巆戎搈搑曧栄榕榮榵"),
     ("Rong", "毧氄溶瀜烿熔爃狨瑢穁穃絨縙绒羢肜茙茸荣蓉蝾融螎蠑褣軵鎔镕駥髶𠌚𠞕𠰽𡊫𡊸𡖢𡦼𡫦𡭋𢐿"),
     ("Rong", "𢦿𢫨𣭲𣮪𣯍𣯏𣯐𣰇𣲽𤘺𤘻𥎂𥎜𥑳𥨳𥬪𥼬𦔋𦗋𦗨𦶇𧉡𧎣𨉴𨉷𨋠𨌣𨍅𨍷𨒆𨲟𩍉𩎂𩚗𩮠𩼅𪃾𪕁𪕎𪗴"), ("Rong", "𫞡冗荣𰹿𰽽𱅉𲆵"),
     ("Rou", "⺼⽱⾁㽥䐓䧷䰆厹媃宍揉柔楺渘煣瑈瓇禸粈糅肉腬葇蝚蹂輮鍒鞣韖騥鰇鶔𠠐𡗑𢔟𥠊𦍭𨛶𪑶𫐓"), ("Rou", "𫔄𬶧𱅟𱊗𱣑𲅂"),
     ("Ru", "⼊㐵㦺㨎㹘㾒䄾䋈䞕䰰乳侞儒入嗕嚅如媷嬬孺嶿帤扖擩曘杁桇汝洳渪溽濡燸筎縟缛肗茹蒘蓐"),
     ("Ru", "蕠薷蝡蠕袽褥襦辱邚鄏醹銣铷顬颥鱬鳰鴑鴽𠟺𡄲𡜃𡜚𡫽𡮚𢖵𢛚𣖹𣚐𣭠𣯋𣽈𣽉𥙦𥞚𦤊𦭰𦳾𦷸𧊟"), ("Ru", "𨚴𨨜𩄋𩍥𩱨𩶫𩶯𩸐𪏮𪑾𫛪𱇫𱈗"), ("Rua", "挼"),
     ("Ruan", "㓴㮕㼱㽭䎡䓴䙇䞂䪭偄堧壖媆撋朊瑌瓀碝礝緛耎軟輭软阮阮𠤦𢘧𢡵𢱾𣃅𣡗𣽳𤧠𤲬𥈇𥊶𥎀𥎘𥩗"), ("Ruan", "𥯬𦺾𨒩𨨰𨪳𨬔𩏈𬘰𬥻𰓷"),
     ("Rui", "㓹㢻㪫㲊䂱䄲䅑䇤䌼䓲䬐叡壡婑枘桵橤汭瑞甤睿緌繠芮蕊蕋蕤蘂蘃蚋蜹銳鋭锐𡯒𢣳𣛚𣬘𥳝𦼆"), ("Rui", "𧄜𨧨𨳙𪏩𮉫𮤯甤蕤𱃜"),
     ("Run", "㠈䏰䦞橍润潤瞤膶閏閠闰𠷀𥆧𨷎𩀋𬂀"), ("Ruo", "䐞偌叒婼嵶弱捼楉渃焫爇箬篛若蒻鄀鰙鰯鶸若𤍽𤣼𦩸𧃪𨀝𨴚若𱈍𱥣"),
     ("Sa", "㒎㚫㪪㽂䊛䙣䬃仨卅挱挲摋撒櫒泧洒潵灑脎萨薩虄訯躠鈒钑隡靸颯飒馺𠎷𠦃𠬙𠮿𠱡𠿓𡄳𡐥𡒁"), ("Sa", "𢓔𢕬𢫬𢻨𣀯𣜂𣬬𥋌𥵯𥸗𥻦𦠿𦻅𦼧𧀕𧭝𨃛𨆂𨐖𨷆𩆅𩎕𩐅𩗉𩗞𩨞𪠡𫂿𱂃𱅂𱗂"),
     ("Sai", "㗷㘔㩙䈢䚡䰄僿嗮嘥噻塞愢揌毢毸簺腮賽赛顋鰓鳃塞𡬉𦞫𪃄𫬐𱂲"), ("San", "㤾㧲㪔㪚䈀䉈䊉䫅䫩三仐伞俕傘厁叁壭帴弎散橵毵毶毿犙糁糂糝糣糤繖鏒鏾閐饊馓鬖𡙘𢁘𢕕"),
     ("San", "𣀧𣀫𣬛𣮠𣯶𥒬𦙱𦙸𦡨𦷻𦺻𧗋𧱆𧽾𨸃𩀲𩀼𩞀𩭹𩯑𫔌𬭝𬱬糣𰏕𰬷"), ("Sang", "䘮䡦䫙丧喪嗓搡桑桒槡磉褬鎟顙颡𡕏𡠏𣉕𣊝𣞙𤸯𥔫𦅇𦟄𧍨𨢆𩐷𩦌𩺞𪔬𫄪𬨑桒𱈎𱮒"),
     ("Sao", "㛮㥰㲧㿋䕅埽嫂慅扫掃掻搔氉溞瘙矂繅缫臊螦騒騷骚髞鰠鱢鳋𠋺𢔳𢜶𢠡𢤁𢮞𣉔𣰕𤠘𤢖𥰱𦏛𦕏"), ("Sao", "𦞣𦺋𦾘𧂩𧑫𧖠𨃣𨧪𨪊𩙈𩙰𩫦𩮚𪍻𫚫㛮掃繅𱝄"),
     ("Se", "⾊㒊㥶㱇㻭䉢䔼䨛啬嗇懎擌栜歮歰涩渋澀澁濇濏瀒琗瑟璱瘷穑穡穯繬色譅轖銫鏼铯閪雭飋𠎸"),
     ("Se", "𠟦𠟩𠢳𠵭𠽼𠿗𡫟𡵶𢀋𢃢𢡉𣚟𣽤𤁧𤖗𤛷𤾿𥈽𥱁𥷹𥻨𦆄𦐅𧈈𧒓𧒗𧨷𨆙𩃑𩄜𩇣𩊯𩍙𩏫𩕡𩰙𫄱𫗋𬈧𰶎"), ("Se", "𰺙"), ("Sen", "森椮槮襂𣟹𧂅𩕌𬞣𰴂"),
     ("Seng", "䒏僧鬙僧𡬙僧"), ("Sha", "㠺㰱㰼㲚㵤㸺䈉䝊䤬䬊乷倽傻儍刹剎厦唦唼啑啥喢嗄帹廈杀桬榝樧歃殺毮沙煞猀痧砂硰箑粆"),
     ("Sha", "紗繌纱翜翣莎萐蔱裟鎩铩閯霎魦鯊鯋鲨殺殺𠍽𠚺𡺧𢅑𢇗𢩖𢶌𢼵𣉜𣓉𣛶𣡽𣣮𣣺𣲓𣲡𣶤𣻑𤍁𤑣𤟃"),
     ("Sha", "𥈊𦀛𦔯𦔰𦕉𦩿𦭉𦱵𦾚𧋊𧏫𧫝𧲌𧳛𧻵𨖷𨘉𨪍𩊮𩮫𩵮𪄅𪌮𫍺𫚌𬂮𬉇𬡕𬮪𬸌𭰒殺𣻑𪄅𰭢𰰵𰾈𰿳𱋘"), ("Shai", "㩄㬠㴓䵘晒曬筛篩簁簛繺釃閷𢄌𧜁𨢦𩂃𩂝𩴇𬓸閷"),
     ("Shan", "⼭⼺㚒㡎㣌㣣㨛㪎㪨㰑㴸㶒㺑䀐䄠䘰䚲䠾䡪䥇䦂䦅䱇䱉䴮傓僐删刪剡剼善嘇圸埏墠墡姍姗嬗"),
     ("Shan", "山嶦幓彡扇挻搧擅敾晱杉柵椫樿檆歚汕潬潸澘灗炶煔煽熌狦珊疝痁睒磰笘縿繕缮羴羶脠膳膻"),
     ("Shan", "舢芟苫蟮蟺衫覢訕謆譱讪贍赡赸跚軕邖鄯釤銏鐥钐閃閊闪陕陝饍騸骟鯅鱓鱔鳝鿃𠚹𠫹𠿞𡟨𢒉"),
     ("Shan", "𢒹𢕻𢩢𢫔𢿈𣆴𣓒𣖉𣧺𣩧𣪶𣲀𤇄𤊼𤮜𤺪𥄘𥈚𥊀𥔱𥰢𥸣𦍸𦎞𦏂𦘹𦳫𦶋𦺭𧎥𧛄𧛡𧧵𧨾𧭽𧲾𧴭𧷶𨁆𨏪"),
     ("Shan", "𨝩𨝵𨹈𨹊𩁺𩆤𩆫𩌰𩟋𩦐𪍶𪑃𪯋𫍸𫐅𫟶𫮃𬊦𬌷𬶛𬹎善善㣣𰇼𰓔𰛛𰛩𰬪𱇞𱈁𱋆𱖒"),
     ("Shang", "䵰䵼丄上伤傷商垧墒尙尚恦慯扄晌殇殤滳漡熵緔绱蔏螪裳觞觴謪賞贘赏鑜鞝鬺𠼬𤎘𤔚𤳈𤵼𥏫"), ("Shang", "𧡮𧶜𨢩𨶼𩞃𩞧𪄲𫹽𬀷𬲰𱄇𱆌𱊥"),
     ("Shao", "㪢㲈㸛䈰䈾䏴䒚䔠䙼䬰劭勺卲哨娋少弰捎旓柖梢潲烧焼燒玿睄稍筲紹綤绍艄芍苕莦蕱蛸袑輎"),
     ("Shao", "邵韶颵髾鮹勺𠣫𠧙𠷃𡡏𢦽𢼼𢾐𤉎𤱠𥙬𥳓𥵦𦄏𦓴𦯐𦿃𧣪𧳹𨈘𨙹𨛍𨱭𨲆𩬏勺𰴖𱇯"),
     ("She", "⾆㓭㴇㵃䀅䄕䜓䞌䠶䤮䬷佘厍厙奢射弽慑慴懾捨摂摄摵攝檨欇歙涉涻渉滠灄猞畬畲社舌舍舎"),
     ("She", "蔎虵蛇蛥蠂設设賒賖赊赦輋韘騇麝社𠋞𠪣𠴯𠾏𡄢𢉃𢗭𢶅𣝒𣣭𣸚𤙱𤠭𤺔𥁹𥍉𥔡𥝀𥿞𦁗𦯬𦴍𦼢𧉮"), ("She", "𧮿𧵳𨝫𨣍𩂨𩂴𩙝𩩗𩮐𪨶𪳍𪽴奢捨檨𰰺𱂊𱅚"),
     ("Shei", "谁"), ("Shen", "⾝㑗㕥㚞㚨㜪㮱㰂㰮㵕㾕䅸䆦䯂䰠什伸侁侺兟呻哂堔妽姺娠婶嬸审宷審屾峷弞愼慎扟敒昚曋"),
     ("Shen", "曑柛棽椹榊氠沈涁深渖渗滲瀋燊珅甚甡甧申瘆瘮眒眘瞫矤矧砷神祳穼籶籸紳绅罙罧肾胂脤腎"),
     ("Shen", "莘葠蓡蔘薓蜃蜄裑覾訠訷詵諗讅诜谂谉身邥鋠頣駪魫鯓鯵鰰鰺鲹鵢沈什神慎𠂧𠃫𠗿𠘆𠻝𡖬𡼬"),
     ("Shen", "𢈇𢈯𢊖𢊲𢏎𢏦𢘊𢸙𣇗𣔗𣘘𣘲𣿇𤏗𤕊𤶴𥆣𥏖𥥍𥥿𥬐𥳱𥸬𦌀𦐹𦕽𦜊𦜜𦸂𦸯𦺷𧀯𧢹𨊘𨐍𨐔𨐕𨝐𨞲𨴐"), ("Shen", "𩉼𩶇𩺵𫓵𬬹𬳽𭡜慎𰄁𰗵𱇙𱵁𱽖"),
     ("Sheng", "⽣㗂㮐㱡㼳㾪䁞䚇䞉䪿䱆䲼䴤偗剩剰勝升呏圣墭声嵊憴斘昇晠曻枡栍榺橳殅泩渻湦焺牲狌珄"),
     ("Sheng", "琞生甥盛省眚竔笙縄繩绳聖聲胜苼蕂譝貹賸鉎鍟阩陞陹鵿鼪省盛𠇷𠓸𠓽𠴢𡞞𡨽𢦑𣢡𣬺𤚣𤯡𥘥"), ("Sheng", "𥟎𦔄𦕡𦖞𦛙𦩱𦳗𧍖𧡶𧪝𧿘𨁠𨕻𨚱𨜜𨲓𨵥𩍋𪅻𬂉𬸆𰑪𰷩𰽫𰾝𱰎"),
     ("Shi", "⺬⺭⺮⻝⻟⻠⼗⼠⼫⽒⽮⽯⽰⾗⾷㒾㔺㕜㖷㱁㳏㵓㸷㹝㹬㹷䁺䂖䂠䄷䈕䊓䌤䌳䏉䏡䒨䖨䗐䙾"),
     ("Shi", "䛈䟗䤭䤱䦹䩃䭄䲽䴓䶡世丗乨乭亊事仕佦使侍兘冟势勢匙十卋叓史呞呩嗜噬埘塒士失奭始姼"),
     ("Shi", "媞嬕实実室宩寔實尸屍屎峕崼嵵市师師式弑弒徥忕恀恃戺拭拾揓施时旹是昰時枾柹柿栻榁榯"),
     ("Shi", "氏浉湜湤湿溡溮溼澨濕炻烒煶狮獅瑡眂眎眡睗矢石示礻祏竍笶筮篒簭籂絁舐舓莳葹蒒蒔蓍虱"),
     ("Shi", "蚀蝕蝨螫褷襫襹視视觢試詩誓諟諡謚識识试诗谥豕貰贳軾轼辻适逝遈適遾邿酾釈释釋釶鈰鉂"),
     ("Shi", "鉃鉇鉈鉐鉽銴鍦铈食飠飾餙餝饣饰駛驶鮖鯴鰘鰣鰤鲥鲺鳲鳾鶳鸤鼫鼭拾識視視𠀍𠁗𠇳𠓤𠘪𠡥"),
     ("Shi", "𠥿𠩔𠯰𠰚𠰴𠷇𡀗𡂓𡅵𡉸𡚼𡟕𡠋𡣪𡫵𡰯𡱁𡶈𡷈𡺔𢀕𢁓𢂑𢃰𢝬𢧏𢨝𢺿𢻘𢻫𢼉𢼊𣁒𣆘𣏚𣤘𣧚𣬐𤆰𤉏"),
     ("Shi", "𤑦𤖻𤜣𤢼𤯄𤯜𤸤𤹌𥅔𥅞𥇲𥍸𥐘𥑏𥛨𥜰𥥥𥫴𥫽𥰰𥼶𥿅𦌿𦒈𦔂𦚨𦰯𦳊𦿇𧄹𧊖𧍀𧜂𧝊𧞲𧠜𧠡𧧅𧩹𧳅"),
     ("Shi", "𧵋𧻸𨒍𨒧𨙩𨟂𨱡𨴯𨸝𨽄𩋡𩒂𩗎𩛌𩛏𩥐𩬭𩭐𩰢𪀔𪊢𪓻𪓿𪗧𪶄𫀌𫄟𫗤𫚕𫟸𬕄𬖘𬡔𬤊𬬷𮸌䂖豕𰗨𰰳"), ("Shi", "𰳼𰾢𱛬"),
     ("Shou", "⺘⼿⾸㖟㝊㥅㧃䛵䭭兽収受售垨壽夀守寿手扌授收涭狩獣獸痩瘦綬绶膄艏鏉首龵𠈅𠱔𡭮𣒻𤙘"), ("Shou", "𤚔𤱜𥅪𥅷𥙰𥨝𥾹𦣻𧈙𧌅𧚯𧜃𧤙𧯼𧵃𨞪𨱒𩠶𩴍𪈀𫜷𬱯寿"),
     ("Shu", "⽎⿉⿏㑐㒔㛸㜐㡏㣽㫹㯮㵂㶖㷂㸡㻿㼡㽰㾁䃞䉀䑕䘤䜹䝂䝪䞖䠼䢞䢤䨹䩱䱙䴰书侸倏倐儵叔"),
     ("Shu", "咰塾墅姝婌孰尌尗属屬庶庻怷恕戍抒捒掓摅攄数數暏暑曙書朮术束杸枢树梳樞樹橾殊殳毹毺"),
     ("Shu", "沭淑漱潄潻澍濖瀭焂熟瑹璹疎疏癙秫竖竪糬紓絉綀纾署腧舒荗菽蒁蔬薥薯藷虪蜀蠴術裋襡襩"),
     ("Shu", "豎贖赎跾踈軗輸输述鄃鉥錰鏣陎隃鮛鱪鱰鵨鶐鸀黍鼠鼡數暑署輸𠊪𠐊𠘧𠙎𠲌𠾢𡂡𡊍𡒒𡔪𡣈𡤽"),
     ("Shu", "𡦛𡧔𡱆𢋂𢞣𢠫𢧇𣀻𣉛𣏗𣤯𣰿𣻚𤍓𤕟𤗪𤘷𤞉𤱐𤴙𤻃𥍝𥣋𥳕𥿇𦈌𦈷𦍄𦐣𦒶𦠦𦤂𦶕𦺗𦺪𧄔𧇝𧑓𧒑𧗱"),
     ("Shu", "𧜭𧞀𧞫𧠣𧼯𨁀𨅒𨐅𨔦𨛭𨶝𨷙𨽉𩛅𩢻𩳅𩷌𩾈𪅰𪌶𪐧𪢒𫉄𫌋𫝋𫝧𫿗𬬸𮳗庶書暑㶖秫𧼯輸𰡽𱇨"), ("Shua", "㕞刷唰耍誜𠛚𤔙𩈥𩉆𩤤𰵯𱝃"),
     ("Shuai", "㲤䢦卛帅帥摔甩蟀衰𠌭𢕅𢕑𣘚𣼧𤠠𤸬𤺀𧍓𧗿𧜠𨄮𩘱"), ("Shuan", "䧠拴栓涮腨閂闩𡭐𢩠𢮛𣔫𣟴𣠸𤅲𦺲𨄔𨏉"),
     ("Shuang", "㕠㦼䉶䌮䔪䗮䝄䫪双塽孀孇慡樉欆漺灀爽礵縔艭鏯雙霜騻驦骦鷞鸘鹴𠗾𡑽𥡠𥱶𥲚𦄍𦆌𧄐𧉐𧕟"), ("Shuang", "𧕺𧴅𨇯𩅪𩆿𩽧𪥫𫁷𫘭𬘾𮭪𮲮𰰋𰸇"),
     ("Shui", "⺡⺢⽔㥨㽷䬽䭨䳠帨水氵氺涗涚睡祱稅税脽裞誰閖𠻜𡯑𡱊𢇤𢏅𤆙𥌘𥫸𦙙𦣢𧀣𨓚𨿠𩟥𩩞帨裞"), ("Shun", "㥧䀢䀵䑞䴄吮橓瞚瞬舜蕣順顺鬊𨝜𨺠"),
     ("Shuo", "㮶䀥䁻哾妁搠朔槊欶烁爍獡矟硕碩箾蒴說説说鎙鑠铄說說𠲾𠲿𣀝𣝇𣷥𣸛𣻘𤡯𤢴𥌞𦂗𦃗𦋞𨨺𩟧"), ("Shuo", "𪎒𫔈𪎒"),
     ("Si", "⺒⺯⺰⼛㒋㕽㚶㟃㠼㣈㭒㴲㸻㹑㺇㺨㽄䇁䇃䎣䏤䔮䡳䦙䫢䲉丝亖似佀価俬儩兕凘厮厶司咝嗣"),
     ("Si", "嘶噝四姒娰媤孠寺巳廝思恖撕斯杫柶楒榹死汜泀泗泤洍涘澌瀃燍牭磃祀禗禠禩私竢笥籭糹絲"),
     ("Si", "緦纟缌罳耜肂肆蕬蕼虒蛳蜤螄蟖蟴覗貄釲鈶鈻鉰銯鋖鐁锶颸飔飤飼饲駟騦驷鷥鸶鼶飼𠀓𠋡𠖓"),
     ("Si", "𠭈𠳎𡡒𢊀𢍭𢛥𢠹𢦲𣂖𣙼𣚄𣣑𣩠𣱻𣽷𤆟𤣵𤱸𥄶𥐀𥒲𥕶𥙉𥝠𥠱𥯨𥹊𦇲𦇵𦭡𦮺𦸷𦽕𧀚𧀩𧝤𧣛𧱅𧳙𨮭"), ("Si", "𨽼𩅰𩆵𩵗𩸟𩺛𪆁𪆗𪊍𪕳𪖉𫟳𬝊𬠐𬢊𬭀𬲦𰂭𰾴𱈒𱎠"),
     ("Song", "㞞㣝㧐㨦㩳㮸䉥䛦䜬䢠䯳䯷倯傱凇娀宋崧嵩嵷庺忪怂悚愯慫憽松枀枩柗梥楤檧淞濍硹竦耸聳"),
     ("Song", "菘蜙訟誦讼诵送鍶鎹頌颂餸駷鬆𠳼𡇝𡷽𡾼𢓣𢔋𢖗𢤄𢱤𣚜𣽫𤾥𥳺𦯕𦷴𧊕𧌻𨠤𨱛𨱿𨴏𩃍𩃭𩠌𩩺𪀚"), ("Song", "𪨊𬲪𰁧𰎌𱅔𱉣𲆩"),
     ("Sou", "㛐㟬䈭䈹䉤䏂䐹䑹䗏䤹䩳䬒䮟䱸傁凁叜叟嗖嗽嗾廀廋捜搜摉摗擞擻櫢溲獀瘶瞍籔艘蒐蓃薮藪"),
     ("Sou", "螋鄋醙鎪锼颼颾飕餿馊騪搜醙𠋢𠌞𠌟𠘂𠝬𠪇𡠼𡣂𢲷𢴼𣔱𣮬𣯜𤕇𥈟𥖻𥯪𦺌𧔅𧳶𧽏𨡻𨤇𨺦𩗣𩘠𩙫"), ("Sou", "𩨄𩮃𩮶𩮸𫠑叟𰘸𰮲"),
     ("Su", "㑉㑛㓘㔄㕖㜚㝛㢝㨞㪩㬘㯈㲞㴋㴑㴼䃤䅇䌚䎘䏋䑿䔎䛾䥔䲆俗傃僳嗉囌塐塑夙嫊宿愫愬憟梀"),
     ("Su", "榡樎樕橚櫯殐泝洬涑溯溸潚潥玊珟璛甦碿稣穌窣簌粛粟素縤肃肅膆苏莤蔌藗蘇蘓觫訴謖诉谡"),
     ("Su", "趚蹜速遡遬酥鋉餗驌骕鯂鱐鷫鹔𠐍𡎮𡖯𢋈𢎎𢖏𢚑𢢒𢸫𣝝𣩷𣫎𣯼𣶘𣷶𣿈𤌂𤛝𤠚𤡃𤢂𤢘𤤐𤥔𤭴𤸮"),
     ("Su", "𤼀𦌉𦌊𦎄𧀌𧐁𧐒𧐴𧔖𧜦𧞺𧥆𧩝𧺷𧼭𧽷𨱈𩐫𩐼𩘰𩘹𩙨𩝥𩲵𩳒𪁽𪄑𪅄𪋝𪌔𪍛𪐮𪖶𫂙𫗧𫣫𫾃𬒕𬚄𬣷"), ("Su", "𰗹𰘶𰢄𱇿"),
     ("Suan", "䝜匴狻痠祘笇筭算蒜酸𠥘𤶤𥳪𥴵𦾹𨠡𩆑𩈲𪘑𪘝"), ("Sui", "⼢㒸㞸㥞㴚㵦㻟㻪㻽䅗䉌䍁䔹䜔䠔䡵䢫䥙䧌䪎䭉䯝亗倠哸埣夊嬘岁嵗旞檖歲歳浽滖澻濉瀡煫"),
     ("Sui", "熣燧璲瓍眭睟睢砕碎祟禭穂穗穟綏繀繐繸绥膸芕荽荾虽襚誶譢谇賥遀遂邃鐆鐩隋随隧隨雖鞖"),
     ("Sui", "韢髄髓𠌱𠕸𠨌𠭥𡑞𡝓𡶣𡷼𡹖𡻕𢅕𢇥𢈼𢒱𢟩𣄧𣩡𣮄𣯯𤡪𤬫𤯖𤻄𥊴𥕸𥢍𥤼𥴦𥶻𦃒𦄑𦅵𦇀𦉎𦵭𦸏𧃚"),
     ("Sui", "𧈧𧌢𧡏𧨧𧲈𧸙𨆏𨣢𨷃𨾡𨾬𩃃𩌩𩍚𩎰𩏘𩏚𩏲𩗶𩙇𩝌𩞅𩮴𫟦𬘼𬭼𬰶𬳅𮉮歲𰬸𰷤"), ("Sun", "㔼㦏䁚䐣孙孫损損搎榫槂狲猻笋筍箰簨荪蓀蕵薞鎨隼飧飱鶽𠣬𣕍𦠆𧎤𬁽𰓧𱊛"),
     ("Suo", "㛖㪽㮦䂹䅴䈗䐝䓾䔋䖛䞆䞽䣔䯯䵀乺傞唆唢嗍嗦嗩娑惢所摍暛桫梭溑溹琐琑瑣璅睃簑簔索縮"),
     ("Suo", "缩羧莏蓑蜶褨趖逤鎈鎍鎖鎻鏁锁髿鮻索𠈱𠋲𠗼𠘺𠝿𠞯𠩄𠱗𡩡𡱳𢘿𢚭𢱡𢱢𢷾𣒹𣯌𤀤𤸴𤺫𥁲𥆝𥇇"),
     ("Suo", "𥔭𥰼𦅊𦟱𦵫𧎫𧎳𧛻𧨀𧴪𧴲𨻈𨻨𩋝𩌆𩌈𩌢𩘝𩙭𩡾𩪈𩮛𩹳𪍌𪍔𪍟𪍨𫔅𫠦𫦁𫼶𬭲𭕆𠘺璅𦵫𰬱𱇳"),
     ("Ta", "㒓㗳㛥㣛㣵㧺㭼㯓㯚㳠㹺㺚㿹䂿䈋䈳䌈䍇䍝䎓䑜䑽䓠䜚䳴䵬䶀䶁他侤咜嚃嚺塌塔墖她它崉拓"),
     ("Ta", "挞搨撻榙榻橽毾涾溻澾濌牠狧獭獺祂禢褟誻譶趿踏蹋蹹躢遝遢錔铊闒闥闧闼阘鞜鞳鮙鰨鳎鿎"),
     ("Ta", "拓𠉂𠴲𠷍𡌩𢃕𢞠𢺉𣗶𣝋𣥂𣥷𣯚𤄥𤒻𤛣𤠐𤠟𤿽𥗓𦈖𦍒𦐇𦑇𦑲𦑶𦑼𦧛𦧞𦧟𦧥𦧱𦨎𦪙𦭟𦱆𦶑𦾽𧌏𧔣"),
     ("Ta", "𧖆𧪦𧮑𨃚𨆰𨌭𨓬𨔯𨙎𨰏𨵝𨶀𨸉𩋅𩌇𩌉𩌐𩌘𩎽𩥑𩨌𩫊𩷽𩺗𪂌𪔕𪘁𪹹𬣢𬤕𬤪𮹝獺𰤨𰵸𰾓"),
     ("Tai", "㑷㒗㘆㙵㣍㥭㬃㷘㸀䈚䑓䣭儓冭台囼坮太夳嬯孡忲态態抬擡旲枱檯汰泰溙炱炲燤箈籉粏肽胎"), ("Tai", "臺舦苔菭薹跆邰酞鈦钛颱駘鮐鲐𡇷𡒢𢖤𣣿𤗿𦒰𧉑𧉟𧭏𧮼𩬠𩿡𪐥𪒴𱃗"),
     ("Tan", "㘱㛶㨏㫜㲜㲭㳩㴂㵅㷋㽎㽑䃪䆱䉡䊤䏙䐺䑙䕊䗊䜖䞡䦔倓傝僋叹嗿嘆坍坛坦埮墰墵壇壜婒忐"),
     ("Tan", "怹惔憛憳憻探摊擹攤昙暺曇榃檀歎毯湠滩潭灘炭燂璮痑痰瘫癱碳磹罈罎舑舕菼藫袒襢覃談譚"),
     ("Tan", "譠谈谭貚貪賧贪郯醈醓醰鉭錟钽锬顃餤嘆𠫶𠻪𡅄𡊨𢅀𢇧𢇰𣁗𣞔𣢌𣴽𣵢𣸙𣼚𣽯𤎥𤐔𥩒𥰨𥹠𥼟𥼮"),
     ("Tan", "𦃖𦌪𦗡𦙇𦧏𦧴𦨸𦸁𦼎𧂇𧣁𧣹𧥞𧫿𧰘𧺟𧽼𨁴𨂞𨅍𨝸𨡍𨣕𩑰𩒢𩖖𩠽𩡄𩡝𩤞𩪺𪉧𪍵𫟢𬈁𬤂嘆䏙炭𰇲"), ("Tan", "𰰆𰶉𱃿𱮜"),
     ("Tang", "㑽㒉㓥㙶㜍㭻㲥㼒㼺㿩䅯䉎䌅䕋䞶䟖䠀䣘䧜伖倘偒傏傥儻劏唐啺嘡坣埫堂塘帑戃搪摥曭棠榶"),
     ("Tang", "樘橖汤淌湯溏漟烫煻燙爣瑭矘磄禟篖糃糖糛羰耥膅膛蓎薚蝪螗螳赯趟踼蹚躺鄌醣鎕鎲鏜鐋钂"),
     ("Tang", "铴镋镗闛隚鞺餳餹饄鶶鼞糖𠗶𠢃𠹔𡿓𢠵𢴳𢻿𣎲𣙟𤚫𤠯𤾉𥋡𦪀𦳝𧱵𨆉𨉱𨌩𨍴𨎋𨎖𨲗𨶈𩘜𩥁𩹶𪕹"), ("Tang", "𬊵𬦅𬳍𭧋𮛗唐𰑿𰤓𰥹𰰢𰾯𰿺𱊝𱿫𲉅"),
     ("Tao", "㚐㣠㫦㹗䀞䄻䈱䑬䚯䛌䛬䤾䬞䵚匋咷啕夲套嫍幍弢慆掏搯桃梼槄檮洮涛淘滔濤焘瑫祹絛綯縚"),
     ("Tao", "縧绦绹萄蜪裪討詜謟讨轁迯逃醄鋾錭陶鞀鞉鞱韜韬飸饀饕駣騊鼗啕絛𠇏𠓝𠗆𠚜𠞞𠬢𡍒𡺫𢔇𣨔"),
     ("Tao", "𣰺𣺮𤘸𤙎𤚟𤴻𤵟𥰜𦍷𦺰𨌨𨡒𩎢𩏾𩘿𩙧𩛽𩥅𩹴𪌼𫘦𬘺𬣥𬤁𬳊𮶃𮷝弢弢𰵜𰵽𰾏𱅏𱅣"), ("Te", "㥂㧹忑忒慝特蟘貣鋱铽𠈸𢘋𣘱𤙰𥊸𥌩𫋌𰷞"),
     ("Teng", "䒅䕨䠮䲍䲢儯幐滕漛熥疼痋籐籘縢腾膯藤虅螣誊謄邆霯駦騰驣鰧鼟𢚺𢟱𢥂𣽨𤃶𤳘𤹤𥉋𦡪𦪝𦫀"), ("Teng", "𧈜𧭔𨃗𩩻𩴝𪒿𪔶𬧃𬹘𰲂"),
     ("Ti", "㔸㖒㗣㡗㣢㬱㯩䅠䌡䎮䏲䔶䖙䙗䚣䛱䢰䨑䪆䬫䬾䯜䱱䴘䶏䶑体倜偍剃剔厗啼嗁嚏嚔屉屜崹徲"),
     ("Ti", "悌悐惕惖惿戻挮掦提揥擿替朑梯楴歒殢洟涕漽瑅瓋碮禵稊笹籊綈緹绨缇罤苐荑蕛薙蝭裼褅褆"),
     ("Ti", "謕趧趯踢蹄蹏躰軆逖逷遆醍銻鍗锑題题騠骵體髰鬀鮧鮷鯷鳀鴺鵜鶗鶙鷈鷉鷤鹈𠞄𡥩𡰎𡲕𡲿𡸑"),
     ("Ti", "𢝹𢞖𢧑𢱦𢳓𣄍𣈡𣉆𣖅𣖸𣜹𣤖𣧂𣨼𣸒𣹲𤗘𤗢𤚢𤟥𤟾𤭌𥉈𥉘𥡦𥫵𥳳𥶛𦌢𦻀𧀠𧀰𧋘𧔩𧙣𧛒𧝆𧝐𧡨𧨱"), ("Ti", "𧼮𨁃𨔛𨠏𨪉𨲎𨲞𨴼𩋣𩓂𩛑𩛶𩝊𩤽𩬲𩮜𩿷𪍲𪕩𪖦𫘨𫛴𫛸𫪺𬲻𬶕𬶤𰨖𱉩𱊕"),
     ("Tian", "⽥㐁㖭㙉㥏㧂㬲㮇㶺䀖䄼䄽䋬䐌䑚䚶䟧䠄䡒䡘䥖䧃倎兲唺塡填天婖屇忝恬悿掭搷晪殄沺淟添"),
     ("Tian", "湉琠瑱璳甛甜田畋畑畠痶盷睓睼碵磌窴緂胋腆舔舚菾覥觍賟酟鈿錪鍩闐阗靔靝靦餂鴫鷆鷏黇"),
     ("Tian", "鿬瑱磌𠗘𡒧𡙒𢇶𢓍𣊖𤘠𤤦𤫞𤲖𥧑𥪌𥪧𥳫𥵶𦊊𦔿𦗀𦗁𦧒𦧖𦧝𦬞𦳇𧉂𧌎𧨩𧨸𧰊𧹖𨆁𨉾𨌈𨡁𨡏𨸱𨹻"), ("Tian", "𩈍𩉁𩚣𪅉𪌩𪎾𫐍𬨉𬭓𮴿瑱磌𥪧𥪧𰬧𰾻𱃺𱊚"),
     ("Tiao", "㟘㬸㸠䒒䖺䟭䠷䩦䯾䱔佻嬥宨岧岹庣恌挑斢旫晀朓条條樤眺祒祧窕窱笤粜糶絩聎脁芀萔蓚蓨"),
     ("Tiao", "蜩螩覜誂趒跳迢鋚鎥鞗髫鯈鰷鲦齠龆窱𠛪𠤺𠧪𡠊𡯿𡳏𢈄𢓝𢖈𢳙𢺫𣂁𣂥𣒼𣟐𣬸𥎺𥶏𦩄𦴚𧌁𨋫𨾾"), ("Tiao", "𩲤𪌪𫍥𬢋𰩏𱇱𱸥"),
     ("Tie", "䥫䩞䴴䵿僣呫帖怗聑萜蛈貼贴銕鐡鐵铁飻餮驖鴩𢶋𤝓𦝒𦧢𦧤𪎋𬴋"), ("Ting", "㓅㹶㼗䅍䋼䗴䦐䯕䱓䵺亭侹停厅厛听圢娗婷嵉庁庭廰廳廷挺桯梃楟榳汀涏渟烃烴烶珽町甼筳"),
     ("Ting", "綎耓聤聴聼聽脡艇艼莛葶蜓蝏誔諪邒铤閮霆鞓頲颋鼮𠄚𠕊𠘋𡈼𡔛𢬫𢽄𣂴𣄿𣉡𤗞𤘖𤱹𥆑𥑈𥥶𥫙"), ("Ting", "𥴑𦉬𦐿𦕢𦗟𦝞𧓴𧖨𧰩𧶺𨁗𨉬𨊡𨓍𨳑𨳝𨸁𩆆𩐴𩑙𩒞𩨑𩹇𪊶𫄮𬘩𬣻𬶓"),
     ("Tong", "㛚㠉㠽㣚㤏㪌㸗㼧㼿䂈䆚䮵䳋䴀䶱仝佟僮勭同哃嗵囲峂峝庝彤恸慟憅捅晍曈朣桐桶樋橦氃浵"),
     ("Tong", "潼炵烔燑犝狪獞痌痛眮瞳砼秱穜童筒筩粡統綂统膧茼蓪蚒衕詷赨通酮鉖鉵銅铜餇鮦鲖𠖄𡠙𡦜"),
     ("Tong", "𢄟𢈉𢏕𢓘𢳟𣌾𣑸𣪯𣻢𤱇𥦁𥩌𥫂𥲆𦏆𦒍𦨴𧇌𧊚𧋒𧋚𧌝𧳆𧳿𨀜𨈹𨚯𨜳𨝯𨠌𩍅𩩅𩻡𪀭𪌢𫍣𮲄𰽶𱍇𱝉"), ("Tong", "𲎆"),
     ("Tou", "⼇㓱㖣㢏㪗㳆㼥䕱䚵䞬䟝䱏䵉亠偷偸头妵婾媮投敨紏綉緰蘣透鋀鍮頭飳骰黈𡇧𡷠𣛾𣪌𦈕𧺢𨔙"), ("Tou", "𨯲𨱎𨷩𩜶𩿢𪁞𪉘𪌘𪎨𬣟𱄁𱋍"),
     ("Tu", "⼟㟮㭸㻌㻠㻬㻯䅷䖘䛢䞮䠈䣄䣝䤅䩣䳜兎兔凃凸吐唋図图圕圖圗土圡堍堗塗宊屠峹嵞嶀庩廜"),
     ("Tu", "徒怢悇捈捸揬梌汢涂涋湥潳痜瘏禿秃稌突筡腯荼莵菟葖蒤跿迌途酴釷鈯鋵鍎钍馟駼鵌鵚鵵鶟"),
     ("Tu", "鷋鷵鼵突𠊲𠞀𠟶𠫓𠫮𠳶𠸂𠻬𡇩𡸂𡺴𢝀𢬳𣅝𣈥𣒇𣔻𣥳𣲱𤙛𤟪𤷿𥂋𥥛𥧣𥨜𥯝𦔅𦝬𦩤𧛗𧧶𧳌𨑒𨙭𨝛"), ("Tu", "𨨷𨱄𨴩𩣮𩥽𩸃𩾅𪉍𪑏𫛬𬳿兔圖圗堍屠𱉸𱊆𱊖𱊠𱊩𱖖"),
     ("Tuan", "㩛䊜䜝䝎䵊䵎䵯剸团団團彖慱抟摶槫檲湍湪漙煓猯疃篿糰褖貒鏄鷒鷻𡁴𢣎𣏢𣑝𣶣𤱝𧐕𧓘𧰄𧳩"), ("Tuan", "𧽢𨪒𩃘𩘯𩜵𩠊𩠹𪈋𪏖𬇘𬤬𬦆𰄞𰑁𰩮𰪫𰪶𱉏"),
     ("Tui", "㞂㞜㢈㢑㥆㱣㷟㾼㿉㿗䀃䅪侻俀僓娧尵弚推煺穨腿蓷藬蘈蛻蜕褪蹆蹪退隤頹頺頽颓駾骽魋𠺙"),
     ("Tui", "𡯵𡷜𢉭𢊮𢓇𢟴𢠮𤍐𤗴𤸉𤻊𥢢𥲣𥶐𦖦𦜄𧆸𧝋𧮓𨆨𨌴𨗞𨘃𨽟𩓬𩘺𩙬𩳕𪨇𫵒𬓼𬞘𬤱𬯎𮱣侻娧駾𰂜𰣶"), ("Tui", "𰲁𰸞𱅙"),
     ("Tun", "㖔㧷㩔㬿㹠㼊吞呑啍噋坉屯忳旽暾朜氽涒焞畽臀臋芚豘豚軘霕飩饨魨鲀黗𠭿𡉒𢞋𢥽𣋄𣵞𤶕𥴫"), ("Tun", "𥸵𦍓𦜯𦜴𦟓𦟙𧑒𧰭𨁇𨙲𨧐𨳘𨹙𩂄𩖤𩷵𪌋𪎴𪎶𪏆𪑒𰹸𰾇"),
     ("Tuo", "㟎㸰㸱㼠㾃䍫䓕䜏䡐䪑䭾䰿䴱乇仛佗侂咃唾圫坨堶妥媠嫷岮庹彵托扡拕拖挩捝杔柁柝椭楕槖"),
     ("Tuo", "橐橢毤毻汑沰沱沲涶狏砣砤碢箨籜紽脫脱莌萚蘀袉袥託讬跅跎迱酡陀陁飥饦馱駄駝駞騨驒驝"),
     ("Tuo", "驮驼鬌魠鮀鰖鴕鵎鸵鼉鼍鼧鿳鿸𠈁𠰹𠴻𡐏𡛵𡩆𡹬𢄿𢏜𢑠𢓰𢩷𢩻𢸨𣗸𣟁𣟄𣮆𣶦𣷿𤝛𤣯𤤩𤱡𤱧𤹢"),
     ("Tuo", "𥓿𥞒𥩀𦑑𦚈𦚐𦝦𧔳𧕦𧜲𧣖𧤓𧦭𧧉𧿧𧿶𨁡𨂫𨈷𨉋𨒙𨞌𨹔𨺖𩃰𩃱𩅡𩉺𩎼𩟰𩢊𩢵𩧐𩱾𩿽𪌂𪘕𪘗𪨹𫍡"), ("Tuo", "𫘞𫚛𫜒𫟤𬠷𬴎𬶍𰦿𰬉𰶇𱅛𱇏𱉻𱐛𱖰𱘲𱶻"),
     ("Wa", "⽡㧚㼘䍪䎳䚴䠚䨟䯉䵷佤劸咓哇嗗嗢娃娲媧屲挖搲攨洼溛漥瓦瓲畖砙穵窊窪聉腽膃蛙袜襪邷"),
     ("Wa", "韈韤鼃嗢𠴺𠹁𡁌𡚟𡧗𣐎𣢉𣢚𤞇𤬦𤬿𤮰𤿗𥤺𥥟𥿉𦘵𦚩𦞭𦤙𦫪𧧊𨀄𨩶𩨚𩨾𩩤𩿺𬘚𱌃𱗉"), ("Wai", "㖞㗏䠿䴜䶐喎外夞崴歪竵顡𠨃𠰻𢱉𤟷𤤫𤷹𦘍𨂿𨈕𨵞𩔀𩕕𪉭𪑷𱐿𱿯"),
     ("Wan", "㘤㜶㝴㸘㽜㿸䅋䑱䖤䗕䘎䘼䛃䛷䝹䩊䯈䯛䳃万丸倇刓剜卍卐唍埦塆壪婉婠完宛岏帵弯彎忨惋"),
     ("Wan", "抏挽捖捥晚晥晩晼杤梚椀汍湾潫澫灣烷玩琓琬畹皖盌睕瞣碗笂紈綩綰纨绾翫脕脘腕芄菀萖萬"),
     ("Wan", "薍蜿蟃豌貦贃贎踠輐輓鋄鋔錽鎫頑顽𠒢𠝪𠠪𠣉𡆅𡇿𡤶𡩄𡸥𢀗𢓃𢓆𢛙𢨔𢯲𢺯𣡩𣥃𤗍𤥙𤧩𤻆𥆶𥝄"),
     ("Wan", "𥟶𥤸𦂔𦙵𦜐𦣾𦲯𦽞𧚇𧠆𧯡𧲦𧹗𧿙𨂺𨈊𨉝𨌔𨞼𨥧𨩯𨩵𨩻𩅦𩈬𩊁𩢄𩣵𩧻𩾞𪂦𪂧𪋅𪎛𪐬𪑉𫓸𬇕𬨈𮱐"), ("Wan", "𮲚丸挽𰷡𰺇𱁞𲥂"),
     ("Wang", "⺏⺐⺲⺴⼪⽹㓁㲿㳹㴏䋄䋞䒽䤑䰣亡亾仼兦妄尢尣尩尪尫彺往徃徍忘惘旺暀望朢枉棢汪瀇王"),
     ("Wang", "盳網网罒罔莣菵蚟蛧蝄誷輞辋迋魍龬惘望𠕿𡔞𡝝𡯁𡷢𢁶𢛛𢼟𣢫𣥊𣶈𣷪𤷀𥆚𥆜𥲠𥾼𦓋𦖉𦣦𦣩𦬣"), ("Wang", "𦯌𧈿𧎕𧧄𧧜𧫢𨕿𨳠𩖩𩵭𪁘𫍬尢望王"),
     ("Wei", "⻙⼞⾱㕒㖐㙎㙔㙗㛱㞇㞑㟪㠕㣦㣲㥜㦣㨊㬙㭏㮃㱬㷉䃬䇻䈧䉠䊊䋿䍴䍷䑊䔺䗽䘙䙟䙿䜅䜜䝐"),
     ("Wei", "䞔䡺䥩䦱䧦䪋䪘䫋䬑䬿䭳䮹䲁䴧䵋䵳为亹伟伪位偉偎偽僞儰卫危厃叞味唯喂喡喴囗围圍圩墛"),
     ("Wei", "壝委威娓媁媙媦寪尉尾屗峗峞崣嵔嵬嶶巍帏帷幃廆徫微惟愄愇慰懀捤揋揻撱斖暐未桅梶椲椳"),
     ("Wei", "楲欈沩洈洧浘涠渨渭湋溈溦潍潙潿濰濻瀢炜為烓煀煒煟煨熭燰爲犚犩猥猬玮琟瑋璏畏痏痿癓"),
     ("Wei", "硙碨磈磑維緭緯縅纬维罻胃腲艉芛苇苿荱菋萎葦葨葳蒍蓶蔚蔿薇薳藯蘶蜲蜼蝛蝟螱衛衞褽覣"),
     ("Wei", "覹詴諉謂讆讏诿谓踓躗躛軎轊违逶違鄬醀鍏鍡鏏闈闱隇隈隗霨霺韋韑韙韡韦韪頠颹餧餵饖骩"),
     ("Wei", "骪骫魏鮇鮠鮪鰃鰄鲔鳂鳚𠄿𠆟𠙕𠥎𠳿𠹤𡂗𡇦𡔱𡚈𡶎𡷕𡼱𢉝𢊯𢍚𢙓𢣘𢯷𢲴𢸦𢼸𢾁𣄺𣈎𣨙𣩪𣫪𣲗"),
     ("Wei", "𣽴𤀷𤁿𤛲𤜂𤸆𤺉𤻅𤼒𥅵𥉖𥊪𥌰𥒮𥧙𥯜𥯤𥶽𦇅𦈓𦓽𦝛𦠻𦢿𦩝𦩬𦪒𦳢𦾛𧍥𧍫𧐌𧒭𧔥𧕞𧚷𧛚𧝕𧞸𧟼"),
     ("Wei", "𧢒𧢧𧤖𧲄𧲗𧲝𧳞𧳪𧴖𧸽𨃄𨖿𨗨𨚘𨝀𨟗𨠥𨢉𨪈𨱖𨴓𨵋𨻒𨾂𨿭𩀣𩀶𩁌𩋾𩎵𩏉𩏏𩏿𩑵𩗘𩗜𩜧𩟟𩠯𩤸"),
     ("Wei", "𩨅𩲂𩲄𩴞𩹂𩹥𩹷𩼂𩼌𩽎𪂄𪑐𪑭𪭝𫁳𫇭𫌭𫐕𫗪𫗭𫢭𫰍𫹴𬀩𬉋𬊺𬙭𬣀𬣩𬬬𬱟𬱵𬶏𭏸𮧵𮰔𮶔㬙䈧䧦"), ("Wei", "𰆕𰉘𰌷𰎢𰣦𰳚𰹲𰻦𰾚𰿫𱇛𱈃"),
     ("Wen", "⽂㗃㝧㡈㬈㼔䎹䎽䐇䘇䰚刎匁吻呚呡問塭妏彣忟抆揾搵文昷桽榅榲殟汶渂温溫炆玟珳瑥璺瘒"),
     ("Wen", "瘟稳穏穩紊紋纹聞肳脗芠莬蕰蚉蚊螡蟁豱輼轀辒鎾閺閿闅闦问闻阌雯鞰顐饂馼駇魰鰛鰮鳁鳼"),
     ("Wen", "鴍鼤瘟𠐢𡁋𢾿𣜺𣶌𤛁𤵒𥁕𥃮𥦊𥧚𥬼𦝮𦟕𦦯𦮶𨆲𨜵𨟸𨶭𨸩𩢌𩥈𩭋𪉃𪉸𫘜𫜊𬏫𬱢𬸀𮹌㬈殟穏"),
     ("Weng", "㘢㜲㮬㹙㺋䈵䐥䩺䱵勜嗡塕奣嵡攚暡滃瓮甕瞈罋翁聬蓊蕹螉鎓鶲鹟齆𠰈𡍻𡩥𡻐𤌏𥕀𦞡𦧅𧚐𧛹"), ("Weng", "𨜺𨞑𩄘𩔚𩡓𩮬𩰎𬭩𮬢𱭰"),
     ("Wo", "㠛㦱㧴㱧㹻䀑䁊䂺䠎䮸䰀仴倭偓卧唩婐媉幄我挝捰捾握撾擭斡枂楃沃涡涴涹渥渦濣焥猧瓁瞃"),
     ("Wo", "硪窝窩肟腛臒臥莴萵蜗蝸踒雘齷龌𠪧𠷏𠿟𡁮𡎔𡑟𡖲𢦴𢫷𣁳𣂽𣇫𣚝𤆏𤉦𤡓𤻌𥄗𥑣𥟿𥪍𦤨𦯏𦰖𦳹"), ("Wo", "𦷵𧤒𧥋𧶕𨁟𨌝𩈱𩐦𩟓𩭏𩭝𩮑𩷯𪁕𪎤𫡬𬳸𰡏"),
     ("Wong", "𥦷"), ("Wu", "⺎⺑⽆⽏㐅㐳㑄㒇㡔㬳㮧㵲㷻㹳㻍㽾䃖䉑䍢䎸䑁䒉䓊䖚䛩䜑䟼䡧䦍䦜䨁䫓䮏䳇䳱乄乌五仵伆"),
     ("Wu", "伍侮俉倵儛兀剭务務勿午卼吳吴吾呉呜唔啎嗚圬坞塢奦妩娪娬婺嫵寤屋屼岉峿嵍嵨巫庑廡弙"),
     ("Wu", "忢忤怃悞悟悮憮戊扤捂摀敄无旿晤杇杌梧橆歍武毋汙汚污洖洿浯溩潕烏焐無熃熓物牾玝珷珸"),
     ("Wu", "瑦璑甒痦矹碔祦禑窏窹箼粅舞芜芴茣莁蕪蘁蜈螐蟱誈誣誤譕诬误躌迕逜邬郚鄔鋈錻鎢钨铻阢"),
     ("Wu", "隖雺雾霚霧靰騖骛鯃鰞鴮鵐鵡鶩鷡鹀鹉鹜鼯鼿齀兀侮𠒄𠘻𠛆𠞆𠥢𠯃𠵦𠼘𡈎𡈞𡬫𡯇𡵉𡷤𢁢𢃀𢄓"),
     ("Wu", "𢋹𢑟𢓲𢗳𢙁𢜮𢝴𢨂𢩈𢫸𣟒𣨓𣬽𣯎𣲘𣺀𤆡𤣬𤭑𤵐𤸼𥁡𥎈𥎮𥏒𥒀𥕻𥟽𥭠𥲐𥾕𦆞𦌬𦎦𦥁𦨉𦨳𦬂𦶀𦷽"),
     ("Wu", "𦼇𧆹𧈭𧎻𧐙𧑕𧨆𧰈𧳎𧴇𧺴𧽋𨂣𨑥𨖴𨡡𨧗𨨡𨲬𨶇𨼊𨿏𩄯𩒾𩓦𩗽𩝕𩝷𩠟𩳌𩵱𩶭𩻚𪄝𪑱𫁲𫛦𬮻𬶉侮"), ("Wu", "𡷤洖茣𰏓𰓆𰙋𰢢𰲟𰲫𱉞𱖫𱣂𱩉𱳳"),
     ("Xi", "⻃⻄⼖⼣㑶㓾㔒㕃㕧㗩㗭㘊㙾㚀㚛㛓㛫㛭㜎㜯㠄㣟㤸㦦㦻㩗㪧㬛㭡㮩㯕㰥㰿㱆㱤㲸㴧㶉㸍㺣"),
     ("Xi", "㽯㾷㿇㿽䀌䁯䂀䈪䊠䏩䏮䐅䐖䐼䒁䒊䓇䖒䖷䙵䚫䛊䛥䜁䢄䧍䨳䫣䬣䭒䮎䲪䳶䵱䶋习係俙傒僖"),
     ("Xi", "兮凞匸卌卥厀吸呬咥唏唽喜喺嘻噏嚱囍墍壐夕奚媳嬆嬉屃屖屣屭嵠嶍嶲巇希席徆徙徯忚忥怬"),
     ("Xi", "怸恄恓息悉悕惁惜慀憘憙戏戱戲扱扸昔晞晰晳暿曦析枲桸椞椺榽槢樨橀橲檄欯欷歖氥汐洗浠"),
     ("Xi", "淅渓溪滊漇漝潝潟澙烯焁焈焟焬煕熂熄熈熙熹熺熻燨爔牺犀犔犠犧狶玺琋璽瘜皙盻睎瞦矖矽"),
     ("Xi", "硒磎磶礂禊禧稀稧穸窸粞糦系細綌緆縘縰繥繫细绤羲習翕翖肸肹膝舃舄舾莃菥葈葸蒠蒵蓆蓰"),
     ("Xi", "蕮薂虩蜥螅螇蟋蟢蠵衋袭襲西覀覡覤觋觹觽觿諰謑謵譆谿豀豨豯貕赥赩趇趘蹝躧邜郋郗郤鄎"),
     ("Xi", "酅醯釐釳釸鈢鉨鉩錫鎴鏭鑴铣锡闟阋隙隟隰隵雟霫霼飁餏餼饩饻騱騽驨鬩鯑鰼鱚鳛鵗鸂黖鼷"),
     ("Xi", "凞𠅤𠆱𠉢𠔃𠔍𠘕𠜗𠟊𠤴𠦌𠦜𠨚𠩺𠪙𠬬𠴭𠶨𠺒𡁱𡃢𡅕𡊑𡏛𡗞𡗳𡘐𡘡𡙋𡜧𡝧𡦎𡩤𡳚𡶯𡻎𢀊𢊚𢋼𢑧"),
     ("Xi", "𢒩𢒲𢗴𢙅𢜣𢡁𢤋𢧽𢨟𢬾𢭁𢹍𣅾𣎮𣒃𣚔𣟵𣢁𣢂𣢍𣢎𣢑𣢓𣣉𣤢𣤳𣤴𣨗𣯪𣳦𣳬𤃪𤄎𤄬𤌷𤓔𤓚𤟧𤠓𤡡"),
     ("Xi", "𤡬𤢀𤤱𤥒𤨐𤬕𤬘𤮆𤮙𤲺𤳥𤶈𤶰𤷡𤹊𤺊𥄖𥄛𥈜𥈻𥋁𥋟𥎃𥪦𥮬𥰝𥰥𥺚𥻥𥿭𦃝𦐠𦙝𦜱𦞝𦞽𦠪𦤈𦩭𦪿"),
     ("Xi", "𦮐𦱓𦷲𦸚𦼗𧀬𧂙𧈅𧈍𧈼𧉁𧋐𧎵𧐔𧚃𧣩𧤟𧤤𧥅𧥤𧦁𧧹𧪢𧬈𧬊𧯈𧯊𧯗𧱲𧲘𧶖𧹨𧹶𧹽𧺨𧻶𧿅𧿝𨀙𨋦"),
     ("Xi", "𨐛𨛳𨜐𨞘𨡂𨭎𨮪𨰿𨳛𨵎𨷘𨻁𨻥𩅖𩊿𩍆𩎉𩎥𩒽𩗊𩗱𩛹𩦇𩭡𩲁𩽨𩾼𩿛𪃼𪄛𪄶𪅲𪓷𪕯𪖥𪵣𪸕𫄳𫍰𫍻"), ("Xi", "𫔔𫘬𫘱𫻁𬟪𬭳𬳋𬶮𮵅吸犀䊠舄虩嶲𰇣𰥢𰬣𰵾𰶃𰸐𰿻𱃟𱃱𱄆𱅩𱉹𱱚𱸃𲆦𲆰𲇊"),
     ("Xia", "㔠㗇㘡㙈㙤㰨㰰㰺㽠䖎䖖䘥䛅䠍䪗䫗丅下乤侠俠傄匣叚吓呷嚇圷夏夓峡峽懗敮暇柙梺炠烚煆"),
     ("Xia", "狎狭狹珨瑕疜疨睱瞎硖硤碬磍祫筪縀縖罅翈舝舺蕸虲虾蝦谺赮轄辖遐鍜鎋鎼鏬閕閜陜陿霞颬"),
     ("Xia", "騢魻鰕鶷黠𠢆𠩘𠽫𡈮𡏘𡨄𡺷𢈙𢈤𢑓𢗄𢘉𢚌𢝅𢩹𢻗𣢗𣹱𤗭𤙇𤟝𤪆𤪍𥁆𥯾𥰶𥻴𦦕𦵯𦾏𧆥𧇍𧈄𧔂𧕱"),
     ("Xia", "𧦎𧪕𧪹𧫒𧯋𨩽𨲑𨳉𨻲𨽯𩄗𩉾𩎲𩏓𩐀𩝛𩮂𪄂𪗾𪘘𫚥𫨆𬅢𬘻𬤀𬭪𬮠𬯅𰅻𰺡𰾤𰿩𱃕𱅞𱇟𱊟𲂆"),
     ("Xian", "㔾㘅㘋㛾㡉㡾㢺㦑㦓㧥㪇㫫㬎㬗㭠㭹㮭㯗㰊㰹㲔㳄㳭㵪㶍㷿㸝㺌㺤㽉㾾㿅㿌䁂䂅䃱䃸䄳䆎䉯"),
     ("Xian", "䉳䊱䏹䐄䕔䗾䘆䙹䚚䜢䝨䢾䤼䥪䦘䦥䧋䧟䧮䨘䨷䩂䯭䯹䱤䲗䵇䵌䶟仙仚伭佡僊僩僲僴先冼县"),
     ("Xian", "咞咸哯唌啣嘕垷壏奾妶姭娊娨娴娹婱嫌嫺嫻嬐孅宪尟尠屳岘峴崄嶮幰廯弦忺憪憲憸挦掀搟撊"),
     ("Xian", "撏攇攕显晛暹杴枮橌櫶毨氙涀涎湺澖瀗灦烍燹狝猃献獫獮獻玁现珗現甉痫癇癎県睍瞯礥祆禒"),
     ("Xian", "秈稴筅箲籼粯糮絃絤綫線縣繊纎纖纤线缐羡羨胘腺臔臽舷苋苮莧莶薟藓藖蘚蚬蚿蛝蜆衔衘褼"),
     ("Xian", "襳誢誸諴譣豏賢贒贤赻跣跹蹮躚輱酰醎銑銛銜鋧錎鍁鍌鑦铦锨閑閒闲限陥险陷険險霰韅韯韱"),
     ("Xian", "顕顯餡馅馦鮮鱻鲜鶱鷳鷴鷼鹇鹹麙麲鼸𠏓𠏡𠓌𠚆𠛑𠜎𠠁𠫄𠯟𠷢𠿢𡐖𡒓𡗏𡞣𡫹𡰲𡸃𡽗𡾮𡿤𢁗𢅮"),
     ("Xian", "𢋮𢎙𢐐𢒆𢕖𢕭𢖋𢖎𢖝𢚀𢛆𢥌𢫿𢮂𢷑𢹚𣆕𣊺𣑹𣔙𣕎𣞘𣟲𣭡𣮾𣰷𤁦𤈷𤉌𤑃𤓤𤞤𤟅𤼂𥑻𥓒𥙆𥜲𥟕𥦶"),
     ("Xian", "𥬍𥰳𥲋𥻇𥻧𥽏𦋈𦎵𦑘𦒜𦠹𦧐𦩢𦭶𦱁𦸊𦽭𧂞𧈁𧕇𧖙𧠒𧫹𧱀𧸂𧻒𧼏𧾨𨁅𨇤𨍒𨏥𨐊𨖱𨘙𨘞𨙡𨚾𨵬𨸄"),
     ("Xian", "𨺘𩈖𩏩𩝈𩤊𩤥𩤦𩦂𩦹𩧩𩨡𩱆𩶤𪂶𪄏𪄷𪎉𪔩𪫺𪭾𪾢𫍯𫏨𫰰𫷉𬀪𬃫𬑗𬖑𬖮𬘟𬜾𬭣𬮵𬸣𮬣𮳏𮸗𮸠咞"), ("Xian", "啣憲𰂋𰂎𰉚𰊑𰑥𰛵𰝟𰝤𰣯𰥨𰧇𰬈𰹾𰽢𱇻𱈜𲍏"),
     ("Xiang", "⾹㐮㗽㟄㟟䊑䐟䔗䖮䜶䢽䦳䬕䴂乡享亯佭像勨厢向响啌嚮塂姠嶑巷庠廂忀想晑曏栙楿橡欀湘"),
     ("Xiang", "珦瓖瓨相祥稥箱絴緗缃缿翔膷芗萫葙薌蚃蟓蠁衖襄襐詳详象跭郷鄉鄊鄕銄銗鐌鑲镶響項项飨"),
     ("Xiang", "餉饗饟饷香驤骧鮝鯗鱌鱜鱶鲞麘祥響響𠸮𡹷𢄵𢛖𢞡𢠷𢪷𢭎𣂝𣅰𣨳𤉪𤍀𤖽𤝷𤩪𤭬𤰅𤷼𥀾𥊾𥗵𥣟"),
     ("Xiang", "𥫖𥿧𦍲𦍴𦎈𦕺𦺣𦺨𧖿𧬰𨀘𨉽𨖶𨙵𨛜𨧑𨷄𨷿𩑇𩝾𩞥𩡌𩡠𩾬𪂼𫗵𬁠𬙋𬭅𬶲像蠁𰮅𰱝"),
     ("Xiao", "⺌⺍⼩㔅㕺㗛㚠㚣㤊㩋㪣㬵㮁㲖㵿㹲㺒䉰䊥䌃䎄䒕䒝䕧䟁䥵䨭䬘䴛侾俲傚効呺咲哓哮啸嘋嘐"),
     ("Xiao", "嘨嘯嘵嚣嚻囂婋孝宯宵小崤庨彇恷憢揱效敩斅斆晓暁曉枭枵校梟櫹歊歗殽毊洨消涍淆潇瀟灱"),
     ("Xiao", "灲焇熽猇獢痚痟皛皢硝硣穘窙笑筊筱筿箫篠簘簫綃绡翛肖膮萧萷蕭藃虈虓蟂蟏蟰蠨訤詨誟誵"),
     ("Xiao", "謏踃逍郩銷销霄驍骁髇髐魈鴞鴵鷍鸮𠈬𠏕𠑪𠴡𠴳𠹎𡟣𡣾𡥍𡦝𡦳𡧕𡯩𡱉𡷸𡼚𢓮𢙒𢛘𢪶𢭦𢸳𢹳𢽾"),
     ("Xiao", "𣂬𣏠𣔷𣕇𣟇𣠎𣤡𣱓𣿣𤎻𤑳𤕢𤞚𤟞𤠖𤡔𤣌𤣠𤷤𤺃𤽳𤿨𥆔𥔑𥕾𥽁𥾤𦏷𦐺𦟞𦢩𦦛𦯪𦱜𦺔𧄤𧍂𧡼𧢬𧩮"),
     ("Xiao", "𧱐𧳍𧵱𨅋𨊅𨠦𨴹𨶅𩋍𩙚𩙮𩧓𩫂𩫳𩱴𩵖𩾒𩾓𩾾𪁎𪊷𪛀𪮋𪵑𫋇𫍲𫔲𫦅𬷽𰘩𰙑𰡊𰮝𰵦𱅮"),
     ("Xie", "㐖㒠㓔㔎㕐㖑㖿㗨㙝㙦㙰㝍㞒㞕㡜㢵㣯㣰㥟㦪㨙㨝㩦㩪㭨㰔㰡㱔㳦㳿㴬㴮㴽㸉㽊㾚䀘䁋䉏䉣"),
     ("Xie", "䊝䔑䕈䕵䙊䙎䙝䙽䚸䝱䡡䥱䥾䦏䦖䩤䩧䪥䲒䵦些亵伳偕偞偰僁写冩劦勰协協卨卸嗋噧垥塮夑"),
     ("Xie", "奊娎媟寫屑屓屟屧峫嶰廨徢恊愶懈拹挟挾揳携撷擕擷攜斜旪暬械楔榍榭歇泄泻洩渫澥瀉瀣灺"),
     ("Xie", "炧炨烲焎熁燮燲爕猲獬瑎祄禼糏紲絏絬綊緤緳繲纈绁缬缷翓胁脅脇脋膎薢薤藛蝎蝢蟹蠍蠏衺"),
     ("Xie", "褉褻襭諧謝讗谐谢躞邂邪鞋鞢鞵韰頡齂齘齛齥龤䀘𠅱𠑄𠖹𠗉𠨆𠲊𠸴𠿇𡀺𡃂𡄕𡗼𡛶𡞘𡟩𡣹𡤋𡭥"),
     ("Xie", "𡰢𡸔𡽖𢂐𢌀𢓬𢖆𢗊𢜨𢞜𢤯𢤰𢥘𢬿𢯉𢴲𢹒𢿡𣆟𣒄𣞐𣣩𣣲𣣶𣫴𣬕𣹩𣻠𣽒𤑪𤗈𤙒𤞡𤡧𤢺𤣑𤫉𤮯𤱷𤺎"),
     ("Xie", "𥀺𥆥𥇱𥊯𥌨𥍆𥎎𥗧𥢹𦁛𦋅𦔼𦖐𦚡𦚫𦞚𦩌𦪬𦳃𦵱𧀢𧀺𧌊𧌋𧌖𧍁𧏂𧏃𧐃𧑦𧓂𧓺𧖁𧛼𧜔𧜵𧝫𧟃𧭠𧭸"),
     ("Xie", "𧳧𧷑𧷧𨁂𨇨𨈙𨏳𨤴𨧥𨳚𨵚𨵪𨷥𨼬𩂪𩃖𩋘𩋧𩍝𩎃𩐁𩐉𩙜𩤠𩫲𩰳𩷂𩺫𩽍𪆋𪙥𫄬𫧯𬦯𬹼𮖱𮸥𮸮𰕐𰗚"), ("Xie", "𰬍𰬽𰿪𱂎𱌱𱜒𱾎𲀯"),
     ("Xin", "⺖⺗⼼⾟㐰㔤㚯㛙㛛㜦㣺㭄㭢㾙䅽䒖䚱䛨䜗䜣伈伩信俽噺囟妡嬜孞廞心忄忻惞新昕杺枔欣歆"),
     ("Xin", "炘焮盺脪舋芯薪衅襑訢訫軐辛邤釁鈊鋅鐔鑫锌阠顖馨馫馸𠑰𠷓𡈏𡌜𢋆𢗀𢠝𢩲𢭧𣂗𣂜𣃄𣥇𤙖𤙣"), ("Xin", "𤜢𤣲𤫨𤴾𤷓𤹩𦁍𦉝𦜓𦞤𦢯𦤟𦰸𧗹𧳄𧴢𨊳𨓇𩖣𩟍𩾽𩿃𫠇𫷷𬒘𱂶"),
     ("Xing", "⾏㐩㓑㓝㙚㝭㣜㨘㷣㼛㼬䁄䂔䃏䓷䕟䗌䛭䣆䤯䰢䳙侀倖兴刑哘型垶姓娙婞嬹幸形性悻惺擤星"),
     ("Xing", "曐杏洐涬滎煋猩瑆皨睲硎箵篂緈腥臖興荇荥莕蛵行裄觪觲謃邢郉醒鈃鉶銒鋞钘铏陉陘饧騂骍"),
     ("Xing", "鮏鯹鿿行侀鉶𠀦𠬋𡃳𡶭𢙼𢜫𣢝𣨾𣸝𤏽𤙡𤬐𤶲𥠀𥨕𦂅𦈒𦈨𦈵𦖤𦩠𧊞𧊽𧌚𧗦𧛟𨌍𨞾𩈡𩩋𫰛𬶢𮰿型"), ("Xing", "形㼛硎𦈨𰲶𰵰𱇡𲋁"),
     ("Xiong", "㐫㚾䧺兄兇凶匂匈哅夐忷恟敻汹洶焸焽熊胷胸芎訩詗詾讻诇賯雄𠓙𡨳𡪰𡬁𢢹𢿌𣅷𤔫𤛪𥃴𥥧𥦥"), ("Xiong", "𦈤𦓈𦙄𦬺𦵡𧘮𧞞𧰯𧵣𧽒𧿖𨥍𩌠𩧊𩴂"),
     ("Xiu", "㗜㱗㱙㳜㵻㹋㾋䏫䐰䗛䡭休俢修咻嗅岫峀庥朽樇溴滫潃烋烌珛琇璓秀糔綇繍繡绣羞脙脩臹苬"),
     ("Xiu", "螑袖褎褏貅銝銹鎀鏅鏥鏽锈飍饈馐髤髹鮴鱃鵂鸺齅𡔨𡜨𡟞𡯐𢊒𢓵𢕦𣧬𤚯𥌪𥞼𦈋𦟤𦪋𧌌𧙏𩘭𩛢"), ("Xiu", "𩡎𩢮𩭘𩮄𪀪𪁮𪕦𪘆𫔊峀𰬩𱃝𱈌𲇙"),
     ("Xu", "㐨㑔㑯㕛㖅㗵㘧㜅㜿㞊㞰㥠㰭㳚㵰㷦㺷㽳䂆䅡䇓䈝䋶䍱䎉䏏䔓䘏䙒䛙䢕䣱䣴䦗䦽䧁䬄䱬䳳伵"),
     ("Xu", "侐俆偦冔勖勗卹叙吁呴喣嘘噓垿墟壻姁婿媭嬃幁序徐怴恤慉戌揟敍敘旭旴昫晇暊朂栩楈槒欨"),
     ("Xu", "欰欻歔殈汿沀洫湑溆漵潊烅烼煦獝珝珬疞盢盨盱瞁瞲稰稸窢糈絮続緒緖縃繻續绪续聓聟胥芧"),
     ("Xu", "蒣蓄蓿蕦藇藚虗虚虛蝑裇訏許訹詡諝譃许诩谞賉鄦酗醑銊鑐需須頊须顼驉鬚魆魖魣鱮𠆐𠜄𠧰"),
     ("Xu", "𠷙𠹘𠾫𡦁𡱣𡹲𢄼𢖳𢨁𢨰𢩕𣅤𣆒𣊞𣚏𣢊𣨤𣰃𣸃𤆞𤇳𤚉𤟠𤡣𤡶𤬱𤭽𤲸𤷇𤸀𥄵𥅺𥆛𥇏𥇿𥈈𥊊𥍟𥎕𥎗"),
     ("Xu", "𥕰𥚩𥮪𥳗𦄼𦅏𦈡𦑍𦕓𦘼𦜃𦝳𦠷𦪡𦯅𦰰𦰲𦲰𧁃𧆜𧆡𧊥𧏺𧕼𧙆𧟬𧧓𧪮𧶍𧹭𧹴𧼑𨂠𨅑𨋾𨌎𨍐𨜿𨞣𨣦"),
     ("Xu", "𨬗𨴎𨵮𨷔𨹘𨻍𨼋𩂉𩌮𩌲𩍳𩑕𩒇𩒧𩓣𩔴𩔼𩖕𩝔𩠋𩣊𩪉𩰠𩽆𩾊𪆛𪖩𪙫𪾔𫓰𫚈𫷈𬘳𬣙𬨏𮬛𮲟歔𰩧𰰠"), ("Xu", "𰱐𰵓𰻡𰿂𱅍𱅧𱙧𲀄"),
     ("Xuan", "⽞㓩㔯㔵㘣㝁㦥㧋㧦㩊㯀㳙㳬㹡㻹㾌䀏䁔䁢䃠䆭䍗䍻䗠䚙䚭䝮䠣䧎䩙䩰䮄䲂䲻䳦儇吅咺喧塇"),
     ("Xuan", "媗嫙宣弲怰悬愃愋懁懸揎旋昍昡晅暄暶梋楥楦檈泫渲漩炫烜煊玄玹琁琄瑄璇璿痃癣癬眩眴睻"),
     ("Xuan", "矎碹禤箮絢縇縼繏绚翧翾萱萲蓒蔙蕿藼蘐蜁蝖蠉衒袨諠諼譞讂谖贙軒轩选選鉉鋗鍹鏇铉镟鞙"),
     ("Xuan", "顈颴駽鰚𠗻𠣖𠥞𠵷𡈣𡈴𡬳𡾥𢂄𢈋𢏧𢙂𢰊𢳄𣉖𣎓𣟳𤂿𤟿𥌭𥥾𥶷𦈝𦌔𦐽𦑙𦛔𧉎𧐗𧑩𧔤𧜽𧟨𧡚𧡢𧤎"), ("Xuan", "𧾆𧾎𨁁𨊼𨹆𩃚𩉥𩋢𩋫𩋱𩑹𩕖𩕪𩘒𩙢𩤡𪍧𫍽𫓶𫠊𬤎𬱽𣎓鋗𰬵𰷮𱅖"),
     ("Xue", "⽳⾎㕰㖸㗾㞽㰒㶅㻡㿱䆝䆷䋉䎀䒸䛎䤕䦑䨮䫼䬂䭥䱑乴削吷噱坹壆学學岤峃嶨斈桖樰泶澩瀥"),
     ("Xue", "燢狘疶穴膤艝茓蒆薛血袕觷謔谑趐踅轌辥辪雤雪靴鞾鱈鳕鷽鸴𢪎𢯳𢼺𣧌𣧡𣧵𣪨𣺭𤀰𥀣𥄎𥄒𥄴"), ("Xue", "𥅧𦐍𦥯𦰾𧉢𧔗𧮞𧸗𨑣𨭁𩌊𩖱𩖶𪃅𫖇𬱷𬱸𩖶𰃮𰉽𰴣"),
     ("Xun", "㖊㜄㡄㢲㨚㰬㵌㽦䋸䖲䗼䘩䙉䛜䞊䠝䭀䵫伨侚偱勋勛勲勳卂噀噚嚑坃埙塤壎壦奞寻尋峋巡巺"),
     ("Xun", "巽廵徇循恂愻揗攳旬曛杊栒桪樳殉殾毥汛洵浔潠潯灥焄熏燅燖燻爋狥獯珣璕畃矄稄紃纁臐荀"),
     ("Xun", "荨蔒蕈薫薰蘍蟳訊訓訙詢训讯询賐迅迿逊遜鄩醺鑂顨馴駨驯鱏鱘鲟𠊫𠹀𡑎𡺕𡿼𢏤𣌨𣖼𣹯𤃺𤑕"),
     ("Xun", "𤛧𤿟𥒘𥙣𥳍𥾡𦅀𦅑𦘶𦠅𦫯𦳣𧥿𧰣𧸩𧾝𧾠𧾩𨀴𨺮𨼔𩊻𩖰𩠇𩪱𩷰𩾄𩾧𪀠𪀽𪇑𫄸𫊻𫞅𫭯𬊈𬍤𬘓𬩽巡"), ("Xun", "巽𰕁𱈓𱪿𲆫"),
     ("Ya", "⺂⺄⽛⾑㝞㧎㰳㳌㾎㿿䃁䄰䅉䆘䝟䢝䦪䪵䰲丫乛亚亜亞伢俹劜厊压厑厓呀哑唖啞圔圠圧垭埡"),
     ("Ya", "堐壓娅婭孲岈崕崖庌庘押挜掗揠枒桠椏氩氬涯漄牙犽猚猰玡琊瑘痖瘂睚砑稏窫笌聐芽蕥蚜衙"),
     ("Ya", "襾訝讶軋轧迓錏鐚铔雅鴉鴨鵶鸦鸭齖齾𠄮𠋗𠜲𠮜𠵣𡇼𡴭𡶦𡷻𡸗𡹄𢛄𢛟𢮊𣉩𣏎𤘅𤘆𤴓𤵭𤹎𥇠𥏝"),
     ("Ya", "𥐕𥒧𦉟𦉧𦜖𧈝𧓪𧧝𧬬𨁶𨓴𨖭𨨙𨸺𩃐𩨠𩬾𩭯𩮝𩿔𪆰𪗹𪘲𪨩𪿊𫜰𫥼𫳃𬁺𬣨𬸭𬹺𬺌𭭈芽𰌦𰦴𰾪𰿴𱇍"), ("Ya", "𱉨𱥰"),
     ("Yan", "⻈⾔㕣㖶㗴㘖㘙㚧㛪㝚㢂㢛㤿㦔㫃㫟㬫㭺㮒㰽㳂㶄㷔㷳㷼㸶㺂㿕㿼䀋䀽䁙䂩䂴䄋䅧䇾䉷䊙䌪"),
     ("Yan", "䍾䎦䑍䓂䖗䗎䗡䗺䛳䜩䞁䞛䢥䢭䣍䤷䦲䨄䫡䲓䳛䳡䳺䴏䶫䶮严乵俨偃偐偣傿儼兖兗剦匽厌厣"),
     ("Yan", "厭厳厴咽唁啱喭噞嚥嚴堰塩墕壛壧夵奄妍妟姲姸娫娮嫣嬊嬮嬿孍宴岩崦嵃嵒嵓嶖巌巖巗巘巚"),
     ("Yan", "延弇彥彦恹愝懕懨戭扊抁掞掩揅揜敥昖晏暥曕曣曮棪椻椼楌樮檐檿櫩欕沇沿淊淹渰渷湮溎滟"),
     ("Yan", "演漹灎灔灧灩炎烟烻焉焑焔焰焱煙熖燄燕爓牪狿猒珚琂琰甗盐眼研砚硏硯硽碞礹筵篶簷綖縯"),
     ("Yan", "罨胭腌臙艳艶艷芫莚菸萒葕蔅虤蜒蝘衍裺褗覎觃觾言訁訮詽諺讌讞讠谚谳豓豔贋贗赝躽軅遃"),
     ("Yan", "郔郾鄢酀酓酽醃醶醼釅閆閹閻闫阉阎阏隁隒雁顏顔顩颜餍饜騐験騴驗驠验鬳魇魘鰋鳫鴈鴳鶠"),
     ("Yan", "鷃鷰鹽麣黡黤黫黬黭黶鼴鼹齞齴龑咽奄𠆲𠍛𠘥𠛭𠝢𠰖𠻤𡙶𡚇𡣽𡹶𢅠𢇈𢇘𢈂𢉘𢌨𢔂𢜰𢤍𢯼𢸴𢾑"),
     ("Yan", "𣃧𣃳𣃾𣄉𣄑𣄝𣝎𣡕𣡞𣡶𣥡𣩙𣭻𣼞𣼠𤂠𤅊𤅸𤎄𤖝𤗎𤜵𤟇𤟟𤡖𤡥𤢋𤫣𤬝𤯇𤯐𤲩𤸹𥀬𥂁𥃿𥍻𥕼𥜒𥣘"),
     ("Yan", "𥤟𥤴𥯃𥴿𥶿𥷀𦁏𦁙𦌚𦎣𦏥𦏹𦑎𦖈𦖧𦛞𦛣𦝪𦧡𦫤𧇱𧊔𧍢𧎘𧞣𧠦𧥜𧩅𧬌𧴣𧹬𧺅𧻃𧽉𧽞𧾤𨀅𨁍𨁹𨂪"),
     ("Yan", "𨃰𨒄𨟹𨠭𨡄𨡎𨡣𨣻𨤎𨪶𨴣𨶁𨷽𨸮𨺥𨻂𨻳𨽑𩃀𩈯𩒖𩗷𩜽𩣲𩩄𩩴𩩶𩪴𩳢𩸞𩻖𪁡𪂈𪑈𪒝𪒠𪗙𪗤𪙊𪠏"),
     ("Yan", "𪡋𪨷𪩘𫄧𫍫𫑷𫘫𫚢𫛩𫜮𫥍𫪂𫭲𫾁𬃳𬙁𬙂𬤠𬥺𬸖𬸘𬸧𮭨𮱒𮳖𮴼𮹜嵃揅掩沿湮淹𤜵㿼裺𩒖𰉁𰊡𰋽"), ("Yan", "𰎠𰎹𰑕𰖈𰗜𰘠𰟘𰦾𰳹𱂫𱅬𱌫𱱭"),
     ("Yang", "⽺㒕㔦㟅㦹㨾㬕㺊㿮䁑䄃䍩䑆䒋䖹䬗䬺䭐䱀䵮仰佒佯傟养劷咉坱垟央姎岟崵崸徉怏恙慃懩扬"),
     ("Yang", "抰揚攁敭旸昜暘杨柍样楊楧様樣殃氜氧氱泱洋漾瀁炀炴烊煬玚珜疡痒瘍癢眏眻礢禓秧紻羊羏"),
     ("Yang", "羕羪胦蛘蝆詇諹軮輰鉠鍚鐊钖阦阳陽雵霷鞅颺飏養駚鰑鴦鴹鸉鸯𠃓𠍵𠢴𠮴𡠘𡡂𡩶𡹕𢏙𢟣𢵇𢽕"),
     ("Yang", "𣃝𣉚𣐫𣗹𤞢𤢐𤢮𤸡𥂸𥃽𥒞𥠜𥥵𥬴𥳜𦍕𦍹𦏱𦭵𦯒𦴊𦼴𧓲𧥴𧫛𧲱𧵌𨋕𨋽𨎔𨒫𨖌𨱝𩊑𩋬𩤟𩧫𩲴𩴨𪓛"), ("Yang", "𪕫𪚻𫓭𫚊𫚐𫵵𫺪𬐠𬨄𬭏羕𰜝𰧰𰵌𰵗𱁱𱉯𱉴𱌀𱸖"),
     ("Yao", "⺓⼳⽘㑸㑾㔽㙘㝔㞁㟱㢓㨱㫏㫐㴭㵸㹓㿑㿢䁏䁘䂚䆗䆙䆞䋂䌁䌊䌛䔄䖴䙅䚺䚻䛂䠛䢣䬙䯚䳩"),
     ("Yao", "䴠䶧䶸仸倄偠傜吆咬喓嗂垚堯夭妖姚婹媱宎尧尭岆峣崾嶢嶤幺徭愮抭揺搖摇摿暚曜杳枖柼楆"),
     ("Yao", "榚榣殀溔滧烑熎燿爻狕猺獟珧瑤瑶眑矅磘祅穾窅窈窑窔窯窰筄繇纅耀肴腰舀艞苭药葯葽蓔薬"),
     ("Yao", "藥蘨袎要覞訞詏謠謡讑谣軺轺遙遥邀邎銚鎐鑰钥闄靿顤颻飖餆餚騕鰩鳐鴁鴢鷂鷕鹞鼼齩徭𠌠"),
     ("Yao", "𠍩𠏈𠑐𠕻𠟋𠢩𠣑𠹑𡆩𡔜𡛙𡝛𡝩𡢹𡣠𡨇𡩸𡶂𡺯𢂊𢅹𢆷𢆽𢈆𢊙𢋇𢑈𢝍𢺇𣣳𣨘𤂼𤄶𤒝𤚭𤫺𤬔𤬖𤾫𥁒"),
     ("Yao", "𥃺𥌺𥤣𥤹𥦖𥪯𥬓𥹱𦆸𦇬𦔷𦡱𦤋𦥝𦦌𦾺𦾾𧄎𧇠𧍔𧠽𧢢𧤮𧷋𧽎𨍳𨓳𨘔𨱧𨹋𩋃𩑗𩑴𩜸𩢒𩥣𩨴𩩼𩬗𩯛"), ("Yao", "𩲻𩳔𩿕𪐯𪖐𫍚𫜪𬌮𬘱𬮲𬳁𬺟𮭢𮲝吆嗂㞁榣䌁𰎔𰠴𰶏𱂣𱅜𱉢𱊡𱌰"),
     ("Ye", "⻚⾴㖡㗼㙒㡋㥷㩎㪑㱉㱌㸣䁆䈎䊦䎨䓉䢡䤳䤶䥟䥡䥺䧨䭇䭎䭟䱒䲜业也亪亱倻僷冶叶吔啘嘢"),
     ("Ye", "噎嚈埜墷壄夜嶪嶫抴捓捙掖揶擛擨擪擫晔暍曄曅曗曳曵枼枽椰業歋殗洂液漜潱澲烨燁爗爷爺"),
     ("Ye", "璍皣瞱瞸礏耶腋葉蠮謁谒邺鄓鄴野釾鋣鍱鎁鎑鐷铘靥靨頁页餣饁馌驜鵺鸈葉謁謁𠀸𠄅𠟪𠥇𠱝"),
     ("Ye", "𡀽𡁁𡑀𡛌𡛽𡽣𢀘𢉥𢢜𢪧𢬍𢱴𣎩𣐂𣚋𣚕𣩫𣩯𣰛𤑷𤝇𤝉𤝱𤳪𥌅𥠍𥮧𥯘𦀕𦂡𦕆𦠜𦤪𦰳𧎭𧏽𧐓𧒐𧔦𧗖"),
     ("Ye", "𨂒𨈺𨉅𨶮𨸌𨼥𨽀𩉂𩐱𩑃𩘏𩜺𩱝𩸾𩼋𩼴𪋫𪍅𪑦𪒲𫥺𫩤𫩫𬑓𬒆𬰺𬲼𮳴𮴔䁆𰉪𰎑𰓙𰚱𰾕𰾩𱇰𱛹𲈍𲍿"),
     ("Yi", "⻂⼀⼄⼷⾐⾢㐌㐹㑊㑜㑥㓷㔴㕈㖂㘁㘈㙠㙪㙯㚤㚦㛄㛕㛳㜋㜒㝖㝣㞔㠖㠯㡫㡼㢞㣇㣻㥋㥴㦉"),
     ("Yi", "㦤㦾㫊㰘㰝㰻㱅㱞㱲㲼㳑㳖㴁㴒㵝㵩㶠㹫㹭㺿㼢㽈㾨䃜䄁䄩䄬䄿䆿䇩䇵䇼䉗䉝䉨䋚䋵䌻䎈䒾"),
     ("Yi", "䓃䓈䓹䔟䔬䔱䕍䖁䖊䖌䗑䗟䗷䘝䘸䚷䝘䝝䝯䞅䢃䣡䣧䦴䧅䧇䧧䩟䪰䫑䬁䬥䬮䭂䭞䭲䭿䮊䯆䰙"),
     ("Yi", "䰯䱌䲑䴊䴬䵝一乁乂义乊乙亄亦亿以仪伇伊伿佁佚佾侇依俋倚偯儀億兿冝刈劓劮勚勩匇匜医"),
     ("Yi", "吚呓呭呹咦咿唈噫囈圛圯坄垼埶埸墿壱壹夁夷奕姨媐嫕嫛嬄嬑嬟宐宜宧寱寲屹峄峓崺嶧嶬嶷"),
     ("Yi", "已巸帟帠幆庡廙异弈弋弌弬彛彜彝彞役忆怈怡怿恞悒悘悥意憶懌懿扅扆抑拸挹掜揖撎攺敡敼"),
     ("Yi", "斁旑旖易晹暆曀曎杙枍枻柂栘栧栺桋棭椅椬椸榏槸檍檥檹欥欭歝殔殪殹毅毉沂沶泆洢浂浥浳"),
     ("Yi", "渏湙溢漪潩澺瀷炈焲熠熤熪熼燚燡燱狋猗獈玴珆瑿瓵畩異疑疫痍痬瘗瘞瘱癔益眙睪瞖矣硛礒"),
     ("Yi", "祎禕秇移稦穓竩笖箷簃籎縊繄繶繹绎缢羛羠義羿翊翌翳翼耛耴肄肊胰膉臆舣艗艤艺芅苅苡苢"),
     ("Yi", "萓萟蓺薏藙藝蘙虉蚁蛜蛡蛦蜴螔螘螠蟻衣衤衪衵袘袣裔裛裿褹襼觺訑訲訳詍詑詒詣誃誼謻譩"),
     ("Yi", "譯議讉讛议译诒诣谊豙豛豷貖貤貽賹贀贻跇跠踦軼輢轙轶辷迆迤迻逘逸遗遺邑郼酏醫醳醷釔"),
     ("Yi", "釴鈘鈠鉯銥鎰鏔鐿钇铱镒镱陭隿霬靾頉頤頥顊顗颐飴饐饴駅驛驿骮鮨鯣鳦鶂鶃鶍鷁鷊鷖鷧鷾"),
     ("Yi", "鸃鹝鹢鹥黓黟黳齮齸異易益逸逸廙益𠂆𠄱𠅌𠈶𠍫𠍳𠏩𠐀𠓋𠗺𠚮𠛃𠜁𠡔𠡝𠤕𠤗𠤘𠥦𠨾𠩗𠩫𠪗𠬤"),
     ("Yi", "𠮙𠯋𠰄𠲔𠲖𠲚𠲺𠲻𠶷𠼪𠽜𠿣𡄵𡄻𡉛𡊁𡊶𡍡𡜬𡥁𡬓𡱐𡷪𡻣𡼎𡾾𢀁𢂒𢂗𢂼𢄅𢇙𢇚𢇸𢈶𢊘𢍰𢎀𢎃𢎉"),
     ("Yi", "𢏗𢓀𢓡𢕷𢖅𢖫𢖴𢖺𢗎𢘽𢙇𢞉𢡃𢣉𢦕𢨮𢨳𢩮𢩼𢱁𢷔𣎅𣐓𣐵𣐿𣕁𣘦𣙛𣚘𣡊𣢭𣢷𣤪𣦌𣧄𣨟𣫙𣶫𣷩𣸘"),
     ("Yi", "𣿉𤆾𤇴𤈙𤑹𤖪𤘊𤝳𤝻𤣨𤣮𤤺𤥿𤧕𤬩𤴧𤶛𤷅𤸸𤻂𤼌𥃠𥃸𥄻𥄿𥅓𥌟𥍴𥏜𥑴𥒵𥘒𥘠𥙁𥙇𥜃𥜥𥟘𥡪𥥌"),
     ("Yi", "𥥴𥩖𥫃𥫜𥫝𥰧𥱃𥸊𥹋𥾐𥿹𦌩𦎝𦏸𦓻𦔜𦔥𦘳𦙨𦚟𦟧𦠉𦡫𦥱𦨇𦭥𦮸𦶂𧃟𧅖𧆦𧈻𧉅𧊣𧊤𧋏𧑌𧓗𧔮𧙡"),
     ("Yi", "𧜤𧡇𧢂𧣟𧣬𧦧𧫦𧬇𧮒𧱊𧱏𧳁𧷅𧷥𧺎𧺝𧾰𨋯𨛯𨜶𨜽𨠑𨠶𨣠𨣬𨦯𨱁𨳷𨹝𨻊𨻏𨽹𩂒𩂹𩈭𩋌𩍖𩎭𩎷𩓧"),
     ("Yi", "𩔦𩕲𩖹𩖾𩗑𩘧𩚂𩚇𩛆𩛮𩟉𩠂𩡖𩡣𩣞𩤒𩥯𩧭𩪟𩪣𩮵𩳇𩴜𩴮𩷍𩷘𩸨𩼨𩾘𩾠𩾢𪀓𪀕𪁚𪁛𪈨𪎈𪐔𪐘𪐣"),
     ("Yi", "𪒕𪕶𪗷𪘃𪘬𪙴𪹀𪽷𫄷𫍙𫍟𫐎𫖮𬟁𬤞𬤦𬥵𬬩𬭰𬱪𬲳𬳀𬷼𬺈𭣧𭩚𮩞𮬜𮰸𮳜𮵠乁㠯㡼㣇㰘異衣𰉣𰑸"), ("Yi", "𰞇𰲹𰳵𰵔𰵖𰵥𰶁𰶊𰷠𰷪𰹵𰼅𱇧𱇬𱉇𱉌𱉷𱊄𱊈𱊦𱊰𱌷𱌽𲍇"),
     ("Yin", "⺃⼵⾳㐆㐺㒚㕂㖗㙬㝙㞤㡥㣧㥯㥼㦩㧈㧢㪦㱃㴈㶏㸒㹜㹞䄄䇙䌥䒡䓄䓰䕃䕾䖐䖜䚿䜾䡛䤃䨸"),
     ("Yin", "䪩䲟䴦乑乚侌冘凐印吟吲喑噖噾嚚囙因圁垔垠垽堙堷夤姻婣婬寅尹峾崟崯嶾廕廴引愔慇慭憖"),
     ("Yin", "憗懚斦朄栶檃檭檼櫽歅殥殷氤泿洇洕淫淾湚溵滛濥濦烎犾狺猌珢璌瘖瘾癊癮硍碒磤禋秵窨筃"),
     ("Yin", "粌絪緸胤苂茚茵荫荶蒑蔩蔭蘟蚓螾蟫裀訔訚訡誾諲讔赺趛輑鄞酳鈏鈝銀銦铟银闉阥阴陰陻隂"),
     ("Yin", "隐隠隱霒霠霪靷鞇音韾飮飲饮駰骃鮣鷣齗龂龈滛𠃊𠖟𠪚𠽨𡇂𡈲𡋪𡐔𡓓𡓿𡖣𡩘𡸛𡼽𢂨𢉩𢋻𢌲𢓕"),
     ("Yin", "𢓙𢛦𢝯𢪪𢳃𢷍𣓆𣔸𣘴𣦫𣱐𣱜𣸊𣽮𤂹𤝎𤢦𤯸𤵯𤷏𤻘𥖵𥤷𥬜𥮍𦈑𦈠𦜲𦝴𦟘𦻕𦾻𧊭𧥸𧦸𧦹𧩬𨈧𨋙𨏈"),
     ("Yin", "𨐐𨒦𨓮𨛊𨟏𨟴𨡢𨢂𨦆𩂢𩂥𩃬𩐞𩖄𩚕𩬵𪔰𪔽𪘎𪙤𪙾𪛊𪺽𫜃𫡑𫮜𫷮𬄩𬘡𬤇𬮱𬺒𮙊𰝋𰺈𰽣"),
     ("Ying", "㑞㡕㢍㨕㲟㵬㶈㹚㹵㼆㿘䀴䁐䁝䃷䊔䑉䓨䕦䙬䚆䣐䤝䤰䦫䧹䨍䪯䬬䭊䭗䭘䴍䵴偀僌啨営嘤噟"),
     ("Ying", "嚶塋婴媖媵嫈嬰嬴孆孾巊应廮影応愥應摬撄攍攖映暎朠桜梬楹樱櫻櫿浧渶溁溋滢潁潆濙濚濴"),
     ("Ying", "瀅瀛瀠瀯瀴灐灜煐熒營珱瑛瑩璎瓔甇甖瘿癭盁盈矨硬碤礯穎籝籯緓縈纓绬缨罂罃罌膡膺英茔"),
     ("Ying", "荧莹莺萤营萦萾蓥藀蘡蛍蝇蝧蝿螢蠅蠳褮覮謍譍譻賏贏赢軈迎郢鍈鎣鐛鑍锳霙鞕韺頴颍颕颖"),
     ("Ying", "鱦鴬鶑鶧鶯鷪鷹鸎鸚鹦鹰瑩𠊶𠝟𠠜𠮳𠸄𡀘𡁊𡂚𡃅𡄖𡎘𡺡𢄋𢣙𢥏𣈣𣋋𣟤𣤵𣲜𤁽𤇾𤌌𤜉𤟣𤣎𤭫𤹜"),
     ("Ying", "𤹥𥌽𥌾𥍼𥏎𥐑𥚿𦔃𦖽𦝚𦡺𦢆𦦿𦩩𦭬𧅋𧓀𧕄𧕍𧢛𧭓𧮆𧯀𨍞𨜏𨟙𨠸𨪄𨵛𩄪𩋹𩖍𩘑𩳍𩸥𩹅𩻷𪊵𪧀𪩎"),
     ("Ying", "𫇦𫜙𫝭𫶕𫷾𬈜𬎆𬑏𬢑𬢯𬤚𬳑𬸕𭈉𮐨𮹘瀛媵𰌀𰜳𰝅𰡢𰢤𰥞𰪣𰳗𰴯𱃵𱇸𱩂𱲎𲁖𲂻"), ("Yo", "哟唷喲"),
     ("Yong", "⽤㐯㙲㜉㝘㞲㟾㦷㴄㴩㶲㷏㻾㽫䗤䗸䞻䧡佣俑傛傭勇勈咏喁嗈噰埇塎墉壅嫞嵱庸廱彮怺恿悀"),
     ("Yong", "惥愑愹慂慵拥揘擁柡栐槦永泳涌湧滽澭灉牅用甬痈癕癰砽硧禜臃苚蛹詠踊踴邕郺鄘醟鏞镛雍"),
     ("Yong", "雝顒颙饔鯒鰫鱅鲬鳙鷛勇𠆌𠳀𠹍𡵜𢀍𢢓𢧳𣋿𣏀𤛑𥁎𥑿𥥝𥧱𦃽𦤘𦨤𦨬𧖇𧗴𧙇𧝸𧲤𧴄𧴗𧺸𧻹𨓨𨤂"), ("Yong", "𨦡𨴭𨶽𩆄𩍓𩔔𩜳𩟀𩟷𩤛𩬮𪄉𪅟𪇛𪪝𫚦𬳓勇𰱈𰵞𱊤𱗚"),
     ("You", "⺀⼜⾣㒡㓜㕗㕱㗀㘥㚭㛜㤑㫍㮋㰶㱊㳊㳺㴗㶭㹨㺠㽕㾞䀁䅎䆜䍃䑻䒴䖻䚃䛻䞥䢊䢟䥳䬀䱂䳑"),
     ("You", "丣亴优佑侑偤優卣又友右呦哊唀嚘囿姷孧宥尤峟峳幼幽庮忧怣怮悠憂懮攸斿有柚栯梄楢槱櫌"),
     ("You", "櫾沋油泑浟游湵滺瀀牖牗牰犹狖猶猷由疣祐禉秞糿纋羐羑耰聈肬脜苃莜莠莸蒏蕕蚰蚴蜏蝣訧"),
     ("You", "誘诱貁輏輶迶逌逰遊邮郵鄾酉酭釉鈾銪铀铕駀魷鮋鱿鲉麀黝鼬祐𠖋𠘳𠢢𠧠𠧴𠨦𠮫𡇀𡈙𡈰𡈵𡊧"),
     ("You", "𡋧𡜳𡯉𡯙𡺒𡺖𢆶𢈓𢋣𢓿𢖟𢟅𢪥𢿚𣁨𣅄𣅺𣏞𣓐𣓛𣢄𣢜𣣜𣣸𣤎𣧗𣧥𣸠𣿤𤄘𤍕𤘜𤣙𤤧𤤬𤪎𤱎𤴨𤸈𥙾"),
     ("You", "𥜚𥝘𥣯𥯞𥴕𥽟𦎓𦏇𦑸𦥣𦩲𦳧𦳩𦳷𦵵𦷿𦸙𧀥𧅲𧆕𧆘𧍘𧠶𧡹𧰰𧳫𨑫𨗰𨘁𨘵𨙂𨛕𨡴𨸙𩑣𩗚𩘈𩘓𩜷𩤹"), ("You", "𩥘𩲎𩴑𩴙𩹊𩽇𩾎𩿬𬨎𬱔𬶦𰭀𰵎𱃖𱇤𱗎𲍳"),
     ("Yu", "⺺⺻⻗⻥⽟⽻⾀⾬⿂㑨㒁㒜㔱㙑㚜㚥㝢㝼㠘㠨㡰㣃㤢㤤㥔㥚㥥㦛㦽㧒㪀㬂㬰㰲㲾㳛㶛㷒㺄㺞"),
     ("Yu", "㺮㻀㼌㼶㽣䁌䁩䂊䂛䃋䄏䄨䆰䈅䉛䋖䋭䍂䍞䏸䐳䔡䖇䗨䘘䘱䘻䛕䜡䜽䞝䢓䢖䢩䣁䣿䤋䥏䨒䨞"),
     ("Yu", "䩒䩽䫻䬔䮇䮙䰻䱷䲣䴁䵥与乻予于亐伃伛余俁俞俣俼偊傴儥兪匬唹喅喐喩喻噊噳圄圉域堉堣"),
     ("Yu", "堬妤妪娛娯娱媀嫗嬩宇寓寙屿峪崳嵎嵛嶎嶼庽庾彧御忬悆惐愈愉愚慾懙戫扜扵挧揄敔斔斞於"),
     ("Yu", "旕旟昱杅桙棛棜棫楀楡楰榆櫲欎欝欤欲歈歟歶毓浴淢淤淯渔渝湡滪漁潏澚澞澦灪焴煜燏燠爩"),
     ("Yu", "牏狱狳獄玉玗玙琙瑀瑜璵畭瘀瘉瘐癒盂盓睮矞砡硢硲礇礖礜祤禦禹禺秗稢稶穥穻窬窳竽箊篽"),
     ("Yu", "籅籞籲紆緎繘纡罭羭羽聿肀育腴臾舁舆與艅艈芋芌茟茰萭萮萸蒮蓣蓹蕍蕷蘌蘛虞虶蜟蜮蝓螸"),
     ("Yu", "衧袬裕褕覦觎誉語諛諭謣譽语谀谕豫貐踰軉輍輿轝込迂迃逳逾遇遹邘郁鄅酑醧鈺銉鋊鋙錥鍝"),
     ("Yu", "鐭钰閾阈陓隅雓雨雩霱預頨预飫餘饇饫馀馭騟驈驭骬髃鬰鬱鬻魊魚鮽鯲鰅鱊鱼鳿鴥鴧鴪鵒鷠"),
     ("Yu", "鷸鸆鸒鹆鹬麌齬龉龥羽愈揄諭𠀛𠇐𠊏𠋟𠎳𠏚𠕦𠧇𠫣𠱐𠸹𠽵𡁎𡂊𡇺𡈨𡋬𡑾𡒃𡒊𡔴𡨣𡨿𡬊𡬞𡷎𡻢"),
     ("Yu", "𡿥𡿯𢊧𢋅𢌻𢎻𢒰𢔢𢔥𢔬𢔴𢖡𢗓𢛨𢡎𢪓𢮁𢯮𢹏𢺴𢾄𣄊𣋉𣍛𣕃𣝑𣟰𣡉𣢒𣢦𣣎𣨝𣩺𤀝𤕘𤗃𤚎𤜹𤞞𤥽"),
     ("Yu", "𤧙𤳕𤸒𤹪𥆉𥉑𥎐𥒾𥔢𥘄𥙿𥛩𥝍𥝨𥯮𥷔𥷞𥸤𥸪𥹔𦀡𦈣𦈸𦋢𦋯𦎘𦏜𦏻𦒑𦡭𦥉𦦩𦦫𦦲𦩞𦭳𦱀𦱂𦱃𦳅"),
     ("Yu", "𧃠𧈯𧉣𧊠𧍪𧐄𧑐𧗪𧙶𧞏𧫊𧰇𧱬𧶠𧼫𧾚𧿷𨄯𨉗𨊱𨖛𨗝𨜖𨝈𨞓𨨶𨩬𨪎𨮔𨰸𨵉𨵦𨶢𨾌𩂧𩃯𩈕𩊇𩋉𩋤"),
     ("Yu", "𩎹𩏟𩏴𩘤𩘳𩘻𩚄𩛪𩛭𩝗𩟑𩟳𩡃𩢶𩤺𩥭𩦡𩦢𩨈𩨗𩨙𩩑𩩘𩰪𩱌𩱱𩲾𩵎𩺰𪁀𪂉𪂕𪂵𪃍𪃎𪇝𪉐𪊻𪋉𪋬"),
     ("Yu", "𪋮𪑆𪑌𪑝𪓊𫓾𫗇𫚪𫛣𫹮𬛼𬝁𬪧𬰸𬱳𬲆𭤰𮱁娛舁瑜瘐育舁芋諭𪃎𰂏𰔶𰬟𰬻𰶀𰾆𰾙𰿵𱃞𱃲𱅫𱇕𱈂"), ("Yu", "𱉍𱉰𱊫𱊭"),
     ("Yuan", "㟶㠾㤪㥐㥳㭇㹉㾓䅈䏍䖠䛄䛇䡝䥉䦾䨊䩩䬇䬧䬼䱲䲮䳒䳣傆元円冤剈原厡厵员員噮囦园圆圎"),
     ("Yuan", "園圓垣垸塬夗妧妴媛媴嫄嬽寃怨悁惌愿掾援杬棩榞榬橼櫞沅淵渁渆渊渕湲源溒灁爰猨猿獂瑗"),
     ("Yuan", "盶眢禐笎箢緣縁缘羱肙苑茒葾蒝蒬薗蚖蜎蜵蝝蝯螈衏袁裫裷褑褤謜貟贠轅辕远逺遠邍邧酛鈨"),
     ("Yuan", "鋺鎱院願駌騵魭鳶鴛鵷鶢鶰鸢鸳鹓黿鼋鼘鼝𠒜𠝳𠩠𡈒𡈓𡈛𡢊𡣬𡯱𡷡𢂱𢆀𢍈𢏮𢐄𢕋𢗯𢱽𢷻𣹠𤬌"),
     ("Yuan", "𥭞𥰟𥿎𦍼𦿂𧉗𧔞𧙮𧳭𧻚𨀮𨓯𨕗𨖳𨸘𨻣𩉯𩌑𩍻𩐘𩔃𩕾𩘍𩛟𩝸𩟁𩰵𪄁𪔅𪔗𪔙𪕀𫍠𫖸𫗟𫘪𫛫𮷣𮷸冤"), ("Yuan", "寃悁蜎䛇𰵺𰺑𱇐𱉧𱊒𱠸𲍉"),
     ("Yue", "⺝⽈⽉⿕㜧㜰㬦㰛㹊䆕䆢䋐䋤䖃䟑䟠䠯䡇䢁䢲䤦䥃䶳刖妜嬳岄岳嶽彟彠恱悅悦戉抈捳曰曱月"),
     ("Yue", "樾瀹爚玥矱礿禴箹篗籆籥籰粤粵約约蘥蚎蚏越跀跃躍軏鈅鉞钺閱閲阅鸑鸙黦龠𠏃𠔠𠨲𠩉𠪶𠯲"),
     ("Yue", "𠾲𠿋𡆦𡆽𡛟𡡕𢁞𢦰𢯵𢾔𣌗𣎱𣐋𣤰𣦏𣨡𣻮𤑓𤓝𥆟𥩡𥸘𦋩𦚢𦣜𦤕𧀲𧅚𧇓𧕋𧤽𧨄𧹊𨁑𨈋𨊸𨒋𨙄𨳕𨷲"), ("Yue", "𨸀𨸎𨿁𩁯𩎙𩓥𩚈𩜌𩱪𩱲𩿠𪁑𪒥𪘳𫐄𫖵𬘙𬸑𬸚瀹玥𰎫𰩺𰹷𱊵𱥟"),
     ("Yun", "㚃㚺㛣㜏㞌㟦㩈䆬䇖䉙䚋䞫䢵䤞䨶䩵䪳䲰云伝傊允勻匀喗囩夽奫妘孕恽惲愠愪慍抎抣昀晕暈"),
     ("Yun", "枟橒殒殞氲氳沄涢溳澐煴熅熉熨狁畇眃磒秐筠筼篔紜緷緼縕縜繧纭缊耘耺腪芸荺蒀蒕蒷蕓蕴"),
     ("Yun", "薀藴蘊蝹褞賱贇赟运運郓郧鄆鄖酝醖醞鈗鋆阭陨隕雲霣韗韞韫韵韻頵餫馧馻齫齳暈蝹𠈤𠚓𠣐"),
     ("Yun", "𠱳𡅙𡖒𡢘𡲪𡽅𣂊𣍯𣖆𤈶𤶧𤸫𥐩𥠺𥬀𦅿𦈉𧉃𧡡𧥼𧬞𧶊𧼐𨍆𨛡𨷐𩁴𩂿𩏅𩏆𩴉𪉂𪍝𪏔𪏚𪘩𫕥𫖳𫗥𫟵"), ("Yun", "𫯶𬒍𬺊𮱩蝹霣馧𰌉𰬚𱂈𱂐𱌳"),
     ("Za", "㞉㦫䕹䞙䨿䪞偺匝咂咋喒囋囐帀拶杂沞沯砸磼紥紮臜臢襍迊鉔雑雜雥韴魳𠂝𠯗𠷿𠽷𡁕𢶍𢹼𢽜"), ("Za", "𣤷𣤺𣴖𣸐𤄔𤠀𥷩𦠛𦾬𧌃𧬩𧾁𨠿𩇺𩞶𪚇𫓬𫝜偺𰈯𰉄𰓟𰗣𰰶"),
     ("Zai", "㱰䏁䣬䮨䵧傤儎再哉在宰崽扗栽洅渽溨災灾烖甾睵縡菑賳載载酨𠎶𡉄𡿧𢎋𢦏𢦒𣅃𣔮𣪮𤌊𤝖𤞳"), ("Zai", "𦞁𦳦𧯥𨀬𨚵𩛥𩛳再災甾𰬴𱖝𱖞"),
     ("Zan", "㔆㜺㟛㣅㳫䍼䐶䬤䭕儧儹兂咱噆寁揝撍攅攒攢昝暂暫桚濽灒瓉瓒瓚禶簪簮糌襸讃讚賛贊赞趱"),
     ("Zan", "趲蹔鄼酂酇錾鏨鐕鐟饡𠼗𡡖𢄤𣸄𥎑𥜙𥳋𥸢𧄽𨖋𨘄𨙏𩛻𩯒𩯳𪷽𫏐𫪚𫲗𬡷𬤮鐕𰃆𰾷𱄊"),
     ("Zang", "㘸㮜匨塟奘弉牂羘脏臓臟臧葬蔵賍賘贓贜赃銺駔驵髒𡁧𡅆𢈜𢍿𣻟𤃼𤛻𤞛𦟃𧕨𨌄𪓅𬨋𮷚𰷭𱣹"),
     ("Zao", "㡟㯾㷮䖣䗢䜊䥣䲃傮凿唕唣喿噪慥早枣栆梍棗澡灶煰燥璪皁皂竃竈簉糟繰艁薻藻蚤譟趮蹧躁"),
     ("Zao", "造遭醩鑿𠙬𠴵𡌣𡐋𡨗𢄀𢑖𢲵𢵥𣍖𣩒𣴢𤍜𤞋𤟀𤩨𥀛𥖨𦯑𦵩𧈹𧎮𨎮𨐉𨒽𨚰𨠷𪙡𪣝𬤨𰞷𲂓"),
     ("Ze", "㖽㟙㣱㳁㳻㺓䇥䕉䕪䯔䰹䶦仄伬则則唶啧嘖夨嫧崱帻幘庂択择捑擇昃昗樍歵汄沢泎泽溭澤皟"),
     ("Ze", "瞔矠礋笮箦簀舴蔶蠌襗諎謮責賾责赜迮鸅齚齰𠟻𠨻𡵗𡸈𡸦𡹨𢧠𢮚𢯩𣆽𣛸𣤈𣬿𣼦𣿐𤖓𤝢𤢟𤾀𥍱"), ("Ze", "𥎍𥟔𥼃𦔈𦟜𧶷𨕠𨖊𩂖𩄾𩌪𩔳𩾸𪌟𪪴𫋷𫖴𫜬𫼤𬺉𰌇𰎖𰦰𰲵𱉟𱌬"),
     ("Zei", "戝蠈賊贼鯽鰂鱡鲗𢨗𦽒𧒿𨆎𬝠𬠠"), ("Zen", "㻸囎怎譖譛谮"),
     ("Zeng", "㽪䎖䙢䰝増增憎橧熷璔甑矰磳繒缯罾譄贈赠鄫鋥锃鱛憎贈憎贈𡡑𡾽𤎯𦀓𦼏𧢐𨲯𪒟𪙭𬤤憎"),
     ("Zha", "㗬㡸㦋㪥㱜㳐㴙㷢㾴䃎䄍䆛䋾䐒䕢䖳䛽䥷䮜䮢䱹䵙䶥乍偧劄厏吒咤哳喳奓宱扎抯拃挓揸搩搾"),
     ("Zha", "摣札柞柤査栅楂榨樝渣溠灹炸煠牐甴痄皶皻眨砟箚耫苲蚱蚻觰詐譇譗诈踷醡鍘铡閘闸霅鮓鮺"),
     ("Zha", "鲊鲝齄齇𠍹𠓣𠝚𠢙𠢡𠭯𠯩𠰏𠽣𡎫𡗸𡟢𢄄𢕮𢧖𢧻𣛽𣟦𣧖𣽛𤁳𤈩𤡨𤰦𤵦𤹡𥀈𥀉𥡧𥹁𦂉𦑯𦟰𦳏𧄠𧉫"),
     ("Zha", "𧧻𧨊𧨿𧩫𧬅𧶇𧼰𧼶𧽅𧿌𨂵𨅓𨋘𨡗𩃡𩃹𩥠𩩥𩬟𩮎𩳶𩶱𩻢𩼫𩽽𩿤𪗭𪗵𫛠𬘲𬣶𬣾𬤜𬶣𬺀喳楂牐𰶄𰿇"), ("Zha", "𱚝𱨙𱻴"),
     ("Zhai", "㒀㡯㩟䍉䐱䔝债債夈宅寨捚摘斋斎榸檡瘵砦窄粂鉙齋宅𠏰𠑞𠞶𠵠𠷒𡅓𡍥𢋿𢯌𢴨𣩭𤞮𤢒𤻦𥍪𥞅"), ("Zhai", "𥰾𦑱𦤧𧲻𧻍𨅪𨝋𩏪𩏽𩝿𩬫𩱳𪀥𪑽𪗒𪗓𪘇𪘨𪚎𰗛𰽨𱌴"),
     ("Zhan", "㔊㜊㞡㟞㠭㣶㮵㺘㻵䁪䁴䆄䋎䎒䗃䘺䟋䡀䦓䩅䩆䩇䪌䱠䱳䱼䶨佔偡占噡嫸展崭嶃嶄嶘惉战戦"),
     ("Zhan", "戰搌斩斬旃旜枬栈栴桟棧榐橏毡氈氊沾湛琖盏盞瞻站粘綻绽菚薝蘸虥虦蛅覱詀詹譧譫讝谵趈"),
     ("Zhan", "輚輾轏辗邅醆閚霑颭飐飦饘驏驙魙鱣鳣鸇鹯黵龪𠌲𠟉𠟧𡁳𡅹𡓦𡕁𡭞𡽻𢅺𢈽𢤚𢧐𢧗𣀁𣛷𣢤𣮿𣳤"),
     ("Zhan", "𤖆𤘇𤜇𥇢𥙡𥴐𥶕𥿜𦈻𦗢𦧚𦪣𧀡𧂁𧋱𧎰𧒝𧔡𧖉𧙭𧝑𧬆𧮪𧮺𧲮𧸪𧽆𧾍𨇩𨊈𨣁𨣚𨫀𨭖𨺿𨼈𨼮𩆯𩉗𩔣"),
     ("Zhan", "𩕊𩥇𩨍𩰃𩼼𪃋𪉜𪏉𪗦𪘪𪡏𫔑𫗞𫗴𫘰𬍙𬘜𬥿𬪨𬭫𬱱𬸵𰊅𰲠𰲳𰵨𰹼𰺞𱂷𱌵𱔯"),
     ("Zhang", "⻓⾧㙣㽴䛫丈仉仗傽墇嫜嶂帐帳幛幥张張彰慞扙掌暲杖樟涨涱漲漳獐璋痮瘬瘴瞕礃章粀粻胀"),
     ("Zhang", "脹蔁蟑賬账遧鄣鏱長长障餦騿鱆麞杖𠅹𠫝𡈠𡑄𡚹𢕎𢕔𢩰𢪾𢷢𣌞𣾦𤍤𤓯𤕄𥳶𦺡𧐊𧹔𧽣𨄰𩌬𩭫𪅂"), ("Zhang", "𪽪𫗠𫜂𫠒𬦵𰪭"),
     ("Zhao", "⺤⺥⽖㑿㕚㡽㷖㷹䃍䈃䈇䍜䍮䑲䝖䞴佋兆召啁垗妱巶找招旐昭曌枛棹櫂沼炤照燳爪爫狣瑵皽"),
     ("Zhao", "盄瞾窼笊罀罩羄肁肇肈詔诏赵趙釗鉊鍣钊駋鮡爫𠕖𠕭𠟅𠠄𠻥𡖎𡱜𢁬𢗈𢡰𣋍𣠜𤍒𤙔𤿘𥏨𥵤𦗔𦬔"), ("Zhao", "𦹫𦺓𧳝𧳻𨱻𨹸𩘀𩙩𬬲𬬿𬭡𬶐𠠄"),
     ("Zhe", "㞏㡇㢎㪿㭙㭯㯙㯰㸙㸞䂞䇽䊞䎲䏳䐑䐲䓆䗪䜆䝃䝕䠦䩾䮰䵭乽厇哲啠啫喆嗻嚞埑嫬悊折摺晢"),
     ("Zhe", "晣柘樜歽浙淛潪着矺砓磔禇籷粍者蔗虴蛰蜇蟄蟅袩褶襵詟謫謺讁讋谪赭輒輙轍辄辙这這遮銸"),
     ("Zhe", "鍺锗馲鮿鷓鹧者着者𠌮𠚱𠝝𠞃𠯓𠽻𠾀𡂭𡄡𡇠𡘭𡜯𡝊𢟯𢢍𢫰𢬴𣇧𣙵𣠞𣶋𣻩𤜤𤟍𤮱𥏯𥐽𥑡𥕣𥛧𥤋"),
     ("Zhe", "𥧮𥭙𦅄𦔮𦗑𦗗𦞥𦠟𦠠𦠣𦬃𦯍𧀹𧎴𧑧𧤠𧲢𨅊𨐃𨰵𨵊𩊵𩐶𩢐𩣩𩤜𪐏𪚥𫌇𫘮𫚚𬥄𬬇者𰺋𰽿𱄽"),
     ("Zhen", "㐱㓄㖘㘰㣀㪛㮳㯢㱽㲀㴨㼉䀕䂦䂧䃌䈯䊶䏖䑐䝩䟴䠴䨯䪴䪾䫬䲴䳲侦侲偵圳塦嫃寊屒帧帪弫"),
     ("Zhen", "抮挋振揕搸敶斟昣朕枕栕栚桢桭楨榛樼殝浈潧澵獉珍珎瑧甄甽畛疹眕眞真眹砧碪祯禎禛稹箴"),
     ("Zhen", "籈紖紾絼縥纼缜聄胗臻萙葴蒖蓁薽袗裖診誫诊貞賑贞赈軫轃轸遉酖酙針鉁鋴錱鍼鎭鎮针镇阵"),
     ("Zhen", "陣震靕駗鬒鱵鴆鸩黰禎鬒𠘱𠛶𠠹𠬓𠵧𠸸𡇑𡇖𡈿𡻈𢏈𣃵𣏖𣒅𣓀𣬻𣱽𣿎𤚨𤷌𥅘𥌃𥖘𥤤𥪘𦳳𦸮𧠝𧤛"),
     ("Zhen", "𧮬𨌑𨏤𨱅𨳌𨸬𩄛𩇜𩊡𩊨𩑘𩒀𩒈𩒪𩬖𩾺𪁧𪇳𪉕𪐲𪑳𪠟𫍨𫖫𫖬𬘝𬹕𮬤眞真真鬒𰬛𰺖𰾗𰿦𱅇𱊙𲁉"),
     ("Zheng", "㡠㡧㬹㱏㽀䂻䆸䇰䈣䋊䋫䍵䡕䥌䥭䦛䦶䱢争佂凧埩塣姃媜峥崝崢幀征徰徴怔愸抍拯挣掙掟揁"),
     ("Zheng", "撜政整晸正氶炡烝爭狰猙症癥眐睁睜筝箏篜糽聇蒸証諍證证诤踭郑鄭鉦錚钲铮鬇鯖鴊鿇𠏫𠑅"),
     ("Zheng", "𠔻𠲜𡪺𢁿𢌦𢏰𢓞𢮐𢹑𢾧𤪡𤸲𤿆𥊼𥒛𦓺𦙫𦚦𦜎𦡅𦱊𧗆𧗲𧘿𧪣𧯫𧶄𨀧𨋬𨌢𨚣𨛰𨜓𨟃𨢹𨧭𨺟𩏠𩗲𩗵"), ("Zheng", "𩘼𩘽𩚫𩺄𪎻𫖖𬥷𰌂𰫼𰬑"),
     ("Zhi", "⼡⽀⽌⾄⾘⿋㕄㗌㗧㘉㙷㛿㜱㜼㝂㡳㡶㣥㥀㨁㨖㩼㫑㮹㯄㲍㲛㴛㴯㸟㽻㿃䄺䅩䆈䇛䇧䉅䉜䎺"),
     ("Zhi", "䏯䐈䐭䑇䓋䓌䓜䓡䕌䘭䚦䚳䛗䝰䝷䞃䞠䟈䟡䡹䣽䤠䥍䦯䧴䩢䬹䭁䱃䱥䲀䳅䵂䵹之乿侄俧倁値"),
     ("Zhi", "值偫傂儨凪制劕劧卮厔只吱咫嗭址坁坧垁埴執墆墌夂妷姪娡嬂寘峙崻巵帋帙帜幟庢庤廌彘徏"),
     ("Zhi", "徔徝徵志忮怾恉慹憄懥懫戠执扺扻抧挃指挚掷搘搱摭摯擲擳支旘旨晊智枝枳柣栀栉桎梔梽植"),
     ("Zhi", "椥楖榰樴櫍櫛止殖汁汥汦沚治泜洔洷淔淽滍滞滯漐潌瀄炙熫犆狾猘瓆瓡畤疐疷疻痔痣直知砋"),
     ("Zhi", "礩祉祑祗祬禃禔秓秖秩秪秲秷稙稚稺穉窒筫紙紩絷綕緻縶織纸织置翐聀职職肢胑胝脂膣膱至"),
     ("Zhi", "致臸芖芝芷藢蘵蛭蜘螲蟙衹衼袟袠製襧覟觗觯觶訨誌豑豒豸貭質贄质贽趾跖跱踬踯蹠躑躓軄"),
     ("Zhi", "軹軽輊轵轾迣郅酯釞鉄銍鋕鑕铚锧阤阯陟隲隻雉馶馽駤騭騺驇骘鯯鳷鴙鴲鷙鸷黹鼅鿵炙祉直"),
     ("Zhi", "𠊤𠊷𠋤𠍜𠓶𠘖𠚅𠦧𠮡𠰅𠼠𡀹𡁉𡂒𡂣𡈊𡌴𡍶𡏀𡏚𡑘𡖧𡖻𡙑𡠗𡠹𡮞𡰹𡱔𡸜𡽆𢃜𢄢𢄱𢅁𢇨𢊁𢍧𢎈𢐂"),
     ("Zhi", "𢕞𢖇𢖿𢙺𢚨𢛍𢡒𢧤𢯶𢰙𢴠𢴧𢷸𢻙𢽃𢽗𢾫𣔐𣖌𣖭𣖿𣗻𣚠𣥰𣨋𣲵𣳀𣽚𤃲𤆒𤓕𤖞𤛱𤞂𤞌𤦄𤦮𤧜𤴛𤴟"),
     ("Zhi", "𤴢𤵋𤶓𤸓𤽁𤿙𥃫𥇕𥇭𥍭𥎹𥏄𥏅𥏊𥏰𥏷𥒓𥒗𥔊𥘡𥝑𥝮𥠈𥠽𥣮𥭡𥮖𥴒𥹩𥻬𥾣𥿮𦃘𦏤𦐖𦛧𦜋𦝔𦟔𦤻"),
     ("Zhi", "𦥎𦥏𦥐𦭜𦭮𦯫𦯯𦰘𦳮𦴀𧀿𧃐𧊙𧌔𧏸𧐉𧓸𧙁𧛢𧜚𧝉𧠫𧠴𧣭𧣾𧤡𧨰𧫡𧱒𧸅𧸕𧸲𧹛𧽦𧾂𨁷𨂂𨃯𨆧𨌌"),
     ("Zhi", "𨎉𨎌𨑨𨒉𨕕𨖹𨜎𨟊𨟾𨡐𨢮𨤱𨧵𨫔𨬚𨰛𨵂𨻆𨼓𨿛𩊝𩊴𩋩𩍲𩍵𩙾𩧄𩬺𩯈𩷓𩹈𩻼𪁊𪁓𪁩𪂅𪉆𪏀𪑜𪒊"),
     ("Zhi", "𪗨𪗻𪙹𫍶𫐋𫔵𫘠𫛛𫞢𫟞𫟬𫪪𬃊𬘨𬘽𬢌𬣛𬺁𮉢埴寘志櫛直芝黹鼅𰊂𰑔𰑬𰓜𰛣𰛤𰧉𰬫𰱲𰵧𰽠𱀑𱃸"), ("Zhi", "𱅁𱅊𱇹𱉙𱉛𱋪𱌄𱼷"),
     ("Zhong", "㣫㲴㹣䇗䈺䝦䱰中仲伀众偅冢刣喠堹塚塜妐妕媑尰幒彸忠柊歱汷泈炂煄狆瘇盅眾祌种種筗籦"),
     ("Zhong", "終终肿腫舯茽蔠蚛螤螽衆衳衶衷諥踵蹱重鈡銿鍾鐘钟锺鴤鼨塚塚𠊥𠛀𠱧𡖌𡥿𡰒𡻑𢁷𢃭𢝆𢨱𣱧"),
     ("Zhong", "𣷡𣹞𤚏𤝅𤯚𤺄𥗦𥷈𥻝𦉂𦌋𦔉𦬕𧆼𧑆𧬤𧳮𨉢𨳗𩅞𩅧𩾋𩿀𫍳𫍼𬑔𰪊𰱛𱖽𱗖"),
     ("Zhou", "⾈㑇㑳㛩㤘㥮㨄㫶㼙㾭䈙䋓䎇䎻䑼䓟䖞䛆䧓䩜䶇伷侜僽冑周呪咒咮喌噣妯婤宙州帚徟掫昼晝"),
     ("Zhou", "晭洲淍炿烐珘甃疛皱皺盩睭矪碡箒籀籒籕粙粥紂縐纣绉肘胄舟荮菷葤詋詶謅譸诌诪賙赒軸輈"),
     ("Zhou", "輖轴辀週郮酎銂霌駎駲騆驟骤鯞鵃鸼𠊣𠚴𠣘𠤍𠱙𡀑𡊡𢃸𢏝𢐫𢓟𢫧𢷗𢼲𢽧𣆔𣥯𣻱𤏲𥀙𥌆𥑸𥖠𥣙"),
     ("Zhou", "𥲝𥺝𥺞𥼫𥾓𥿦𦁖𦂈𦅸𦈺𦩈𦭴𧇟𧛸𧣷𧧔𧭍𧳜𧻖𨉜𨏺𨥇𨦞𩊄𩋰𩍌𩍧𩗪𩢸𩧨𩧳𩶣𪆀𪇞𫐏𫚡𫟻𬡎𬢪𬰤"), ("Zhou", "𮹋周𰰌"),
     ("Zhu", "⼂⽵㑏㔉㝉㤖㦵㧣㫂㵭㶆㹥㺛㾻㿾䃴䇠䇡䇬䌵䍆䎷䐗䐢䕽䘄䘚䘢䝒䝬䟉䠱䡤䣷䥮䪒䬡䭖䮱䰞"),
     ("Zhu", "丶主伫佇住侏劚助劯嘱囑坾墸壴孎宔嵀拄斸曯朱杼柱柷株槠樦橥櫧櫫欘殶泏注洙渚潴濐瀦灟"),
     ("Zhu", "炢炷烛煑煮燭爥猪珠疰瘃眝瞩矚砫硃祝祩秼窋竚竹竺笁笜筑筯箸築篫簗紵紸絑纻罜羜翥舳苎"),
     ("Zhu", "茱茿莇著蛀蛛蝫蠋蠩蠾袾註詝誅諸诛诸豬貯贮跓跦躅軴迬逐邾鉒銖鋳鑄钃铢铸陼霔馵駐駯驻"),
     ("Zhu", "鮢鯺鱁鴸麆麈鼄猪諸渚煮祝著煮猪諸陼𠧀𠩈𠮌𠰍𠴦𠷅𡎺𡠟𡤗𡧨𡱱𡴅𡸌𡺐𡻌𡻠𢁼𢔪𢚻𢥃𢩄𢲿𣃁"),
     ("Zhu", "𣔯𣚚𣤁𣥼𣵸𣽆𤆼𤋰𤎧𤕞𤝹𤥮𤲑𤳯𤾄𥋛𥛂𥞏𥩣𥯸𥵟𥹍𥾅𦅷𦉐𦙴𦧙𦬸𧈚𧉞𧏿𧑏𧑤𨅛𨆄𨈫𨙔𨞕𨭅𨲈"),
     ("Zhu", "𩊣𩋵𩒊𩞈𩨻𩲠𩲬𩳥𩴀𩶂𩶄𪊹𪋏𪋑𪋰𪏿𪚹𪹳𫞛𬙅𬣞𬣣𬹣𭲫𮳢𮷍築著蝫𰧘𰬇𰬏𰮙𰽯𰾽𱄼𱈏𱉫"), ("Zhua", "抓檛簻膼髽𡎬𣑃𥬲𥮣𭪆𰩻"), ("Zhuai", "拽跩𢶀𱖕"),
     ("Zhuan", "䉵䏝䡱䧘专僎叀啭囀堟塼嫥孨専專撰灷瑑瑼甎砖磗磚竱篆篹籑腞膞蒃蟤襈諯譔賺赚転轉转鄟"),
     ("Zhuan", "顓颛饌馔鱄𠊩𠨎𡇰𡢀𡤛𡭇𡰞𢂘𢐎𢞬𣂵𣕏𣚢𤂤𤩄𤪪𤮳𥛥𥫛𦁆𦄯𦓝𦝏𦧸𧂍𧸖𨷱𩔊𩧜𩳏𩻝𫁟𫍱𫑘𫚋"), ("Zhuan", "𫭞𬤥𬥼𬱛灷篆𰋹𰷬𱈐"),
     ("Zhuang", "壮壯壵妆妝娤庄庒戇撞桩梉樁湷焋状狀粧糚荘莊装裝狀𠌴𢙳𢤤𣞝𣴣𣶍𣻛𤘲𤶜𦀜𦚏𩅃𩮱𩯲𪁈𪉉"), ("Zhuang", "壮"),
     ("Zhui", "⾫㗓㚝㩾㮅㾽䄌䨨䶆坠墜娷惴桘椎沝甀畷硾礈笍綴縋缀缒膇諈贅赘轛追醊錐錣鑆锥隹餟騅骓"), ("Zhui", "鵻𡑻𢊅𣝸𣦬𣨫𤺅𥟒𦥻𧿲𨪗𨺵𨾻𩛵𩜀𩪀𩬳𪋇𬳂𮣵𰵶𱊅𱾝𲍾"),
     ("Zhun", "㡒准凖埻宒準稕窀綧肫衠訰諄谆迍𥇜𥚠𬘯衠𰵍𲍭"), ("Zhuo", "㑁㒂㓸㣿㧳㧻㭬㹿㺟䂐䅵䆯䐁䓬䕴䟾䦃䪼䫎䮓䮕䶂丵倬劅卓叕啄啅圴妰娺彴拙捉撯擆擢斀斫"),
     ("Zhuo", "斱斲斵晫桌梲棁棳椓槕櫡汋浊浞涿濁濯灂灼炪烵犳琸硺禚穛穱窡窧篧籗籱罬茁蠗蠿諁諑謶诼"),
     ("Zhuo", "酌鋜鐯鐲镯鵫鷟𠡑𠭴𠿡𡷿𢁁𢢗𢧈𢳇𢺡𢽚𣃈𣃑𣄻𤃮𤉐𤏸𤓦𥇍𥋮𥐊𥗁𥞺𥢔𥮥𥯩𥷘𥷮𥼚𦜰𦰹𦳡𧂒𧃔"), ("Zhuo", "𧘑𧞐𧢼𧨳𧱰𨑽𨖮𨡸𨢬𨧧𨮿𨺝𩆸𩋁𩑂𩩔𩲃𩷹𫛱𬸦𰵳𰵷𰾃𱂢𲂔"),
     ("Zi", "⼦⾃㜽㞨㠿㧗㧘㰣㰷㱴㺭㽧㾅㿳䅆䅔䆅䎩䐉䔂䖪䘣䣎䦻䰵乲仔倳兹剚吇呰咨啙嗞姉姊姕姿子"),
     ("Zi", "字孜孳孶崰嵫恣杍栥梓椔榟橴淄渍湽滋滓漬澬牸玆璾眥眦矷禌秄秭秶稵笫籽粢紎紫緇缁耔胏"),
     ("Zi", "胔胾自芓茊茡茲荢葘蓻虸觜訾訿諮谘貲資赀资赼趑趦輜輺辎鄑釨鈭錙鍿鎡锱镃頾頿髭鯔鰦鲻"),
     ("Zi", "鶅鼒齍龇滋𠀢𠂔𠡸𡉗𡗈𡙛𡪒𡸟𡸪𢱆𢼱𣄮𣓊𣖨𣚀𣚁𣣊𣣌𣥨𣯃𣳩𣸆𥀖𥕁𥚉𥞎𥫞𥬳𥲕𥻍𥼩𥼻𥿩𦍺𦎸"),
     ("Zi", "𦖺𦣹𦺱𧀗𧂐𧆰𧕓𧛏𧣤𧥕𧧕𧨴𧹌𧿞𨀥𨍢𨚖𨝳𨧫𨩲𨹀𩄚𩐍𩜊𪅵𪑿𪕊𪗉𪗋𪗐𫓦𫚤𫞚𬭑嵫椔滋緇鄑𰨳"), ("Zi", "𱊎𱌘𱌙𱰭𱳞𱹼"),
     ("Zong", "㙡㚇㢔㣭㨑㯶㷓㹅䁓䈦䍟䑸䗥䙕䝋䰌倊倧偬傯堫宗嵏嵕嵸总惣惾愡捴揔搃摠昮朡棕椶潈熧燪"),
     ("Zong", "猔猣疭瘲碂磫稯粽糉糭綜緃総緵縂縦縱總纵综翪腙葼蓗蝬豵踨踪蹤錝鍐鏓鑁騌騣骔鬃鬉鬷鯮"),
     ("Zong", "鯼𠏭𠕌𠡻𠵻𡕰𡞧𡵝𣀒𣯨𤡆𥍺𥓻𥚾𥠡𦖸𦡙𧺣𧽵𧿛𨌰𨍈𨎢𨺡𩋯𩤗𩦲𩭤𩮀𩰽𪖁𫎆𬭥𭎂𮪣𮳳朡縂𰬥𰬯"), ("Zong", "𰬰𰲯𰺔𰾞𰾱𱇾𱈅"),
     ("Zou", "⾛㔌㔿㵵㻓䠫奏揍棷棸楱箃緅菆諏诹走赱邹郰鄒鄹陬騶驺鯐鯫鲰黀齱齺龰𠂑𣙻𣠏𥋜𥶈𧌗𨂡𨃘"), ("Zou", "𨑿𨜗𨽁𩼦𪃆𬦩𮉪𱌭𱌶"),
     ("Zu", "⾜㞺㰵㵀䔃䖕䚝䯿䱣俎傶卆卒哫唨崒崪族爼珇祖租箤組组菹葅蒩詛诅足踤踿鎺鏃镞阻靻祖𠻏"),
     ("Zu", "𡻬𢅪𢉺𢫵𢳈𣇙𣢰𣤶𣨛𤓵𤬧𤱌𤽱𥛜𥞯𥣆𥼀𥼪𦑋𦵬𧇈𧇿𧎲𧐈𧑙𧗎𧞰𧺒𨂀𨃭𨄕𨧰𨨳𨩰𩐡𩥿𩩠𩲲𩺯𪋍"), ("Zu", "𪘧𪙳𫟽𫟾𬺋祖"),
     ("Zuan", "㸇䂎䌣䡽䤸䰖攥籫繤纂纉纘缵躜鑚鑽钻𡉺𣀶𣪁𥎝𦆈𦙉𨉖𨰭𩎑𬖃𬮃𭄛𰬹𰾦𰿆𰿰𱆈"),
     ("Zui", "㝡㠑㭰㰎䘒䘹䮔厜嗺嘴噿嶊嶵晬最朘栬槜樶檇檌璻祽稡穝絊纗罪蕞蟕辠酔酻醉鋷錊𠲋𠾋𠿘𡙭"), ("Zui", "𡡔𡽁𡽛𢈡𢊛𣖱𣩑𥍋𥳣𥳵𦈬𦏳𦙈𦸺𧎹𧻝𨢅𨿇𩚻𩣷𩲨𪋌𪓌𫄹𭉨最"),
     ("Zun", "䔿僔噂墫壿尊嶟捘撙樽繜罇譐遵銌鐏鱒鳟鶎鷷𠟃𠱜𤮐𥊭𥞘𥢎𦢐𦨆𦪚𨱔𩯄𫜄𬤢𰬺"),
     ("Zuo", "㑅㘀㘴㝾㤰㭮㵶㸲䋏䎰䔘䝫䞢䞰䟶䶹佐作侳做咗唑嘬坐岝岞左座怍捽昨椊琢祚秨稓筰糳繓胙"),
     ("Zuo", "莋葃葄蓙袏酢鈼阼飵琢𠂇𠱯𠹠𡪳𡯨𡹥𢂃𣠹𣹧𤿀𥅁𥙀𥥏𥽿𦁎𦈛𦥬𦦹𧃘𧮙𧲭𨀨𨐳𨝨𨞒𩛠𪎇𪎲𫗢𬬽"), ("Zuo", "𮉣")]

end Script
end Text
end SchemaBinding
