import SchemaBinding.Text.Script.Basic

/-! Emoji, by their short names between colons. -/
namespace SchemaBinding
namespace Text
namespace Script

def emoji : Script where
  spelled :=
    [(":100:", "💯"), (":1234:", "🔢"), (":8ball:", "🎱"), (":ab:", "🆎"), (":abacus:", "🧮"),
     (":abc:", "🔤"), (":abcd:", "🔡"), (":accept:", "🉑"), (":accordion:", "🪗"),
     (":adhesive_bandage:", "🩹"), (":adult:", "🧑"), (":aerial_tramway:", "🚡"), (":airplane:", "✈"),
     (":airplane_arriving:", "🛬"), (":airplane_departure:", "🛫"), (":airplane_small:", "🛩"),
     (":alarm_clock:", "⏰"), (":alembic:", "⚗"), (":alien:", "👽"), (":ambulance:", "🚑"),
     (":amphora:", "🏺"), (":anatomical_heart:", "🫀"), (":anchor:", "⚓"), (":angel:", "👼"),
     (":anger:", "💢"), (":anger_right:", "🗯"), (":angry:", "😠"), (":anguished:", "😧"),
     (":ant:", "🐜"), (":apple:", "🍎"), (":aquarius:", "♒"), (":aries:", "♈"),
     (":arrow_backward:", "◀"), (":arrow_double_down:", "⏬"), (":arrow_double_up:", "⏫"),
     (":arrow_down:", "⬇"), (":arrow_down_small:", "🔽"), (":arrow_forward:", "▶"),
     (":arrow_heading_down:", "⤵"), (":arrow_heading_up:", "⤴"), (":arrow_left:", "⬅"),
     (":arrow_lower_left:", "↙"), (":arrow_lower_right:", "↘"), (":arrow_right:", "➡"),
     (":arrow_right_hook:", "↪"), (":arrow_up:", "⬆"), (":arrow_up_down:", "↕"),
     (":arrow_up_small:", "🔼"), (":arrow_upper_left:", "↖"), (":arrow_upper_right:", "↗"),
     (":arrows_clockwise:", "🔃"), (":arrows_counterclockwise:", "🔄"), (":art:", "🎨"),
     (":articulated_lorry:", "🚛"), (":astonished:", "😲"), (":athletic_shoe:", "👟"), (":atm:", "🏧"),
     (":atom:", "⚛"), (":auto_rickshaw:", "🛺"), (":avocado:", "🥑"), (":axe:", "🪓"), (":baby:", "👶"),
     (":baby_bottle:", "🍼"), (":baby_chick:", "🐤"), (":baby_symbol:", "🚼"), (":back:", "🔙"),
     (":bacon:", "🥓"), (":badger:", "🦡"), (":badminton:", "🏸"), (":bagel:", "🥯"),
     (":baggage_claim:", "🛄"), (":ballet_shoes:", "🩰"), (":balloon:", "🎈"), (":ballot_box:", "🗳"),
     (":ballot_box_with_check:", "☑"), (":bamboo:", "🎍"), (":banana:", "🍌"), (":banjo:", "🪕"),
     (":bank:", "🏦"), (":bar_chart:", "📊"), (":barber:", "💈"), (":baseball:", "⚾"),
     (":basket:", "🧺"), (":basketball:", "🏀"), (":bat:", "🦇"), (":bath:", "🛀"), (":bathtub:", "🛁"),
     (":battery:", "🔋"), (":beach:", "🏖"), (":beach_umbrella:", "⛱"), (":beans:", "🫘"),
     (":bear:", "🐻"), (":bearded_person:", "🧔"), (":beaver:", "🦫"), (":bed:", "🛏"), (":bee:", "🐝"),
     (":beer:", "🍺"), (":beers:", "🍻"), (":beetle:", "🪲"), (":beginner:", "🔰"), (":bell:", "🔔"),
     (":bell_pepper:", "🫑"), (":bellhop:", "🛎"), (":bento:", "🍱"), (":beverage_box:", "🧃"),
     (":bike:", "🚲"), (":bikini:", "👙"), (":billed_cap:", "🧢"), (":biohazard:", "☣"),
     (":bird:", "🐦"), (":birthday:", "🎂"), (":bison:", "🦬"), (":biting_lip:", "🫦"),
     (":black_circle:", "⚫"), (":black_heart:", "🖤"), (":black_joker:", "🃏"),
     (":black_large_square:", "⬛"), (":black_medium_small_square:", "◾"),
     (":black_medium_square:", "◼"), (":black_nib:", "✒"), (":black_small_square:", "▪"),
     (":black_square_button:", "🔲"), (":blond_haired_person:", "👱"), (":blossom:", "🌼"),
     (":blowfish:", "🐡"), (":blue_book:", "📘"), (":blue_car:", "🚙"), (":blue_circle:", "🔵"),
     (":blue_heart:", "💙"), (":blue_square:", "🟦"), (":blueberries:", "🫐"), (":blush:", "😊"),
     (":boar:", "🐗"), (":bomb:", "💣"), (":bone:", "🦴"), (":book:", "📖"), (":bookmark:", "🔖"),
     (":bookmark_tabs:", "📑"), (":books:", "📚"), (":boom:", "💥"), (":boomerang:", "🪃"),
     (":boot:", "👢"), (":bouquet:", "💐"), (":bow_and_arrow:", "🏹"), (":bowl_with_spoon:", "🥣"),
     (":bowling:", "🎳"), (":boxing_glove:", "🥊"), (":boy:", "👦"), (":brain:", "🧠"),
     (":bread:", "🍞"), (":breast_feeding:", "🤱"), (":bricks:", "🧱"), (":bride_with_veil:", "👰"),
     (":bridge_at_night:", "🌉"), (":briefcase:", "💼"), (":briefs:", "🩲"), (":broccoli:", "🥦"),
     (":broken_heart:", "💔"), (":broom:", "🧹"), (":brown_circle:", "🟤"), (":brown_heart:", "🤎"),
     (":brown_square:", "🟫"), (":bubble_tea:", "🧋"), (":bubbles:", "🫧"), (":bucket:", "🪣"),
     (":bug:", "🐛"), (":bulb:", "💡"), (":bullettrain_front:", "🚅"), (":bullettrain_side:", "🚄"),
     (":burrito:", "🌯"), (":bus:", "🚌"), (":busstop:", "🚏"), (":bust_in_silhouette:", "👤"),
     (":busts_in_silhouette:", "👥"), (":butter:", "🧈"), (":butterfly:", "🦋"), (":cactus:", "🌵"),
     (":cake:", "🍰"), (":calendar:", "📆"), (":calendar_spiral:", "🗓"), (":call_me:", "🤙"),
     (":calling:", "📲"), (":camel:", "🐫"), (":camera:", "📷"), (":camera_with_flash:", "📸"),
     (":camping:", "🏕"), (":cancer:", "♋"), (":candle:", "🕯"), (":candy:", "🍬"),
     (":canned_food:", "🥫"), (":canoe:", "🛶"), (":capital_abcd:", "🔠"), (":capricorn:", "♑"),
     (":card_box:", "🗃"), (":card_index:", "📇"), (":carousel_horse:", "🎠"),
     (":carpentry_saw:", "🪚"), (":carrot:", "🥕"), (":cat2:", "🐈"), (":cat:", "🐱"), (":cd:", "💿"),
     (":chains:", "⛓"), (":chair:", "🪑"), (":champagne:", "🍾"), (":champagne_glass:", "🥂"),
     (":chart:", "💹"), (":chart_with_downwards_trend:", "📉"), (":chart_with_upwards_trend:", "📈"),
     (":checkered_flag:", "🏁"), (":cheese:", "🧀"), (":cherries:", "🍒"), (":cherry_blossom:", "🌸"),
     (":chess_pawn:", "♟"), (":chestnut:", "🌰"), (":chicken:", "🐔"), (":child:", "🧒"),
     (":children_crossing:", "🚸"), (":chipmunk:", "🐿"), (":chocolate_bar:", "🍫"),
     (":chopsticks:", "🥢"), (":christmas_tree:", "🎄"), (":church:", "⛪"), (":cinema:", "🎦"),
     (":circus_tent:", "🎪"), (":city_sunrise:", "🌇"), (":city_sunset:", "🌆"), (":cityscape:", "🏙"),
     (":cl:", "🆑"), (":clap:", "👏"), (":clapper:", "🎬"), (":classical_building:", "🏛"),
     (":clipboard:", "📋"), (":clock1030:", "🕥"), (":clock10:", "🕙"), (":clock1130:", "🕦"),
     (":clock11:", "🕚"), (":clock1230:", "🕧"), (":clock12:", "🕛"), (":clock130:", "🕜"),
     (":clock1:", "🕐"), (":clock230:", "🕝"), (":clock2:", "🕑"), (":clock330:", "🕞"),
     (":clock3:", "🕒"), (":clock430:", "🕟"), (":clock4:", "🕓"), (":clock530:", "🕠"),
     (":clock5:", "🕔"), (":clock630:", "🕡"), (":clock6:", "🕕"), (":clock730:", "🕢"),
     (":clock7:", "🕖"), (":clock830:", "🕣"), (":clock8:", "🕗"), (":clock930:", "🕤"),
     (":clock9:", "🕘"), (":clock:", "🕰"), (":closed_book:", "📕"), (":closed_lock_with_key:", "🔐"),
     (":closed_umbrella:", "🌂"), (":cloud:", "☁"), (":cloud_lightning:", "🌩"),
     (":cloud_rain:", "🌧"), (":cloud_snow:", "🌨"), (":cloud_tornado:", "🌪"), (":clown:", "🤡"),
     (":clubs:", "♣"), (":coat:", "🧥"), (":cockroach:", "🪳"), (":cocktail:", "🍸"),
     (":coconut:", "🥥"), (":coffee:", "☕"), (":coffin:", "⚰"), (":coin:", "🪙"),
     (":cold_face:", "🥶"), (":cold_sweat:", "😰"), (":comet:", "☄"), (":compass:", "🧭"),
     (":compression:", "🗜"), (":computer:", "💻"), (":confetti_ball:", "🎊"), (":confounded:", "😖"),
     (":confused:", "😕"), (":construction:", "🚧"), (":construction_site:", "🏗"),
     (":construction_worker:", "👷"), (":control_knobs:", "🎛"), (":convenience_store:", "🏪"),
     (":cookie:", "🍪"), (":cooking:", "🍳"), (":cool:", "🆒"), (":coral:", "🪸"), (":corn:", "🌽"),
     (":couch:", "🛋"), (":couple:", "👫"), (":couple_with_heart:", "💑"), (":couplekiss:", "💏"),
     (":cow2:", "🐄"), (":cow:", "🐮"), (":cowboy:", "🤠"), (":crab:", "🦀"), (":crayon:", "🖍"),
     (":credit_card:", "💳"), (":crescent_moon:", "🌙"), (":cricket:", "🦗"), (":cricket_game:", "🏏"),
     (":crocodile:", "🐊"), (":croissant:", "🥐"), (":cross:", "✝"), (":crossed_flags:", "🎌"),
     (":crossed_swords:", "⚔"), (":crown:", "👑"), (":cruise_ship:", "🛳"), (":crutch:", "🩼"),
     (":cry:", "😢"), (":crying_cat_face:", "😿"), (":crystal_ball:", "🔮"), (":cucumber:", "🥒"),
     (":cup_with_straw:", "🥤"), (":cupcake:", "🧁"), (":cupid:", "💘"), (":curling_stone:", "🥌"),
     (":curly_loop:", "➰"), (":currency_exchange:", "💱"), (":curry:", "🍛"), (":custard:", "🍮"),
     (":customs:", "🛃"), (":cut_of_meat:", "🥩"), (":cyclone:", "🌀"), (":dagger:", "🗡"),
     (":dancer:", "💃"), (":dango:", "🍡"), (":dark_sunglasses:", "🕶"), (":dart:", "🎯"),
     (":dash:", "💨"), (":date:", "📅"), (":deaf_person:", "🧏"), (":deciduous_tree:", "🌳"),
     (":deer:", "🦌"), (":department_store:", "🏬"), (":desert:", "🏜"), (":desktop:", "🖥"),
     (":detective:", "🕵"), (":diamond_shape_with_a_dot_inside:", "💠"), (":diamonds:", "♦"),
     (":disappointed:", "😞"), (":disappointed_relieved:", "😥"), (":disguised_face:", "🥸"),
     (":dividers:", "🗂"), (":diving_mask:", "🤿"), (":diya_lamp:", "🪔"), (":dizzy:", "💫"),
     (":dizzy_face:", "😵"), (":dna:", "🧬"), (":do_not_litter:", "🚯"), (":dodo:", "🦤"),
     (":dog2:", "🐕"), (":dog:", "🐶"), (":dollar:", "💵"), (":dolls:", "🎎"), (":dolphin:", "🐬"),
     (":donkey:", "🫏"), (":door:", "🚪"), (":dotted_line_face:", "🫥"), (":doughnut:", "🍩"),
     (":dove:", "🕊"), (":dragon:", "🐉"), (":dragon_face:", "🐲"), (":dress:", "👗"),
     (":dromedary_camel:", "🐪"), (":drooling_face:", "🤤"), (":drop_of_blood:", "🩸"),
     (":droplet:", "💧"), (":drum:", "🥁"), (":duck:", "🦆"), (":dumpling:", "🥟"), (":dvd:", "📀"),
     (":e-mail:", "📧"), (":eagle:", "🦅"), (":ear:", "👂"), (":ear_of_rice:", "🌾"),
     (":ear_with_hearing_aid:", "🦻"), (":earth_africa:", "🌍"), (":earth_americas:", "🌎"),
     (":earth_asia:", "🌏"), (":egg:", "🥚"), (":eggplant:", "🍆"),
     (":eight_pointed_black_star:", "✴"), (":eight_spoked_asterisk:", "✳"), (":eject:", "⏏"),
     (":electric_plug:", "🔌"), (":elephant:", "🐘"), (":elevator:", "🛗"), (":elf:", "🧝"),
     (":empty_nest:", "🪹"), (":end:", "🔚"), (":envelope:", "✉"), (":envelope_with_arrow:", "📩"),
     (":euro:", "💶"), (":european_castle:", "🏰"), (":european_post_office:", "🏤"),
     (":evergreen_tree:", "🌲"), (":exclamation:", "❗"), (":exploding_head:", "🤯"),
     (":expressionless:", "😑"), (":eye:", "👁"), (":eyeglasses:", "👓"), (":eyes:", "👀"),
     (":face_holding_back_tears:", "🥹"), (":face_vomiting:", "🤮"),
     (":face_with_diagonal_mouth:", "🫤"), (":face_with_hand_over_mouth:", "🤭"),
     (":face_with_monocle:", "🧐"), (":face_with_open_eyes_and_hand_over_mouth:", "🫢"),
     (":face_with_peeking_eye:", "🫣"), (":face_with_raised_eyebrow:", "🤨"),
     (":face_with_symbols_over_mouth:", "🤬"), (":factory:", "🏭"), (":fairy:", "🧚"),
     (":falafel:", "🧆"), (":fallen_leaf:", "🍂"), (":family:", "👪"), (":fast_forward:", "⏩"),
     (":fax:", "📠"), (":fearful:", "😨"), (":feather:", "🪶"), (":feet:", "🐾"),
     (":female_sign:", "♀"), (":ferris_wheel:", "🎡"), (":ferry:", "⛴"), (":field_hockey:", "🏑"),
     (":file_cabinet:", "🗄"), (":file_folder:", "📁"), (":film_frames:", "🎞"),
     (":fingers_crossed:", "🤞"), (":fire:", "🔥"), (":fire_engine:", "🚒"),
     (":fire_extinguisher:", "🧯"), (":firecracker:", "🧨"), (":fireworks:", "🎆"),
     (":first_place:", "🥇"), (":first_quarter_moon:", "🌓"), (":first_quarter_moon_with_face:", "🌛"),
     (":fish:", "🐟"), (":fish_cake:", "🍥"), (":fishing_pole_and_fish:", "🎣"), (":fist:", "✊"),
     (":flag_black:", "🏴"), (":flag_white:", "🏳"), (":flags:", "🎏"), (":flamingo:", "🦩"),
     (":flashlight:", "🔦"), (":flatbread:", "🫓"), (":fleur-de-lis:", "⚜"), (":floppy_disk:", "💾"),
     (":flower_playing_cards:", "🎴"), (":flushed:", "😳"), (":flute:", "🪈"), (":fly:", "🪰"),
     (":flying_disc:", "🥏"), (":flying_saucer:", "🛸"), (":fog:", "🌫"), (":foggy:", "🌁"),
     (":folding_hand_fan:", "🪭"), (":fondue:", "🫕"), (":foot:", "🦶"), (":football:", "🏈"),
     (":footprints:", "👣"), (":fork_and_knife:", "🍴"), (":fork_knife_plate:", "🍽"),
     (":fortune_cookie:", "🥠"), (":fountain:", "⛲"), (":four_leaf_clover:", "🍀"), (":fox:", "🦊"),
     (":frame_photo:", "🖼"), (":free:", "🆓"), (":french_bread:", "🥖"), (":fried_shrimp:", "🍤"),
     (":fries:", "🍟"), (":frog:", "🐸"), (":frowning2:", "☹"), (":frowning:", "😦"),
     (":fuelpump:", "⛽"), (":full_moon:", "🌕"), (":full_moon_with_face:", "🌝"), (":game_die:", "🎲"),
     (":garlic:", "🧄"), (":gear:", "⚙"), (":gem:", "💎"), (":gemini:", "♊"), (":genie:", "🧞"),
     (":ghost:", "👻"), (":gift:", "🎁"), (":gift_heart:", "💝"), (":ginger_root:", "🫚"),
     (":giraffe:", "🦒"), (":girl:", "👧"), (":globe_with_meridians:", "🌐"), (":gloves:", "🧤"),
     (":goal:", "🥅"), (":goat:", "🐐"), (":goggles:", "🥽"), (":golf:", "⛳"), (":goose:", "🪿"),
     (":gorilla:", "🦍"), (":grapes:", "🍇"), (":green_apple:", "🍏"), (":green_book:", "📗"),
     (":green_circle:", "🟢"), (":green_heart:", "💚"), (":green_square:", "🟩"),
     (":grey_exclamation:", "❕"), (":grey_heart:", "🩶"), (":grey_question:", "❔"),
     (":grimacing:", "😬"), (":grin:", "😁"), (":grinning:", "😀"), (":guard:", "💂"),
     (":guide_dog:", "🦮"), (":guitar:", "🎸"), (":gun:", "🔫"), (":hair_pick:", "🪮"),
     (":hamburger:", "🍔"), (":hammer:", "🔨"), (":hammer_pick:", "⚒"), (":hamsa:", "🪬"),
     (":hamster:", "🐹"), (":hand_splayed:", "🖐"),
     (":hand_with_index_finger_and_thumb_crossed:", "🫰"), (":handbag:", "👜"), (":handshake:", "🤝"),
     (":hatched_chick:", "🐥"), (":hatching_chick:", "🐣"), (":head_bandage:", "🤕"),
     (":headphones:", "🎧"), (":headstone:", "🪦"), (":hear_no_evil:", "🙉"), (":heart:", "❤"),
     (":heart_decoration:", "💟"), (":heart_exclamation:", "❣"), (":heart_eyes:", "😍"),
     (":heart_eyes_cat:", "😻"), (":heart_hands:", "🫶"), (":heartbeat:", "💓"), (":heartpulse:", "💗"),
     (":hearts:", "♥"), (":heavy_check_mark:", "✔"), (":heavy_division_sign:", "➗"),
     (":heavy_dollar_sign:", "💲"), (":heavy_equals_sign:", "🟰"), (":heavy_minus_sign:", "➖"),
     (":heavy_multiplication_x:", "✖"), (":heavy_plus_sign:", "➕"), (":hedgehog:", "🦔"),
     (":helicopter:", "🚁"), (":helmet_with_cross:", "⛑"), (":herb:", "🌿"), (":hibiscus:", "🌺"),
     (":high_brightness:", "🔆"), (":high_heel:", "👠"), (":hiking_boot:", "🥾"),
     (":hindu_temple:", "🛕"), (":hippopotamus:", "🦛"), (":hockey:", "🏒"), (":hole:", "🕳"),
     (":homes:", "🏘"), (":honey_pot:", "🍯"), (":hook:", "🪝"), (":horse:", "🐴"),
     (":horse_racing:", "🏇"), (":hospital:", "🏥"), (":hot_face:", "🥵"), (":hot_pepper:", "🌶"),
     (":hotdog:", "🌭"), (":hotel:", "🏨"), (":hotsprings:", "♨"), (":hourglass:", "⌛"),
     (":hourglass_flowing_sand:", "⏳"), (":house:", "🏠"), (":house_abandoned:", "🏚"),
     (":house_with_garden:", "🏡"), (":hugging:", "🤗"), (":hushed:", "😯"), (":hut:", "🛖"),
     (":hyacinth:", "🪻"), (":ice_cream:", "🍨"), (":ice_cube:", "🧊"), (":ice_skate:", "⛸"),
     (":icecream:", "🍦"), (":id:", "🆔"), (":identification_card:", "🪪"),
     (":ideograph_advantage:", "🉐"), (":imp:", "👿"), (":inbox_tray:", "📥"),
     (":incoming_envelope:", "📨"), (":index_pointing_at_the_viewer:", "🫵"), (":infinity:", "♾"),
     (":innocent:", "😇"), (":island:", "🏝"), (":izakaya_lantern:", "🏮"), (":jack_o_lantern:", "🎃"),
     (":japan:", "🗾"), (":japanese_castle:", "🏯"), (":japanese_goblin:", "👺"),
     (":japanese_ogre:", "👹"), (":jar:", "🫙"), (":jeans:", "👖"), (":jellyfish:", "🪼"),
     (":jigsaw:", "🧩"), (":joy:", "😂"), (":joy_cat:", "😹"), (":joystick:", "🕹"), (":kaaba:", "🕋"),
     (":kangaroo:", "🦘"), (":key2:", "🗝"), (":key:", "🔑"), (":keyboard:", "⌨"),
     (":keycap_ten:", "🔟"), (":khanda:", "🪯"), (":kimono:", "👘"), (":kiss:", "💋"),
     (":kissing:", "😗"), (":kissing_cat:", "😽"), (":kissing_closed_eyes:", "😚"),
     (":kissing_heart:", "😘"), (":kissing_smiling_eyes:", "😙"), (":kite:", "🪁"), (":kiwi:", "🥝"),
     (":knife:", "🔪"), (":knot:", "🪢"), (":koala:", "🐨"), (":koko:", "🈁"), (":lab_coat:", "🥼"),
     (":label:", "🏷"), (":lacrosse:", "🥍"), (":ladder:", "🪜"), (":lady_beetle:", "🐞"),
     (":large_blue_diamond:", "🔷"), (":large_orange_diamond:", "🔶"), (":last_quarter_moon:", "🌗"),
     (":last_quarter_moon_with_face:", "🌜"), (":laughing:", "😆"), (":leafy_green:", "🥬"),
     (":leaves:", "🍃"), (":ledger:", "📒"), (":left_facing_fist:", "🤛"), (":left_luggage:", "🛅"),
     (":leftwards_arrow_with_hook:", "↩"), (":leftwards_hand:", "🫲"),
     (":leftwards_pushing_hand:", "🫷"), (":leg:", "🦵"), (":lemon:", "🍋"), (":leo:", "♌"),
     (":leopard:", "🐆"), (":level_slider:", "🎚"), (":levitate:", "🕴"), (":libra:", "♎"),
     (":light_blue_heart:", "🩵"), (":light_rail:", "🚈"), (":link:", "🔗"), (":lion_face:", "🦁"),
     (":lips:", "👄"), (":lipstick:", "💄"), (":lizard:", "🦎"), (":llama:", "🦙"), (":lobster:", "🦞"),
     (":lock:", "🔒"), (":lock_with_ink_pen:", "🔏"), (":lollipop:", "🍭"), (":long_drum:", "🪘"),
     (":loop:", "➿"), (":lotus:", "🪷"), (":loud_sound:", "🔊"), (":loudspeaker:", "📢"),
     (":love_hotel:", "🏩"), (":love_letter:", "💌"), (":love_you_gesture:", "🤟"),
     (":low_battery:", "🪫"), (":low_brightness:", "🔅"), (":luggage:", "🧳"), (":lungs:", "🫁"),
     (":lying_face:", "🤥"), (":mag:", "🔍"), (":mag_right:", "🔎"), (":mage:", "🧙"),
     (":magic_wand:", "🪄"), (":magnet:", "🧲"), (":mahjong:", "🀄"), (":mailbox:", "📫"),
     (":mailbox_closed:", "📪"), (":mailbox_with_mail:", "📬"), (":mailbox_with_no_mail:", "📭"),
     (":male_sign:", "♂"), (":mammoth:", "🦣"), (":man:", "👨"), (":man_dancing:", "🕺"),
     (":man_in_tuxedo:", "🤵"), (":man_with_chinese_cap:", "👲"), (":mango:", "🥭"),
     (":mans_shoe:", "👞"), (":manual_wheelchair:", "🦽"), (":map:", "🗺"), (":maple_leaf:", "🍁"),
     (":maracas:", "🪇"), (":martial_arts_uniform:", "🥋"), (":mask:", "😷"), (":mate:", "🧉"),
     (":meat_on_bone:", "🍖"), (":mechanical_arm:", "🦾"), (":mechanical_leg:", "🦿"),
     (":medal:", "🏅"), (":medical_symbol:", "⚕"), (":mega:", "📣"), (":melon:", "🍈"),
     (":melting_face:", "🫠"), (":menorah:", "🕎"), (":mens:", "🚹"), (":merperson:", "🧜"),
     (":metal:", "🤘"), (":metro:", "🚇"), (":microbe:", "🦠"), (":microphone2:", "🎙"),
     (":microphone:", "🎤"), (":microscope:", "🔬"), (":middle_finger:", "🖕"),
     (":military_helmet:", "🪖"), (":military_medal:", "🎖"), (":milk:", "🥛"), (":milky_way:", "🌌"),
     (":minibus:", "🚐"), (":minidisc:", "💽"), (":mirror:", "🪞"), (":mirror_ball:", "🪩"),
     (":mobile_phone:", "📱"), (":mobile_phone_off:", "📴"), (":money_mouth:", "🤑"),
     (":money_with_wings:", "💸"), (":moneybag:", "💰"), (":monkey:", "🐒"), (":monkey_face:", "🐵"),
     (":monorail:", "🚝"), (":moon_cake:", "🥮"), (":moose:", "🫎"), (":mortar_board:", "🎓"),
     (":mosque:", "🕌"), (":mosquito:", "🦟"), (":motor_scooter:", "🛵"), (":motorboat:", "🛥"),
     (":motorcycle:", "🏍"), (":motorized_wheelchair:", "🦼"), (":motorway:", "🛣"),
     (":mount_fuji:", "🗻"), (":mountain:", "⛰"), (":mountain_cableway:", "🚠"),
     (":mountain_railway:", "🚞"), (":mountain_snow:", "🏔"), (":mouse2:", "🐁"), (":mouse:", "🐭"),
     (":mouse_three_button:", "🖱"), (":mouse_trap:", "🪤"), (":movie_camera:", "🎥"),
     (":moyai:", "🗿"), (":mrs_claus:", "🤶"), (":muscle:", "💪"), (":mushroom:", "🍄"),
     (":musical_keyboard:", "🎹"), (":musical_note:", "🎵"), (":musical_score:", "🎼"),
     (":mute:", "🔇"), (":nail_care:", "💅"), (":name_badge:", "📛"), (":nauseated_face:", "🤢"),
     (":nazar_amulet:", "🧿"), (":necktie:", "👔"), (":negative_squared_cross_mark:", "❎"),
     (":nerd:", "🤓"), (":nest_with_eggs:", "🪺"), (":nesting_dolls:", "🪆"), (":neutral_face:", "😐"),
     (":new:", "🆕"), (":new_moon:", "🌑"), (":new_moon_with_face:", "🌚"), (":newspaper2:", "🗞"),
     (":newspaper:", "📰"), (":ng:", "🆖"), (":night_with_stars:", "🌃"), (":ninja:", "🥷"),
     (":no_bell:", "🔕"), (":no_bicycles:", "🚳"), (":no_entry:", "⛔"), (":no_entry_sign:", "🚫"),
     (":no_mobile_phones:", "📵"), (":no_mouth:", "😶"), (":no_pedestrians:", "🚷"),
     (":no_smoking:", "🚭"), (":non-potable_water:", "🚱"), (":nose:", "👃"), (":notebook:", "📓"),
     (":notebook_with_decorative_cover:", "📔"), (":notepad_spiral:", "🗒"), (":notes:", "🎶"),
     (":nut_and_bolt:", "🔩"), (":o:", "⭕"), (":ocean:", "🌊"), (":octagonal_sign:", "🛑"),
     (":octopus:", "🐙"), (":oden:", "🍢"), (":office:", "🏢"), (":oil:", "🛢"), (":ok:", "🆗"),
     (":ok_hand:", "👌"), (":older_adult:", "🧓"), (":older_man:", "👴"), (":older_woman:", "👵"),
     (":olive:", "🫒"), (":om_symbol:", "🕉"), (":on:", "🔛"), (":oncoming_automobile:", "🚘"),
     (":oncoming_bus:", "🚍"), (":oncoming_police_car:", "🚔"), (":oncoming_taxi:", "🚖"),
     (":one_piece_swimsuit:", "🩱"), (":onion:", "🧅"), (":open_file_folder:", "📂"),
     (":open_hands:", "👐"), (":open_mouth:", "😮"), (":ophiuchus:", "⛎"), (":orange_book:", "📙"),
     (":orange_circle:", "🟠"), (":orange_heart:", "🧡"), (":orange_square:", "🟧"),
     (":orangutan:", "🦧"), (":orthodox_cross:", "☦"), (":otter:", "🦦"), (":outbox_tray:", "📤"),
     (":owl:", "🦉"), (":ox:", "🐂"), (":oyster:", "🦪"), (":package:", "📦"),
     (":page_facing_up:", "📄"), (":page_with_curl:", "📃"), (":pager:", "📟"), (":paintbrush:", "🖌"),
     (":palm_down_hand:", "🫳"), (":palm_tree:", "🌴"), (":palm_up_hand:", "🫴"),
     (":palms_up_together:", "🤲"), (":pancakes:", "🥞"), (":panda_face:", "🐼"), (":paperclip:", "📎"),
     (":paperclips:", "🖇"), (":parachute:", "🪂"), (":park:", "🏞"), (":parrot:", "🦜"),
     (":part_alternation_mark:", "〽"), (":partly_sunny:", "⛅"), (":partying_face:", "🥳"),
     (":passport_control:", "🛂"), (":pause_button:", "⏸"), (":pea_pod:", "🫛"), (":peace:", "☮"),
     (":peach:", "🍑"), (":peacock:", "🦚"), (":peanuts:", "🥜"), (":pear:", "🍐"),
     (":pen_ballpoint:", "🖊"), (":pen_fountain:", "🖋"), (":pencil2:", "✏"), (":pencil:", "📝"),
     (":penguin:", "🐧"), (":pensive:", "😔"), (":people_hugging:", "🫂"),
     (":people_with_bunny_ears_partying:", "👯"), (":people_wrestling:", "🤼"),
     (":performing_arts:", "🎭"), (":persevere:", "😣"), (":person_biking:", "🚴"),
     (":person_bouncing_ball:", "⛹"), (":person_bowing:", "🙇"), (":person_climbing:", "🧗"),
     (":person_doing_cartwheel:", "🤸"), (":person_facepalming:", "🤦"), (":person_fencing:", "🤺"),
     (":person_frowning:", "🙍"), (":person_gesturing_no:", "🙅"), (":person_gesturing_ok:", "🙆"),
     (":person_getting_haircut:", "💇"), (":person_getting_massage:", "💆"),
     (":person_golfing:", "🏌"), (":person_in_lotus_position:", "🧘"),
     (":person_in_steamy_room:", "🧖"), (":person_juggling:", "🤹"), (":person_kneeling:", "🧎"),
     (":person_lifting_weights:", "🏋"), (":person_mountain_biking:", "🚵"),
     (":person_playing_handball:", "🤾"), (":person_playing_water_polo:", "🤽"),
     (":person_pouting:", "🙎"), (":person_raising_hand:", "🙋"), (":person_rowing_boat:", "🚣"),
     (":person_running:", "🏃"), (":person_shrugging:", "🤷"), (":person_standing:", "🧍"),
     (":person_surfing:", "🏄"), (":person_swimming:", "🏊"), (":person_tipping_hand:", "💁"),
     (":person_walking:", "🚶"), (":person_wearing_turban:", "👳"), (":person_with_crown:", "🫅"),
     (":petri_dish:", "🧫"), (":pick:", "⛏"), (":pickup_truck:", "🛻"), (":pie:", "🥧"),
     (":pig2:", "🐖"), (":pig:", "🐷"), (":pig_nose:", "🐽"), (":pill:", "💊"), (":pinata:", "🪅"),
     (":pinched_fingers:", "🤌"), (":pinching_hand:", "🤏"), (":pineapple:", "🍍"),
     (":ping_pong:", "🏓"), (":pink_heart:", "🩷"), (":pisces:", "♓"), (":pizza:", "🍕"),
     (":placard:", "🪧"), (":place_of_worship:", "🛐"), (":play_pause:", "⏯"),
     (":playground_slide:", "🛝"), (":pleading_face:", "🥺"), (":plunger:", "🪠"),
     (":point_down:", "👇"), (":point_left:", "👈"), (":point_right:", "👉"), (":point_up:", "☝"),
     (":point_up_2:", "👆"), (":police_car:", "🚓"), (":police_officer:", "👮"), (":poodle:", "🐩"),
     (":poop:", "💩"), (":popcorn:", "🍿"), (":post_office:", "🏣"), (":postal_horn:", "📯"),
     (":postbox:", "📮"), (":potable_water:", "🚰"), (":potato:", "🥔"), (":potted_plant:", "🪴"),
     (":pouch:", "👝"), (":poultry_leg:", "🍗"), (":pound:", "💷"), (":pouring_liquid:", "🫗"),
     (":pouting_cat:", "😾"), (":pray:", "🙏"), (":prayer_beads:", "📿"), (":pregnant_man:", "🫃"),
     (":pregnant_person:", "🫄"), (":pregnant_woman:", "🤰"), (":pretzel:", "🥨"), (":prince:", "🤴"),
     (":princess:", "👸"), (":printer:", "🖨"), (":probing_cane:", "🦯"), (":projector:", "📽"),
     (":punch:", "👊"), (":purple_circle:", "🟣"), (":purple_heart:", "💜"), (":purple_square:", "🟪"),
     (":purse:", "👛"), (":pushpin:", "📌"), (":put_litter_in_its_place:", "🚮"), (":question:", "❓"),
     (":rabbit2:", "🐇"), (":rabbit:", "🐰"), (":raccoon:", "🦝"), (":race_car:", "🏎"),
     (":racehorse:", "🐎"), (":radio:", "📻"), (":radio_button:", "🔘"), (":radioactive:", "☢"),
     (":rage:", "😡"), (":railway_car:", "🚃"), (":railway_track:", "🛤"), (":rainbow:", "🌈"),
     (":raised_back_of_hand:", "🤚"), (":raised_hand:", "✋"), (":raised_hands:", "🙌"),
     (":ram:", "🐏"), (":ramen:", "🍜"), (":rat:", "🐀"), (":razor:", "🪒"), (":receipt:", "🧾"),
     (":record_button:", "⏺"), (":recycle:", "♻"), (":red_car:", "🚗"), (":red_circle:", "🔴"),
     (":red_envelope:", "🧧"), (":red_square:", "🟥"), (":relaxed:", "☺"), (":relieved:", "😌"),
     (":reminder_ribbon:", "🎗"), (":repeat:", "🔁"), (":repeat_one:", "🔂"), (":restroom:", "🚻"),
     (":revolving_hearts:", "💞"), (":rewind:", "⏪"), (":rhino:", "🦏"), (":ribbon:", "🎀"),
     (":rice:", "🍚"), (":rice_ball:", "🍙"), (":rice_cracker:", "🍘"), (":rice_scene:", "🎑"),
     (":right_facing_fist:", "🤜"), (":rightwards_hand:", "🫱"), (":rightwards_pushing_hand:", "🫸"),
     (":ring:", "💍"), (":ring_buoy:", "🛟"), (":ringed_planet:", "🪐"), (":robot:", "🤖"),
     (":rock:", "🪨"), (":rocket:", "🚀"), (":rofl:", "🤣"), (":roll_of_paper:", "🧻"),
     (":roller_coaster:", "🎢"), (":roller_skate:", "🛼"), (":rolling_eyes:", "🙄"),
     (":rooster:", "🐓"), (":rose:", "🌹"), (":rosette:", "🏵"), (":rotating_light:", "🚨"),
     (":round_pushpin:", "📍"), (":rugby_football:", "🏉"), (":running_shirt_with_sash:", "🎽"),
     (":sa:", "🈂"), (":safety_pin:", "🧷"), (":safety_vest:", "🦺"), (":sagittarius:", "♐"),
     (":sailboat:", "⛵"), (":sake:", "🍶"), (":salad:", "🥗"), (":salt:", "🧂"),
     (":saluting_face:", "🫡"), (":sandal:", "👡"), (":sandwich:", "🥪"), (":santa:", "🎅"),
     (":sari:", "🥻"), (":satellite:", "📡"), (":satellite_orbital:", "🛰"), (":sauropod:", "🦕"),
     (":saxophone:", "🎷"), (":scales:", "⚖"), (":scarf:", "🧣"), (":school:", "🏫"),
     (":school_satchel:", "🎒"), (":scissors:", "✂"), (":scooter:", "🛴"), (":scorpion:", "🦂"),
     (":scorpius:", "♏"), (":scream:", "😱"), (":scream_cat:", "🙀"), (":screwdriver:", "🪛"),
     (":scroll:", "📜"), (":seal:", "🦭"), (":seat:", "💺"), (":second_place:", "🥈"),
     (":see_no_evil:", "🙈"), (":seedling:", "🌱"), (":selfie:", "🤳"), (":sewing_needle:", "🪡"),
     (":shaking_face:", "🫨"), (":shallow_pan_of_food:", "🥘"), (":shamrock:", "☘"), (":shark:", "🦈"),
     (":shaved_ice:", "🍧"), (":sheep:", "🐑"), (":shell:", "🐚"), (":shield:", "🛡"),
     (":shinto_shrine:", "⛩"), (":ship:", "🚢"), (":shirt:", "👕"), (":shopping_bags:", "🛍"),
     (":shopping_cart:", "🛒"), (":shorts:", "🩳"), (":shower:", "🚿"), (":shrimp:", "🦐"),
     (":shushing_face:", "🤫"), (":signal_strength:", "📶"), (":six_pointed_star:", "🔯"),
     (":skateboard:", "🛹"), (":ski:", "🎿"), (":skier:", "⛷"), (":skull:", "💀"),
     (":skull_crossbones:", "☠"), (":skunk:", "🦨"), (":sled:", "🛷"), (":sleeping:", "😴"),
     (":sleeping_accommodation:", "🛌"), (":sleepy:", "😪"), (":slight_frown:", "🙁"),
     (":slight_smile:", "🙂"), (":slot_machine:", "🎰"), (":sloth:", "🦥"),
     (":small_blue_diamond:", "🔹"), (":small_orange_diamond:", "🔸"), (":small_red_triangle:", "🔺"),
     (":small_red_triangle_down:", "🔻"), (":smile:", "😄"), (":smile_cat:", "😸"), (":smiley:", "😃"),
     (":smiley_cat:", "😺"), (":smiling_face_with_3_hearts:", "🥰"),
     (":smiling_face_with_tear:", "🥲"), (":smiling_imp:", "😈"), (":smirk:", "😏"),
     (":smirk_cat:", "😼"), (":smoking:", "🚬"), (":snail:", "🐌"), (":snake:", "🐍"),
     (":sneezing_face:", "🤧"), (":snowboarder:", "🏂"), (":snowflake:", "❄"), (":snowman2:", "☃"),
     (":snowman:", "⛄"), (":soap:", "🧼"), (":sob:", "😭"), (":soccer:", "⚽"), (":socks:", "🧦"),
     (":softball:", "🥎"), (":soon:", "🔜"), (":sos:", "🆘"), (":sound:", "🔉"),
     (":space_invader:", "👾"), (":spades:", "♠"), (":spaghetti:", "🍝"), (":sparkle:", "❇"),
     (":sparkler:", "🎇"), (":sparkles:", "✨"), (":sparkling_heart:", "💖"), (":speak_no_evil:", "🙊"),
     (":speaker:", "🔈"), (":speaking_head:", "🗣"), (":speech_balloon:", "💬"),
     (":speech_left:", "🗨"), (":speedboat:", "🚤"), (":spider:", "🕷"), (":spider_web:", "🕸"),
     (":sponge:", "🧽"), (":spoon:", "🥄"), (":squeeze_bottle:", "🧴"), (":squid:", "🦑"),
     (":stadium:", "🏟"), (":star2:", "🌟"), (":star:", "⭐"), (":star_and_crescent:", "☪"),
     (":star_of_david:", "✡"), (":star_struck:", "🤩"), (":stars:", "🌠"), (":station:", "🚉"),
     (":statue_of_liberty:", "🗽"), (":steam_locomotive:", "🚂"), (":stethoscope:", "🩺"),
     (":stew:", "🍲"), (":stop_button:", "⏹"), (":stopwatch:", "⏱"), (":straight_ruler:", "📏"),
     (":strawberry:", "🍓"), (":stuck_out_tongue:", "😛"), (":stuck_out_tongue_closed_eyes:", "😝"),
     (":stuck_out_tongue_winking_eye:", "😜"), (":stuffed_flatbread:", "🥙"),
     (":sun_with_face:", "🌞"), (":sunflower:", "🌻"), (":sunglasses:", "😎"), (":sunny:", "☀"),
     (":sunrise:", "🌅"), (":sunrise_over_mountains:", "🌄"), (":superhero:", "🦸"),
     (":supervillain:", "🦹"), (":sushi:", "🍣"), (":suspension_railway:", "🚟"), (":swan:", "🦢"),
     (":sweat:", "😓"), (":sweat_drops:", "💦"), (":sweat_smile:", "😅"), (":sweet_potato:", "🍠"),
     (":symbols:", "🔣"), (":synagogue:", "🕍"), (":syringe:", "💉"), (":t_rex:", "🦖"),
     (":taco:", "🌮"), (":tada:", "🎉"), (":takeout_box:", "🥡"), (":tamale:", "🫔"),
     (":tanabata_tree:", "🎋"), (":tangerine:", "🍊"), (":taurus:", "♉"), (":taxi:", "🚕"),
     (":tea:", "🍵"), (":teapot:", "🫖"), (":teddy_bear:", "🧸"), (":telephone:", "☎"),
     (":telephone_receiver:", "📞"), (":telescope:", "🔭"), (":tennis:", "🎾"), (":tent:", "⛺"),
     (":test_tube:", "🧪"), (":thermometer:", "🌡"), (":thermometer_face:", "🤒"), (":thinking:", "🤔"),
     (":third_place:", "🥉"), (":thong_sandal:", "🩴"), (":thought_balloon:", "💭"), (":thread:", "🧵"),
     (":thumbsdown:", "👎"), (":thumbsup:", "👍"), (":thunder_cloud_rain:", "⛈"), (":ticket:", "🎫"),
     (":tickets:", "🎟"), (":tiger2:", "🐅"), (":tiger:", "🐯"), (":timer:", "⏲"),
     (":tired_face:", "😫"), (":toilet:", "🚽"), (":tokyo_tower:", "🗼"), (":tomato:", "🍅"),
     (":tongue:", "👅"), (":toolbox:", "🧰"), (":tools:", "🛠"), (":tooth:", "🦷"),
     (":toothbrush:", "🪥"), (":top:", "🔝"), (":tophat:", "🎩"), (":track_next:", "⏭"),
     (":track_previous:", "⏮"), (":trackball:", "🖲"), (":tractor:", "🚜"), (":traffic_light:", "🚥"),
     (":train2:", "🚆"), (":train:", "🚋"), (":tram:", "🚊"), (":triangular_flag_on_post:", "🚩"),
     (":triangular_ruler:", "📐"), (":trident:", "🔱"), (":triumph:", "😤"), (":troll:", "🧌"),
     (":trolleybus:", "🚎"), (":trophy:", "🏆"), (":tropical_drink:", "🍹"), (":tropical_fish:", "🐠"),
     (":truck:", "🚚"), (":trumpet:", "🎺"), (":tulip:", "🌷"), (":tumbler_glass:", "🥃"),
     (":turkey:", "🦃"), (":turtle:", "🐢"), (":tv:", "📺"), (":twisted_rightwards_arrows:", "🔀"),
     (":two_hearts:", "💕"), (":two_men_holding_hands:", "👬"), (":two_women_holding_hands:", "👭"),
     (":u5272:", "🈹"), (":u5408:", "🈴"), (":u55b6:", "🈺"), (":u6307:", "🈯"), (":u6708:", "🈷"),
     (":u6709:", "🈶"), (":u6e80:", "🈵"), (":u7121:", "🈚"), (":u7533:", "🈸"), (":u7981:", "🈲"),
     (":u7a7a:", "🈳"), (":umbrella2:", "☂"), (":umbrella:", "☔"), (":unamused:", "😒"),
     (":underage:", "🔞"), (":unicorn:", "🦄"), (":unlock:", "🔓"), (":up:", "🆙"),
     (":upside_down:", "🙃"), (":urn:", "⚱"), (":v:", "✌"), (":vampire:", "🧛"),
     (":vertical_traffic_light:", "🚦"), (":vhs:", "📼"), (":vibration_mode:", "📳"),
     (":video_camera:", "📹"), (":video_game:", "🎮"), (":violin:", "🎻"), (":virgo:", "♍"),
     (":volcano:", "🌋"), (":volleyball:", "🏐"), (":vs:", "🆚"), (":vulcan:", "🖖"), (":waffle:", "🧇"),
     (":waning_crescent_moon:", "🌘"), (":waning_gibbous_moon:", "🌖"), (":warning:", "⚠"),
     (":wastebasket:", "🗑"), (":watch:", "⌚"), (":water_buffalo:", "🐃"), (":watermelon:", "🍉"),
     (":wave:", "👋"), (":wavy_dash:", "〰"), (":waxing_crescent_moon:", "🌒"),
     (":waxing_gibbous_moon:", "🌔"), (":wc:", "🚾"), (":weary:", "😩"), (":wedding:", "💒"),
     (":whale2:", "🐋"), (":whale:", "🐳"), (":wheel:", "🛞"), (":wheel_of_dharma:", "☸"),
     (":wheelchair:", "♿"), (":white_check_mark:", "✅"), (":white_circle:", "⚪"),
     (":white_flower:", "💮"), (":white_heart:", "🤍"), (":white_large_square:", "⬜"),
     (":white_medium_small_square:", "◽"), (":white_medium_square:", "◻"),
     (":white_small_square:", "▫"), (":white_square_button:", "🔳"), (":white_sun_cloud:", "🌥"),
     (":white_sun_rain_cloud:", "🌦"), (":white_sun_small_cloud:", "🌤"), (":wilted_rose:", "🥀"),
     (":wind_blowing_face:", "🌬"), (":wind_chime:", "🎐"), (":window:", "🪟"), (":wine_glass:", "🍷"),
     (":wing:", "🪽"), (":wink:", "😉"), (":wireless:", "🛜"), (":wolf:", "🐺"), (":woman:", "👩"),
     (":woman_with_headscarf:", "🧕"), (":womans_clothes:", "👚"), (":womans_flat_shoe:", "🥿"),
     (":womans_hat:", "👒"), (":womens:", "🚺"), (":wood:", "🪵"), (":woozy_face:", "🥴"),
     (":worm:", "🪱"), (":worried:", "😟"), (":wrench:", "🔧"), (":writing_hand:", "✍"), (":x:", "❌"),
     (":x_ray:", "🩻"), (":yarn:", "🧶"), (":yawning_face:", "🥱"), (":yellow_circle:", "🟡"),
     (":yellow_heart:", "💛"), (":yellow_square:", "🟨"), (":yen:", "💴"), (":yin_yang:", "☯"),
     (":yo_yo:", "🪀"), (":yum:", "😋"), (":zany_face:", "🤪"), (":zap:", "⚡"), (":zebra:", "🦓"),
     (":zipper_mouth:", "🤐"), (":zombie:", "🧟"), (":zzz:", "💤")]

end Script
end Text
end SchemaBinding
