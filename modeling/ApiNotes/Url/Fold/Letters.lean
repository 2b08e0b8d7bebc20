/-!
# Letters that domain names fold to one letter

Capital letters become small ones, and letters in another shape become plain ones: wide and
narrow forms, letters of mathematical alphabets, letters in circles, presentation forms.
Most of them stand in the same order as what they become, so that whole runs are moved. The
tables are those of Unicode 17.
-/

namespace ApiNotes

namespace Url

/-- Runs that are moved: the first and the last code point, and that of the first image. -/
def movedRuns : List (Nat × Nat × Nat) :=
  [(0xC0, 0xD6, 0xE0), (0xD8, 0xDE, 0xF8), (0x391, 0x3A1, 0x3B1), (0x3A3, 0x3AB, 0x3C3),
   (0x400, 0x40F, 0x450), (0x410, 0x42F, 0x430), (0x531, 0x556, 0x561), (0x10A0, 0x10C5, 0x2D00),
   (0x13F8, 0x13FD, 0x13F0), (0x1C90, 0x1CBA, 0x10D0), (0x1D33, 0x1D3A, 0x67),
   (0x1DAE, 0x1DB1, 0x272), (0x1F08, 0x1F0F, 0x1F00), (0x1F18, 0x1F1D, 0x1F10),
   (0x1F28, 0x1F2F, 0x1F20), (0x1F38, 0x1F3F, 0x1F30), (0x1F48, 0x1F4D, 0x1F40),
   (0x1F68, 0x1F6F, 0x1F60), (0x2074, 0x2079, 0x34), (0x2080, 0x2089, 0x30),
   (0x2096, 0x2099, 0x6B), (0x2135, 0x2138, 0x5D0), (0x2460, 0x2468, 0x31),
   (0x24B6, 0x24CF, 0x61), (0x24D0, 0x24E9, 0x61), (0x2C00, 0x2C2F, 0x2C30),
   (0x313A, 0x313F, 0x11B0), (0x3145, 0x314E, 0x1109), (0x314F, 0x3163, 0x1161),
   (0x3178, 0x317C, 0x112B), (0x3269, 0x326D, 0x110E), (0x32E4, 0x32E9, 0x30CA),
   (0x32EE, 0x32F2, 0x30DE), (0x32F5, 0x32FA, 0x30E8), (0x32FB, 0x32FE, 0x30EF),
   (0xAB70, 0xABBF, 0x13A0), (0xFE41, 0xFE44, 0x300C), (0xFF01, 0xFF20, 0x21),
   (0xFF21, 0xFF3A, 0x61), (0xFF3B, 0xFF5E, 0x5B), (0xFF85, 0xFF8A, 0x30CA),
   (0xFF8F, 0xFF93, 0x30DE), (0xFF96, 0xFF9B, 0x30E8), (0xFFAA, 0xFFAF, 0x11B0),
   (0xFFB5, 0xFFBE, 0x1109), (0xFFC2, 0xFFC7, 0x1161), (0xFFCA, 0xFFCF, 0x1167),
   (0xFFD2, 0xFFD7, 0x116D), (0xFFE9, 0xFFEC, 0x2190), (0x10400, 0x10427, 0x10428),
   (0x104B0, 0x104D3, 0x104D8), (0x10570, 0x1057A, 0x10597), (0x1057C, 0x1058A, 0x105A3),
   (0x1058C, 0x10592, 0x105B3), (0x10C80, 0x10CB2, 0x10CC0), (0x10D50, 0x10D65, 0x10D70),
   (0x118A0, 0x118BF, 0x118C0), (0x16E40, 0x16E5F, 0x16E60), (0x16EA0, 0x16EB8, 0x16EBB),
   (0x1CCD6, 0x1CCEF, 0x61), (0x1CCF0, 0x1CCF9, 0x30), (0x1D400, 0x1D419, 0x61),
   (0x1D41A, 0x1D433, 0x61), (0x1D434, 0x1D44D, 0x61), (0x1D44E, 0x1D454, 0x61),
   (0x1D456, 0x1D467, 0x69), (0x1D468, 0x1D481, 0x61), (0x1D482, 0x1D49B, 0x61),
   (0x1D4A9, 0x1D4AC, 0x6E), (0x1D4AE, 0x1D4B5, 0x73), (0x1D4B6, 0x1D4B9, 0x61),
   (0x1D4BD, 0x1D4C3, 0x68), (0x1D4C5, 0x1D4CF, 0x70), (0x1D4D0, 0x1D4E9, 0x61),
   (0x1D4EA, 0x1D503, 0x61), (0x1D507, 0x1D50A, 0x64), (0x1D50D, 0x1D514, 0x6A),
   (0x1D516, 0x1D51C, 0x73), (0x1D51E, 0x1D537, 0x61), (0x1D53B, 0x1D53E, 0x64),
   (0x1D540, 0x1D544, 0x69), (0x1D54A, 0x1D550, 0x73), (0x1D552, 0x1D56B, 0x61),
   (0x1D56C, 0x1D585, 0x61), (0x1D586, 0x1D59F, 0x61), (0x1D5A0, 0x1D5B9, 0x61),
   (0x1D5BA, 0x1D5D3, 0x61), (0x1D5D4, 0x1D5ED, 0x61), (0x1D5EE, 0x1D607, 0x61),
   (0x1D608, 0x1D621, 0x61), (0x1D622, 0x1D63B, 0x61), (0x1D63C, 0x1D655, 0x61),
   (0x1D656, 0x1D66F, 0x61), (0x1D670, 0x1D689, 0x61), (0x1D68A, 0x1D6A3, 0x61),
   (0x1D6A8, 0x1D6B8, 0x3B1), (0x1D6BA, 0x1D6C0, 0x3C3), (0x1D6C2, 0x1D6D2, 0x3B1),
   (0x1D6D4, 0x1D6DA, 0x3C3), (0x1D6E2, 0x1D6F2, 0x3B1), (0x1D6F4, 0x1D6FA, 0x3C3),
   (0x1D6FC, 0x1D70C, 0x3B1), (0x1D70E, 0x1D714, 0x3C3), (0x1D71C, 0x1D72C, 0x3B1),
   (0x1D72E, 0x1D734, 0x3C3), (0x1D736, 0x1D746, 0x3B1), (0x1D748, 0x1D74E, 0x3C3),
   (0x1D756, 0x1D766, 0x3B1), (0x1D768, 0x1D76E, 0x3C3), (0x1D770, 0x1D780, 0x3B1),
   (0x1D782, 0x1D788, 0x3C3), (0x1D790, 0x1D7A0, 0x3B1), (0x1D7A2, 0x1D7A8, 0x3C3),
   (0x1D7AA, 0x1D7BA, 0x3B1), (0x1D7BC, 0x1D7C2, 0x3C3), (0x1D7CE, 0x1D7D7, 0x30),
   (0x1D7D8, 0x1D7E1, 0x30), (0x1D7E2, 0x1D7EB, 0x30), (0x1D7EC, 0x1D7F5, 0x30),
   (0x1D7F6, 0x1D7FF, 0x30), (0x1E030, 0x1E038, 0x430), (0x1E03C, 0x1E046, 0x43E),
   (0x1E051, 0x1E059, 0x430), (0x1E05F, 0x1E064, 0x443), (0x1E900, 0x1E921, 0x1E922),
   (0x1EE0A, 0x1EE0D, 0x643), (0x1EE2A, 0x1EE2D, 0x643), (0x1F130, 0x1F149, 0x61),
   (0x1FBF0, 0x1FBF9, 0x30)]

/-- Runs in which every second character, the first and the last included, becomes the one
behind it. -/
def pairedRuns : List (Nat × Nat) :=
  [(0x100, 0x12E), (0x139, 0x13D), (0x141, 0x147), (0x14A, 0x176), (0x179, 0x17D), (0x1A0, 0x1A4),
   (0x1CD, 0x1DB), (0x1DE, 0x1EE), (0x1F8, 0x21E), (0x222, 0x232), (0x246, 0x24E), (0x3D8, 0x3EE),
   (0x460, 0x480), (0x48A, 0x4BE), (0x4C1, 0x4CD), (0x4D0, 0x52E), (0x1E00, 0x1E94),
   (0x1EA0, 0x1EFE), (0x2C67, 0x2C6B), (0x2C80, 0x2CE2), (0xA640, 0xA66C), (0xA680, 0xA69A),
   (0xA722, 0xA72E), (0xA732, 0xA76E), (0xA77E, 0xA786), (0xA796, 0xA7A8), (0xA7B4, 0xA7C2),
   (0xA7CC, 0xA7DA)]

/-- Rows of characters: the code point of the first one, and the images of all of them. -/
def letterRows : List (Nat × String) :=
  [(0xA0, " "), (0xAA, "a"), (0xB2, "23"), (0xB5, "μ"), (0xB9, "1o"), (0x134, "ĵ"), (0x136, "ķ"),
   (0x178, "ÿ"), (0x17F, "s"), (0x181, "ɓƃ"), (0x184, "ƅ"), (0x186, "ɔƈ"), (0x189, "ɖɗƌ"),
   (0x18E, "ǝəɛƒ"), (0x193, "ɠɣ"), (0x196, "ɩɨƙ"), (0x19C, "ɯɲ"), (0x19F, "ɵ"), (0x1A6, "ʀƨ"),
   (0x1A9, "ʃ"), (0x1AC, "ƭ"), (0x1AE, "ʈư"), (0x1B1, "ʊʋƴ"), (0x1B5, "ƶ"), (0x1B7, "ʒƹ"),
   (0x1BC, "ƽ"), (0x1F4, "ǵ"), (0x1F6, "ƕƿ"), (0x220, "ƞ"), (0x23A, "ⱥȼ"), (0x23D, "ƚⱦ"),
   (0x241, "ɂ"), (0x243, "ƀʉʌ"), (0x2B0, "hɦjrɹɻʁwy"), (0x2E0, "ɣlsxʕ"), (0x340, "\u0300\u0301"),
   (0x343, "\u0313"), (0x345, "ι"), (0x370, "ͱ"), (0x372, "ͳ"), (0x374, "ʹ"), (0x376, "ͷ"),
   (0x37E, ";ϳ"), (0x386, "ά·έήί"), (0x38C, "ό"), (0x38E, "ύώ"), (0x3CF, "ϗβθυύϋφπ"),
   (0x3F0, "κρσ"), (0x3F4, "θε"), (0x3F7, "ϸ"), (0x3F9, "σϻ"), (0x3FD, "ͻͼͽ"), (0x4C0, "ӏ"),
   (0xF0C, "་"), (0x10C7, "ⴧ"), (0x10CD, "ⴭ"), (0x10FC, "ნ"), (0x1C80, "вдосттъѣꙋᲊ"),
   (0x1CBD, "ჽჾჿ"), (0x1D2C, "aæb"), (0x1D30, "deǝ"), (0x1D3C, "oȣprtuwaɐɑᴂbdeəɛɜg"),
   (0x1D4F, "kmŋoɔᴖᴗptuᴝɯvᴥβγδφχiruvβγρφχ"), (0x1D78, "н"), (0x1D9B, "ɒcɕðɜfɟɡɥɨɩɪᵻʝɭᶅʟɱɰ"),
   (0x1DB2, "ɸʂʃƫʉʊᴜʋʌzʐʑʒθ"), (0x1E9B, "ṡ"), (0x1E9E, "ß"), (0x1F59, "ὑ"), (0x1F5B, "ὓ"),
   (0x1F5D, "ὕ"), (0x1F5F, "ὗ"), (0x1F71, "ά"), (0x1F73, "έ"), (0x1F75, "ή"), (0x1F77, "ί"),
   (0x1F79, "ό"), (0x1F7B, "ύ"), (0x1F7D, "ώ"), (0x1FB8, "ᾰᾱὰά"), (0x1FBE, "ι"), (0x1FC8, "ὲέὴή"),
   (0x1FD3, "ΐ"), (0x1FD8, "ῐῑὶί"), (0x1FE3, "ΰ"), (0x1FE8, "ῠῡὺύῥ"), (0x1FEF, "`"),
   (0x1FF8, "ὸόὼώ"), (0x2000, "           "), (0x2011, "‐"), (0x202F, " "), (0x205F, " "),
   (0x2070, "0i"), (0x207A, "+−=()n"), (0x208A, "+−=()"), (0x2090, "aeoxəh"), (0x209A, "pst"),
   (0x2102, "c"), (0x2107, "ɛ"), (0x210A, "ghhhhħiill"), (0x2115, "n"), (0x2119, "pqrrr"),
   (0x2124, "z"), (0x2126, "ω"), (0x2128, "z"), (0x212A, "kåbc"), (0x212F, "eefⅎmo"),
   (0x2139, "i"), (0x213C, "πγγπ∑"), (0x2145, "ddeij"), (0x2160, "i"), (0x2164, "v"),
   (0x2169, "x"), (0x216C, "lcdmi"), (0x2174, "v"), (0x2179, "x"), (0x217C, "lcdm"),
   (0x2183, "ↄ"), (0x2329, "〈〉"), (0x24EA, "0"), (0x2C60, "ⱡ"), (0x2C62, "ɫᵽɽ"), (0x2C6D, "ɑɱɐɒ"),
   (0x2C72, "ⱳ"), (0x2C75, "ⱶ"), (0x2C7C, "jvȿɀ"), (0x2CEB, "ⳬ"), (0x2CED, "ⳮ"), (0x2CF2, "ⳳ"),
   (0x2D6F, "ⵡ"), (0x2E9F, "母"), (0x2EF3, "龟"),
   (0x2F00, "一丨丶丿乙亅二亠人儿入八冂冖冫几凵刀力勹匕匚匸十卜卩厂厶又口囗土士夂夊夕大女子宀寸小尢尸屮山巛工己巾干幺广廴廾弋弓彐彡彳心戈戶手支攴文斗斤方"),
   (0x2F46, "无日曰月木欠止歹殳毋比毛氏气水火爪父爻爿片牙牛犬玄玉瓜瓦甘生用田疋疒癶白皮皿目矛矢石示禸禾穴立竹米糸缶网羊羽老而耒耳聿肉臣自至臼舌舛舟艮色艸"),
   (0x2F8C, "虍虫血行衣襾見角言谷豆豕豸貝赤走足身車辛辰辵邑酉釆里金長門阜隶隹雨靑非面革韋韭音頁風飛食首香馬骨高髟鬥鬯鬲鬼魚鳥鹵鹿麥麻黃黍黑黹黽鼎鼓鼠鼻齊"),
   (0x2FD2, "齒龍龜龠"), (0x3000, " "), (0x3002, "."), (0x3036, "〒"), (0x3038, "十卄卅"),
   (0x3131, "ᄀᄁᆪᄂᆬᆭᄃᄄᄅ"), (0x3140, "ᄚᄆᄇᄈᄡ"), (0x3165, "ᄔᄕᇇᇈᇌᇎᇓᇗᇙᄜᇝᇟᄝᄞᄠᄢᄣᄧᄩ"),
   (0x317D, "ᄲᄶᅀᅇᅌᇱᇲᅗᅘᅙᆄᆅᆈᆑᆒᆔᆞᆡ"), (0x3192, "一二三四上中下甲乙丙丁天地人"), (0x3244, "問幼文箏"),
   (0x3260, "ᄀᄂᄃᄅᄆᄇᄉᄋᄌ"), (0x326E, "가나다라마바사아자차카타파하"), (0x327E, "우"),
   (0x3280, "一二三四五六七八九十月火水木金土日株有社名特財祝労秘男女適優印注項休写正上中下左右医宗学監企資協夜"),
   (0x32D0, "アイウエオカキクケコサシスセソタチツテト"), (0x32EA, "ヒフヘホ"), (0x32F3, "ヤユ"), (0xA69C, "ъь"),
   (0xA770, "ꝯ"), (0xA779, "ꝺ"), (0xA77B, "ꝼ"), (0xA77D, "ᵹ"), (0xA78B, "ꞌ"), (0xA78D, "ɥ"),
   (0xA790, "ꞑ"), (0xA792, "ꞓ"), (0xA7AA, "ɦɜɡɬɪ"), (0xA7B0, "ʞʇʝꭓ"), (0xA7C4, "ꞔʂᶎꟈ"),
   (0xA7C9, "ꟊ"), (0xA7CB, "ɤ"), (0xA7DC, "ƛ"), (0xA7F1, "scfqꟶ"), (0xA7F8, "ħœ"),
   (0xAB5C, "ꜧꬷɫꭒ"), (0xAB69, "ʍ"),
   (0xF900, "豈更車賈滑串句龜龜契金喇奈懶癩羅蘿螺裸邏樂洛烙珞落酪駱亂卵欄爛蘭鸞嵐濫藍襤拉臘蠟廊朗浪狼郎來冷勞擄櫓爐盧老蘆虜路露魯鷺碌祿綠菉錄鹿論壟弄籠聾"),
   (0xF946, "牢磊賂雷壘屢樓淚漏累縷陋勒肋凜凌稜綾菱陵讀拏樂諾丹寧怒率異北磻便復不泌數索參塞省葉說殺辰沈拾若掠略亮兩凉梁糧良諒量勵呂女廬旅濾礪閭驪麗黎力曆"),
   (0xF98C, "歷轢年憐戀撚漣煉璉秊練聯輦蓮連鍊列劣咽烈裂說廉念捻殮簾獵令囹寧嶺怜玲瑩羚聆鈴零靈領例禮醴隸惡了僚寮尿料樂燎療蓼遼龍暈阮劉杻柳流溜琉留硫紐類六"),
   (0xF9D2, "戮陸倫崙淪輪律慄栗率隆利吏履易李梨泥理痢罹裏裡里離匿溺吝燐璘藺隣鱗麟林淋臨立笠粒狀炙識什茶刺切度拓糖宅洞暴輻行降見廓兀嗀"), (0xFA10, "塚"),
   (0xFA12, "晴"), (0xFA15, "凞猪益礼神祥福靖精羽"), (0xFA20, "蘒"), (0xFA22, "諸"), (0xFA25, "逸都"),
   (0xFA2A, "飯飼館鶴郞隷侮僧免勉勤卑喝嘆器塀墨層屮悔慨憎懲敏既暑梅海渚漢煮爫琢碑社祉祈祐祖祝禍禎穀突節練縉繁署者臭艹艹著褐視謁謹賓贈辶逸難響頻恵𤋮舘"),
   (0xFA70, "並况全侀充冀勇勺喝啕喙嗢塚墳奄奔婢嬨廒廙彩徭惘慎愈憎慠懲戴揄搜摒敖晴朗望杖歹殺流滛滋漢瀞煮瞧爵犯猪瑱甆画瘝瘟益盛直睊着磌窱節类絛練缾者荒華蝹"),
   (0xFAB6, "襁覆視調諸請謁諾諭謹變贈輸遲醙鉶陼難靖韛響頋頻鬒龜𢡊𢡄𣏕㮝䀘䀹𥉉𥳐𧻓齃龎"),
   (0xFB20, "\u05e2\u05d0\u05d3\u05d4\u05db\u05dc\u05dd\u05e8\u05ea+"),
   (0xFB50, "\u0671\u0671\u067b\u067b\u067b\u067b\u067e\u067e\u067e\u067e\u0680"),
   (0xFB5B, "\u0680\u0680\u0680\u067a\u067a\u067a\u067a\u067f\u067f\u067f\u067f"),
   (0xFB66, "\u0679\u0679\u0679\u0679\u06a4\u06a4\u06a4\u06a4\u06a6\u06a6\u06a6"),
   (0xFB71, "\u06a6\u0684\u0684\u0684\u0684\u0683\u0683\u0683\u0683\u0686\u0686"),
   (0xFB7C, "\u0686\u0686\u0687\u0687\u0687\u0687\u068d\u068d\u068c\u068c\u068e"),
   (0xFB87, "\u068e\u0688\u0688\u0698\u0698\u0691\u0691\u06a9\u06a9\u06a9\u06a9"),
   (0xFB92, "\u06af\u06af\u06af\u06af\u06b3\u06b3\u06b3\u06b3\u06b1\u06b1\u06b1"),
   (0xFB9D, "\u06b1\u06ba\u06ba\u06bb\u06bb\u06bb\u06bb\u06c0\u06c0\u06c1\u06c1"),
   (0xFBA8, "\u06c1\u06c1\u06be\u06be\u06be\u06be\u06d2\u06d2\u06d3\u06d3"),
   (0xFBD3, "\u06ad\u06ad\u06ad\u06ad\u06c7\u06c7\u06c6\u06c6\u06c8\u06c8"),
   (0xFBDE, "\u06cb\u06cb\u06c5\u06c5\u06c9\u06c9\u06d0\u06d0\u06d0\u06d0\u0649"),
   (0xFBE9, "\u0649"), (0xFBFC, "\u06cc\u06cc\u06cc\u06cc"), (0xFE10, ",、"), (0xFE13, ":;!?〖〗"),
   (0xFE31, "—–__()\x7b\x7d〔〕【】《》〈〉"), (0xFE47, "[]"), (0xFE4D, "___,、"),
   (0xFE54, ";:?!—()\x7b\x7d〔〕#&*+-<>="), (0xFE68, "\\$%@"),
   (0xFE80, "\u0621\u0622\u0622\u0623\u0623\u0624\u0624\u0625\u0625\u0626\u0626"),
   (0xFE8B, "\u0626\u0626\u0627\u0627\u0628\u0628\u0628\u0628\u0629\u0629\u062a"),
   (0xFE96, "\u062a\u062a\u062a\u062b\u062b\u062b\u062b\u062c\u062c\u062c\u062c"),
   (0xFEA1, "\u062d\u062d\u062d\u062d\u062e\u062e\u062e\u062e\u062f\u062f\u0630"),
   (0xFEAC, "\u0630\u0631\u0631\u0632\u0632\u0633\u0633\u0633\u0633\u0634\u0634"),
   (0xFEB7, "\u0634\u0634\u0635\u0635\u0635\u0635\u0636\u0636\u0636\u0636\u0637"),
   (0xFEC2, "\u0637\u0637\u0637\u0638\u0638\u0638\u0638\u0639\u0639\u0639\u0639"),
   (0xFECD, "\u063a\u063a\u063a\u063a\u0641\u0641\u0641\u0641\u0642\u0642\u0642"),
   (0xFED8, "\u0642\u0643\u0643\u0643\u0643\u0644\u0644\u0644\u0644\u0645\u0645"),
   (0xFEE3, "\u0645\u0645\u0646\u0646\u0646\u0646\u0647\u0647\u0647\u0647\u0648"),
   (0xFEEE, "\u0648\u0649\u0649\u064a\u064a\u064a\u064a"),
   (0xFF5F, "⦅⦆.「」、・ヲァィゥェォャュョッーアイウエオカキクケコサシスセソタチツテト"), (0xFF8B, "ヒフヘホ"), (0xFF94, "ヤユ"),
   (0xFF9C, "ワン\u3099\u309a"), (0xFFA1, "ᄀᄁᆪᄂᆬᆭᄃᄄᄅ"), (0xFFB0, "ᄚᄆᄇᄈᄡ"), (0xFFDA, "ᅳᅴᅵ"),
   (0xFFE0, "¢£¬"), (0xFFE4, "¦¥₩"), (0xFFE8, "│"), (0xFFED, "■○"), (0x10594, "𐖻𐖼"),
   (0x10781, "ːˑæʙɓ"), (0x10787, "ʣꭦʥʤɖɗᶑɘɞʩɤɢɠʛħʜɧʄʪʫɬ𝼄ꞎɮ𝼅ʎ𝼆øɶɷqɺ𝼈ɽɾʀʨʦꭧʧʈⱱ"),
   (0x107B2, "ʏʡʢʘǀǁǂ𝼊𝼞"), (0x1D49C, "a"), (0x1D49E, "cd"), (0x1D4A2, "g"), (0x1D4A5, "jk"),
   (0x1D4BB, "f"), (0x1D504, "ab"), (0x1D538, "ab"), (0x1D546, "o"), (0x1D6A4, "ıȷ"),
   (0x1D6B9, "θ"), (0x1D6C1, "∇"), (0x1D6D3, "σ"), (0x1D6DB, "∂εθκφρπ"), (0x1D6F3, "θ"),
   (0x1D6FB, "∇"), (0x1D70D, "σ"), (0x1D715, "∂εθκφρπ"), (0x1D72D, "θ"), (0x1D735, "∇"),
   (0x1D747, "σ"), (0x1D74F, "∂εθκφρπ"), (0x1D767, "θ"), (0x1D76F, "∇"), (0x1D781, "σ"),
   (0x1D789, "∂εθκφρπ"), (0x1D7A1, "θ"), (0x1D7A9, "∇"), (0x1D7BB, "σ"), (0x1D7C3, "∂εθκφρπϝϝ"),
   (0x1E039, "клм"), (0x1E047, "ыэюꚉәіјөүӏ"), (0x1E05A, "клопс"), (0x1E065, "ъыґіѕџҫꙑұ"),
   (0x1EE00, "\u0627\u0628\u062c\u062f"), (0x1EE05, "\u0648\u0632\u062d\u0637\u064a"),
   (0x1EE0E, "\u0633\u0639\u0641\u0635\u0642\u0631\u0634\u062a\u062b\u062e\u0630"),
   (0x1EE19, "\u0636\u0638\u063a\u066e\u06ba\u06a1\u066f"), (0x1EE21, "\u0628\u062c"),
   (0x1EE24, "\u0647"), (0x1EE27, "\u062d"), (0x1EE29, "\u064a"),
   (0x1EE2E, "\u0633\u0639\u0641\u0635\u0642"), (0x1EE34, "\u0634\u062a\u062b\u062e"),
   (0x1EE39, "\u0636"), (0x1EE3B, "\u063a"), (0x1EE42, "\u062c"), (0x1EE47, "\u062d"),
   (0x1EE49, "\u064a"), (0x1EE4B, "\u0644"), (0x1EE4D, "\u0646\u0633\u0639"),
   (0x1EE51, "\u0635\u0642"), (0x1EE54, "\u0634"), (0x1EE57, "\u062e"), (0x1EE59, "\u0636"),
   (0x1EE5B, "\u063a"), (0x1EE5D, "\u06ba"), (0x1EE5F, "\u066f"), (0x1EE61, "\u0628\u062c"),
   (0x1EE64, "\u0647"), (0x1EE67, "\u062d\u0637\u064a\u0643"),
   (0x1EE6C, "\u0645\u0646\u0633\u0639\u0641\u0635\u0642"), (0x1EE74, "\u0634\u062a\u062b\u062e"),
   (0x1EE79, "\u0636\u0638\u063a\u066e"), (0x1EE7E, "\u06a1"),
   (0x1EE80, "\u0627\u0628\u062c\u062f\u0647\u0648\u0632\u062d\u0637\u064a"),
   (0x1EE8B, "\u0644\u0645\u0646\u0633\u0639\u0641\u0635\u0642\u0631\u0634\u062a"),
   (0x1EE96, "\u062b\u062e\u0630\u0636\u0638\u063a"), (0x1EEA1, "\u0628\u062c\u062f"),
   (0x1EEA5, "\u0648\u0632\u062d\u0637\u064a"),
   (0x1EEAB, "\u0644\u0645\u0646\u0633\u0639\u0641\u0635\u0642\u0631\u0634\u062a"),
   (0x1EEB6, "\u062b\u062e\u0630\u0636\u0638\u063a"), (0x1F12B, "cr"), (0x1F202, "サ"),
   (0x1F210, "手字双デ二多解天交映無料前後再新初終生販声吹演投捕一三遊左中右指走打禁空合満有月申割営配"), (0x1F250, "得可"),
   (0x2F800, "丽丸乁𠄢你侮侻倂偺備僧像㒞𠘺免兔兤具𠔜㒹內再𠕋冗冤仌冬况𩇟凵刃㓟刻剆割剷㔕勇勉勤勺包匆北卉卑博即卽卿卿卿𠨬灰及叟𠭣叫叱吆咞吸呈周咢哶唐啓啣善"),
   (0x2F846, "善喙喫喳嗂圖嘆圗噑噴切壮城埴堍型堲報墬𡓤売壷夆多夢奢𡚨𡛪姬娛娧姘婦㛮㛼嬈嬾嬾𡧈寃寘寧寳𡬘寿将当尢㞁屠屮峀岍𡷤嵃𡷦嵮嵫嵼巡巢㠯巽帨帽幩㡢𢆃㡼庰"),
   (0x2F88C, "庳庶廊𪎒廾𢌱𢌱舁弢弢㣇𣊸𦇚形彫㣣徚忍志忹悁㤺㤜悔𢛔惇慈慌慎慌慺憎憲憤憯懞懲懶成戛扝抱拔捐𢬌挽拼捨掃揤𢯱搢揅掩㨮摩摾撝摷㩬敏敬𣀊旣書晉㬙暑㬈㫤"),
   (0x2F8D2, "冒冕最暜肭䏙朗望朡杞杓𣏃㭉柺枅桒梅𣑭梎栟椔㮝楂榣槪檨𣚣櫛㰘次𣢧歔㱎歲殟殺殻𣪍𡴋𣫺汎𣲼沿泍汧洖派海流浩浸涅𣴞洴港湮㴳滋滇𣻑淹潮𣽞𣾎濆瀹瀞瀛㶖灊"),
   (0x2F918, "災灷炭𠔥煅𤉣熜𤎫爨爵牐𤘈犀犕𤜵𤠔獺王㺬玥㺸㺸瑇瑜瑱璅瓊㼛甤𤰶甾𤲒異𢆟瘐𤾡𤾸𥁄㿼䀈直𥃳𥃲𥄙𥄳眞真真睊䀹瞋䁆䂖𥐝硎碌磌䃣𥘦祖𥚚𥛅福秫䄯穀穊穏𥥼𥪧"),
   (0x2F95E, "𥪧竮䈂𥮫篆築䈧𥲀糒䊠糨糣紀𥾆絣䌁緇縂繅䌴𦈨𦉇䍙𦋙罺𦌾羕翺者𦓚𦔣聠𦖨聰𣍟䏕育脃䐋脾媵𦞧𦞵𣎓𣎜舁舄辞䑫芑芋芝劳花芳芽苦𦬼若茝荣莭茣莽菧著荓菊菌菜"),
   (0x2F9A4, "𦰶𦵫𦳕䔫蓱蓳蔖𧏊蕤𦼬䕝䕡𦾱𧃒䕫虐虜虧虩蚩蚈蜎蛢蝹蜨蝫螆䗗蟡蠁䗹衠衣𧙧裗裞䘵裺㒻𧢮𧥦䚾䛇誠諭變豕𧲨貫賁贛起𧼯𠠄跋趼跰𠣞軔輸𨗒𨗭邔郱鄑𨜮鄛鈸鋗鋘"),
   (0x2F9EA, "鉼鏹鐕𨯺開䦕閷𨵷䧦雃嶲霣𩅅𩈚䩮䩶韠𩐊䪲𩒖頋頋頩𩖶飢䬳餩馧駂駾䯎𩬰鬒鱀鳽䳎䳭鵧𪃎䳸𪄅𪈎𪊑麻䵖黹黾鼅鼏鼖鼻𪘀")]

/-- The code point that a letter becomes, if it becomes one letter. -/
def letterImage? (n : Nat) : Option Nat :=
  let moved := movedRuns.findSome? fun (first, last, image) =>
    if first ≤ n ∧ n ≤ last then some (image + (n - first)) else none
  let paired := pairedRuns.findSome? fun (first, last) =>
    if first ≤ n ∧ n ≤ last ∧ (n - first) % 2 = 0 then some (n + 1) else none
  let listed := letterRows.findSome? fun (first, images) =>
    if first ≤ n then (images.toList[n - first]?).map Char.toNat else none
  moved.or (paired.or listed)

end Url

end ApiNotes
