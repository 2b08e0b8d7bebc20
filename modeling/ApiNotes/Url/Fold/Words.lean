/-!
# Characters that domain names fold to several letters

Ligatures, fractions, letters and numbers in brackets, units in a square and marks that
stand alone become the text that they show. The table is that of Unicode 17.
-/

namespace ApiNotes

namespace Url

/-- Rows of characters: the code point of the first one, and the images of all of them. -/
def wordRows : List (Nat × List String) :=
  [(0xA8, [" \u0308"]), (0xAF, [" \u0304"]), (0xB4, [" \u0301"]), (0xB8, [" \u0327"]),
   (0xBC, ["1⁄4", "1⁄2", "3⁄4"]), (0x130, ["i\u0307"]), (0x132, ["ij", "ij"]),
   (0x13F, ["l·", "l·"]), (0x149, ["ʼn"]),
   (0x1C4, ["dž", "dž", "dž", "lj", "lj", "lj", "nj", "nj", "nj"]), (0x1F1, ["dz", "dz", "dz"]),
   (0x2D8, [" \u0306", " \u0307", " \u030a", " \u0328", " \u0303", " \u030b"]),
   (0x344, ["\u0308\u0301"]), (0x37A, [" ι"]), (0x384, [" \u0301", " \u0308\u0301"]),
   (0x587, ["եւ"]), (0x675, ["\u0627\u0674", "\u0648\u0674", "\u06c7\u0674", "\u064a\u0674"]),
   (0x958, ["क\u093c", "ख\u093c", "ग\u093c", "ज\u093c", "ड\u093c", "ढ\u093c", "फ\u093c"]),
   (0x95F, ["य\u093c"]), (0x9DC, ["ড\u09bc", "ঢ\u09bc"]), (0x9DF, ["য\u09bc"]),
   (0xA33, ["ਲ\u0a3c"]), (0xA36, ["ਸ\u0a3c"]), (0xA59, ["ਖ\u0a3c", "ਗ\u0a3c", "ਜ\u0a3c"]),
   (0xA5E, ["ਫ\u0a3c"]), (0xB5C, ["ଡ\u0b3c", "ଢ\u0b3c"]), (0xE33, ["\u0e4dา"]),
   (0xEB3, ["\u0ecdາ"]), (0xEDC, ["ຫນ", "ຫມ"]), (0xF43, ["ག\u0fb7"]), (0xF4D, ["ཌ\u0fb7"]),
   (0xF52, ["ད\u0fb7"]), (0xF57, ["བ\u0fb7"]), (0xF5C, ["ཛ\u0fb7"]), (0xF69, ["ཀ\u0fb5"]),
   (0xF73, ["\u0f71\u0f72"]),
   (0xF75, ["\u0f71\u0f74", "\u0fb2\u0f80", "\u0fb2\u0f71\u0f80", "\u0fb3\u0f80"]),
   (0xF79, ["\u0fb3\u0f71\u0f80"]), (0xF81, ["\u0f71\u0f80"]), (0xF93, ["\u0f92\u0fb7"]),
   (0xF9D, ["\u0f9c\u0fb7"]), (0xFA2, ["\u0fa1\u0fb7"]), (0xFA7, ["\u0fa6\u0fb7"]),
   (0xFAC, ["\u0fab\u0fb7"]), (0xFB9, ["\u0f90\u0fb5"]), (0x1E9A, ["aʾ"]),
   (0x1F80, ["ἀι", "ἁι", "ἂι", "ἃι", "ἄι", "ἅι", "ἆι", "ἇι", "ἀι", "ἁι", "ἂι", "ἃι", "ἄι"]),
   (0x1F8D, ["ἅι", "ἆι", "ἇι", "ἠι", "ἡι", "ἢι", "ἣι", "ἤι", "ἥι", "ἦι", "ἧι", "ἠι", "ἡι"]),
   (0x1F9A, ["ἢι", "ἣι", "ἤι", "ἥι", "ἦι", "ἧι", "ὠι", "ὡι", "ὢι", "ὣι", "ὤι", "ὥι", "ὦι"]),
   (0x1FA7, ["ὧι", "ὠι", "ὡι", "ὢι", "ὣι", "ὤι", "ὥι", "ὦι", "ὧι"]), (0x1FB2, ["ὰι", "αι", "άι"]),
   (0x1FB7, ["ᾶι"]), (0x1FBC, ["αι", " \u0313"]),
   (0x1FBF, [" \u0313", " \u0342", " \u0308\u0342", "ὴι", "ηι", "ήι"]), (0x1FC7, ["ῆι"]),
   (0x1FCC, ["ηι", " \u0313\u0300", " \u0313\u0301", " \u0313\u0342"]),
   (0x1FDD, [" \u0314\u0300", " \u0314\u0301", " \u0314\u0342"]),
   (0x1FED, [" \u0308\u0300", " \u0308\u0301"]), (0x1FF2, ["ὼι", "ωι", "ώι"]), (0x1FF7, ["ῶι"]),
   (0x1FFC, ["ωι", " \u0301", " \u0314"]), (0x2017, [" \u0333"]), (0x2033, ["′′", "′′′"]),
   (0x2036, ["‵‵", "‵‵‵"]), (0x203C, ["!!"]), (0x203E, [" \u0305"]), (0x2047, ["??", "?!", "!?"]),
   (0x2057, ["′′′′"]), (0x20A8, ["rs"]), (0x2100, ["a/c", "a/s"]), (0x2103, ["°c"]),
   (0x2105, ["c/o", "c/u"]), (0x2109, ["°f"]), (0x2116, ["no"]), (0x2120, ["sm", "tel", "tm"]),
   (0x213B, ["fax"]),
   (0x2150, ["1⁄7", "1⁄9", "1⁄10", "1⁄3", "2⁄3", "1⁄5", "2⁄5", "3⁄5", "4⁄5", "1⁄6", "5⁄6"]),
   (0x215B, ["1⁄8", "3⁄8", "5⁄8", "7⁄8", "1⁄"]), (0x2161, ["ii", "iii", "iv"]),
   (0x2165, ["vi", "vii", "viii", "ix"]), (0x216A, ["xi", "xii"]), (0x2171, ["ii", "iii", "iv"]),
   (0x2175, ["vi", "vii", "viii", "ix"]), (0x217A, ["xi", "xii"]), (0x2189, ["0⁄3"]),
   (0x222C, ["∫∫", "∫∫∫"]), (0x222F, ["∮∮", "∮∮∮"]),
   (0x2469, ["10", "11", "12", "13", "14", "15", "16", "17", "18", "19", "20", "(1)", "(2)"]),
   (0x2476, ["(3)", "(4)", "(5)", "(6)", "(7)", "(8)", "(9)", "(10)", "(11)", "(12)"]),
   (0x2480, ["(13)", "(14)", "(15)", "(16)", "(17)", "(18)", "(19)", "(20)"]),
   (0x249C, ["(a)", "(b)", "(c)", "(d)", "(e)", "(f)", "(g)", "(h)", "(i)", "(j)", "(k)"]),
   (0x24A7, ["(l)", "(m)", "(n)", "(o)", "(p)", "(q)", "(r)", "(s)", "(t)", "(u)", "(v)"]),
   (0x24B2, ["(w)", "(x)", "(y)", "(z)"]), (0x2A0C, ["∫∫∫∫"]), (0x2A74, ["::=", "==", "==="]),
   (0x2ADC, ["⫝\u0338"]), (0x309B, [" \u3099", " \u309a"]), (0x309F, ["より"]), (0x30FF, ["コト"]),
   (0x3200, ["(ᄀ)", "(ᄂ)", "(ᄃ)", "(ᄅ)", "(ᄆ)", "(ᄇ)", "(ᄉ)", "(ᄋ)", "(ᄌ)", "(ᄎ)", "(ᄏ)"]),
   (0x320B, ["(ᄐ)", "(ᄑ)", "(ᄒ)", "(가)", "(나)", "(다)", "(라)", "(마)", "(바)", "(사)", "(아)"]),
   (0x3216, ["(자)", "(차)", "(카)", "(타)", "(파)", "(하)", "(주)", "(오전)", "(오후)"]),
   (0x3220, ["(一)", "(二)", "(三)", "(四)", "(五)", "(六)", "(七)", "(八)", "(九)", "(十)", "(月)"]),
   (0x322B, ["(火)", "(水)", "(木)", "(金)", "(土)", "(日)", "(株)", "(有)", "(社)", "(名)", "(特)"]),
   (0x3236, ["(財)", "(祝)", "(労)", "(代)", "(呼)", "(学)", "(監)", "(企)", "(資)", "(協)", "(祭)"]),
   (0x3241, ["(休)", "(自)", "(至)"]),
   (0x3250, ["pte", "21", "22", "23", "24", "25", "26", "27", "28", "29", "30", "31", "32"]),
   (0x325D, ["33", "34", "35"]), (0x327C, ["참고", "주의"]),
   (0x32B1, ["36", "37", "38", "39", "40", "41", "42", "43", "44", "45", "46", "47", "48"]),
   (0x32BE, ["49", "50", "1月", "2月", "3月", "4月", "5月", "6月", "7月", "8月", "9月", "10月", "11月"]),
   (0x32CB, ["12月", "hg", "erg", "ev", "ltd"]),
   (0x32FF, ["令和", "アパート", "アルファ", "アンペア", "アール", "イニング", "インチ", "ウォン", "エスクード", "エーカー"]),
   (0x3309, ["オンス", "オーム", "カイリ", "カラット", "カロリー", "ガロン", "ガンマ", "ギガ", "ギニー", "キュリー", "ギルダー"]),
   (0x3314, ["キロ", "キログラム", "キロメートル", "キロワット", "グラム", "グラムトン", "クルゼイロ", "クローネ", "ケース"]),
   (0x331D, ["コルナ", "コーポ", "サイクル", "サンチーム", "シリング", "センチ", "セント", "ダース", "デシ", "ドル", "トン"]),
   (0x3328, ["ナノ", "ノット", "ハイツ", "パーセント", "パーツ", "バーレル", "ピアストル", "ピクル", "ピコ", "ビル"]),
   (0x3332, ["ファラッド", "フィート", "ブッシェル", "フラン", "ヘクタール", "ペソ", "ペニヒ", "ヘルツ", "ペンス", "ページ"]),
   (0x333C, ["ベータ", "ポイント", "ボルト", "ホン", "ポンド", "ホール", "ホーン", "マイクロ", "マイル", "マッハ", "マルク"]),
   (0x3347, ["マンション", "ミクロン", "ミリ", "ミリバール", "メガ", "メガトン", "メートル", "ヤード", "ヤール", "ユアン"]),
   (0x3351, ["リットル", "リラ", "ルピー", "ルーブル", "レム", "レントゲン", "ワット", "0点", "1点", "2点", "3点"]),
   (0x335C, ["4点", "5点", "6点", "7点", "8点", "9点", "10点", "11点", "12点", "13点", "14点", "15点"]),
   (0x3368, ["16点", "17点", "18点", "19点", "20点", "21点", "22点", "23点", "24点", "hpa", "da"]),
   (0x3373, ["au", "bar", "ov", "pc", "dm", "dm2", "dm3", "iu", "平成", "昭和", "大正", "明治"]),
   (0x337F, ["株式会社", "pa", "na", "μa", "ma", "ka", "kb", "mb", "gb", "cal", "kcal", "pf"]),
   (0x338B, ["nf", "μf", "μg", "mg", "kg", "hz", "khz", "mhz", "ghz", "thz", "μl", "ml"]),
   (0x3397, ["dl", "kl", "fm", "nm", "μm", "mm", "cm", "km", "mm2", "cm2", "m2", "km2"]),
   (0x33A3, ["mm3", "cm3", "m3", "km3", "m∕s", "m∕s2", "pa", "kpa", "mpa", "gpa", "rad"]),
   (0x33AE, ["rad∕s", "rad∕s2", "ps", "ns", "μs", "ms", "pv", "nv", "μv", "mv", "kv", "mv"]),
   (0x33BA, ["pw", "nw", "μw", "mw", "kw", "mw", "kω", "mω"]),
   (0x33C3, ["bq", "cc", "cd", "c∕kg"]),
   (0x33C8, ["db", "gy", "ha", "hp", "in", "kk", "km", "kt", "lm", "ln", "log", "lx", "mb"]),
   (0x33D5, ["mil", "mol", "ph"]),
   (0x33D9, ["ppm", "pr", "sr", "sv", "wb", "v∕m", "a∕m", "1日", "2日", "3日", "4日", "5日"]),
   (0x33E5, ["6日", "7日", "8日", "9日", "10日", "11日", "12日", "13日", "14日", "15日", "16日", "17日"]),
   (0x33F1, ["18日", "19日", "20日", "21日", "22日", "23日", "24日", "25日", "26日", "27日", "28日"]),
   (0x33FC, ["29日", "30日", "31日", "gal"]), (0xFB00, ["ff", "fi", "fl", "ffi", "ffl", "st", "st"]),
   (0xFB13, ["մն", "մե", "մի", "վն", "մխ"]), (0xFB1D, ["\u05d9\u05b4"]),
   (0xFB1F, ["\u05f2\u05b7"]),
   (0xFB2A, ["\u05e9\u05c1", "\u05e9\u05c2", "\u05e9\u05bc\u05c1", "\u05e9\u05bc\u05c2"]),
   (0xFB2E, ["\u05d0\u05b7", "\u05d0\u05b8", "\u05d0\u05bc", "\u05d1\u05bc", "\u05d2\u05bc"]),
   (0xFB33, ["\u05d3\u05bc", "\u05d4\u05bc", "\u05d5\u05bc", "\u05d6\u05bc"]),
   (0xFB38, ["\u05d8\u05bc", "\u05d9\u05bc", "\u05da\u05bc", "\u05db\u05bc", "\u05dc\u05bc"]),
   (0xFB3E, ["\u05de\u05bc"]), (0xFB40, ["\u05e0\u05bc", "\u05e1\u05bc"]),
   (0xFB43, ["\u05e3\u05bc", "\u05e4\u05bc"]),
   (0xFB46, ["\u05e6\u05bc", "\u05e7\u05bc", "\u05e8\u05bc", "\u05e9\u05bc", "\u05ea\u05bc"]),
   (0xFB4B, ["\u05d5\u05b9", "\u05d1\u05bf", "\u05db\u05bf", "\u05e4\u05bf", "\u05d0\u05dc"]),
   (0xFBDD, ["\u06c7\u0674"]),
   (0xFBEA, ["\u0626\u0627", "\u0626\u0627", "\u0626\u06d5", "\u0626\u06d5", "\u0626\u0648"]),
   (0xFBEF, ["\u0626\u0648", "\u0626\u06c7", "\u0626\u06c7", "\u0626\u06c6", "\u0626\u06c6"]),
   (0xFBF4, ["\u0626\u06c8", "\u0626\u06c8", "\u0626\u06d0", "\u0626\u06d0", "\u0626\u06d0"]),
   (0xFBF9, ["\u0626\u0649", "\u0626\u0649", "\u0626\u0649"]),
   (0xFC00, ["\u0626\u062c", "\u0626\u062d", "\u0626\u0645", "\u0626\u0649", "\u0626\u064a"]),
   (0xFC05, ["\u0628\u062c", "\u0628\u062d", "\u0628\u062e", "\u0628\u0645", "\u0628\u0649"]),
   (0xFC0A, ["\u0628\u064a", "\u062a\u062c", "\u062a\u062d", "\u062a\u062e", "\u062a\u0645"]),
   (0xFC0F, ["\u062a\u0649", "\u062a\u064a", "\u062b\u062c", "\u062b\u0645", "\u062b\u0649"]),
   (0xFC14, ["\u062b\u064a", "\u062c\u062d", "\u062c\u0645", "\u062d\u062c", "\u062d\u0645"]),
   (0xFC19, ["\u062e\u062c", "\u062e\u062d", "\u062e\u0645", "\u0633\u062c", "\u0633\u062d"]),
   (0xFC1E, ["\u0633\u062e", "\u0633\u0645", "\u0635\u062d", "\u0635\u0645", "\u0636\u062c"]),
   (0xFC23, ["\u0636\u062d", "\u0636\u062e", "\u0636\u0645", "\u0637\u062d", "\u0637\u0645"]),
   (0xFC28, ["\u0638\u0645", "\u0639\u062c", "\u0639\u0645", "\u063a\u062c", "\u063a\u0645"]),
   (0xFC2D, ["\u0641\u062c", "\u0641\u062d", "\u0641\u062e", "\u0641\u0645", "\u0641\u0649"]),
   (0xFC32, ["\u0641\u064a", "\u0642\u062d", "\u0642\u0645", "\u0642\u0649", "\u0642\u064a"]),
   (0xFC37, ["\u0643\u0627", "\u0643\u062c", "\u0643\u062d", "\u0643\u062e", "\u0643\u0644"]),
   (0xFC3C, ["\u0643\u0645", "\u0643\u0649", "\u0643\u064a", "\u0644\u062c", "\u0644\u062d"]),
   (0xFC41, ["\u0644\u062e", "\u0644\u0645", "\u0644\u0649", "\u0644\u064a", "\u0645\u062c"]),
   (0xFC46, ["\u0645\u062d", "\u0645\u062e", "\u0645\u0645", "\u0645\u0649", "\u0645\u064a"]),
   (0xFC4B, ["\u0646\u062c", "\u0646\u062d", "\u0646\u062e", "\u0646\u0645", "\u0646\u0649"]),
   (0xFC50, ["\u0646\u064a", "\u0647\u062c", "\u0647\u0645", "\u0647\u0649", "\u0647\u064a"]),
   (0xFC55, ["\u064a\u062c", "\u064a\u062d", "\u064a\u062e", "\u064a\u0645", "\u064a\u0649"]),
   (0xFC5A, ["\u064a\u064a", "\u0630\u0670", "\u0631\u0670", "\u0649\u0670"]),
   (0xFC5E, [" \u064c\u0651", " \u064d\u0651", " \u064e\u0651", " \u064f\u0651"]),
   (0xFC62, [" \u0650\u0651", " \u0651\u0670", "\u0626\u0631", "\u0626\u0632"]),
   (0xFC66, ["\u0626\u0645", "\u0626\u0646", "\u0626\u0649", "\u0626\u064a", "\u0628\u0631"]),
   (0xFC6B, ["\u0628\u0632", "\u0628\u0645", "\u0628\u0646", "\u0628\u0649", "\u0628\u064a"]),
   (0xFC70, ["\u062a\u0631", "\u062a\u0632", "\u062a\u0645", "\u062a\u0646", "\u062a\u0649"]),
   (0xFC75, ["\u062a\u064a", "\u062b\u0631", "\u062b\u0632", "\u062b\u0645", "\u062b\u0646"]),
   (0xFC7A, ["\u062b\u0649", "\u062b\u064a", "\u0641\u0649", "\u0641\u064a", "\u0642\u0649"]),
   (0xFC7F, ["\u0642\u064a", "\u0643\u0627", "\u0643\u0644", "\u0643\u0645", "\u0643\u0649"]),
   (0xFC84, ["\u0643\u064a", "\u0644\u0645", "\u0644\u0649", "\u0644\u064a", "\u0645\u0627"]),
   (0xFC89, ["\u0645\u0645", "\u0646\u0631", "\u0646\u0632", "\u0646\u0645", "\u0646\u0646"]),
   (0xFC8E, ["\u0646\u0649", "\u0646\u064a", "\u0649\u0670", "\u064a\u0631", "\u064a\u0632"]),
   (0xFC93, ["\u064a\u0645", "\u064a\u0646", "\u064a\u0649", "\u064a\u064a", "\u0626\u062c"]),
   (0xFC98, ["\u0626\u062d", "\u0626\u062e", "\u0626\u0645", "\u0626\u0647", "\u0628\u062c"]),
   (0xFC9D, ["\u0628\u062d", "\u0628\u062e", "\u0628\u0645", "\u0628\u0647", "\u062a\u062c"]),
   (0xFCA2, ["\u062a\u062d", "\u062a\u062e", "\u062a\u0645", "\u062a\u0647", "\u062b\u0645"]),
   (0xFCA7, ["\u062c\u062d", "\u062c\u0645", "\u062d\u062c", "\u062d\u0645", "\u062e\u062c"]),
   (0xFCAC, ["\u062e\u0645", "\u0633\u062c", "\u0633\u062d", "\u0633\u062e", "\u0633\u0645"]),
   (0xFCB1, ["\u0635\u062d", "\u0635\u062e", "\u0635\u0645", "\u0636\u062c", "\u0636\u062d"]),
   (0xFCB6, ["\u0636\u062e", "\u0636\u0645", "\u0637\u062d", "\u0638\u0645", "\u0639\u062c"]),
   (0xFCBB, ["\u0639\u0645", "\u063a\u062c", "\u063a\u0645", "\u0641\u062c", "\u0641\u062d"]),
   (0xFCC0, ["\u0641\u062e", "\u0641\u0645", "\u0642\u062d", "\u0642\u0645", "\u0643\u062c"]),
   (0xFCC5, ["\u0643\u062d", "\u0643\u062e", "\u0643\u0644", "\u0643\u0645", "\u0644\u062c"]),
   (0xFCCA, ["\u0644\u062d", "\u0644\u062e", "\u0644\u0645", "\u0644\u0647", "\u0645\u062c"]),
   (0xFCCF, ["\u0645\u062d", "\u0645\u062e", "\u0645\u0645", "\u0646\u062c", "\u0646\u062d"]),
   (0xFCD4, ["\u0646\u062e", "\u0646\u0645", "\u0646\u0647", "\u0647\u062c", "\u0647\u0645"]),
   (0xFCD9, ["\u0647\u0670", "\u064a\u062c", "\u064a\u062d", "\u064a\u062e", "\u064a\u0645"]),
   (0xFCDE, ["\u064a\u0647", "\u0626\u0645", "\u0626\u0647", "\u0628\u0645", "\u0628\u0647"]),
   (0xFCE3, ["\u062a\u0645", "\u062a\u0647", "\u062b\u0645", "\u062b\u0647", "\u0633\u0645"]),
   (0xFCE8, ["\u0633\u0647", "\u0634\u0645", "\u0634\u0647", "\u0643\u0644", "\u0643\u0645"]),
   (0xFCED, ["\u0644\u0645", "\u0646\u0645", "\u0646\u0647", "\u064a\u0645", "\u064a\u0647"]),
   (0xFCF2, ["\u0640\u064e\u0651", "\u0640\u064f\u0651", "\u0640\u0650\u0651"]),
   (0xFCF5, ["\u0637\u0649", "\u0637\u064a", "\u0639\u0649", "\u0639\u064a", "\u063a\u0649"]),
   (0xFCFA, ["\u063a\u064a", "\u0633\u0649", "\u0633\u064a", "\u0634\u0649", "\u0634\u064a"]),
   (0xFCFF, ["\u062d\u0649", "\u062d\u064a", "\u062c\u0649", "\u062c\u064a", "\u062e\u0649"]),
   (0xFD04, ["\u062e\u064a", "\u0635\u0649", "\u0635\u064a", "\u0636\u0649", "\u0636\u064a"]),
   (0xFD09, ["\u0634\u062c", "\u0634\u062d", "\u0634\u062e", "\u0634\u0645", "\u0634\u0631"]),
   (0xFD0E, ["\u0633\u0631", "\u0635\u0631", "\u0636\u0631", "\u0637\u0649", "\u0637\u064a"]),
   (0xFD13, ["\u0639\u0649", "\u0639\u064a", "\u063a\u0649", "\u063a\u064a", "\u0633\u0649"]),
   (0xFD18, ["\u0633\u064a", "\u0634\u0649", "\u0634\u064a", "\u062d\u0649", "\u062d\u064a"]),
   (0xFD1D, ["\u062c\u0649", "\u062c\u064a", "\u062e\u0649", "\u062e\u064a", "\u0635\u0649"]),
   (0xFD22, ["\u0635\u064a", "\u0636\u0649", "\u0636\u064a", "\u0634\u062c", "\u0634\u062d"]),
   (0xFD27, ["\u0634\u062e", "\u0634\u0645", "\u0634\u0631", "\u0633\u0631", "\u0635\u0631"]),
   (0xFD2C, ["\u0636\u0631", "\u0634\u062c", "\u0634\u062d", "\u0634\u062e", "\u0634\u0645"]),
   (0xFD31, ["\u0633\u0647", "\u0634\u0647", "\u0637\u0645", "\u0633\u062c", "\u0633\u062d"]),
   (0xFD36, ["\u0633\u062e", "\u0634\u062c", "\u0634\u062d", "\u0634\u062e", "\u0637\u0645"]),
   (0xFD3B, ["\u0638\u0645", "\u0627\u064b", "\u0627\u064b"]),
   (0xFD50, ["\u062a\u062c\u0645", "\u062a\u062d\u062c", "\u062a\u062d\u062c"]),
   (0xFD53, ["\u062a\u062d\u0645", "\u062a\u062e\u0645", "\u062a\u0645\u062c"]),
   (0xFD56, ["\u062a\u0645\u062d", "\u062a\u0645\u062e", "\u062c\u0645\u062d"]),
   (0xFD59, ["\u062c\u0645\u062d", "\u062d\u0645\u064a", "\u062d\u0645\u0649"]),
   (0xFD5C, ["\u0633\u062d\u062c", "\u0633\u062c\u062d", "\u0633\u062c\u0649"]),
   (0xFD5F, ["\u0633\u0645\u062d", "\u0633\u0645\u062d", "\u0633\u0645\u062c"]),
   (0xFD62, ["\u0633\u0645\u0645", "\u0633\u0645\u0645", "\u0635\u062d\u062d"]),
   (0xFD65, ["\u0635\u062d\u062d", "\u0635\u0645\u0645", "\u0634\u062d\u0645"]),
   (0xFD68, ["\u0634\u062d\u0645", "\u0634\u062c\u064a", "\u0634\u0645\u062e"]),
   (0xFD6B, ["\u0634\u0645\u062e", "\u0634\u0645\u0645", "\u0634\u0645\u0645"]),
   (0xFD6E, ["\u0636\u062d\u0649", "\u0636\u062e\u0645", "\u0636\u062e\u0645"]),
   (0xFD71, ["\u0637\u0645\u062d", "\u0637\u0645\u062d", "\u0637\u0645\u0645"]),
   (0xFD74, ["\u0637\u0645\u064a", "\u0639\u062c\u0645", "\u0639\u0645\u0645"]),
   (0xFD77, ["\u0639\u0645\u0645", "\u0639\u0645\u0649", "\u063a\u0645\u0645"]),
   (0xFD7A, ["\u063a\u0645\u064a", "\u063a\u0645\u0649", "\u0641\u062e\u0645"]),
   (0xFD7D, ["\u0641\u062e\u0645", "\u0642\u0645\u062d", "\u0642\u0645\u0645"]),
   (0xFD80, ["\u0644\u062d\u0645", "\u0644\u062d\u064a", "\u0644\u062d\u0649"]),
   (0xFD83, ["\u0644\u062c\u062c", "\u0644\u062c\u062c", "\u0644\u062e\u0645"]),
   (0xFD86, ["\u0644\u062e\u0645", "\u0644\u0645\u062d", "\u0644\u0645\u062d"]),
   (0xFD89, ["\u0645\u062d\u062c", "\u0645\u062d\u0645", "\u0645\u062d\u064a"]),
   (0xFD8C, ["\u0645\u062c\u062d", "\u0645\u062c\u0645", "\u0645\u062e\u062c"]),
   (0xFD8F, ["\u0645\u062e\u0645"]),
   (0xFD92, ["\u0645\u062c\u062e", "\u0647\u0645\u062c", "\u0647\u0645\u0645"]),
   (0xFD95, ["\u0646\u062d\u0645", "\u0646\u062d\u0649", "\u0646\u062c\u0645"]),
   (0xFD98, ["\u0646\u062c\u0645", "\u0646\u062c\u0649", "\u0646\u0645\u064a"]),
   (0xFD9B, ["\u0646\u0645\u0649", "\u064a\u0645\u0645", "\u064a\u0645\u0645"]),
   (0xFD9E, ["\u0628\u062e\u064a", "\u062a\u062c\u064a", "\u062a\u062c\u0649"]),
   (0xFDA1, ["\u062a\u062e\u064a", "\u062a\u062e\u0649", "\u062a\u0645\u064a"]),
   (0xFDA4, ["\u062a\u0645\u0649", "\u062c\u0645\u064a", "\u062c\u062d\u0649"]),
   (0xFDA7, ["\u062c\u0645\u0649", "\u0633\u062e\u0649", "\u0635\u062d\u064a"]),
   (0xFDAA, ["\u0634\u062d\u064a", "\u0636\u062d\u064a", "\u0644\u062c\u064a"]),
   (0xFDAD, ["\u0644\u0645\u064a", "\u064a\u062d\u064a", "\u064a\u062c\u064a"]),
   (0xFDB0, ["\u064a\u0645\u064a", "\u0645\u0645\u064a", "\u0642\u0645\u064a"]),
   (0xFDB3, ["\u0646\u062d\u064a", "\u0642\u0645\u062d", "\u0644\u062d\u0645"]),
   (0xFDB6, ["\u0639\u0645\u064a", "\u0643\u0645\u064a", "\u0646\u062c\u062d"]),
   (0xFDB9, ["\u0645\u062e\u064a", "\u0644\u062c\u0645", "\u0643\u0645\u0645"]),
   (0xFDBC, ["\u0644\u062c\u0645", "\u0646\u062c\u062d", "\u062c\u062d\u064a"]),
   (0xFDBF, ["\u062d\u062c\u064a", "\u0645\u062c\u064a", "\u0641\u0645\u064a"]),
   (0xFDC2, ["\u0628\u062d\u064a", "\u0643\u0645\u0645", "\u0639\u062c\u0645"]),
   (0xFDC5, ["\u0635\u0645\u0645", "\u0633\u062e\u064a", "\u0646\u062c\u064a"]),
   (0xFDF0, ["\u0635\u0644\u06d2", "\u0642\u0644\u06d2", "\u0627\u0644\u0644\u0647"]),
   (0xFDF3, ["\u0627\u0643\u0628\u0631", "\u0645\u062d\u0645\u062f"]),
   (0xFDF5, ["\u0635\u0644\u0639\u0645", "\u0631\u0633\u0648\u0644"]),
   (0xFDF7, ["\u0639\u0644\u064a\u0647", "\u0648\u0633\u0644\u0645", "\u0635\u0644\u0649"]),
   (0xFDFA, ["\u0635\u0644\u0649 \u0627\u0644\u0644\u0647 \u0639\u0644\u064a\u0647 \u0648\u0633\u0644\u0645"]),
   (0xFDFB, ["\u062c\u0644 \u062c\u0644\u0627\u0644\u0647", "\u0631\u06cc\u0627\u0644"]),
   (0xFE49, [" \u0305", " \u0305", " \u0305", " \u0305"]),
   (0xFE70, [" \u064b", "\u0640\u064b", " \u064c"]), (0xFE74, [" \u064d"]),
   (0xFE76, [" \u064e", "\u0640\u064e", " \u064f", "\u0640\u064f", " \u0650"]),
   (0xFE7B, ["\u0640\u0650", " \u0651", "\u0640\u0651", " \u0652", "\u0640\u0652"]),
   (0xFEF5, ["\u0644\u0622", "\u0644\u0622", "\u0644\u0623", "\u0644\u0623", "\u0644\u0625"]),
   (0xFEFA, ["\u0644\u0625", "\u0644\u0627", "\u0644\u0627"]), (0xFFE3, [" \u0304"]),
   (0x1D15E, ["𝅗𝅥", "𝅘𝅥", "𝅘𝅥𝅮", "𝅘𝅥𝅯", "𝅘𝅥𝅰", "𝅘𝅥𝅱", "𝅘𝅥𝅲"]),
   (0x1D1BB, ["𝆹𝅥", "𝆺𝅥", "𝆹𝅥𝅮", "𝆺𝅥𝅮", "𝆹𝅥𝅯", "𝆺𝅥𝅯"]),
   (0x1F101, ["0,", "1,", "2,", "3,", "4,", "5,", "6,", "7,", "8,", "9,"]),
   (0x1F110, ["(a)", "(b)", "(c)", "(d)", "(e)", "(f)", "(g)", "(h)", "(i)", "(j)", "(k)"]),
   (0x1F11B, ["(l)", "(m)", "(n)", "(o)", "(p)", "(q)", "(r)", "(s)", "(t)", "(u)", "(v)"]),
   (0x1F126, ["(w)", "(x)", "(y)", "(z)", "〔s〕"]), (0x1F12D, ["cd", "wz"]),
   (0x1F14A, ["hv", "mv", "sd", "ss", "ppv", "wc"]), (0x1F16A, ["mc", "md", "mr"]),
   (0x1F190, ["dj"]), (0x1F200, ["ほか", "ココ"]),
   (0x1F240, ["〔本〕", "〔三〕", "〔二〕", "〔安〕", "〔点〕", "〔打〕", "〔盗〕", "〔勝〕", "〔敗〕"])]

/-- The text that a character becomes, if it becomes a text of several letters. -/
def wordImage? (n : Nat) : Option (List Char) :=
  wordRows.findSome? fun (first, images) =>
    if first ≤ n then (images[n - first]?).map String.toList else none

end Url

end ApiNotes
