/-!
# Characters written as several others

The characters that stand for more than one character in a domain name: ligatures, fractions, units
of measurement, words in a square, and letters that are always written as a base with its mark.
Neighbours are listed together, as in the table of those that stand for one.
-/

namespace MarkupAssist.Domain

/-- Rows of consecutive characters, each with the first code point and what they stand for. -/
def longForms : List (Nat × List String) :=
  [(0xA8, [" \u0308"]), (0xAF, [" \u0304"]), (0xB4, [" \u0301"]), (0xB8, [" \u0327"]),
   (0xBC, ["1⁄4", "1⁄2", "3⁄4"]), (0x132, ["ij", "ij"]), (0x13F, ["l·", "l·"]), (0x149, ["ʼn"]),
   (0x1C4, ["dž", "dž", "dž", "lj", "lj", "lj", "nj", "nj"]), (0x1CC, ["nj"]),
   (0x1F1, ["dz", "dz", "dz"]),
   (0x2D8, [" \u0306", " \u0307", " \u030a", " \u0328", " \u0303", " \u030b"]),
   (0x344, ["\u0308\u0301"]), (0x37A, [" ι"]), (0x384, [" \u0301", " \u0308\u0301"]),
   (0x587, ["եւ"]), (0x675, ["\u0627\u0674", "\u0648\u0674", "\u06c7\u0674", "\u064a\u0674"]),
   (0x958, ["क\u093c", "ख\u093c", "ग\u093c", "ज\u093c", "ड\u093c", "ढ\u093c", "फ\u093c"]),
   (0x95F, ["य\u093c"]), (0x9DC, ["ড\u09bc", "ঢ\u09bc"]), (0x9DF, ["য\u09bc"]),
   (0xA33, ["ਲ\u0a3c"]), (0xA36, ["ਸ\u0a3c"]), (0xA59, ["ਖ\u0a3c", "ਗ\u0a3c", "ਜ\u0a3c"]),
   (0xA5E, ["ਫ\u0a3c"]), (0xB5C, ["ଡ\u0b3c", "ଢ\u0b3c"]), (0xE33, ["\u0e4dา"]),
   (0xEB3, ["\u0ecdາ"]), (0xEDC, ["ຫນ", "ຫມ"]), (0xF43, ["ག\u0fb7"]), (0xF4D, ["ཌ\u0fb7"]),
   (0xF52, ["ད\u0fb7"]), (0xF57, ["བ\u0fb7"]), (0xF5C, ["ཛ\u0fb7"]), (0xF69, ["ཀ\u0fb5"]),
   (0xF73, ["\u0f71\u0f72"]),
   (0xF75, ["\u0f71\u0f74", "\u0fb2\u0f80", "\u0fb2\u0f71\u0f80", "\u0fb3\u0f80"]),
   (0xF79, ["\u0fb3\u0f71\u0f80"]), (0xF81, ["\u0f71\u0f80"]), (0xF93, ["\u0f92\u0fb7"]),
   (0xF9D, ["\u0f9c\u0fb7"]), (0xFA2, ["\u0fa1\u0fb7"]), (0xFA7, ["\u0fa6\u0fb7"]),
   (0xFAC, ["\u0fab\u0fb7"]), (0xFB9, ["\u0f90\u0fb5"]), (0x1E9A, ["aʾ"]),
   (0x1F80, ["ἀι", "ἁι", "ἂι", "ἃι", "ἄι", "ἅι", "ἆι", "ἇι"]),
   (0x1F88, ["ἀι", "ἁι", "ἂι", "ἃι", "ἄι", "ἅι", "ἆι", "ἇι"]),
   (0x1F90, ["ἠι", "ἡι", "ἢι", "ἣι", "ἤι", "ἥι", "ἦι", "ἧι"]),
   (0x1F98, ["ἠι", "ἡι", "ἢι", "ἣι", "ἤι", "ἥι", "ἦι", "ἧι"]),
   (0x1FA0, ["ὠι", "ὡι", "ὢι", "ὣι", "ὤι", "ὥι", "ὦι", "ὧι"]),
   (0x1FA8, ["ὠι", "ὡι", "ὢι", "ὣι", "ὤι", "ὥι", "ὦι", "ὧι"]), (0x1FB2, ["ὰι", "αι", "άι"]),
   (0x1FB7, ["ᾶι"]), (0x1FBC, ["αι", " \u0313"]),
   (0x1FBF, [" \u0313", " \u0342", " \u0308\u0342", "ὴι", "ηι", "ήι"]), (0x1FC7, ["ῆι"]),
   (0x1FCC, ["ηι", " \u0313\u0300", " \u0313\u0301", " \u0313\u0342"]),
   (0x1FDD, [" \u0314\u0300", " \u0314\u0301", " \u0314\u0342"]),
   (0x1FED, [" \u0308\u0300", " \u0308\u0301"]), (0x1FF2, ["ὼι", "ωι", "ώι"]), (0x1FF7, ["ῶι"]),
   (0x1FFC, ["ωι", " \u0301", " \u0314"]), (0x2017, [" \u0333"]), (0x2033, ["′′", "′′′"]),
   (0x2036, ["‵‵", "‵‵‵"]), (0x203C, ["!!"]), (0x203E, [" \u0305"]), (0x2047, ["??", "?!", "!?"]),
   (0x2057, ["′′′′"]), (0x20A8, ["rs"]), (0x2100, ["a/c", "a/s"]), (0x2103, ["°c"]),
   (0x2105, ["c/o", "c/u"]), (0x2109, ["°f"]), (0x2116, ["no"]), (0x2120, ["sm", "tel", "tm"]),
   (0x213B, ["fax"]), (0x2150, ["1⁄7", "1⁄9", "1⁄10", "1⁄3", "2⁄3", "1⁄5", "2⁄5", "3⁄5"]),
   (0x2158, ["4⁄5", "1⁄6", "5⁄6", "1⁄8", "3⁄8", "5⁄8", "7⁄8", "1⁄"]),
   (0x2161, ["ii", "iii", "iv"]), (0x2165, ["vi", "vii", "viii", "ix"]), (0x216A, ["xi", "xii"]),
   (0x2171, ["ii", "iii", "iv"]), (0x2175, ["vi", "vii", "viii", "ix"]), (0x217A, ["xi", "xii"]),
   (0x2189, ["0⁄3"]), (0x222C, ["∫∫", "∫∫∫"]), (0x222F, ["∮∮", "∮∮∮"]),
   (0x2469, ["10", "11", "12", "13", "14", "15", "16", "17"]),
   (0x2471, ["18", "19", "20", "(1)", "(2)", "(3)", "(4)", "(5)"]),
   (0x2479, ["(6)", "(7)", "(8)", "(9)", "(10)", "(11)", "(12)", "(13)"]),
   (0x2481, ["(14)", "(15)", "(16)", "(17)", "(18)", "(19)", "(20)"]),
   (0x249C, ["(a)", "(b)", "(c)", "(d)", "(e)", "(f)", "(g)", "(h)"]),
   (0x24A4, ["(i)", "(j)", "(k)", "(l)", "(m)", "(n)", "(o)", "(p)"]),
   (0x24AC, ["(q)", "(r)", "(s)", "(t)", "(u)", "(v)", "(w)", "(x)"]), (0x24B4, ["(y)", "(z)"]),
   (0x2A0C, ["∫∫∫∫"]), (0x2A74, ["::=", "==", "==="]), (0x2ADC, ["⫝\u0338"]),
   (0x309B, [" \u3099", " \u309a"]), (0x309F, ["より"]), (0x30FF, ["コト"]),
   (0x3200, ["(ᄀ)", "(ᄂ)", "(ᄃ)", "(ᄅ)", "(ᄆ)", "(ᄇ)", "(ᄉ)", "(ᄋ)"]),
   (0x3208, ["(ᄌ)", "(ᄎ)", "(ᄏ)", "(ᄐ)", "(ᄑ)", "(ᄒ)", "(가)", "(나)"]),
   (0x3210, ["(다)", "(라)", "(마)", "(바)", "(사)", "(아)", "(자)", "(차)"]),
   (0x3218, ["(카)", "(타)", "(파)", "(하)", "(주)", "(오전)", "(오후)"]),
   (0x3220, ["(一)", "(二)", "(三)", "(四)", "(五)", "(六)", "(七)", "(八)"]),
   (0x3228, ["(九)", "(十)", "(月)", "(火)", "(水)", "(木)", "(金)", "(土)"]),
   (0x3230, ["(日)", "(株)", "(有)", "(社)", "(名)", "(特)", "(財)", "(祝)"]),
   (0x3238, ["(労)", "(代)", "(呼)", "(学)", "(監)", "(企)", "(資)", "(協)"]),
   (0x3240, ["(祭)", "(休)", "(自)", "(至)"]),
   (0x3250, ["pte", "21", "22", "23", "24", "25", "26", "27"]),
   (0x3258, ["28", "29", "30", "31", "32", "33", "34", "35"]), (0x327C, ["참고", "주의"]),
   (0x32B1, ["36", "37", "38", "39", "40", "41", "42", "43"]),
   (0x32B9, ["44", "45", "46", "47", "48", "49", "50", "1月"]),
   (0x32C1, ["2月", "3月", "4月", "5月", "6月", "7月", "8月", "9月"]),
   (0x32C9, ["10月", "11月", "12月", "hg", "erg", "ev", "ltd"]),
   (0x32FF, ["令和", "アパート", "アルファ", "アンペア", "アール", "イニング", "インチ", "ウォン"]),
   (0x3307, ["エスクード", "エーカー", "オンス", "オーム", "カイリ", "カラット", "カロリー", "ガロン"]),
   (0x330F, ["ガンマ", "ギガ", "ギニー", "キュリー", "ギルダー", "キロ", "キログラム", "キロメートル"]),
   (0x3317, ["キロワット", "グラム", "グラムトン", "クルゼイロ", "クローネ", "ケース", "コルナ", "コーポ"]),
   (0x331F, ["サイクル", "サンチーム", "シリング", "センチ", "セント", "ダース", "デシ", "ドル"]),
   (0x3327, ["トン", "ナノ", "ノット", "ハイツ", "パーセント", "パーツ", "バーレル", "ピアストル"]),
   (0x332F, ["ピクル", "ピコ", "ビル", "ファラッド", "フィート", "ブッシェル", "フラン", "ヘクタール"]),
   (0x3337, ["ペソ", "ペニヒ", "ヘルツ", "ペンス", "ページ", "ベータ", "ポイント", "ボルト"]),
   (0x333F, ["ホン", "ポンド", "ホール", "ホーン", "マイクロ", "マイル", "マッハ", "マルク"]),
   (0x3347, ["マンション", "ミクロン", "ミリ", "ミリバール", "メガ", "メガトン", "メートル", "ヤード"]),
   (0x334F, ["ヤール", "ユアン", "リットル", "リラ", "ルピー", "ルーブル", "レム", "レントゲン"]),
   (0x3357, ["ワット", "0点", "1点", "2点", "3点", "4点", "5点", "6点"]),
   (0x335F, ["7点", "8点", "9点", "10点", "11点", "12点", "13点", "14点"]),
   (0x3367, ["15点", "16点", "17点", "18点", "19点", "20点", "21点", "22点"]),
   (0x336F, ["23点", "24点", "hpa", "da", "au", "bar", "ov", "pc"]),
   (0x3377, ["dm", "dm2", "dm3", "iu", "平成", "昭和", "大正", "明治"]),
   (0x337F, ["株式会社", "pa", "na", "μa", "ma", "ka", "kb", "mb"]),
   (0x3387, ["gb", "cal", "kcal", "pf", "nf", "μf", "μg", "mg"]),
   (0x338F, ["kg", "hz", "khz", "mhz", "ghz", "thz", "μl", "ml"]),
   (0x3397, ["dl", "kl", "fm", "nm", "μm", "mm", "cm", "km"]),
   (0x339F, ["mm2", "cm2", "m2", "km2", "mm3", "cm3", "m3", "km3"]),
   (0x33A7, ["m∕s", "m∕s2", "pa", "kpa", "mpa", "gpa", "rad", "rad∕s"]),
   (0x33AF, ["rad∕s2", "ps", "ns", "μs", "ms", "pv", "nv", "μv"]),
   (0x33B7, ["mv", "kv", "mv", "pw", "nw", "μw", "mw", "kw"]), (0x33BF, ["mw", "kω", "mω"]),
   (0x33C3, ["bq", "cc", "cd", "c∕kg"]),
   (0x33C8, ["db", "gy", "ha", "hp", "in", "kk", "km", "kt"]),
   (0x33D0, ["lm", "ln", "log", "lx", "mb", "mil", "mol", "ph"]),
   (0x33D9, ["ppm", "pr", "sr", "sv", "wb", "v∕m", "a∕m", "1日"]),
   (0x33E1, ["2日", "3日", "4日", "5日", "6日", "7日", "8日", "9日"]),
   (0x33E9, ["10日", "11日", "12日", "13日", "14日", "15日", "16日", "17日"]),
   (0x33F1, ["18日", "19日", "20日", "21日", "22日", "23日", "24日", "25日"]),
   (0x33F9, ["26日", "27日", "28日", "29日", "30日", "31日", "gal"]),
   (0xFB00, ["ff", "fi", "fl", "ffi", "ffl", "st", "st"]),
   (0xFB13, ["մն", "մե", "մի", "վն", "մխ"]), (0xFB1D, ["\u05d9\u05b4"]),
   (0xFB1F, ["\u05f2\u05b7"]),
   (0xFB2A, ["\u05e9\u05c1", "\u05e9\u05c2", "\u05e9\u05bc\u05c1", "\u05e9\u05bc\u05c2"]),
   (0xFB2E, ["\u05d0\u05b7", "\u05d0\u05b8", "\u05d0\u05bc", "\u05d1\u05bc", "\u05d2\u05bc"]),
   (0xFB33, ["\u05d3\u05bc", "\u05d4\u05bc", "\u05d5\u05bc", "\u05d6\u05bc"]),
   (0xFB38, ["\u05d8\u05bc", "\u05d9\u05bc", "\u05da\u05bc", "\u05db\u05bc", "\u05dc\u05bc"]),
   (0xFB3E, ["\u05de\u05bc"]), (0xFB40, ["\u05e0\u05bc", "\u05e1\u05bc"]),
   (0xFB43, ["\u05e3\u05bc", "\u05e4\u05bc"]),
   (0xFB46, ["\u05e6\u05bc", "\u05e7\u05bc", "\u05e8\u05bc", "\u05e9\u05bc", "\u05ea\u05bc"]),
   (0xFB4B, ["\u05d5\u05b9", "\u05d1\u05bf", "\u05db\u05bf", "\u05e4\u05bf", "\u05d0\u05dc"]),
   (0xFBDD, ["\u06c7\u0674"]),
   (0xFBEA, ["\u0626\u0627", "\u0626\u0627", "\u0626\u06d5", "\u0626\u06d5", "\u0626\u0648"]),
   (0xFBEF, ["\u0626\u0648", "\u0626\u06c7", "\u0626\u06c7", "\u0626\u06c6", "\u0626\u06c6"]),
   (0xFBF4, ["\u0626\u06c8", "\u0626\u06c8", "\u0626\u06d0", "\u0626\u06d0", "\u0626\u06d0"]),
   (0xFBF9, ["\u0626\u0649", "\u0626\u0649", "\u0626\u0649"]),
   (0xFC00, ["\u0626\u062c", "\u0626\u062d", "\u0626\u0645", "\u0626\u0649", "\u0626\u064a"]),
   (0xFC05, ["\u0628\u062c", "\u0628\u062d", "\u0628\u062e", "\u0628\u0645", "\u0628\u0649"]),
   (0xFC0A, ["\u0628\u064a", "\u062a\u062c", "\u062a\u062d", "\u062a\u062e", "\u062a\u0645"]),
   (0xFC0F, ["\u062a\u0649", "\u062a\u064a", "\u062b\u062c", "\u062b\u0645", "\u062b\u0649"]),
   (0xFC14, ["\u062b\u064a", "\u062c\u062d", "\u062c\u0645", "\u062d\u062c", "\u062d\u0645"]),
   (0xFC19, ["\u062e\u062c", "\u062e\u062d", "\u062e\u0645", "\u0633\u062c", "\u0633\u062d"]),
   (0xFC1E, ["\u0633\u062e", "\u0633\u0645", "\u0635\u062d", "\u0635\u0645", "\u0636\u062c"]),
   (0xFC23, ["\u0636\u062d", "\u0636\u062e", "\u0636\u0645", "\u0637\u062d", "\u0637\u0645"]),
   (0xFC28, ["\u0638\u0645", "\u0639\u062c", "\u0639\u0645", "\u063a\u062c", "\u063a\u0645"]),
   (0xFC2D, ["\u0641\u062c", "\u0641\u062d", "\u0641\u062e", "\u0641\u0645", "\u0641\u0649"]),
   (0xFC32, ["\u0641\u064a", "\u0642\u062d", "\u0642\u0645", "\u0642\u0649", "\u0642\u064a"]),
   (0xFC37, ["\u0643\u0627", "\u0643\u062c", "\u0643\u062d", "\u0643\u062e", "\u0643\u0644"]),
   (0xFC3C, ["\u0643\u0645", "\u0643\u0649", "\u0643\u064a", "\u0644\u062c", "\u0644\u062d"]),
   (0xFC41, ["\u0644\u062e", "\u0644\u0645", "\u0644\u0649", "\u0644\u064a", "\u0645\u062c"]),
   (0xFC46, ["\u0645\u062d", "\u0645\u062e", "\u0645\u0645", "\u0645\u0649", "\u0645\u064a"]),
   (0xFC4B, ["\u0646\u062c", "\u0646\u062d", "\u0646\u062e", "\u0646\u0645", "\u0646\u0649"]),
   (0xFC50, ["\u0646\u064a", "\u0647\u062c", "\u0647\u0645", "\u0647\u0649", "\u0647\u064a"]),
   (0xFC55, ["\u064a\u062c", "\u064a\u062d", "\u064a\u062e", "\u064a\u0645", "\u064a\u0649"]),
   (0xFC5A, ["\u064a\u064a", "\u0630\u0670", "\u0631\u0670", "\u0649\u0670", " \u064c\u0651"]),
   (0xFC5F, [" \u064d\u0651", " \u064e\u0651", " \u064f\u0651", " \u0650\u0651"]),
   (0xFC63, [" \u0651\u0670", "\u0626\u0631", "\u0626\u0632", "\u0626\u0645", "\u0626\u0646"]),
   (0xFC68, ["\u0626\u0649", "\u0626\u064a", "\u0628\u0631", "\u0628\u0632", "\u0628\u0645"]),
   (0xFC6D, ["\u0628\u0646", "\u0628\u0649", "\u0628\u064a", "\u062a\u0631", "\u062a\u0632"]),
   (0xFC72, ["\u062a\u0645", "\u062a\u0646", "\u062a\u0649", "\u062a\u064a", "\u062b\u0631"]),
   (0xFC77, ["\u062b\u0632", "\u062b\u0645", "\u062b\u0646", "\u062b\u0649", "\u062b\u064a"]),
   (0xFC7C, ["\u0641\u0649", "\u0641\u064a", "\u0642\u0649", "\u0642\u064a", "\u0643\u0627"]),
   (0xFC81, ["\u0643\u0644", "\u0643\u0645", "\u0643\u0649", "\u0643\u064a", "\u0644\u0645"]),
   (0xFC86, ["\u0644\u0649", "\u0644\u064a", "\u0645\u0627", "\u0645\u0645", "\u0646\u0631"]),
   (0xFC8B, ["\u0646\u0632", "\u0646\u0645", "\u0646\u0646", "\u0646\u0649", "\u0646\u064a"]),
   (0xFC90, ["\u0649\u0670", "\u064a\u0631", "\u064a\u0632", "\u064a\u0645", "\u064a\u0646"]),
   (0xFC95, ["\u064a\u0649", "\u064a\u064a", "\u0626\u062c", "\u0626\u062d", "\u0626\u062e"]),
   (0xFC9A, ["\u0626\u0645", "\u0626\u0647", "\u0628\u062c", "\u0628\u062d", "\u0628\u062e"]),
   (0xFC9F, ["\u0628\u0645", "\u0628\u0647", "\u062a\u062c", "\u062a\u062d", "\u062a\u062e"]),
   (0xFCA4, ["\u062a\u0645", "\u062a\u0647", "\u062b\u0645", "\u062c\u062d", "\u062c\u0645"]),
   (0xFCA9, ["\u062d\u062c", "\u062d\u0645", "\u062e\u062c", "\u062e\u0645", "\u0633\u062c"]),
   (0xFCAE, ["\u0633\u062d", "\u0633\u062e", "\u0633\u0645", "\u0635\u062d", "\u0635\u062e"]),
   (0xFCB3, ["\u0635\u0645", "\u0636\u062c", "\u0636\u062d", "\u0636\u062e", "\u0636\u0645"]),
   (0xFCB8, ["\u0637\u062d", "\u0638\u0645", "\u0639\u062c", "\u0639\u0645", "\u063a\u062c"]),
   (0xFCBD, ["\u063a\u0645", "\u0641\u062c", "\u0641\u062d", "\u0641\u062e", "\u0641\u0645"]),
   (0xFCC2, ["\u0642\u062d", "\u0642\u0645", "\u0643\u062c", "\u0643\u062d", "\u0643\u062e"]),
   (0xFCC7, ["\u0643\u0644", "\u0643\u0645", "\u0644\u062c", "\u0644\u062d", "\u0644\u062e"]),
   (0xFCCC, ["\u0644\u0645", "\u0644\u0647", "\u0645\u062c", "\u0645\u062d", "\u0645\u062e"]),
   (0xFCD1, ["\u0645\u0645", "\u0646\u062c", "\u0646\u062d", "\u0646\u062e", "\u0646\u0645"]),
   (0xFCD6, ["\u0646\u0647", "\u0647\u062c", "\u0647\u0645", "\u0647\u0670", "\u064a\u062c"]),
   (0xFCDB, ["\u064a\u062d", "\u064a\u062e", "\u064a\u0645", "\u064a\u0647", "\u0626\u0645"]),
   (0xFCE0, ["\u0626\u0647", "\u0628\u0645", "\u0628\u0647", "\u062a\u0645", "\u062a\u0647"]),
   (0xFCE5, ["\u062b\u0645", "\u062b\u0647", "\u0633\u0645", "\u0633\u0647", "\u0634\u0645"]),
   (0xFCEA, ["\u0634\u0647", "\u0643\u0644", "\u0643\u0645", "\u0644\u0645", "\u0646\u0645"]),
   (0xFCEF, ["\u0646\u0647", "\u064a\u0645", "\u064a\u0647", "\u0640\u064e\u0651"]),
   (0xFCF3, ["\u0640\u064f\u0651", "\u0640\u0650\u0651", "\u0637\u0649", "\u0637\u064a"]),
   (0xFCF7, ["\u0639\u0649", "\u0639\u064a", "\u063a\u0649", "\u063a\u064a", "\u0633\u0649"]),
   (0xFCFC, ["\u0633\u064a", "\u0634\u0649", "\u0634\u064a", "\u062d\u0649", "\u062d\u064a"]),
   (0xFD01, ["\u062c\u0649", "\u062c\u064a", "\u062e\u0649", "\u062e\u064a", "\u0635\u0649"]),
   (0xFD06, ["\u0635\u064a", "\u0636\u0649", "\u0636\u064a", "\u0634\u062c", "\u0634\u062d"]),
   (0xFD0B, ["\u0634\u062e", "\u0634\u0645", "\u0634\u0631", "\u0633\u0631", "\u0635\u0631"]),
   (0xFD10, ["\u0636\u0631", "\u0637\u0649", "\u0637\u064a", "\u0639\u0649", "\u0639\u064a"]),
   (0xFD15, ["\u063a\u0649", "\u063a\u064a", "\u0633\u0649", "\u0633\u064a", "\u0634\u0649"]),
   (0xFD1A, ["\u0634\u064a", "\u062d\u0649", "\u062d\u064a", "\u062c\u0649", "\u062c\u064a"]),
   (0xFD1F, ["\u062e\u0649", "\u062e\u064a", "\u0635\u0649", "\u0635\u064a", "\u0636\u0649"]),
   (0xFD24, ["\u0636\u064a", "\u0634\u062c", "\u0634\u062d", "\u0634\u062e", "\u0634\u0645"]),
   (0xFD29, ["\u0634\u0631", "\u0633\u0631", "\u0635\u0631", "\u0636\u0631", "\u0634\u062c"]),
   (0xFD2E, ["\u0634\u062d", "\u0634\u062e", "\u0634\u0645", "\u0633\u0647", "\u0634\u0647"]),
   (0xFD33, ["\u0637\u0645", "\u0633\u062c", "\u0633\u062d", "\u0633\u062e", "\u0634\u062c"]),
   (0xFD38, ["\u0634\u062d", "\u0634\u062e", "\u0637\u0645", "\u0638\u0645", "\u0627\u064b"]),
   (0xFD3D, ["\u0627\u064b"]),
   (0xFD50, ["\u062a\u062c\u0645", "\u062a\u062d\u062c", "\u062a\u062d\u062c"]),
   (0xFD53, ["\u062a\u062d\u0645", "\u062a\u062e\u0645", "\u062a\u0645\u062c"]),
   (0xFD56, ["\u062a\u0645\u062d", "\u062a\u0645\u062e", "\u062c\u0645\u062d"]),
   (0xFD59, ["\u062c\u0645\u062d", "\u062d\u0645\u064a", "\u062d\u0645\u0649"]),
   (0xFD5C, ["\u0633\u062d\u062c", "\u0633\u062c\u062d", "\u0633\u062c\u0649"]),
   (0xFD5F, ["\u0633\u0645\u062d", "\u0633\u0645\u062d", "\u0633\u0645\u062c"]),
   (0xFD62, ["\u0633\u0645\u0645", "\u0633\u0645\u0645", "\u0635\u062d\u062d"]),
   (0xFD65, ["\u0635\u062d\u062d", "\u0635\u0645\u0645", "\u0634\u062d\u0645"]),
   (0xFD68, ["\u0634\u062d\u0645", "\u0634\u062c\u064a", "\u0634\u0645\u062e"]),
   (0xFD6B, ["\u0634\u0645\u062e", "\u0634\u0645\u0645", "\u0634\u0645\u0645"]),
   (0xFD6E, ["\u0636\u062d\u0649", "\u0636\u062e\u0645", "\u0636\u062e\u0645"]),
   (0xFD71, ["\u0637\u0645\u062d", "\u0637\u0645\u062d", "\u0637\u0645\u0645"]),
   (0xFD74, ["\u0637\u0645\u064a", "\u0639\u062c\u0645", "\u0639\u0645\u0645"]),
   (0xFD77, ["\u0639\u0645\u0645", "\u0639\u0645\u0649", "\u063a\u0645\u0645"]),
   (0xFD7A, ["\u063a\u0645\u064a", "\u063a\u0645\u0649", "\u0641\u062e\u0645"]),
   (0xFD7D, ["\u0641\u062e\u0645", "\u0642\u0645\u062d", "\u0642\u0645\u0645"]),
   (0xFD80, ["\u0644\u062d\u0645", "\u0644\u062d\u064a", "\u0644\u062d\u0649"]),
   (0xFD83, ["\u0644\u062c\u062c", "\u0644\u062c\u062c", "\u0644\u062e\u0645"]),
   (0xFD86, ["\u0644\u062e\u0645", "\u0644\u0645\u062d", "\u0644\u0645\u062d"]),
   (0xFD89, ["\u0645\u062d\u062c", "\u0645\u062d\u0645", "\u0645\u062d\u064a"]),
   (0xFD8C, ["\u0645\u062c\u062d", "\u0645\u062c\u0645", "\u0645\u062e\u062c"]),
   (0xFD8F, ["\u0645\u062e\u0645"]),
   (0xFD92, ["\u0645\u062c\u062e", "\u0647\u0645\u062c", "\u0647\u0645\u0645"]),
   (0xFD95, ["\u0646\u062d\u0645", "\u0646\u062d\u0649", "\u0646\u062c\u0645"]),
   (0xFD98, ["\u0646\u062c\u0645", "\u0646\u062c\u0649", "\u0646\u0645\u064a"]),
   (0xFD9B, ["\u0646\u0645\u0649", "\u064a\u0645\u0645", "\u064a\u0645\u0645"]),
   (0xFD9E, ["\u0628\u062e\u064a", "\u062a\u062c\u064a", "\u062a\u062c\u0649"]),
   (0xFDA1, ["\u062a\u062e\u064a", "\u062a\u062e\u0649", "\u062a\u0645\u064a"]),
   (0xFDA4, ["\u062a\u0645\u0649", "\u062c\u0645\u064a", "\u062c\u062d\u0649"]),
   (0xFDA7, ["\u062c\u0645\u0649", "\u0633\u062e\u0649", "\u0635\u062d\u064a"]),
   (0xFDAA, ["\u0634\u062d\u064a", "\u0636\u062d\u064a", "\u0644\u062c\u064a"]),
   (0xFDAD, ["\u0644\u0645\u064a", "\u064a\u062d\u064a", "\u064a\u062c\u064a"]),
   (0xFDB0, ["\u064a\u0645\u064a", "\u0645\u0645\u064a", "\u0642\u0645\u064a"]),
   (0xFDB3, ["\u0646\u062d\u064a", "\u0642\u0645\u062d", "\u0644\u062d\u0645"]),
   (0xFDB6, ["\u0639\u0645\u064a", "\u0643\u0645\u064a", "\u0646\u062c\u062d"]),
   (0xFDB9, ["\u0645\u062e\u064a", "\u0644\u062c\u0645", "\u0643\u0645\u0645"]),
   (0xFDBC, ["\u0644\u062c\u0645", "\u0646\u062c\u062d", "\u062c\u062d\u064a"]),
   (0xFDBF, ["\u062d\u062c\u064a", "\u0645\u062c\u064a", "\u0641\u0645\u064a"]),
   (0xFDC2, ["\u0628\u062d\u064a", "\u0643\u0645\u0645", "\u0639\u062c\u0645"]),
   (0xFDC5, ["\u0635\u0645\u0645", "\u0633\u062e\u064a", "\u0646\u062c\u064a"]),
   (0xFDF0, ["\u0635\u0644\u06d2", "\u0642\u0644\u06d2", "\u0627\u0644\u0644\u0647"]),
   (0xFDF3, ["\u0627\u0643\u0628\u0631", "\u0645\u062d\u0645\u062f"]),
   (0xFDF5, ["\u0635\u0644\u0639\u0645", "\u0631\u0633\u0648\u0644"]),
   (0xFDF7, ["\u0639\u0644\u064a\u0647", "\u0648\u0633\u0644\u0645", "\u0635\u0644\u0649"]),
   (0xFDFA, ["\u0635\u0644\u0649 \u0627\u0644\u0644\u0647 " ++
    "\u0639\u0644\u064a\u0647 \u0648\u0633\u0644\u0645"]),
   (0xFDFB, ["\u062c\u0644 \u062c\u0644\u0627\u0644\u0647", "\u0631\u06cc\u0627\u0644"]),
   (0xFE49, [" \u0305", " \u0305", " \u0305", " \u0305"]),
   (0xFE70, [" \u064b", "\u0640\u064b", " \u064c"]), (0xFE74, [" \u064d"]),
   (0xFE76, [" \u064e", "\u0640\u064e", " \u064f", "\u0640\u064f", " \u0650", "\u0640\u0650"]),
   (0xFE7C, [" \u0651", "\u0640\u0651", " \u0652", "\u0640\u0652"]),
   (0xFEF5, ["\u0644\u0622", "\u0644\u0622", "\u0644\u0623", "\u0644\u0623", "\u0644\u0625"]),
   (0xFEFA, ["\u0644\u0625", "\u0644\u0627", "\u0644\u0627"]), (0xFFE3, [" \u0304"]),
   (0x1D15E, ["𝅗𝅥", "𝅘𝅥", "𝅘𝅥𝅮", "𝅘𝅥𝅯", "𝅘𝅥𝅰", "𝅘𝅥𝅱", "𝅘𝅥𝅲"]),
   (0x1D1BB, ["𝆹𝅥", "𝆺𝅥", "𝆹𝅥𝅮", "𝆺𝅥𝅮", "𝆹𝅥𝅯", "𝆺𝅥𝅯"]),
   (0x1F101, ["0,", "1,", "2,", "3,", "4,", "5,", "6,", "7,"]), (0x1F109, ["8,", "9,"]),
   (0x1F110, ["(a)", "(b)", "(c)", "(d)", "(e)", "(f)", "(g)", "(h)"]),
   (0x1F118, ["(i)", "(j)", "(k)", "(l)", "(m)", "(n)", "(o)", "(p)"]),
   (0x1F120, ["(q)", "(r)", "(s)", "(t)", "(u)", "(v)", "(w)", "(x)"]),
   (0x1F128, ["(y)", "(z)", "〔s〕"]), (0x1F12D, ["cd", "wz"]),
   (0x1F14A, ["hv", "mv", "sd", "ss", "ppv", "wc"]), (0x1F16A, ["mc", "md", "mr"]),
   (0x1F190, ["dj"]), (0x1F200, ["ほか", "ココ"]),
   (0x1F240, ["〔本〕", "〔三〕", "〔二〕", "〔安〕", "〔点〕", "〔打〕", "〔盗〕", "〔勝〕"]), (0x1F248, ["〔敗〕"])]

/-- What a character stands for, if that is more than one character. -/
def longForm? (c : Char) : Option (List Char) := do
  let (first, texts) ← longForms.find? fun (first, texts) =>
    first ≤ c.toNat && c.toNat < first + texts.length
  (texts[c.toNat - first]?).map String.toList

end MarkupAssist.Domain
