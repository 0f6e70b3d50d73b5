/-!
# Characters written as one other character

In a domain name many characters only stand for another one: full-width letters, letters in a
circle, letters of mathematics, old forms of ideographs. `shortForms` lists those that stand for a
single character and are not capitals of it. Neighbours are listed together: a row has the code
point of its first character and the characters that it and the following ones stand for.
-/

namespace MarkupAssist.Domain

/-- Rows of consecutive characters, each with the first code point and what they stand for. -/
def shortForms : List (Nat × String) :=
  [(0xA0, " "), (0xAA, "a"), (0xB2, "23"), (0xB5, "μ"), (0xB9, "1o"), (0x17F, "s"),
   (0x2B0, "hɦjrɹɻʁwy"), (0x2E0, "ɣlsxʕ"), (0x340, "\u0300\u0301"), (0x343, "\u0313"),
   (0x345, "ι"), (0x374, "ʹ"), (0x37E, ";"), (0x387, "·"), (0x3D0, "βθυύϋφπ"), (0x3F0, "κρσ"),
   (0x3F5, "ε"), (0x3F9, "σ"), (0xF0C, "་"), (0x10FC, "ნ"), (0x13F8, "ᏰᏱᏲᏳᏴᏵ"),
   (0x1C80, "вдосттъѣꙋ"), (0x1D2C, "aæb"), (0x1D30, "deǝghijklmn"), (0x1D3C, "oȣprtuwaɐɑᴂbdeəɛɜg"),
   (0x1D4F, "kmŋoɔᴖᴗptuᴝɯvᴥβγδφχiruvβγρφχ"), (0x1D78, "н"),
   (0x1D9B, "ɒcɕðɜfɟɡɥɨɩɪᵻʝɭᶅʟɱɰɲɳɴɵɸʂʃƫʉʊᴜʋʌzʐʑʒ"), (0x1DBF, "θ"), (0x1E9B, "ṡ"), (0x1F71, "ά"),
   (0x1F73, "έ"), (0x1F75, "ή"), (0x1F77, "ί"), (0x1F79, "ό"), (0x1F7B, "ύ"), (0x1F7D, "ώ"),
   (0x1FBB, "ά"), (0x1FBE, "ι"), (0x1FC9, "έ"), (0x1FCB, "ή"), (0x1FD3, "ΐ"), (0x1FDB, "ί"),
   (0x1FE3, "ΰ"), (0x1FEB, "ύ"), (0x1FEF, "`"), (0x1FF9, "ό"), (0x1FFB, "ώ"),
   (0x2000, "           "), (0x2011, "‐"), (0x202F, " "), (0x205F, " "), (0x2070, "0i"),
   (0x2074, "456789+−=()n0123456789+−=()"), (0x2090, "aeoxəhklmnpst"), (0x2102, "c"),
   (0x2107, "ɛ"), (0x210A, "ghhhhħiill"), (0x2115, "n"), (0x2119, "pqrrr"), (0x2124, "z"),
   (0x2128, "z"), (0x212C, "bc"), (0x212F, "eef"), (0x2133, "mo\u05d0\u05d1\u05d2\u05d3i"),
   (0x213C, "πγγπ∑"), (0x2145, "ddeij"), (0x2160, "i"), (0x2164, "v"), (0x2169, "x"),
   (0x216C, "lcdmi"), (0x2174, "v"), (0x2179, "x"), (0x217C, "lcdm"), (0x2329, "〈〉"),
   (0x2460, "123456789"), (0x24B6, "abcdefghijklmnopqrstuvwxyzabcdefghij"),
   (0x24DA, "klmnopqrstuvwxyz0"), (0x2C7C, "jv"), (0x2D6F, "ⵡ"), (0x2E9F, "母"), (0x2EF3, "龟"),
   (0x2F00, "一丨丶丿乙亅二亠人儿入八冂冖冫几凵刀力勹匕匚匸十卜卩厂厶又口囗土士夂夊夕"),
   (0x2F24, "大女子宀寸小尢尸屮山巛工己巾干幺广廴廾弋弓彐彡彳心戈戶手支攴文斗斤方无日"),
   (0x2F48, "曰月木欠止歹殳毋比毛氏气水火爪父爻爿片牙牛犬玄玉瓜瓦甘生用田疋疒癶白皮皿"),
   (0x2F6C, "目矛矢石示禸禾穴立竹米糸缶网羊羽老而耒耳聿肉臣自至臼舌舛舟艮色艸虍虫血行"),
   (0x2F90, "衣襾見角言谷豆豕豸貝赤走足身車辛辰辵邑酉釆里金長門阜隶隹雨靑非面革韋韭音"),
   (0x2FB4, "頁風飛食首香馬骨高髟鬥鬯鬲鬼魚鳥鹵鹿麥麻黃黍黑黹黽鼎鼓鼠鼻齊齒龍龜龠"), (0x3000, " "), (0x3002, "."), (0x3036, "〒"),
   (0x3038, "十卄卅"), (0x3131, "ᄀᄁᆪᄂᆬᆭᄃᄄᄅᆰᆱᆲᆳᆴᆵᄚᄆᄇᄈᄡᄉᄊᄋᄌᄍᄎᄏᄐᄑ하ᅢᅣᅤᅥᅦ"), (0x3155, "ᅧᅨᅩᅪᅫᅬᅭᅮᅯᅰᅱᅲᅳᅴᅵ"),
   (0x3165, "ᄔᄕᇇᇈᇌᇎᇓᇗᇙᄜᇝᇟᄝᄞᄠᄢᄣᄧᄩᄫᄬᄭᄮᄯᄲᄶᅀᅇᅌᇱᇲᅗᅘᅙᆄᆅ"), (0x3189, "ᆈᆑᆒᆔᆞᆡ"),
   (0x3192, "一二三四上中下甲乙丙丁天地人"), (0x3244, "問幼文箏"), (0x3260, "ᄀᄂᄃᄅᄆᄇᄉᄋᄌᄎᄏᄐᄑᄒ가나다라마바사아자차카타파하"),
   (0x327E, "우"), (0x3280, "一二三四五六七八九十月火水木金土日株有社名特財祝労秘男女適優印注項休写正"), (0x32A4, "上中下左右医宗学監企資協夜"),
   (0x32D0, "アイウエオカキクケコサシスセソタチツテトナニヌネノハヒフヘホマミムメモヤ"), (0x32F4, "ユヨラリルレロワヰヱヲ"), (0xA69C, "ъь"),
   (0xA770, "ꝯ"), (0xA7CE, "\ua7cf"), (0xA7D2, "ꟓ"), (0xA7D4, "ꟕ"), (0xA7F1, "scfq"),
   (0xA7F8, "ħœ"), (0xAB5C, "ꜧꬷɫꭒ"), (0xAB69, "ʍ"),
   (0xAB70, "ᎠᎡᎢᎣᎤᎥᎦᎧᎨᎩᎪᎫᎬᎭᎮᎯᎰᎱᎲᎳᎴᎵᎶᎷᎸᎹᎺᎻᎼᎽᎾᎿᏀᏁᏂᏃ"),
   (0xAB94, "ᏄᏅᏆᏇᏈᏉᏊᏋᏌᏍᏎᏏᏐᏑᏒᏓᏔᏕᏖᏗᏘᏙᏚᏛᏜᏝᏞᏟᏠᏡᏢᏣᏤᏥᏦᏧ"), (0xABB8, "ᏨᏩᏪᏫᏬᏭᏮᏯ"),
   (0xF900, "豈更車賈滑串句龜龜契金喇奈懶癩羅蘿螺裸邏樂洛烙珞落酪駱亂卵欄爛蘭鸞嵐濫藍"),
   (0xF924, "襤拉臘蠟廊朗浪狼郎來冷勞擄櫓爐盧老蘆虜路露魯鷺碌祿綠菉錄鹿論壟弄籠聾牢磊"),
   (0xF948, "賂雷壘屢樓淚漏累縷陋勒肋凜凌稜綾菱陵讀拏樂諾丹寧怒率異北磻便復不泌數索參"),
   (0xF96C, "塞省葉說殺辰沈拾若掠略亮兩凉梁糧良諒量勵呂女廬旅濾礪閭驪麗黎力曆歷轢年憐"),
   (0xF990, "戀撚漣煉璉秊練聯輦蓮連鍊列劣咽烈裂說廉念捻殮簾獵令囹寧嶺怜玲瑩羚聆鈴零靈"),
   (0xF9B4, "領例禮醴隸惡了僚寮尿料樂燎療蓼遼龍暈阮劉杻柳流溜琉留硫紐類六戮陸倫崙淪輪"),
   (0xF9D8, "律慄栗率隆利吏履易李梨泥理痢罹裏裡里離匿溺吝燐璘藺隣鱗麟林淋臨立笠粒狀炙"), (0xF9FC, "識什茶刺切度拓糖宅洞暴輻行降見廓兀嗀"), (0xFA10, "塚"),
   (0xFA12, "晴"), (0xFA15, "凞猪益礼神祥福靖精羽"), (0xFA20, "蘒"), (0xFA22, "諸"), (0xFA25, "逸都"),
   (0xFA2A, "飯飼館鶴郞隷侮僧免勉勤卑喝嘆器塀墨層屮悔慨憎懲敏既暑梅海渚漢煮爫琢碑社祉"), (0xFA4E, "祈祐祖祝禍禎穀突節練縉繁署者臭艹艹著褐視謁謹賓贈辶逸難響頻恵𤋮舘"),
   (0xFA70, "並况全侀充冀勇勺喝啕喙嗢塚墳奄奔婢嬨廒廙彩徭惘慎愈憎慠懲戴揄搜摒敖晴朗望"),
   (0xFA94, "杖歹殺流滛滋漢瀞煮瞧爵犯猪瑱甆画瘝瘟益盛直睊着磌窱節类絛練缾者荒華蝹襁覆"),
   (0xFAB8, "視調諸請謁諾諭謹變贈輸遲醙鉶陼難靖韛響頋頻鬒龜𢡊𢡄𣏕㮝䀘䀹𥉉𥳐𧻓齃龎"),
   (0xFB20, "\u05e2\u05d0\u05d3\u05d4\u05db\u05dc\u05dd\u05e8\u05ea+"),
   (0xFB50, "\u0671\u0671\u067b\u067b\u067b\u067b\u067e\u067e\u067e\u067e\u0680\u0680\u0680"),
   (0xFB5D, "\u0680\u067a\u067a\u067a\u067a\u067f\u067f\u067f\u067f\u0679\u0679\u0679\u0679"),
   (0xFB6A, "\u06a4\u06a4\u06a4\u06a4\u06a6\u06a6\u06a6\u06a6\u0684\u0684\u0684\u0684\u0683"),
   (0xFB77, "\u0683\u0683\u0683\u0686\u0686\u0686\u0686\u0687\u0687\u0687\u0687\u068d\u068d"),
   (0xFB84, "\u068c\u068c\u068e\u068e\u0688\u0688\u0698\u0698\u0691\u0691\u06a9\u06a9\u06a9"),
   (0xFB91, "\u06a9\u06af\u06af\u06af\u06af\u06b3\u06b3\u06b3\u06b3\u06b1\u06b1\u06b1\u06b1"),
   (0xFB9E, "\u06ba\u06ba\u06bb\u06bb\u06bb\u06bb\u06c0\u06c0\u06c1\u06c1\u06c1\u06c1\u06be"),
   (0xFBAB, "\u06be\u06be\u06be\u06d2\u06d2\u06d3\u06d3"),
   (0xFBD3, "\u06ad\u06ad\u06ad\u06ad\u06c7\u06c7\u06c6\u06c6\u06c8\u06c8"),
   (0xFBDE, "\u06cb\u06cb\u06c5\u06c5\u06c9\u06c9\u06d0\u06d0\u06d0\u06d0\u0649\u0649"),
   (0xFBFC, "\u06cc\u06cc\u06cc\u06cc"), (0xFE10, ",、"), (0xFE13, ":;!?〖〗"),
   (0xFE31, "—–__()\x7b\x7d〔〕【】《》〈〉「」『』"), (0xFE47, "[]"), (0xFE4D, "___,、"),
   (0xFE54, ";:?!—()\x7b\x7d〔〕#&*+-<>="), (0xFE68, "\\$%@"),
   (0xFE80, "\u0621\u0622\u0622\u0623\u0623\u0624\u0624\u0625\u0625\u0626\u0626\u0626\u0626"),
   (0xFE8D, "\u0627\u0627\u0628\u0628\u0628\u0628\u0629\u0629\u062a\u062a\u062a\u062a\u062b"),
   (0xFE9A, "\u062b\u062b\u062b\u062c\u062c\u062c\u062c\u062d\u062d\u062d\u062d\u062e\u062e"),
   (0xFEA7, "\u062e\u062e\u062f\u062f\u0630\u0630\u0631\u0631\u0632\u0632\u0633\u0633\u0633"),
   (0xFEB4, "\u0633\u0634\u0634\u0634\u0634\u0635\u0635\u0635\u0635\u0636\u0636\u0636\u0636"),
   (0xFEC1, "\u0637\u0637\u0637\u0637\u0638\u0638\u0638\u0638\u0639\u0639\u0639\u0639\u063a"),
   (0xFECE, "\u063a\u063a\u063a\u0641\u0641\u0641\u0641\u0642\u0642\u0642\u0642\u0643\u0643"),
   (0xFEDB, "\u0643\u0643\u0644\u0644\u0644\u0644\u0645\u0645\u0645\u0645\u0646\u0646\u0646"),
   (0xFEE8, "\u0646\u0647\u0647\u0647\u0647\u0648\u0648\u0649\u0649\u064a\u064a\u064a\u064a"),
   (0xFF01, "!\"#$%&'()*+,-./0123456789:;<=>?@abcd"),
   (0xFF25, "efghijklmnopqrstuvwxyz[\\]^_`abcdefgh"),
   (0xFF49, "ijklmnopqrstuvwxyz\x7b|\x7d~⦅⦆.「」、・ヲァィゥェォャ"),
   (0xFF6D, "ュョッーアイウエオカキクケコサシスセソタチツテトナニヌネノハヒフヘホマミ"), (0xFF91, "ムメモヤユヨラリルレロワン\u3099\u309a"),
   (0xFFA1, "ᄀᄁᆪᄂᆬᆭᄃᄄᄅᆰᆱᆲᆳᆴᆵᄚᄆᄇᄈᄡᄉᄊᄋᄌᄍᄎᄏᄐᄑᄒ"), (0xFFC2, "ᅡᅢᅣᅤᅥᅦ"), (0xFFCA, "ᅧᅨᅩᅪᅫᅬ"),
   (0xFFD2, "ᅭᅮᅯᅰᅱᅲ"), (0xFFDA, "ᅳᅴᅵ"), (0xFFE0, "¢£¬"), (0xFFE4, "¦¥₩"), (0xFFE8, "│←↑→↓■○"),
   (0x10781, "ːˑæʙɓ"), (0x10787, "ʣꭦʥʤɖɗᶑɘɞʩɤɢɠʛħʜɧʄʪʫɬ𝼄ꞎɮ𝼅ʎ𝼆øɶɷqɺ𝼈ɽɾʀ"), (0x107AB, "ʨʦꭧʧʈⱱ"),
   (0x107B2, "ʏʡʢʘǀǁǂ𝼊𝼞"), (0x16EA0, "𖺻𖺼𖺽𖺾𖺿𖻀𖻁𖻂𖻃𖻄𖻅𖻆𖻇𖻈𖻉𖻊𖻋𖻌𖻍𖻎𖻏𖻐𖻑𖻒𖻓"),
   (0x1CCD6, "abcdefghijklmnopqrstuvwxyz0123456789"),
   (0x1D400, "abcdefghijklmnopqrstuvwxyzabcdefghij"),
   (0x1D424, "klmnopqrstuvwxyzabcdefghijklmnopqrst"), (0x1D448, "uvwxyzabcdefg"),
   (0x1D456, "ijklmnopqrstuvwxyzabcdefghijklmnopqr"),
   (0x1D47A, "stuvwxyzabcdefghijklmnopqrstuvwxyza"), (0x1D49E, "cd"), (0x1D4A2, "g"),
   (0x1D4A5, "jk"), (0x1D4A9, "nopq"), (0x1D4AE, "stuvwxyzabcd"), (0x1D4BB, "f"),
   (0x1D4BD, "hijklmn"), (0x1D4C5, "pqrstuvwxyzabcdefghijklmnopqrstuvwxy"),
   (0x1D4E9, "zabcdefghijklmnopqrstuvwxyzab"), (0x1D507, "defg"), (0x1D50D, "jklmnopq"),
   (0x1D516, "stuvwxy"), (0x1D51E, "abcdefghijklmnopqrstuvwxyzab"), (0x1D53B, "defg"),
   (0x1D540, "ijklm"), (0x1D546, "o"), (0x1D54A, "stuvwxy"),
   (0x1D552, "abcdefghijklmnopqrstuvwxyzabcdefghij"),
   (0x1D576, "klmnopqrstuvwxyzabcdefghijklmnopqrst"),
   (0x1D59A, "uvwxyzabcdefghijklmnopqrstuvwxyzabcd"),
   (0x1D5BE, "efghijklmnopqrstuvwxyzabcdefghijklmn"),
   (0x1D5E2, "opqrstuvwxyzabcdefghijklmnopqrstuvwx"),
   (0x1D606, "yzabcdefghijklmnopqrstuvwxyzabcdefgh"),
   (0x1D62A, "ijklmnopqrstuvwxyzabcdefghijklmnopqr"),
   (0x1D64E, "stuvwxyzabcdefghijklmnopqrstuvwxyzab"),
   (0x1D672, "cdefghijklmnopqrstuvwxyzabcdefghijkl"), (0x1D696, "mnopqrstuvwxyzıȷ"),
   (0x1D6A8, "αβγδεζηθικλμνξοπρθστυφχψω∇αβγδεζηθικ"),
   (0x1D6CC, "λμνξοπρσστυφχψω∂εθκφρπαβγδεζηθικλμνξ"),
   (0x1D6F0, "οπρθστυφχψω∇αβγδεζηθικλμνξοπρσστυφχψ"),
   (0x1D714, "ω∂εθκφρπαβγδεζηθικλμνξοπρθστυφχψω∇αβ"),
   (0x1D738, "γδεζηθικλμνξοπρσστυφχψω∂εθκφρπαβγδεζ"),
   (0x1D75C, "ηθικλμνξοπρθστυφχψω∇αβγδεζηθικλμνξοπ"),
   (0x1D780, "ρσστυφχψω∂εθκφρπαβγδεζηθικλμνξοπρθστ"),
   (0x1D7A4, "υφχψω∇αβγδεζηθικλμνξοπρσστυφχψω∂εθκφ"), (0x1D7C8, "ρπϝϝ"),
   (0x1D7CE, "012345678901234567890123456789012345"), (0x1D7F2, "67890123456789"),
   (0x1E030, "абвгдежзиклмопрстуфхцчшыэюꚉәіјөүӏабв"), (0x1E054, "гдежзиклопсуфхцчшъыґіѕџҫꙑұ"),
   (0x1EE00, "\u0627\u0628\u062c\u062f"),
   (0x1EE05, "\u0648\u0632\u062d\u0637\u064a\u0643\u0644\u0645\u0646\u0633\u0639\u0641\u0635"),
   (0x1EE12, "\u0642\u0631\u0634\u062a\u062b\u062e\u0630\u0636\u0638\u063a\u066e\u06ba\u06a1"),
   (0x1EE1F, "\u066f"), (0x1EE21, "\u0628\u062c"), (0x1EE24, "\u0647"), (0x1EE27, "\u062d"),
   (0x1EE29, "\u064a\u0643\u0644\u0645\u0646\u0633\u0639\u0641\u0635\u0642"),
   (0x1EE34, "\u0634\u062a\u062b\u062e"), (0x1EE39, "\u0636"), (0x1EE3B, "\u063a"),
   (0x1EE42, "\u062c"), (0x1EE47, "\u062d"), (0x1EE49, "\u064a"), (0x1EE4B, "\u0644"),
   (0x1EE4D, "\u0646\u0633\u0639"), (0x1EE51, "\u0635\u0642"), (0x1EE54, "\u0634"),
   (0x1EE57, "\u062e"), (0x1EE59, "\u0636"), (0x1EE5B, "\u063a"), (0x1EE5D, "\u06ba"),
   (0x1EE5F, "\u066f"), (0x1EE61, "\u0628\u062c"), (0x1EE64, "\u0647"),
   (0x1EE67, "\u062d\u0637\u064a\u0643"), (0x1EE6C, "\u0645\u0646\u0633\u0639\u0641\u0635\u0642"),
   (0x1EE74, "\u0634\u062a\u062b\u062e"), (0x1EE79, "\u0636\u0638\u063a\u066e"),
   (0x1EE7E, "\u06a1"), (0x1EE80, "\u0627\u0628\u062c\u062f\u0647\u0648\u0632\u062d\u0637\u064a"),
   (0x1EE8B, "\u0644\u0645\u0646\u0633\u0639\u0641\u0635\u0642\u0631\u0634\u062a\u062b\u062e"),
   (0x1EE98, "\u0630\u0636\u0638\u063a"), (0x1EEA1, "\u0628\u062c\u062f"),
   (0x1EEA5, "\u0648\u0632\u062d\u0637\u064a"),
   (0x1EEAB, "\u0644\u0645\u0646\u0633\u0639\u0641\u0635\u0642\u0631\u0634\u062a\u062b\u062e"),
   (0x1EEB8, "\u0630\u0636\u0638\u063a"), (0x1F12B, "cr"), (0x1F130, "abcdefghijklmnopqrstuvwxyz"),
   (0x1F202, "サ"), (0x1F210, "手字双デ二多解天交映無料前後再新初終生販声吹演投捕一三遊左中右指走打禁空"), (0x1F234, "合満有月申割営配"),
   (0x1F250, "得可"), (0x1FBF0, "0123456789"), (0x2F800, "丽丸乁𠄢你侮侻倂偺備僧像㒞𠘺免兔兤具𠔜㒹內再𠕋冗冤仌冬况𩇟凵刃㓟刻剆割剷"),
   (0x2F824, "㔕勇勉勤勺包匆北卉卑博即卽卿卿卿𠨬灰及叟𠭣叫叱吆咞吸呈周咢哶唐啓啣善善喙"),
   (0x2F848, "喫喳嗂圖嘆圗噑噴切壮城埴堍型堲報墬𡓤売壷夆多夢奢𡚨𡛪姬娛娧姘婦㛮㛼嬈嬾嬾"),
   (0x2F86C, "𡧈寃寘寧寳𡬘寿将当尢㞁屠屮峀岍𡷤嵃𡷦嵮嵫嵼巡巢㠯巽帨帽幩㡢𢆃㡼庰庳庶廊𪎒"),
   (0x2F890, "廾𢌱𢌱舁弢弢㣇𣊸𦇚形彫㣣徚忍志忹悁㤺㤜悔𢛔惇慈慌慎慌慺憎憲憤憯懞懲懶成戛"),
   (0x2F8B4, "扝抱拔捐𢬌挽拼捨掃揤𢯱搢揅掩㨮摩摾撝摷㩬敏敬𣀊旣書晉㬙暑㬈㫤冒冕最暜肭䏙"),
   (0x2F8D8, "朗望朡杞杓𣏃㭉柺枅桒梅𣑭梎栟椔㮝楂榣槪檨𣚣櫛㰘次𣢧歔㱎歲殟殺殻𣪍𡴋𣫺汎𣲼"),
   (0x2F8FC, "沿泍汧洖派海流浩浸涅𣴞洴港湮㴳滋滇𣻑淹潮𣽞𣾎濆瀹瀞瀛㶖灊災灷炭𠔥煅𤉣熜𤎫"),
   (0x2F920, "爨爵牐𤘈犀犕𤜵𤠔獺王㺬玥㺸㺸瑇瑜瑱璅瓊㼛甤𤰶甾𤲒異𢆟瘐𤾡𤾸𥁄㿼䀈直𥃳𥃲𥄙"),
   (0x2F944, "𥄳眞真真睊䀹瞋䁆䂖𥐝硎碌磌䃣𥘦祖𥚚𥛅福秫䄯穀穊穏𥥼𥪧𥪧竮䈂𥮫篆築䈧𥲀糒䊠"),
   (0x2F968, "糨糣紀𥾆絣䌁緇縂繅䌴𦈨𦉇䍙𦋙罺𦌾羕翺者𦓚𦔣聠𦖨聰𣍟䏕育脃䐋脾媵𦞧𦞵𣎓𣎜舁"),
   (0x2F98C, "舄辞䑫芑芋芝劳花芳芽苦𦬼若茝荣莭茣莽菧著荓菊菌菜𦰶𦵫𦳕䔫蓱蓳蔖𧏊蕤𦼬䕝䕡"),
   (0x2F9B0, "𦾱𧃒䕫虐虜虧虩蚩蚈蜎蛢蝹蜨蝫螆䗗蟡蠁䗹衠衣𧙧裗裞䘵裺㒻𧢮𧥦䚾䛇誠諭變豕𧲨"),
   (0x2F9D4, "貫賁贛起𧼯𠠄跋趼跰𠣞軔輸𨗒𨗭邔郱鄑𨜮鄛鈸鋗鋘鉼鏹鐕𨯺開䦕閷𨵷䧦雃嶲霣𩅅𩈚"),
   (0x2F9F8, "䩮䩶韠𩐊䪲𩒖頋頋頩𩖶飢䬳餩馧駂駾䯎𩬰鬒鱀鳽䳎䳭鵧𪃎䳸𪄅𪈎𪊑麻䵖黹黾鼅鼏鼖"), (0x2FA1C, "鼻𪘀")]

/-- What a character stands for, if that is one other character. -/
def shortForm? (c : Char) : Option Char := do
  let (first, text) ← shortForms.find? fun (first, text) =>
    first ≤ c.toNat && c.toNat < first + text.length
  text.toList[c.toNat - first]?

end MarkupAssist.Domain
