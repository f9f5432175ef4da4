import LoginGateway.Text.Composition

namespace LoginGateway.Url

/-- Letters in regular rows: first code point, number of letters, distance between two of them, and
distance to the folded form. -/
def foldRuns : List (Nat × Nat × Nat × Int) :=
  [(0xC6, 13, 2, 32), (0x246, 5, 2, 1), (0x391, 17, 1, 32), (0x3A3, 7, 1, 32), (0x3D8, 12, 2, 1),
    (0x402, 14, 1, 80), (0x410, 32, 1, 32), (0x460, 17, 2, 1), (0x48A, 27, 2, 1), (0x4C3, 6, 2, 1),
    (0x4D4, 46, 2, 1), (0x531, 38, 1, 48), (0x10A0, 38, 1, 7264), (0x13F8, 6, 1, -8),
    (0x1C90, 43, 1, -3008), (0x1D33, 8, 1, -7372), (0x1DAE, 4, 1, -6972), (0x2074, 6, 1, -8256),
    (0x2080, 10, 1, -8272), (0x2096, 4, 1, -8235), (0x2135, 4, 1, -7013), (0x2460, 9, 1, -9263),
    (0x24B6, 26, 1, -9301), (0x24D0, 26, 1, -9327), (0x2C00, 48, 1, 48), (0x2C80, 50, 2, 1),
    (0x313A, 6, 1, -8074), (0x3145, 10, 1, -8252), (0x314F, 21, 1, -8174), (0x3178, 5, 1, -8269),
    (0x3269, 5, 1, -8539), (0x32E4, 6, 1, -538), (0x32EE, 5, 1, -528), (0x32F5, 6, 1, -525),
    (0x32FB, 4, 1, -524), (0xA640, 23, 2, 1), (0xA680, 14, 2, 1), (0xA722, 7, 2, 1),
    (0xA732, 31, 2, 1), (0xA77E, 5, 2, 1), (0xA796, 10, 2, 1), (0xA7B4, 8, 2, 1), (0xA7CC, 8, 2, 1),
    (0xAB70, 80, 1, -38864), (0xFE41, 4, 1, -52789), (0xFF01, 32, 1, -65248),
    (0xFF21, 26, 1, -65216), (0xFF3B, 36, 1, -65248), (0xFF85, 6, 1, -52923),
    (0xFF8F, 5, 1, -52913), (0xFF96, 6, 1, -52910), (0xFFAA, 6, 1, -60922), (0xFFB5, 10, 1, -61100),
    (0xFFC2, 6, 1, -61025), (0xFFCA, 6, 1, -61027), (0xFFD2, 6, 1, -61029), (0xFFE9, 4, 1, -56921),
    (0x10400, 40, 1, 40), (0x104B0, 36, 1, 40), (0x10570, 19, 2, 39), (0x10571, 5, 2, 39),
    (0x1057D, 7, 2, 39), (0x10C80, 51, 1, 64), (0x10D50, 22, 1, 32), (0x118A0, 32, 1, 32),
    (0x16E40, 32, 1, 32), (0x16EA0, 25, 1, 27), (0x1CCD6, 26, 1, -117877),
    (0x1CCF0, 10, 1, -117952), (0x1D400, 26, 1, -119711), (0x1D41A, 26, 1, -119737),
    (0x1D434, 26, 1, -119763), (0x1D44E, 7, 1, -119789), (0x1D456, 18, 1, -119789),
    (0x1D468, 26, 1, -119815), (0x1D482, 26, 1, -119841), (0x1D4A9, 4, 1, -119867),
    (0x1D4AE, 8, 1, -119867), (0x1D4B7, 13, 2, -119893), (0x1D4C6, 5, 2, -119893),
    (0x1D4D0, 26, 1, -119919), (0x1D4EA, 26, 1, -119945), (0x1D507, 4, 1, -119971),
    (0x1D50D, 8, 1, -119971), (0x1D516, 7, 1, -119971), (0x1D51E, 26, 1, -119997),
    (0x1D53C, 6, 2, -120023), (0x1D54A, 7, 1, -120023), (0x1D552, 26, 1, -120049),
    (0x1D56C, 26, 1, -120075), (0x1D586, 26, 1, -120101), (0x1D5A0, 26, 1, -120127),
    (0x1D5BA, 26, 1, -120153), (0x1D5D4, 26, 1, -120179), (0x1D5EE, 26, 1, -120205),
    (0x1D608, 26, 1, -120231), (0x1D622, 26, 1, -120257), (0x1D63C, 26, 1, -120283),
    (0x1D656, 26, 1, -120309), (0x1D670, 26, 1, -120335), (0x1D68A, 26, 1, -120361),
    (0x1D6A8, 17, 1, -119543), (0x1D6BA, 7, 1, -119543), (0x1D6C2, 17, 1, -119569),
    (0x1D6D4, 7, 1, -119569), (0x1D6E2, 17, 1, -119601), (0x1D6F4, 7, 1, -119601),
    (0x1D6FC, 17, 1, -119627), (0x1D70E, 7, 1, -119627), (0x1D71C, 17, 1, -119659),
    (0x1D72E, 7, 1, -119659), (0x1D736, 17, 1, -119685), (0x1D748, 7, 1, -119685),
    (0x1D756, 17, 1, -119717), (0x1D768, 7, 1, -119717), (0x1D770, 17, 1, -119743),
    (0x1D782, 7, 1, -119743), (0x1D790, 17, 1, -119775), (0x1D7A2, 7, 1, -119775),
    (0x1D7AA, 17, 1, -119801), (0x1D7BC, 7, 1, -119801), (0x1D7CE, 10, 1, -120734),
    (0x1D7D8, 10, 1, -120744), (0x1D7E2, 10, 1, -120754), (0x1D7EC, 10, 1, -120764),
    (0x1D7F6, 10, 1, -120774), (0x1E030, 9, 1, -121856), (0x1E03C, 11, 1, -121854),
    (0x1E051, 9, 1, -121889), (0x1E05F, 6, 1, -121884), (0x1E900, 34, 1, 34),
    (0x1EE0A, 4, 1, -124871), (0x1EE2A, 4, 1, -124903), (0x1F130, 26, 1, -127183),
    (0x1FBF0, 10, 1, -129984)]

/-- Folded forms, from a code point on, with spaces between them. -/
def foldRows : List (Nat × String) :=
  [(0xAA, "a"),
    (0xB2, "2 3"),
    (0xB5, "μ"),
    (0xB9, "1 o"),
    (0xBC, "1⁄4 1⁄2 3⁄4"),
    (0x110, "đ"),
    (0x126, "ħ"),
    (0x132, "ij ij"),
    (0x13F, "l· l· ł"),
    (0x149, "ʼn ŋ"),
    (0x152, "œ"),
    (0x166, "ŧ"),
    (0x17F, "s"),
    (0x181, "ɓ ƃ"),
    (0x184, "ƅ"),
    (0x186, "ɔ ƈ"),
    (0x189, "ɖ ɗ ƌ"),
    (0x18E, "ǝ ə ɛ ƒ"),
    (0x193, "ɠ ɣ"),
    (0x196, "ɩ ɨ ƙ"),
    (0x19C, "ɯ ɲ"),
    (0x19F, "ɵ"),
    (0x1A2, "ƣ"),
    (0x1A4, "ƥ"),
    (0x1A6, "ʀ ƨ"),
    (0x1A9, "ʃ"),
    (0x1AC, "ƭ"),
    (0x1AE, "ʈ"),
    (0x1B1, "ʊ ʋ ƴ"),
    (0x1B5, "ƶ"),
    (0x1B7, "ʒ ƹ"),
    (0x1BC, "ƽ"),
    (0x1C4, "dž dž dž lj lj lj nj nj nj"),
    (0x1E4, "ǥ"),
    (0x1F1, "dz dz dz"),
    (0x1F6, "ƕ ƿ"),
    (0x21C, "ȝ"),
    (0x220, "ƞ"),
    (0x222, "ȣ"),
    (0x224, "ȥ"),
    (0x23A, "ⱥ ȼ"),
    (0x23D, "ƚ ⱦ"),
    (0x241, "ɂ"),
    (0x243, "ƀ ʉ ʌ"),
    (0x2B0, "h ɦ j r ɹ ɻ ʁ w y"),
    (0x2E0, "ɣ l s x ʕ"),
    (0x345, "ι"),
    (0x370, "ͱ"),
    (0x372, "ͳ"),
    (0x376, "ͷ"),
    (0x37F, "ϳ"),
    (0x3CF, "ϗ β θ υ"),
    (0x3D5, "φ π"),
    (0x3F0, "κ ρ σ"),
    (0x3F4, "θ ε"),
    (0x3F7, "ϸ"),
    (0x3F9, "σ ϻ"),
    (0x3FD, "ͻ ͼ ͽ"),
    (0x4C0, "ӏ"),
    (0x587, "եւ"),
    (0x675, "اٴ وٴ ۇٴ يٴ"),
    (0xE33, "ํา"),
    (0xEB3, "ໍາ"),
    (0xEDC, "ຫນ ຫມ"),
    (0xF0C, "་"),
    (0xF77, "ྲཱྀ"),
    (0xF79, "ླཱྀ"),
    (0x10C7, "ⴧ"),
    (0x10CD, "ⴭ"),
    (0x10FC, "ნ"),
    (0x1C80, "в д о с т т ъ ѣ ꙋ ᲊ"),
    (0x1CBD, "ჽ ჾ ჿ"),
    (0x1D2C, "a æ b"),
    (0x1D30, "d e ǝ"),
    (0x1D3C, "o ȣ p r t u w a ɐ ɑ ᴂ b d e ə ɛ ɜ g"),
    (0x1D4F, "k m ŋ o ɔ ᴖ ᴗ p t u ᴝ ɯ v ᴥ β γ δ φ χ i r u v β γ ρ φ χ"),
    (0x1D78, "н"),
    (0x1D9B, "ɒ c ɕ ð ɜ f ɟ ɡ ɥ ɨ ɩ ɪ ᵻ ʝ ɭ ᶅ ʟ ɱ ɰ"),
    (0x1DB2, "ɸ ʂ ʃ ƫ ʉ ʊ ᴜ ʋ ʌ z ʐ ʑ ʒ θ"),
    (0x1E9A, "aʾ"),
    (0x1E9E, "ß"),
    (0x1EFA, "ỻ"),
    (0x1EFC, "ỽ"),
    (0x1EFE, "ỿ"),
    (0x2011, "‐"),
    (0x2033, "′′ ′′′"),
    (0x2036, "‵‵ ‵‵‵"),
    (0x203C, "!!"),
    (0x2047, "?? ?! !?"),
    (0x2057, "′′′′"),
    (0x2070, "0 i"),
    (0x207A, "+ − = ( ) n"),
    (0x208A, "+ − = ( )"),
    (0x2090, "a e o x ə h"),
    (0x209A, "p s t"),
    (0x20A8, "rs"),
    (0x2100, "a/c a/s c °c"),
    (0x2105, "c/o c/u ɛ"),
    (0x2109, "°f g h h h h ħ i i l l"),
    (0x2115, "n no"),
    (0x2119, "p q r r r"),
    (0x2120, "sm tel tm"),
    (0x2124, "z"),
    (0x2128, "z"),
    (0x212C, "b c"),
    (0x212F, "e e f ⅎ m o"),
    (0x2139, "i"),
    (0x213B, "fax π γ γ π ∑"),
    (0x2145, "d d e i j"),
    (0x2150, "1⁄7 1⁄9 1⁄10 1⁄3 2⁄3 1⁄5 2⁄5 3⁄5 4⁄5 1⁄6 5⁄6 1⁄8 3⁄8 5⁄8 7⁄8 1⁄ i ii iii iv"),
    (0x2164, "v vi vii viii ix x xi xii l c d m i ii iii iv v vi vii viii ix x xi xii l c"),
    (0x217E, "d m"),
    (0x2183, "ↄ"),
    (0x2189, "0⁄3"),
    (0x222C, "∫∫ ∫∫∫"),
    (0x222F, "∮∮ ∮∮∮"),
    (0x2469, "10 11 12 13 14 15 16 17 18 19 20 (1) (2) (3) (4) (5) (6) (7) (8) (9) (10)"),
    (0x247E, "(11) (12) (13) (14) (15) (16) (17) (18) (19) (20)"),
    (0x249C, "(a) (b) (c) (d) (e) (f) (g) (h) (i) (j) (k) (l) (m) (n) (o) (p) (q) (r) (s)"),
    (0x24AF, "(t) (u) (v) (w) (x) (y) (z)"),
    (0x24EA, "0"),
    (0x2A0C, "∫∫∫∫"),
    (0x2A74, "::= == ==="),
    (0x2C60, "ⱡ"),
    (0x2C62, "ɫ ᵽ ɽ"),
    (0x2C67, "ⱨ"),
    (0x2C69, "ⱪ"),
    (0x2C6B, "ⱬ"),
    (0x2C6D, "ɑ ɱ ɐ ɒ"),
    (0x2C72, "ⱳ"),
    (0x2C75, "ⱶ"),
    (0x2C7C, "j v ȿ ɀ"),
    (0x2CEB, "ⳬ"),
    (0x2CED, "ⳮ"),
    (0x2CF2, "ⳳ"),
    (0x2D6F, "ⵡ"),
    (0x2E9F, "母"),
    (0x2EF3, "龟"),
    (0x2F00, "一 丨 丶 丿 乙 亅 二 亠 人 儿 入 八 冂 冖 冫 几 凵 刀 力 勹 匕 匚 匸 十 卜 卩"),
    (0x2F1A, "厂 厶 又 口 囗 土 士 夂 夊 夕 大 女 子 宀 寸 小 尢 尸 屮 山 巛 工 己 巾 干 幺"),
    (0x2F34, "广 廴 廾 弋 弓 彐 彡 彳 心 戈 戶 手 支 攴 文 斗 斤 方 无 日 曰 月 木 欠 止 歹"),
    (0x2F4E, "殳 毋 比 毛 氏 气 水 火 爪 父 爻 爿 片 牙 牛 犬 玄 玉 瓜 瓦 甘 生 用 田 疋 疒"),
    (0x2F68, "癶 白 皮 皿 目 矛 矢 石 示 禸 禾 穴 立 竹 米 糸 缶 网 羊 羽 老 而 耒 耳 聿 肉"),
    (0x2F82, "臣 自 至 臼 舌 舛 舟 艮 色 艸 虍 虫 血 行 衣 襾 見 角 言 谷 豆 豕 豸 貝 赤 走"),
    (0x2F9C, "足 身 車 辛 辰 辵 邑 酉 釆 里 金 長 門 阜 隶 隹 雨 靑 非 面 革 韋 韭 音 頁 風"),
    (0x2FB6, "飛 食 首 香 馬 骨 高 髟 鬥 鬯 鬲 鬼 魚 鳥 鹵 鹿 麥 麻 黃 黍 黑 黹 黽 鼎 鼓 鼠"),
    (0x2FD0, "鼻 齊 齒 龍 龜 龠"),
    (0x3002, "."),
    (0x3036, "〒"),
    (0x3038, "十 卄 卅"),
    (0x309F, "より"),
    (0x30FF, "コト"),
    (0x3131, "ᄀ ᄁ ᆪ ᄂ ᆬ ᆭ ᄃ ᄄ ᄅ"),
    (0x3140, "ᄚ ᄆ ᄇ ᄈ ᄡ"),
    (0x3165, "ᄔ ᄕ ᇇ ᇈ ᇌ ᇎ ᇓ ᇗ ᇙ ᄜ ᇝ ᇟ ᄝ ᄞ ᄠ ᄢ ᄣ ᄧ ᄩ"),
    (0x317D, "ᄲ ᄶ ᅀ ᅇ ᅌ ᇱ ᇲ ᅗ ᅘ ᅙ ᆄ ᆅ ᆈ ᆑ ᆒ ᆔ ᆞ ᆡ"),
    (0x3192, "一 二 三 四 上 中 下 甲 乙 丙 丁 天 地 人"),
    (0x3200, "(ᄀ) (ᄂ) (ᄃ) (ᄅ) (ᄆ) (ᄇ) (ᄉ) (ᄋ) (ᄌ) (ᄎ) (ᄏ) (ᄐ) (ᄑ) (ᄒ) (가)"),
    (0x320F, "(나) (다) (라) (마) (바) (사) (아) (자) (차) (카) (타) (파) (하) (주) (오전)"),
    (0x321E, "(오후)"),
    (0x3220, "(一) (二) (三) (四) (五) (六) (七) (八) (九) (十) (月) (火) (水) (木) (金)"),
    (0x322F, "(土) (日) (株) (有) (社) (名) (特) (財) (祝) (労) (代) (呼) (学) (監) (企)"),
    (0x323E, "(資) (協) (祭) (休) (自) (至) 問 幼 文 箏"),
    (0x3250, "pte 21 22 23 24 25 26 27 28 29 30 31 32 33 34 35 ᄀ ᄂ ᄃ ᄅ ᄆ ᄇ ᄉ ᄋ ᄌ"),
    (0x326E, "가 나 다 라 마 바 사 아 자 차 카 타 파 하 참고 주의 우"),
    (0x3280, "一 二 三 四 五 六 七 八 九 十 月 火 水 木 金 土 日 株 有 社 名 特 財 祝 労 秘"),
    (0x329A, "男 女 適 優 印 注 項 休 写 正 上 中 下 左 右 医 宗 学 監 企 資 協 夜 36 37"),
    (0x32B3, "38 39 40 41 42 43 44 45 46 47 48 49 50 1月 2月 3月 4月 5月 6月 7月 8月 9月"),
    (0x32C9, "10月 11月 12月 hg erg ev ltd ア イ ウ エ オ カ キ ク ケ コ サ シ ス セ ソ タ"),
    (0x32E0, "チ ツ テ ト"),
    (0x32EA, "ヒ フ ヘ ホ"),
    (0x32F3, "ヤ ユ"),
    (0x32FF, "令和 アパート アルファ アンペア アール イニング インチ ウォン エスクード"),
    (0x3308, "エーカー オンス オーム カイリ カラット カロリー ガロン ガンマ ギガ ギニー"),
    (0x3312, "キュリー ギルダー キロ キログラム キロメートル キロワット グラム グラムトン"),
    (0x331A, "クルゼイロ クローネ ケース コルナ コーポ サイクル サンチーム シリング センチ"),
    (0x3323, "セント ダース デシ ドル トン ナノ ノット ハイツ パーセント パーツ バーレル"),
    (0x332E, "ピアストル ピクル ピコ ビル ファラッド フィート ブッシェル フラン ヘクタール"),
    (0x3337, "ペソ ペニヒ ヘルツ ペンス ページ ベータ ポイント ボルト ホン ポンド ホール"),
    (0x3342, "ホーン マイクロ マイル マッハ マルク マンション ミクロン ミリ ミリバール メガ"),
    (0x334C, "メガトン メートル ヤード ヤール ユアン リットル リラ ルピー ルーブル レム"),
    (0x3356, "レントゲン ワット 0点 1点 2点 3点 4点 5点 6点 7点 8点 9点 10点 11点 12点 13点"),
    (0x3366, "14点 15点 16点 17点 18点 19点 20点 21点 22点 23点 24点 hpa da au bar ov pc"),
    (0x3377, "dm dm2 dm3 iu 平成 昭和 大正 明治 株式会社 pa na μa ma ka kb mb gb cal kcal"),
    (0x338A, "pf nf μf μg mg kg hz khz mhz ghz thz μl ml dl kl fm nm μm mm cm km mm2 cm2"),
    (0x33A1, "m2 km2 mm3 cm3 m3 km3 m∕s m∕s2 pa kpa mpa gpa rad rad∕s rad∕s2 ps ns μs ms"),
    (0x33B4, "pv nv μv mv kv mv pw nw μw mw kw mw kω mω"),
    (0x33C3, "bq cc cd c∕kg"),
    (0x33C8, "db gy ha hp in kk km kt lm ln log lx mb mil mol ph"),
    (0x33D9, "ppm pr sr sv wb v∕m a∕m 1日 2日 3日 4日 5日 6日 7日 8日 9日 10日 11日 12日"),
    (0x33EC, "13日 14日 15日 16日 17日 18日 19日 20日 21日 22日 23日 24日 25日 26日 27日"),
    (0x33FB, "28日 29日 30日 31日 gal"),
    (0xA69C, "ъ ь"),
    (0xA770, "ꝯ"),
    (0xA779, "ꝺ"),
    (0xA77B, "ꝼ"),
    (0xA77D, "ᵹ"),
    (0xA78B, "ꞌ"),
    (0xA78D, "ɥ"),
    (0xA790, "ꞑ"),
    (0xA792, "ꞓ"),
    (0xA7AA, "ɦ ɜ ɡ ɬ ɪ"),
    (0xA7B0, "ʞ ʇ ʝ ꭓ"),
    (0xA7C4, "ꞔ ʂ ᶎ ꟈ"),
    (0xA7C9, "ꟊ"),
    (0xA7CB, "ɤ"),
    (0xA7DC, "ƛ"),
    (0xA7F1, "s c f q ꟶ"),
    (0xA7F8, "ħ œ"),
    (0xAB5C, "ꜧ ꬷ ɫ ꭒ"),
    (0xAB69, "ʍ"),
    (0xFB00, "ff fi fl ffi ffl st st"),
    (0xFB13, "մն մե մի վն մխ"),
    (0xFB20, "ע א ד ה כ ל ם ר ת +"),
    (0xFB4F, "אל ٱ ٱ ٻ ٻ ٻ ٻ پ پ پ پ ڀ ڀ ڀ ڀ ٺ ٺ ٺ ٺ ٿ ٿ ٿ ٿ ٹ ٹ ٹ ٹ ڤ ڤ ڤ ڤ ڦ ڦ ڦ ڦ ڄ ڄ ڄ"),
    (0xFB75, "ڄ ڃ ڃ ڃ ڃ چ چ چ چ ڇ ڇ ڇ ڇ ڍ ڍ ڌ ڌ ڎ ڎ ڈ ڈ ژ ژ ڑ ڑ ک ک ک ک گ گ گ گ ڳ ڳ ڳ ڳ ڱ"),
    (0xFB9B, "ڱ ڱ ڱ ں ں ڻ ڻ ڻ ڻ ۀ ۀ ہ ہ ہ ہ ھ ھ ھ ھ ے ے ۓ ۓ"),
    (0xFBD3, "ڭ ڭ ڭ ڭ ۇ ۇ ۆ ۆ ۈ ۈ ۇٴ ۋ ۋ ۅ ۅ ۉ ۉ ې ې ې ې ى ى ئا ئا ئە ئە ئو ئو ئۇ ئۇ ئۆ ئۆ"),
    (0xFBF4, "ئۈ ئۈ ئې ئې ئې ئى ئى ئى ی ی ی ی ئج ئح ئم ئى ئي بج بح بخ بم بى بي تج تح تخ تم"),
    (0xFC0F, "تى تي ثج ثم ثى ثي جح جم حج حم خج خح خم سج سح سخ سم صح صم ضج ضح ضخ ضم طح طم"),
    (0xFC28, "ظم عج عم غج غم فج فح فخ فم فى في قح قم قى قي كا كج كح كخ كل كم كى كي لج لح"),
    (0xFC41, "لخ لم لى لي مج مح مخ مم مى مي نج نح نخ نم نى ني هج هم هى هي يج يح يخ يم يى"),
    (0xFC5A, "يي ذٰ رٰ ىٰ"),
    (0xFC64, "ئر ئز ئم ئن ئى ئي بر بز بم بن بى بي تر تز تم تن تى تي ثر ثز ثم ثن ثى ثي فى"),
    (0xFC7D, "في قى قي كا كل كم كى كي لم لى لي ما مم نر نز نم نن نى ني ىٰ ير يز يم ين يى"),
    (0xFC96, "يي ئج ئح ئخ ئم ئه بج بح بخ بم به تج تح تخ تم ته ثم جح جم حج حم خج خم سج سح"),
    (0xFCAF, "سخ سم صح صخ صم ضج ضح ضخ ضم طح ظم عج عم غج غم فج فح فخ فم قح قم كج كح كخ كل"),
    (0xFCC8, "كم لج لح لخ لم له مج مح مخ مم نج نح نخ نم نه هج هم هٰ يج يح يخ يم يه ئم ئه"),
    (0xFCE1, "بم به تم ته ثم ثه سم سه شم شه كل كم لم نم نه يم يه ـَّ ـُّ ـِّ طى طي عى عي"),
    (0xFCF9, "غى غي سى سي شى شي حى حي جى جي خى خي صى صي ضى ضي شج شح شخ شم شر سر صر ضر طى"),
    (0xFD12, "طي عى عي غى غي سى سي شى شي حى حي جى جي خى خي صى صي ضى ضي شج شح شخ شم شر سر"),
    (0xFD2B, "صر ضر شج شح شخ شم سه شه طم سج سح سخ شج شح شخ طم ظم اً اً"),
    (0xFD50, "تجم تحج تحج تحم تخم تمج تمح تمخ جمح جمح حمي حمى سحج سجح سجى سمح سمح سمج سمم"),
    (0xFD63, "سمم صحح صحح صمم شحم شحم شجي شمخ شمخ شمم شمم ضحى ضخم ضخم طمح طمح طمم طمي عجم"),
    (0xFD76, "عمم عمم عمى غمم غمي غمى فخم فخم قمح قمم لحم لحي لحى لجج لجج لخم لخم لمح لمح"),
    (0xFD89, "محج محم محي مجح مجم مخج مخم"),
    (0xFD92, "مجخ همج همم نحم نحى نجم نجم نجى نمي نمى يمم يمم بخي تجي تجى تخي تخى تمي تمى"),
    (0xFDA5, "جمي جحى جمى سخى صحي شحي ضحي لجي لمي يحي يجي يمي ممي قمي نحي قمح لحم عمي كمي"),
    (0xFDB8, "نجح مخي لجم كمم لجم نجح جحي حجي مجي فمي بحي كمم عجم صمم سخي نجي"),
    (0xFDF0, "صلے قلے الله اكبر محمد صلعم رسول عليه وسلم صلى"),
    (0xFDFC, "ریال"),
    (0xFE10, ", 、"),
    (0xFE13, ": ; ! ? 〖 〗"),
    (0xFE31, "— – _ _ ( ) \x7b \x7d 〔 〕 【 】 《 》 〈 〉"),
    (0xFE47, "[ ]"),
    (0xFE4D, "_ _ _ , 、"),
    (0xFE54, "; : ? ! — ( ) \x7b \x7d 〔 〕 # & * + - < > ="),
    (0xFE68, "\\ $ % @"),
    (0xFE71, "ـً"),
    (0xFE77, "ـَ"),
    (0xFE79, "ـُ"),
    (0xFE7B, "ـِ"),
    (0xFE7D, "ـّ"),
    (0xFE7F, "ـْ ء آ آ أ أ ؤ ؤ إ إ ئ ئ ئ ئ ا ا ب ب ب ب ة ة ت ت ت ت ث ث ث ث ج ج ج ج ح ح ح ح"),
    (0xFEA5, "خ خ خ خ د د ذ ذ ر ر ز ز س س س س ش ش ش ش ص ص ص ص ض ض ض ض ط ط ط ط ظ ظ ظ ظ ع ع"),
    (0xFECB, "ع ع غ غ غ غ ف ف ف ف ق ق ق ق ك ك ك ك ل ل ل ل م م م م ن ن ن ن ه ه ه ه و و ى ى"),
    (0xFEF1, "ي ي ي ي لآ لآ لأ لأ لإ لإ لا لا"),
    (0xFF5F, "⦅ ⦆ . 「 」 、 ・ ヲ ァ ィ ゥ ェ ォ ャ ュ ョ ッ ー ア イ ウ エ オ カ キ ク ケ"),
    (0xFF7A, "コ サ シ ス セ ソ タ チ ツ テ ト"),
    (0xFF8B, "ヒ フ ヘ ホ"),
    (0xFF94, "ヤ ユ"),
    (0xFF9C, "ワ ン ゙ ゚"),
    (0xFFA1, "ᄀ ᄁ ᆪ ᄂ ᆬ ᆭ ᄃ ᄄ ᄅ"),
    (0xFFB0, "ᄚ ᄆ ᄇ ᄈ ᄡ"),
    (0xFFDA, "ᅳ ᅴ ᅵ"),
    (0xFFE0, "¢ £ ¬"),
    (0xFFE4, "¦ ¥ ₩"),
    (0xFFE8, "│"),
    (0xFFED, "■ ○"),
    (0x1058D, "𐖴"),
    (0x1058F, "𐖶"),
    (0x10591, "𐖸"),
    (0x10595, "𐖼"),
    (0x10781, "ː ˑ æ ʙ ɓ"),
    (0x10787, "ʣ ꭦ ʥ ʤ ɖ ɗ ᶑ ɘ ɞ ʩ ɤ ɢ ɠ ʛ ħ ʜ ɧ ʄ ʪ ʫ ɬ 𝼄 ꞎ ɮ 𝼅 ʎ 𝼆 ø ɶ ɷ q ɺ 𝼈 ɽ ɾ ʀ ʨ ʦ"),
    (0x107AD, "ꭧ ʧ ʈ ⱱ"),
    (0x107B2, "ʏ ʡ ʢ ʘ ǀ ǁ ǂ 𝼊 𝼞"),
    (0x1D49C, "a"),
    (0x1D49E, "c d"),
    (0x1D4A2, "g"),
    (0x1D4A5, "j k"),
    (0x1D4B6, "a"),
    (0x1D4B8, "c"),
    (0x1D4BE, "i"),
    (0x1D4C0, "k"),
    (0x1D4C2, "m"),
    (0x1D504, "a b"),
    (0x1D538, "a b"),
    (0x1D53B, "d"),
    (0x1D53D, "f"),
    (0x1D541, "j"),
    (0x1D543, "l"),
    (0x1D6A4, "ı ȷ"),
    (0x1D6B9, "θ"),
    (0x1D6C1, "∇"),
    (0x1D6D3, "σ"),
    (0x1D6DB, "∂ ε θ κ φ ρ π"),
    (0x1D6F3, "θ"),
    (0x1D6FB, "∇"),
    (0x1D70D, "σ"),
    (0x1D715, "∂ ε θ κ φ ρ π"),
    (0x1D72D, "θ"),
    (0x1D735, "∇"),
    (0x1D747, "σ"),
    (0x1D74F, "∂ ε θ κ φ ρ π"),
    (0x1D767, "θ"),
    (0x1D76F, "∇"),
    (0x1D781, "σ"),
    (0x1D789, "∂ ε θ κ φ ρ π"),
    (0x1D7A1, "θ"),
    (0x1D7A9, "∇"),
    (0x1D7BB, "σ"),
    (0x1D7C3, "∂ ε θ κ φ ρ π ϝ ϝ"),
    (0x1E039, "к л м"),
    (0x1E047, "ы э ю ꚉ ә і ј ө ү ӏ"),
    (0x1E05A, "к л о п с"),
    (0x1E065, "ъ ы ґ і ѕ џ ҫ ꙑ ұ"),
    (0x1EE00, "ا ب ج د"),
    (0x1EE05, "و ز ح ط ي"),
    (0x1EE0E, "س ع ف ص ق ر ش ت ث خ ذ ض ظ غ ٮ ں ڡ ٯ"),
    (0x1EE21, "ب ج"),
    (0x1EE24, "ه"),
    (0x1EE27, "ح"),
    (0x1EE29, "ي"),
    (0x1EE2E, "س ع ف ص ق"),
    (0x1EE34, "ش ت ث خ"),
    (0x1EE39, "ض"),
    (0x1EE3B, "غ"),
    (0x1EE42, "ج"),
    (0x1EE47, "ح"),
    (0x1EE49, "ي"),
    (0x1EE4B, "ل"),
    (0x1EE4D, "ن س ع"),
    (0x1EE51, "ص ق"),
    (0x1EE54, "ش"),
    (0x1EE57, "خ"),
    (0x1EE59, "ض"),
    (0x1EE5B, "غ"),
    (0x1EE5D, "ں"),
    (0x1EE5F, "ٯ"),
    (0x1EE61, "ب ج"),
    (0x1EE64, "ه"),
    (0x1EE67, "ح ط ي ك"),
    (0x1EE6C, "م ن س ع ف ص ق"),
    (0x1EE74, "ش ت ث خ"),
    (0x1EE79, "ض ظ غ ٮ"),
    (0x1EE7E, "ڡ"),
    (0x1EE80, "ا ب ج د ه و ز ح ط ي"),
    (0x1EE8B, "ل م ن س ع ف ص ق ر ش ت ث خ ذ ض ظ غ"),
    (0x1EEA1, "ب ج د"),
    (0x1EEA5, "و ز ح ط ي"),
    (0x1EEAB, "ل م ن س ع ف ص ق ر ش ت ث خ ذ ض ظ غ"),
    (0x1F101, "0, 1, 2, 3, 4, 5, 6, 7, 8, 9,"),
    (0x1F110, "(a) (b) (c) (d) (e) (f) (g) (h) (i) (j) (k) (l) (m) (n) (o) (p) (q) (r) (s)"),
    (0x1F123, "(t) (u) (v) (w) (x) (y) (z) 〔s〕 c r cd wz"),
    (0x1F14A, "hv mv sd ss ppv wc"),
    (0x1F16A, "mc md mr"),
    (0x1F190, "dj"),
    (0x1F200, "ほか ココ サ"),
    (0x1F210, "手 字 双 デ 二 多 解 天 交 映 無 料 前 後 再 新 初 終 生 販 声 吹 演 投 捕 一"),
    (0x1F22A, "三 遊 左 中 右 指 走 打 禁 空 合 満 有 月 申 割 営 配"),
    (0x1F240, "〔本〕 〔三〕 〔二〕 〔安〕 〔点〕 〔打〕 〔盗〕 〔勝〕 〔敗〕"),
    (0x1F250, "得 可")]

def ignoredRanges : List (Nat × Nat) :=
  [(0xAD, 0xAD), (0x34F, 0x34F), (0x115F, 0x1160), (0x17B4, 0x17B5), (0x180B, 0x180F),
    (0x200B, 0x200B), (0x2060, 0x2064), (0x206A, 0x206F), (0x3164, 0x3164), (0xFE00, 0xFE0F),
    (0xFEFF, 0xFEFF), (0xFFA0, 0xFFA0), (0x1BCA0, 0x1BCA3), (0x1D173, 0x1D17A), (0xE0100, 0xE01EF)]

/-- Characters that no host name may hold: controls and format characters, private code points, and
those whose plain form would hold a blank, or a full stop that is none. -/
def barredRanges : List (Nat × Nat) :=
  [(0x80, 0xA0), (0xA8, 0xA8), (0xAF, 0xAF), (0xB4, 0xB4), (0xB8, 0xB8), (0x2D8, 0x2DD),
    (0x37A, 0x37A), (0x384, 0x384), (0x600, 0x605), (0x61C, 0x61C), (0x6DD, 0x6DD), (0x70F, 0x70F),
    (0x890, 0x891), (0x8E2, 0x8E2), (0x1680, 0x1680), (0x1FBD, 0x1FBD), (0x1FBF, 0x1FC0),
    (0x1FFE, 0x1FFE), (0x2002, 0x200A), (0x200E, 0x200F), (0x2017, 0x2017), (0x2024, 0x2026),
    (0x2028, 0x202F), (0x203E, 0x203E), (0x205F, 0x205F), (0x2066, 0x2069), (0x2488, 0x249B),
    (0x2FF0, 0x3000), (0x309B, 0x309C), (0x31EF, 0x31EF), (0x33C2, 0x33C2), (0x33C7, 0x33C7),
    (0x33D8, 0x33D8), (0xE000, 0xF8FF), (0xFC5E, 0xFC63), (0xFDD0, 0xFDEF), (0xFDFA, 0xFDFB),
    (0xFE12, 0xFE12), (0xFE19, 0xFE19), (0xFE30, 0xFE30), (0xFE49, 0xFE4C), (0xFE52, 0xFE52),
    (0xFE70, 0xFE70), (0xFE72, 0xFE72), (0xFE74, 0xFE74), (0xFE76, 0xFE76), (0xFE78, 0xFE78),
    (0xFE7A, 0xFE7A), (0xFE7C, 0xFE7C), (0xFE7E, 0xFE7E), (0xFFE3, 0xFFE3), (0xFFF9, 0xFFFF),
    (0x110BD, 0x110BD), (0x110CD, 0x110CD), (0x13430, 0x1343F), (0x1F100, 0x1F100),
    (0x1FFFE, 0x1FFFF), (0x2FFFE, 0x2FFFF), (0x3FFFE, 0x3FFFF), (0x4FFFE, 0x4FFFF),
    (0x5FFFE, 0x5FFFF), (0x6FFFE, 0x6FFFF), (0x7FFFE, 0x7FFFF), (0x8FFFE, 0x8FFFF),
    (0x9FFFE, 0x9FFFF), (0xAFFFE, 0xAFFFF), (0xBFFFE, 0xBFFFF), (0xCFFFE, 0xCFFFF),
    (0xDFFFE, 0xDFFFF), (0xE0001, 0xE0001), (0xE0020, 0xE007F), (0xEFFFE, 0x10FFFF)]

def foldForms : List (Nat × List (List Char)) :=
  foldRows.map fun (first, row) => (first, row.toList.splitOn ' ')

def regularFold? (c : Char) : Option Char :=
  (foldRuns.find? fun (first, count, step, _) =>
    first ≤ c.toNat && (c.toNat - first) % step == 0 && (c.toNat - first) / step < count).map
      fun (_, _, _, distance) => Char.ofNat ((c.toNat : Int) + distance).toNat

def listedFold? (c : Char) : Option (List Char) :=
  foldForms.findSome? fun (first, forms) =>
    if first ≤ c.toNat then forms[c.toNat - first]? else none

def foldChar? (c : Char) : Option (List Char) :=
  if c.toNat < 128 then some [c.toLower]
  else if Text.inRanges barredRanges c then none
  else if Text.inRanges ignoredRanges c then some []
  else
    match regularFold? c, listedFold? c with
    | some folded, _ => some [folded]
    | none, some form => some form
    | none, none => some [c]

def foldName? (cs : List Char) : Option (List Char) := do
  let forms ← (cs.flatMap Text.Composition.decompose).mapM foldChar?
  some (Text.Composition.normalize forms.flatten)

end LoginGateway.Url
