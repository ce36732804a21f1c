/-!
# Names from Glagolitic letters to full-width forms

Blocks of names of Unicode 14 in the order of their code points; the module on lookup says how a
block is written.
-/

namespace NextWord.Text.CharName

def glagoliticToForms : List String :=
  ["2c00 GLAGOLITIC CAPITAL LETTER |AZU|BUKY|VEDE|GLAGOLI|DOBRO|YESTU|ZHIVETE|DZELO|ZEMLJA|IZHE",
   "2c0a GLAGOLITIC CAPITAL LETTER |INITIAL IZHE|I|DJERVI|KAKO|LJUDIJE|MYSLITE|NASHI|ONU|POKOJI",
   "2c13 GLAGOLITIC CAPITAL LETTER |RITSI|SLOVO|TVRIDO|UKU|FRITU|HERU|OTU|PE|SHTA|TSI|CHRIVI",
   "2c1e GLAGOLITIC CAPITAL LETTER |SHA|YERU|YERI|YATI|SPIDERY HA|YU|SMALL YUS|SMALL YUS WITH TAIL",
   "2c26 GLAGOLITIC CAPITAL LETTER |YO|IOTATED SMALL YUS|BIG YUS|IOTATED BIG YUS|FITA|IZHITSA",
   "2c2c GLAGOLITIC CAPITAL LETTER |SHTAPIC|TROKUTASTI A|LATINATE MYSLITE|CAUDATE CHRIVI",
   "2c30 GLAGOLITIC SMALL LETTER |AZU|BUKY|VEDE|GLAGOLI|DOBRO|YESTU|ZHIVETE|DZELO|ZEMLJA",
   "2c39 GLAGOLITIC SMALL LETTER |IZHE|INITIAL IZHE|I|DJERVI|KAKO|LJUDIJE|MYSLITE|NASHI|ONU|POKOJI",
   "2c43 GLAGOLITIC SMALL LETTER |RITSI|SLOVO|TVRIDO|UKU|FRITU|HERU|OTU|PE|SHTA|TSI|CHRIVI|SHA",
   "2c4f GLAGOLITIC SMALL LETTER |YERU|YERI|YATI|SPIDERY HA|YU|SMALL YUS|SMALL YUS WITH TAIL",
   "2c56 GLAGOLITIC SMALL LETTER |YO|IOTATED SMALL YUS|BIG YUS|IOTATED BIG YUS|FITA",
   "2c5b GLAGOLITIC SMALL LETTER |IZHITSA|SHTAPIC|TROKUTASTI A|LATINATE MYSLITE|CAUDATE CHRIVI",
   "2c60 LATIN |CAPITAL LETTER L WITH DOUBLE BAR|SMALL LETTER L WITH DOUBLE BAR",
   "2c62 LATIN CAPITAL LETTER |L WITH MIDDLE TILDE|P WITH STROKE|R WITH TAIL",
   "2c65 LATIN SMALL LETTER |A WITH STROKE|T WITH DIAGONAL STROKE",
   "2c67 LATIN |CAPITAL LETTER H WITH DESCENDER|SMALL LETTER H WITH DESCENDER",
   "2c69 LATIN |CAPITAL LETTER K WITH DESCENDER|SMALL LETTER K WITH DESCENDER",
   "2c6b LATIN |CAPITAL LETTER Z WITH DESCENDER|SMALL LETTER Z WITH DESCENDER",
   "2c6d LATIN CAPITAL LETTER |ALPHA|M WITH HOOK|TURNED A|TURNED ALPHA",
   "2c71 LATIN |SMALL LETTER V WITH RIGHT HOOK|CAPITAL LETTER W WITH HOOK|SMALL LETTER W WITH HOOK",
   "2c74 LATIN |SMALL LETTER V WITH CURL|CAPITAL LETTER HALF H|SMALL LETTER HALF H",
   "2c77 LATIN SMALL LETTER |TAILLESS PHI|E WITH NOTCH|TURNED R WITH TAIL|O WITH LOW RING INSIDE",
   "2c7b LATIN |LETTER SMALL CAPITAL TURNED E|SUBSCRIPT SMALL LETTER J",
   "2c7d |MODIFIER LETTER CAPITAL V",
   "2c7e LATIN CAPITAL LETTER |S WITH SWASH TAIL|Z WITH SWASH TAIL",
   "2c80 COPTIC |CAPITAL LETTER ALFA|SMALL LETTER ALFA|CAPITAL LETTER VIDA|SMALL LETTER VIDA",
   "2c84 COPTIC |CAPITAL LETTER GAMMA|SMALL LETTER GAMMA|CAPITAL LETTER DALDA|SMALL LETTER DALDA",
   "2c88 COPTIC |CAPITAL LETTER EIE|SMALL LETTER EIE|CAPITAL LETTER SOU|SMALL LETTER SOU",
   "2c8c COPTIC |CAPITAL LETTER ZATA|SMALL LETTER ZATA|CAPITAL LETTER HATE|SMALL LETTER HATE",
   "2c90 COPTIC |CAPITAL LETTER THETHE|SMALL LETTER THETHE|CAPITAL LETTER IAUDA|SMALL LETTER IAUDA",
   "2c94 COPTIC |CAPITAL LETTER KAPA|SMALL LETTER KAPA|CAPITAL LETTER LAULA|SMALL LETTER LAULA",
   "2c98 COPTIC |CAPITAL LETTER MI|SMALL LETTER MI|CAPITAL LETTER NI|SMALL LETTER NI",
   "2c9c COPTIC |CAPITAL LETTER KSI|SMALL LETTER KSI|CAPITAL LETTER O|SMALL LETTER O",
   "2ca0 COPTIC |CAPITAL LETTER PI|SMALL LETTER PI|CAPITAL LETTER RO|SMALL LETTER RO",
   "2ca4 COPTIC |CAPITAL LETTER SIMA|SMALL LETTER SIMA|CAPITAL LETTER TAU|SMALL LETTER TAU",
   "2ca8 COPTIC |CAPITAL LETTER UA|SMALL LETTER UA|CAPITAL LETTER FI|SMALL LETTER FI",
   "2cac COPTIC |CAPITAL LETTER KHI|SMALL LETTER KHI|CAPITAL LETTER PSI|SMALL LETTER PSI",
   "2cb0 COPTIC |CAPITAL LETTER OOU|SMALL LETTER OOU|CAPITAL LETTER DIALECT-P ALEF",
   "2cb3 COPTIC |SMALL LETTER DIALECT-P ALEF|CAPITAL LETTER OLD COPTIC AIN",
   "2cb5 COPTIC |SMALL LETTER OLD COPTIC AIN|CAPITAL LETTER CRYPTOGRAMMIC EIE",
   "2cb7 COPTIC |SMALL LETTER CRYPTOGRAMMIC EIE|CAPITAL LETTER DIALECT-P KAPA",
   "2cb9 COPTIC |SMALL LETTER DIALECT-P KAPA|CAPITAL LETTER DIALECT-P NI|SMALL LETTER DIALECT-P NI",
   "2cbc COPTIC |CAPITAL LETTER CRYPTOGRAMMIC NI|SMALL LETTER CRYPTOGRAMMIC NI",
   "2cbe COPTIC |CAPITAL LETTER OLD COPTIC OOU|SMALL LETTER OLD COPTIC OOU|CAPITAL LETTER SAMPI",
   "2cc1 COPTIC |SMALL LETTER SAMPI|CAPITAL LETTER CROSSED SHEI|SMALL LETTER CROSSED SHEI",
   "2cc4 COPTIC |CAPITAL LETTER OLD COPTIC SHEI|SMALL LETTER OLD COPTIC SHEI",
   "2cc6 COPTIC |CAPITAL LETTER OLD COPTIC ESH|SMALL LETTER OLD COPTIC ESH",
   "2cc8 COPTIC |CAPITAL LETTER AKHMIMIC KHEI|SMALL LETTER AKHMIMIC KHEI",
   "2cca COPTIC |CAPITAL LETTER DIALECT-P HORI|SMALL LETTER DIALECT-P HORI",
   "2ccc COPTIC |CAPITAL LETTER OLD COPTIC HORI|SMALL LETTER OLD COPTIC HORI",
   "2cce COPTIC |CAPITAL LETTER OLD COPTIC HA|SMALL LETTER OLD COPTIC HA",
   "2cd0 COPTIC |CAPITAL LETTER L-SHAPED HA|SMALL LETTER L-SHAPED HA|CAPITAL LETTER OLD COPTIC HEI",
   "2cd3 COPTIC |SMALL LETTER OLD COPTIC HEI|CAPITAL LETTER OLD COPTIC HAT",
   "2cd5 COPTIC |SMALL LETTER OLD COPTIC HAT|CAPITAL LETTER OLD COPTIC GANGIA",
   "2cd7 COPTIC |SMALL LETTER OLD COPTIC GANGIA|CAPITAL LETTER OLD COPTIC DJA",
   "2cd9 COPTIC |SMALL LETTER OLD COPTIC DJA|CAPITAL LETTER OLD COPTIC SHIMA",
   "2cdb COPTIC |SMALL LETTER OLD COPTIC SHIMA|CAPITAL LETTER OLD NUBIAN SHIMA",
   "2cdd COPTIC |SMALL LETTER OLD NUBIAN SHIMA|CAPITAL LETTER OLD NUBIAN NGI",
   "2cdf COPTIC |SMALL LETTER OLD NUBIAN NGI|CAPITAL LETTER OLD NUBIAN NYI",
   "2ce1 COPTIC |SMALL LETTER OLD NUBIAN NYI|CAPITAL LETTER OLD NUBIAN WAU",
   "2ce3 COPTIC |SMALL LETTER OLD NUBIAN WAU|SYMBOL KAI|SYMBOL MI RO|SYMBOL PI RO|SYMBOL STAUROS",
   "2ce8 COPTIC |SYMBOL TAU RO|SYMBOL KHI RO|SYMBOL SHIMA SIMA|CAPITAL LETTER CRYPTOGRAMMIC SHEI",
   "2cec COPTIC |SMALL LETTER CRYPTOGRAMMIC SHEI|CAPITAL LETTER CRYPTOGRAMMIC GANGIA",
   "2cee COPTIC |SMALL LETTER CRYPTOGRAMMIC GANGIA|COMBINING NI ABOVE|COMBINING SPIRITUS ASPER",
   "2cf1 COPTIC |COMBINING SPIRITUS LENIS|CAPITAL LETTER BOHAIRIC KHEI|SMALL LETTER BOHAIRIC KHEI",
   "2cf9 COPTIC OLD NUBIAN |FULL STOP|DIRECT QUESTION MARK|INDIRECT QUESTION MARK|VERSE DIVIDER",
   "2cfd COPTIC |FRACTION ONE HALF|FULL STOP|MORPHOLOGICAL DIVIDER",
   "2d00 GEORGIAN SMALL LETTER |AN|BAN|GAN|DON|EN|VIN|ZEN|TAN|IN|KAN|LAS|MAN|NAR|ON|PAR",
   "2d0f GEORGIAN SMALL LETTER |ZHAR|RAE|SAN|TAR|UN|PHAR|KHAR",
   "2d16 GEORGIAN SMALL LETTER |GHAN|QAR|SHIN|CHIN|CAN|JIL|CIL|CHAR|XAN|JHAN|HAE|HE|HIE|WE|HAR|HOE",
   "2d27 |GEORGIAN SMALL LETTER YN",
   "2d2d |GEORGIAN SMALL LETTER AEN",
   "2d30 TIFINAGH LETTER |YA|YAB|YABH|YAG|YAGHH|BERBER ACADEMY YAJ|YAJ|YAD|YADH|YADD|YADDH|YEY",
   "2d3c TIFINAGH LETTER |YAF|YAK|TUAREG YAK|YAKHH|YAH|BERBER ACADEMY YAH|TUAREG YAH|YAHH|YAA|YAKH",
   "2d46 TIFINAGH LETTER |TUAREG YAKH|YAQ|TUAREG YAQ|YI|YAZH|AHAGGAR YAZH|TUAREG YAZH|YAL|YAM|YAN",
   "2d50 TIFINAGH LETTER |TUAREG YAGN|TUAREG YANG|YAP|YU|YAR|YARR|YAGH|TUAREG YAGH|AYER YAGH|YAS",
   "2d5a TIFINAGH LETTER |YASS|YASH|YAT|YATH|YACH|YATT|YAV|YAW|YAY|YAZ|TAWELLEMET YAZ|YAZZ|YE|YO",
   "2d6f TIFINAGH |MODIFIER LETTER LABIALIZATION MARK|SEPARATOR MARK",
   "2d7f |TIFINAGH CONSONANT JOINER",
   "2d80 ETHIOPIC SYLLABLE |LOA|MOA|ROA|SOA|SHOA|BOA|TOA|COA|NOA|NYOA|GLOTTAL OA|ZOA|DOA|DDOA|JOA",
   "2d8f ETHIOPIC SYLLABLE |THOA|CHOA|PHOA|POA|GGWA|GGWI|GGWEE|GGWE",
   "2da0 ETHIOPIC SYLLABLE |SSA|SSU|SSI|SSAA|SSEE|SSE|SSO",
   "2da8 ETHIOPIC SYLLABLE |CCA|CCU|CCI|CCAA|CCEE|CCE|CCO",
   "2db0 ETHIOPIC SYLLABLE |ZZA|ZZU|ZZI|ZZAA|ZZEE|ZZE|ZZO",
   "2db8 ETHIOPIC SYLLABLE |CCHA|CCHU|CCHI|CCHAA|CCHEE|CCHE|CCHO",
   "2dc0 ETHIOPIC SYLLABLE |QYA|QYU|QYI|QYAA|QYEE|QYE|QYO",
   "2dc8 ETHIOPIC SYLLABLE |KYA|KYU|KYI|KYAA|KYEE|KYE|KYO",
   "2dd0 ETHIOPIC SYLLABLE |XYA|XYU|XYI|XYAA|XYEE|XYE|XYO",
   "2dd8 ETHIOPIC SYLLABLE |GYA|GYU|GYI|GYAA|GYEE|GYE|GYO",
   "2de0 COMBINING CYRILLIC LETTER |BE|VE|GHE|DE|ZHE|ZE|KA|EL|EM|EN|O|PE|ER",
   "2ded COMBINING CYRILLIC LETTER |ES|TE|HA|TSE|CHE|SHA|SHCHA|FITA|ES-TE|A|IE|DJERV|MONOGRAPH UK",
   "2dfa COMBINING CYRILLIC LETTER |YAT|YU|IOTIFIED A|LITTLE YUS|BIG YUS|IOTIFIED BIG YUS",
   "2e00 RIGHT ANGLE |SUBSTITUTION MARKER|DOTTED SUBSTITUTION MARKER",
   "2e02 |LEFT SUBSTITUTION BRACKET|RIGHT SUBSTITUTION BRACKET|LEFT DOTTED SUBSTITUTION BRACKET",
   "2e05 |RIGHT DOTTED SUBSTITUTION BRACKET|RAISED INTERPOLATION MARKER",
   "2e07 |RAISED DOTTED INTERPOLATION MARKER|DOTTED TRANSPOSITION MARKER",
   "2e09 |LEFT TRANSPOSITION BRACKET|RIGHT TRANSPOSITION BRACKET|RAISED SQUARE",
   "2e0c |LEFT RAISED OMISSION BRACKET|RIGHT RAISED OMISSION BRACKET|EDITORIAL CORONIS",
   "2e0f |PARAGRAPHOS|FORKED PARAGRAPHOS|REVERSED FORKED PARAGRAPHOS|HYPODIASTOLE|DOTTED OBELOS",
   "2e14 |DOWNWARDS ANCORA|UPWARDS ANCORA|DOTTED RIGHT-POINTING ANGLE|DOUBLE OBLIQUE HYPHEN",
   "2e18 |INVERTED INTERROBANG|PALM BRANCH|HYPHEN WITH DIAERESIS|TILDE WITH RING ABOVE",
   "2e1c |LEFT LOW PARAPHRASE BRACKET|RIGHT LOW PARAPHRASE BRACKET|TILDE WITH DOT ABOVE",
   "2e1f |TILDE WITH DOT BELOW|LEFT VERTICAL BAR WITH QUILL|RIGHT VERTICAL BAR WITH QUILL",
   "2e22 |TOP LEFT HALF BRACKET|TOP RIGHT HALF BRACKET|BOTTOM LEFT HALF BRACKET",
   "2e25 |BOTTOM RIGHT HALF BRACKET|LEFT SIDEWAYS U BRACKET|RIGHT SIDEWAYS U BRACKET",
   "2e28 |LEFT DOUBLE PARENTHESIS|RIGHT DOUBLE PARENTHESIS|TWO DOTS OVER ONE DOT PUNCTUATION",
   "2e2b |ONE DOT OVER TWO DOTS PUNCTUATION|SQUARED FOUR DOT PUNCTUATION|FIVE DOT MARK",
   "2e2e |REVERSED QUESTION MARK|VERTICAL TILDE|RING POINT|WORD SEPARATOR MIDDLE DOT|TURNED COMMA",
   "2e33 |RAISED DOT|RAISED COMMA|TURNED SEMICOLON|DAGGER WITH LEFT GUARD|DAGGER WITH RIGHT GUARD",
   "2e38 |TURNED DAGGER|TOP HALF SECTION SIGN|TWO-EM DASH|THREE-EM DASH|STENOGRAPHIC FULL STOP",
   "2e3d |VERTICAL SIX DOTS|WIGGLY VERTICAL LINE|CAPITULUM|DOUBLE HYPHEN|REVERSED COMMA",
   "2e42 |DOUBLE LOW-REVERSED-9 QUOTATION MARK|DASH WITH LEFT UPTURN|DOUBLE SUSPENSION MARK",
   "2e45 |INVERTED LOW KAVYKA|INVERTED LOW KAVYKA WITH KAVYKA ABOVE|LOW KAVYKA|LOW KAVYKA WITH DOT",
   "2e49 |DOUBLE STACKED COMMA|DOTTED SOLIDUS|TRIPLE DAGGER|MEDIEVAL COMMA|PARAGRAPHUS MARK",
   "2e4e |PUNCTUS ELEVATUS MARK|CORNISH VERSE DIVIDER|CROSS PATTY WITH RIGHT CROSSBAR",
   "2e51 |CROSS PATTY WITH LEFT CROSSBAR|TIRONIAN SIGN CAPITAL ET|MEDIEVAL EXCLAMATION MARK",
   "2e54 |MEDIEVAL QUESTION MARK|LEFT SQUARE BRACKET WITH STROKE|RIGHT SQUARE BRACKET WITH STROKE",
   "2e57 |LEFT SQUARE BRACKET WITH DOUBLE STROKE|RIGHT SQUARE BRACKET WITH DOUBLE STROKE",
   "2e59 TOP HALF |LEFT PARENTHESIS|RIGHT PARENTHESIS",
   "2e5b |BOTTOM HALF LEFT PARENTHESIS|BOTTOM HALF RIGHT PARENTHESIS|OBLIQUE HYPHEN",
   "2e80 CJK RADICAL |REPEAT|CLIFF|SECOND ONE|SECOND TWO|SECOND THREE|PERSON|BOX|TABLE|KNIFE ONE",
   "2e89 CJK RADICAL |KNIFE TWO|DIVINATION|SEAL|SMALL ONE|SMALL TWO|LAME ONE|LAME TWO|LAME THREE",
   "2e91 CJK RADICAL |LAME FOUR|SNAKE|THREAD|SNOUT ONE|SNOUT TWO|HEART ONE|HEART TWO|HAND|RAP",
   "2e9b CJK RADICAL |CHOKE|SUN|MOON|DEATH|MOTHER|CIVILIAN|WATER ONE|WATER TWO|FIRE|PAW ONE",
   "2ea5 CJK RADICAL |PAW TWO|SIMPLIFIED HALF TREE TRUNK|COW|DOG|JADE|BOLT OF CLOTH|EYE|SPIRIT ONE",
   "2ead CJK RADICAL |SPIRIT TWO|BAMBOO|SILK|C-SIMPLIFIED SILK|NET ONE|NET TWO|NET THREE|NET FOUR",
   "2eb5 CJK RADICAL |MESH|SHEEP|RAM|EWE|OLD|BRUSH ONE|BRUSH TWO|MEAT|MORTAR|GRASS ONE|GRASS TWO",
   "2ec0 CJK RADICAL |GRASS THREE|TIGER|CLOTHES|WEST ONE|WEST TWO|C-SIMPLIFIED SEE|SIMPLIFIED HORN",
   "2ec7 CJK RADICAL |HORN|C-SIMPLIFIED SPEECH|C-SIMPLIFIED SHELL|FOOT|C-SIMPLIFIED CART",
   "2ecc CJK RADICAL |SIMPLIFIED WALK|WALK ONE|WALK TWO|CITY|C-SIMPLIFIED GOLD|LONG ONE",
   "2ed2 CJK RADICAL |LONG TWO|C-SIMPLIFIED LONG|C-SIMPLIFIED GATE|MOUND ONE|MOUND TWO|RAIN|BLUE",
   "2ed9 CJK RADICAL C-SIMPLIFIED |TANNED LEATHER|LEAF|WIND|FLY",
   "2edd CJK RADICAL |EAT ONE|EAT TWO|EAT THREE|C-SIMPLIFIED EAT|HEAD|C-SIMPLIFIED HORSE",
   "2ee3 CJK RADICAL |BONE|GHOST|C-SIMPLIFIED FISH|C-SIMPLIFIED BIRD|C-SIMPLIFIED SALT",
   "2ee8 CJK RADICAL |SIMPLIFIED WHEAT|SIMPLIFIED YELLOW|C-SIMPLIFIED FROG|J-SIMPLIFIED EVEN",
   "2eec CJK RADICAL |C-SIMPLIFIED EVEN|J-SIMPLIFIED TOOTH|C-SIMPLIFIED TOOTH|J-SIMPLIFIED DRAGON",
   "2ef0 CJK RADICAL |C-SIMPLIFIED DRAGON|TURTLE|J-SIMPLIFIED TURTLE|C-SIMPLIFIED TURTLE",
   "2f00 KANGXI RADICAL |ONE|LINE|DOT|SLASH|SECOND|HOOK|TWO|LID|MAN|LEGS|ENTER|EIGHT|DOWN BOX",
   "2f0d KANGXI RADICAL |COVER|ICE|TABLE|OPEN BOX|KNIFE|POWER|WRAP|SPOON|RIGHT OPEN BOX",
   "2f16 KANGXI RADICAL |HIDING ENCLOSURE|TEN|DIVINATION|SEAL|CLIFF|PRIVATE|AGAIN|MOUTH|ENCLOSURE",
   "2f1f KANGXI RADICAL |EARTH|SCHOLAR|GO|GO SLOWLY|EVENING|BIG|WOMAN|CHILD|ROOF|INCH|SMALL",
   "2f2a KANGXI RADICAL |LAME|CORPSE|SPROUT|MOUNTAIN|RIVER|WORK|ONESELF|TURBAN|DRY|SHORT THREAD",
   "2f34 KANGXI RADICAL |DOTTED CLIFF|LONG STRIDE|TWO HANDS|SHOOT|BOW|SNOUT|BRISTLE|STEP",
   "2f3c KANGXI RADICAL |HEART|HALBERD|DOOR|HAND|BRANCH|RAP|SCRIPT|DIPPER|AXE|SQUARE|NOT|SUN|SAY",
   "2f49 KANGXI RADICAL |MOON|TREE|LACK|STOP|DEATH|WEAPON|DO NOT|COMPARE|FUR|CLAN|STEAM|WATER|FIRE",
   "2f56 KANGXI RADICAL |CLAW|FATHER|DOUBLE X|HALF TREE TRUNK|SLICE|FANG|COW|DOG|PROFOUND|JADE",
   "2f60 KANGXI RADICAL |MELON|TILE|SWEET|LIFE|USE|FIELD|BOLT OF CLOTH|SICKNESS|DOTTED TENT|WHITE",
   "2f6a KANGXI RADICAL |SKIN|DISH|EYE|SPEAR|ARROW|STONE|SPIRIT|TRACK|GRAIN|CAVE|STAND|BAMBOO",
   "2f76 KANGXI RADICAL |RICE|SILK|JAR|NET|SHEEP|FEATHER|OLD|AND|PLOW|EAR|BRUSH|MEAT|MINISTER|SELF",
   "2f84 KANGXI RADICAL |ARRIVE|MORTAR|TONGUE|OPPOSE|BOAT|STOPPING|COLOR|GRASS|TIGER|INSECT|BLOOD",
   "2f8f KANGXI RADICAL |WALK ENCLOSURE|CLOTHES|WEST|SEE|HORN|SPEECH|VALLEY|BEAN|PIG|BADGER|SHELL",
   "2f9a KANGXI RADICAL |RED|RUN|FOOT|BODY|CART|BITTER|MORNING|WALK|CITY|WINE|DISTINGUISH|VILLAGE",
   "2fa6 KANGXI RADICAL |GOLD|LONG|GATE|MOUND|SLAVE|SHORT TAILED BIRD|RAIN|BLUE|WRONG|FACE",
   "2fb0 KANGXI RADICAL |LEATHER|TANNED LEATHER|LEEK|SOUND|LEAF|WIND|FLY|EAT|HEAD|FRAGRANT",
   "2fba KANGXI RADICAL |HORSE|BONE|TALL|HAIR|FIGHT|SACRIFICIAL WINE|CAULDRON|GHOST|FISH|BIRD",
   "2fc4 KANGXI RADICAL |SALT|DEER|WHEAT|HEMP|YELLOW|MILLET|BLACK|EMBROIDERY|FROG",
   "2fcd KANGXI RADICAL |TRIPOD|DRUM|RAT|NOSE|EVEN|TOOTH|DRAGON|TURTLE|FLUTE",
   "2ff0 IDEOGRAPHIC DESCRIPTION CHARACTER |LEFT TO RIGHT|ABOVE TO BELOW|LEFT TO MIDDLE AND RIGHT",
   "2ff3 IDEOGRAPHIC DESCRIPTION CHARACTER |ABOVE TO MIDDLE AND BELOW|FULL SURROUND",
   "2ff5 IDEOGRAPHIC DESCRIPTION CHARACTER SURROUND FROM |ABOVE|BELOW|LEFT|UPPER LEFT|UPPER RIGHT",
   "2ffa IDEOGRAPHIC DESCRIPTION CHARACTER |SURROUND FROM LOWER LEFT|OVERLAID",
   "3000 IDEOGRAPHIC |SPACE|COMMA|FULL STOP",
   "3003 |DITTO MARK|JAPANESE INDUSTRIAL STANDARD SYMBOL|IDEOGRAPHIC ITERATION MARK",
   "3006 |IDEOGRAPHIC CLOSING MARK|IDEOGRAPHIC NUMBER ZERO|LEFT ANGLE BRACKET|RIGHT ANGLE BRACKET",
   "300a |LEFT DOUBLE ANGLE BRACKET|RIGHT DOUBLE ANGLE BRACKET|LEFT CORNER BRACKET",
   "300d |RIGHT CORNER BRACKET|LEFT WHITE CORNER BRACKET|RIGHT WHITE CORNER BRACKET",
   "3010 |LEFT BLACK LENTICULAR BRACKET|RIGHT BLACK LENTICULAR BRACKET|POSTAL MARK|GETA MARK",
   "3014 |LEFT TORTOISE SHELL BRACKET|RIGHT TORTOISE SHELL BRACKET|LEFT WHITE LENTICULAR BRACKET",
   "3017 |RIGHT WHITE LENTICULAR BRACKET|LEFT WHITE TORTOISE SHELL BRACKET",
   "3019 |RIGHT WHITE TORTOISE SHELL BRACKET|LEFT WHITE SQUARE BRACKET|RIGHT WHITE SQUARE BRACKET",
   "301c |WAVE DASH|REVERSED DOUBLE PRIME QUOTATION MARK",
   "301e |DOUBLE PRIME QUOTATION MARK|LOW DOUBLE PRIME QUOTATION MARK|POSTAL MARK FACE",
   "3021 HANGZHOU NUMERAL |ONE|TWO|THREE|FOUR|FIVE|SIX|SEVEN|EIGHT|NINE",
   "302a IDEOGRAPHIC |LEVEL TONE MARK|RISING TONE MARK|DEPARTING TONE MARK|ENTERING TONE MARK",
   "302e |HANGUL SINGLE DOT TONE MARK|HANGUL DOUBLE DOT TONE MARK|WAVY DASH",
   "3031 VERTICAL KANA REPEAT |MARK|WITH VOICED SOUND MARK",
   "3033 VERTICAL KANA REPEAT |MARK UPPER HALF|WITH VOICED SOUND MARK UPPER HALF|MARK LOWER HALF",
   "3036 |CIRCLED POSTAL MARK|IDEOGRAPHIC TELEGRAPH LINE FEED SEPARATOR SYMBOL",
   "3038 HANGZHOU NUMERAL |TEN|TWENTY|THIRTY",
   "303b |VERTICAL IDEOGRAPHIC ITERATION MARK|MASU MARK|PART ALTERNATION MARK",
   "303e IDEOGRAPHIC |VARIATION INDICATOR|HALF FILL SPACE",
   "3041 HIRAGANA LETTER |SMALL A|A|SMALL I|I|SMALL U|U|SMALL E|E|SMALL O|O",
   "304b HIRAGANA LETTER |KA|GA|KI|GI|KU|GU|KE|GE|KO|GO|SA|ZA|SI|ZI|SU|ZU|SE|ZE|SO|ZO|TA|DA|TI|DI",
   "3063 HIRAGANA LETTER |SMALL TU|TU|DU|TE|DE|TO|DO|NA|NI|NU|NE|NO|HA|BA|PA|HI|BI|PI|HU|BU",
   "3077 HIRAGANA LETTER |PU|HE|BE|PE|HO|BO|PO|MA|MI|MU|ME|MO|SMALL YA|YA|SMALL YU|YU",
   "3087 HIRAGANA LETTER |SMALL YO|YO|RA|RI|RU|RE|RO|SMALL WA|WA|WI|WE|WO|N|VU|SMALL KA|SMALL KE",
   "3099 COMBINING KATAKANA-HIRAGANA |VOICED SOUND MARK|SEMI-VOICED SOUND MARK",
   "309b KATAKANA-HIRAGANA |VOICED SOUND MARK|SEMI-VOICED SOUND MARK",
   "309d HIRAGANA |ITERATION MARK|VOICED ITERATION MARK|DIGRAPH YORI",
   "30a0 |KATAKANA-HIRAGANA DOUBLE HYPHEN",
   "30a1 KATAKANA LETTER |SMALL A|A|SMALL I|I|SMALL U|U|SMALL E|E|SMALL O|O",
   "30ab KATAKANA LETTER |KA|GA|KI|GI|KU|GU|KE|GE|KO|GO|SA|ZA|SI|ZI|SU|ZU|SE|ZE|SO|ZO|TA|DA",
   "30c1 KATAKANA LETTER |TI|DI|SMALL TU|TU|DU|TE|DE|TO|DO|NA|NI|NU|NE|NO|HA|BA|PA|HI|BI|PI|HU|BU",
   "30d7 KATAKANA LETTER |PU|HE|BE|PE|HO|BO|PO|MA|MI|MU|ME|MO|SMALL YA|YA|SMALL YU|YU|SMALL YO|YO",
   "30e9 KATAKANA LETTER |RA|RI|RU|RE|RO|SMALL WA|WA|WI|WE|WO|N|VU|SMALL KA|SMALL KE|VA|VI|VE|VO",
   "30fb |KATAKANA MIDDLE DOT|KATAKANA-HIRAGANA PROLONGED SOUND MARK",
   "30fd KATAKANA |ITERATION MARK|VOICED ITERATION MARK|DIGRAPH KOTO",
   "3105 BOPOMOFO LETTER |B|P|M|F|D|T|N|L|G|K|H|J|Q|X|ZH|CH|SH|R|Z|C|S|A|O",
   "311c BOPOMOFO LETTER |E|EH|AI|EI|AU|OU|AN|EN|ANG|ENG|ER|I|U|IU|V|NG|GN|IH|O WITH DOT ABOVE|NN",
   "3131 HANGUL LETTER |KIYEOK|SSANGKIYEOK|KIYEOK-SIOS|NIEUN|NIEUN-CIEUC|NIEUN-HIEUH|TIKEUT",
   "3138 HANGUL LETTER |SSANGTIKEUT|RIEUL|RIEUL-KIYEOK|RIEUL-MIEUM|RIEUL-PIEUP|RIEUL-SIOS",
   "313e HANGUL LETTER |RIEUL-THIEUTH|RIEUL-PHIEUPH|RIEUL-HIEUH|MIEUM|PIEUP|SSANGPIEUP|PIEUP-SIOS",
   "3145 HANGUL LETTER |SIOS|SSANGSIOS|IEUNG|CIEUC|SSANGCIEUC|CHIEUCH|KHIEUKH|THIEUTH|PHIEUPH",
   "314e HANGUL LETTER |HIEUH|A|AE|YA|YAE|EO|E|YEO|YE|O|WA|WAE|OE|YO|U|WEO|WE|WI|YU|EU|YI|I",
   "3164 HANGUL |FILLER|LETTER SSANGNIEUN",
   "3166 HANGUL LETTER NIEUN-|TIKEUT|SIOS|PANSIOS",
   "3169 HANGUL LETTER RIEUL-|KIYEOK-SIOS|TIKEUT|PIEUP-SIOS|PANSIOS|YEORINHIEUH",
   "316e HANGUL LETTER |MIEUM-PIEUP|MIEUM-SIOS|MIEUM-PANSIOS|KAPYEOUNMIEUM",
   "3172 HANGUL LETTER PIEUP-|KIYEOK|TIKEUT|SIOS-KIYEOK|SIOS-TIKEUT|CIEUC|THIEUTH",
   "3178 HANGUL LETTER |KAPYEOUNPIEUP|KAPYEOUNSSANGPIEUP",
   "317a HANGUL LETTER SIOS-|KIYEOK|NIEUN|TIKEUT|PIEUP|CIEUC",
   "317f HANGUL LETTER |PANSIOS|SSANGIEUNG|YESIEUNG|YESIEUNG-SIOS|YESIEUNG-PANSIOS|KAPYEOUNPHIEUPH",
   "3185 HANGUL LETTER |SSANGHIEUH|YEORINHIEUH|YO-YA|YO-YAE|YO-I|YU-YEO|YU-YE|YU-I|ARAEA|ARAEAE",
   "3190 IDEOGRAPHIC ANNOTATION |LINKING MARK|REVERSE MARK|ONE MARK|TWO MARK|THREE MARK",
   "3195 IDEOGRAPHIC ANNOTATION |FOUR MARK|TOP MARK|MIDDLE MARK|BOTTOM MARK|FIRST MARK|SECOND MARK",
   "319b IDEOGRAPHIC ANNOTATION |THIRD MARK|FOURTH MARK|HEAVEN MARK|EARTH MARK|MAN MARK",
   "31a0 BOPOMOFO LETTER |BU|ZI|JI|GU|EE|ENN|OO|ONN|IR|ANN|INN|UNN|IM|NGG|AINN|AUNN|AM|OM|ONG|INNN",
   "31b4 BOPOMOFO |FINAL LETTER P|FINAL LETTER T|FINAL LETTER K|FINAL LETTER H|LETTER GH|LETTER LH",
   "31ba BOPOMOFO |LETTER ZY|FINAL LETTER G|LETTER GW|LETTER KW|LETTER OE|LETTER AH",
   "31c0 CJK STROKE |T|WG|XG|BXG|SW|HZZ|HZG|HP|HZWG|SZWG|HZT|HZZP|HPWG",
   "31cd CJK STROKE |HZW|HZZZ|N|H|S|P|SP|D|HZ|HG|SZ|SWZ|ST|SG|PD|PZ|TN|SZZ|SWG|HXWG|HZZZG|PG|Q",
   "31f0 KATAKANA LETTER SMALL |KU|SI|SU|TO|NU|HA|HI|HU|HE|HO|MU|RA|RI|RU|RE|RO",
   "3200 PARENTHESIZED HANGUL |KIYEOK|NIEUN|TIKEUT|RIEUL|MIEUM|PIEUP|SIOS|IEUNG|CIEUC",
   "3209 PARENTHESIZED HANGUL |CHIEUCH|KHIEUKH|THIEUTH|PHIEUPH|HIEUH|KIYEOK A|NIEUN A|TIKEUT A",
   "3211 PARENTHESIZED HANGUL |RIEUL A|MIEUM A|PIEUP A|SIOS A|IEUNG A|CIEUC A",
   "3217 PARENTHESIZED HANGUL |CHIEUCH A|KHIEUKH A|THIEUTH A|PHIEUPH A|HIEUH A|CIEUC U",
   "321d PARENTHESIZED KOREAN CHARACTER |OJEON|O HU",
   "3220 PARENTHESIZED IDEOGRAPH |ONE|TWO|THREE|FOUR|FIVE|SIX|SEVEN|EIGHT|NINE|TEN|MOON|FIRE|WATER",
   "322d PARENTHESIZED IDEOGRAPH |WOOD|METAL|EARTH|SUN|STOCK|HAVE|SOCIETY|NAME|SPECIAL|FINANCIAL",
   "3237 PARENTHESIZED IDEOGRAPH |CONGRATULATION|LABOR|REPRESENT|CALL|STUDY",
   "323c PARENTHESIZED IDEOGRAPH |SUPERVISE|ENTERPRISE|RESOURCE|ALLIANCE|FESTIVAL|REST|SELF|REACH",
   "3244 CIRCLED IDEOGRAPH |QUESTION|KINDERGARTEN|SCHOOL|KOTO",
   "3248 CIRCLED NUMBER |TEN ON BLACK SQUARE|TWENTY ON BLACK SQUARE",
   "324a CIRCLED NUMBER |THIRTY ON BLACK SQUARE|FORTY ON BLACK SQUARE|FIFTY ON BLACK SQUARE",
   "324d CIRCLED NUMBER |SIXTY ON BLACK SQUARE|SEVENTY ON BLACK SQUARE|EIGHTY ON BLACK SQUARE",
   "3250 |PARTNERSHIP SIGN",
   "3251 CIRCLED NUMBER TWENTY |ONE|TWO|THREE|FOUR|FIVE|SIX|SEVEN|EIGHT|NINE",
   "325a CIRCLED NUMBER |THIRTY|THIRTY ONE|THIRTY TWO|THIRTY THREE|THIRTY FOUR|THIRTY FIVE",
   "3260 CIRCLED HANGUL |KIYEOK|NIEUN|TIKEUT|RIEUL|MIEUM|PIEUP|SIOS|IEUNG|CIEUC|CHIEUCH|KHIEUKH",
   "326b CIRCLED HANGUL |THIEUTH|PHIEUPH|HIEUH|KIYEOK A|NIEUN A|TIKEUT A|RIEUL A|MIEUM A|PIEUP A",
   "3274 CIRCLED HANGUL |SIOS A|IEUNG A|CIEUC A|CHIEUCH A|KHIEUKH A|THIEUTH A|PHIEUPH A|HIEUH A",
   "327c CIRCLED KOREAN CHARACTER |CHAMKO|JUEUI",
   "327e |CIRCLED HANGUL IEUNG U|KOREAN STANDARD SYMBOL",
   "3280 CIRCLED IDEOGRAPH |ONE|TWO|THREE|FOUR|FIVE|SIX|SEVEN|EIGHT|NINE|TEN",
   "328a CIRCLED IDEOGRAPH |MOON|FIRE|WATER|WOOD|METAL|EARTH|SUN|STOCK|HAVE|SOCIETY|NAME|SPECIAL",
   "3296 CIRCLED IDEOGRAPH |FINANCIAL|CONGRATULATION|LABOR|SECRET|MALE|FEMALE|SUITABLE|EXCELLENT",
   "329e CIRCLED IDEOGRAPH |PRINT|ATTENTION|ITEM|REST|COPY|CORRECT|HIGH|CENTRE|LOW|LEFT|RIGHT",
   "32a9 CIRCLED IDEOGRAPH |MEDICINE|RELIGION|STUDY|SUPERVISE|ENTERPRISE|RESOURCE|ALLIANCE|NIGHT",
   "32b1 CIRCLED NUMBER |THIRTY SIX|THIRTY SEVEN|THIRTY EIGHT|THIRTY NINE|FORTY",
   "32b6 CIRCLED NUMBER FORTY |ONE|TWO|THREE|FOUR|FIVE|SIX|SEVEN|EIGHT|NINE",
   "32bf |CIRCLED NUMBER FIFTY",
   "32c0 IDEOGRAPHIC TELEGRAPH SYMBOL FOR |JANUARY|FEBRUARY|MARCH|APRIL|MAY|JUNE",
   "32c6 IDEOGRAPHIC TELEGRAPH SYMBOL FOR |JULY|AUGUST|SEPTEMBER|OCTOBER|NOVEMBER|DECEMBER",
   "32cc |SQUARE HG|SQUARE ERG|SQUARE EV|LIMITED LIABILITY SIGN",
   "32d0 CIRCLED KATAKANA |A|I|U|E|O|KA|KI|KU|KE|KO|SA|SI|SU|SE|SO|TA|TI|TU|TE|TO|NA|NI|NU",
   "32e7 CIRCLED KATAKANA |NE|NO|HA|HI|HU|HE|HO|MA|MI|MU|ME|MO|YA|YU|YO|RA|RI|RU|RE|RO|WA|WI|WE|WO",
   "32ff SQUARE |ERA NAME REIWA|APAATO|ARUHUA|ANPEA|AARU|ININGU|INTI|UON|ESUKUUDO|EEKAA|ONSU",
   "330a SQUARE |OOMU|KAIRI|KARATTO|KARORII|GARON|GANMA|GIGA|GINII|KYURII|GIRUDAA",
   "3314 SQUARE |KIRO|KIROGURAMU|KIROMEETORU|KIROWATTO|GURAMU|GURAMUTON|KURUZEIRO|KUROONE",
   "331c SQUARE |KEESU|KORUNA|KOOPO|SAIKURU|SANTIIMU|SIRINGU|SENTI|SENTO|DAASU|DESI|DORU|TON|NANO",
   "3329 SQUARE |NOTTO|HAITU|PAASENTO|PAATU|BAARERU|PIASUTORU|PIKURU|PIKO|BIRU|HUARADDO|HUIITO",
   "3334 SQUARE |BUSSYERU|HURAN|HEKUTAARU|PESO|PENIHI|HERUTU|PENSU|PEEZI|BEETA|POINTO|BORUTO|HON",
   "3340 SQUARE |PONDO|HOORU|HOON|MAIKURO|MAIRU|MAHHA|MARUKU|MANSYON|MIKURON|MIRI|MIRIBAARU|MEGA",
   "334c SQUARE |MEGATON|MEETORU|YAADO|YAARU|YUAN|RITTORU|RIRA|RUPII|RUUBURU|REMU|RENTOGEN|WATTO",
   "3358 IDEOGRAPHIC TELEGRAPH SYMBOL FOR HOUR |ZERO|ONE|TWO|THREE|FOUR|FIVE|SIX|SEVEN|EIGHT",
   "3361 IDEOGRAPHIC TELEGRAPH SYMBOL FOR HOUR |NINE|TEN|ELEVEN|TWELVE|THIRTEEN|FOURTEEN|FIFTEEN",
   "3368 IDEOGRAPHIC TELEGRAPH SYMBOL FOR HOUR |SIXTEEN|SEVENTEEN|EIGHTEEN|NINETEEN|TWENTY",
   "336d IDEOGRAPHIC TELEGRAPH SYMBOL FOR HOUR TWENTY-|ONE|TWO|THREE|FOUR",
   "3371 SQUARE |HPA|DA|AU|BAR|OV|PC|DM|DM SQUARED|DM CUBED",
   "337a SQUARE |IU|ERA NAME HEISEI|ERA NAME SYOUWA|ERA NAME TAISYOU|ERA NAME MEIZI|CORPORATION",
   "3380 SQUARE |PA AMPS|NA|MU A|MA|KA|KB|MB|GB|CAL|KCAL|PF|NF|MU F|MU G|MG|KG|HZ|KHZ|MHZ|GHZ",
   "3394 SQUARE |THZ|MU L|ML|DL|KL|FM|NM|MU M|MM|CM|KM|MM SQUARED|CM SQUARED|M SQUARED|KM SQUARED",
   "33a3 SQUARE |MM CUBED|CM CUBED|M CUBED|KM CUBED|M OVER S|M OVER S SQUARED|PA|KPA|MPA|GPA|RAD",
   "33ae SQUARE |RAD OVER S|RAD OVER S SQUARED|PS|NS|MU S|MS|PV|NV|MU V|MV|KV|MV MEGA|PW|NW|MU W",
   "33bd SQUARE |MW|KW|MW MEGA|K OHM|M OHM|AM|BQ|CC|CD|C OVER KG|CO|DB|GY|HA|HP|IN|KK|KM CAPITAL",
   "33cf SQUARE |KT|LM|LN|LOG|LX|MB SMALL|MIL|MOL|PH|PM|PPM|PR|SR|SV|WB|V OVER M|A OVER M",
   "33e0 IDEOGRAPHIC TELEGRAPH SYMBOL FOR DAY |ONE|TWO|THREE|FOUR|FIVE|SIX|SEVEN",
   "33e7 IDEOGRAPHIC TELEGRAPH SYMBOL FOR DAY |EIGHT|NINE|TEN|ELEVEN|TWELVE|THIRTEEN|FOURTEEN",
   "33ee IDEOGRAPHIC TELEGRAPH SYMBOL FOR DAY |FIFTEEN|SIXTEEN|SEVENTEEN|EIGHTEEN|NINETEEN|TWENTY",
   "33f4 IDEOGRAPHIC TELEGRAPH SYMBOL FOR DAY TWENTY-|ONE|TWO|THREE|FOUR|FIVE|SIX|SEVEN|EIGHT|NINE",
   "33fd IDEOGRAPHIC TELEGRAPH SYMBOL FOR DAY |THIRTY|THIRTY-ONE",
   "33ff |SQUARE GAL",
   "4dc0 HEXAGRAM FOR |THE CREATIVE HEAVEN|THE RECEPTIVE EARTH|DIFFICULTY AT THE BEGINNING",
   "4dc3 HEXAGRAM FOR |YOUTHFUL FOLLY|WAITING|CONFLICT|THE ARMY|HOLDING TOGETHER|SMALL TAMING",
   "4dc9 HEXAGRAM FOR |TREADING|PEACE|STANDSTILL|FELLOWSHIP|GREAT POSSESSION|MODESTY|ENTHUSIASM",
   "4dd0 HEXAGRAM FOR |FOLLOWING|WORK ON THE DECAYED|APPROACH|CONTEMPLATION|BITING THROUGH",
   "4dd5 HEXAGRAM FOR |GRACE|SPLITTING APART|RETURN|INNOCENCE|GREAT TAMING|MOUTH CORNERS",
   "4ddb HEXAGRAM FOR |GREAT PREPONDERANCE|THE ABYSMAL WATER|THE CLINGING FIRE|INFLUENCE|DURATION",
   "4de0 HEXAGRAM FOR |RETREAT|GREAT POWER|PROGRESS|DARKENING OF THE LIGHT|THE FAMILY|OPPOSITION",
   "4de6 HEXAGRAM FOR |OBSTRUCTION|DELIVERANCE|DECREASE|INCREASE|BREAKTHROUGH|COMING TO MEET",
   "4dec HEXAGRAM FOR |GATHERING TOGETHER|PUSHING UPWARD|OPPRESSION|THE WELL|REVOLUTION",
   "4df1 HEXAGRAM FOR THE |CAULDRON|AROUSING THUNDER|KEEPING STILL MOUNTAIN",
   "4df4 HEXAGRAM FOR |DEVELOPMENT|THE MARRYING MAIDEN|ABUNDANCE",
   "4df7 HEXAGRAM FOR |THE WANDERER|THE GENTLE WIND|THE JOYOUS LAKE|DISPERSION|LIMITATION",
   "4dfc HEXAGRAM FOR |INNER TRUTH|SMALL PREPONDERANCE|AFTER COMPLETION|BEFORE COMPLETION",
   "a000 YI SYLLABLE |IT|IX|I|IP|IET|IEX|IE|IEP|AT|AX|A|AP|UOX|UO|UOP|OT|OX|O|OP|EX|E|WU|BIT|BIX",
   "a018 YI SYLLABLE |BI|BIP|BIET|BIEX|BIE|BIEP|BAT|BAX|BA|BAP|BUOX|BUO|BUOP|BOT|BOX|BO|BOP|BEX|BE",
   "a02b YI SYLLABLE |BEP|BUT|BUX|BU|BUP|BURX|BUR|BYT|BYX|BY|BYP|BYRX|BYR|PIT|PIX|PI|PIP|PIEX|PIE",
   "a03e YI SYLLABLE |PIEP|PAT|PAX|PA|PAP|PUOX|PUO|PUOP|POT|POX|PO|POP|PUT|PUX|PU|PUP|PURX|PUR|PYT",
   "a051 YI SYLLABLE |PYX|PY|PYP|PYRX|PYR|BBIT|BBIX|BBI|BBIP|BBIET|BBIEX|BBIE|BBIEP|BBAT|BBAX|BBA",
   "a061 YI SYLLABLE |BBAP|BBUOX|BBUO|BBUOP|BBOT|BBOX|BBO|BBOP|BBEX|BBE|BBEP|BBUT|BBUX|BBU|BBUP",
   "a070 YI SYLLABLE |BBURX|BBUR|BBYT|BBYX|BBY|BBYP|NBIT|NBIX|NBI|NBIP|NBIEX|NBIE|NBIEP|NBAT|NBAX",
   "a07f YI SYLLABLE |NBA|NBAP|NBOT|NBOX|NBO|NBOP|NBUT|NBUX|NBU|NBUP|NBURX|NBUR|NBYT|NBYX|NBY|NBYP",
   "a08f YI SYLLABLE |NBYRX|NBYR|HMIT|HMIX|HMI|HMIP|HMIEX|HMIE|HMIEP|HMAT|HMAX|HMA|HMAP|HMUOX|HMUO",
   "a09e YI SYLLABLE |HMUOP|HMOT|HMOX|HMO|HMOP|HMUT|HMUX|HMU|HMUP|HMURX|HMUR|HMYX|HMY|HMYP|HMYRX",
   "a0ad YI SYLLABLE |HMYR|MIT|MIX|MI|MIP|MIEX|MIE|MIEP|MAT|MAX|MA|MAP|MUOT|MUOX|MUO|MUOP|MOT|MOX",
   "a0bf YI SYLLABLE |MO|MOP|MEX|ME|MUT|MUX|MU|MUP|MURX|MUR|MYT|MYX|MY|MYP|FIT|FIX|FI|FIP|FAT|FAX",
   "a0d3 YI SYLLABLE |FA|FAP|FOX|FO|FOP|FUT|FUX|FU|FUP|FURX|FUR|FYT|FYX|FY|FYP|VIT|VIX|VI|VIP|VIET",
   "a0e7 YI SYLLABLE |VIEX|VIE|VIEP|VAT|VAX|VA|VAP|VOT|VOX|VO|VOP|VEX|VEP|VUT|VUX|VU|VUP|VURX|VUR",
   "a0fa YI SYLLABLE |VYT|VYX|VY|VYP|VYRX|VYR|DIT|DIX|DI|DIP|DIEX|DIE|DIEP|DAT|DAX|DA|DAP|DUOX|DUO",
   "a10d YI SYLLABLE |DOT|DOX|DO|DOP|DEX|DE|DEP|DUT|DUX|DU|DUP|DURX|DUR|TIT|TIX|TI|TIP|TIEX",
   "a11f YI SYLLABLE |TIE|TIEP|TAT|TAX|TA|TAP|TUOT|TUOX|TUO|TUOP|TOT|TOX|TO|TOP|TEX|TE|TEP|TUT",
   "a131 YI SYLLABLE |TUX|TU|TUP|TURX|TUR|DDIT|DDIX|DDI|DDIP|DDIEX|DDIE|DDIEP|DDAT|DDAX|DDA|DDAP",
   "a141 YI SYLLABLE |DDUOX|DDUO|DDUOP|DDOT|DDOX|DDO|DDOP|DDEX|DDE|DDEP|DDUT|DDUX|DDU|DDUP|DDURX",
   "a150 YI SYLLABLE |DDUR|NDIT|NDIX|NDI|NDIP|NDIEX|NDIE|NDAT|NDAX|NDA|NDAP|NDOT|NDOX|NDO|NDOP",
   "a15f YI SYLLABLE |NDEX|NDE|NDEP|NDUT|NDUX|NDU|NDUP|NDURX|NDUR|HNIT|HNIX|HNI|HNIP|HNIET|HNIEX",
   "a16e YI SYLLABLE |HNIE|HNIEP|HNAT|HNAX|HNA|HNAP|HNUOX|HNUO|HNOT|HNOX|HNOP|HNEX|HNE|HNEP|HNUT",
   "a17d YI SYLLABLE |NIT|NIX|NI|NIP|NIEX|NIE|NIEP|NAX|NA|NAP|NUOX|NUO|NUOP|NOT|NOX|NO|NOP",
   "a18e YI SYLLABLE |NEX|NE|NEP|NUT|NUX|NU|NUP|NURX|NUR|HLIT|HLIX|HLI|HLIP|HLIEX|HLIE|HLIEP|HLAT",
   "a19f YI SYLLABLE |HLAX|HLA|HLAP|HLUOX|HLUO|HLUOP|HLOX|HLO|HLOP|HLEX|HLE|HLEP|HLUT|HLUX|HLU",
   "a1ae YI SYLLABLE |HLUP|HLURX|HLUR|HLYT|HLYX|HLY|HLYP|HLYRX|HLYR|LIT|LIX|LI|LIP|LIET|LIEX|LIE",
   "a1be YI SYLLABLE |LIEP|LAT|LAX|LA|LAP|LUOT|LUOX|LUO|LUOP|LOT|LOX|LO|LOP|LEX|LE|LEP|LUT|LUX|LU",
   "a1d1 YI SYLLABLE |LUP|LURX|LUR|LYT|LYX|LY|LYP|LYRX|LYR|GIT|GIX|GI|GIP|GIET|GIEX|GIE|GIEP|GAT",
   "a1e3 YI SYLLABLE |GAX|GA|GAP|GUOT|GUOX|GUO|GUOP|GOT|GOX|GO|GOP|GET|GEX|GE|GEP|GUT|GUX|GU|GUP",
   "a1f6 YI SYLLABLE |GURX|GUR|KIT|KIX|KI|KIP|KIEX|KIE|KIEP|KAT|KAX|KA|KAP|KUOX|KUO|KUOP|KOT|KOX",
   "a208 YI SYLLABLE |KO|KOP|KET|KEX|KE|KEP|KUT|KUX|KU|KUP|KURX|KUR|GGIT|GGIX|GGI|GGIEX",
   "a218 YI SYLLABLE |GGIE|GGIEP|GGAT|GGAX|GGA|GGAP|GGUOT|GGUOX|GGUO|GGUOP|GGOT|GGOX|GGO|GGOP|GGET",
   "a227 YI SYLLABLE |GGEX|GGE|GGEP|GGUT|GGUX|GGU|GGUP|GGURX|GGUR|MGIEX|MGIE|MGAT|MGAX|MGA|MGAP",
   "a236 YI SYLLABLE |MGUOX|MGUO|MGUOP|MGOT|MGOX|MGO|MGOP|MGEX|MGE|MGEP|MGUT|MGUX|MGU|MGUP|MGURX",
   "a245 YI SYLLABLE |MGUR|HXIT|HXIX|HXI|HXIP|HXIET|HXIEX|HXIE|HXIEP|HXAT|HXAX|HXA|HXAP|HXUOT",
   "a253 YI SYLLABLE |HXUOX|HXUO|HXUOP|HXOT|HXOX|HXO|HXOP|HXEX|HXE|HXEP|NGIEX|NGIE|NGIEP|NGAT",
   "a261 YI SYLLABLE |NGAX|NGA|NGAP|NGUOT|NGUOX|NGUO|NGOT|NGOX|NGO|NGOP|NGEX|NGE|NGEP|HIT|HIEX|HIE",
   "a271 YI SYLLABLE |HAT|HAX|HA|HAP|HUOT|HUOX|HUO|HUOP|HOT|HOX|HO|HOP|HEX|HE|HEP|WAT|WAX|WA|WAP",
   "a284 YI SYLLABLE |WUOX|WUO|WUOP|WOX|WO|WOP|WEX|WE|WEP|ZIT|ZIX|ZI|ZIP|ZIEX|ZIE|ZIEP|ZAT|ZAX|ZA",
   "a297 YI SYLLABLE |ZAP|ZUOX|ZUO|ZUOP|ZOT|ZOX|ZO|ZOP|ZEX|ZE|ZEP|ZUT|ZUX|ZU|ZUP|ZURX|ZUR|ZYT|ZYX",
   "a2aa YI SYLLABLE |ZY|ZYP|ZYRX|ZYR|CIT|CIX|CI|CIP|CIET|CIEX|CIE|CIEP|CAT|CAX|CA|CAP|CUOX|CUO",
   "a2bc YI SYLLABLE |CUOP|COT|COX|CO|COP|CEX|CE|CEP|CUT|CUX|CU|CUP|CURX|CUR|CYT|CYX|CY|CYP|CYRX",
   "a2cf YI SYLLABLE |CYR|ZZIT|ZZIX|ZZI|ZZIP|ZZIET|ZZIEX|ZZIE|ZZIEP|ZZAT|ZZAX|ZZA|ZZAP|ZZOX|ZZO",
   "a2de YI SYLLABLE |ZZOP|ZZEX|ZZE|ZZEP|ZZUX|ZZU|ZZUP|ZZURX|ZZUR|ZZYT|ZZYX|ZZY|ZZYP|ZZYRX|ZZYR",
   "a2ed YI SYLLABLE |NZIT|NZIX|NZI|NZIP|NZIEX|NZIE|NZIEP|NZAT|NZAX|NZA|NZAP|NZUOX|NZUO|NZOX|NZOP",
   "a2fc YI SYLLABLE |NZEX|NZE|NZUX|NZU|NZUP|NZURX|NZUR|NZYT|NZYX|NZY|NZYP|NZYRX|NZYR|SIT|SIX|SI",
   "a30c YI SYLLABLE |SIP|SIEX|SIE|SIEP|SAT|SAX|SA|SAP|SUOX|SUO|SUOP|SOT|SOX|SO|SOP|SEX|SE|SEP|SUT",
   "a31f YI SYLLABLE |SUX|SU|SUP|SURX|SUR|SYT|SYX|SY|SYP|SYRX|SYR|SSIT|SSIX|SSI|SSIP|SSIEX|SSIE",
   "a330 YI SYLLABLE |SSIEP|SSAT|SSAX|SSA|SSAP|SSOT|SSOX|SSO|SSOP|SSEX|SSE|SSEP|SSUT|SSUX|SSU|SSUP",
   "a340 YI SYLLABLE |SSYT|SSYX|SSY|SSYP|SSYRX|SSYR|ZHAT|ZHAX|ZHA|ZHAP|ZHUOX|ZHUO|ZHUOP|ZHOT|ZHOX",
   "a34f YI SYLLABLE |ZHO|ZHOP|ZHET|ZHEX|ZHE|ZHEP|ZHUT|ZHUX|ZHU|ZHUP|ZHURX|ZHUR|ZHYT|ZHYX",
   "a35d YI SYLLABLE |ZHY|ZHYP|ZHYRX|ZHYR|CHAT|CHAX|CHA|CHAP|CHUOT|CHUOX|CHUO|CHUOP|CHOT|CHOX|CHO",
   "a36c YI SYLLABLE |CHOP|CHET|CHEX|CHE|CHEP|CHUX|CHU|CHUP|CHURX|CHUR|CHYT|CHYX|CHY|CHYP|CHYRX",
   "a37b YI SYLLABLE |CHYR|RRAX|RRA|RRUOX|RRUO|RROT|RROX|RRO|RROP|RRET|RREX|RRE|RREP|RRUT|RRUX",
   "a38a YI SYLLABLE |RRU|RRUP|RRURX|RRUR|RRYT|RRYX|RRY|RRYP|RRYRX|RRYR|NRAT|NRAX|NRA|NRAP|NROX",
   "a399 YI SYLLABLE |NRO|NROP|NRET|NREX|NRE|NREP|NRUT|NRUX|NRU|NRUP|NRURX|NRUR|NRYT|NRYX|NRY|NRYP",
   "a3a9 YI SYLLABLE |NRYRX|NRYR|SHAT|SHAX|SHA|SHAP|SHUOX|SHUO|SHUOP|SHOT|SHOX|SHO|SHOP|SHET|SHEX",
   "a3b8 YI SYLLABLE |SHE|SHEP|SHUT|SHUX|SHU|SHUP|SHURX|SHUR|SHYT|SHYX|SHY|SHYP|SHYRX|SHYR|RAT",
   "a3c7 YI SYLLABLE |RAX|RA|RAP|RUOX|RUO|RUOP|ROT|ROX|RO|ROP|REX|RE|REP|RUT|RUX|RU|RUP|RURX|RUR",
   "a3da YI SYLLABLE |RYT|RYX|RY|RYP|RYRX|RYR|JIT|JIX|JI|JIP|JIET|JIEX|JIE|JIEP|JUOT|JUOX|JUO|JUOP",
   "a3ec YI SYLLABLE |JOT|JOX|JO|JOP|JUT|JUX|JU|JUP|JURX|JUR|JYT|JYX|JY|JYP|JYRX|JYR|QIT|QIX",
   "a3fe YI SYLLABLE |QI|QIP|QIET|QIEX|QIE|QIEP|QUOT|QUOX|QUO|QUOP|QOT|QOX|QO|QOP|QUT|QUX",
   "a40e YI SYLLABLE |QU|QUP|QURX|QUR|QYT|QYX|QY|QYP|QYRX|QYR|JJIT|JJIX|JJI|JJIP|JJIET|JJIEX",
   "a41e YI SYLLABLE |JJIE|JJIEP|JJUOX|JJUO|JJUOP|JJOT|JJOX|JJO|JJOP|JJUT|JJUX|JJU|JJUP|JJURX|JJUR",
   "a42d YI SYLLABLE |JJYT|JJYX|JJY|JJYP|NJIT|NJIX|NJI|NJIP|NJIET|NJIEX|NJIE|NJIEP|NJUOX|NJUO|NJOT",
   "a43c YI SYLLABLE |NJOX|NJO|NJOP|NJUX|NJU|NJUP|NJURX|NJUR|NJYT|NJYX|NJY|NJYP|NJYRX|NJYR|NYIT",
   "a44b YI SYLLABLE |NYIX|NYI|NYIP|NYIET|NYIEX|NYIE|NYIEP|NYUOX|NYUO|NYUOP|NYOT|NYOX|NYO",
   "a458 YI SYLLABLE |NYOP|NYUT|NYUX|NYU|NYUP|XIT|XIX|XI|XIP|XIET|XIEX|XIE|XIEP|XUOX|XUO|XOT",
   "a468 YI SYLLABLE |XOX|XO|XOP|XYT|XYX|XY|XYP|XYRX|XYR|YIT|YIX|YI|YIP|YIET|YIEX|YIE|YIEP|YUOT",
   "a47a YI SYLLABLE |YUOX|YUO|YUOP|YOT|YOX|YO|YOP|YUT|YUX|YU|YUP|YURX|YUR|YYT|YYX|YY|YYP|YYRX|YYR",
   "a490 YI RADICAL |QOT|LI|KIT|NYIP|CYP|SSI|GGOP|GEP|MI|HXIT|LYR|BBUT|MOP|YO|PUT|HXUO|TAT|GA",
   "a4a2 YI RADICAL |ZUP|CYT|DDUR|BUR|GGUO|NYOP|TU|OP|JJUT|ZOT|PYT|HMO|YIT|VUR|SHY|VEP|ZA|JO|NZUP",
   "a4b5 YI RADICAL |JJY|GOT|JJIE|WO|DU|SHUR|LIE|CY|CUOP|CIP|HXOP|SHAT|ZUR|SHOP|CHE|ZZIET|NBIE|KE",
   "a4d0 LISU LETTER |BA|PA|PHA|DA|TA|THA|GA|KA|KHA|JA|CA|CHA|DZA|TSA|TSHA|MA|NA|LA|SA|ZHA|ZA|NGA",
   "a4e6 LISU LETTER |HA|XA|HHA|FA|WA|SHA|YA|GHA|A|AE|E|EU|I|O|U|UE|UH|OE|TONE MYA TI|TONE NA PO",
   "a4fa LISU LETTER TONE MYA |CYA|BO|NA|JEU",
   "a4fe LISU PUNCTUATION |COMMA|FULL STOP",
   "a500 VAI SYLLABLE |EE|EEN|HEE|WEE|WEEN|PEE|BHEE|BEE|MBEE|KPEE|MGBEE|GBEE|FEE|VEE|TEE",
   "a50f VAI SYLLABLE |THEE|DHEE|DHHEE|LEE|REE|DEE|NDEE|SEE|SHEE|ZEE|ZHEE|CEE|JEE|NJEE|YEE|KEE",
   "a51f VAI SYLLABLE |NGGEE|GEE|MEE|NEE|NYEE|I|IN|HI|HIN|WI|WIN|PI|BHI|BI|MBI|KPI|MGBI|GBI",
   "a531 VAI SYLLABLE |FI|VI|TI|THI|DHI|DHHI|LI|RI|DI|NDI|SI|SHI|ZI|ZHI|CI|JI|NJI|YI|KI|NGGI|GI|MI",
   "a547 VAI SYLLABLE |NI|NYI|A|AN|NGAN|HA|HAN|WA|WAN|PA|BHA|BA|MBA|KPA|KPAN|MGBA|GBA|FA|VA|TA|THA",
   "a55c VAI SYLLABLE |DHA|DHHA|LA|RA|DA|NDA|SA|SHA|ZA|ZHA|CA|JA|NJA|YA|KA|KAN|NGGA|GA|MA|NA",
   "a570 VAI SYLLABLE |NYA|OO|OON|HOO|WOO|WOON|POO|BHOO|BOO|MBOO|KPOO|MGBOO|GBOO|FOO|VOO|TOO|THOO",
   "a581 VAI SYLLABLE |DHOO|DHHOO|LOO|ROO|DOO|NDOO|SOO|SHOO|ZOO|ZHOO|COO|JOO|NJOO|YOO|KOO|NGGOO",
   "a591 VAI SYLLABLE |GOO|MOO|NOO|NYOO|U|UN|HU|HUN|WU|WUN|PU|BHU|BU|MBU|KPU|MGBU|GBU|FU|VU|TU|THU",
   "a5a6 VAI SYLLABLE |DHU|DHHU|LU|RU|DU|NDU|SU|SHU|ZU|ZHU|CU|JU|NJU|YU|KU|NGGU|GU|MU|NU|NYU|O|ON",
   "a5bc VAI SYLLABLE |NGON|HO|HON|WO|WON|PO|BHO|BO|MBO|KPO|MGBO|GBO|GBON|FO|VO|TO|THO|DHO|DHHO|LO",
   "a5d0 VAI SYLLABLE |RO|DO|NDO|SO|SHO|ZO|ZHO|CO|JO|NJO|YO|KO|NGGO|GO|MO|NO|NYO|E|EN|NGEN|HE|HEN",
   "a5e6 VAI SYLLABLE |WE|WEN|PE|BHE|BE|MBE|KPE|KPEN|MGBE|GBE|GBEN|FE|VE|TE|THE|DHE|DHHE|LE|RE|DE",
   "a5fa VAI SYLLABLE |NDE|SE|SHE|ZE|ZHE|CE|JE|NJE|YE|KE|NGGE|NGGEN|GE|GEN|ME|NE|NYE|NG|LENGTHENER",
   "a60d VAI |COMMA|FULL STOP|QUESTION MARK|SYLLABLE NDOLE FA|SYLLABLE NDOLE KA|SYLLABLE NDOLE SOO",
   "a613 VAI SYMBOL |FEENG|KEENG|TING|NII|BANG|FAA|TAA|DANG|DOONG|KUNG|TONG|DO-O|JONG",
   "a620 VAI DIGIT |ZERO|ONE|TWO|THREE|FOUR|FIVE|SIX|SEVEN|EIGHT|NINE",
   "a62a VAI SYLLABLE NDOLE |MA|DO",
   "a640 CYRILLIC |CAPITAL LETTER ZEMLYA|SMALL LETTER ZEMLYA|CAPITAL LETTER DZELO",
   "a643 CYRILLIC |SMALL LETTER DZELO|CAPITAL LETTER REVERSED DZE|SMALL LETTER REVERSED DZE",
   "a646 CYRILLIC |CAPITAL LETTER IOTA|SMALL LETTER IOTA|CAPITAL LETTER DJERV",
   "a649 CYRILLIC |SMALL LETTER DJERV|CAPITAL LETTER MONOGRAPH UK|SMALL LETTER MONOGRAPH UK",
   "a64c CYRILLIC |CAPITAL LETTER BROAD OMEGA|SMALL LETTER BROAD OMEGA",
   "a64e CYRILLIC |CAPITAL LETTER NEUTRAL YER|SMALL LETTER NEUTRAL YER",
   "a650 CYRILLIC |CAPITAL LETTER YERU WITH BACK YER|SMALL LETTER YERU WITH BACK YER",
   "a652 CYRILLIC |CAPITAL LETTER IOTIFIED YAT|SMALL LETTER IOTIFIED YAT",
   "a654 CYRILLIC |CAPITAL LETTER REVERSED YU|SMALL LETTER REVERSED YU|CAPITAL LETTER IOTIFIED A",
   "a657 CYRILLIC |SMALL LETTER IOTIFIED A|CAPITAL LETTER CLOSED LITTLE YUS",
   "a659 CYRILLIC |SMALL LETTER CLOSED LITTLE YUS|CAPITAL LETTER BLENDED YUS",
   "a65b CYRILLIC |SMALL LETTER BLENDED YUS|CAPITAL LETTER IOTIFIED CLOSED LITTLE YUS",
   "a65d CYRILLIC |SMALL LETTER IOTIFIED CLOSED LITTLE YUS|CAPITAL LETTER YN",
   "a65f CYRILLIC |SMALL LETTER YN|CAPITAL LETTER REVERSED TSE|SMALL LETTER REVERSED TSE",
   "a662 CYRILLIC |CAPITAL LETTER SOFT DE|SMALL LETTER SOFT DE|CAPITAL LETTER SOFT EL",
   "a665 CYRILLIC |SMALL LETTER SOFT EL|CAPITAL LETTER SOFT EM|SMALL LETTER SOFT EM",
   "a668 CYRILLIC |CAPITAL LETTER MONOCULAR O|SMALL LETTER MONOCULAR O|CAPITAL LETTER BINOCULAR O",
   "a66b CYRILLIC |SMALL LETTER BINOCULAR O|CAPITAL LETTER DOUBLE MONOCULAR O",
   "a66d CYRILLIC |SMALL LETTER DOUBLE MONOCULAR O|LETTER MULTIOCULAR O",
   "a66f COMBINING CYRILLIC |VZMET|TEN MILLIONS SIGN|HUNDRED MILLIONS SIGN|THOUSAND MILLIONS SIGN",
   "a673 |SLAVONIC ASTERISK",
   "a674 COMBINING CYRILLIC LETTER |UKRAINIAN IE|I|YI|U|HARD SIGN|YERU|SOFT SIGN|OMEGA",
   "a67c |COMBINING CYRILLIC KAVYKA|COMBINING CYRILLIC PAYEROK|CYRILLIC KAVYKA|CYRILLIC PAYEROK",
   "a680 CYRILLIC |CAPITAL LETTER DWE|SMALL LETTER DWE|CAPITAL LETTER DZWE|SMALL LETTER DZWE",
   "a684 CYRILLIC |CAPITAL LETTER ZHWE|SMALL LETTER ZHWE|CAPITAL LETTER CCHE|SMALL LETTER CCHE",
   "a688 CYRILLIC |CAPITAL LETTER DZZE|SMALL LETTER DZZE|CAPITAL LETTER TE WITH MIDDLE HOOK",
   "a68b CYRILLIC |SMALL LETTER TE WITH MIDDLE HOOK|CAPITAL LETTER TWE",
   "a68d CYRILLIC |SMALL LETTER TWE|CAPITAL LETTER TSWE|SMALL LETTER TSWE|CAPITAL LETTER TSSE",
   "a691 CYRILLIC |SMALL LETTER TSSE|CAPITAL LETTER TCHE|SMALL LETTER TCHE|CAPITAL LETTER HWE",
   "a695 CYRILLIC |SMALL LETTER HWE|CAPITAL LETTER SHWE|SMALL LETTER SHWE|CAPITAL LETTER DOUBLE O",
   "a699 CYRILLIC |SMALL LETTER DOUBLE O|CAPITAL LETTER CROSSED O|SMALL LETTER CROSSED O",
   "a69c MODIFIER LETTER CYRILLIC |HARD SIGN|SOFT SIGN",
   "a69e COMBINING CYRILLIC LETTER |EF|IOTIFIED E",
   "a6a0 BAMUM LETTER |A|KA|U|KU|EE|REE|TAE|O|NYI|I|LA|PA|RII|RIEE|LEEEE|MEEEE",
   "a6b0 BAMUM LETTER |TAA|NDAA|NJAEM|M|SUU|MU|SHII|SI|SHEUX|SEUX|KYEE|KET|NUAE|NU|NJUAE|YOQ|SHU",
   "a6c1 BAMUM LETTER |YUQ|YA|NSHA|KEUX|PEUX|NJEE|NTEE|PUE|WUE|PEE|FEE|RU|LU|MI|NI|REUX",
   "a6d1 BAMUM LETTER |RAE|KEN|NGKWAEN|NGGA|NGA|SHO|PUAE|FU|FOM|WA|NA|LI|PI|LOQ|KO|MBEN",
   "a6e1 BAMUM LETTER |REN|MEN|MA|TI|KI|MO|MBAA|TET|KPA|TEN|NTUU|SAMBA|FAAMAE|KOVUU|KOGHOM",
   "a6f0 BAMUM COMBINING MARK |KOQNDON|TUKWENTIS",
   "a6f2 BAMUM |NJAEMLI|FULL STOP|COLON|COMMA|SEMICOLON|QUESTION MARK",
   "a700 MODIFIER LETTER CHINESE TONE |YIN PING|YANG PING",
   "a702 MODIFIER LETTER CHINESE TONE |YIN SHANG|YANG SHANG|YIN QU|YANG QU|YIN RU|YANG RU",
   "a708 MODIFIER LETTER |EXTRA-HIGH DOTTED TONE BAR|HIGH DOTTED TONE BAR",
   "a70a MODIFIER LETTER |MID DOTTED TONE BAR|LOW DOTTED TONE BAR|EXTRA-LOW DOTTED TONE BAR",
   "a70d MODIFIER LETTER |EXTRA-HIGH DOTTED LEFT-STEM TONE BAR|HIGH DOTTED LEFT-STEM TONE BAR",
   "a70f MODIFIER LETTER |MID DOTTED LEFT-STEM TONE BAR|LOW DOTTED LEFT-STEM TONE BAR",
   "a711 MODIFIER LETTER EXTRA-|LOW DOTTED LEFT-STEM TONE BAR|HIGH LEFT-STEM TONE BAR",
   "a713 MODIFIER LETTER |HIGH LEFT-STEM TONE BAR|MID LEFT-STEM TONE BAR",
   "a715 MODIFIER LETTER |LOW LEFT-STEM TONE BAR|EXTRA-LOW LEFT-STEM TONE BAR|DOT VERTICAL BAR",
   "a718 MODIFIER LETTER |DOT SLASH|DOT HORIZONTAL BAR|LOWER RIGHT CORNER ANGLE",
   "a71b MODIFIER LETTER RAISED |UP ARROW|DOWN ARROW|EXCLAMATION MARK|INVERTED EXCLAMATION MARK",
   "a71f MODIFIER LETTER |LOW INVERTED EXCLAMATION MARK|STRESS AND HIGH TONE|STRESS AND LOW TONE",
   "a722 LATIN |CAPITAL LETTER EGYPTOLOGICAL ALEF|SMALL LETTER EGYPTOLOGICAL ALEF",
   "a724 LATIN |CAPITAL LETTER EGYPTOLOGICAL AIN|SMALL LETTER EGYPTOLOGICAL AIN",
   "a726 |LATIN CAPITAL LETTER HENG",
   "a727 LATIN |SMALL LETTER HENG|CAPITAL LETTER TZ|SMALL LETTER TZ|CAPITAL LETTER TRESILLO",
   "a72b LATIN |SMALL LETTER TRESILLO|CAPITAL LETTER CUATRILLO|SMALL LETTER CUATRILLO",
   "a72e LATIN |CAPITAL LETTER CUATRILLO WITH COMMA|SMALL LETTER CUATRILLO WITH COMMA",
   "a730 LATIN |LETTER SMALL CAPITAL F|LETTER SMALL CAPITAL S|CAPITAL LETTER AA|SMALL LETTER AA",
   "a734 LATIN |CAPITAL LETTER AO|SMALL LETTER AO|CAPITAL LETTER AU|SMALL LETTER AU",
   "a738 LATIN |CAPITAL LETTER AV|SMALL LETTER AV|CAPITAL LETTER AV WITH HORIZONTAL BAR",
   "a73b LATIN |SMALL LETTER AV WITH HORIZONTAL BAR|CAPITAL LETTER AY|SMALL LETTER AY",
   "a73e LATIN |CAPITAL LETTER REVERSED C WITH DOT|SMALL LETTER REVERSED C WITH DOT",
   "a740 LATIN |CAPITAL LETTER K WITH STROKE|SMALL LETTER K WITH STROKE",
   "a742 LATIN |CAPITAL LETTER K WITH DIAGONAL STROKE|SMALL LETTER K WITH DIAGONAL STROKE",
   "a744 |LATIN CAPITAL LETTER K WITH STROKE AND DIAGONAL STROKE",
   "a745 |LATIN SMALL LETTER K WITH STROKE AND DIAGONAL STROKE",
   "a746 LATIN |CAPITAL LETTER BROKEN L|SMALL LETTER BROKEN L",
   "a748 LATIN |CAPITAL LETTER L WITH HIGH STROKE|SMALL LETTER L WITH HIGH STROKE",
   "a74a LATIN |CAPITAL LETTER O WITH LONG STROKE OVERLAY|SMALL LETTER O WITH LONG STROKE OVERLAY",
   "a74c LATIN |CAPITAL LETTER O WITH LOOP|SMALL LETTER O WITH LOOP",
   "a74e LATIN |CAPITAL LETTER OO|SMALL LETTER OO|CAPITAL LETTER P WITH STROKE THROUGH DESCENDER",
   "a751 LATIN |SMALL LETTER P WITH STROKE THROUGH DESCENDER|CAPITAL LETTER P WITH FLOURISH",
   "a753 LATIN |SMALL LETTER P WITH FLOURISH|CAPITAL LETTER P WITH SQUIRREL TAIL",
   "a755 LATIN |SMALL LETTER P WITH SQUIRREL TAIL|CAPITAL LETTER Q WITH STROKE THROUGH DESCENDER",
   "a757 LATIN |SMALL LETTER Q WITH STROKE THROUGH DESCENDER|CAPITAL LETTER Q WITH DIAGONAL STROKE",
   "a759 LATIN |SMALL LETTER Q WITH DIAGONAL STROKE|CAPITAL LETTER R ROTUNDA",
   "a75b LATIN |SMALL LETTER R ROTUNDA|CAPITAL LETTER RUM ROTUNDA|SMALL LETTER RUM ROTUNDA",
   "a75e LATIN |CAPITAL LETTER V WITH DIAGONAL STROKE|SMALL LETTER V WITH DIAGONAL STROKE",
   "a760 LATIN |CAPITAL LETTER VY|SMALL LETTER VY|CAPITAL LETTER VISIGOTHIC Z",
   "a763 LATIN |SMALL LETTER VISIGOTHIC Z|CAPITAL LETTER THORN WITH STROKE",
   "a765 LATIN |SMALL LETTER THORN WITH STROKE|CAPITAL LETTER THORN WITH STROKE THROUGH DESCENDER",
   "a767 LATIN |SMALL LETTER THORN WITH STROKE THROUGH DESCENDER|CAPITAL LETTER VEND",
   "a769 LATIN |SMALL LETTER VEND|CAPITAL LETTER ET|SMALL LETTER ET|CAPITAL LETTER IS",
   "a76d |LATIN SMALL LETTER IS|LATIN CAPITAL LETTER CON|LATIN SMALL LETTER CON|MODIFIER LETTER US",
   "a771 LATIN SMALL LETTER |DUM|LUM|MUM|NUM|RUM",
   "a776 LATIN |LETTER SMALL CAPITAL RUM|SMALL LETTER TUM|SMALL LETTER UM|CAPITAL LETTER INSULAR D",
   "a77a LATIN |SMALL LETTER INSULAR D|CAPITAL LETTER INSULAR F|SMALL LETTER INSULAR F",
   "a77d LATIN CAPITAL LETTER |INSULAR G|TURNED INSULAR G",
   "a77f LATIN |SMALL LETTER TURNED INSULAR G|CAPITAL LETTER TURNED L|SMALL LETTER TURNED L",
   "a782 LATIN |CAPITAL LETTER INSULAR R|SMALL LETTER INSULAR R|CAPITAL LETTER INSULAR S",
   "a785 LATIN |SMALL LETTER INSULAR S|CAPITAL LETTER INSULAR T|SMALL LETTER INSULAR T",
   "a788 MODIFIER LETTER |LOW CIRCUMFLEX ACCENT|COLON|SHORT EQUALS SIGN",
   "a78b LATIN |CAPITAL LETTER SALTILLO|SMALL LETTER SALTILLO",
   "a78d LATIN |CAPITAL LETTER TURNED H|SMALL LETTER L WITH RETROFLEX HOOK AND BELT",
   "a78f LATIN |LETTER SINOLOGICAL DOT|CAPITAL LETTER N WITH DESCENDER",
   "a791 LATIN |SMALL LETTER N WITH DESCENDER|CAPITAL LETTER C WITH BAR",
   "a793 LATIN SMALL LETTER |C WITH BAR|C WITH PALATAL HOOK|H WITH PALATAL HOOK",
   "a796 LATIN |CAPITAL LETTER B WITH FLOURISH|SMALL LETTER B WITH FLOURISH",
   "a798 LATIN |CAPITAL LETTER F WITH STROKE|SMALL LETTER F WITH STROKE|CAPITAL LETTER VOLAPUK AE",
   "a79b LATIN |SMALL LETTER VOLAPUK AE|CAPITAL LETTER VOLAPUK OE",
   "a79d LATIN |SMALL LETTER VOLAPUK OE|CAPITAL LETTER VOLAPUK UE|SMALL LETTER VOLAPUK UE",
   "a7a0 LATIN |CAPITAL LETTER G WITH OBLIQUE STROKE|SMALL LETTER G WITH OBLIQUE STROKE",
   "a7a2 LATIN |CAPITAL LETTER K WITH OBLIQUE STROKE|SMALL LETTER K WITH OBLIQUE STROKE",
   "a7a4 LATIN |CAPITAL LETTER N WITH OBLIQUE STROKE|SMALL LETTER N WITH OBLIQUE STROKE",
   "a7a6 LATIN |CAPITAL LETTER R WITH OBLIQUE STROKE|SMALL LETTER R WITH OBLIQUE STROKE",
   "a7a8 LATIN |CAPITAL LETTER S WITH OBLIQUE STROKE|SMALL LETTER S WITH OBLIQUE STROKE",
   "a7aa LATIN CAPITAL LETTER |H WITH HOOK|REVERSED OPEN E|SCRIPT G|L WITH BELT|SMALL CAPITAL I",
   "a7af |LATIN LETTER SMALL CAPITAL Q",
   "a7b0 LATIN CAPITAL LETTER |TURNED K|TURNED T|J WITH CROSSED-TAIL|CHI|BETA",
   "a7b5 LATIN |SMALL LETTER BETA|CAPITAL LETTER OMEGA",
   "a7b7 LATIN |SMALL LETTER OMEGA|CAPITAL LETTER U WITH STROKE|SMALL LETTER U WITH STROKE",
   "a7ba LATIN |CAPITAL LETTER GLOTTAL A|SMALL LETTER GLOTTAL A|CAPITAL LETTER GLOTTAL I",
   "a7bd LATIN |SMALL LETTER GLOTTAL I|CAPITAL LETTER GLOTTAL U|SMALL LETTER GLOTTAL U",
   "a7c0 LATIN |CAPITAL LETTER OLD POLISH O|SMALL LETTER OLD POLISH O|CAPITAL LETTER ANGLICANA W",
   "a7c3 LATIN |SMALL LETTER ANGLICANA W|CAPITAL LETTER C WITH PALATAL HOOK",
   "a7c5 LATIN CAPITAL LETTER |S WITH HOOK|Z WITH PALATAL HOOK|D WITH SHORT STROKE OVERLAY",
   "a7c8 |LATIN SMALL LETTER D WITH SHORT STROKE OVERLAY",
   "a7c9 |LATIN CAPITAL LETTER S WITH SHORT STROKE OVERLAY",
   "a7ca |LATIN SMALL LETTER S WITH SHORT STROKE OVERLAY",
   "a7d0 LATIN |CAPITAL LETTER CLOSED INSULAR G|SMALL LETTER CLOSED INSULAR G",
   "a7d3 |LATIN SMALL LETTER DOUBLE THORN",
   "a7d5 LATIN |SMALL LETTER DOUBLE WYNN|CAPITAL LETTER MIDDLE SCOTS S",
   "a7d7 LATIN |SMALL LETTER MIDDLE SCOTS S|CAPITAL LETTER SIGMOID S|SMALL LETTER SIGMOID S",
   "a7f2 MODIFIER LETTER CAPITAL |C|F|Q",
   "a7f5 LATIN |CAPITAL LETTER REVERSED HALF H|SMALL LETTER REVERSED HALF H",
   "a7f7 |LATIN EPIGRAPHIC LETTER SIDEWAYS I|MODIFIER LETTER CAPITAL H WITH STROKE",
   "a7f9 |MODIFIER LETTER SMALL LIGATURE OE|LATIN LETTER SMALL CAPITAL TURNED M",
   "a7fb LATIN EPIGRAPHIC LETTER |REVERSED F|REVERSED P|INVERTED M|I LONGA|ARCHAIC M",
   "a800 SYLOTI NAGRI |LETTER A|LETTER I|SIGN DVISVARA|LETTER U|LETTER E|LETTER O|SIGN HASANTA",
   "a807 SYLOTI NAGRI |LETTER KO|LETTER KHO|LETTER GO|LETTER GHO|SIGN ANUSVARA|LETTER CO",
   "a80d SYLOTI NAGRI LETTER |CHO|JO|JHO|TTO|TTHO|DDO|DDHO|TO|THO|DO|DHO|NO|PO|PHO|BO|BHO|MO|RO|LO",
   "a820 SYLOTI NAGRI |LETTER RRO|LETTER SO|LETTER HO|VOWEL SIGN A",
   "a824 SYLOTI NAGRI |VOWEL SIGN I|VOWEL SIGN U|VOWEL SIGN E|VOWEL SIGN OO|POETRY MARK-1",
   "a829 SYLOTI NAGRI |POETRY MARK-2|POETRY MARK-3|POETRY MARK-4|SIGN ALTERNATE HASANTA",
   "a830 NORTH INDIC FRACTION ONE |QUARTER|HALF",
   "a832 NORTH INDIC FRACTION |THREE QUARTERS|ONE SIXTEENTH|ONE EIGHTH|THREE SIXTEENTHS",
   "a836 NORTH INDIC |QUARTER MARK|PLACEHOLDER MARK|RUPEE MARK|QUANTITY MARK",
   "a840 PHAGS-PA LETTER |KA|KHA|GA|NGA|CA|CHA|JA|NYA|TA|THA|DA|NA|PA|PHA|BA|MA|TSA",
   "a851 PHAGS-PA LETTER |TSHA|DZA|WA|ZHA|ZA|SMALL A|YA|RA|LA|SHA|SA|HA|A|I|U|E|O|QA|XA|FA|GGA|EE",
   "a867 PHAGS-PA SUBJOINED LETTER |WA|YA",
   "a869 PHAGS-PA LETTER |TTA|TTHA|DDA|NNA|ALTERNATE YA|VOICELESS SHA|VOICED HA|ASPIRATED FA",
   "a871 PHAGS-PA |SUBJOINED LETTER RA|SUPERFIXED LETTER RA",
   "a873 PHAGS-PA |LETTER CANDRABINDU|SINGLE HEAD MARK|DOUBLE HEAD MARK|MARK SHAD|MARK DOUBLE SHAD",
   "a880 SAURASHTRA SIGN |ANUSVARA|VISARGA",
   "a882 SAURASHTRA LETTER |A|AA|I|II|U|UU|VOCALIC R|VOCALIC RR|VOCALIC L|VOCALIC LL|E|EE|AI|O",
   "a890 SAURASHTRA LETTER |OO|AU|KA|KHA|GA|GHA|NGA|CA|CHA|JA|JHA|NYA|TTA|TTHA|DDA|DDHA|NNA",
   "a8a1 SAURASHTRA LETTER |TA|THA|DA|DHA|NA|PA|PHA|BA|BHA|MA|YA|RA|LA|VA|SHA|SSA|SA|HA|LLA",
   "a8b4 SAURASHTRA |CONSONANT SIGN HAARU|VOWEL SIGN AA|VOWEL SIGN I",
   "a8b7 SAURASHTRA VOWEL SIGN |II|U|UU|VOCALIC R|VOCALIC RR|VOCALIC L|VOCALIC LL|E|EE|AI|O|OO|AU",
   "a8c4 SAURASHTRA SIGN |VIRAMA|CANDRABINDU",
   "a8ce SAURASHTRA |DANDA|DOUBLE DANDA",
   "a8d0 SAURASHTRA DIGIT |ZERO|ONE|TWO|THREE|FOUR|FIVE|SIX|SEVEN|EIGHT|NINE",
   "a8e0 COMBINING DEVANAGARI DIGIT |ZERO|ONE|TWO|THREE|FOUR|FIVE|SIX|SEVEN|EIGHT|NINE",
   "a8ea COMBINING DEVANAGARI LETTER |A|U|KA|NA|PA|RA|VI",
   "a8f1 |COMBINING DEVANAGARI SIGN AVAGRAHA",
   "a8f2 DEVANAGARI SIGN |SPACING CANDRABINDU|CANDRABINDU VIRAMA|DOUBLE CANDRABINDU VIRAMA",
   "a8f5 DEVANAGARI SIGN |CANDRABINDU TWO|CANDRABINDU THREE|CANDRABINDU AVAGRAHA|PUSHPIKA",
   "a8f9 DEVANAGARI |GAP FILLER|CARET|HEADSTROKE|SIGN SIDDHAM|JAIN OM|LETTER AY|VOWEL SIGN AY",
   "a900 KAYAH LI DIGIT |ZERO|ONE|TWO|THREE|FOUR|FIVE|SIX|SEVEN|EIGHT|NINE",
   "a90a KAYAH LI LETTER |KA|KHA|GA|NGA|SA|SHA|ZA|NYA|TA|HTA|NA|PA|PHA|MA",
   "a918 KAYAH LI LETTER |DA|BA|RA|YA|LA|WA|THA|HA|VA|CA|A|OE|I|OO",
   "a926 KAYAH LI |VOWEL UE|VOWEL E|VOWEL U|VOWEL EE|VOWEL O|TONE PLOPHU|TONE CALYA",
   "a92d |KAYAH LI TONE CALYA PLOPHU|KAYAH LI SIGN CWI|KAYAH LI SIGN SHYA|REJANG LETTER KA",
   "a931 REJANG LETTER |GA|NGA|TA|DA|NA|PA|BA|MA|CA|JA|NYA|SA|RA|LA|YA|WA|HA|MBA|NGGA|NDA|NYJA|A",
   "a947 REJANG VOWEL SIGN |I|U|E|AI|O|AU|EU|EA",
   "a94f REJANG |CONSONANT SIGN NG|CONSONANT SIGN N|CONSONANT SIGN R|CONSONANT SIGN H|VIRAMA",
   "a95f |REJANG SECTION MARK|HANGUL CHOSEONG TIKEUT-MIEUM",
   "a961 HANGUL CHOSEONG |TIKEUT-PIEUP|TIKEUT-SIOS|TIKEUT-CIEUC|RIEUL-KIYEOK|RIEUL-SSANGKIYEOK",
   "a966 HANGUL CHOSEONG RIEUL-|TIKEUT|SSANGTIKEUT|MIEUM|PIEUP|SSANGPIEUP|KAPYEOUNPIEUP|SIOS|CIEUC",
   "a96e HANGUL CHOSEONG |RIEUL-KHIEUKH|MIEUM-KIYEOK|MIEUM-TIKEUT|MIEUM-SIOS|PIEUP-SIOS-THIEUTH",
   "a973 HANGUL CHOSEONG |PIEUP-KHIEUKH|PIEUP-HIEUH|SSANGSIOS-PIEUP|IEUNG-RIEUL|IEUNG-HIEUH",
   "a978 HANGUL CHOSEONG |SSANGCIEUC-HIEUH|SSANGTHIEUTH|PHIEUPH-HIEUH|HIEUH-SIOS|SSANGYEORINHIEUH",
   "a980 JAVANESE SIGN |PANYANGGA|CECAK|LAYAR|WIGNYAN",
   "a984 JAVANESE LETTER |A|I KAWI|I|II|U|PA CEREK|NGA LELET|NGA LELET RASWADI|E|AI|O|KA|KA SASAK",
   "a991 JAVANESE LETTER |KA MURDA|GA|GA MURDA|NGA|CA|CA MURDA|JA|NYA MURDA|JA MAHAPRANA|NYA|TTA",
   "a99c JAVANESE LETTER |TTA MAHAPRANA|DDA|DDA MAHAPRANA|NA MURDA|TA|TA MURDA|DA|DA MAHAPRANA|NA",
   "a9a5 JAVANESE LETTER |PA|PA MURDA|BA|BA MURDA|MA|YA|RA|RA AGUNG|LA|WA|SA MURDA|SA MAHAPRANA|SA",
   "a9b2 JAVANESE |LETTER HA|SIGN CECAK TELU|VOWEL SIGN TARUNG",
   "a9b5 JAVANESE VOWEL SIGN |TOLONG|WULU|WULU MELIK|SUKU|SUKU MENDUT|TALING|DIRGA MURE|PEPET",
   "a9bd JAVANESE CONSONANT SIGN |KERET|PENGKAL|CAKRA",
   "a9c0 JAVANESE |PANGKON|LEFT RERENGGAN|RIGHT RERENGGAN",
   "a9c3 JAVANESE PADA |ANDAP|MADYA|LUHUR|WINDU|PANGKAT|LINGSA|LUNGSI|ADEG|ADEG ADEG|PISELEH",
   "a9cd |JAVANESE TURNED PADA PISELEH",
   "a9cf |JAVANESE PANGRANGKEP",
   "a9d0 JAVANESE DIGIT |ZERO|ONE|TWO|THREE|FOUR|FIVE|SIX|SEVEN|EIGHT|NINE",
   "a9de JAVANESE PADA |TIRTA TUMETES|ISEN-ISEN",
   "a9e0 MYANMAR LETTER SHAN |GHA|CHA|JHA|NNA|BHA",
   "a9e5 MYANMAR |SIGN SHAN SAW|MODIFIER LETTER SHAN REDUPLICATION",
   "a9e7 MYANMAR LETTER TAI LAING |NYA|FA|GA|GHA|JA|JHA|DDA|DDHA|NNA",
   "a9f0 MYANMAR TAI LAING DIGIT |ZERO|ONE|TWO|THREE|FOUR|FIVE|SIX|SEVEN|EIGHT|NINE",
   "a9fa MYANMAR LETTER TAI LAING |LLA|DA|DHA|BA|BHA",
   "aa00 CHAM LETTER |A|I|U|E|AI|O|KA|KHA|GA|GHA|NGUE|NGA|CHA|CHHA|JA|JHA|NHUE|NHA|NHJA",
   "aa13 CHAM LETTER |TA|THA|DA|DHA|NUE|NA|DDA|PA|PPA|PHA|BA|BHA|MUE|MA|BBA|YA|RA|LA|VA|SSA|SA|HA",
   "aa29 CHAM VOWEL SIGN |AA|I|II|EI|U|OE|O|AI|AU|UE",
   "aa33 CHAM CONSONANT SIGN |YA|RA|LA|WA",
   "aa40 CHAM |LETTER FINAL K|LETTER FINAL G|LETTER FINAL NG|CONSONANT SIGN FINAL NG",
   "aa44 CHAM LETTER FINAL |CH|T|N|P|Y|R|L|SS",
   "aa4c CHAM CONSONANT SIGN FINAL |M|H",
   "aa50 CHAM DIGIT |ZERO|ONE|TWO|THREE|FOUR|FIVE|SIX|SEVEN|EIGHT|NINE",
   "aa5c CHAM PUNCTUATION |SPIRAL|DANDA|DOUBLE DANDA|TRIPLE DANDA",
   "aa60 MYANMAR LETTER KHAMTI |GA|CA|CHA|JA|JHA|NYA|TTA|TTHA|DDA|DDHA|DHA|NA|SA|HA|HHA|FA",
   "aa70 MYANMAR |MODIFIER LETTER KHAMTI REDUPLICATION|LETTER KHAMTI XA|LETTER KHAMTI ZA",
   "aa73 MYANMAR |LETTER KHAMTI RA|LOGOGRAM KHAMTI OAY|LOGOGRAM KHAMTI QN|LOGOGRAM KHAMTI HM",
   "aa77 MYANMAR SYMBOL AITON |EXCLAMATION|ONE|TWO",
   "aa7a MYANMAR |LETTER AITON RA|SIGN PAO KAREN TONE|SIGN TAI LAING TONE-2|SIGN TAI LAING TONE-5",
   "aa7e |MYANMAR LETTER SHWE PALAUNG CHA|MYANMAR LETTER SHWE PALAUNG SHA|TAI VIET LETTER LOW KO",
   "aa81 TAI VIET LETTER |HIGH KO|LOW KHO|HIGH KHO|LOW KHHO|HIGH KHHO|LOW GO|HIGH GO|LOW NGO",
   "aa89 TAI VIET LETTER |HIGH NGO|LOW CO|HIGH CO|LOW CHO|HIGH CHO|LOW SO|HIGH SO|LOW NYO|HIGH NYO",
   "aa92 TAI VIET LETTER |LOW DO|HIGH DO|LOW TO|HIGH TO|LOW THO|HIGH THO|LOW NO|HIGH NO|LOW BO",
   "aa9b TAI VIET LETTER |HIGH BO|LOW PO|HIGH PO|LOW PHO|HIGH PHO|LOW FO|HIGH FO|LOW MO|HIGH MO",
   "aaa4 TAI VIET LETTER |LOW YO|HIGH YO|LOW RO|HIGH RO|LOW LO|HIGH LO|LOW VO|HIGH VO|LOW HO",
   "aaad TAI VIET |LETTER HIGH HO|LETTER LOW O|LETTER HIGH O|MAI KANG|VOWEL AA|VOWEL I|VOWEL UE",
   "aab4 TAI VIET |VOWEL U|VOWEL E|VOWEL O|MAI KHIT|VOWEL IA|VOWEL UEA|VOWEL UA|VOWEL AUE|VOWEL AY",
   "aabd TAI VIET |VOWEL AN|VOWEL AM|TONE MAI EK|TONE MAI NUENG|TONE MAI THO|TONE MAI SONG",
   "aadb TAI VIET SYMBOL |KON|NUENG|SAM|HO HOI|KOI KOI",
   "aae0 MEETEI MAYEK LETTER |E|O|CHA|NYA|TTA|TTHA|DDA|DDHA|NNA|SHA|SSA",
   "aaeb MEETEI MAYEK VOWEL SIGN |II|UU|AAI|AU|AAU",
   "aaf0 MEETEI MAYEK |CHEIKHAN|AHANG KHUDAM|ANJI",
   "aaf3 MEETEI MAYEK |SYLLABLE REPETITION MARK|WORD REPETITION MARK|VOWEL SIGN VISARGA|VIRAMA",
   "ab01 ETHIOPIC SYLLABLE |TTHU|TTHI|TTHAA|TTHEE|TTHE|TTHO",
   "ab09 ETHIOPIC SYLLABLE |DDHU|DDHI|DDHAA|DDHEE|DDHE|DDHO",
   "ab11 ETHIOPIC SYLLABLE |DZU|DZI|DZAA|DZEE|DZE|DZO",
   "ab20 ETHIOPIC SYLLABLE |CCHHA|CCHHU|CCHHI|CCHHAA|CCHHEE|CCHHE|CCHHO",
   "ab28 ETHIOPIC SYLLABLE |BBA|BBU|BBI|BBAA|BBEE|BBE|BBO",
   "ab30 LATIN SMALL LETTER |BARRED ALPHA|A REVERSED-SCHWA|BLACKLETTER E|BARRED E|E WITH FLOURISH",
   "ab35 LATIN SMALL LETTER |LENIS F|SCRIPT G WITH CROSSED-TAIL|L WITH INVERTED LAZY S",
   "ab38 LATIN SMALL LETTER |L WITH DOUBLE MIDDLE TILDE|L WITH MIDDLE RING|M WITH CROSSED-TAIL",
   "ab3b LATIN SMALL LETTER |N WITH CROSSED-TAIL|ENG WITH CROSSED-TAIL|BLACKLETTER O",
   "ab3e LATIN SMALL LETTER |BLACKLETTER O WITH STROKE|OPEN O WITH STROKE|INVERTED OE",
   "ab41 LATIN SMALL LETTER TURNED OE WITH |STROKE|HORIZONTAL STROKE",
   "ab43 LATIN SMALL LETTER |TURNED O OPEN-O|TURNED O OPEN-O WITH STROKE|STIRRUP R",
   "ab46 LATIN |LETTER SMALL CAPITAL R WITH RIGHT LEG|SMALL LETTER R WITHOUT HANDLE",
   "ab48 LATIN SMALL LETTER |DOUBLE R|R WITH CROSSED-TAIL|DOUBLE R WITH CROSSED-TAIL",
   "ab4b LATIN SMALL LETTER |SCRIPT R|SCRIPT R WITH RING|BASELINE ESH|U WITH SHORT RIGHT LEG",
   "ab4f LATIN SMALL LETTER |U BAR WITH SHORT RIGHT LEG|UI|TURNED UI|U WITH LEFT HOOK|CHI",
   "ab54 LATIN SMALL LETTER |CHI WITH LOW RIGHT RING|CHI WITH LOW LEFT SERIF|X WITH LOW RIGHT RING",
   "ab57 LATIN SMALL LETTER X WITH LONG LEFT |LEG|LEG AND LOW RIGHT RING|LEG WITH SERIF",
   "ab5a |LATIN SMALL LETTER Y WITH SHORT RIGHT LEG|MODIFIER BREVE WITH INVERTED BREVE",
   "ab5c MODIFIER LETTER SMALL |HENG|L WITH INVERTED LAZY S|L WITH MIDDLE TILDE|U WITH LEFT HOOK",
   "ab60 LATIN SMALL LETTER |SAKHA YAT|IOTIFIED E|OPEN OE|UO|INVERTED ALPHA",
   "ab65 |GREEK LETTER SMALL CAPITAL OMEGA|LATIN SMALL LETTER DZ DIGRAPH WITH RETROFLEX HOOK",
   "ab67 LATIN SMALL LETTER |TS DIGRAPH WITH RETROFLEX HOOK|TURNED R WITH MIDDLE TILDE",
   "ab69 MODIFIER LETTER |SMALL TURNED W|LEFT TACK|RIGHT TACK",
   "ab70 CHEROKEE SMALL LETTER |A|E|I|O|U|V|GA|KA|GE|GI|GO|GU|GV|HA|HE|HI|HO|HU|HV|LA|LE|LI",
   "ab86 CHEROKEE SMALL LETTER |LO|LU|LV|MA|ME|MI|MO|MU|NA|HNA|NAH|NE|NI|NO|NU|NV|QUA|QUE|QUI|QUO",
   "ab9a CHEROKEE SMALL LETTER |QUU|QUV|SA|S|SE|SI|SO|SU|SV|DA|TA|DE|TE|DI|TI|DO|DU|DV|DLA|TLA",
   "abae CHEROKEE SMALL LETTER |TLE|TLI|TLO|TLU|TLV|TSA|TSE|TSI|TSO|TSU|TSV|WA|WE|WI|WO|WU|WV|YA",
   "abc0 MEETEI MAYEK LETTER |KOK|SAM|LAI|MIT|PA|NA|CHIL|TIL|KHOU|NGOU|THOU|WAI|YANG|HUK|UN|I|PHAM",
   "abd1 MEETEI MAYEK LETTER |ATIYA|GOK|JHAM|RAI|BA|JIL|DIL|GHOU|DHOU|BHAM|KOK LONSUM|LAI LONSUM",
   "abdd MEETEI MAYEK LETTER |MIT LONSUM|PA LONSUM|NA LONSUM|TIL LONSUM|NGOU LONSUM|I LONSUM",
   "abe3 MEETEI MAYEK VOWEL SIGN |ONAP|INAP|ANAP|YENAP|SOUNAP|UNAP|CHEINAP|NUNG",
   "abeb MEETEI MAYEK |CHEIKHEI|LUM IYEK|APUN IYEK",
   "abf0 MEETEI MAYEK DIGIT |ZERO|ONE|TWO|THREE|FOUR|FIVE|SIX|SEVEN|EIGHT|NINE",
   "d7b0 HANGUL JUNGSEONG |O-YEO|O-O-I|YO-A|YO-AE|YO-EO|U-YEO|U-I-I|YU-AE|YU-O|EU-A|EU-EO",
   "d7bb HANGUL JUNGSEONG |EU-E|EU-O|I-YA-O|I-YAE|I-YEO|I-YE|I-O-I|I-YO|I-YU|I-I|ARAEA-A|ARAEA-E",
   "d7cb HANGUL JONGSEONG |NIEUN-RIEUL|NIEUN-CHIEUCH|SSANGTIKEUT|SSANGTIKEUT-PIEUP",
   "d7cf HANGUL JONGSEONG TIKEUT-|PIEUP|SIOS|SIOS-KIYEOK|CIEUC|CHIEUCH|THIEUTH",
   "d7d5 HANGUL JONGSEONG |RIEUL-SSANGKIYEOK|RIEUL-KIYEOK-HIEUH|SSANGRIEUL-KHIEUKH",
   "d7d8 HANGUL JONGSEONG RIEUL-|MIEUM-HIEUH|PIEUP-TIKEUT|PIEUP-PHIEUPH|YESIEUNG|YEORINHIEUH-HIEUH",
   "d7dd HANGUL JONGSEONG |KAPYEOUNRIEUL|MIEUM-NIEUN|MIEUM-SSANGNIEUN|SSANGMIEUM|MIEUM-PIEUP-SIOS",
   "d7e2 HANGUL JONGSEONG |MIEUM-CIEUC|PIEUP-TIKEUT|PIEUP-RIEUL-PHIEUPH|PIEUP-MIEUM|SSANGPIEUP",
   "d7e7 HANGUL JONGSEONG PIEUP-|SIOS-TIKEUT|CIEUC|CHIEUCH",
   "d7ea HANGUL JONGSEONG |SIOS-MIEUM|SIOS-KAPYEOUNPIEUP|SSANGSIOS-KIYEOK|SSANGSIOS-TIKEUT",
   "d7ee HANGUL JONGSEONG SIOS-|PANSIOS|CIEUC|CHIEUCH|THIEUTH|HIEUH",
   "d7f3 HANGUL JONGSEONG |PANSIOS-PIEUP|PANSIOS-KAPYEOUNPIEUP|YESIEUNG-MIEUM|YESIEUNG-HIEUH",
   "d7f7 HANGUL JONGSEONG |CIEUC-PIEUP|CIEUC-SSANGPIEUP|SSANGCIEUC|PHIEUPH-SIOS|PHIEUPH-THIEUTH",
   "fb00 LATIN SMALL LIGATURE |FF|FI|FL|FFI|FFL|LONG S T|ST",
   "fb13 ARMENIAN SMALL LIGATURE |MEN NOW|MEN ECH|MEN INI|VEW NOW|MEN XEH",
   "fb1d HEBREW |LETTER YOD WITH HIRIQ|POINT JUDEO-SPANISH VARIKA|LIGATURE YIDDISH YOD YOD PATAH",
   "fb20 HEBREW LETTER |ALTERNATIVE AYIN|WIDE ALEF|WIDE DALET|WIDE HE|WIDE KAF|WIDE LAMED",
   "fb26 HEBREW LETTER |WIDE FINAL MEM|WIDE RESH|WIDE TAV|ALTERNATIVE PLUS SIGN",
   "fb2a HEBREW LETTER SHIN WITH |SHIN DOT|SIN DOT|DAGESH AND SHIN DOT|DAGESH AND SIN DOT",
   "fb2e HEBREW LETTER ALEF WITH |PATAH|QAMATS|MAPIQ",
   "fb31 HEBREW LETTER |BET WITH DAGESH|GIMEL WITH DAGESH",
   "fb33 HEBREW LETTER |DALET WITH DAGESH|HE WITH MAPIQ|VAV WITH DAGESH|ZAYIN WITH DAGESH",
   "fb38 |HEBREW LETTER TET WITH DAGESH",
   "fb39 HEBREW LETTER |YOD WITH DAGESH|FINAL KAF WITH DAGESH|KAF WITH DAGESH|LAMED WITH DAGESH",
   "fb3e |HEBREW LETTER MEM WITH DAGESH",
   "fb40 HEBREW LETTER |NUN WITH DAGESH|SAMEKH WITH DAGESH",
   "fb43 HEBREW LETTER |FINAL PE WITH DAGESH|PE WITH DAGESH",
   "fb46 HEBREW LETTER |TSADI WITH DAGESH|QOF WITH DAGESH|RESH WITH DAGESH|SHIN WITH DAGESH",
   "fb4a HEBREW LETTER |TAV WITH DAGESH|VAV WITH HOLAM|BET WITH RAFE|KAF WITH RAFE|PE WITH RAFE",
   "fb4f |HEBREW LIGATURE ALEF LAMED",
   "fb50 ARABIC LETTER ALEF WASLA |ISOLATED FORM|FINAL FORM",
   "fb52 ARABIC LETTER BEEH |ISOLATED FORM|FINAL FORM|INITIAL FORM|MEDIAL FORM",
   "fb56 ARABIC LETTER PEH |ISOLATED FORM|FINAL FORM|INITIAL FORM|MEDIAL FORM",
   "fb5a ARABIC LETTER BEHEH |ISOLATED FORM|FINAL FORM|INITIAL FORM|MEDIAL FORM",
   "fb5e ARABIC LETTER TTEHEH |ISOLATED FORM|FINAL FORM|INITIAL FORM|MEDIAL FORM",
   "fb62 ARABIC LETTER TEHEH |ISOLATED FORM|FINAL FORM|INITIAL FORM|MEDIAL FORM",
   "fb66 ARABIC LETTER TTEH |ISOLATED FORM|FINAL FORM|INITIAL FORM|MEDIAL FORM",
   "fb6a ARABIC LETTER VEH |ISOLATED FORM|FINAL FORM|INITIAL FORM|MEDIAL FORM",
   "fb6e ARABIC LETTER PEHEH |ISOLATED FORM|FINAL FORM|INITIAL FORM|MEDIAL FORM",
   "fb72 ARABIC LETTER DYEH |ISOLATED FORM|FINAL FORM|INITIAL FORM|MEDIAL FORM",
   "fb76 ARABIC LETTER NYEH |ISOLATED FORM|FINAL FORM|INITIAL FORM|MEDIAL FORM",
   "fb7a ARABIC LETTER TCHEH |ISOLATED FORM|FINAL FORM|INITIAL FORM|MEDIAL FORM",
   "fb7e ARABIC LETTER TCHEHEH |ISOLATED FORM|FINAL FORM|INITIAL FORM|MEDIAL FORM",
   "fb82 ARABIC LETTER |DDAHAL ISOLATED FORM|DDAHAL FINAL FORM|DAHAL ISOLATED FORM",
   "fb85 ARABIC LETTER |DAHAL FINAL FORM|DUL ISOLATED FORM|DUL FINAL FORM|DDAL ISOLATED FORM",
   "fb89 ARABIC LETTER |DDAL FINAL FORM|JEH ISOLATED FORM|JEH FINAL FORM|RREH ISOLATED FORM",
   "fb8d ARABIC LETTER |RREH FINAL FORM|KEHEH ISOLATED FORM|KEHEH FINAL FORM|KEHEH INITIAL FORM",
   "fb91 ARABIC LETTER |KEHEH MEDIAL FORM|GAF ISOLATED FORM|GAF FINAL FORM|GAF INITIAL FORM",
   "fb95 ARABIC LETTER |GAF MEDIAL FORM|GUEH ISOLATED FORM|GUEH FINAL FORM|GUEH INITIAL FORM",
   "fb99 ARABIC LETTER |GUEH MEDIAL FORM|NGOEH ISOLATED FORM|NGOEH FINAL FORM|NGOEH INITIAL FORM",
   "fb9d ARABIC LETTER |NGOEH MEDIAL FORM|NOON GHUNNA ISOLATED FORM|NOON GHUNNA FINAL FORM",
   "fba0 ARABIC LETTER RNOON |ISOLATED FORM|FINAL FORM|INITIAL FORM|MEDIAL FORM",
   "fba4 ARABIC LETTER HEH WITH YEH ABOVE |ISOLATED FORM|FINAL FORM",
   "fba6 ARABIC LETTER HEH GOAL |ISOLATED FORM|FINAL FORM|INITIAL FORM|MEDIAL FORM",
   "fbaa ARABIC LETTER HEH DOACHASHMEE |ISOLATED FORM|FINAL FORM|INITIAL FORM|MEDIAL FORM",
   "fbae ARABIC LETTER YEH BARREE |ISOLATED FORM|FINAL FORM",
   "fbb0 ARABIC LETTER YEH BARREE WITH HAMZA ABOVE |ISOLATED FORM|FINAL FORM",
   "fbb2 ARABIC SYMBOL |DOT ABOVE|DOT BELOW|TWO DOTS ABOVE|TWO DOTS BELOW",
   "fbb6 ARABIC SYMBOL THREE DOTS |ABOVE|BELOW|POINTING DOWNWARDS ABOVE|POINTING DOWNWARDS BELOW",
   "fbba ARABIC SYMBOL |FOUR DOTS ABOVE|FOUR DOTS BELOW|DOUBLE VERTICAL BAR BELOW",
   "fbbd ARABIC SYMBOL TWO DOTS VERTICALLY |ABOVE|BELOW",
   "fbbf ARABIC SYMBOL |RING|SMALL TAH ABOVE|SMALL TAH BELOW|WASLA ABOVE",
   "fbd3 ARABIC LETTER NG |ISOLATED FORM|FINAL FORM|INITIAL FORM|MEDIAL FORM",
   "fbd7 ARABIC LETTER |U ISOLATED FORM|U FINAL FORM|OE ISOLATED FORM|OE FINAL FORM",
   "fbdb ARABIC LETTER YU |ISOLATED FORM|FINAL FORM",
   "fbdd ARABIC LETTER |U WITH HAMZA ABOVE ISOLATED FORM|VE ISOLATED FORM|VE FINAL FORM",
   "fbe0 ARABIC LETTER KIRGHIZ |OE ISOLATED FORM|OE FINAL FORM|YU ISOLATED FORM|YU FINAL FORM",
   "fbe4 ARABIC LETTER E |ISOLATED FORM|FINAL FORM|INITIAL FORM|MEDIAL FORM",
   "fbe8 ARABIC LETTER UIGHUR KAZAKH KIRGHIZ ALEF MAKSURA |INITIAL FORM|MEDIAL FORM",
   "fbea ARABIC LIGATURE YEH WITH HAMZA ABOVE WITH ALEF |ISOLATED FORM|FINAL FORM",
   "fbec ARABIC LIGATURE YEH WITH HAMZA ABOVE WITH AE |ISOLATED FORM|FINAL FORM",
   "fbee ARABIC LIGATURE YEH WITH HAMZA ABOVE WITH WAW |ISOLATED FORM|FINAL FORM",
   "fbf0 ARABIC LIGATURE YEH WITH HAMZA ABOVE WITH |U ISOLATED FORM|U FINAL FORM|OE ISOLATED FORM",
   "fbf3 ARABIC LIGATURE YEH WITH HAMZA ABOVE WITH |OE FINAL FORM|YU ISOLATED FORM|YU FINAL FORM",
   "fbf6 ARABIC LIGATURE YEH WITH HAMZA ABOVE WITH E |ISOLATED FORM|FINAL FORM|INITIAL FORM",
   "fbf9 |ARABIC LIGATURE UIGHUR KIRGHIZ YEH WITH HAMZA ABOVE WITH ALEF MAKSURA ISOLATED FORM",
   "fbfa |ARABIC LIGATURE UIGHUR KIRGHIZ YEH WITH HAMZA ABOVE WITH ALEF MAKSURA FINAL FORM",
   "fbfb |ARABIC LIGATURE UIGHUR KIRGHIZ YEH WITH HAMZA ABOVE WITH ALEF MAKSURA INITIAL FORM",
   "fbfc ARABIC LETTER FARSI YEH |ISOLATED FORM|FINAL FORM|INITIAL FORM|MEDIAL FORM",
   "fc00 |ARABIC LIGATURE YEH WITH HAMZA ABOVE WITH JEEM ISOLATED FORM",
   "fc01 ARABIC LIGATURE YEH WITH HAMZA ABOVE WITH |HAH ISOLATED FORM|MEEM ISOLATED FORM",
   "fc03 ARABIC LIGATURE YEH WITH HAMZA ABOVE WITH |ALEF MAKSURA ISOLATED FORM|YEH ISOLATED FORM",
   "fc05 ARABIC LIGATURE BEH WITH |JEEM ISOLATED FORM|HAH ISOLATED FORM|KHAH ISOLATED FORM",
   "fc08 ARABIC LIGATURE BEH WITH |MEEM ISOLATED FORM|ALEF MAKSURA ISOLATED FORM|YEH ISOLATED FORM",
   "fc0b ARABIC LIGATURE TEH WITH |JEEM ISOLATED FORM|HAH ISOLATED FORM|KHAH ISOLATED FORM",
   "fc0e ARABIC LIGATURE TEH WITH |MEEM ISOLATED FORM|ALEF MAKSURA ISOLATED FORM|YEH ISOLATED FORM",
   "fc11 ARABIC LIGATURE THEH WITH |JEEM ISOLATED FORM|MEEM ISOLATED FORM",
   "fc13 ARABIC LIGATURE THEH WITH |ALEF MAKSURA ISOLATED FORM|YEH ISOLATED FORM",
   "fc15 ARABIC LIGATURE JEEM WITH |HAH ISOLATED FORM|MEEM ISOLATED FORM",
   "fc17 ARABIC LIGATURE HAH WITH |JEEM ISOLATED FORM|MEEM ISOLATED FORM",
   "fc19 ARABIC LIGATURE KHAH WITH |JEEM ISOLATED FORM|HAH ISOLATED FORM|MEEM ISOLATED FORM",
   "fc1c ARABIC LIGATURE SEEN WITH |JEEM ISOLATED FORM|HAH ISOLATED FORM|KHAH ISOLATED FORM",
   "fc1f |ARABIC LIGATURE SEEN WITH MEEM ISOLATED FORM",
   "fc20 ARABIC LIGATURE SAD WITH |HAH ISOLATED FORM|MEEM ISOLATED FORM",
   "fc22 ARABIC LIGATURE DAD WITH |JEEM ISOLATED FORM|HAH ISOLATED FORM|KHAH ISOLATED FORM",
   "fc25 ARABIC LIGATURE |DAD WITH MEEM ISOLATED FORM|TAH WITH HAH ISOLATED FORM",
   "fc27 ARABIC LIGATURE |TAH WITH MEEM ISOLATED FORM|ZAH WITH MEEM ISOLATED FORM",
   "fc29 ARABIC LIGATURE AIN WITH |JEEM ISOLATED FORM|MEEM ISOLATED FORM",
   "fc2b ARABIC LIGATURE GHAIN WITH |JEEM ISOLATED FORM|MEEM ISOLATED FORM",
   "fc2d ARABIC LIGATURE FEH WITH |JEEM ISOLATED FORM|HAH ISOLATED FORM|KHAH ISOLATED FORM",
   "fc30 ARABIC LIGATURE FEH WITH |MEEM ISOLATED FORM|ALEF MAKSURA ISOLATED FORM|YEH ISOLATED FORM",
   "fc33 |ARABIC LIGATURE QAF WITH HAH ISOLATED FORM",
   "fc34 ARABIC LIGATURE QAF WITH |MEEM ISOLATED FORM|ALEF MAKSURA ISOLATED FORM|YEH ISOLATED FORM",
   "fc37 ARABIC LIGATURE KAF WITH |ALEF ISOLATED FORM|JEEM ISOLATED FORM",
   "fc39 ARABIC LIGATURE KAF WITH |HAH ISOLATED FORM|KHAH ISOLATED FORM|LAM ISOLATED FORM",
   "fc3c ARABIC LIGATURE KAF WITH |MEEM ISOLATED FORM|ALEF MAKSURA ISOLATED FORM|YEH ISOLATED FORM",
   "fc3f ARABIC LIGATURE LAM WITH |JEEM ISOLATED FORM|HAH ISOLATED FORM|KHAH ISOLATED FORM",
   "fc42 ARABIC LIGATURE LAM WITH |MEEM ISOLATED FORM|ALEF MAKSURA ISOLATED FORM|YEH ISOLATED FORM",
   "fc45 |ARABIC LIGATURE MEEM WITH JEEM ISOLATED FORM",
   "fc46 ARABIC LIGATURE MEEM WITH |HAH ISOLATED FORM|KHAH ISOLATED FORM|MEEM ISOLATED FORM",
   "fc49 ARABIC LIGATURE MEEM WITH |ALEF MAKSURA ISOLATED FORM|YEH ISOLATED FORM",
   "fc4b ARABIC LIGATURE NOON WITH |JEEM ISOLATED FORM|HAH ISOLATED FORM|KHAH ISOLATED FORM",
   "fc4e ARABIC LIGATURE NOON WITH |MEEM ISOLATED FORM|ALEF MAKSURA ISOLATED FORM",
   "fc50 ARABIC LIGATURE |NOON WITH YEH ISOLATED FORM|HEH WITH JEEM ISOLATED FORM",
   "fc52 ARABIC LIGATURE HEH WITH |MEEM ISOLATED FORM|ALEF MAKSURA ISOLATED FORM|YEH ISOLATED FORM",
   "fc55 ARABIC LIGATURE YEH WITH |JEEM ISOLATED FORM|HAH ISOLATED FORM|KHAH ISOLATED FORM",
   "fc58 ARABIC LIGATURE YEH WITH |MEEM ISOLATED FORM|ALEF MAKSURA ISOLATED FORM|YEH ISOLATED FORM",
   "fc5b |ARABIC LIGATURE THAL WITH SUPERSCRIPT ALEF ISOLATED FORM",
   "fc5c |ARABIC LIGATURE REH WITH SUPERSCRIPT ALEF ISOLATED FORM",
   "fc5d |ARABIC LIGATURE ALEF MAKSURA WITH SUPERSCRIPT ALEF ISOLATED FORM",
   "fc5e ARABIC LIGATURE SHADDA WITH |DAMMATAN ISOLATED FORM|KASRATAN ISOLATED FORM",
   "fc60 ARABIC LIGATURE SHADDA WITH |FATHA ISOLATED FORM|DAMMA ISOLATED FORM",
   "fc62 ARABIC LIGATURE SHADDA WITH |KASRA ISOLATED FORM|SUPERSCRIPT ALEF ISOLATED FORM",
   "fc64 ARABIC LIGATURE YEH WITH HAMZA ABOVE WITH |REH FINAL FORM|ZAIN FINAL FORM",
   "fc66 ARABIC LIGATURE YEH WITH HAMZA ABOVE WITH |MEEM FINAL FORM|NOON FINAL FORM",
   "fc68 ARABIC LIGATURE YEH WITH HAMZA ABOVE WITH |ALEF MAKSURA FINAL FORM|YEH FINAL FORM",
   "fc6a ARABIC LIGATURE BEH WITH |REH FINAL FORM|ZAIN FINAL FORM|MEEM FINAL FORM",
   "fc6d ARABIC LIGATURE BEH WITH |NOON FINAL FORM|ALEF MAKSURA FINAL FORM|YEH FINAL FORM",
   "fc70 ARABIC LIGATURE TEH WITH |REH FINAL FORM|ZAIN FINAL FORM|MEEM FINAL FORM",
   "fc73 ARABIC LIGATURE TEH WITH |NOON FINAL FORM|ALEF MAKSURA FINAL FORM|YEH FINAL FORM",
   "fc76 ARABIC LIGATURE THEH WITH |REH FINAL FORM|ZAIN FINAL FORM|MEEM FINAL FORM|NOON FINAL FORM",
   "fc7a ARABIC LIGATURE THEH WITH |ALEF MAKSURA FINAL FORM|YEH FINAL FORM",
   "fc7c ARABIC LIGATURE FEH WITH |ALEF MAKSURA FINAL FORM|YEH FINAL FORM",
   "fc7e ARABIC LIGATURE QAF WITH |ALEF MAKSURA FINAL FORM|YEH FINAL FORM",
   "fc80 ARABIC LIGATURE KAF WITH |ALEF FINAL FORM|LAM FINAL FORM",
   "fc82 ARABIC LIGATURE KAF WITH |MEEM FINAL FORM|ALEF MAKSURA FINAL FORM|YEH FINAL FORM",
   "fc85 ARABIC LIGATURE LAM WITH |MEEM FINAL FORM|ALEF MAKSURA FINAL FORM|YEH FINAL FORM",
   "fc88 ARABIC LIGATURE MEEM WITH |ALEF FINAL FORM|MEEM FINAL FORM",
   "fc8a ARABIC LIGATURE NOON WITH |REH FINAL FORM|ZAIN FINAL FORM|MEEM FINAL FORM|NOON FINAL FORM",
   "fc8e ARABIC LIGATURE NOON WITH |ALEF MAKSURA FINAL FORM|YEH FINAL FORM",
   "fc90 |ARABIC LIGATURE ALEF MAKSURA WITH SUPERSCRIPT ALEF FINAL FORM",
   "fc91 ARABIC LIGATURE YEH WITH |REH FINAL FORM|ZAIN FINAL FORM|MEEM FINAL FORM",
   "fc94 ARABIC LIGATURE YEH WITH |NOON FINAL FORM|ALEF MAKSURA FINAL FORM|YEH FINAL FORM",
   "fc97 ARABIC LIGATURE YEH WITH HAMZA ABOVE WITH |JEEM INITIAL FORM|HAH INITIAL FORM",
   "fc99 ARABIC LIGATURE YEH WITH HAMZA ABOVE WITH |KHAH INITIAL FORM|MEEM INITIAL FORM",
   "fc9b ARABIC LIGATURE |YEH WITH HAMZA ABOVE WITH HEH INITIAL FORM|BEH WITH JEEM INITIAL FORM",
   "fc9d ARABIC LIGATURE BEH WITH |HAH INITIAL FORM|KHAH INITIAL FORM|MEEM INITIAL FORM",
   "fca0 ARABIC LIGATURE |BEH WITH HEH INITIAL FORM|TEH WITH JEEM INITIAL FORM",
   "fca2 ARABIC LIGATURE TEH WITH |HAH INITIAL FORM|KHAH INITIAL FORM|MEEM INITIAL FORM",
   "fca5 ARABIC LIGATURE |TEH WITH HEH INITIAL FORM|THEH WITH MEEM INITIAL FORM",
   "fca7 ARABIC LIGATURE JEEM WITH |HAH INITIAL FORM|MEEM INITIAL FORM",
   "fca9 ARABIC LIGATURE HAH WITH |JEEM INITIAL FORM|MEEM INITIAL FORM",
   "fcab ARABIC LIGATURE KHAH WITH |JEEM INITIAL FORM|MEEM INITIAL FORM",
   "fcad ARABIC LIGATURE SEEN WITH |JEEM INITIAL FORM|HAH INITIAL FORM",
   "fcaf ARABIC LIGATURE SEEN WITH |KHAH INITIAL FORM|MEEM INITIAL FORM",
   "fcb1 ARABIC LIGATURE SAD WITH |HAH INITIAL FORM|KHAH INITIAL FORM|MEEM INITIAL FORM",
   "fcb4 ARABIC LIGATURE DAD WITH |JEEM INITIAL FORM|HAH INITIAL FORM|KHAH INITIAL FORM",
   "fcb7 ARABIC LIGATURE |DAD WITH MEEM INITIAL FORM|TAH WITH HAH INITIAL FORM",
   "fcb9 ARABIC LIGATURE |ZAH WITH MEEM INITIAL FORM|AIN WITH JEEM INITIAL FORM",
   "fcbb ARABIC LIGATURE |AIN WITH MEEM INITIAL FORM|GHAIN WITH JEEM INITIAL FORM",
   "fcbd ARABIC LIGATURE |GHAIN WITH MEEM INITIAL FORM|FEH WITH JEEM INITIAL FORM",
   "fcbf ARABIC LIGATURE FEH WITH |HAH INITIAL FORM|KHAH INITIAL FORM|MEEM INITIAL FORM",
   "fcc2 ARABIC LIGATURE QAF WITH |HAH INITIAL FORM|MEEM INITIAL FORM",
   "fcc4 ARABIC LIGATURE KAF WITH |JEEM INITIAL FORM|HAH INITIAL FORM",
   "fcc6 ARABIC LIGATURE KAF WITH |KHAH INITIAL FORM|LAM INITIAL FORM|MEEM INITIAL FORM",
   "fcc9 ARABIC LIGATURE LAM WITH |JEEM INITIAL FORM|HAH INITIAL FORM",
   "fccb ARABIC LIGATURE LAM WITH |KHAH INITIAL FORM|MEEM INITIAL FORM|HEH INITIAL FORM",
   "fcce ARABIC LIGATURE MEEM WITH |JEEM INITIAL FORM|HAH INITIAL FORM|KHAH INITIAL FORM",
   "fcd1 ARABIC LIGATURE |MEEM WITH MEEM INITIAL FORM|NOON WITH JEEM INITIAL FORM",
   "fcd3 ARABIC LIGATURE NOON WITH |HAH INITIAL FORM|KHAH INITIAL FORM|MEEM INITIAL FORM",
   "fcd6 ARABIC LIGATURE |NOON WITH HEH INITIAL FORM|HEH WITH JEEM INITIAL FORM",
   "fcd8 ARABIC LIGATURE HEH WITH |MEEM INITIAL FORM|SUPERSCRIPT ALEF INITIAL FORM",
   "fcda ARABIC LIGATURE YEH WITH |JEEM INITIAL FORM|HAH INITIAL FORM",
   "fcdc ARABIC LIGATURE YEH WITH |KHAH INITIAL FORM|MEEM INITIAL FORM|HEH INITIAL FORM",
   "fcdf ARABIC LIGATURE YEH WITH HAMZA ABOVE WITH |MEEM MEDIAL FORM|HEH MEDIAL FORM",
   "fce1 ARABIC LIGATURE BEH WITH |MEEM MEDIAL FORM|HEH MEDIAL FORM",
   "fce3 ARABIC LIGATURE TEH WITH |MEEM MEDIAL FORM|HEH MEDIAL FORM",
   "fce5 ARABIC LIGATURE THEH WITH |MEEM MEDIAL FORM|HEH MEDIAL FORM",
   "fce7 ARABIC LIGATURE SEEN WITH |MEEM MEDIAL FORM|HEH MEDIAL FORM",
   "fce9 ARABIC LIGATURE SHEEN WITH |MEEM MEDIAL FORM|HEH MEDIAL FORM",
   "fceb ARABIC LIGATURE KAF WITH |LAM MEDIAL FORM|MEEM MEDIAL FORM",
   "fced |ARABIC LIGATURE LAM WITH MEEM MEDIAL FORM",
   "fcee ARABIC LIGATURE NOON WITH |MEEM MEDIAL FORM|HEH MEDIAL FORM",
   "fcf0 ARABIC LIGATURE YEH WITH |MEEM MEDIAL FORM|HEH MEDIAL FORM",
   "fcf2 ARABIC LIGATURE SHADDA WITH |FATHA MEDIAL FORM|DAMMA MEDIAL FORM|KASRA MEDIAL FORM",
   "fcf5 ARABIC LIGATURE TAH WITH |ALEF MAKSURA ISOLATED FORM|YEH ISOLATED FORM",
   "fcf7 ARABIC LIGATURE AIN WITH |ALEF MAKSURA ISOLATED FORM|YEH ISOLATED FORM",
   "fcf9 ARABIC LIGATURE GHAIN WITH |ALEF MAKSURA ISOLATED FORM|YEH ISOLATED FORM",
   "fcfb ARABIC LIGATURE SEEN WITH |ALEF MAKSURA ISOLATED FORM|YEH ISOLATED FORM",
   "fcfd ARABIC LIGATURE SHEEN WITH |ALEF MAKSURA ISOLATED FORM|YEH ISOLATED FORM",
   "fcff ARABIC LIGATURE HAH WITH |ALEF MAKSURA ISOLATED FORM|YEH ISOLATED FORM",
   "fd01 ARABIC LIGATURE JEEM WITH |ALEF MAKSURA ISOLATED FORM|YEH ISOLATED FORM",
   "fd03 ARABIC LIGATURE KHAH WITH |ALEF MAKSURA ISOLATED FORM|YEH ISOLATED FORM",
   "fd05 ARABIC LIGATURE SAD WITH |ALEF MAKSURA ISOLATED FORM|YEH ISOLATED FORM",
   "fd07 ARABIC LIGATURE DAD WITH |ALEF MAKSURA ISOLATED FORM|YEH ISOLATED FORM",
   "fd09 ARABIC LIGATURE SHEEN WITH |JEEM ISOLATED FORM|HAH ISOLATED FORM",
   "fd0b ARABIC LIGATURE SHEEN WITH |KHAH ISOLATED FORM|MEEM ISOLATED FORM|REH ISOLATED FORM",
   "fd0e ARABIC LIGATURE |SEEN WITH REH ISOLATED FORM|SAD WITH REH ISOLATED FORM",
   "fd10 ARABIC LIGATURE |DAD WITH REH ISOLATED FORM|TAH WITH ALEF MAKSURA FINAL FORM",
   "fd12 ARABIC LIGATURE |TAH WITH YEH FINAL FORM|AIN WITH ALEF MAKSURA FINAL FORM",
   "fd14 ARABIC LIGATURE |AIN WITH YEH FINAL FORM|GHAIN WITH ALEF MAKSURA FINAL FORM",
   "fd16 ARABIC LIGATURE |GHAIN WITH YEH FINAL FORM|SEEN WITH ALEF MAKSURA FINAL FORM",
   "fd18 ARABIC LIGATURE |SEEN WITH YEH FINAL FORM|SHEEN WITH ALEF MAKSURA FINAL FORM",
   "fd1a ARABIC LIGATURE |SHEEN WITH YEH FINAL FORM|HAH WITH ALEF MAKSURA FINAL FORM",
   "fd1c ARABIC LIGATURE |HAH WITH YEH FINAL FORM|JEEM WITH ALEF MAKSURA FINAL FORM",
   "fd1e ARABIC LIGATURE |JEEM WITH YEH FINAL FORM|KHAH WITH ALEF MAKSURA FINAL FORM",
   "fd20 ARABIC LIGATURE |KHAH WITH YEH FINAL FORM|SAD WITH ALEF MAKSURA FINAL FORM",
   "fd22 ARABIC LIGATURE |SAD WITH YEH FINAL FORM|DAD WITH ALEF MAKSURA FINAL FORM",
   "fd24 ARABIC LIGATURE |DAD WITH YEH FINAL FORM|SHEEN WITH JEEM FINAL FORM",
   "fd26 ARABIC LIGATURE SHEEN WITH |HAH FINAL FORM|KHAH FINAL FORM|MEEM FINAL FORM|REH FINAL FORM",
   "fd2a ARABIC LIGATURE |SEEN WITH REH FINAL FORM|SAD WITH REH FINAL FORM|DAD WITH REH FINAL FORM",
   "fd2d ARABIC LIGATURE SHEEN WITH |JEEM INITIAL FORM|HAH INITIAL FORM|KHAH INITIAL FORM",
   "fd30 ARABIC LIGATURE |SHEEN WITH MEEM INITIAL FORM|SEEN WITH HEH INITIAL FORM",
   "fd32 ARABIC LIGATURE |SHEEN WITH HEH INITIAL FORM|TAH WITH MEEM INITIAL FORM",
   "fd34 ARABIC LIGATURE SEEN WITH |JEEM MEDIAL FORM|HAH MEDIAL FORM|KHAH MEDIAL FORM",
   "fd37 ARABIC LIGATURE SHEEN WITH |JEEM MEDIAL FORM|HAH MEDIAL FORM|KHAH MEDIAL FORM",
   "fd3a ARABIC LIGATURE |TAH WITH MEEM MEDIAL FORM|ZAH WITH MEEM MEDIAL FORM",
   "fd3c ARABIC LIGATURE ALEF WITH FATHATAN |FINAL FORM|ISOLATED FORM",
   "fd3e |ORNATE LEFT PARENTHESIS|ORNATE RIGHT PARENTHESIS|ARABIC LIGATURE RAHIMAHU ALLAAH",
   "fd41 ARABIC LIGATURE RADI ALLAAHU |ANH|ANHAA|ANHUM|ANHUMAA|ANHUNNA",
   "fd46 ARABIC LIGATURE |SALLALLAAHU ALAYHI WA-AALIH|ALAYHI AS-SALAAM",
   "fd48 ARABIC LIGATURE |ALAYHIM AS-SALAAM|ALAYHIMAA AS-SALAAM|ALAYHI AS-SALAATU WAS-SALAAM",
   "fd4b ARABIC LIGATURE |QUDDISA SIRRAH|SALLALLAHU ALAYHI WAAALIHEE WA-SALLAM",
   "fd4d ARABIC LIGATURE |ALAYHAA AS-SALAAM|TABAARAKA WA-TAAALAA",
   "fd4f ARABIC LIGATURE |RAHIMAHUM ALLAAH|TEH WITH JEEM WITH MEEM INITIAL FORM",
   "fd51 ARABIC LIGATURE TEH WITH HAH WITH |JEEM FINAL FORM|JEEM INITIAL FORM|MEEM INITIAL FORM",
   "fd54 |ARABIC LIGATURE TEH WITH KHAH WITH MEEM INITIAL FORM",
   "fd55 ARABIC LIGATURE TEH WITH MEEM WITH |JEEM INITIAL FORM|HAH INITIAL FORM|KHAH INITIAL FORM",
   "fd58 ARABIC LIGATURE JEEM WITH MEEM WITH HAH |FINAL FORM|INITIAL FORM",
   "fd5a ARABIC LIGATURE HAH WITH MEEM WITH |YEH FINAL FORM|ALEF MAKSURA FINAL FORM",
   "fd5c ARABIC LIGATURE SEEN WITH |HAH WITH JEEM INITIAL FORM|JEEM WITH HAH INITIAL FORM",
   "fd5e ARABIC LIGATURE SEEN WITH |JEEM WITH ALEF MAKSURA FINAL FORM|MEEM WITH HAH FINAL FORM",
   "fd60 ARABIC LIGATURE SEEN WITH MEEM WITH |HAH INITIAL FORM|JEEM INITIAL FORM|MEEM FINAL FORM",
   "fd63 ARABIC LIGATURE |SEEN WITH MEEM WITH MEEM INITIAL FORM|SAD WITH HAH WITH HAH FINAL FORM",
   "fd65 ARABIC LIGATURE SAD WITH |HAH WITH HAH INITIAL FORM|MEEM WITH MEEM FINAL FORM",
   "fd67 ARABIC LIGATURE SHEEN WITH HAH WITH MEEM |FINAL FORM|INITIAL FORM",
   "fd69 ARABIC LIGATURE SHEEN WITH |JEEM WITH YEH FINAL FORM|MEEM WITH KHAH FINAL FORM",
   "fd6b ARABIC LIGATURE SHEEN WITH MEEM WITH |KHAH INITIAL FORM|MEEM FINAL FORM|MEEM INITIAL FORM",
   "fd6e ARABIC LIGATURE DAD WITH |HAH WITH ALEF MAKSURA FINAL FORM|KHAH WITH MEEM FINAL FORM",
   "fd70 ARABIC LIGATURE |DAD WITH KHAH WITH MEEM INITIAL FORM|TAH WITH MEEM WITH HAH FINAL FORM",
   "fd72 ARABIC LIGATURE TAH WITH MEEM WITH |HAH INITIAL FORM|MEEM INITIAL FORM|YEH FINAL FORM",
   "fd75 ARABIC LIGATURE AIN WITH |JEEM WITH MEEM FINAL FORM|MEEM WITH MEEM FINAL FORM",
   "fd77 ARABIC LIGATURE AIN WITH MEEM WITH |MEEM INITIAL FORM|ALEF MAKSURA FINAL FORM",
   "fd79 |ARABIC LIGATURE GHAIN WITH MEEM WITH MEEM FINAL FORM",
   "fd7a ARABIC LIGATURE GHAIN WITH MEEM WITH |YEH FINAL FORM|ALEF MAKSURA FINAL FORM",
   "fd7c ARABIC LIGATURE FEH WITH KHAH WITH MEEM |FINAL FORM|INITIAL FORM",
   "fd7e ARABIC LIGATURE QAF WITH MEEM WITH |HAH FINAL FORM|MEEM FINAL FORM",
   "fd80 ARABIC LIGATURE LAM WITH HAH WITH |MEEM FINAL FORM|YEH FINAL FORM|ALEF MAKSURA FINAL FORM",
   "fd83 ARABIC LIGATURE LAM WITH JEEM WITH JEEM |INITIAL FORM|FINAL FORM",
   "fd85 ARABIC LIGATURE LAM WITH KHAH WITH MEEM |FINAL FORM|INITIAL FORM",
   "fd87 ARABIC LIGATURE LAM WITH MEEM WITH HAH |FINAL FORM|INITIAL FORM",
   "fd89 ARABIC LIGATURE MEEM WITH HAH WITH |JEEM INITIAL FORM|MEEM INITIAL FORM|YEH FINAL FORM",
   "fd8c ARABIC LIGATURE MEEM WITH JEEM WITH |HAH INITIAL FORM|MEEM INITIAL FORM",
   "fd8e ARABIC LIGATURE MEEM WITH KHAH WITH |JEEM INITIAL FORM|MEEM INITIAL FORM",
   "fd92 |ARABIC LIGATURE MEEM WITH JEEM WITH KHAH INITIAL FORM",
   "fd93 ARABIC LIGATURE HEH WITH MEEM WITH |JEEM INITIAL FORM|MEEM INITIAL FORM",
   "fd95 ARABIC LIGATURE NOON WITH HAH WITH |MEEM INITIAL FORM|ALEF MAKSURA FINAL FORM",
   "fd97 ARABIC LIGATURE NOON WITH JEEM WITH MEEM |FINAL FORM|INITIAL FORM",
   "fd99 |ARABIC LIGATURE NOON WITH JEEM WITH ALEF MAKSURA FINAL FORM",
   "fd9a ARABIC LIGATURE NOON WITH MEEM WITH |YEH FINAL FORM|ALEF MAKSURA FINAL FORM",
   "fd9c ARABIC LIGATURE YEH WITH MEEM WITH MEEM |FINAL FORM|INITIAL FORM",
   "fd9e |ARABIC LIGATURE BEH WITH KHAH WITH YEH FINAL FORM",
   "fd9f ARABIC LIGATURE TEH WITH JEEM WITH |YEH FINAL FORM|ALEF MAKSURA FINAL FORM",
   "fda1 ARABIC LIGATURE TEH WITH KHAH WITH |YEH FINAL FORM|ALEF MAKSURA FINAL FORM",
   "fda3 ARABIC LIGATURE TEH WITH MEEM WITH |YEH FINAL FORM|ALEF MAKSURA FINAL FORM",
   "fda5 ARABIC LIGATURE JEEM WITH |MEEM WITH YEH FINAL FORM|HAH WITH ALEF MAKSURA FINAL FORM",
   "fda7 |ARABIC LIGATURE JEEM WITH MEEM WITH ALEF MAKSURA FINAL FORM",
   "fda8 |ARABIC LIGATURE SEEN WITH KHAH WITH ALEF MAKSURA FINAL FORM",
   "fda9 |ARABIC LIGATURE SAD WITH HAH WITH YEH FINAL FORM",
   "fdaa ARABIC LIGATURE |SHEEN WITH HAH WITH YEH FINAL FORM|DAD WITH HAH WITH YEH FINAL FORM",
   "fdac ARABIC LIGATURE LAM WITH |JEEM WITH YEH FINAL FORM|MEEM WITH YEH FINAL FORM",
   "fdae ARABIC LIGATURE YEH WITH |HAH WITH YEH FINAL FORM|JEEM WITH YEH FINAL FORM",
   "fdb0 ARABIC LIGATURE |YEH WITH MEEM WITH YEH FINAL FORM|MEEM WITH MEEM WITH YEH FINAL FORM",
   "fdb2 ARABIC LIGATURE |QAF WITH MEEM WITH YEH FINAL FORM|NOON WITH HAH WITH YEH FINAL FORM",
   "fdb4 ARABIC LIGATURE |QAF WITH MEEM WITH HAH INITIAL FORM|LAM WITH HAH WITH MEEM INITIAL FORM",
   "fdb6 ARABIC LIGATURE |AIN WITH MEEM WITH YEH FINAL FORM|KAF WITH MEEM WITH YEH FINAL FORM",
   "fdb8 ARABIC LIGATURE |NOON WITH JEEM WITH HAH INITIAL FORM|MEEM WITH KHAH WITH YEH FINAL FORM",
   "fdba ARABIC LIGATURE |LAM WITH JEEM WITH MEEM INITIAL FORM|KAF WITH MEEM WITH MEEM FINAL FORM",
   "fdbc ARABIC LIGATURE |LAM WITH JEEM WITH MEEM FINAL FORM|NOON WITH JEEM WITH HAH FINAL FORM",
   "fdbe ARABIC LIGATURE |JEEM WITH HAH WITH YEH FINAL FORM|HAH WITH JEEM WITH YEH FINAL FORM",
   "fdc0 ARABIC LIGATURE |MEEM WITH JEEM WITH YEH FINAL FORM|FEH WITH MEEM WITH YEH FINAL FORM",
   "fdc2 ARABIC LIGATURE |BEH WITH HAH WITH YEH FINAL FORM|KAF WITH MEEM WITH MEEM INITIAL FORM",
   "fdc4 |ARABIC LIGATURE AIN WITH JEEM WITH MEEM INITIAL FORM",
   "fdc5 ARABIC LIGATURE |SAD WITH MEEM WITH MEEM INITIAL FORM|SEEN WITH KHAH WITH YEH FINAL FORM",
   "fdc7 |ARABIC LIGATURE NOON WITH JEEM WITH YEH FINAL FORM",
   "fdcf |ARABIC LIGATURE SALAAMUHU ALAYNAA",
   "fdf0 |ARABIC LIGATURE SALLA USED AS KORANIC STOP SIGN ISOLATED FORM",
   "fdf1 ARABIC LIGATURE |QALA USED AS KORANIC STOP SIGN ISOLATED FORM|ALLAH ISOLATED FORM",
   "fdf3 ARABIC LIGATURE |AKBAR ISOLATED FORM|MOHAMMAD ISOLATED FORM|SALAM ISOLATED FORM",
   "fdf6 ARABIC LIGATURE |RASOUL ISOLATED FORM|ALAYHE ISOLATED FORM|WASALLAM ISOLATED FORM",
   "fdf9 ARABIC LIGATURE |SALLA ISOLATED FORM|SALLALLAHOU ALAYHE WASALLAM|JALLAJALALOUHOU",
   "fdfc |RIAL SIGN",
   "fdfd ARABIC LIGATURE |BISMILLAH AR-RAHMAN AR-RAHEEM|SUBHAANAHU WA TAAALAA|AZZA WA JALL",
   "fe00 VARIATION SELECTOR-|1|2|3|4|5|6|7|8|9|10|11|12|13|14|15|16",
   "fe10 PRESENTATION FORM FOR VERTICAL |COMMA|IDEOGRAPHIC COMMA",
   "fe12 PRESENTATION FORM FOR VERTICAL |IDEOGRAPHIC FULL STOP|COLON|SEMICOLON|EXCLAMATION MARK",
   "fe16 PRESENTATION FORM FOR VERTICAL |QUESTION MARK|LEFT WHITE LENTICULAR BRACKET",
   "fe18 PRESENTATION FORM FOR VERTICAL |RIGHT WHITE LENTICULAR BRAKCET|HORIZONTAL ELLIPSIS",
   "fe20 COMBINING |LIGATURE LEFT HALF|LIGATURE RIGHT HALF|DOUBLE TILDE LEFT HALF",
   "fe23 COMBINING |DOUBLE TILDE RIGHT HALF|MACRON LEFT HALF|MACRON RIGHT HALF|CONJOINING MACRON",
   "fe27 COMBINING |LIGATURE LEFT HALF BELOW|LIGATURE RIGHT HALF BELOW|TILDE LEFT HALF BELOW",
   "fe2a COMBINING |TILDE RIGHT HALF BELOW|MACRON LEFT HALF BELOW|MACRON RIGHT HALF BELOW",
   "fe2d COMBINING |CONJOINING MACRON BELOW|CYRILLIC TITLO LEFT HALF|CYRILLIC TITLO RIGHT HALF",
   "fe30 PRESENTATION FORM FOR VERTICAL |TWO DOT LEADER|EM DASH|EN DASH|LOW LINE|WAVY LOW LINE",
   "fe35 |PRESENTATION FORM FOR VERTICAL LEFT PARENTHESIS",
   "fe36 PRESENTATION FORM FOR VERTICAL |RIGHT PARENTHESIS|LEFT CURLY BRACKET|RIGHT CURLY BRACKET",
   "fe39 PRESENTATION FORM FOR VERTICAL |LEFT TORTOISE SHELL BRACKET|RIGHT TORTOISE SHELL BRACKET",
   "fe3b |PRESENTATION FORM FOR VERTICAL LEFT BLACK LENTICULAR BRACKET",
   "fe3c PRESENTATION FORM FOR VERTICAL |RIGHT BLACK LENTICULAR BRACKET|LEFT DOUBLE ANGLE BRACKET",
   "fe3e PRESENTATION FORM FOR VERTICAL |RIGHT DOUBLE ANGLE BRACKET|LEFT ANGLE BRACKET",
   "fe40 PRESENTATION FORM FOR VERTICAL |RIGHT ANGLE BRACKET|LEFT CORNER BRACKET",
   "fe42 PRESENTATION FORM FOR VERTICAL |RIGHT CORNER BRACKET|LEFT WHITE CORNER BRACKET",
   "fe44 |PRESENTATION FORM FOR VERTICAL RIGHT WHITE CORNER BRACKET|SESAME DOT|WHITE SESAME DOT",
   "fe47 PRESENTATION FORM FOR VERTICAL |LEFT SQUARE BRACKET|RIGHT SQUARE BRACKET",
   "fe49 |DASHED OVERLINE|CENTRELINE OVERLINE|WAVY OVERLINE|DOUBLE WAVY OVERLINE|DASHED LOW LINE",
   "fe4e |CENTRELINE LOW LINE|WAVY LOW LINE|SMALL COMMA|SMALL IDEOGRAPHIC COMMA|SMALL FULL STOP",
   "fe54 SMALL |SEMICOLON|COLON|QUESTION MARK|EXCLAMATION MARK",
   "fe58 SMALL |EM DASH|LEFT PARENTHESIS|RIGHT PARENTHESIS|LEFT CURLY BRACKET|RIGHT CURLY BRACKET",
   "fe5d SMALL |LEFT TORTOISE SHELL BRACKET|RIGHT TORTOISE SHELL BRACKET|NUMBER SIGN|AMPERSAND",
   "fe61 SMALL |ASTERISK|PLUS SIGN|HYPHEN-MINUS|LESS-THAN SIGN|GREATER-THAN SIGN|EQUALS SIGN",
   "fe68 SMALL |REVERSE SOLIDUS|DOLLAR SIGN|PERCENT SIGN|COMMERCIAL AT",
   "fe70 ARABIC |FATHATAN ISOLATED FORM|TATWEEL WITH FATHATAN ABOVE",
   "fe72 ARABIC |DAMMATAN ISOLATED FORM|TAIL FRAGMENT|KASRATAN ISOLATED FORM",
   "fe76 ARABIC |FATHA ISOLATED FORM|FATHA MEDIAL FORM|DAMMA ISOLATED FORM|DAMMA MEDIAL FORM",
   "fe7a ARABIC |KASRA ISOLATED FORM|KASRA MEDIAL FORM|SHADDA ISOLATED FORM|SHADDA MEDIAL FORM",
   "fe7e ARABIC |SUKUN ISOLATED FORM|SUKUN MEDIAL FORM|LETTER HAMZA ISOLATED FORM",
   "fe81 ARABIC LETTER ALEF WITH MADDA ABOVE |ISOLATED FORM|FINAL FORM",
   "fe83 ARABIC LETTER ALEF WITH HAMZA ABOVE |ISOLATED FORM|FINAL FORM",
   "fe85 ARABIC LETTER WAW WITH HAMZA ABOVE |ISOLATED FORM|FINAL FORM",
   "fe87 ARABIC LETTER ALEF WITH HAMZA BELOW |ISOLATED FORM|FINAL FORM",
   "fe89 ARABIC LETTER YEH WITH HAMZA ABOVE |ISOLATED FORM|FINAL FORM|INITIAL FORM|MEDIAL FORM",
   "fe8d ARABIC LETTER |ALEF ISOLATED FORM|ALEF FINAL FORM|BEH ISOLATED FORM",
   "fe90 ARABIC LETTER |BEH FINAL FORM|BEH INITIAL FORM|BEH MEDIAL FORM|TEH MARBUTA ISOLATED FORM",
   "fe94 ARABIC LETTER TEH |MARBUTA FINAL FORM|ISOLATED FORM|FINAL FORM|INITIAL FORM|MEDIAL FORM",
   "fe99 ARABIC LETTER THEH |ISOLATED FORM|FINAL FORM|INITIAL FORM|MEDIAL FORM",
   "fe9d ARABIC LETTER JEEM |ISOLATED FORM|FINAL FORM|INITIAL FORM|MEDIAL FORM",
   "fea1 ARABIC LETTER HAH |ISOLATED FORM|FINAL FORM|INITIAL FORM|MEDIAL FORM",
   "fea5 ARABIC LETTER KHAH |ISOLATED FORM|FINAL FORM|INITIAL FORM|MEDIAL FORM",
   "fea9 ARABIC LETTER |DAL ISOLATED FORM|DAL FINAL FORM|THAL ISOLATED FORM|THAL FINAL FORM",
   "fead ARABIC LETTER |REH ISOLATED FORM|REH FINAL FORM|ZAIN ISOLATED FORM|ZAIN FINAL FORM",
   "feb1 ARABIC LETTER SEEN |ISOLATED FORM|FINAL FORM|INITIAL FORM|MEDIAL FORM",
   "feb5 ARABIC LETTER SHEEN |ISOLATED FORM|FINAL FORM|INITIAL FORM|MEDIAL FORM",
   "feb9 ARABIC LETTER SAD |ISOLATED FORM|FINAL FORM|INITIAL FORM|MEDIAL FORM",
   "febd ARABIC LETTER DAD |ISOLATED FORM|FINAL FORM|INITIAL FORM|MEDIAL FORM",
   "fec1 ARABIC LETTER TAH |ISOLATED FORM|FINAL FORM|INITIAL FORM|MEDIAL FORM",
   "fec5 ARABIC LETTER ZAH |ISOLATED FORM|FINAL FORM|INITIAL FORM|MEDIAL FORM",
   "fec9 ARABIC LETTER AIN |ISOLATED FORM|FINAL FORM|INITIAL FORM|MEDIAL FORM",
   "fecd ARABIC LETTER GHAIN |ISOLATED FORM|FINAL FORM|INITIAL FORM|MEDIAL FORM",
   "fed1 ARABIC LETTER FEH |ISOLATED FORM|FINAL FORM|INITIAL FORM|MEDIAL FORM",
   "fed5 ARABIC LETTER QAF |ISOLATED FORM|FINAL FORM|INITIAL FORM|MEDIAL FORM",
   "fed9 ARABIC LETTER KAF |ISOLATED FORM|FINAL FORM|INITIAL FORM|MEDIAL FORM",
   "fedd ARABIC LETTER LAM |ISOLATED FORM|FINAL FORM|INITIAL FORM|MEDIAL FORM",
   "fee1 ARABIC LETTER MEEM |ISOLATED FORM|FINAL FORM|INITIAL FORM|MEDIAL FORM",
   "fee5 ARABIC LETTER NOON |ISOLATED FORM|FINAL FORM|INITIAL FORM|MEDIAL FORM",
   "fee9 ARABIC LETTER HEH |ISOLATED FORM|FINAL FORM|INITIAL FORM|MEDIAL FORM",
   "feed ARABIC LETTER |WAW ISOLATED FORM|WAW FINAL FORM|ALEF MAKSURA ISOLATED FORM",
   "fef0 ARABIC LETTER |ALEF MAKSURA FINAL FORM|YEH ISOLATED FORM|YEH FINAL FORM|YEH INITIAL FORM",
   "fef4 ARABIC |LETTER YEH MEDIAL FORM|LIGATURE LAM WITH ALEF WITH MADDA ABOVE ISOLATED FORM",
   "fef6 ARABIC LIGATURE LAM WITH ALEF WITH |MADDA ABOVE FINAL FORM|HAMZA ABOVE ISOLATED FORM",
   "fef8 ARABIC LIGATURE LAM WITH ALEF WITH HAMZA |ABOVE FINAL FORM|BELOW ISOLATED FORM",
   "fefa ARABIC LIGATURE LAM WITH ALEF |WITH HAMZA BELOW FINAL FORM|ISOLATED FORM|FINAL FORM",
   "feff |ZERO WIDTH NO-BREAK SPACE",
   "ff01 FULLWIDTH |EXCLAMATION MARK|QUOTATION MARK",
   "ff03 FULLWIDTH |NUMBER SIGN|DOLLAR SIGN|PERCENT SIGN|AMPERSAND|APOSTROPHE|LEFT PARENTHESIS",
   "ff09 FULLWIDTH |RIGHT PARENTHESIS|ASTERISK|PLUS SIGN|COMMA|HYPHEN-MINUS|FULL STOP|SOLIDUS",
   "ff10 FULLWIDTH DIGIT |ZERO|ONE|TWO|THREE|FOUR|FIVE|SIX|SEVEN|EIGHT|NINE",
   "ff1a FULLWIDTH |COLON|SEMICOLON",
   "ff1c FULLWIDTH |LESS-THAN SIGN|EQUALS SIGN|GREATER-THAN SIGN|QUESTION MARK|COMMERCIAL AT",
   "ff21 FULLWIDTH LATIN CAPITAL LETTER |A|B|C|D|E|F|G|H|I|J|K|L|M|N|O|P|Q|R|S|T|U|V|W|X|Y|Z",
   "ff3b |FULLWIDTH LEFT SQUARE BRACKET",
   "ff3c FULLWIDTH |REVERSE SOLIDUS|RIGHT SQUARE BRACKET|CIRCUMFLEX ACCENT|LOW LINE|GRAVE ACCENT",
   "ff41 FULLWIDTH LATIN SMALL LETTER |A|B|C|D|E|F|G|H|I|J|K|L|M|N|O|P|Q|R|S|T|U|V|W|X|Y|Z",
   "ff5b FULLWIDTH |LEFT CURLY BRACKET|VERTICAL LINE|RIGHT CURLY BRACKET",
   "ff5e FULLWIDTH |TILDE|LEFT WHITE PARENTHESIS|RIGHT WHITE PARENTHESIS",
   "ff61 HALFWIDTH |IDEOGRAPHIC FULL STOP|LEFT CORNER BRACKET",
   "ff63 HALFWIDTH |RIGHT CORNER BRACKET|IDEOGRAPHIC COMMA|KATAKANA MIDDLE DOT|KATAKANA LETTER WO",
   "ff67 HALFWIDTH KATAKANA LETTER SMALL |A|I|U|E|O|YA|YU|YO|TU",
   "ff70 |HALFWIDTH KATAKANA-HIRAGANA PROLONGED SOUND MARK",
   "ff71 HALFWIDTH KATAKANA LETTER |A|I|U|E|O|KA|KI|KU|KE|KO|SA|SI|SU|SE|SO|TA|TI|TU|TE|TO|NA|NI",
   "ff87 HALFWIDTH KATAKANA LETTER |NU|NE|NO|HA|HI|HU|HE|HO|MA|MI|MU|ME|MO|YA|YU|YO|RA|RI|RU|RE|RO",
   "ff9c HALFWIDTH KATAKANA |LETTER WA|LETTER N|VOICED SOUND MARK|SEMI-VOICED SOUND MARK",
   "ffa0 HALFWIDTH HANGUL |FILLER|LETTER KIYEOK|LETTER SSANGKIYEOK|LETTER KIYEOK-SIOS",
   "ffa4 HALFWIDTH HANGUL LETTER |NIEUN|NIEUN-CIEUC|NIEUN-HIEUH|TIKEUT|SSANGTIKEUT|RIEUL",
   "ffaa HALFWIDTH HANGUL LETTER RIEUL-|KIYEOK|MIEUM|PIEUP|SIOS|THIEUTH|PHIEUPH|HIEUH",
   "ffb1 HALFWIDTH HANGUL LETTER |MIEUM|PIEUP|SSANGPIEUP|PIEUP-SIOS|SIOS|SSANGSIOS",
   "ffb7 HALFWIDTH HANGUL LETTER |IEUNG|CIEUC|SSANGCIEUC|CHIEUCH|KHIEUKH|THIEUTH|PHIEUPH|HIEUH",
   "ffc2 HALFWIDTH HANGUL LETTER |A|AE|YA|YAE|EO|E",
   "ffca HALFWIDTH HANGUL LETTER |YEO|YE|O|WA|WAE|OE",
   "ffd2 HALFWIDTH HANGUL LETTER |YO|U|WEO|WE|WI|YU",
   "ffda HALFWIDTH HANGUL LETTER |EU|YI|I",
   "ffe0 FULLWIDTH |CENT SIGN|POUND SIGN|NOT SIGN|MACRON|BROKEN BAR|YEN SIGN|WON SIGN",
   "ffe8 HALFWIDTH |FORMS LIGHT VERTICAL|LEFTWARDS ARROW|UPWARDS ARROW|RIGHTWARDS ARROW",
   "ffec HALFWIDTH |DOWNWARDS ARROW|BLACK SQUARE|WHITE CIRCLE",
   "fff9 INTERLINEAR ANNOTATION |ANCHOR|SEPARATOR|TERMINATOR",
   "fffc |OBJECT REPLACEMENT CHARACTER|REPLACEMENT CHARACTER"]

end NextWord.Text.CharName
