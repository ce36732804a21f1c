/-!
# Names of the last scripts, of pictographs and of tags

Blocks of names of Unicode 14 in the order of their code points; the module on lookup says how a
block is written.
-/

namespace NextWord.Text.CharName

def pictographs : List String :=
  ["1e000 COMBINING GLAGOLITIC LETTER |AZU|BUKY|VEDE|GLAGOLI|DOBRO|YESTU|ZHIVETE",
   "1e008 COMBINING GLAGOLITIC LETTER |ZEMLJA|IZHE|INITIAL IZHE|I|DJERVI|KAKO|LJUDIJE",
   "1e00f COMBINING GLAGOLITIC LETTER |MYSLITE|NASHI|ONU|POKOJI|RITSI|SLOVO|TVRIDO|UKU|FRITU|HERU",
   "1e01b COMBINING GLAGOLITIC LETTER |SHTA|TSI|CHRIVI|SHA|YERU|YERI|YATI",
   "1e023 COMBINING GLAGOLITIC LETTER |YU|SMALL YUS",
   "1e026 COMBINING GLAGOLITIC LETTER |YO|IOTATED SMALL YUS|BIG YUS|IOTATED BIG YUS|FITA",
   "1e100 NYIAKENG PUACHUE HMONG LETTER |MA|TSA|NTA|TA|HA|NA|XA|NKA|CA|LA|SA",
   "1e10b NYIAKENG PUACHUE HMONG LETTER |ZA|NCA|NTSA|KA|DA|NYA|NRA|VA|NTXA|TXA|FA|RA|QA|YA|NQA|PA",
   "1e11b NYIAKENG PUACHUE HMONG LETTER |XYA|NPA|DLA|NPLA|HAH|MLA|PLA|GA|RRA|A|AA|I|U|O|OO|E|EE|W",
   "1e130 NYIAKENG PUACHUE HMONG TONE-|B|M|J|V|S|G|D",
   "1e137 NYIAKENG PUACHUE HMONG SIGN FOR |PERSON|THING|LOCATION|ANIMAL|INVERTEBRATE",
   "1e13c NYIAKENG PUACHUE HMONG |SIGN XW XW|SYLLABLE LENGTHENER",
   "1e140 NYIAKENG PUACHUE HMONG DIGIT |ZERO|ONE|TWO|THREE|FOUR|FIVE|SIX|SEVEN|EIGHT|NINE",
   "1e14e NYIAKENG PUACHUE HMONG |LOGOGRAM NYAJ|CIRCLED CA",
   "1e290 TOTO LETTER |PA|BA|TA|DA|KA|GA|MA|NA|NGA|SA|CHA|YA|WA|JA|HA|RA",
   "1e2a0 TOTO LETTER |LA|I|BREATHY I|IU|BREATHY IU|U|E|BREATHY E|EO|BREATHY EO|O|AE|BREATHY AE|A",
   "1e2ae |TOTO SIGN RISING TONE",
   "1e2c0 WANCHO LETTER |AA|A|BA|CA|DA|GA|YA|PHA|LA|NA|PA|TA|THA|FA|SA|SHA|JA|ZA|WA|VA|KA|O|AU|RA",
   "1e2d8 WANCHO LETTER |MA|KHA|HA|E|I|NGA|U|LLHA|TSA|TRA|ONG|AANG|ANG|ING|ON|EN|AAN|NYA|UEN|YIH",
   "1e2ec WANCHO TONE |TUP|TUPNI|KOI|KOINI",
   "1e2f0 WANCHO DIGIT |ZERO|ONE|TWO|THREE|FOUR|FIVE|SIX|SEVEN|EIGHT|NINE",
   "1e2ff |WANCHO NGUN SIGN",
   "1e7e0 ETHIOPIC SYLLABLE |HHYA|HHYU|HHYI|HHYAA|HHYEE|HHYE|HHYO",
   "1e7e8 ETHIOPIC SYLLABLE |GURAGE HHWA|HHWI|HHWEE|HHWE",
   "1e7ed ETHIOPIC SYLLABLE GURAGE |MWI|MWEE",
   "1e7f0 |ETHIOPIC SYLLABLE GURAGE QWI",
   "1e7f1 ETHIOPIC SYLLABLE GURAGE |QWEE|QWE|BWI|BWEE|KWI|KWEE|KWE|GWI|GWEE|GWE|FWI|FWEE|PWI|PWEE",
   "1e800 MENDE KIKAKUI SYLLABLE |M001 KI|M002 KA|M003 KU|M065 KEE|M095 KE|M076 KOO|M048 KO",
   "1e807 MENDE KIKAKUI SYLLABLE |M179 KUA|M004 WI|M005 WA|M006 WU|M126 WEE|M118 WE|M114 WOO",
   "1e80e MENDE KIKAKUI SYLLABLE |M045 WO|M194 WUI|M143 WEI|M061 WVI|M049 WVA|M139 WVE|M007 MIN",
   "1e815 MENDE KIKAKUI SYLLABLE |M008 MAN|M009 MUN|M059 MEN|M094 MON|M154 MUAN|M189 MUEN|M010 BI",
   "1e81c MENDE KIKAKUI SYLLABLE |M011 BA|M012 BU|M150 BEE|M097 BE|M103 BOO|M138 BO|M013 I|M014 A",
   "1e824 MENDE KIKAKUI SYLLABLE |M015 U|M163 EE|M100 E|M165 OO|M147 O|M137 EI|M131 IN",
   "1e82b MENDE KIKAKUI SYLLABLE |M135 IN|M195 AN|M178 EN|M019 SI|M020 SA|M021 SU|M162 SEE|M116 SE",
   "1e833 MENDE KIKAKUI SYLLABLE |M136 SOO|M079 SO|M196 SIA|M025 LI|M026 LA|M027 LU|M084 LEE",
   "1e83a MENDE KIKAKUI SYLLABLE |M073 LE|M054 LOO|M153 LO|M110 LONG LE|M016 DI|M017 DA|M018 DU",
   "1e841 MENDE KIKAKUI SYLLABLE |M089 DEE|M180 DOO|M181 DO|M022 TI|M023 TA|M024 TU|M091 TEE",
   "1e848 MENDE KIKAKUI SYLLABLE |M055 TE|M104 TOO|M069 TO|M028 JI|M029 JA|M030 JU|M157 JEE",
   "1e84f MENDE KIKAKUI SYLLABLE |M113 JE|M160 JOO|M063 JO|M175 LONG JO|M031 YI|M032 YA|M033 YU",
   "1e856 MENDE KIKAKUI SYLLABLE |M109 YEE|M080 YE|M141 YOO|M121 YO|M034 FI|M035 FA|M036 FU",
   "1e85d MENDE KIKAKUI SYLLABLE |M078 FEE|M075 FE|M133 FOO|M088 FO|M197 FUA|M101 FAN",
   "1e863 MENDE KIKAKUI SYLLABLE |M037 NIN|M038 NAN|M039 NUN|M117 NEN|M169 NON|M176 HI",
   "1e869 MENDE KIKAKUI SYLLABLE |M041 HA|M186 HU|M040 HEE|M096 HE|M042 HOO|M140 HO|M083 HEEI",
   "1e870 MENDE KIKAKUI SYLLABLE |M128 HOOU|M053 HIN|M130 HAN|M087 HUN|M052 HEN|M193 HON|M046 HUAN",
   "1e877 MENDE KIKAKUI SYLLABLE |M090 NGGI|M043 NGGA|M082 NGGU|M115 NGGEE|M146 NGGE|M156 NGGOO",
   "1e87d MENDE KIKAKUI SYLLABLE |M120 NGGO|M159 NGGAA|M127 NGGUA|M086 LONG NGGE|M106 LONG NGGOO",
   "1e882 MENDE KIKAKUI SYLLABLE |M183 LONG NGGO|M155 GI|M111 GA|M168 GU|M190 GEE|M166 GUEI",
   "1e888 MENDE KIKAKUI SYLLABLE |M167 GUAN|M184 NGEN|M057 NGON|M177 NGUAN|M068 PI|M099 PA",
   "1e88e MENDE KIKAKUI SYLLABLE |M050 PU|M081 PEE|M051 PE|M102 POO|M066 PO|M145 MBI",
   "1e894 MENDE KIKAKUI SYLLABLE |M062 MBA|M122 MBU|M047 MBEE|M188 MBEE|M072 MBE|M172 MBOO",
   "1e89a MENDE KIKAKUI SYLLABLE |M174 MBO|M187 MBUU|M161 LONG MBE|M105 LONG MBOO",
   "1e89e MENDE KIKAKUI SYLLABLE |M142 LONG MBO|M132 KPI|M092 KPA|M074 KPU|M044 KPEE|M108 KPE",
   "1e8a4 MENDE KIKAKUI SYLLABLE |M112 KPOO|M158 KPO|M124 GBI|M056 GBA|M148 GBU|M093 GBEE|M107 GBE",
   "1e8ab MENDE KIKAKUI SYLLABLE |M071 GBOO|M070 GBO|M171 RA|M123 NDI|M129 NDA|M125 NDU|M191 NDEE",
   "1e8b2 MENDE KIKAKUI SYLLABLE |M119 NDE|M067 NDOO|M064 NDO|M152 NJA|M192 NJU|M149 NJEE",
   "1e8b8 MENDE KIKAKUI SYLLABLE |M134 NJOO|M182 VI|M185 VA|M151 VU|M173 VEE|M085 VE|M144 VOO",
   "1e8bf MENDE KIKAKUI SYLLABLE |M077 VO|M164 NYIN|M058 NYAN|M170 NYUN|M098 NYEN|M060 NYON",
   "1e8c7 MENDE KIKAKUI DIGIT |ONE|TWO|THREE|FOUR|FIVE|SIX|SEVEN|EIGHT|NINE",
   "1e8d0 MENDE KIKAKUI COMBINING NUMBER |TEENS|TENS|HUNDREDS",
   "1e8d3 MENDE KIKAKUI COMBINING NUMBER |THOUSANDS|TEN THOUSANDS|HUNDRED THOUSANDS|MILLIONS",
   "1e900 ADLAM CAPITAL LETTER |ALIF|DAALI|LAAM|MIIM|BA|SINNYIIYHE|PE|BHE|RA|E|FA|I|O|DHA|YHE|WAW",
   "1e910 ADLAM CAPITAL LETTER |NUN|KAF|YA|U|JIIM|CHI|HA|QAAF|GA|NYA|TU|NHA|VA|KHA|GBE|ZAL|KPO|SHA",
   "1e922 ADLAM SMALL LETTER |ALIF|DAALI|LAAM|MIIM|BA|SINNYIIYHE|PE|BHE|RA|E|FA|I|O|DHA|YHE|WAW",
   "1e932 ADLAM SMALL LETTER |NUN|KAF|YA|U|JIIM|CHI|HA|QAAF|GA|NYA|TU|NHA|VA|KHA|GBE|ZAL|KPO|SHA",
   "1e944 ADLAM |ALIF LENGTHENER|VOWEL LENGTHENER|GEMINATION MARK",
   "1e947 ADLAM |HAMZA|CONSONANT MODIFIER|GEMINATE CONSONANT MODIFIER|NUKTA|NASALIZATION MARK",
   "1e950 ADLAM DIGIT |ZERO|ONE|TWO|THREE|FOUR|FIVE|SIX|SEVEN|EIGHT|NINE",
   "1e95e ADLAM INITIAL |EXCLAMATION MARK|QUESTION MARK",
   "1ec71 INDIC SIYAQ NUMBER |ONE|TWO|THREE|FOUR|FIVE|SIX|SEVEN|EIGHT|NINE|TEN|TWENTY|THIRTY",
   "1ec7d INDIC SIYAQ NUMBER |FORTY|FIFTY|SIXTY|SEVENTY|EIGHTY|NINETY|ONE HUNDRED|TWO HUNDRED",
   "1ec85 INDIC SIYAQ NUMBER |THREE HUNDRED|FOUR HUNDRED|FIVE HUNDRED|SIX HUNDRED|SEVEN HUNDRED",
   "1ec8a INDIC SIYAQ NUMBER |EIGHT HUNDRED|NINE HUNDRED|ONE THOUSAND|TWO THOUSAND|THREE THOUSAND",
   "1ec8f INDIC SIYAQ NUMBER |FOUR THOUSAND|FIVE THOUSAND|SIX THOUSAND|SEVEN THOUSAND",
   "1ec93 INDIC SIYAQ NUMBER |EIGHT THOUSAND|NINE THOUSAND|TEN THOUSAND|TWENTY THOUSAND",
   "1ec97 INDIC SIYAQ NUMBER |THIRTY THOUSAND|FORTY THOUSAND|FIFTY THOUSAND|SIXTY THOUSAND",
   "1ec9b INDIC SIYAQ NUMBER |SEVENTY THOUSAND|EIGHTY THOUSAND|NINETY THOUSAND|LAKH|LAKHAN",
   "1eca0 INDIC SIYAQ |LAKH MARK|NUMBER KAROR|NUMBER KARORAN",
   "1eca3 INDIC SIYAQ NUMBER PREFIXED |ONE|TWO|THREE|FOUR|FIVE|SIX|SEVEN|EIGHT|NINE",
   "1ecac INDIC SIYAQ |PLACEHOLDER|FRACTION ONE QUARTER|FRACTION ONE HALF",
   "1ecaf INDIC SIYAQ |FRACTION THREE QUARTERS|RUPEE MARK|NUMBER ALTERNATE ONE",
   "1ecb2 INDIC SIYAQ |NUMBER ALTERNATE TWO|NUMBER ALTERNATE TEN THOUSAND|ALTERNATE LAKH MARK",
   "1ed01 OTTOMAN SIYAQ NUMBER |ONE|TWO|THREE|FOUR|FIVE|SIX|SEVEN|EIGHT|NINE|TEN",
   "1ed0b OTTOMAN SIYAQ NUMBER |TWENTY|THIRTY|FORTY|FIFTY|SIXTY|SEVENTY|EIGHTY|NINETY|ONE HUNDRED",
   "1ed14 OTTOMAN SIYAQ NUMBER |TWO HUNDRED|THREE HUNDRED|FOUR HUNDRED|FIVE HUNDRED|SIX HUNDRED",
   "1ed19 OTTOMAN SIYAQ NUMBER |SEVEN HUNDRED|EIGHT HUNDRED|NINE HUNDRED|ONE THOUSAND|TWO THOUSAND",
   "1ed1e OTTOMAN SIYAQ NUMBER |THREE THOUSAND|FOUR THOUSAND|FIVE THOUSAND|SIX THOUSAND",
   "1ed22 OTTOMAN SIYAQ NUMBER |SEVEN THOUSAND|EIGHT THOUSAND|NINE THOUSAND|TEN THOUSAND",
   "1ed26 OTTOMAN SIYAQ NUMBER |TWENTY THOUSAND|THIRTY THOUSAND|FORTY THOUSAND|FIFTY THOUSAND",
   "1ed2a OTTOMAN SIYAQ NUMBER |SIXTY THOUSAND|SEVENTY THOUSAND|EIGHTY THOUSAND|NINETY THOUSAND",
   "1ed2e |OTTOMAN SIYAQ MARRATAN",
   "1ed2f OTTOMAN SIYAQ ALTERNATE NUMBER |TWO|THREE|FOUR|FIVE|SIX|SEVEN|EIGHT|NINE",
   "1ed37 OTTOMAN SIYAQ ALTERNATE NUMBER |TEN|FOUR HUNDRED|SIX HUNDRED|TWO THOUSAND|TEN THOUSAND",
   "1ed3c OTTOMAN SIYAQ FRACTION ONE |HALF|SIXTH",
   "1ee00 ARABIC MATHEMATICAL |ALEF|BEH|JEEM|DAL",
   "1ee05 ARABIC MATHEMATICAL |WAW|ZAIN|HAH|TAH|YEH|KAF|LAM|MEEM|NOON",
   "1ee0e ARABIC MATHEMATICAL |SEEN|AIN|FEH|SAD|QAF|REH|SHEEN|TEH|THEH|KHAH|THAL|DAD|ZAH|GHAIN",
   "1ee1c ARABIC MATHEMATICAL DOTLESS |BEH|NOON|FEH|QAF",
   "1ee21 ARABIC MATHEMATICAL INITIAL |BEH|JEEM",
   "1ee24 |ARABIC MATHEMATICAL INITIAL HEH",
   "1ee27 |ARABIC MATHEMATICAL INITIAL HAH",
   "1ee29 ARABIC MATHEMATICAL INITIAL |YEH|KAF|LAM|MEEM|NOON|SEEN|AIN|FEH|SAD|QAF",
   "1ee34 ARABIC MATHEMATICAL INITIAL |SHEEN|TEH|THEH|KHAH",
   "1ee39 |ARABIC MATHEMATICAL INITIAL DAD",
   "1ee3b |ARABIC MATHEMATICAL INITIAL GHAIN",
   "1ee42 |ARABIC MATHEMATICAL TAILED JEEM",
   "1ee47 |ARABIC MATHEMATICAL TAILED HAH",
   "1ee49 |ARABIC MATHEMATICAL TAILED YEH",
   "1ee4b |ARABIC MATHEMATICAL TAILED LAM",
   "1ee4d ARABIC MATHEMATICAL TAILED |NOON|SEEN|AIN",
   "1ee51 ARABIC MATHEMATICAL TAILED |SAD|QAF",
   "1ee54 |ARABIC MATHEMATICAL TAILED SHEEN",
   "1ee57 |ARABIC MATHEMATICAL TAILED KHAH",
   "1ee59 |ARABIC MATHEMATICAL TAILED DAD",
   "1ee5b |ARABIC MATHEMATICAL TAILED GHAIN",
   "1ee5d |ARABIC MATHEMATICAL TAILED DOTLESS NOON",
   "1ee5f |ARABIC MATHEMATICAL TAILED DOTLESS QAF",
   "1ee61 ARABIC MATHEMATICAL STRETCHED |BEH|JEEM",
   "1ee64 |ARABIC MATHEMATICAL STRETCHED HEH",
   "1ee67 ARABIC MATHEMATICAL STRETCHED |HAH|TAH|YEH|KAF",
   "1ee6c ARABIC MATHEMATICAL STRETCHED |MEEM|NOON|SEEN|AIN|FEH|SAD|QAF",
   "1ee74 ARABIC MATHEMATICAL STRETCHED |SHEEN|TEH|THEH|KHAH",
   "1ee79 ARABIC MATHEMATICAL STRETCHED |DAD|ZAH|GHAIN|DOTLESS BEH",
   "1ee7e |ARABIC MATHEMATICAL STRETCHED DOTLESS FEH",
   "1ee80 ARABIC MATHEMATICAL LOOPED |ALEF|BEH|JEEM|DAL|HEH|WAW|ZAIN|HAH|TAH|YEH",
   "1ee8b ARABIC MATHEMATICAL LOOPED |LAM|MEEM|NOON|SEEN",
   "1ee8f ARABIC MATHEMATICAL LOOPED |AIN|FEH|SAD|QAF|REH|SHEEN|TEH|THEH|KHAH|THAL|DAD|ZAH|GHAIN",
   "1eea1 ARABIC MATHEMATICAL DOUBLE-STRUCK |BEH|JEEM|DAL",
   "1eea5 ARABIC MATHEMATICAL DOUBLE-STRUCK |WAW|ZAIN|HAH|TAH|YEH",
   "1eeab ARABIC MATHEMATICAL DOUBLE-STRUCK |LAM|MEEM|NOON|SEEN|AIN|FEH",
   "1eeb1 ARABIC MATHEMATICAL DOUBLE-STRUCK |SAD|QAF|REH|SHEEN|TEH|THEH|KHAH|THAL|DAD|ZAH|GHAIN",
   "1eef0 ARABIC MATHEMATICAL OPERATOR |MEEM WITH HAH WITH TATWEEL|HAH WITH DAL",
   "1f000 MAHJONG TILE |EAST WIND|SOUTH WIND|WEST WIND",
   "1f003 MAHJONG TILE |NORTH WIND|RED DRAGON|GREEN DRAGON|WHITE DRAGON|ONE OF CHARACTERS",
   "1f008 MAHJONG TILE |TWO OF CHARACTERS|THREE OF CHARACTERS|FOUR OF CHARACTERS",
   "1f00b MAHJONG TILE |FIVE OF CHARACTERS|SIX OF CHARACTERS|SEVEN OF CHARACTERS",
   "1f00e MAHJONG TILE |EIGHT OF CHARACTERS|NINE OF CHARACTERS|ONE OF BAMBOOS|TWO OF BAMBOOS",
   "1f012 MAHJONG TILE |THREE OF BAMBOOS|FOUR OF BAMBOOS|FIVE OF BAMBOOS|SIX OF BAMBOOS",
   "1f016 MAHJONG TILE |SEVEN OF BAMBOOS|EIGHT OF BAMBOOS|NINE OF BAMBOOS|ONE OF CIRCLES",
   "1f01a MAHJONG TILE |TWO OF CIRCLES|THREE OF CIRCLES|FOUR OF CIRCLES|FIVE OF CIRCLES",
   "1f01e MAHJONG TILE |SIX OF CIRCLES|SEVEN OF CIRCLES|EIGHT OF CIRCLES|NINE OF CIRCLES",
   "1f022 MAHJONG TILE |PLUM|ORCHID|BAMBOO|CHRYSANTHEMUM|SPRING|SUMMER|AUTUMN|WINTER|JOKER|BACK",
   "1f030 |DOMINO TILE HORIZONTAL BACK",
   "1f031 DOMINO TILE HORIZONTAL-|00-00|00-01|00-02|00-03|00-04|00-05|00-06|01-00|01-01",
   "1f03a DOMINO TILE HORIZONTAL-|01-02|01-03|01-04|01-05|01-06|02-00|02-01|02-02|02-03|02-04",
   "1f044 DOMINO TILE HORIZONTAL-|02-05|02-06|03-00|03-01|03-02|03-03|03-04|03-05|03-06|04-00",
   "1f04e DOMINO TILE HORIZONTAL-|04-01|04-02|04-03|04-04|04-05|04-06|05-00|05-01|05-02|05-03",
   "1f058 DOMINO TILE HORIZONTAL-|05-04|05-05|05-06|06-00|06-01|06-02|06-03|06-04|06-05|06-06",
   "1f062 |DOMINO TILE VERTICAL BACK",
   "1f063 DOMINO TILE VERTICAL-00-|00|01|02|03|04|05|06",
   "1f06a DOMINO TILE VERTICAL-|01-00|01-01|01-02|01-03|01-04|01-05|01-06|02-00|02-01",
   "1f073 DOMINO TILE VERTICAL-|02-02|02-03|02-04|02-05|02-06|03-00|03-01|03-02|03-03|03-04|03-05",
   "1f07e DOMINO TILE VERTICAL-|03-06|04-00|04-01|04-02|04-03|04-04|04-05|04-06|05-00|05-01|05-02",
   "1f089 DOMINO TILE VERTICAL-|05-03|05-04|05-05|05-06|06-00|06-01|06-02|06-03|06-04|06-05|06-06",
   "1f0a0 |PLAYING CARD BACK",
   "1f0a1 PLAYING CARD |ACE OF SPADES|TWO OF SPADES|THREE OF SPADES|FOUR OF SPADES|FIVE OF SPADES",
   "1f0a6 PLAYING CARD |SIX OF SPADES|SEVEN OF SPADES|EIGHT OF SPADES|NINE OF SPADES|TEN OF SPADES",
   "1f0ab PLAYING CARD |JACK OF SPADES|KNIGHT OF SPADES|QUEEN OF SPADES|KING OF SPADES",
   "1f0b1 PLAYING CARD |ACE OF HEARTS|TWO OF HEARTS|THREE OF HEARTS|FOUR OF HEARTS|FIVE OF HEARTS",
   "1f0b6 PLAYING CARD |SIX OF HEARTS|SEVEN OF HEARTS|EIGHT OF HEARTS|NINE OF HEARTS|TEN OF HEARTS",
   "1f0bb PLAYING CARD |JACK OF HEARTS|KNIGHT OF HEARTS|QUEEN OF HEARTS|KING OF HEARTS|RED JOKER",
   "1f0c1 PLAYING CARD |ACE OF DIAMONDS|TWO OF DIAMONDS|THREE OF DIAMONDS",
   "1f0c4 PLAYING CARD |FOUR OF DIAMONDS|FIVE OF DIAMONDS|SIX OF DIAMONDS|SEVEN OF DIAMONDS",
   "1f0c8 PLAYING CARD |EIGHT OF DIAMONDS|NINE OF DIAMONDS|TEN OF DIAMONDS|JACK OF DIAMONDS",
   "1f0cc PLAYING CARD |KNIGHT OF DIAMONDS|QUEEN OF DIAMONDS|KING OF DIAMONDS|BLACK JOKER",
   "1f0d1 |PLAYING CARD ACE OF CLUBS",
   "1f0d2 PLAYING CARD |TWO OF CLUBS|THREE OF CLUBS|FOUR OF CLUBS|FIVE OF CLUBS|SIX OF CLUBS",
   "1f0d7 PLAYING CARD |SEVEN OF CLUBS|EIGHT OF CLUBS|NINE OF CLUBS|TEN OF CLUBS|JACK OF CLUBS",
   "1f0dc PLAYING CARD |KNIGHT OF CLUBS|QUEEN OF CLUBS|KING OF CLUBS|WHITE JOKER|FOOL",
   "1f0e1 PLAYING CARD TRUMP-|1|2|3|4|5|6|7|8|9|10|11|12|13|14|15|16|17|18|19|20|21",
   "1f100 DIGIT |ZERO FULL STOP|ZERO COMMA|ONE COMMA|TWO COMMA",
   "1f104 DIGIT |THREE COMMA|FOUR COMMA|FIVE COMMA|SIX COMMA|SEVEN COMMA|EIGHT COMMA|NINE COMMA",
   "1f10b DINGBAT |CIRCLED SANS-SERIF DIGIT ZERO|NEGATIVE CIRCLED SANS-SERIF DIGIT ZERO",
   "1f10d CIRCLED |ZERO WITH SLASH|ANTICLOCKWISE ARROW|DOLLAR SIGN WITH OVERLAID BACKSLASH",
   "1f110 PARENTHESIZED LATIN CAPITAL LETTER |A|B|C|D|E|F|G|H|I|J|K|L|M|N|O|P|Q|R|S|T|U|V|W|X|Y|Z",
   "1f12a |TORTOISE SHELL BRACKETED LATIN CAPITAL LETTER S|CIRCLED ITALIC LATIN CAPITAL LETTER C",
   "1f12c |CIRCLED ITALIC LATIN CAPITAL LETTER R|CIRCLED CD|CIRCLED WZ|COPYLEFT SYMBOL",
   "1f130 SQUARED LATIN CAPITAL LETTER |A|B|C|D|E|F|G|H|I|J|K|L|M|N|O|P|Q|R|S|T|U|V|W|X|Y|Z",
   "1f14a SQUARED |HV|MV|SD|SS|PPV|WC",
   "1f150 NEGATIVE CIRCLED LATIN CAPITAL LETTER |A|B|C|D|E|F|G|H|I|J|K|L|M|N|O|P|Q|R|S|T|U|V|W|X|Y",
   "1f169 |NEGATIVE CIRCLED LATIN CAPITAL LETTER Z|RAISED MC SIGN|RAISED MD SIGN|RAISED MR SIGN",
   "1f16d CIRCLED |CC|C WITH OVERLAID BACKSLASH|HUMAN FIGURE",
   "1f170 NEGATIVE SQUARED LATIN CAPITAL LETTER |A|B|C|D|E|F|G|H|I|J|K|L|M|N|O|P|Q|R|S|T|U|V|W|X|Y",
   "1f189 |NEGATIVE SQUARED LATIN CAPITAL LETTER Z|CROSSED NEGATIVE SQUARED LATIN CAPITAL LETTER P",
   "1f18b NEGATIVE SQUARED |IC|PA|SA|AB|WC",
   "1f190 |SQUARE DJ|SQUARED CL|SQUARED COOL",
   "1f193 SQUARED |FREE|ID|NEW|NG|OK|SOS|UP WITH EXCLAMATION MARK|VS|THREE D|SECOND SCREEN|TWO K",
   "1f19e SQUARED |FOUR K|EIGHT K|FIVE POINT ONE|SEVEN POINT ONE|TWENTY-TWO POINT TWO|SIXTY P",
   "1f1a4 SQUARED |ONE HUNDRED TWENTY P|LATIN SMALL LETTER D|HC|HDR|HI-RES|LOSSLESS|SHV|UHD|VOD",
   "1f1ad |MASK WORK SYMBOL",
   "1f1e6 REGIONAL INDICATOR SYMBOL LETTER |A|B|C|D|E|F|G|H|I|J|K|L|M|N|O|P|Q|R|S|T|U|V|W|X|Y|Z",
   "1f200 |SQUARE HIRAGANA HOKA|SQUARED KATAKANA KOKO|SQUARED KATAKANA SA",
   "1f210 SQUARED CJK UNIFIED IDEOGRAPH-|624B|5B57|53CC",
   "1f213 |SQUARED KATAKANA DE",
   "1f214 SQUARED CJK UNIFIED IDEOGRAPH-|4E8C|591A|89E3|5929|4EA4|6620|7121|6599|524D",
   "1f21d SQUARED CJK UNIFIED IDEOGRAPH-|5F8C|518D|65B0|521D|7D42|751F|8CA9|58F0|5439|6F14|6295",
   "1f228 SQUARED CJK UNIFIED IDEOGRAPH-|6355|4E00|4E09|904A|5DE6|4E2D|53F3|6307|8D70|6253|7981",
   "1f233 SQUARED CJK UNIFIED IDEOGRAPH-|7A7A|5408|6E80|6709|6708|7533|5272|55B6|914D",
   "1f240 |TORTOISE SHELL BRACKETED CJK UNIFIED IDEOGRAPH-672C",
   "1f241 TORTOISE SHELL BRACKETED CJK UNIFIED IDEOGRAPH-|4E09|4E8C|5B89|70B9|6253|76D7|52DD|6557",
   "1f250 CIRCLED IDEOGRAPH |ADVANTAGE|ACCEPT",
   "1f260 ROUNDED SYMBOL FOR |FU|LU|SHOU|XI|SHUANGXI|CAI",
   "1f300 |CYCLONE|FOGGY|CLOSED UMBRELLA|NIGHT WITH STARS|SUNRISE OVER MOUNTAINS|SUNRISE",
   "1f306 |CITYSCAPE AT DUSK|SUNSET OVER BUILDINGS|RAINBOW|BRIDGE AT NIGHT|WATER WAVE|VOLCANO",
   "1f30c |MILKY WAY|EARTH GLOBE EUROPE-AFRICA|EARTH GLOBE AMERICAS|EARTH GLOBE ASIA-AUSTRALIA",
   "1f310 |GLOBE WITH MERIDIANS|NEW MOON SYMBOL|WAXING CRESCENT MOON SYMBOL",
   "1f313 |FIRST QUARTER MOON SYMBOL|WAXING GIBBOUS MOON SYMBOL|FULL MOON SYMBOL",
   "1f316 |WANING GIBBOUS MOON SYMBOL|LAST QUARTER MOON SYMBOL|WANING CRESCENT MOON SYMBOL",
   "1f319 |CRESCENT MOON|NEW MOON WITH FACE|FIRST QUARTER MOON WITH FACE",
   "1f31c |LAST QUARTER MOON WITH FACE|FULL MOON WITH FACE|SUN WITH FACE|GLOWING STAR",
   "1f320 |SHOOTING STAR|THERMOMETER|BLACK DROPLET|WHITE SUN|WHITE SUN WITH SMALL CLOUD",
   "1f325 |WHITE SUN BEHIND CLOUD|WHITE SUN BEHIND CLOUD WITH RAIN|CLOUD WITH RAIN|CLOUD WITH SNOW",
   "1f329 |CLOUD WITH LIGHTNING|CLOUD WITH TORNADO|FOG|WIND BLOWING FACE|HOT DOG|TACO",
   "1f32f |BURRITO|CHESTNUT|SEEDLING|EVERGREEN TREE|DECIDUOUS TREE|PALM TREE|CACTUS|HOT PEPPER",
   "1f337 |TULIP|CHERRY BLOSSOM|ROSE|HIBISCUS|SUNFLOWER|BLOSSOM|EAR OF MAIZE|EAR OF RICE",
   "1f33f |HERB|FOUR LEAF CLOVER|MAPLE LEAF|FALLEN LEAF|LEAF FLUTTERING IN WIND|MUSHROOM",
   "1f345 |TOMATO|AUBERGINE|GRAPES|MELON|WATERMELON|TANGERINE|LEMON|BANANA|PINEAPPLE|RED APPLE",
   "1f34f |GREEN APPLE|PEAR|PEACH|CHERRIES|STRAWBERRY|HAMBURGER|SLICE OF PIZZA|MEAT ON BONE",
   "1f357 |POULTRY LEG|RICE CRACKER|RICE BALL|COOKED RICE|CURRY AND RICE|STEAMING BOWL",
   "1f35d |SPAGHETTI|BREAD|FRENCH FRIES|ROASTED SWEET POTATO|DANGO|ODEN|SUSHI|FRIED SHRIMP",
   "1f365 |FISH CAKE WITH SWIRL DESIGN|SOFT ICE CREAM|SHAVED ICE|ICE CREAM|DOUGHNUT|COOKIE",
   "1f36b |CHOCOLATE BAR|CANDY|LOLLIPOP|CUSTARD|HONEY POT|SHORTCAKE|BENTO BOX|POT OF FOOD|COOKING",
   "1f374 |FORK AND KNIFE|TEACUP WITHOUT HANDLE|SAKE BOTTLE AND CUP|WINE GLASS|COCKTAIL GLASS",
   "1f379 |TROPICAL DRINK|BEER MUG|CLINKING BEER MUGS|BABY BOTTLE|FORK AND KNIFE WITH PLATE",
   "1f37e |BOTTLE WITH POPPING CORK|POPCORN|RIBBON|WRAPPED PRESENT|BIRTHDAY CAKE",
   "1f383 |JACK-O-LANTERN|CHRISTMAS TREE|FATHER CHRISTMAS|FIREWORKS|FIREWORK SPARKLER|BALLOON",
   "1f389 |PARTY POPPER|CONFETTI BALL|TANABATA TREE|CROSSED FLAGS|PINE DECORATION|JAPANESE DOLLS",
   "1f38f |CARP STREAMER|WIND CHIME|MOON VIEWING CEREMONY|SCHOOL SATCHEL|GRADUATION CAP",
   "1f394 |HEART WITH TIP ON THE LEFT|BOUQUET OF FLOWERS|MILITARY MEDAL|REMINDER RIBBON",
   "1f398 |MUSICAL KEYBOARD WITH JACKS|STUDIO MICROPHONE|LEVEL SLIDER|CONTROL KNOBS",
   "1f39c BEAMED |ASCENDING MUSICAL NOTES|DESCENDING MUSICAL NOTES",
   "1f39e |FILM FRAMES|ADMISSION TICKETS|CAROUSEL HORSE|FERRIS WHEEL|ROLLER COASTER",
   "1f3a3 |FISHING POLE AND FISH|MICROPHONE|MOVIE CAMERA|CINEMA|HEADPHONE|ARTIST PALETTE|TOP HAT",
   "1f3aa |CIRCUS TENT|TICKET|CLAPPER BOARD|PERFORMING ARTS|VIDEO GAME|DIRECT HIT|SLOT MACHINE",
   "1f3b1 |BILLIARDS|GAME DIE|BOWLING|FLOWER PLAYING CARDS|MUSICAL NOTE|MULTIPLE MUSICAL NOTES",
   "1f3b7 |SAXOPHONE|GUITAR|MUSICAL KEYBOARD|TRUMPET|VIOLIN|MUSICAL SCORE|RUNNING SHIRT WITH SASH",
   "1f3be |TENNIS RACQUET AND BALL|SKI AND SKI BOOT|BASKETBALL AND HOOP|CHEQUERED FLAG|SNOWBOARDER",
   "1f3c3 |RUNNER|SURFER|SPORTS MEDAL|TROPHY|HORSE RACING|AMERICAN FOOTBALL|RUGBY FOOTBALL|SWIMMER",
   "1f3cb |WEIGHT LIFTER|GOLFER|RACING MOTORCYCLE|RACING CAR|CRICKET BAT AND BALL|VOLLEYBALL",
   "1f3d1 |FIELD HOCKEY STICK AND BALL|ICE HOCKEY STICK AND PUCK|TABLE TENNIS PADDLE AND BALL",
   "1f3d4 |SNOW CAPPED MOUNTAIN|CAMPING|BEACH WITH UMBRELLA|BUILDING CONSTRUCTION|HOUSE BUILDINGS",
   "1f3d9 |CITYSCAPE|DERELICT HOUSE BUILDING|CLASSICAL BUILDING|DESERT|DESERT ISLAND|NATIONAL PARK",
   "1f3df |STADIUM|HOUSE BUILDING|HOUSE WITH GARDEN|OFFICE BUILDING|JAPANESE POST OFFICE",
   "1f3e4 |EUROPEAN POST OFFICE|HOSPITAL|BANK|AUTOMATED TELLER MACHINE|HOTEL|LOVE HOTEL",
   "1f3ea |CONVENIENCE STORE|SCHOOL|DEPARTMENT STORE|FACTORY|IZAKAYA LANTERN|JAPANESE CASTLE",
   "1f3f0 |EUROPEAN CASTLE|WHITE PENNANT|BLACK PENNANT|WAVING WHITE FLAG|WAVING BLACK FLAG",
   "1f3f5 |ROSETTE|BLACK ROSETTE|LABEL|BADMINTON RACQUET AND SHUTTLECOCK|BOW AND ARROW|AMPHORA",
   "1f3fb EMOJI MODIFIER FITZPATRICK TYPE-|1-2|3|4|5|6",
   "1f400 |RAT|MOUSE|OX|WATER BUFFALO|COW|TIGER|LEOPARD|RABBIT|CAT|DRAGON",
   "1f40a |CROCODILE|WHALE|SNAIL|SNAKE|HORSE|RAM|GOAT|SHEEP|MONKEY|ROOSTER|CHICKEN|DOG|PIG|BOAR",
   "1f418 |ELEPHANT|OCTOPUS|SPIRAL SHELL|BUG|ANT|HONEYBEE|LADY BEETLE|FISH|TROPICAL FISH|BLOWFISH",
   "1f422 |TURTLE|HATCHING CHICK|BABY CHICK|FRONT-FACING BABY CHICK|BIRD|PENGUIN|KOALA|POODLE",
   "1f42a |DROMEDARY CAMEL|BACTRIAN CAMEL|DOLPHIN|MOUSE FACE|COW FACE|TIGER FACE|RABBIT FACE",
   "1f431 |CAT FACE|DRAGON FACE|SPOUTING WHALE|HORSE FACE|MONKEY FACE|DOG FACE|PIG FACE|FROG FACE",
   "1f439 |HAMSTER FACE|WOLF FACE|BEAR FACE|PANDA FACE|PIG NOSE|PAW PRINTS|CHIPMUNK|EYES|EYE|EAR",
   "1f443 |NOSE|MOUTH|TONGUE|WHITE UP POINTING BACKHAND INDEX|WHITE DOWN POINTING BACKHAND INDEX",
   "1f448 WHITE |LEFT POINTING BACKHAND INDEX|RIGHT POINTING BACKHAND INDEX",
   "1f44a |FISTED HAND SIGN|WAVING HAND SIGN|OK HAND SIGN|THUMBS UP SIGN|THUMBS DOWN SIGN",
   "1f44f |CLAPPING HANDS SIGN|OPEN HANDS SIGN|CROWN|WOMANS HAT|EYEGLASSES|NECKTIE|T-SHIRT",
   "1f456 |JEANS|DRESS|KIMONO|BIKINI|WOMANS CLOTHES|PURSE|HANDBAG|POUCH|MANS SHOE",
   "1f45f |ATHLETIC SHOE|HIGH-HEELED SHOE|WOMANS SANDAL|WOMANS BOOTS|FOOTPRINTS|BUST IN SILHOUETTE",
   "1f465 |BUSTS IN SILHOUETTE|BOY|GIRL|MAN|WOMAN|FAMILY|MAN AND WOMAN HOLDING HANDS",
   "1f46c |TWO MEN HOLDING HANDS|TWO WOMEN HOLDING HANDS|POLICE OFFICER|WOMAN WITH BUNNY EARS",
   "1f470 |BRIDE WITH VEIL|PERSON WITH BLOND HAIR|MAN WITH GUA PI MAO|MAN WITH TURBAN|OLDER MAN",
   "1f475 |OLDER WOMAN|BABY|CONSTRUCTION WORKER|PRINCESS|JAPANESE OGRE|JAPANESE GOBLIN",
   "1f47b |GHOST|BABY ANGEL|EXTRATERRESTRIAL ALIEN|ALIEN MONSTER|IMP|SKULL|INFORMATION DESK PERSON",
   "1f482 |GUARDSMAN|DANCER|LIPSTICK|NAIL POLISH|FACE MASSAGE|HAIRCUT|BARBER POLE|SYRINGE",
   "1f48a |PILL|KISS MARK|LOVE LETTER|RING|GEM STONE|KISS|BOUQUET|COUPLE WITH HEART|WEDDING",
   "1f493 |BEATING HEART|BROKEN HEART|TWO HEARTS|SPARKLING HEART|GROWING HEART|HEART WITH ARROW",
   "1f499 |BLUE HEART|GREEN HEART|YELLOW HEART|PURPLE HEART|HEART WITH RIBBON|REVOLVING HEARTS",
   "1f49f |HEART DECORATION|DIAMOND SHAPE WITH A DOT INSIDE|ELECTRIC LIGHT BULB|ANGER SYMBOL",
   "1f4a3 |BOMB|SLEEPING SYMBOL|COLLISION SYMBOL|SPLASHING SWEAT SYMBOL|DROPLET|DASH SYMBOL",
   "1f4a9 |PILE OF POO|FLEXED BICEPS|DIZZY SYMBOL|SPEECH BALLOON|THOUGHT BALLOON|WHITE FLOWER",
   "1f4af |HUNDRED POINTS SYMBOL|MONEY BAG|CURRENCY EXCHANGE|HEAVY DOLLAR SIGN|CREDIT CARD",
   "1f4b4 BANKNOTE WITH |YEN SIGN|DOLLAR SIGN|EURO SIGN|POUND SIGN",
   "1f4b8 |MONEY WITH WINGS|CHART WITH UPWARDS TREND AND YEN SIGN|SEAT|PERSONAL COMPUTER|BRIEFCASE",
   "1f4bd |MINIDISC|FLOPPY DISK|OPTICAL DISC|DVD|FILE FOLDER",
   "1f4c2 |OPEN FILE FOLDER|PAGE WITH CURL|PAGE FACING UP|CALENDAR|TEAR-OFF CALENDAR|CARD INDEX",
   "1f4c8 CHART WITH |UPWARDS TREND|DOWNWARDS TREND",
   "1f4ca |BAR CHART|CLIPBOARD|PUSHPIN|ROUND PUSHPIN|PAPERCLIP|STRAIGHT RULER|TRIANGULAR RULER",
   "1f4d1 |BOOKMARK TABS|LEDGER|NOTEBOOK|NOTEBOOK WITH DECORATIVE COVER|CLOSED BOOK|OPEN BOOK",
   "1f4d7 |GREEN BOOK|BLUE BOOK|ORANGE BOOK|BOOKS|NAME BADGE|SCROLL|MEMO|TELEPHONE RECEIVER|PAGER",
   "1f4e0 |FAX MACHINE|SATELLITE ANTENNA|PUBLIC ADDRESS LOUDSPEAKER|CHEERING MEGAPHONE|OUTBOX TRAY",
   "1f4e5 |INBOX TRAY|PACKAGE|E-MAIL SYMBOL|INCOMING ENVELOPE|ENVELOPE WITH DOWNWARDS ARROW ABOVE",
   "1f4ea CLOSED MAILBOX WITH |LOWERED FLAG|RAISED FLAG",
   "1f4ec OPEN MAILBOX WITH |RAISED FLAG|LOWERED FLAG",
   "1f4ee |POSTBOX|POSTAL HORN|NEWSPAPER|MOBILE PHONE|MOBILE PHONE WITH RIGHTWARDS ARROW AT LEFT",
   "1f4f3 |VIBRATION MODE|MOBILE PHONE OFF|NO MOBILE PHONES|ANTENNA WITH BARS",
   "1f4f7 |CAMERA|CAMERA WITH FLASH|VIDEO CAMERA|TELEVISION|RADIO",
   "1f4fc |VIDEOCASSETTE|FILM PROJECTOR|PORTABLE STEREO|PRAYER BEADS|TWISTED RIGHTWARDS ARROWS",
   "1f501 CLOCKWISE RIGHTWARDS AND LEFTWARDS OPEN CIRCLE |ARROWS|ARROWS WITH CIRCLED ONE OVERLAY",
   "1f503 |CLOCKWISE DOWNWARDS AND UPWARDS OPEN CIRCLE ARROWS",
   "1f504 |ANTICLOCKWISE DOWNWARDS AND UPWARDS OPEN CIRCLE ARROWS|LOW BRIGHTNESS SYMBOL",
   "1f506 |HIGH BRIGHTNESS SYMBOL|SPEAKER WITH CANCELLATION STROKE|SPEAKER",
   "1f509 |SPEAKER WITH ONE SOUND WAVE|SPEAKER WITH THREE SOUND WAVES|BATTERY|ELECTRIC PLUG",
   "1f50d |LEFT-POINTING MAGNIFYING GLASS|RIGHT-POINTING MAGNIFYING GLASS|LOCK WITH INK PEN",
   "1f510 |CLOSED LOCK WITH KEY|KEY|LOCK|OPEN LOCK|BELL|BELL WITH CANCELLATION STROKE|BOOKMARK",
   "1f517 |LINK SYMBOL|RADIO BUTTON|BACK WITH LEFTWARDS ARROW ABOVE|END WITH LEFTWARDS ARROW ABOVE",
   "1f51b |ON WITH EXCLAMATION MARK WITH LEFT RIGHT ARROW ABOVE|SOON WITH RIGHTWARDS ARROW ABOVE",
   "1f51d |TOP WITH UPWARDS ARROW ABOVE|NO ONE UNDER EIGHTEEN SYMBOL|KEYCAP TEN",
   "1f520 INPUT SYMBOL FOR |LATIN CAPITAL LETTERS|LATIN SMALL LETTERS|NUMBERS|SYMBOLS",
   "1f524 |INPUT SYMBOL FOR LATIN LETTERS|FIRE|ELECTRIC TORCH|WRENCH|HAMMER|NUT AND BOLT",
   "1f52a |HOCHO|PISTOL|MICROSCOPE|TELESCOPE|CRYSTAL BALL|SIX POINTED STAR WITH MIDDLE DOT",
   "1f530 |JAPANESE SYMBOL FOR BEGINNER|TRIDENT EMBLEM|BLACK SQUARE BUTTON|WHITE SQUARE BUTTON",
   "1f534 LARGE |RED CIRCLE|BLUE CIRCLE|ORANGE DIAMOND|BLUE DIAMOND",
   "1f538 SMALL |ORANGE DIAMOND|BLUE DIAMOND",
   "1f53a |UP-POINTING RED TRIANGLE|DOWN-POINTING RED TRIANGLE|UP-POINTING SMALL RED TRIANGLE",
   "1f53d |DOWN-POINTING SMALL RED TRIANGLE|LOWER RIGHT SHADOWED WHITE CIRCLE",
   "1f53f |UPPER RIGHT SHADOWED WHITE CIRCLE|CIRCLED CROSS POMMEE",
   "1f541 CROSS |POMMEE WITH HALF-CIRCLE BELOW|POMMEE",
   "1f543 NOTCHED |LEFT SEMICIRCLE WITH THREE DOTS|RIGHT SEMICIRCLE WITH THREE DOTS",
   "1f545 |SYMBOL FOR MARKS CHAPTER|WHITE LATIN CROSS|HEAVY LATIN CROSS|CELTIC CROSS|OM SYMBOL",
   "1f54a |DOVE OF PEACE|KAABA|MOSQUE|SYNAGOGUE|MENORAH WITH NINE BRANCHES|BOWL OF HYGIEIA",
   "1f550 CLOCK FACE |ONE OCLOCK|TWO OCLOCK|THREE OCLOCK|FOUR OCLOCK|FIVE OCLOCK|SIX OCLOCK",
   "1f556 CLOCK FACE |SEVEN OCLOCK|EIGHT OCLOCK|NINE OCLOCK|TEN OCLOCK|ELEVEN OCLOCK|TWELVE OCLOCK",
   "1f55c CLOCK FACE |ONE-THIRTY|TWO-THIRTY|THREE-THIRTY|FOUR-THIRTY|FIVE-THIRTY|SIX-THIRTY",
   "1f562 CLOCK FACE |SEVEN-THIRTY|EIGHT-THIRTY|NINE-THIRTY|TEN-THIRTY|ELEVEN-THIRTY|TWELVE-THIRTY",
   "1f568 RIGHT |SPEAKER|SPEAKER WITH ONE SOUND WAVE|SPEAKER WITH THREE SOUND WAVES",
   "1f56b |BULLHORN|BULLHORN WITH SOUND WAVES|RINGING BELL|BOOK|CANDLE|MANTELPIECE CLOCK",
   "1f571 |BLACK SKULL AND CROSSBONES|NO PIRACY|HOLE|MAN IN BUSINESS SUIT LEVITATING",
   "1f575 |SLEUTH OR SPY|DARK SUNGLASSES|SPIDER|SPIDER WEB|JOYSTICK|MAN DANCING",
   "1f57b |LEFT HAND TELEPHONE RECEIVER|TELEPHONE RECEIVER WITH PAGE|RIGHT HAND TELEPHONE RECEIVER",
   "1f57e |WHITE TOUCHTONE TELEPHONE|BLACK TOUCHTONE TELEPHONE|TELEPHONE ON TOP OF MODEM",
   "1f581 |CLAMSHELL MOBILE PHONE|BACK OF ENVELOPE|STAMPED ENVELOPE|ENVELOPE WITH LIGHTNING",
   "1f585 |FLYING ENVELOPE|PEN OVER STAMPED ENVELOPE|LINKED PAPERCLIPS|BLACK PUSHPIN",
   "1f589 LOWER LEFT |PENCIL|BALLPOINT PEN|FOUNTAIN PEN|PAINTBRUSH|CRAYON",
   "1f58e |LEFT WRITING HAND|TURNED OK HAND SIGN",
   "1f590 |RAISED HAND WITH FINGERS SPLAYED|REVERSED RAISED HAND WITH FINGERS SPLAYED",
   "1f592 REVERSED |THUMBS UP SIGN|THUMBS DOWN SIGN|VICTORY HAND|HAND WITH MIDDLE FINGER EXTENDED",
   "1f596 |RAISED HAND WITH PART BETWEEN MIDDLE AND RING FINGERS",
   "1f597 |WHITE DOWN POINTING LEFT HAND INDEX",
   "1f598 SIDEWAYS |WHITE LEFT POINTING INDEX|WHITE RIGHT POINTING INDEX|BLACK LEFT POINTING INDEX",
   "1f59b |SIDEWAYS BLACK RIGHT POINTING INDEX|BLACK LEFT POINTING BACKHAND INDEX",
   "1f59d |BLACK RIGHT POINTING BACKHAND INDEX|SIDEWAYS WHITE UP POINTING INDEX",
   "1f59f SIDEWAYS |WHITE DOWN POINTING INDEX|BLACK UP POINTING INDEX|BLACK DOWN POINTING INDEX",
   "1f5a2 BLACK |UP POINTING BACKHAND INDEX|DOWN POINTING BACKHAND INDEX|HEART",
   "1f5a5 |DESKTOP COMPUTER|KEYBOARD AND MOUSE|THREE NETWORKED COMPUTERS|PRINTER",
   "1f5a9 |POCKET CALCULATOR|BLACK HARD SHELL FLOPPY DISK|WHITE HARD SHELL FLOPPY DISK",
   "1f5ac |SOFT SHELL FLOPPY DISK|TAPE CARTRIDGE|WIRED KEYBOARD|ONE BUTTON MOUSE|TWO BUTTON MOUSE",
   "1f5b1 |THREE BUTTON MOUSE|TRACKBALL|OLD PERSONAL COMPUTER|HARD DISK|SCREEN|PRINTER ICON",
   "1f5b7 |FAX ICON|OPTICAL DISC ICON|DOCUMENT WITH TEXT|DOCUMENT WITH TEXT AND PICTURE",
   "1f5bb |DOCUMENT WITH PICTURE|FRAME WITH PICTURE|FRAME WITH TILES|FRAME WITH AN X|BLACK FOLDER",
   "1f5c0 |FOLDER|OPEN FOLDER|CARD INDEX DIVIDERS|CARD FILE BOX|FILE CABINET|EMPTY NOTE",
   "1f5c6 |EMPTY NOTE PAGE|EMPTY NOTE PAD|NOTE|NOTE PAGE|NOTE PAD|EMPTY DOCUMENT|EMPTY PAGE",
   "1f5cd |EMPTY PAGES|DOCUMENT|PAGE|PAGES|WASTEBASKET|SPIRAL NOTE PAD|SPIRAL CALENDAR PAD",
   "1f5d4 |DESKTOP WINDOW|MINIMIZE|MAXIMIZE|OVERLAP|CLOCKWISE RIGHT AND LEFT SEMICIRCLE ARROWS",
   "1f5d9 |CANCELLATION X|INCREASE FONT SIZE SYMBOL|DECREASE FONT SIZE SYMBOL",
   "1f5dc |COMPRESSION|OLD KEY|ROLLED-UP NEWSPAPER|PAGE WITH CIRCLED TEXT|STOCK CHART",
   "1f5e1 |DAGGER KNIFE|LIPS|SPEAKING HEAD IN SILHOUETTE|THREE RAYS ABOVE|THREE RAYS BELOW",
   "1f5e6 |THREE RAYS LEFT|THREE RAYS RIGHT|LEFT SPEECH BUBBLE|RIGHT SPEECH BUBBLE",
   "1f5ea |TWO SPEECH BUBBLES|THREE SPEECH BUBBLES|LEFT THOUGHT BUBBLE|RIGHT THOUGHT BUBBLE",
   "1f5ee |LEFT ANGER BUBBLE|RIGHT ANGER BUBBLE|MOOD BUBBLE|LIGHTNING MOOD BUBBLE|LIGHTNING MOOD",
   "1f5f3 BALLOT |BOX WITH BALLOT|SCRIPT X|BOX WITH SCRIPT X|BOLD SCRIPT X|BOX WITH BOLD SCRIPT X",
   "1f5f8 |LIGHT CHECK MARK|BALLOT BOX WITH BOLD CHECK|WORLD MAP",
   "1f5fb |MOUNT FUJI|TOKYO TOWER|STATUE OF LIBERTY|SILHOUETTE OF JAPAN|MOYAI|GRINNING FACE",
   "1f601 |GRINNING FACE WITH SMILING EYES|FACE WITH TEARS OF JOY|SMILING FACE WITH OPEN MOUTH",
   "1f604 SMILING FACE WITH OPEN MOUTH AND |SMILING EYES|COLD SWEAT|TIGHTLY-CLOSED EYES",
   "1f607 SMILING FACE WITH |HALO|HORNS",
   "1f609 |WINKING FACE|SMILING FACE WITH SMILING EYES|FACE SAVOURING DELICIOUS FOOD|RELIEVED FACE",
   "1f60d SMILING FACE WITH |HEART-SHAPED EYES|SUNGLASSES",
   "1f60f |SMIRKING FACE|NEUTRAL FACE|EXPRESSIONLESS FACE|UNAMUSED FACE|FACE WITH COLD SWEAT",
   "1f614 |PENSIVE FACE|CONFUSED FACE|CONFOUNDED FACE|KISSING FACE|FACE THROWING A KISS",
   "1f619 KISSING FACE WITH |SMILING EYES|CLOSED EYES",
   "1f61b FACE WITH STUCK-OUT |TONGUE|TONGUE AND WINKING EYE|TONGUE AND TIGHTLY-CLOSED EYES",
   "1f61e |DISAPPOINTED FACE|WORRIED FACE|ANGRY FACE|POUTING FACE|CRYING FACE|PERSEVERING FACE",
   "1f624 |FACE WITH LOOK OF TRIUMPH|DISAPPOINTED BUT RELIEVED FACE|FROWNING FACE WITH OPEN MOUTH",
   "1f627 |ANGUISHED FACE|FEARFUL FACE|WEARY FACE|SLEEPY FACE|TIRED FACE|GRIMACING FACE",
   "1f62d |LOUDLY CRYING FACE|FACE WITH OPEN MOUTH|HUSHED FACE|FACE WITH OPEN MOUTH AND COLD SWEAT",
   "1f631 |FACE SCREAMING IN FEAR|ASTONISHED FACE|FLUSHED FACE|SLEEPING FACE|DIZZY FACE",
   "1f636 FACE |WITHOUT MOUTH|WITH MEDICAL MASK",
   "1f638 |GRINNING CAT FACE WITH SMILING EYES|CAT FACE WITH TEARS OF JOY",
   "1f63a SMILING CAT FACE WITH |OPEN MOUTH|HEART-SHAPED EYES",
   "1f63c |CAT FACE WITH WRY SMILE|KISSING CAT FACE WITH CLOSED EYES|POUTING CAT FACE",
   "1f63f |CRYING CAT FACE|WEARY CAT FACE|SLIGHTLY FROWNING FACE|SLIGHTLY SMILING FACE",
   "1f643 |UPSIDE-DOWN FACE|FACE WITH ROLLING EYES|FACE WITH NO GOOD GESTURE|FACE WITH OK GESTURE",
   "1f647 |PERSON BOWING DEEPLY|SEE-NO-EVIL MONKEY|HEAR-NO-EVIL MONKEY|SPEAK-NO-EVIL MONKEY",
   "1f64b |HAPPY PERSON RAISING ONE HAND|PERSON RAISING BOTH HANDS IN CELEBRATION|PERSON FROWNING",
   "1f64e |PERSON WITH POUTING FACE|PERSON WITH FOLDED HANDS|NORTH WEST POINTING LEAF",
   "1f651 |SOUTH WEST POINTING LEAF|NORTH EAST POINTING LEAF|SOUTH EAST POINTING LEAF",
   "1f654 TURNED |NORTH WEST POINTING LEAF|SOUTH WEST POINTING LEAF|NORTH EAST POINTING LEAF",
   "1f657 |TURNED SOUTH EAST POINTING LEAF|NORTH WEST POINTING VINE LEAF",
   "1f659 |SOUTH WEST POINTING VINE LEAF|NORTH EAST POINTING VINE LEAF",
   "1f65b |SOUTH EAST POINTING VINE LEAF|HEAVY NORTH WEST POINTING VINE LEAF",
   "1f65d HEAVY |SOUTH WEST POINTING VINE LEAF|NORTH EAST POINTING VINE LEAF",
   "1f65f |HEAVY SOUTH EAST POINTING VINE LEAF|NORTH WEST POINTING BUD|SOUTH WEST POINTING BUD",
   "1f662 |NORTH EAST POINTING BUD|SOUTH EAST POINTING BUD|HEAVY NORTH WEST POINTING BUD",
   "1f665 HEAVY |SOUTH WEST POINTING BUD|NORTH EAST POINTING BUD|SOUTH EAST POINTING BUD",
   "1f668 HOLLOW QUILT SQUARE |ORNAMENT|ORNAMENT IN BLACK SQUARE",
   "1f66a SOLID QUILT SQUARE |ORNAMENT|ORNAMENT IN BLACK SQUARE",
   "1f66c |LEFTWARDS ROCKET|UPWARDS ROCKET|RIGHTWARDS ROCKET|DOWNWARDS ROCKET",
   "1f670 |SCRIPT LIGATURE ET ORNAMENT|HEAVY SCRIPT LIGATURE ET ORNAMENT|LIGATURE OPEN ET ORNAMENT",
   "1f673 HEAVY |LIGATURE OPEN ET ORNAMENT|AMPERSAND ORNAMENT",
   "1f675 |SWASH AMPERSAND ORNAMENT|SANS-SERIF HEAVY DOUBLE TURNED COMMA QUOTATION MARK ORNAMENT",
   "1f677 |SANS-SERIF HEAVY DOUBLE COMMA QUOTATION MARK ORNAMENT",
   "1f678 |SANS-SERIF HEAVY LOW DOUBLE COMMA QUOTATION MARK ORNAMENT|HEAVY INTERROBANG ORNAMENT",
   "1f67a |SANS-SERIF INTERROBANG ORNAMENT|HEAVY SANS-SERIF INTERROBANG ORNAMENT",
   "1f67c VERY HEAVY |SOLIDUS|REVERSE SOLIDUS",
   "1f67e |CHECKER BOARD|REVERSE CHECKER BOARD|ROCKET|HELICOPTER|STEAM LOCOMOTIVE|RAILWAY CAR",
   "1f684 HIGH-SPEED |TRAIN|TRAIN WITH BULLET NOSE",
   "1f686 |TRAIN|METRO|LIGHT RAIL|STATION|TRAM|TRAM CAR|BUS|ONCOMING BUS|TROLLEYBUS",
   "1f68f |BUS STOP|MINIBUS|AMBULANCE|FIRE ENGINE|POLICE CAR|ONCOMING POLICE CAR|TAXI",
   "1f696 |ONCOMING TAXI|AUTOMOBILE|ONCOMING AUTOMOBILE|RECREATIONAL VEHICLE|DELIVERY TRUCK",
   "1f69b |ARTICULATED LORRY|TRACTOR|MONORAIL|MOUNTAIN RAILWAY|SUSPENSION RAILWAY",
   "1f6a0 |MOUNTAIN CABLEWAY|AERIAL TRAMWAY|SHIP|ROWBOAT|SPEEDBOAT|HORIZONTAL TRAFFIC LIGHT",
   "1f6a6 |VERTICAL TRAFFIC LIGHT|CONSTRUCTION SIGN|POLICE CARS REVOLVING LIGHT",
   "1f6a9 |TRIANGULAR FLAG ON POST|DOOR|NO ENTRY SIGN|SMOKING SYMBOL|NO SMOKING SYMBOL",
   "1f6ae |PUT LITTER IN ITS PLACE SYMBOL|DO NOT LITTER SYMBOL|POTABLE WATER SYMBOL",
   "1f6b1 |NON-POTABLE WATER SYMBOL|BICYCLE|NO BICYCLES|BICYCLIST|MOUNTAIN BICYCLIST|PEDESTRIAN",
   "1f6b7 |NO PEDESTRIANS|CHILDREN CROSSING|MENS SYMBOL|WOMENS SYMBOL|RESTROOM|BABY SYMBOL|TOILET",
   "1f6be |WATER CLOSET|SHOWER|BATH|BATHTUB|PASSPORT CONTROL|CUSTOMS|BAGGAGE CLAIM|LEFT LUGGAGE",
   "1f6c6 |TRIANGLE WITH ROUNDED CORNERS|PROHIBITED SIGN|CIRCLED INFORMATION SOURCE|BOYS SYMBOL",
   "1f6ca |GIRLS SYMBOL|COUCH AND LAMP|SLEEPING ACCOMMODATION|SHOPPING BAGS|BELLHOP BELL|BED",
   "1f6d0 |PLACE OF WORSHIP|OCTAGONAL SIGN|SHOPPING TROLLEY|STUPA|PAGODA|HINDU TEMPLE|HUT|ELEVATOR",
   "1f6dd |PLAYGROUND SLIDE",
   "1f6de |WHEEL|RING BUOY|HAMMER AND WRENCH|SHIELD|OIL DRUM|MOTORWAY|RAILWAY TRACK|MOTOR BOAT",
   "1f6e6 UP-POINTING |MILITARY AIRPLANE|AIRPLANE|SMALL AIRPLANE",
   "1f6e9 |SMALL AIRPLANE|NORTHEAST-POINTING AIRPLANE|AIRPLANE DEPARTURE|AIRPLANE ARRIVING",
   "1f6f0 |SATELLITE|ONCOMING FIRE ENGINE|DIESEL LOCOMOTIVE|PASSENGER SHIP|SCOOTER|MOTOR SCOOTER",
   "1f6f6 |CANOE|SLED|FLYING SAUCER|SKATEBOARD|AUTO RICKSHAW|PICKUP TRUCK|ROLLER SKATE",
   "1f700 ALCHEMICAL SYMBOL FOR |QUINTESSENCE|AIR|FIRE|EARTH|WATER|AQUAFORTIS|AQUA REGIA",
   "1f707 ALCHEMICAL SYMBOL FOR |AQUA REGIA-2|AQUA VITAE|AQUA VITAE-2|VINEGAR|VINEGAR-2|VINEGAR-3",
   "1f70d ALCHEMICAL SYMBOL FOR |SULFUR|PHILOSOPHERS SULFUR|BLACK SULFUR|MERCURY SUBLIMATE",
   "1f711 ALCHEMICAL SYMBOL FOR MERCURY SUBLIMATE-|2|3",
   "1f713 ALCHEMICAL SYMBOL FOR |CINNABAR|SALT|NITRE|VITRIOL|VITRIOL-2|ROCK SALT|ROCK SALT-2",
   "1f71a ALCHEMICAL SYMBOL FOR |GOLD|SILVER|IRON ORE|IRON ORE-2|CROCUS OF IRON|REGULUS OF IRON",
   "1f720 ALCHEMICAL SYMBOL FOR |COPPER ORE|IRON-COPPER ORE|SUBLIMATE OF COPPER|CROCUS OF COPPER",
   "1f724 ALCHEMICAL SYMBOL FOR |CROCUS OF COPPER-2|COPPER ANTIMONIATE|SALT OF COPPER ANTIMONIATE",
   "1f727 ALCHEMICAL SYMBOL FOR |SUBLIMATE OF SALT OF COPPER|VERDIGRIS|TIN ORE",
   "1f72a ALCHEMICAL SYMBOL FOR |LEAD ORE|ANTIMONY ORE|SUBLIMATE OF ANTIMONY|SALT OF ANTIMONY",
   "1f72e ALCHEMICAL SYMBOL FOR |SUBLIMATE OF SALT OF ANTIMONY|VINEGAR OF ANTIMONY",
   "1f730 ALCHEMICAL SYMBOL FOR |REGULUS OF ANTIMONY|REGULUS OF ANTIMONY-2|REGULUS|REGULUS-2",
   "1f734 ALCHEMICAL SYMBOL FOR |REGULUS-3|REGULUS-4|ALKALI|ALKALI-2|MARCASITE|SAL-AMMONIAC",
   "1f73a ALCHEMICAL SYMBOL FOR |ARSENIC|REALGAR|REALGAR-2|AURIPIGMENT|BISMUTH ORE|TARTAR|TARTAR-2",
   "1f741 ALCHEMICAL SYMBOL FOR |QUICK LIME|BORAX|BORAX-2|BORAX-3|ALUM|OIL|SPIRIT|TINCTURE",
   "1f749 ALCHEMICAL SYMBOL FOR |GUM|WAX|POWDER|CALX|TUTTY|CAPUT MORTUUM|SCEPTER OF JOVE|CADUCEUS",
   "1f751 ALCHEMICAL SYMBOL FOR |TRIDENT|STARRED TRIDENT|LODESTONE|SOAP|URINE|HORSE DUNG|ASHES",
   "1f758 ALCHEMICAL SYMBOL FOR |POT ASHES|BRICK|POWDERED BRICK|AMALGAM|STRATUM SUPER STRATUM",
   "1f75d ALCHEMICAL SYMBOL FOR |STRATUM SUPER STRATUM-2|SUBLIMATION|PRECIPITATE|DISTILL|DISSOLVE",
   "1f762 ALCHEMICAL SYMBOL FOR |DISSOLVE-2|PURIFY|PUTREFACTION|CRUCIBLE|CRUCIBLE-2|CRUCIBLE-3",
   "1f768 ALCHEMICAL SYMBOL FOR |CRUCIBLE-4|CRUCIBLE-5|ALEMBIC|BATH OF MARY|BATH OF VAPOURS",
   "1f76d ALCHEMICAL SYMBOL FOR |RETORT|HOUR|NIGHT|DAY-NIGHT|MONTH|HALF DRAM|HALF OUNCE",
   "1f780 BLACK |LEFT-POINTING ISOSCELES RIGHT TRIANGLE|UP-POINTING ISOSCELES RIGHT TRIANGLE",
   "1f782 BLACK |RIGHT-POINTING ISOSCELES RIGHT TRIANGLE|DOWN-POINTING ISOSCELES RIGHT TRIANGLE",
   "1f784 |BLACK SLIGHTLY SMALL CIRCLE|MEDIUM BOLD WHITE CIRCLE|BOLD WHITE CIRCLE",
   "1f787 |HEAVY WHITE CIRCLE|VERY HEAVY WHITE CIRCLE|EXTREMELY HEAVY WHITE CIRCLE",
   "1f78a |WHITE CIRCLE CONTAINING BLACK SMALL CIRCLE|ROUND TARGET|BLACK TINY SQUARE",
   "1f78d |BLACK SLIGHTLY SMALL SQUARE|LIGHT WHITE SQUARE|MEDIUM WHITE SQUARE|BOLD WHITE SQUARE",
   "1f791 |HEAVY WHITE SQUARE|VERY HEAVY WHITE SQUARE|EXTREMELY HEAVY WHITE SQUARE",
   "1f794 WHITE SQUARE CONTAINING BLACK |VERY SMALL SQUARE|MEDIUM SQUARE",
   "1f796 |SQUARE TARGET|BLACK TINY DIAMOND|BLACK VERY SMALL DIAMOND|BLACK MEDIUM SMALL DIAMOND",
   "1f79a WHITE DIAMOND CONTAINING BLACK |VERY SMALL DIAMOND|MEDIUM DIAMOND",
   "1f79c |DIAMOND TARGET|BLACK TINY LOZENGE|BLACK VERY SMALL LOZENGE",
   "1f79f |BLACK MEDIUM SMALL LOZENGE|WHITE LOZENGE CONTAINING BLACK SMALL LOZENGE",
   "1f7a1 |THIN GREEK CROSS|LIGHT GREEK CROSS|MEDIUM GREEK CROSS|BOLD GREEK CROSS",
   "1f7a5 |VERY BOLD GREEK CROSS|VERY HEAVY GREEK CROSS|EXTREMELY HEAVY GREEK CROSS",
   "1f7a8 |THIN SALTIRE|LIGHT SALTIRE|MEDIUM SALTIRE|BOLD SALTIRE|HEAVY SALTIRE|VERY HEAVY SALTIRE",
   "1f7ae |EXTREMELY HEAVY SALTIRE|LIGHT FIVE SPOKED ASTERISK|MEDIUM FIVE SPOKED ASTERISK",
   "1f7b1 |BOLD FIVE SPOKED ASTERISK|HEAVY FIVE SPOKED ASTERISK|VERY HEAVY FIVE SPOKED ASTERISK",
   "1f7b4 |EXTREMELY HEAVY FIVE SPOKED ASTERISK|LIGHT SIX SPOKED ASTERISK",
   "1f7b6 |MEDIUM SIX SPOKED ASTERISK|BOLD SIX SPOKED ASTERISK|HEAVY SIX SPOKED ASTERISK",
   "1f7b9 |VERY HEAVY SIX SPOKED ASTERISK|EXTREMELY HEAVY SIX SPOKED ASTERISK",
   "1f7bb |LIGHT EIGHT SPOKED ASTERISK|MEDIUM EIGHT SPOKED ASTERISK",
   "1f7bd |BOLD EIGHT SPOKED ASTERISK|HEAVY EIGHT SPOKED ASTERISK|VERY HEAVY EIGHT SPOKED ASTERISK",
   "1f7c0 |LIGHT THREE POINTED BLACK STAR|MEDIUM THREE POINTED BLACK STAR",
   "1f7c2 |THREE POINTED BLACK STAR|MEDIUM THREE POINTED PINWHEEL STAR",
   "1f7c4 |LIGHT FOUR POINTED BLACK STAR|MEDIUM FOUR POINTED BLACK STAR|FOUR POINTED BLACK STAR",
   "1f7c7 |MEDIUM FOUR POINTED PINWHEEL STAR|REVERSE LIGHT FOUR POINTED PINWHEEL STAR",
   "1f7c9 |LIGHT FIVE POINTED BLACK STAR|HEAVY FIVE POINTED BLACK STAR",
   "1f7cb |MEDIUM SIX POINTED BLACK STAR|HEAVY SIX POINTED BLACK STAR|SIX POINTED PINWHEEL STAR",
   "1f7ce |MEDIUM EIGHT POINTED BLACK STAR|HEAVY EIGHT POINTED BLACK STAR",
   "1f7d0 |VERY HEAVY EIGHT POINTED BLACK STAR|HEAVY EIGHT POINTED PINWHEEL STAR",
   "1f7d2 |LIGHT TWELVE POINTED BLACK STAR",
   "1f7d3 HEAVY TWELVE POINTED |BLACK STAR|PINWHEEL STAR",
   "1f7d5 |CIRCLED TRIANGLE|NEGATIVE CIRCLED TRIANGLE|CIRCLED SQUARE|NEGATIVE CIRCLED SQUARE",
   "1f7e0 LARGE |ORANGE CIRCLE|YELLOW CIRCLE|GREEN CIRCLE|PURPLE CIRCLE|BROWN CIRCLE|RED SQUARE",
   "1f7e6 LARGE |BLUE SQUARE|ORANGE SQUARE|YELLOW SQUARE|GREEN SQUARE|PURPLE SQUARE|BROWN SQUARE",
   "1f7f0 |HEAVY EQUALS SIGN",
   "1f800 |LEFTWARDS ARROW WITH SMALL TRIANGLE ARROWHEAD",
   "1f801 |UPWARDS ARROW WITH SMALL TRIANGLE ARROWHEAD",
   "1f802 |RIGHTWARDS ARROW WITH SMALL TRIANGLE ARROWHEAD",
   "1f803 |DOWNWARDS ARROW WITH SMALL TRIANGLE ARROWHEAD",
   "1f804 |LEFTWARDS ARROW WITH MEDIUM TRIANGLE ARROWHEAD",
   "1f805 |UPWARDS ARROW WITH MEDIUM TRIANGLE ARROWHEAD",
   "1f806 |RIGHTWARDS ARROW WITH MEDIUM TRIANGLE ARROWHEAD",
   "1f807 |DOWNWARDS ARROW WITH MEDIUM TRIANGLE ARROWHEAD",
   "1f808 |LEFTWARDS ARROW WITH LARGE TRIANGLE ARROWHEAD",
   "1f809 |UPWARDS ARROW WITH LARGE TRIANGLE ARROWHEAD",
   "1f80a |RIGHTWARDS ARROW WITH LARGE TRIANGLE ARROWHEAD",
   "1f80b |DOWNWARDS ARROW WITH LARGE TRIANGLE ARROWHEAD",
   "1f810 |LEFTWARDS ARROW WITH SMALL EQUILATERAL ARROWHEAD",
   "1f811 |UPWARDS ARROW WITH SMALL EQUILATERAL ARROWHEAD",
   "1f812 |RIGHTWARDS ARROW WITH SMALL EQUILATERAL ARROWHEAD",
   "1f813 |DOWNWARDS ARROW WITH SMALL EQUILATERAL ARROWHEAD",
   "1f814 |LEFTWARDS ARROW WITH EQUILATERAL ARROWHEAD|UPWARDS ARROW WITH EQUILATERAL ARROWHEAD",
   "1f816 |RIGHTWARDS ARROW WITH EQUILATERAL ARROWHEAD|DOWNWARDS ARROW WITH EQUILATERAL ARROWHEAD",
   "1f818 |HEAVY LEFTWARDS ARROW WITH EQUILATERAL ARROWHEAD",
   "1f819 |HEAVY UPWARDS ARROW WITH EQUILATERAL ARROWHEAD",
   "1f81a |HEAVY RIGHTWARDS ARROW WITH EQUILATERAL ARROWHEAD",
   "1f81b |HEAVY DOWNWARDS ARROW WITH EQUILATERAL ARROWHEAD",
   "1f81c |HEAVY LEFTWARDS ARROW WITH LARGE EQUILATERAL ARROWHEAD",
   "1f81d |HEAVY UPWARDS ARROW WITH LARGE EQUILATERAL ARROWHEAD",
   "1f81e |HEAVY RIGHTWARDS ARROW WITH LARGE EQUILATERAL ARROWHEAD",
   "1f81f |HEAVY DOWNWARDS ARROW WITH LARGE EQUILATERAL ARROWHEAD",
   "1f820 |LEFTWARDS TRIANGLE-HEADED ARROW WITH NARROW SHAFT",
   "1f821 |UPWARDS TRIANGLE-HEADED ARROW WITH NARROW SHAFT",
   "1f822 |RIGHTWARDS TRIANGLE-HEADED ARROW WITH NARROW SHAFT",
   "1f823 |DOWNWARDS TRIANGLE-HEADED ARROW WITH NARROW SHAFT",
   "1f824 |LEFTWARDS TRIANGLE-HEADED ARROW WITH MEDIUM SHAFT",
   "1f825 |UPWARDS TRIANGLE-HEADED ARROW WITH MEDIUM SHAFT",
   "1f826 |RIGHTWARDS TRIANGLE-HEADED ARROW WITH MEDIUM SHAFT",
   "1f827 |DOWNWARDS TRIANGLE-HEADED ARROW WITH MEDIUM SHAFT",
   "1f828 |LEFTWARDS TRIANGLE-HEADED ARROW WITH BOLD SHAFT",
   "1f829 |UPWARDS TRIANGLE-HEADED ARROW WITH BOLD SHAFT",
   "1f82a |RIGHTWARDS TRIANGLE-HEADED ARROW WITH BOLD SHAFT",
   "1f82b |DOWNWARDS TRIANGLE-HEADED ARROW WITH BOLD SHAFT",
   "1f82c |LEFTWARDS TRIANGLE-HEADED ARROW WITH HEAVY SHAFT",
   "1f82d |UPWARDS TRIANGLE-HEADED ARROW WITH HEAVY SHAFT",
   "1f82e |RIGHTWARDS TRIANGLE-HEADED ARROW WITH HEAVY SHAFT",
   "1f82f |DOWNWARDS TRIANGLE-HEADED ARROW WITH HEAVY SHAFT",
   "1f830 |LEFTWARDS TRIANGLE-HEADED ARROW WITH VERY HEAVY SHAFT",
   "1f831 |UPWARDS TRIANGLE-HEADED ARROW WITH VERY HEAVY SHAFT",
   "1f832 |RIGHTWARDS TRIANGLE-HEADED ARROW WITH VERY HEAVY SHAFT",
   "1f833 |DOWNWARDS TRIANGLE-HEADED ARROW WITH VERY HEAVY SHAFT|LEFTWARDS FINGER-POST ARROW",
   "1f835 |UPWARDS FINGER-POST ARROW|RIGHTWARDS FINGER-POST ARROW|DOWNWARDS FINGER-POST ARROW",
   "1f838 |LEFTWARDS SQUARED ARROW|UPWARDS SQUARED ARROW|RIGHTWARDS SQUARED ARROW",
   "1f83b |DOWNWARDS SQUARED ARROW|LEFTWARDS COMPRESSED ARROW|UPWARDS COMPRESSED ARROW",
   "1f83e |RIGHTWARDS COMPRESSED ARROW|DOWNWARDS COMPRESSED ARROW|LEFTWARDS HEAVY COMPRESSED ARROW",
   "1f841 |UPWARDS HEAVY COMPRESSED ARROW|RIGHTWARDS HEAVY COMPRESSED ARROW",
   "1f843 |DOWNWARDS HEAVY COMPRESSED ARROW|LEFTWARDS HEAVY ARROW",
   "1f845 |UPWARDS HEAVY ARROW|RIGHTWARDS HEAVY ARROW|DOWNWARDS HEAVY ARROW",
   "1f850 |LEFTWARDS SANS-SERIF ARROW|UPWARDS SANS-SERIF ARROW|RIGHTWARDS SANS-SERIF ARROW",
   "1f853 |DOWNWARDS SANS-SERIF ARROW|NORTH WEST SANS-SERIF ARROW|NORTH EAST SANS-SERIF ARROW",
   "1f856 SOUTH |EAST SANS-SERIF ARROW|WEST SANS-SERIF ARROW",
   "1f858 |LEFT RIGHT SANS-SERIF ARROW|UP DOWN SANS-SERIF ARROW",
   "1f860 WIDE-HEADED |LEFTWARDS LIGHT BARB ARROW|UPWARDS LIGHT BARB ARROW",
   "1f862 WIDE-HEADED |RIGHTWARDS LIGHT BARB ARROW|DOWNWARDS LIGHT BARB ARROW",
   "1f864 WIDE-HEADED NORTH |WEST LIGHT BARB ARROW|EAST LIGHT BARB ARROW",
   "1f866 WIDE-HEADED SOUTH |EAST LIGHT BARB ARROW|WEST LIGHT BARB ARROW",
   "1f868 WIDE-HEADED |LEFTWARDS BARB ARROW|UPWARDS BARB ARROW|RIGHTWARDS BARB ARROW",
   "1f86b WIDE-HEADED |DOWNWARDS BARB ARROW|NORTH WEST BARB ARROW|NORTH EAST BARB ARROW",
   "1f86e WIDE-HEADED SOUTH |EAST BARB ARROW|WEST BARB ARROW",
   "1f870 WIDE-HEADED |LEFTWARDS MEDIUM BARB ARROW|UPWARDS MEDIUM BARB ARROW",
   "1f872 WIDE-HEADED |RIGHTWARDS MEDIUM BARB ARROW|DOWNWARDS MEDIUM BARB ARROW",
   "1f874 WIDE-HEADED NORTH |WEST MEDIUM BARB ARROW|EAST MEDIUM BARB ARROW",
   "1f876 WIDE-HEADED SOUTH |EAST MEDIUM BARB ARROW|WEST MEDIUM BARB ARROW",
   "1f878 WIDE-HEADED |LEFTWARDS HEAVY BARB ARROW|UPWARDS HEAVY BARB ARROW",
   "1f87a WIDE-HEADED |RIGHTWARDS HEAVY BARB ARROW|DOWNWARDS HEAVY BARB ARROW",
   "1f87c WIDE-HEADED NORTH |WEST HEAVY BARB ARROW|EAST HEAVY BARB ARROW",
   "1f87e WIDE-HEADED SOUTH |EAST HEAVY BARB ARROW|WEST HEAVY BARB ARROW",
   "1f880 WIDE-HEADED |LEFTWARDS VERY HEAVY BARB ARROW|UPWARDS VERY HEAVY BARB ARROW",
   "1f882 WIDE-HEADED |RIGHTWARDS VERY HEAVY BARB ARROW|DOWNWARDS VERY HEAVY BARB ARROW",
   "1f884 WIDE-HEADED NORTH |WEST VERY HEAVY BARB ARROW|EAST VERY HEAVY BARB ARROW",
   "1f886 WIDE-HEADED SOUTH |EAST VERY HEAVY BARB ARROW|WEST VERY HEAVY BARB ARROW",
   "1f890 |LEFTWARDS TRIANGLE ARROWHEAD|UPWARDS TRIANGLE ARROWHEAD|RIGHTWARDS TRIANGLE ARROWHEAD",
   "1f893 |DOWNWARDS TRIANGLE ARROWHEAD|LEFTWARDS WHITE ARROW WITHIN TRIANGLE ARROWHEAD",
   "1f895 |UPWARDS WHITE ARROW WITHIN TRIANGLE ARROWHEAD",
   "1f896 |RIGHTWARDS WHITE ARROW WITHIN TRIANGLE ARROWHEAD",
   "1f897 |DOWNWARDS WHITE ARROW WITHIN TRIANGLE ARROWHEAD|LEFTWARDS ARROW WITH NOTCHED TAIL",
   "1f899 |UPWARDS ARROW WITH NOTCHED TAIL|RIGHTWARDS ARROW WITH NOTCHED TAIL",
   "1f89b |DOWNWARDS ARROW WITH NOTCHED TAIL",
   "1f89c HEAVY ARROW SHAFT WIDTH |ONE|TWO THIRDS|ONE HALF|ONE THIRD",
   "1f8a0 |LEFTWARDS BOTTOM-SHADED WHITE ARROW",
   "1f8a1 |RIGHTWARDS BOTTOM SHADED WHITE ARROW|LEFTWARDS TOP SHADED WHITE ARROW",
   "1f8a3 |RIGHTWARDS TOP SHADED WHITE ARROW|LEFTWARDS LEFT-SHADED WHITE ARROW",
   "1f8a5 |RIGHTWARDS RIGHT-SHADED WHITE ARROW|LEFTWARDS RIGHT-SHADED WHITE ARROW",
   "1f8a7 |RIGHTWARDS LEFT-SHADED WHITE ARROW|LEFTWARDS BACK-TILTED SHADOWED WHITE ARROW",
   "1f8a9 |RIGHTWARDS BACK-TILTED SHADOWED WHITE ARROW|LEFTWARDS FRONT-TILTED SHADOWED WHITE ARROW",
   "1f8ab |RIGHTWARDS FRONT-TILTED SHADOWED WHITE ARROW",
   "1f8ac WHITE ARROW SHAFT WIDTH |ONE|TWO THIRDS",
   "1f8b0 ARROW POINTING |UPWARDS THEN NORTH WEST|RIGHTWARDS THEN CURVING SOUTH WEST",
   "1f900 CIRCLED CROSS |FORMEE WITH FOUR DOTS|FORMEE WITH TWO DOTS|FORMEE",
   "1f903 LEFT HALF CIRCLE WITH |FOUR DOTS|THREE DOTS|TWO DOTS|DOT",
   "1f907 |LEFT HALF CIRCLE",
   "1f908 DOWNWARD FACING |HOOK|NOTCHED HOOK|HOOK WITH DOT|NOTCHED HOOK WITH DOT",
   "1f90c |PINCHED FINGERS|WHITE HEART|BROWN HEART|PINCHING HAND|ZIPPER-MOUTH FACE",
   "1f911 |MONEY-MOUTH FACE|FACE WITH THERMOMETER|NERD FACE|THINKING FACE|FACE WITH HEAD-BANDAGE",
   "1f916 |ROBOT FACE|HUGGING FACE|SIGN OF THE HORNS|CALL ME HAND|RAISED BACK OF HAND",
   "1f91b |LEFT-FACING FIST|RIGHT-FACING FIST|HANDSHAKE|HAND WITH INDEX AND MIDDLE FINGERS CROSSED",
   "1f91f |I LOVE YOU HAND SIGN",
   "1f920 |FACE WITH COWBOY HAT|CLOWN FACE|NAUSEATED FACE|ROLLING ON THE FLOOR LAUGHING",
   "1f924 |DROOLING FACE|LYING FACE|FACE PALM|SNEEZING FACE|FACE WITH ONE EYEBROW RAISED",
   "1f929 GRINNING FACE WITH |STAR EYES|ONE LARGE AND ONE SMALL EYE",
   "1f92b |FACE WITH FINGER COVERING CLOSED LIPS|SERIOUS FACE WITH SYMBOLS COVERING MOUTH",
   "1f92d |SMILING FACE WITH SMILING EYES AND HAND COVERING MOUTH|FACE WITH OPEN MOUTH VOMITING",
   "1f92f |SHOCKED FACE WITH EXPLODING HEAD|PREGNANT WOMAN|BREAST-FEEDING|PALMS UP TOGETHER|SELFIE",
   "1f934 |PRINCE|MAN IN TUXEDO|MOTHER CHRISTMAS|SHRUG|PERSON DOING CARTWHEEL|JUGGLING|FENCER",
   "1f93b |MODERN PENTATHLON|WRESTLERS|WATER POLO",
   "1f93e |HANDBALL|DIVING MASK|WILTED FLOWER|DRUM WITH DRUMSTICKS|CLINKING GLASSES|TUMBLER GLASS",
   "1f944 |SPOON|GOAL NET|RIFLE|FIRST PLACE MEDAL|SECOND PLACE MEDAL|THIRD PLACE MEDAL",
   "1f94a |BOXING GLOVE|MARTIAL ARTS UNIFORM|CURLING STONE|LACROSSE STICK AND BALL|SOFTBALL",
   "1f94f |FLYING DISC|CROISSANT|AVOCADO|CUCUMBER|BACON|POTATO|CARROT|BAGUETTE BREAD|GREEN SALAD",
   "1f958 |SHALLOW PAN OF FOOD|STUFFED FLATBREAD|EGG|GLASS OF MILK|PEANUTS|KIWIFRUIT|PANCAKES",
   "1f95f |DUMPLING|FORTUNE COOKIE|TAKEOUT BOX|CHOPSTICKS|BOWL WITH SPOON|CUP WITH STRAW|COCONUT",
   "1f966 |BROCCOLI|PIE|PRETZEL|CUT OF MEAT|SANDWICH|CANNED FOOD|LEAFY GREEN|MANGO|MOON CAKE|BAGEL",
   "1f970 |SMILING FACE WITH SMILING EYES AND THREE HEARTS|YAWNING FACE|SMILING FACE WITH TEAR",
   "1f973 |FACE WITH PARTY HORN AND PARTY HAT|FACE WITH UNEVEN EYES AND WAVY MOUTH|OVERHEATED FACE",
   "1f976 |FREEZING FACE|NINJA|DISGUISED FACE|FACE HOLDING BACK TEARS|FACE WITH PLEADING EYES",
   "1f97b |SARI|LAB COAT|GOGGLES|HIKING BOOT|FLAT SHOE|CRAB|LION FACE|SCORPION|TURKEY",
   "1f984 |UNICORN FACE|EAGLE|DUCK|BAT|SHARK|OWL|FOX FACE|BUTTERFLY|DEER|GORILLA|LIZARD|RHINOCEROS",
   "1f990 |SHRIMP|SQUID|GIRAFFE FACE|ZEBRA FACE|HEDGEHOG|SAUROPOD|T-REX|CRICKET|KANGAROO|LLAMA",
   "1f99a |PEACOCK|HIPPOPOTAMUS|PARROT|RACCOON|LOBSTER|MOSQUITO|MICROBE|BADGER|SWAN|MAMMOTH|DODO",
   "1f9a5 |SLOTH|OTTER|ORANGUTAN|SKUNK|FLAMINGO|OYSTER|BEAVER|BISON|SEAL|GUIDE DOG|PROBING CANE",
   "1f9b0 EMOJI COMPONENT |RED HAIR|CURLY HAIR|BALD|WHITE HAIR",
   "1f9b4 |BONE|LEG|FOOT|TOOTH|SUPERHERO|SUPERVILLAIN",
   "1f9ba |SAFETY VEST|EAR WITH HEARING AID|MOTORIZED WHEELCHAIR|MANUAL WHEELCHAIR|MECHANICAL ARM",
   "1f9bf |MECHANICAL LEG|CHEESE WEDGE|CUPCAKE|SALT SHAKER|BEVERAGE BOX",
   "1f9c4 |GARLIC|ONION|FALAFEL|WAFFLE|BUTTER|MATE DRINK|ICE CUBE|BUBBLE TEA|TROLL|STANDING PERSON",
   "1f9ce |KNEELING PERSON|DEAF PERSON|FACE WITH MONOCLE|ADULT|CHILD|OLDER ADULT|BEARDED PERSON",
   "1f9d5 PERSON |WITH HEADSCARF|IN STEAMY ROOM|CLIMBING|IN LOTUS POSITION",
   "1f9d9 |MAGE|FAIRY|VAMPIRE|MERPERSON|ELF|GENIE|ZOMBIE|BRAIN|ORANGE HEART",
   "1f9e2 |BILLED CAP|SCARF|GLOVES|COAT|SOCKS|RED GIFT ENVELOPE|FIRECRACKER|JIGSAW PUZZLE PIECE",
   "1f9ea |TEST TUBE|PETRI DISH|DNA DOUBLE HELIX|COMPASS|ABACUS|FIRE EXTINGUISHER",
   "1f9f0 |TOOLBOX|BRICK|MAGNET|LUGGAGE|LOTION BOTTLE|SPOOL OF THREAD|BALL OF YARN|SAFETY PIN",
   "1f9f8 |TEDDY BEAR|BROOM|BASKET|ROLL OF PAPER|BAR OF SOAP|SPONGE|RECEIPT|NAZAR AMULET",
   "1fa00 NEUTRAL CHESS |KING|QUEEN|ROOK|BISHOP|KNIGHT|PAWN",
   "1fa06 |WHITE CHESS KNIGHT ROTATED FORTY-FIVE DEGREES",
   "1fa07 |BLACK CHESS KNIGHT ROTATED FORTY-FIVE DEGREES",
   "1fa08 |NEUTRAL CHESS KNIGHT ROTATED FORTY-FIVE DEGREES",
   "1fa09 WHITE CHESS |KING ROTATED NINETY DEGREES|QUEEN ROTATED NINETY DEGREES",
   "1fa0b WHITE CHESS |ROOK ROTATED NINETY DEGREES|BISHOP ROTATED NINETY DEGREES",
   "1fa0d WHITE CHESS |KNIGHT ROTATED NINETY DEGREES|PAWN ROTATED NINETY DEGREES",
   "1fa0f BLACK CHESS |KING ROTATED NINETY DEGREES|QUEEN ROTATED NINETY DEGREES",
   "1fa11 BLACK CHESS |ROOK ROTATED NINETY DEGREES|BISHOP ROTATED NINETY DEGREES",
   "1fa13 BLACK CHESS |KNIGHT ROTATED NINETY DEGREES|PAWN ROTATED NINETY DEGREES",
   "1fa15 NEUTRAL CHESS |KING ROTATED NINETY DEGREES|QUEEN ROTATED NINETY DEGREES",
   "1fa17 NEUTRAL CHESS |ROOK ROTATED NINETY DEGREES|BISHOP ROTATED NINETY DEGREES",
   "1fa19 NEUTRAL CHESS |KNIGHT ROTATED NINETY DEGREES|PAWN ROTATED NINETY DEGREES",
   "1fa1b |WHITE CHESS KNIGHT ROTATED ONE HUNDRED THIRTY-FIVE DEGREES",
   "1fa1c |BLACK CHESS KNIGHT ROTATED ONE HUNDRED THIRTY-FIVE DEGREES",
   "1fa1d |NEUTRAL CHESS KNIGHT ROTATED ONE HUNDRED THIRTY-FIVE DEGREES",
   "1fa1e WHITE CHESS TURNED |KING|QUEEN|ROOK|BISHOP|KNIGHT|PAWN",
   "1fa24 BLACK CHESS TURNED |KING|QUEEN|ROOK|BISHOP|KNIGHT|PAWN",
   "1fa2a NEUTRAL CHESS TURNED |KING|QUEEN|ROOK|BISHOP|KNIGHT|PAWN",
   "1fa30 |WHITE CHESS KNIGHT ROTATED TWO HUNDRED TWENTY-FIVE DEGREES",
   "1fa31 |BLACK CHESS KNIGHT ROTATED TWO HUNDRED TWENTY-FIVE DEGREES",
   "1fa32 |NEUTRAL CHESS KNIGHT ROTATED TWO HUNDRED TWENTY-FIVE DEGREES",
   "1fa33 |WHITE CHESS KING ROTATED TWO HUNDRED SEVENTY DEGREES",
   "1fa34 |WHITE CHESS QUEEN ROTATED TWO HUNDRED SEVENTY DEGREES",
   "1fa35 |WHITE CHESS ROOK ROTATED TWO HUNDRED SEVENTY DEGREES",
   "1fa36 |WHITE CHESS BISHOP ROTATED TWO HUNDRED SEVENTY DEGREES",
   "1fa37 |WHITE CHESS KNIGHT ROTATED TWO HUNDRED SEVENTY DEGREES",
   "1fa38 |WHITE CHESS PAWN ROTATED TWO HUNDRED SEVENTY DEGREES",
   "1fa39 |BLACK CHESS KING ROTATED TWO HUNDRED SEVENTY DEGREES",
   "1fa3a |BLACK CHESS QUEEN ROTATED TWO HUNDRED SEVENTY DEGREES",
   "1fa3b |BLACK CHESS ROOK ROTATED TWO HUNDRED SEVENTY DEGREES",
   "1fa3c |BLACK CHESS BISHOP ROTATED TWO HUNDRED SEVENTY DEGREES",
   "1fa3d |BLACK CHESS KNIGHT ROTATED TWO HUNDRED SEVENTY DEGREES",
   "1fa3e |BLACK CHESS PAWN ROTATED TWO HUNDRED SEVENTY DEGREES",
   "1fa3f |NEUTRAL CHESS KING ROTATED TWO HUNDRED SEVENTY DEGREES",
   "1fa40 |NEUTRAL CHESS QUEEN ROTATED TWO HUNDRED SEVENTY DEGREES",
   "1fa41 |NEUTRAL CHESS ROOK ROTATED TWO HUNDRED SEVENTY DEGREES",
   "1fa42 |NEUTRAL CHESS BISHOP ROTATED TWO HUNDRED SEVENTY DEGREES",
   "1fa43 |NEUTRAL CHESS KNIGHT ROTATED TWO HUNDRED SEVENTY DEGREES",
   "1fa44 |NEUTRAL CHESS PAWN ROTATED TWO HUNDRED SEVENTY DEGREES",
   "1fa45 |WHITE CHESS KNIGHT ROTATED THREE HUNDRED FIFTEEN DEGREES",
   "1fa46 |BLACK CHESS KNIGHT ROTATED THREE HUNDRED FIFTEEN DEGREES",
   "1fa47 |NEUTRAL CHESS KNIGHT ROTATED THREE HUNDRED FIFTEEN DEGREES|WHITE CHESS EQUIHOPPER",
   "1fa49 |BLACK CHESS EQUIHOPPER",
   "1fa4a |NEUTRAL CHESS EQUIHOPPER|WHITE CHESS EQUIHOPPER ROTATED NINETY DEGREES",
   "1fa4c |BLACK CHESS EQUIHOPPER ROTATED NINETY DEGREES",
   "1fa4d |NEUTRAL CHESS EQUIHOPPER ROTATED NINETY DEGREES",
   "1fa4e WHITE CHESS KNIGHT-|QUEEN|ROOK|BISHOP",
   "1fa51 BLACK CHESS KNIGHT-|QUEEN|ROOK|BISHOP",
   "1fa60 XIANGQI RED |GENERAL|MANDARIN|ELEPHANT|HORSE|CHARIOT|CANNON|SOLDIER",
   "1fa67 XIANGQI BLACK |GENERAL|MANDARIN|ELEPHANT|HORSE|CHARIOT|CANNON|SOLDIER",
   "1fa70 |BALLET SHOES|ONE-PIECE SWIMSUIT|BRIEFS|SHORTS|THONG SANDAL",
   "1fa78 |DROP OF BLOOD|ADHESIVE BANDAGE|STETHOSCOPE|X-RAY|CRUTCH",
   "1fa80 |YO-YO|KITE|PARACHUTE|BOOMERANG|MAGIC WAND|PINATA|NESTING DOLLS",
   "1fa90 |RINGED PLANET",
   "1fa91 |CHAIR|RAZOR|AXE|DIYA LAMP|BANJO|MILITARY HELMET|ACCORDION|LONG DRUM|COIN|CARPENTRY SAW",
   "1fa9b |SCREWDRIVER|LADDER|HOOK|MIRROR|WINDOW|PLUNGER|SEWING NEEDLE|KNOT|BUCKET|MOUSE TRAP",
   "1faa5 |TOOTHBRUSH|HEADSTONE|PLACARD|ROCK|MIRROR BALL|IDENTIFICATION CARD|LOW BATTERY|HAMSA",
   "1fab0 |FLY|WORM",
   "1fab2 |BEETLE|COCKROACH|POTTED PLANT|WOOD|FEATHER|LOTUS|CORAL|EMPTY NEST|NEST WITH EGGS",
   "1fac0 |ANATOMICAL HEART|LUNGS|PEOPLE HUGGING|PREGNANT MAN|PREGNANT PERSON|PERSON WITH CROWN",
   "1fad0 |BLUEBERRIES|BELL PEPPER|OLIVE|FLATBREAD|TAMALE|FONDUE|TEAPOT|POURING LIQUID|BEANS|JAR",
   "1fae0 |MELTING FACE|SALUTING FACE|FACE WITH OPEN EYES AND HAND OVER MOUTH",
   "1fae3 |FACE WITH PEEKING EYE|FACE WITH DIAGONAL MOUTH|DOTTED LINE FACE|BITING LIP|BUBBLES",
   "1faf0 |HAND WITH INDEX FINGER AND THUMB CROSSED|RIGHTWARDS HAND",
   "1faf2 |LEFTWARDS HAND|PALM DOWN HAND|PALM UP HAND|INDEX POINTING AT THE VIEWER|HEART HANDS",
   "1fb00 BLOCK SEXTANT-|1|2|12|3|13|23|123|4|14|24|124|34|134|234|1234",
   "1fb0f BLOCK SEXTANT-|5|15|25|125|35|235|1235|45|145|245|1245|345|1345|2345|12345|6|16|26|126",
   "1fb22 BLOCK SEXTANT-|36|136|236|1236|46|146|1246|346|1346|2346|12346|56",
   "1fb2e BLOCK SEXTANT-|156|256|1256|356|1356|2356|12356|456|1456|2456|12456|3456|13456|23456",
   "1fb3c LOWER LEFT BLOCK DIAGONAL LOWER MIDDLE LEFT TO LOWER |CENTRE|RIGHT",
   "1fb3e LOWER LEFT BLOCK DIAGONAL UPPER MIDDLE LEFT TO LOWER |CENTRE|RIGHT",
   "1fb40 |LOWER LEFT BLOCK DIAGONAL UPPER LEFT TO LOWER CENTRE",
   "1fb41 LOWER RIGHT BLOCK DIAGONAL UPPER MIDDLE LEFT TO UPPER |CENTRE|RIGHT",
   "1fb43 LOWER RIGHT BLOCK DIAGONAL LOWER MIDDLE LEFT TO UPPER |CENTRE|RIGHT",
   "1fb45 LOWER RIGHT BLOCK DIAGONAL LOWER |LEFT TO UPPER CENTRE|MIDDLE LEFT TO UPPER MIDDLE RIGHT",
   "1fb47 |LOWER RIGHT BLOCK DIAGONAL LOWER CENTRE TO LOWER MIDDLE RIGHT",
   "1fb48 |LOWER RIGHT BLOCK DIAGONAL LOWER LEFT TO LOWER MIDDLE RIGHT",
   "1fb49 |LOWER RIGHT BLOCK DIAGONAL LOWER CENTRE TO UPPER MIDDLE RIGHT",
   "1fb4a LOWER RIGHT BLOCK DIAGONAL LOWER |LEFT TO UPPER MIDDLE RIGHT|CENTRE TO UPPER RIGHT",
   "1fb4c LOWER LEFT BLOCK DIAGONAL UPPER |CENTRE TO UPPER MIDDLE RIGHT|LEFT TO UPPER MIDDLE RIGHT",
   "1fb4e LOWER LEFT BLOCK DIAGONAL UPPER |CENTRE TO LOWER MIDDLE RIGHT|LEFT TO LOWER MIDDLE RIGHT",
   "1fb50 LOWER LEFT BLOCK DIAGONAL UPPER |CENTRE TO LOWER RIGHT|MIDDLE LEFT TO LOWER MIDDLE RIGHT",
   "1fb52 UPPER RIGHT BLOCK DIAGONAL LOWER MIDDLE LEFT TO LOWER |CENTRE|RIGHT",
   "1fb54 UPPER RIGHT BLOCK DIAGONAL UPPER MIDDLE LEFT TO LOWER |CENTRE|RIGHT",
   "1fb56 |UPPER RIGHT BLOCK DIAGONAL UPPER LEFT TO LOWER CENTRE",
   "1fb57 UPPER LEFT BLOCK DIAGONAL UPPER MIDDLE LEFT TO UPPER |CENTRE|RIGHT",
   "1fb59 UPPER LEFT BLOCK DIAGONAL LOWER MIDDLE LEFT TO UPPER |CENTRE|RIGHT",
   "1fb5b UPPER LEFT BLOCK DIAGONAL LOWER |LEFT TO UPPER CENTRE|MIDDLE LEFT TO UPPER MIDDLE RIGHT",
   "1fb5d |UPPER LEFT BLOCK DIAGONAL LOWER CENTRE TO LOWER MIDDLE RIGHT",
   "1fb5e UPPER LEFT BLOCK DIAGONAL LOWER |LEFT TO LOWER MIDDLE RIGHT|CENTRE TO UPPER MIDDLE RIGHT",
   "1fb60 UPPER LEFT BLOCK DIAGONAL LOWER |LEFT TO UPPER MIDDLE RIGHT|CENTRE TO UPPER RIGHT",
   "1fb62 |UPPER RIGHT BLOCK DIAGONAL UPPER CENTRE TO UPPER MIDDLE RIGHT",
   "1fb63 |UPPER RIGHT BLOCK DIAGONAL UPPER LEFT TO UPPER MIDDLE RIGHT",
   "1fb64 |UPPER RIGHT BLOCK DIAGONAL UPPER CENTRE TO LOWER MIDDLE RIGHT",
   "1fb65 UPPER RIGHT BLOCK DIAGONAL UPPER |LEFT TO LOWER MIDDLE RIGHT|CENTRE TO LOWER RIGHT",
   "1fb67 |UPPER RIGHT BLOCK DIAGONAL UPPER MIDDLE LEFT TO LOWER MIDDLE RIGHT",
   "1fb68 |UPPER AND RIGHT AND LOWER TRIANGULAR THREE QUARTERS BLOCK",
   "1fb69 |LEFT AND LOWER AND RIGHT TRIANGULAR THREE QUARTERS BLOCK",
   "1fb6a |UPPER AND LEFT AND LOWER TRIANGULAR THREE QUARTERS BLOCK",
   "1fb6b LEFT |AND UPPER AND RIGHT TRIANGULAR THREE QUARTERS BLOCK|TRIANGULAR ONE QUARTER BLOCK",
   "1fb6d |UPPER TRIANGULAR ONE QUARTER BLOCK",
   "1fb6e |RIGHT TRIANGULAR ONE QUARTER BLOCK|LOWER TRIANGULAR ONE QUARTER BLOCK",
   "1fb70 VERTICAL ONE EIGHTH BLOCK-|2|3|4|5|6|7",
   "1fb76 HORIZONTAL ONE EIGHTH BLOCK-|2|3|4|5|6|7",
   "1fb7c LEFT AND |LOWER ONE EIGHTH BLOCK|UPPER ONE EIGHTH BLOCK",
   "1fb7e RIGHT AND |UPPER ONE EIGHTH BLOCK|LOWER ONE EIGHTH BLOCK",
   "1fb80 |UPPER AND LOWER ONE EIGHTH BLOCK|HORIZONTAL ONE EIGHTH BLOCK-1358",
   "1fb82 UPPER |ONE QUARTER BLOCK|THREE EIGHTHS BLOCK|FIVE EIGHTHS BLOCK|THREE QUARTERS BLOCK",
   "1fb86 |UPPER SEVEN EIGHTHS BLOCK|RIGHT ONE QUARTER BLOCK",
   "1fb88 RIGHT |THREE EIGHTHS BLOCK|FIVE EIGHTHS BLOCK|THREE QUARTERS BLOCK|SEVEN EIGHTHS BLOCK",
   "1fb8c |LEFT HALF MEDIUM SHADE|RIGHT HALF MEDIUM SHADE",
   "1fb8e |UPPER HALF MEDIUM SHADE|LOWER HALF MEDIUM SHADE",
   "1fb90 |INVERSE MEDIUM SHADE|UPPER HALF BLOCK AND LOWER HALF INVERSE MEDIUM SHADE",
   "1fb92 |UPPER HALF INVERSE MEDIUM SHADE AND LOWER HALF BLOCK",
   "1fb94 |LEFT HALF INVERSE MEDIUM SHADE AND RIGHT HALF BLOCK|CHECKER BOARD FILL",
   "1fb96 |INVERSE CHECKER BOARD FILL|HEAVY HORIZONTAL FILL",
   "1fb98 UPPER |LEFT TO LOWER RIGHT FILL|RIGHT TO LOWER LEFT FILL|AND LOWER TRIANGULAR HALF BLOCK",
   "1fb9b |LEFT AND RIGHT TRIANGULAR HALF BLOCK",
   "1fb9c UPPER |LEFT TRIANGULAR MEDIUM SHADE|RIGHT TRIANGULAR MEDIUM SHADE",
   "1fb9e LOWER |RIGHT TRIANGULAR MEDIUM SHADE|LEFT TRIANGULAR MEDIUM SHADE",
   "1fba0 BOX DRAWINGS LIGHT DIAGONAL UPPER CENTRE TO MIDDLE |LEFT|RIGHT",
   "1fba2 BOX DRAWINGS LIGHT DIAGONAL MIDDLE |LEFT TO LOWER CENTRE|RIGHT TO LOWER CENTRE",
   "1fba4 |BOX DRAWINGS LIGHT DIAGONAL UPPER CENTRE TO MIDDLE LEFT TO LOWER CENTRE",
   "1fba5 |BOX DRAWINGS LIGHT DIAGONAL UPPER CENTRE TO MIDDLE RIGHT TO LOWER CENTRE",
   "1fba6 |BOX DRAWINGS LIGHT DIAGONAL MIDDLE LEFT TO LOWER CENTRE TO MIDDLE RIGHT",
   "1fba7 |BOX DRAWINGS LIGHT DIAGONAL MIDDLE LEFT TO UPPER CENTRE TO MIDDLE RIGHT",
   "1fba8 |BOX DRAWINGS LIGHT DIAGONAL UPPER CENTRE TO MIDDLE LEFT AND MIDDLE RIGHT TO LOWER CENTRE",
   "1fba9 |BOX DRAWINGS LIGHT DIAGONAL UPPER CENTRE TO MIDDLE RIGHT AND MIDDLE LEFT TO LOWER CENTRE",
   "1fbaa |BOX DRAWINGS LIGHT DIAGONAL UPPER CENTRE TO MIDDLE RIGHT TO LOWER CENTRE TO MIDDLE LEFT",
   "1fbab |BOX DRAWINGS LIGHT DIAGONAL UPPER CENTRE TO MIDDLE LEFT TO LOWER CENTRE TO MIDDLE RIGHT",
   "1fbac |BOX DRAWINGS LIGHT DIAGONAL MIDDLE LEFT TO UPPER CENTRE TO MIDDLE RIGHT TO LOWER CENTRE",
   "1fbad |BOX DRAWINGS LIGHT DIAGONAL MIDDLE RIGHT TO UPPER CENTRE TO MIDDLE LEFT TO LOWER CENTRE",
   "1fbae BOX DRAWINGS LIGHT |DIAGONAL DIAMOND|HORIZONTAL WITH VERTICAL STROKE",
   "1fbb0 |ARROWHEAD-SHAPED POINTER|INVERSE CHECK MARK|LEFT HALF RUNNING MAN",
   "1fbb3 |RIGHT HALF RUNNING MAN|INVERSE DOWNWARDS ARROW WITH TIP LEFTWARDS",
   "1fbb5 |LEFTWARDS ARROW AND UPPER AND LOWER ONE EIGHTH BLOCK",
   "1fbb6 |RIGHTWARDS ARROW AND UPPER AND LOWER ONE EIGHTH BLOCK",
   "1fbb7 |DOWNWARDS ARROW AND RIGHT ONE EIGHTH BLOCK|UPWARDS ARROW AND RIGHT ONE EIGHTH BLOCK",
   "1fbb9 |LEFT HALF FOLDER|RIGHT HALF FOLDER|VOIDED GREEK CROSS|RIGHT OPEN SQUARED DOT",
   "1fbbd NEGATIVE DIAGONAL |CROSS|MIDDLE RIGHT TO LOWER CENTRE|DIAMOND",
   "1fbc0 |WHITE HEAVY SALTIRE WITH ROUNDED CORNERS",
   "1fbc1 |LEFT THIRD WHITE RIGHT POINTING INDEX|MIDDLE THIRD WHITE RIGHT POINTING INDEX",
   "1fbc3 |RIGHT THIRD WHITE RIGHT POINTING INDEX|NEGATIVE SQUARED QUESTION MARK|STICK FIGURE",
   "1fbc6 STICK FIGURE |WITH ARMS RAISED|LEANING LEFT|LEANING RIGHT|WITH DRESS",
   "1fbca |WHITE UP-POINTING CHEVRON",
   "1fbf0 SEGMENTED DIGIT |ZERO|ONE|TWO|THREE|FOUR|FIVE|SIX|SEVEN|EIGHT|NINE",
   "e0001 |LANGUAGE TAG",
   "e0020 TAG |SPACE|EXCLAMATION MARK|QUOTATION MARK|NUMBER SIGN|DOLLAR SIGN|PERCENT SIGN",
   "e0026 TAG |AMPERSAND|APOSTROPHE|LEFT PARENTHESIS|RIGHT PARENTHESIS|ASTERISK|PLUS SIGN",
   "e002c TAG |COMMA|HYPHEN-MINUS|FULL STOP|SOLIDUS|DIGIT ZERO|DIGIT ONE|DIGIT TWO|DIGIT THREE",
   "e0034 TAG |DIGIT FOUR|DIGIT FIVE|DIGIT SIX|DIGIT SEVEN|DIGIT EIGHT|DIGIT NINE|COLON",
   "e003b TAG |SEMICOLON|LESS-THAN SIGN|EQUALS SIGN|GREATER-THAN SIGN|QUESTION MARK|COMMERCIAL AT",
   "e0041 TAG LATIN CAPITAL LETTER |A|B|C|D|E|F|G|H|I|J|K|L|M|N|O|P|Q|R|S|T|U|V|W|X|Y|Z",
   "e005b TAG |LEFT SQUARE BRACKET|REVERSE SOLIDUS|RIGHT SQUARE BRACKET|CIRCUMFLEX ACCENT",
   "e005f TAG |LOW LINE|GRAVE ACCENT",
   "e0061 TAG LATIN SMALL LETTER |A|B|C|D|E|F|G|H|I|J|K|L|M|N|O|P|Q|R|S|T|U|V|W|X|Y|Z",
   "e007b |TAG LEFT CURLY BRACKET|TAG VERTICAL LINE|TAG RIGHT CURLY BRACKET|TAG TILDE|CANCEL TAG",
   "e0100 VARIATION SELECTOR-|17|18|19|20|21|22|23|24|25|26|27|28|29|30|31|32|33|34|35|36|37|38",
   "e0116 VARIATION SELECTOR-|39|40|41|42|43|44|45|46|47|48|49|50|51|52|53|54|55|56|57|58|59|60",
   "e012c VARIATION SELECTOR-|61|62|63|64|65|66|67|68|69|70|71|72|73|74|75|76|77|78|79|80|81|82",
   "e0142 VARIATION SELECTOR-|83|84|85|86|87|88|89|90|91|92|93|94|95|96|97|98|99|100|101|102|103",
   "e0157 VARIATION SELECTOR-|104|105|106|107|108|109|110|111|112|113|114|115|116|117|118|119|120",
   "e0168 VARIATION SELECTOR-|121|122|123|124|125|126|127|128|129|130|131|132|133|134|135|136|137",
   "e0179 VARIATION SELECTOR-|138|139|140|141|142|143|144|145|146|147|148|149|150|151|152|153|154",
   "e018a VARIATION SELECTOR-|155|156|157|158|159|160|161|162|163|164|165|166|167|168|169|170|171",
   "e019b VARIATION SELECTOR-|172|173|174|175|176|177|178|179|180|181|182|183|184|185|186|187|188",
   "e01ac VARIATION SELECTOR-|189|190|191|192|193|194|195|196|197|198|199|200|201|202|203|204|205",
   "e01bd VARIATION SELECTOR-|206|207|208|209|210|211|212|213|214|215|216|217|218|219|220|221|222",
   "e01ce VARIATION SELECTOR-|223|224|225|226|227|228|229|230|231|232|233|234|235|236|237|238|239",
   "e01df VARIATION SELECTOR-|240|241|242|243|244|245|246|247|248|249|250|251|252|253|254|255|256"]

end NextWord.Text.CharName
