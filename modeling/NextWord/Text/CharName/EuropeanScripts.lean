/-!
# Names of Latin, Greek, Cyrillic and Armenian letters and of common punctuation

Blocks of names of Unicode 14 in the order of their code points; the module on lookup says how a
block is written.
-/

namespace NextWord.Text.CharName

def europeanScripts : List String :=
  ["20 |SPACE",
   "21 |EXCLAMATION MARK|QUOTATION MARK|NUMBER SIGN|DOLLAR SIGN|PERCENT SIGN|AMPERSAND|APOSTROPHE",
   "28 |LEFT PARENTHESIS|RIGHT PARENTHESIS|ASTERISK|PLUS SIGN|COMMA|HYPHEN-MINUS|FULL STOP|SOLIDUS",
   "30 DIGIT |ZERO|ONE|TWO|THREE|FOUR|FIVE|SIX|SEVEN|EIGHT|NINE",
   "3a |COLON|SEMICOLON|LESS-THAN SIGN|EQUALS SIGN|GREATER-THAN SIGN|QUESTION MARK|COMMERCIAL AT",
   "41 LATIN CAPITAL LETTER |A|B|C|D|E|F|G|H|I|J|K|L|M|N|O|P|Q|R|S|T|U|V|W|X|Y|Z",
   "5b |LEFT SQUARE BRACKET",
   "5c |REVERSE SOLIDUS|RIGHT SQUARE BRACKET|CIRCUMFLEX ACCENT|LOW LINE|GRAVE ACCENT",
   "61 LATIN SMALL LETTER |A|B|C|D|E|F|G|H|I|J|K|L|M|N|O|P|Q|R|S|T|U|V|W|X|Y|Z",
   "7b |LEFT CURLY BRACKET|VERTICAL LINE|RIGHT CURLY BRACKET|TILDE",
   "a0 |NO-BREAK SPACE|INVERTED EXCLAMATION MARK|CENT SIGN|POUND SIGN|CURRENCY SIGN",
   "a5 |YEN SIGN|BROKEN BAR|SECTION SIGN|DIAERESIS|COPYRIGHT SIGN|FEMININE ORDINAL INDICATOR",
   "ab |LEFT-POINTING DOUBLE ANGLE QUOTATION MARK|NOT SIGN|SOFT HYPHEN|REGISTERED SIGN",
   "af |MACRON|DEGREE SIGN|PLUS-MINUS SIGN|SUPERSCRIPT TWO|SUPERSCRIPT THREE|ACUTE ACCENT",
   "b5 |MICRO SIGN|PILCROW SIGN|MIDDLE DOT|CEDILLA|SUPERSCRIPT ONE|MASCULINE ORDINAL INDICATOR",
   "bb |RIGHT-POINTING DOUBLE ANGLE QUOTATION MARK|VULGAR FRACTION ONE QUARTER",
   "bd |VULGAR FRACTION ONE HALF|VULGAR FRACTION THREE QUARTERS|INVERTED QUESTION MARK",
   "c0 LATIN CAPITAL LETTER A WITH |GRAVE|ACUTE|CIRCUMFLEX|TILDE|DIAERESIS|RING ABOVE",
   "c6 LATIN CAPITAL LETTER |AE|C WITH CEDILLA|E WITH GRAVE",
   "c9 LATIN CAPITAL LETTER |E WITH ACUTE|E WITH CIRCUMFLEX|E WITH DIAERESIS|I WITH GRAVE",
   "cd LATIN CAPITAL LETTER |I WITH ACUTE|I WITH CIRCUMFLEX|I WITH DIAERESIS|ETH|N WITH TILDE",
   "d2 LATIN CAPITAL LETTER O WITH |GRAVE|ACUTE|CIRCUMFLEX|TILDE|DIAERESIS",
   "d7 |MULTIPLICATION SIGN|LATIN CAPITAL LETTER O WITH STROKE|LATIN CAPITAL LETTER U WITH GRAVE",
   "da LATIN CAPITAL LETTER |U WITH ACUTE|U WITH CIRCUMFLEX|U WITH DIAERESIS|Y WITH ACUTE|THORN",
   "df LATIN SMALL LETTER |SHARP S|A WITH GRAVE|A WITH ACUTE|A WITH CIRCUMFLEX|A WITH TILDE",
   "e4 LATIN SMALL LETTER |A WITH DIAERESIS|A WITH RING ABOVE|AE|C WITH CEDILLA|E WITH GRAVE",
   "e9 LATIN SMALL LETTER |E WITH ACUTE|E WITH CIRCUMFLEX|E WITH DIAERESIS|I WITH GRAVE",
   "ed LATIN SMALL LETTER |I WITH ACUTE|I WITH CIRCUMFLEX|I WITH DIAERESIS|ETH|N WITH TILDE",
   "f2 LATIN SMALL LETTER O WITH |GRAVE|ACUTE|CIRCUMFLEX|TILDE|DIAERESIS",
   "f7 |DIVISION SIGN|LATIN SMALL LETTER O WITH STROKE|LATIN SMALL LETTER U WITH GRAVE",
   "fa LATIN SMALL LETTER |U WITH ACUTE|U WITH CIRCUMFLEX|U WITH DIAERESIS|Y WITH ACUTE|THORN",
   "ff LATIN |SMALL LETTER Y WITH DIAERESIS|CAPITAL LETTER A WITH MACRON",
   "101 LATIN |SMALL LETTER A WITH MACRON|CAPITAL LETTER A WITH BREVE|SMALL LETTER A WITH BREVE",
   "104 LATIN |CAPITAL LETTER A WITH OGONEK|SMALL LETTER A WITH OGONEK|CAPITAL LETTER C WITH ACUTE",
   "107 LATIN |SMALL LETTER C WITH ACUTE|CAPITAL LETTER C WITH CIRCUMFLEX",
   "109 LATIN |SMALL LETTER C WITH CIRCUMFLEX|CAPITAL LETTER C WITH DOT ABOVE",
   "10b LATIN |SMALL LETTER C WITH DOT ABOVE|CAPITAL LETTER C WITH CARON|SMALL LETTER C WITH CARON",
   "10e LATIN |CAPITAL LETTER D WITH CARON|SMALL LETTER D WITH CARON|CAPITAL LETTER D WITH STROKE",
   "111 LATIN |SMALL LETTER D WITH STROKE|CAPITAL LETTER E WITH MACRON",
   "113 LATIN |SMALL LETTER E WITH MACRON|CAPITAL LETTER E WITH BREVE|SMALL LETTER E WITH BREVE",
   "116 LATIN |CAPITAL LETTER E WITH DOT ABOVE|SMALL LETTER E WITH DOT ABOVE",
   "118 LATIN |CAPITAL LETTER E WITH OGONEK|SMALL LETTER E WITH OGONEK|CAPITAL LETTER E WITH CARON",
   "11b LATIN |SMALL LETTER E WITH CARON|CAPITAL LETTER G WITH CIRCUMFLEX",
   "11d LATIN |SMALL LETTER G WITH CIRCUMFLEX|CAPITAL LETTER G WITH BREVE",
   "11f LATIN |SMALL LETTER G WITH BREVE|CAPITAL LETTER G WITH DOT ABOVE",
   "121 LATIN |SMALL LETTER G WITH DOT ABOVE|CAPITAL LETTER G WITH CEDILLA",
   "123 LATIN |SMALL LETTER G WITH CEDILLA|CAPITAL LETTER H WITH CIRCUMFLEX",
   "125 LATIN |SMALL LETTER H WITH CIRCUMFLEX|CAPITAL LETTER H WITH STROKE",
   "127 LATIN |SMALL LETTER H WITH STROKE|CAPITAL LETTER I WITH TILDE|SMALL LETTER I WITH TILDE",
   "12a LATIN |CAPITAL LETTER I WITH MACRON|SMALL LETTER I WITH MACRON|CAPITAL LETTER I WITH BREVE",
   "12d LATIN |SMALL LETTER I WITH BREVE|CAPITAL LETTER I WITH OGONEK|SMALL LETTER I WITH OGONEK",
   "130 LATIN |CAPITAL LETTER I WITH DOT ABOVE|SMALL LETTER DOTLESS I|CAPITAL LIGATURE IJ",
   "133 LATIN |SMALL LIGATURE IJ|CAPITAL LETTER J WITH CIRCUMFLEX|SMALL LETTER J WITH CIRCUMFLEX",
   "136 LATIN |CAPITAL LETTER K WITH CEDILLA|SMALL LETTER K WITH CEDILLA|SMALL LETTER KRA",
   "139 LATIN |CAPITAL LETTER L WITH ACUTE|SMALL LETTER L WITH ACUTE|CAPITAL LETTER L WITH CEDILLA",
   "13c LATIN |SMALL LETTER L WITH CEDILLA|CAPITAL LETTER L WITH CARON|SMALL LETTER L WITH CARON",
   "13f LATIN |CAPITAL LETTER L WITH MIDDLE DOT|SMALL LETTER L WITH MIDDLE DOT",
   "141 LATIN |CAPITAL LETTER L WITH STROKE|SMALL LETTER L WITH STROKE",
   "143 LATIN |CAPITAL LETTER N WITH ACUTE|SMALL LETTER N WITH ACUTE|CAPITAL LETTER N WITH CEDILLA",
   "146 LATIN |SMALL LETTER N WITH CEDILLA|CAPITAL LETTER N WITH CARON|SMALL LETTER N WITH CARON",
   "149 LATIN |SMALL LETTER N PRECEDED BY APOSTROPHE|CAPITAL LETTER ENG|SMALL LETTER ENG",
   "14c LATIN |CAPITAL LETTER O WITH MACRON|SMALL LETTER O WITH MACRON|CAPITAL LETTER O WITH BREVE",
   "14f LATIN |SMALL LETTER O WITH BREVE|CAPITAL LETTER O WITH DOUBLE ACUTE",
   "151 LATIN |SMALL LETTER O WITH DOUBLE ACUTE|CAPITAL LIGATURE OE|SMALL LIGATURE OE",
   "154 LATIN |CAPITAL LETTER R WITH ACUTE|SMALL LETTER R WITH ACUTE|CAPITAL LETTER R WITH CEDILLA",
   "157 LATIN |SMALL LETTER R WITH CEDILLA|CAPITAL LETTER R WITH CARON|SMALL LETTER R WITH CARON",
   "15a LATIN |CAPITAL LETTER S WITH ACUTE|SMALL LETTER S WITH ACUTE",
   "15c LATIN |CAPITAL LETTER S WITH CIRCUMFLEX|SMALL LETTER S WITH CIRCUMFLEX",
   "15e LATIN |CAPITAL LETTER S WITH CEDILLA|SMALL LETTER S WITH CEDILLA",
   "160 LATIN |CAPITAL LETTER S WITH CARON|SMALL LETTER S WITH CARON|CAPITAL LETTER T WITH CEDILLA",
   "163 LATIN |SMALL LETTER T WITH CEDILLA|CAPITAL LETTER T WITH CARON|SMALL LETTER T WITH CARON",
   "166 LATIN |CAPITAL LETTER T WITH STROKE|SMALL LETTER T WITH STROKE|CAPITAL LETTER U WITH TILDE",
   "169 LATIN |SMALL LETTER U WITH TILDE|CAPITAL LETTER U WITH MACRON",
   "16b LATIN |SMALL LETTER U WITH MACRON|CAPITAL LETTER U WITH BREVE|SMALL LETTER U WITH BREVE",
   "16e LATIN |CAPITAL LETTER U WITH RING ABOVE|SMALL LETTER U WITH RING ABOVE",
   "170 LATIN |CAPITAL LETTER U WITH DOUBLE ACUTE|SMALL LETTER U WITH DOUBLE ACUTE",
   "172 LATIN |CAPITAL LETTER U WITH OGONEK|SMALL LETTER U WITH OGONEK",
   "174 LATIN |CAPITAL LETTER W WITH CIRCUMFLEX|SMALL LETTER W WITH CIRCUMFLEX",
   "176 LATIN |CAPITAL LETTER Y WITH CIRCUMFLEX|SMALL LETTER Y WITH CIRCUMFLEX",
   "178 LATIN CAPITAL LETTER |Y WITH DIAERESIS|Z WITH ACUTE",
   "17a LATIN |SMALL LETTER Z WITH ACUTE|CAPITAL LETTER Z WITH DOT ABOVE",
   "17c LATIN |SMALL LETTER Z WITH DOT ABOVE|CAPITAL LETTER Z WITH CARON|SMALL LETTER Z WITH CARON",
   "17f LATIN |SMALL LETTER LONG S|SMALL LETTER B WITH STROKE|CAPITAL LETTER B WITH HOOK",
   "182 LATIN |CAPITAL LETTER B WITH TOPBAR|SMALL LETTER B WITH TOPBAR|CAPITAL LETTER TONE SIX",
   "185 LATIN |SMALL LETTER TONE SIX|CAPITAL LETTER OPEN O|CAPITAL LETTER C WITH HOOK",
   "188 LATIN |SMALL LETTER C WITH HOOK|CAPITAL LETTER AFRICAN D|CAPITAL LETTER D WITH HOOK",
   "18b LATIN |CAPITAL LETTER D WITH TOPBAR|SMALL LETTER D WITH TOPBAR|SMALL LETTER TURNED DELTA",
   "18e LATIN CAPITAL LETTER |REVERSED E|SCHWA|OPEN E|F WITH HOOK",
   "192 |LATIN SMALL LETTER F WITH HOOK",
   "193 LATIN |CAPITAL LETTER G WITH HOOK|CAPITAL LETTER GAMMA|SMALL LETTER HV",
   "196 LATIN CAPITAL LETTER |IOTA|I WITH STROKE|K WITH HOOK",
   "199 LATIN SMALL LETTER |K WITH HOOK|L WITH BAR|LAMBDA WITH STROKE",
   "19c LATIN CAPITAL LETTER |TURNED M|N WITH LEFT HOOK",
   "19e LATIN |SMALL LETTER N WITH LONG RIGHT LEG|CAPITAL LETTER O WITH MIDDLE TILDE",
   "1a0 LATIN |CAPITAL LETTER O WITH HORN|SMALL LETTER O WITH HORN",
   "1a2 LATIN |CAPITAL LETTER OI|SMALL LETTER OI|CAPITAL LETTER P WITH HOOK",
   "1a5 LATIN |SMALL LETTER P WITH HOOK|LETTER YR|CAPITAL LETTER TONE TWO|SMALL LETTER TONE TWO",
   "1a9 LATIN |CAPITAL LETTER ESH|LETTER REVERSED ESH LOOP|SMALL LETTER T WITH PALATAL HOOK",
   "1ac LATIN |CAPITAL LETTER T WITH HOOK|SMALL LETTER T WITH HOOK",
   "1ae LATIN CAPITAL LETTER |T WITH RETROFLEX HOOK|U WITH HORN",
   "1b0 |LATIN SMALL LETTER U WITH HORN",
   "1b1 LATIN CAPITAL LETTER |UPSILON|V WITH HOOK|Y WITH HOOK",
   "1b4 LATIN |SMALL LETTER Y WITH HOOK|CAPITAL LETTER Z WITH STROKE|SMALL LETTER Z WITH STROKE",
   "1b7 LATIN |CAPITAL LETTER EZH|CAPITAL LETTER EZH REVERSED|SMALL LETTER EZH REVERSED",
   "1ba LATIN |SMALL LETTER EZH WITH TAIL|LETTER TWO WITH STROKE|CAPITAL LETTER TONE FIVE",
   "1bd LATIN |SMALL LETTER TONE FIVE|LETTER INVERTED GLOTTAL STOP WITH STROKE",
   "1bf LATIN LETTER |WYNN|DENTAL CLICK|LATERAL CLICK|ALVEOLAR CLICK|RETROFLEX CLICK",
   "1c4 LATIN CAPITAL LETTER |DZ WITH CARON|D WITH SMALL LETTER Z WITH CARON",
   "1c6 LATIN |SMALL LETTER DZ WITH CARON|CAPITAL LETTER LJ|CAPITAL LETTER L WITH SMALL LETTER J",
   "1c9 LATIN |SMALL LETTER LJ|CAPITAL LETTER NJ|CAPITAL LETTER N WITH SMALL LETTER J",
   "1cc LATIN |SMALL LETTER NJ|CAPITAL LETTER A WITH CARON|SMALL LETTER A WITH CARON",
   "1cf LATIN |CAPITAL LETTER I WITH CARON|SMALL LETTER I WITH CARON|CAPITAL LETTER O WITH CARON",
   "1d2 LATIN |SMALL LETTER O WITH CARON|CAPITAL LETTER U WITH CARON|SMALL LETTER U WITH CARON",
   "1d5 LATIN |CAPITAL LETTER U WITH DIAERESIS AND MACRON|SMALL LETTER U WITH DIAERESIS AND MACRON",
   "1d7 LATIN |CAPITAL LETTER U WITH DIAERESIS AND ACUTE|SMALL LETTER U WITH DIAERESIS AND ACUTE",
   "1d9 LATIN |CAPITAL LETTER U WITH DIAERESIS AND CARON|SMALL LETTER U WITH DIAERESIS AND CARON",
   "1db LATIN |CAPITAL LETTER U WITH DIAERESIS AND GRAVE|SMALL LETTER U WITH DIAERESIS AND GRAVE",
   "1dd LATIN |SMALL LETTER TURNED E|CAPITAL LETTER A WITH DIAERESIS AND MACRON",
   "1df LATIN |SMALL LETTER A WITH DIAERESIS AND MACRON|CAPITAL LETTER A WITH DOT ABOVE AND MACRON",
   "1e1 LATIN |SMALL LETTER A WITH DOT ABOVE AND MACRON|CAPITAL LETTER AE WITH MACRON",
   "1e3 LATIN |SMALL LETTER AE WITH MACRON|CAPITAL LETTER G WITH STROKE|SMALL LETTER G WITH STROKE",
   "1e6 LATIN |CAPITAL LETTER G WITH CARON|SMALL LETTER G WITH CARON|CAPITAL LETTER K WITH CARON",
   "1e9 LATIN |SMALL LETTER K WITH CARON|CAPITAL LETTER O WITH OGONEK|SMALL LETTER O WITH OGONEK",
   "1ec LATIN |CAPITAL LETTER O WITH OGONEK AND MACRON|SMALL LETTER O WITH OGONEK AND MACRON",
   "1ee LATIN |CAPITAL LETTER EZH WITH CARON|SMALL LETTER EZH WITH CARON|SMALL LETTER J WITH CARON",
   "1f1 LATIN |CAPITAL LETTER DZ|CAPITAL LETTER D WITH SMALL LETTER Z|SMALL LETTER DZ",
   "1f4 LATIN |CAPITAL LETTER G WITH ACUTE|SMALL LETTER G WITH ACUTE|CAPITAL LETTER HWAIR",
   "1f7 LATIN |CAPITAL LETTER WYNN|CAPITAL LETTER N WITH GRAVE|SMALL LETTER N WITH GRAVE",
   "1fa LATIN |CAPITAL LETTER A WITH RING ABOVE AND ACUTE|SMALL LETTER A WITH RING ABOVE AND ACUTE",
   "1fc LATIN |CAPITAL LETTER AE WITH ACUTE|SMALL LETTER AE WITH ACUTE",
   "1fe LATIN |CAPITAL LETTER O WITH STROKE AND ACUTE|SMALL LETTER O WITH STROKE AND ACUTE",
   "200 LATIN |CAPITAL LETTER A WITH DOUBLE GRAVE|SMALL LETTER A WITH DOUBLE GRAVE",
   "202 LATIN |CAPITAL LETTER A WITH INVERTED BREVE|SMALL LETTER A WITH INVERTED BREVE",
   "204 LATIN |CAPITAL LETTER E WITH DOUBLE GRAVE|SMALL LETTER E WITH DOUBLE GRAVE",
   "206 LATIN |CAPITAL LETTER E WITH INVERTED BREVE|SMALL LETTER E WITH INVERTED BREVE",
   "208 LATIN |CAPITAL LETTER I WITH DOUBLE GRAVE|SMALL LETTER I WITH DOUBLE GRAVE",
   "20a LATIN |CAPITAL LETTER I WITH INVERTED BREVE|SMALL LETTER I WITH INVERTED BREVE",
   "20c LATIN |CAPITAL LETTER O WITH DOUBLE GRAVE|SMALL LETTER O WITH DOUBLE GRAVE",
   "20e LATIN |CAPITAL LETTER O WITH INVERTED BREVE|SMALL LETTER O WITH INVERTED BREVE",
   "210 LATIN |CAPITAL LETTER R WITH DOUBLE GRAVE|SMALL LETTER R WITH DOUBLE GRAVE",
   "212 LATIN |CAPITAL LETTER R WITH INVERTED BREVE|SMALL LETTER R WITH INVERTED BREVE",
   "214 LATIN |CAPITAL LETTER U WITH DOUBLE GRAVE|SMALL LETTER U WITH DOUBLE GRAVE",
   "216 LATIN |CAPITAL LETTER U WITH INVERTED BREVE|SMALL LETTER U WITH INVERTED BREVE",
   "218 LATIN |CAPITAL LETTER S WITH COMMA BELOW|SMALL LETTER S WITH COMMA BELOW",
   "21a LATIN |CAPITAL LETTER T WITH COMMA BELOW|SMALL LETTER T WITH COMMA BELOW",
   "21c LATIN |CAPITAL LETTER YOGH|SMALL LETTER YOGH|CAPITAL LETTER H WITH CARON",
   "21f LATIN |SMALL LETTER H WITH CARON|CAPITAL LETTER N WITH LONG RIGHT LEG",
   "221 LATIN |SMALL LETTER D WITH CURL|CAPITAL LETTER OU|SMALL LETTER OU",
   "224 LATIN |CAPITAL LETTER Z WITH HOOK|SMALL LETTER Z WITH HOOK|CAPITAL LETTER A WITH DOT ABOVE",
   "227 LATIN |SMALL LETTER A WITH DOT ABOVE|CAPITAL LETTER E WITH CEDILLA",
   "229 LATIN |SMALL LETTER E WITH CEDILLA|CAPITAL LETTER O WITH DIAERESIS AND MACRON",
   "22b LATIN |SMALL LETTER O WITH DIAERESIS AND MACRON|CAPITAL LETTER O WITH TILDE AND MACRON",
   "22d LATIN |SMALL LETTER O WITH TILDE AND MACRON|CAPITAL LETTER O WITH DOT ABOVE",
   "22f LATIN |SMALL LETTER O WITH DOT ABOVE|CAPITAL LETTER O WITH DOT ABOVE AND MACRON",
   "231 LATIN |SMALL LETTER O WITH DOT ABOVE AND MACRON|CAPITAL LETTER Y WITH MACRON",
   "233 LATIN SMALL LETTER |Y WITH MACRON|L WITH CURL|N WITH CURL|T WITH CURL|DOTLESS J|DB DIGRAPH",
   "239 LATIN |SMALL LETTER QP DIGRAPH|CAPITAL LETTER A WITH STROKE",
   "23b LATIN |CAPITAL LETTER C WITH STROKE|SMALL LETTER C WITH STROKE",
   "23d LATIN CAPITAL LETTER |L WITH BAR|T WITH DIAGONAL STROKE",
   "23f LATIN SMALL LETTER |S WITH SWASH TAIL|Z WITH SWASH TAIL",
   "241 LATIN |CAPITAL LETTER GLOTTAL STOP|SMALL LETTER GLOTTAL STOP",
   "243 LATIN CAPITAL LETTER |B WITH STROKE|U BAR|TURNED V|E WITH STROKE",
   "247 LATIN |SMALL LETTER E WITH STROKE|CAPITAL LETTER J WITH STROKE",
   "249 LATIN |SMALL LETTER J WITH STROKE|CAPITAL LETTER SMALL Q WITH HOOK TAIL",
   "24b LATIN |SMALL LETTER Q WITH HOOK TAIL|CAPITAL LETTER R WITH STROKE",
   "24d LATIN |SMALL LETTER R WITH STROKE|CAPITAL LETTER Y WITH STROKE|SMALL LETTER Y WITH STROKE",
   "250 LATIN SMALL LETTER |TURNED A|ALPHA|TURNED ALPHA|B WITH HOOK|OPEN O|C WITH CURL|D WITH TAIL",
   "257 LATIN SMALL LETTER |D WITH HOOK|REVERSED E|SCHWA|SCHWA WITH HOOK|OPEN E|REVERSED OPEN E",
   "25d LATIN SMALL LETTER |REVERSED OPEN E WITH HOOK|CLOSED REVERSED OPEN E|DOTLESS J WITH STROKE",
   "260 LATIN |SMALL LETTER G WITH HOOK|SMALL LETTER SCRIPT G|LETTER SMALL CAPITAL G",
   "263 LATIN SMALL LETTER |GAMMA|RAMS HORN|TURNED H|H WITH HOOK|HENG WITH HOOK|I WITH STROKE|IOTA",
   "26a LATIN |LETTER SMALL CAPITAL I|SMALL LETTER L WITH MIDDLE TILDE",
   "26c LATIN SMALL LETTER |L WITH BELT|L WITH RETROFLEX HOOK|LEZH|TURNED M|TURNED M WITH LONG LEG",
   "271 LATIN SMALL LETTER |M WITH HOOK|N WITH LEFT HOOK|N WITH RETROFLEX HOOK",
   "274 LATIN |LETTER SMALL CAPITAL N|SMALL LETTER BARRED O|LETTER SMALL CAPITAL OE",
   "277 LATIN SMALL LETTER |CLOSED OMEGA|PHI|TURNED R|TURNED R WITH LONG LEG|TURNED R WITH HOOK",
   "27c LATIN SMALL LETTER |R WITH LONG LEG|R WITH TAIL|R WITH FISHHOOK|REVERSED R WITH FISHHOOK",
   "280 LATIN |LETTER SMALL CAPITAL R|LETTER SMALL CAPITAL INVERTED R|SMALL LETTER S WITH HOOK",
   "283 LATIN SMALL LETTER |ESH|DOTLESS J WITH STROKE AND HOOK|SQUAT REVERSED ESH|ESH WITH CURL",
   "287 LATIN SMALL LETTER |TURNED T|T WITH RETROFLEX HOOK|U BAR|UPSILON|V WITH HOOK|TURNED V",
   "28d LATIN |SMALL LETTER TURNED W|SMALL LETTER TURNED Y|LETTER SMALL CAPITAL Y",
   "290 LATIN SMALL LETTER |Z WITH RETROFLEX HOOK|Z WITH CURL|EZH|EZH WITH CURL",
   "294 LATIN LETTER |GLOTTAL STOP|PHARYNGEAL VOICED FRICATIVE|INVERTED GLOTTAL STOP|STRETCHED C",
   "298 LATIN |LETTER BILABIAL CLICK|LETTER SMALL CAPITAL B|SMALL LETTER CLOSED OPEN E",
   "29b LATIN LETTER SMALL CAPITAL |G WITH HOOK|H",
   "29d LATIN SMALL LETTER |J WITH CROSSED-TAIL|TURNED K",
   "29f LATIN |LETTER SMALL CAPITAL L|SMALL LETTER Q WITH HOOK",
   "2a1 LATIN LETTER |GLOTTAL STOP WITH STROKE|REVERSED GLOTTAL STOP WITH STROKE",
   "2a3 LATIN SMALL LETTER |DZ DIGRAPH|DEZH DIGRAPH|DZ DIGRAPH WITH CURL|TS DIGRAPH",
   "2a7 LATIN SMALL LETTER |TESH DIGRAPH|TC DIGRAPH WITH CURL|FENG DIGRAPH|LS DIGRAPH|LZ DIGRAPH",
   "2ac LATIN LETTER |BILABIAL PERCUSSIVE|BIDENTAL PERCUSSIVE",
   "2ae LATIN SMALL LETTER TURNED H WITH |FISHHOOK|FISHHOOK AND TAIL",
   "2b0 MODIFIER LETTER SMALL |H|H WITH HOOK|J|R|TURNED R|TURNED R WITH HOOK|CAPITAL INVERTED R|W",
   "2b8 MODIFIER LETTER |SMALL Y|PRIME|DOUBLE PRIME|TURNED COMMA|APOSTROPHE|REVERSED COMMA",
   "2be MODIFIER LETTER |RIGHT HALF RING|LEFT HALF RING|GLOTTAL STOP|REVERSED GLOTTAL STOP",
   "2c2 MODIFIER LETTER |LEFT ARROWHEAD|RIGHT ARROWHEAD|UP ARROWHEAD|DOWN ARROWHEAD",
   "2c6 |MODIFIER LETTER CIRCUMFLEX ACCENT|CARON",
   "2c8 MODIFIER LETTER |VERTICAL LINE|MACRON|ACUTE ACCENT|GRAVE ACCENT",
   "2cc MODIFIER LETTER LOW |VERTICAL LINE|MACRON|GRAVE ACCENT|ACUTE ACCENT",
   "2d0 MODIFIER LETTER |TRIANGULAR COLON|HALF TRIANGULAR COLON|CENTRED RIGHT HALF RING",
   "2d3 MODIFIER LETTER |CENTRED LEFT HALF RING|UP TACK|DOWN TACK|PLUS SIGN|MINUS SIGN",
   "2d8 |BREVE|DOT ABOVE|RING ABOVE|OGONEK|SMALL TILDE|DOUBLE ACUTE ACCENT",
   "2de MODIFIER LETTER |RHOTIC HOOK|CROSS ACCENT|SMALL GAMMA|SMALL L|SMALL S|SMALL X",
   "2e4 MODIFIER LETTER |SMALL REVERSED GLOTTAL STOP|EXTRA-HIGH TONE BAR|HIGH TONE BAR",
   "2e7 MODIFIER LETTER |MID TONE BAR|LOW TONE BAR|EXTRA-LOW TONE BAR|YIN DEPARTING TONE MARK",
   "2eb MODIFIER LETTER |YANG DEPARTING TONE MARK|VOICING|UNASPIRATED|DOUBLE APOSTROPHE",
   "2ef MODIFIER LETTER LOW |DOWN ARROWHEAD|UP ARROWHEAD|LEFT ARROWHEAD|RIGHT ARROWHEAD|RING",
   "2f4 MODIFIER LETTER MIDDLE |GRAVE ACCENT|DOUBLE GRAVE ACCENT|DOUBLE ACUTE ACCENT",
   "2f7 MODIFIER LETTER |LOW TILDE|RAISED COLON|BEGIN HIGH TONE",
   "2fa MODIFIER LETTER |END HIGH TONE|BEGIN LOW TONE|END LOW TONE|SHELF|OPEN SHELF|LOW LEFT ARROW",
   "300 COMBINING |GRAVE ACCENT|ACUTE ACCENT|CIRCUMFLEX ACCENT|TILDE|MACRON",
   "305 COMBINING |OVERLINE|BREVE|DOT ABOVE|DIAERESIS|HOOK ABOVE|RING ABOVE|DOUBLE ACUTE ACCENT",
   "30c COMBINING |CARON|VERTICAL LINE ABOVE|DOUBLE VERTICAL LINE ABOVE|DOUBLE GRAVE ACCENT",
   "310 COMBINING |CANDRABINDU|INVERTED BREVE|TURNED COMMA ABOVE|COMMA ABOVE|REVERSED COMMA ABOVE",
   "315 COMBINING |COMMA ABOVE RIGHT|GRAVE ACCENT BELOW|ACUTE ACCENT BELOW|LEFT TACK BELOW",
   "319 COMBINING |RIGHT TACK BELOW|LEFT ANGLE ABOVE|HORN|LEFT HALF RING BELOW|UP TACK BELOW",
   "31e COMBINING |DOWN TACK BELOW|PLUS SIGN BELOW|MINUS SIGN BELOW|PALATALIZED HOOK BELOW",
   "322 COMBINING |RETROFLEX HOOK BELOW|DOT BELOW|DIAERESIS BELOW|RING BELOW|COMMA BELOW|CEDILLA",
   "328 COMBINING |OGONEK|VERTICAL LINE BELOW|BRIDGE BELOW|INVERTED DOUBLE ARCH BELOW|CARON BELOW",
   "32d COMBINING |CIRCUMFLEX ACCENT BELOW|BREVE BELOW|INVERTED BREVE BELOW|TILDE BELOW",
   "331 COMBINING |MACRON BELOW|LOW LINE|DOUBLE LOW LINE|TILDE OVERLAY|SHORT STROKE OVERLAY",
   "336 COMBINING |LONG STROKE OVERLAY|SHORT SOLIDUS OVERLAY|LONG SOLIDUS OVERLAY",
   "339 COMBINING |RIGHT HALF RING BELOW|INVERTED BRIDGE BELOW|SQUARE BELOW|SEAGULL BELOW|X ABOVE",
   "33e COMBINING |VERTICAL TILDE|DOUBLE OVERLINE|GRAVE TONE MARK|ACUTE TONE MARK",
   "342 COMBINING GREEK |PERISPOMENI|KORONIS|DIALYTIKA TONOS|YPOGEGRAMMENI",
   "346 COMBINING |BRIDGE ABOVE|EQUALS SIGN BELOW|DOUBLE VERTICAL LINE BELOW|LEFT ANGLE BELOW",
   "34a COMBINING |NOT TILDE ABOVE|HOMOTHETIC ABOVE|ALMOST EQUAL TO ABOVE|LEFT RIGHT ARROW BELOW",
   "34e COMBINING |UPWARDS ARROW BELOW|GRAPHEME JOINER|RIGHT ARROWHEAD ABOVE",
   "351 COMBINING |LEFT HALF RING ABOVE|FERMATA|X BELOW|LEFT ARROWHEAD BELOW|RIGHT ARROWHEAD BELOW",
   "356 COMBINING |RIGHT ARROWHEAD AND UP ARROWHEAD BELOW|RIGHT HALF RING ABOVE|DOT ABOVE RIGHT",
   "359 COMBINING |ASTERISK BELOW|DOUBLE RING BELOW|ZIGZAG ABOVE|DOUBLE BREVE BELOW",
   "35d COMBINING DOUBLE |BREVE|MACRON|MACRON BELOW|TILDE|INVERTED BREVE|RIGHTWARDS ARROW BELOW",
   "363 COMBINING LATIN SMALL LETTER |A|E|I|O|U|C|D|H|M|R|T|V|X",
   "370 GREEK |CAPITAL LETTER HETA|SMALL LETTER HETA|CAPITAL LETTER ARCHAIC SAMPI",
   "373 GREEK |SMALL LETTER ARCHAIC SAMPI|NUMERAL SIGN|LOWER NUMERAL SIGN",
   "376 GREEK |CAPITAL LETTER PAMPHYLIAN DIGAMMA|SMALL LETTER PAMPHYLIAN DIGAMMA",
   "37a GREEK |YPOGEGRAMMENI|SMALL REVERSED LUNATE SIGMA SYMBOL|SMALL DOTTED LUNATE SIGMA SYMBOL",
   "37d GREEK |SMALL REVERSED DOTTED LUNATE SIGMA SYMBOL|QUESTION MARK|CAPITAL LETTER YOT",
   "384 GREEK |TONOS|DIALYTIKA TONOS|CAPITAL LETTER ALPHA WITH TONOS|ANO TELEIA",
   "388 GREEK CAPITAL LETTER |EPSILON WITH TONOS|ETA WITH TONOS|IOTA WITH TONOS",
   "38c |GREEK CAPITAL LETTER OMICRON WITH TONOS",
   "38e GREEK CAPITAL LETTER |UPSILON WITH TONOS|OMEGA WITH TONOS",
   "390 |GREEK SMALL LETTER IOTA WITH DIALYTIKA AND TONOS",
   "391 GREEK CAPITAL LETTER |ALPHA|BETA|GAMMA|DELTA",
   "395 GREEK CAPITAL LETTER |EPSILON|ZETA|ETA|THETA|IOTA|KAPPA|LAMDA|MU|NU|XI|OMICRON|PI|RHO",
   "3a3 GREEK CAPITAL LETTER |SIGMA|TAU",
   "3a5 GREEK CAPITAL LETTER |UPSILON|PHI|CHI|PSI|OMEGA|IOTA WITH DIALYTIKA|UPSILON WITH DIALYTIKA",
   "3ac GREEK SMALL LETTER |ALPHA WITH TONOS|EPSILON WITH TONOS|ETA WITH TONOS",
   "3af GREEK SMALL LETTER |IOTA WITH TONOS|UPSILON WITH DIALYTIKA AND TONOS|ALPHA|BETA|GAMMA",
   "3b4 GREEK SMALL LETTER |DELTA|EPSILON|ZETA|ETA|THETA|IOTA|KAPPA|LAMDA|MU|NU|XI|OMICRON|PI|RHO",
   "3c2 GREEK SMALL LETTER |FINAL SIGMA|SIGMA|TAU|UPSILON|PHI|CHI|PSI|OMEGA|IOTA WITH DIALYTIKA",
   "3cb GREEK SMALL LETTER |UPSILON WITH DIALYTIKA|OMICRON WITH TONOS|UPSILON WITH TONOS",
   "3ce GREEK |SMALL LETTER OMEGA WITH TONOS|CAPITAL KAI SYMBOL|BETA SYMBOL|THETA SYMBOL",
   "3d2 GREEK UPSILON WITH |HOOK SYMBOL|ACUTE AND HOOK SYMBOL|DIAERESIS AND HOOK SYMBOL",
   "3d5 GREEK |PHI SYMBOL|PI SYMBOL|KAI SYMBOL|LETTER ARCHAIC KOPPA|SMALL LETTER ARCHAIC KOPPA",
   "3da GREEK |LETTER STIGMA|SMALL LETTER STIGMA|LETTER DIGAMMA|SMALL LETTER DIGAMMA",
   "3de GREEK |LETTER KOPPA|SMALL LETTER KOPPA|LETTER SAMPI|SMALL LETTER SAMPI",
   "3e2 COPTIC |CAPITAL LETTER SHEI|SMALL LETTER SHEI|CAPITAL LETTER FEI",
   "3e5 COPTIC |SMALL LETTER FEI|CAPITAL LETTER KHEI|SMALL LETTER KHEI|CAPITAL LETTER HORI",
   "3e9 COPTIC |SMALL LETTER HORI|CAPITAL LETTER GANGIA|SMALL LETTER GANGIA|CAPITAL LETTER SHIMA",
   "3ed COPTIC |SMALL LETTER SHIMA|CAPITAL LETTER DEI|SMALL LETTER DEI",
   "3f0 GREEK |KAPPA SYMBOL|RHO SYMBOL|LUNATE SIGMA SYMBOL|LETTER YOT|CAPITAL THETA SYMBOL",
   "3f5 GREEK |LUNATE EPSILON SYMBOL|REVERSED LUNATE EPSILON SYMBOL",
   "3f7 GREEK |CAPITAL LETTER SHO|SMALL LETTER SHO|CAPITAL LUNATE SIGMA SYMBOL|CAPITAL LETTER SAN",
   "3fb GREEK |SMALL LETTER SAN|RHO WITH STROKE SYMBOL|CAPITAL REVERSED LUNATE SIGMA SYMBOL",
   "3fe GREEK CAPITAL |DOTTED LUNATE SIGMA SYMBOL|REVERSED DOTTED LUNATE SIGMA SYMBOL",
   "400 CYRILLIC CAPITAL LETTER |IE WITH GRAVE|IO",
   "402 CYRILLIC CAPITAL LETTER |DJE|GJE|UKRAINIAN IE|DZE|BYELORUSSIAN-UKRAINIAN I|YI|JE|LJE|NJE",
   "40b CYRILLIC CAPITAL LETTER |TSHE|KJE|I WITH GRAVE|SHORT U|DZHE",
   "410 CYRILLIC CAPITAL LETTER |A|BE|VE|GHE|DE|IE|ZHE|ZE|I|SHORT I|KA|EL|EM|EN|O|PE|ER",
   "421 CYRILLIC CAPITAL LETTER |ES|TE|U|EF|HA|TSE|CHE|SHA|SHCHA|HARD SIGN|YERU|SOFT SIGN|E|YU|YA",
   "430 CYRILLIC SMALL LETTER |A|BE|VE|GHE|DE|IE|ZHE|ZE|I|SHORT I|KA|EL|EM|EN|O|PE|ER|ES|TE|U",
   "444 CYRILLIC SMALL LETTER |EF|HA|TSE|CHE|SHA|SHCHA|HARD SIGN|YERU|SOFT SIGN|E|YU|YA",
   "450 CYRILLIC SMALL LETTER |IE WITH GRAVE|IO|DJE|GJE|UKRAINIAN IE|DZE|BYELORUSSIAN-UKRAINIAN I",
   "457 CYRILLIC SMALL LETTER |YI|JE|LJE|NJE|TSHE|KJE|I WITH GRAVE|SHORT U|DZHE",
   "460 CYRILLIC |CAPITAL LETTER OMEGA|SMALL LETTER OMEGA|CAPITAL LETTER YAT|SMALL LETTER YAT",
   "464 CYRILLIC |CAPITAL LETTER IOTIFIED E|SMALL LETTER IOTIFIED E|CAPITAL LETTER LITTLE YUS",
   "467 CYRILLIC |SMALL LETTER LITTLE YUS|CAPITAL LETTER IOTIFIED LITTLE YUS",
   "469 CYRILLIC |SMALL LETTER IOTIFIED LITTLE YUS|CAPITAL LETTER BIG YUS|SMALL LETTER BIG YUS",
   "46c CYRILLIC |CAPITAL LETTER IOTIFIED BIG YUS|SMALL LETTER IOTIFIED BIG YUS",
   "46e CYRILLIC |CAPITAL LETTER KSI|SMALL LETTER KSI|CAPITAL LETTER PSI",
   "471 CYRILLIC |SMALL LETTER PSI|CAPITAL LETTER FITA|SMALL LETTER FITA|CAPITAL LETTER IZHITSA",
   "475 CYRILLIC |SMALL LETTER IZHITSA|CAPITAL LETTER IZHITSA WITH DOUBLE GRAVE ACCENT",
   "477 CYRILLIC |SMALL LETTER IZHITSA WITH DOUBLE GRAVE ACCENT|CAPITAL LETTER UK|SMALL LETTER UK",
   "47a CYRILLIC |CAPITAL LETTER ROUND OMEGA|SMALL LETTER ROUND OMEGA",
   "47c CYRILLIC |CAPITAL LETTER OMEGA WITH TITLO|SMALL LETTER OMEGA WITH TITLO|CAPITAL LETTER OT",
   "47f CYRILLIC |SMALL LETTER OT|CAPITAL LETTER KOPPA|SMALL LETTER KOPPA|THOUSANDS SIGN",
   "483 COMBINING CYRILLIC |TITLO|PALATALIZATION|DASIA PNEUMATA",
   "486 COMBINING CYRILLIC |PSILI PNEUMATA|POKRYTIE|HUNDRED THOUSANDS SIGN|MILLIONS SIGN",
   "48a |CYRILLIC CAPITAL LETTER SHORT I WITH TAIL",
   "48b CYRILLIC |SMALL LETTER SHORT I WITH TAIL|CAPITAL LETTER SEMISOFT SIGN",
   "48d CYRILLIC |SMALL LETTER SEMISOFT SIGN|CAPITAL LETTER ER WITH TICK|SMALL LETTER ER WITH TICK",
   "490 CYRILLIC |CAPITAL LETTER GHE WITH UPTURN|SMALL LETTER GHE WITH UPTURN",
   "492 CYRILLIC |CAPITAL LETTER GHE WITH STROKE|SMALL LETTER GHE WITH STROKE",
   "494 CYRILLIC |CAPITAL LETTER GHE WITH MIDDLE HOOK|SMALL LETTER GHE WITH MIDDLE HOOK",
   "496 |CYRILLIC CAPITAL LETTER ZHE WITH DESCENDER",
   "497 CYRILLIC |SMALL LETTER ZHE WITH DESCENDER|CAPITAL LETTER ZE WITH DESCENDER",
   "499 CYRILLIC |SMALL LETTER ZE WITH DESCENDER|CAPITAL LETTER KA WITH DESCENDER",
   "49b CYRILLIC |SMALL LETTER KA WITH DESCENDER|CAPITAL LETTER KA WITH VERTICAL STROKE",
   "49d CYRILLIC |SMALL LETTER KA WITH VERTICAL STROKE|CAPITAL LETTER KA WITH STROKE",
   "49f CYRILLIC |SMALL LETTER KA WITH STROKE|CAPITAL LETTER BASHKIR KA|SMALL LETTER BASHKIR KA",
   "4a2 CYRILLIC |CAPITAL LETTER EN WITH DESCENDER|SMALL LETTER EN WITH DESCENDER",
   "4a4 CYRILLIC |CAPITAL LIGATURE EN GHE|SMALL LIGATURE EN GHE|CAPITAL LETTER PE WITH MIDDLE HOOK",
   "4a7 CYRILLIC |SMALL LETTER PE WITH MIDDLE HOOK|CAPITAL LETTER ABKHASIAN HA",
   "4a9 CYRILLIC |SMALL LETTER ABKHASIAN HA|CAPITAL LETTER ES WITH DESCENDER",
   "4ab CYRILLIC |SMALL LETTER ES WITH DESCENDER|CAPITAL LETTER TE WITH DESCENDER",
   "4ad CYRILLIC |SMALL LETTER TE WITH DESCENDER|CAPITAL LETTER STRAIGHT U",
   "4af CYRILLIC |SMALL LETTER STRAIGHT U|CAPITAL LETTER STRAIGHT U WITH STROKE",
   "4b1 CYRILLIC |SMALL LETTER STRAIGHT U WITH STROKE|CAPITAL LETTER HA WITH DESCENDER",
   "4b3 CYRILLIC |SMALL LETTER HA WITH DESCENDER|CAPITAL LIGATURE TE TSE|SMALL LIGATURE TE TSE",
   "4b6 CYRILLIC |CAPITAL LETTER CHE WITH DESCENDER|SMALL LETTER CHE WITH DESCENDER",
   "4b8 CYRILLIC |CAPITAL LETTER CHE WITH VERTICAL STROKE|SMALL LETTER CHE WITH VERTICAL STROKE",
   "4ba CYRILLIC |CAPITAL LETTER SHHA|SMALL LETTER SHHA|CAPITAL LETTER ABKHASIAN CHE",
   "4bd CYRILLIC |SMALL LETTER ABKHASIAN CHE|CAPITAL LETTER ABKHASIAN CHE WITH DESCENDER",
   "4bf CYRILLIC |SMALL LETTER ABKHASIAN CHE WITH DESCENDER|LETTER PALOCHKA",
   "4c1 CYRILLIC |CAPITAL LETTER ZHE WITH BREVE|SMALL LETTER ZHE WITH BREVE",
   "4c3 CYRILLIC |CAPITAL LETTER KA WITH HOOK|SMALL LETTER KA WITH HOOK",
   "4c5 CYRILLIC |CAPITAL LETTER EL WITH TAIL|SMALL LETTER EL WITH TAIL",
   "4c7 CYRILLIC |CAPITAL LETTER EN WITH HOOK|SMALL LETTER EN WITH HOOK",
   "4c9 CYRILLIC |CAPITAL LETTER EN WITH TAIL|SMALL LETTER EN WITH TAIL",
   "4cb CYRILLIC |CAPITAL LETTER KHAKASSIAN CHE|SMALL LETTER KHAKASSIAN CHE",
   "4cd |CYRILLIC CAPITAL LETTER EM WITH TAIL",
   "4ce CYRILLIC |SMALL LETTER EM WITH TAIL|SMALL LETTER PALOCHKA|CAPITAL LETTER A WITH BREVE",
   "4d1 CYRILLIC |SMALL LETTER A WITH BREVE|CAPITAL LETTER A WITH DIAERESIS",
   "4d3 CYRILLIC |SMALL LETTER A WITH DIAERESIS|CAPITAL LIGATURE A IE",
   "4d5 CYRILLIC |SMALL LIGATURE A IE|CAPITAL LETTER IE WITH BREVE|SMALL LETTER IE WITH BREVE",
   "4d8 CYRILLIC |CAPITAL LETTER SCHWA|SMALL LETTER SCHWA|CAPITAL LETTER SCHWA WITH DIAERESIS",
   "4db CYRILLIC |SMALL LETTER SCHWA WITH DIAERESIS|CAPITAL LETTER ZHE WITH DIAERESIS",
   "4dd CYRILLIC |SMALL LETTER ZHE WITH DIAERESIS|CAPITAL LETTER ZE WITH DIAERESIS",
   "4df CYRILLIC |SMALL LETTER ZE WITH DIAERESIS|CAPITAL LETTER ABKHASIAN DZE",
   "4e1 CYRILLIC |SMALL LETTER ABKHASIAN DZE|CAPITAL LETTER I WITH MACRON",
   "4e3 CYRILLIC |SMALL LETTER I WITH MACRON|CAPITAL LETTER I WITH DIAERESIS",
   "4e5 CYRILLIC |SMALL LETTER I WITH DIAERESIS|CAPITAL LETTER O WITH DIAERESIS",
   "4e7 CYRILLIC |SMALL LETTER O WITH DIAERESIS|CAPITAL LETTER BARRED O|SMALL LETTER BARRED O",
   "4ea CYRILLIC |CAPITAL LETTER BARRED O WITH DIAERESIS|SMALL LETTER BARRED O WITH DIAERESIS",
   "4ec CYRILLIC |CAPITAL LETTER E WITH DIAERESIS|SMALL LETTER E WITH DIAERESIS",
   "4ee CYRILLIC |CAPITAL LETTER U WITH MACRON|SMALL LETTER U WITH MACRON",
   "4f0 CYRILLIC |CAPITAL LETTER U WITH DIAERESIS|SMALL LETTER U WITH DIAERESIS",
   "4f2 CYRILLIC |CAPITAL LETTER U WITH DOUBLE ACUTE|SMALL LETTER U WITH DOUBLE ACUTE",
   "4f4 CYRILLIC |CAPITAL LETTER CHE WITH DIAERESIS|SMALL LETTER CHE WITH DIAERESIS",
   "4f6 CYRILLIC |CAPITAL LETTER GHE WITH DESCENDER|SMALL LETTER GHE WITH DESCENDER",
   "4f8 CYRILLIC |CAPITAL LETTER YERU WITH DIAERESIS|SMALL LETTER YERU WITH DIAERESIS",
   "4fa CYRILLIC |CAPITAL LETTER GHE WITH STROKE AND HOOK|SMALL LETTER GHE WITH STROKE AND HOOK",
   "4fc CYRILLIC |CAPITAL LETTER HA WITH HOOK|SMALL LETTER HA WITH HOOK",
   "4fe CYRILLIC |CAPITAL LETTER HA WITH STROKE|SMALL LETTER HA WITH STROKE|CAPITAL LETTER KOMI DE",
   "501 CYRILLIC |SMALL LETTER KOMI DE|CAPITAL LETTER KOMI DJE|SMALL LETTER KOMI DJE",
   "504 CYRILLIC |CAPITAL LETTER KOMI ZJE|SMALL LETTER KOMI ZJE|CAPITAL LETTER KOMI DZJE",
   "507 CYRILLIC |SMALL LETTER KOMI DZJE|CAPITAL LETTER KOMI LJE|SMALL LETTER KOMI LJE",
   "50a CYRILLIC |CAPITAL LETTER KOMI NJE|SMALL LETTER KOMI NJE|CAPITAL LETTER KOMI SJE",
   "50d CYRILLIC |SMALL LETTER KOMI SJE|CAPITAL LETTER KOMI TJE|SMALL LETTER KOMI TJE",
   "510 CYRILLIC |CAPITAL LETTER REVERSED ZE|SMALL LETTER REVERSED ZE|CAPITAL LETTER EL WITH HOOK",
   "513 CYRILLIC |SMALL LETTER EL WITH HOOK|CAPITAL LETTER LHA|SMALL LETTER LHA",
   "516 CYRILLIC |CAPITAL LETTER RHA|SMALL LETTER RHA|CAPITAL LETTER YAE|SMALL LETTER YAE",
   "51a CYRILLIC |CAPITAL LETTER QA|SMALL LETTER QA|CAPITAL LETTER WE|SMALL LETTER WE",
   "51e CYRILLIC |CAPITAL LETTER ALEUT KA|SMALL LETTER ALEUT KA|CAPITAL LETTER EL WITH MIDDLE HOOK",
   "521 CYRILLIC |SMALL LETTER EL WITH MIDDLE HOOK|CAPITAL LETTER EN WITH MIDDLE HOOK",
   "523 CYRILLIC |SMALL LETTER EN WITH MIDDLE HOOK|CAPITAL LETTER PE WITH DESCENDER",
   "525 CYRILLIC |SMALL LETTER PE WITH DESCENDER|CAPITAL LETTER SHHA WITH DESCENDER",
   "527 CYRILLIC |SMALL LETTER SHHA WITH DESCENDER|CAPITAL LETTER EN WITH LEFT HOOK",
   "529 |CYRILLIC SMALL LETTER EN WITH LEFT HOOK",
   "52a CYRILLIC |CAPITAL LETTER DZZHE|SMALL LETTER DZZHE|CAPITAL LETTER DCHE|SMALL LETTER DCHE",
   "52e CYRILLIC |CAPITAL LETTER EL WITH DESCENDER|SMALL LETTER EL WITH DESCENDER",
   "531 ARMENIAN CAPITAL LETTER |AYB|BEN|GIM|DA|ECH",
   "536 ARMENIAN CAPITAL LETTER |ZA|EH|ET|TO|ZHE|INI|LIWN|XEH|CA|KEN|HO|JA|GHAD|CHEH|MEN|YI|NOW",
   "547 ARMENIAN CAPITAL LETTER |SHA|VO|CHA|PEH|JHEH|RA|SEH|VEW|TIWN|REH|CO|YIWN|PIWR|KEH|OH|FEH",
   "559 |ARMENIAN MODIFIER LETTER LEFT HALF RING",
   "55a ARMENIAN |APOSTROPHE|EMPHASIS MARK|EXCLAMATION MARK|COMMA|QUESTION MARK|ABBREVIATION MARK",
   "560 ARMENIAN SMALL LETTER |TURNED AYB|AYB|BEN|GIM|DA|ECH|ZA",
   "567 ARMENIAN SMALL LETTER |EH|ET|TO|ZHE|INI|LIWN|XEH|CA|KEN|HO|JA|GHAD|CHEH|MEN|YI",
   "576 ARMENIAN SMALL LETTER |NOW|SHA|VO|CHA|PEH|JHEH|RA|SEH|VEW|TIWN|REH|CO|YIWN|PIWR|KEH|OH|FEH",
   "587 ARMENIAN |SMALL LIGATURE ECH YIWN|SMALL LETTER YI WITH STROKE|FULL STOP|HYPHEN",
   "58d |RIGHT-FACING ARMENIAN ETERNITY SIGN|LEFT-FACING ARMENIAN ETERNITY SIGN|ARMENIAN DRAM SIGN"]

end NextWord.Text.CharName
